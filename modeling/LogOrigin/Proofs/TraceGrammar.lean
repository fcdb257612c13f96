import LogOrigin.Proofs.TraceLine

/-!
# The grammar of trace lines

What a trace line is made of, said without how it is read (`TraceLine`). A text is read as a frame
if and only if it is such a line, and it is such a line in one way only; the frame is that of the
owner, the method and the source of the line, whatever its other parts are
(`StackFrame.ofTraceLine?_grammar`).
-/

namespace LogOrigin

open Text
open StackFrame (isModuleChar isVersionChar isOwnerChar isMethodChar isNameOf cutAtFirst cutAtLast)

/-! ## The grammar -/

/-- A module, with or without a version. -/
inductive ModuleName : List Char → Prop
  | plain {name : List Char} (hname : isNameOf isModuleChar name = true) : ModuleName name
  | versioned {name version : List Char} (hname : isNameOf isModuleChar name = true)
      (hversion : isNameOf isVersionChar version = true) : ModuleName (name ++ '@' :: version)

/-- What stands in front of an owner: nothing, a module, a class loader, or both. -/
inductive Qualifier : List Char → Prop
  | nothing : Qualifier []
  | ofModule {m : List Char} (hm : ModuleName m) : Qualifier (m ++ ['/'])
  | ofLoader {loader : List Char} (hloader : isNameOf isModuleChar loader = true) :
      Qualifier (loader ++ ['/', '/'])
  | ofLoaderAndModule {loader m : List Char} (hloader : isNameOf isModuleChar loader = true)
      (hm : ModuleName m) : Qualifier (loader ++ '/' :: (m ++ ['/']))

/-- The parts of a trace line. -/
@[ext]
structure TraceLine where
  indent : List Char
  gap : List Char
  qualifier : List Char
  owner : List Char
  method : List Char
  source : List Char
  rest : List Char
  isBlank_indent : ∀ c ∈ indent, isBlank c = true
  gap_ne_nil : gap ≠ []
  isBlank_gap : ∀ c ∈ gap, isBlank c = true
  isQualifier : Qualifier qualifier
  isOwner : isNameOf isOwnerChar owner = true
  isMethod : isNameOf isMethodChar method = true
  /-- The first closing parenthesis ends the source. -/
  not_mem_source : ')' ∉ source

namespace TraceLine

/-- What stands between the blanks behind `at` and the parenthesis. -/
def head (t : TraceLine) : List Char := t.qualifier ++ (t.owner ++ '.' :: t.method)

/-- The line from behind the blanks behind `at`. -/
def body (t : TraceLine) : List Char := t.head ++ '(' :: (t.source ++ ')' :: t.rest)

/-- The line. -/
def text (t : TraceLine) : String :=
  String.ofList (t.indent ++ 'a' :: 't' :: (t.gap ++ t.body))

end TraceLine

/-- A decimal numeral of a value below a bound, perhaps with a plus sign. -/
def Text.Numeral (bound : Nat) (cs : List Char) (n : Nat) : Prop :=
  ∃ digits, (cs = digits ∨ cs = '+' :: digits) ∧ digits ≠ [] ∧
    (∀ c ∈ digits, c.isDigit = true) ∧ n = Nat.ofDigitChars 10 digits 0 ∧ n < bound

/-- The file and the line that a source names. -/
inductive SourcePosition : List Char → Option String → Nat → Prop
  | unknown {source : List Char}
      (h : source = [] ∨ source = "Native Method".toList ∨ source = "Unknown Source".toList) :
      SourcePosition source none 0
  | file {source : List Char}
      (h : ¬ (source = [] ∨ source = "Native Method".toList ∨ source = "Unknown Source".toList))
      (hcolon : ':' ∉ source) : SourcePosition source (some (String.ofList source)) 0
  | line {file number : List Char} {n : Nat} (hcolon : ':' ∉ number)
      (hn : Numeral (Nat.pow 2 32) number n) :
      SourcePosition (file ++ ':' :: number) (some (String.ofList file)) n
  | noLine {file number : List Char} (hcolon : ':' ∉ number)
      (hn : ∀ n, ¬ Numeral (Nat.pow 2 32) number n) :
      SourcePosition (file ++ ':' :: number) (some (String.ofList file)) 0

/-! ## Numerals -/

namespace Text

theorem isDigit_of_digit? {c : Char} {d : Nat} (h : digit? c = some d) : c.isDigit = true := by
  rw [digit?] at h
  split at h
  next hc =>
    rw [Bool.and_eq_true, decide_eq_true_eq, decide_eq_true_eq] at hc
    rw [Char.isDigit, Bool.and_eq_true, decide_eq_true_eq, decide_eq_true_eq]
    exact hc
  next => cases h

/-- Only digits are read as a number. -/
theorem isDigit_of_digitsFrom {cs : List Char} {n m : Nat} (h : digitsFrom n cs = some m) :
    ∀ c ∈ cs, c.isDigit = true := by
  induction cs generalizing n with
  | nil => intro c hc; cases hc
  | cons c cs ih =>
    rw [digitsFrom, Option.bind_eq_some_iff] at h
    obtain ⟨d, hd, hrest⟩ := h
    intro c' hc'
    rcases List.mem_cons.mp hc' with rfl | hc'
    · exact isDigit_of_digit? hd
    · exact ih hrest c' hc'

theorem digitsFrom_eq_some_iff {cs : List Char} {n : Nat} :
    digitsFrom 0 cs = some n ↔
      (∀ c ∈ cs, c.isDigit = true) ∧ n = Nat.ofDigitChars 10 cs 0 := by
  constructor
  · intro h
    have hdigits := isDigit_of_digitsFrom h
    rw [digitsFrom_of_isDigit hdigits] at h
    exact ⟨hdigits, (Option.some.inj h).symm⟩
  · rintro ⟨hdigits, rfl⟩
    exact digitsFrom_of_isDigit hdigits 0

/-- Exactly the numerals are read, as their numbers. -/
theorem readUnsigned_eq_some_iff {bound : Nat} {cs : List Char} {n : Nat} :
    readUnsigned bound cs = some n ↔ Numeral bound cs n := by
  have hread : ∀ digits : List Char,
      (if digits.isEmpty then none else (digitsFrom 0 digits).filter (· < bound)) = some n ↔
        digits ≠ [] ∧ (∀ c ∈ digits, c.isDigit = true) ∧
          n = Nat.ofDigitChars 10 digits 0 ∧ n < bound := by
    intro digits
    cases digits with
    | nil => simp
    | cons c digits =>
      rw [if_neg (by simp), Option.filter_eq_some_iff, digitsFrom_eq_some_iff, decide_eq_true_eq,
        and_assoc]
      simp
  unfold readUnsigned
  split
  next digits =>
    dsimp only
    rw [hread]
    constructor
    · intro h
      exact ⟨digits, .inr rfl, h⟩
    · rintro ⟨digits', hcs | hcs, h⟩
      · have hplus := h.2.1 '+' (hcs ▸ List.mem_cons_self)
        cases hplus
      · cases hcs
        exact h
  next hplus =>
    dsimp only
    rw [hread]
    constructor
    · intro h
      exact ⟨cs, .inl rfl, h⟩
    · rintro ⟨digits, rfl | hcs, h⟩
      · exact h
      · exact absurd hcs (hplus digits)

end Text

namespace StackFrame

/-! ## Cutting -/

theorem cutAtFirst_of_not_mem {mark : Char} {cs : List Char} (h : mark ∉ cs) :
    cutAtFirst mark cs = none := by
  rw [cutAtFirst, dropWhile_ne_of_not_mem h]

theorem cutAtFirst_eq_some_iff {mark : Char} {cs before after : List Char} :
    cutAtFirst mark cs = some (before, after) ↔ mark ∉ before ∧ cs = before ++ mark :: after := by
  constructor
  · intro h
    by_cases hmem : mark ∈ cs
    · obtain ⟨before', after', rfl, hnot⟩ := List.eq_append_cons_of_mem hmem
      rw [cutAtFirst_append hnot] at h
      cases h
      exact ⟨hnot, rfl⟩
    · rw [cutAtFirst_of_not_mem hmem] at h
      cases h
  · rintro ⟨hnot, rfl⟩
    exact cutAtFirst_append hnot after

/-- A text with a mark in it is cut at the last one. -/
theorem exists_cutAtLast {mark : Char} {cs : List Char} (h : mark ∈ cs) :
    ∃ before after, cs = before ++ mark :: after ∧ mark ∉ after := by
  obtain ⟨after, before, hcs, hnot⟩ := List.eq_append_cons_of_mem (List.mem_reverse.mpr h)
  refine ⟨before.reverse, after.reverse, ?_, by rwa [List.mem_reverse]⟩
  rw [← List.reverse_reverse cs, hcs]
  simp

theorem cutAtLast_eq_some_iff {mark : Char} {cs before after : List Char} :
    cutAtLast mark cs = some (before, after) ↔ mark ∉ after ∧ cs = before ++ mark :: after := by
  constructor
  · intro h
    by_cases hmem : mark ∈ cs
    · obtain ⟨before', after', rfl, hnot⟩ := exists_cutAtLast hmem
      rw [cutAtLast_append _ hnot] at h
      cases h
      exact ⟨hnot, rfl⟩
    · rw [cutAtLast_of_not_mem hmem] at h
      cases h
  · rintro ⟨hnot, rfl⟩
    exact cutAtLast_append before hnot

/-! ## What stands in front of the owner -/

theorem isModule_iff {cs : List Char} : isModule cs = true ↔ ModuleName cs := by
  constructor
  · intro h
    rw [isModule] at h
    split at h
    next => exact .plain h
    next version hdrop =>
      rw [Bool.and_eq_true] at h
      have hcut : cutAtFirst '@' cs = some (cs.takeWhile (· != '@'), version) := by
        rw [cutAtFirst, hdrop]
      rw [(cutAtFirst_eq_some_iff.mp hcut).2]
      exact .versioned h.1 h.2
  · rintro (hname | ⟨hname, hversion⟩)
    · have hat : '@' ∉ cs := not_mem_of_isNameOf hname (by decide)
      rw [isModule, dropWhile_ne_of_not_mem hat]
      exact hname
    · rename_i name version
      have hat : '@' ∉ name := not_mem_of_isNameOf hname (by decide)
      rw [isModule, dropWhile_ne_append hat, takeWhile_ne_append hat]
      exact Bool.and_eq_true_iff.mpr ⟨hname, hversion⟩

/-- A module has no mark of a line in it. -/
theorem not_mem_of_moduleName {m : List Char} (h : ModuleName m) {mark : Char}
    (hmark : isModuleChar mark = false) (hversion : isVersionChar mark = false) (hat : mark ≠ '@') :
    mark ∉ m := by
  cases h with
  | plain hname => exact not_mem_of_isNameOf hname hmark
  | versioned hname hversion' =>
    rw [List.mem_append, List.mem_cons, not_or, not_or]
    exact ⟨not_mem_of_isNameOf hname hmark, hat, not_mem_of_isNameOf hversion' hversion⟩

/-- In front of a slash that ends a qualifier is the path of a class loader or a module. -/
theorem isLoaderPath_iff {cs : List Char} : isLoaderPath cs = true ↔ Qualifier (cs ++ ['/']) := by
  constructor
  · intro h
    rw [isLoaderPath] at h
    split at h
    next => exact .ofModule (isModule_iff.mp h)
    next m hdrop =>
      rw [Bool.and_eq_true] at h
      have hcut : cutAtFirst '/' cs = some (cs.takeWhile (· != '/'), m) := by
        rw [cutAtFirst, hdrop]
      rw [(cutAtFirst_eq_some_iff.mp hcut).2, List.append_assoc, List.cons_append]
      rcases Bool.or_eq_true_iff.mp h.2 with hnil | hm
      · rw [List.isEmpty_iff.mp hnil]
        exact .ofLoader h.1
      · exact .ofLoaderAndModule h.1 (isModule_iff.mp hm)
  · have hslash : ∀ {loader : List Char}, isNameOf isModuleChar loader = true → '/' ∉ loader :=
      fun hloader => not_mem_of_isNameOf hloader (by decide)
    have hpath : ∀ {loader m : List Char},
        cs ++ ['/'] = loader ++ '/' :: (m ++ ['/']) → cs = loader ++ '/' :: m := by
      intro loader m hq
      refine List.append_cancel_right (hq.trans ?_)
      rw [List.append_assoc]
      rfl
    intro h
    generalize hq : cs ++ ['/'] = q at h
    rw [isLoaderPath]
    cases h with
    | nothing => simp at hq
    | @ofModule m hm =>
      obtain rfl := List.append_cancel_right hq
      rw [dropWhile_ne_of_not_mem
        (not_mem_of_moduleName hm (by decide) (by decide) (by decide))]
      exact isModule_iff.mpr hm
    | @ofLoader loader hloader =>
      have hcs : cs = loader ++ '/' :: [] := hpath hq
      rw [hcs, dropWhile_ne_append (hslash hloader), takeWhile_ne_append (hslash hloader)]
      exact Bool.and_eq_true_iff.mpr ⟨hloader, rfl⟩
    | @ofLoaderAndModule loader m hloader hm =>
      have hcs : cs = loader ++ '/' :: m := hpath hq
      rw [hcs, dropWhile_ne_append (hslash hloader), takeWhile_ne_append (hslash hloader)]
      exact Bool.and_eq_true_iff.mpr
        ⟨hloader, Bool.or_eq_true_iff.mpr (.inr (isModule_iff.mpr hm))⟩

/-- A qualifier that is not empty ends in a slash. -/
theorem eq_nil_or_concat_of_qualifier {q : List Char} (h : Qualifier q) :
    q = [] ∨ ∃ path, q = path ++ ['/'] := by
  cases h with
  | nothing => exact .inl rfl
  | @ofModule m => exact .inr ⟨m, rfl⟩
  | @ofLoader loader => exact .inr ⟨loader ++ ['/'], by simp⟩
  | @ofLoaderAndModule loader m => exact .inr ⟨loader ++ '/' :: m, by simp⟩

/-- What stands behind the last slash is qualified by what stands before it. -/
theorem cutAtLast_qualifier {q qualified : List Char} (hq : Qualifier q) (h : '/' ∉ qualified) :
    cutAtLast '/' (q ++ qualified) = none ∧ q = [] ∨
      ∃ path, cutAtLast '/' (q ++ qualified) = some (path, qualified) ∧ q = path ++ ['/'] := by
  rcases eq_nil_or_concat_of_qualifier hq with rfl | ⟨path, rfl⟩
  · exact .inl ⟨cutAtLast_of_not_mem h, rfl⟩
  · refine .inr ⟨path, ?_, rfl⟩
    rw [List.append_assoc]
    exact cutAtLast_append path h

theorem not_mem_qualified {owner method : List Char} (howner : isNameOf isOwnerChar owner = true)
    (hmethod : isNameOf isMethodChar method = true) {mark : Char}
    (hmark : isOwnerChar mark = false) (hmark' : isMethodChar mark = false) (hdot : mark ≠ '.') :
    mark ∉ owner ++ '.' :: method := by
  rw [List.mem_append, List.mem_cons, not_or, not_or]
  exact ⟨not_mem_of_isNameOf howner hmark, hdot, not_mem_of_isNameOf hmethod hmark'⟩

/-- The owner and the method of a qualified name. -/
def namesOf (qualified : List Char) : Option (List Char × List Char) :=
  (cutAtLast '.' qualified).filter fun names =>
    isNameOf isOwnerChar names.1 && isNameOf isMethodChar names.2

theorem namesOf_eq_some_iff {qualified owner method : List Char} :
    namesOf qualified = some (owner, method) ↔
      isNameOf isOwnerChar owner = true ∧ isNameOf isMethodChar method = true ∧
        qualified = owner ++ '.' :: method := by
  rw [namesOf, Option.filter_eq_some_iff, cutAtLast_eq_some_iff, Bool.and_eq_true]
  constructor
  · rintro ⟨⟨-, hqualified⟩, howner, hmethod⟩
    exact ⟨howner, hmethod, hqualified⟩
  · rintro ⟨howner, hmethod, hqualified⟩
    exact ⟨⟨not_mem_of_isNameOf hmethod (by decide), hqualified⟩, howner, hmethod⟩

/-- With no slash in it, a head is a qualified name. -/
theorem ownerAndMethod_of_none {head : List Char} (h : cutAtLast '/' head = none) :
    ownerAndMethod head = namesOf head := by
  simp only [ownerAndMethod, h, namesOf, Option.bind_eq_bind, Option.bind_some]
  cases cutAtLast '.' head <;> simp [Option.filter]

/-- Behind the last slash of a head stands a qualified name. -/
theorem ownerAndMethod_of_some {head path qualified : List Char}
    (h : cutAtLast '/' head = some (path, qualified)) :
    ownerAndMethod head = if isLoaderPath path then namesOf qualified else none := by
  simp only [ownerAndMethod, h, namesOf]
  by_cases hpath : isLoaderPath path = true
  · simp only [hpath, if_true, Option.bind_eq_bind, Option.bind_some]
    cases cutAtLast '.' qualified <;> simp [Option.filter]
  · simp [hpath]

/-- The owner and the method are read where they stand behind a qualifier. -/
theorem ownerAndMethod_eq_some_iff {head owner method : List Char} :
    ownerAndMethod head = some (owner, method) ↔
      isNameOf isOwnerChar owner = true ∧ isNameOf isMethodChar method = true ∧
        ∃ q, Qualifier q ∧ head = q ++ (owner ++ '.' :: method) := by
  constructor
  · intro h
    cases hcut : cutAtLast '/' head with
    | none =>
      rw [ownerAndMethod_of_none hcut] at h
      obtain ⟨howner, hmethod, rfl⟩ := namesOf_eq_some_iff.mp h
      exact ⟨howner, hmethod, [], .nothing, rfl⟩
    | some parts =>
      obtain ⟨path, qualified⟩ := parts
      rw [ownerAndMethod_of_some hcut] at h
      split at h
      next hpath =>
        obtain ⟨howner, hmethod, rfl⟩ := namesOf_eq_some_iff.mp h
        refine ⟨howner, hmethod, path ++ ['/'], isLoaderPath_iff.mp hpath, ?_⟩
        rw [(cutAtLast_eq_some_iff.mp hcut).2, List.append_assoc]
        rfl
      next => cases h
  · rintro ⟨howner, hmethod, q, hq, rfl⟩
    have hslash : '/' ∉ owner ++ '.' :: method :=
      not_mem_qualified howner hmethod (by decide) (by decide) (by decide)
    have hnames := namesOf_eq_some_iff.mpr ⟨howner, hmethod, rfl⟩
    rcases cutAtLast_qualifier hq hslash with ⟨hcut, rfl⟩ | ⟨path, hcut, rfl⟩
    · rw [ownerAndMethod_of_none hcut]
      exact hnames
    · rw [ownerAndMethod_of_some hcut, if_pos (isLoaderPath_iff.mpr hq)]
      exact hnames

/-! ## Blanks -/

theorem isBlank_of_isModuleChar {c : Char} (h : isModuleChar c = true) : isBlank c = false := by
  rw [isModuleChar, Bool.or_eq_true, Bool.or_eq_true, Bool.or_eq_true] at h
  rcases h with ((hword | hdot) | hdollar) | hdash
  · exact isBlank_of_isWord hword
  · rw [beq_iff_eq.mp hdot]; decide
  · rw [beq_iff_eq.mp hdollar]; decide
  · rw [beq_iff_eq.mp hdash]; decide

/-- Blanks are trimmed up to what does not begin with one. -/
theorem trimStart_append {blanks rest : List Char} (h : ∀ c ∈ blanks, isBlank c = true)
    (hrest : ∀ c, rest.head? = some c → isBlank c = false) : trimStart (blanks ++ rest) = rest := by
  rw [trimStart, List.dropWhile_append_of_pos h]
  cases rest with
  | nil => rfl
  | cons c rest => rw [List.dropWhile_cons_of_neg (by simp [hrest c rfl])]

/-- What is trimmed is blank. -/
theorem exists_trimStart (cs : List Char) :
    ∃ blanks, (∀ c ∈ blanks, isBlank c = true) ∧ cs = blanks ++ trimStart cs :=
  ⟨cs.takeWhile isBlank, List.all_eq_true.mp List.all_takeWhile,
    List.takeWhile_append_dropWhile.symm⟩

/-- Behind `at` and blanks stands what is read on. -/
theorem afterAt_append {indent gap body : List Char} (hindent : ∀ c ∈ indent, isBlank c = true)
    (hne : gap ≠ []) (hgap : ∀ c ∈ gap, isBlank c = true)
    (hbody : ∀ c, body.head? = some c → isBlank c = false) :
    afterAt (indent ++ 'a' :: 't' :: (gap ++ body)) = some body := by
  have hat : ∀ c, ('a' :: 't' :: (gap ++ body)).head? = some c → isBlank c = false := by
    intro c hc
    cases hc
    decide
  obtain ⟨c, gap, rfl⟩ := List.exists_cons_of_ne_nil hne
  have hc := hgap c List.mem_cons_self
  have hrest : trimStart (gap ++ body) = body :=
    trimStart_append (fun c hc => hgap c (List.mem_cons_of_mem _ hc)) hbody
  rw [afterAt, trimStart_append hindent hat]
  simp only [List.cons_append, hc, if_true, hrest]

theorem eq_append_of_afterAt {line body : List Char} (h : afterAt line = some body) :
    ∃ indent gap, (∀ c ∈ indent, isBlank c = true) ∧ gap ≠ [] ∧ (∀ c ∈ gap, isBlank c = true) ∧
      line = indent ++ 'a' :: 't' :: (gap ++ body) := by
  obtain ⟨indent, hindent, hline⟩ := exists_trimStart line
  rw [afterAt] at h
  split at h
  next c rest hat =>
    split at h
    next hc =>
      obtain ⟨gap, hgap, hrest⟩ := exists_trimStart rest
      cases h
      refine ⟨indent, c :: gap, hindent, List.cons_ne_nil _ _, ?_, ?_⟩
      · intro c' hc'
        rcases List.mem_cons.mp hc' with rfl | hc'
        · exact hc
        · exact hgap c' hc'
      · rw [List.cons_append, ← hrest, ← hat, ← hline]
    next => cases h
  next => cases h

/-! ## Sources -/

theorem isUnknown_iff {source : List Char} :
    (source.isEmpty || source == "Native Method".toList || source == "Unknown Source".toList) =
      true ↔ source = [] ∨ source = "Native Method".toList ∨ source = "Unknown Source".toList := by
  rw [Bool.or_eq_true, Bool.or_eq_true, List.isEmpty_iff, beq_iff_eq, beq_iff_eq, or_assoc]

/-- A source with a colon in it is none of those that name nothing. -/
theorem not_unknown_append (file number : List Char) :
    ¬ (file ++ ':' :: number = [] ∨ file ++ ':' :: number = "Native Method".toList ∨
      file ++ ':' :: number = "Unknown Source".toList) := by
  have hmem : ':' ∈ file ++ ':' :: number := List.mem_append_right _ List.mem_cons_self
  rintro (h | h | h) <;> rw [h] at hmem <;> exact absurd hmem (by decide)

theorem sourcePosition_of_colon (file : List Char) {number : List Char} (h : ':' ∉ number) :
    sourcePosition (file ++ ':' :: number) =
      (some file, (readUnsigned (Nat.pow 2 32) number).getD 0) := by
  rw [sourcePosition, if_neg (fun hu => not_unknown_append file number (isUnknown_iff.mp hu)),
    cutAtLast_append file h]

/-- The file and the line that are read are those that the source names, and no other. -/
theorem sourcePosition_iff {source : List Char} {file : Option String} {line : Nat} :
    SourcePosition source file line ↔
      (sourcePosition source).1.map String.ofList = file ∧ (sourcePosition source).2 = line := by
  constructor
  · rintro (h | ⟨h, hcolon⟩ | ⟨hcolon, hn⟩ | ⟨hcolon, hn⟩)
    · rw [sourcePosition, if_pos (isUnknown_iff.mpr h)]
      exact ⟨rfl, rfl⟩
    · rw [sourcePosition, if_neg (fun hu => h (isUnknown_iff.mp hu)),
        cutAtLast_of_not_mem hcolon]
      exact ⟨rfl, rfl⟩
    · rw [sourcePosition_of_colon _ hcolon, readUnsigned_eq_some_iff.mpr hn]
      exact ⟨rfl, rfl⟩
    · rename_i number
      have hnone : readUnsigned (Nat.pow 2 32) number = none :=
        Option.eq_none_iff_forall_not_mem.mpr fun n h => hn n (readUnsigned_eq_some_iff.mp h)
      rw [sourcePosition_of_colon _ hcolon, hnone]
      exact ⟨rfl, rfl⟩
  · rintro ⟨rfl, rfl⟩
    by_cases hunknown :
        source = [] ∨ source = "Native Method".toList ∨ source = "Unknown Source".toList
    · rw [sourcePosition, if_pos (isUnknown_iff.mpr hunknown)]
      exact .unknown hunknown
    · by_cases hmem : ':' ∈ source
      · obtain ⟨file, number, rfl, hcolon⟩ := exists_cutAtLast hmem
        rw [sourcePosition_of_colon file hcolon]
        cases hread : readUnsigned (Nat.pow 2 32) number with
        | some n => exact .line hcolon (readUnsigned_eq_some_iff.mp hread)
        | none =>
          refine .noLine hcolon fun n hn => ?_
          rw [readUnsigned_eq_some_iff.mpr hn] at hread
          cases hread
      · rw [sourcePosition, if_neg (fun hu => hunknown (isUnknown_iff.mp hu)),
          cutAtLast_of_not_mem hmem]
        exact .file hunknown hmem

end StackFrame

/-! ## Lines -/

namespace TraceLine

open StackFrame

/-- A name begins with one of its characters. -/
theorem head?_name {isKind : Char → Bool} {cs : List Char} (h : isNameOf isKind cs = true)
    (hkind : ∀ c, isKind c = true → isBlank c = false) (rest : List Char) :
    ∀ c, (cs ++ rest).head? = some c → isBlank c = false := by
  rw [isNameOf, Bool.and_eq_true, List.all_eq_true] at h
  cases cs with
  | nil => cases h.1
  | cons c cs =>
    intro c' hc'
    cases hc'
    exact hkind c (h.2 c List.mem_cons_self)

theorem head?_moduleName {m : List Char} (h : ModuleName m) (rest : List Char) :
    ∀ c, (m ++ rest).head? = some c → isBlank c = false := by
  cases h with
  | plain hname => exact head?_name hname (fun _ => isBlank_of_isModuleChar) rest
  | versioned hname =>
    rw [List.append_assoc]
    exact head?_name hname (fun _ => isBlank_of_isModuleChar) _

/-- No blank stands where the head of a line begins. -/
theorem head?_body (t : TraceLine) : ∀ c, t.body.head? = some c → isBlank c = false := by
  have hq := t.isQualifier
  rw [body, head]
  generalize t.qualifier = q at hq ⊢
  cases hq with
  | nothing =>
    rw [List.nil_append, List.append_assoc]
    exact head?_name t.isOwner (fun _ => isBlank_of_isOwnerChar) _
  | ofModule hm =>
    rw [List.append_assoc, List.append_assoc]
    exact head?_moduleName hm _
  | ofLoader hloader =>
    rw [List.append_assoc, List.append_assoc]
    exact head?_name hloader (fun _ => isBlank_of_isModuleChar) _
  | ofLoaderAndModule hloader =>
    rw [List.append_assoc, List.append_assoc]
    exact head?_name hloader (fun _ => isBlank_of_isModuleChar) _

theorem not_mem_qualifier {q : List Char} (h : Qualifier q) : '(' ∉ q := by
  have hm : ∀ {m}, ModuleName m → '(' ∉ m :=
    fun hm => not_mem_of_moduleName hm (by decide) (by decide) (by decide)
  have hloader : ∀ {loader}, isNameOf isModuleChar loader = true → '(' ∉ loader :=
    fun hloader => not_mem_of_isNameOf hloader (by decide)
  cases h with
  | nothing => exact List.not_mem_nil
  | ofModule h => simpa using hm h
  | ofLoader h => simpa using hloader h
  | ofLoaderAndModule h h' => simpa using ⟨hloader h, hm h'⟩

theorem not_mem_head (t : TraceLine) : '(' ∉ t.head := by
  rw [head, List.mem_append, not_or]
  exact ⟨not_mem_qualifier t.isQualifier,
    not_mem_qualified t.isOwner t.isMethod (by decide) (by decide) (by decide)⟩

theorem toList_text (t : TraceLine) :
    t.text.toList = t.indent ++ 'a' :: 't' :: (t.gap ++ t.body) := String.toList_ofList

theorem afterAt_text (t : TraceLine) : afterAt t.text.toList = some t.body := by
  rw [toList_text]
  exact afterAt_append t.isBlank_indent t.gap_ne_nil t.isBlank_gap t.head?_body

theorem cutAtFirst_body (t : TraceLine) :
    cutAtFirst '(' t.body = some (t.head, t.source ++ ')' :: t.rest) :=
  cutAtFirst_append t.not_mem_head _

theorem cutAtFirst_source (t : TraceLine) :
    cutAtFirst ')' (t.source ++ ')' :: t.rest) = some (t.source, t.rest) :=
  cutAtFirst_append t.not_mem_source _

theorem ownerAndMethod_head (t : TraceLine) : ownerAndMethod t.head = some (t.owner, t.method) :=
  ownerAndMethod_eq_some_iff.mpr ⟨t.isOwner, t.isMethod, t.qualifier, t.isQualifier, rfl⟩

/-- The frame of a line. -/
def frame (t : TraceLine) : StackFrame :=
  ⟨String.ofList t.owner, String.ofList t.method, (sourcePosition t.source).1.map String.ofList,
    (sourcePosition t.source).2⟩

theorem ofTraceLine?_text (t : TraceLine) : ofTraceLine? t.text = some t.frame := by
  simp only [ofTraceLine?, t.afterAt_text, t.cutAtFirst_body, t.cutAtFirst_source,
    t.ownerAndMethod_head, Option.bind_eq_bind, Option.bind_some]
  rfl

/-- Two lines with the same text have the same parts. -/
theorem text_inj {t t' : TraceLine} (h : t.text = t'.text) : t = t' := by
  have hbody : t.body = t'.body := by
    rw [← Option.some.injEq, ← t.afterAt_text, ← t'.afterAt_text, h]
  have hcut := t.cutAtFirst_body.symm.trans (hbody ▸ t'.cutAtFirst_body)
  have hhead : t.head = t'.head := (Prod.mk.inj (Option.some.inj hcut)).1
  have hbehind := (Prod.mk.inj (Option.some.inj hcut)).2
  have hsource := t.cutAtFirst_source.symm.trans (hbehind ▸ t'.cutAtFirst_source)
  have hnames := t.ownerAndMethod_head.symm.trans (hhead ▸ t'.ownerAndMethod_head)
  obtain ⟨howner, hmethod⟩ := Prod.mk.inj (Option.some.inj hnames)
  have hqualifier : t.qualifier = t'.qualifier := by
    rw [head, head, howner, hmethod] at hhead
    exact List.append_cancel_right hhead
  have htext : t.indent ++ 'a' :: 't' :: (t.gap ++ t.body) =
      t'.indent ++ 'a' :: 't' :: (t'.gap ++ t'.body) := by
    rw [← toList_text, ← toList_text, h]
  have hat : ∀ cs : List Char, ∀ c, ('a' :: cs).head? = some c → isBlank c = false := by
    intro cs c hc
    cases hc
    decide
  have htrim := congrArg trimStart htext
  rw [trimStart_append t.isBlank_indent (hat _), trimStart_append t'.isBlank_indent (hat _),
    List.cons.injEq, List.cons.injEq, hbody] at htrim
  have hgap : t.gap = t'.gap := List.append_cancel_right htrim.2.2
  have hindent : t.indent = t'.indent := by
    rw [hgap, hbody] at htext
    exact List.append_cancel_right htext
  exact TraceLine.ext hindent hgap hqualifier howner hmethod
    (Prod.mk.inj (Option.some.inj hsource)).1 (Prod.mk.inj (Option.some.inj hsource)).2

/-- What is read as a frame is a line. -/
theorem exists_of_ofTraceLine? {line : String} {frame : StackFrame}
    (h : ofTraceLine? line = some frame) : ∃ t : TraceLine, t.text = line := by
  obtain ⟨body, hbody, h⟩ := Option.bind_eq_some_iff.mp h
  obtain ⟨⟨head, behind⟩, hhead, h⟩ := Option.bind_eq_some_iff.mp h
  obtain ⟨⟨source, rest⟩, hsource, h⟩ := Option.bind_eq_some_iff.mp h
  obtain ⟨⟨owner, method⟩, hnames, -⟩ := Option.bind_eq_some_iff.mp h
  obtain ⟨indent, gap, hindent, hne, hgap, hline⟩ := eq_append_of_afterAt hbody
  obtain ⟨howner, hmethod, q, hq, rfl⟩ := ownerAndMethod_eq_some_iff.mp hnames
  obtain ⟨-, rfl⟩ := cutAtFirst_eq_some_iff.mp hhead
  obtain ⟨hparen, rfl⟩ := cutAtFirst_eq_some_iff.mp hsource
  refine ⟨⟨indent, gap, q, owner, method, source, rest, hindent, hne, hgap, hq, howner, hmethod,
    hparen⟩, ?_⟩
  rw [← String.toList_inj, toList_text, hline]
  rfl

end TraceLine

/-- A text is read as a frame if and only if it is a trace line, and it is one in one way only. The
frame has the owner and the method of the line, and the file and the line number that the source
names. So lines with the same owner, method and source give the same frame, whatever stands in front
of the owner and behind the source. -/
theorem StackFrame.ofTraceLine?_grammar (line : String) :
    ((ofTraceLine? line).isSome = true ↔ ∃ t : TraceLine, t.text = line) ∧
    (∀ t t' : TraceLine, t.text = line → t'.text = line → t = t') ∧
    (∀ t : TraceLine, t.text = line → ∃ frame, ofTraceLine? line = some frame ∧
      frame.className.toList = t.owner ∧ frame.methodName.toList = t.method ∧
      ∀ file n, SourcePosition t.source file n ↔ frame.fileName = file ∧ frame.lineNumber = n) ∧
    ∀ t t' : TraceLine, t.text = line → t'.owner = t.owner → t'.method = t.method →
      t'.source = t.source → ofTraceLine? t'.text = ofTraceLine? line := by
  refine ⟨⟨fun h => ?_, ?_⟩, ?_, ?_, ?_⟩
  · obtain ⟨frame, hframe⟩ := Option.isSome_iff_exists.mp h
    exact TraceLine.exists_of_ofTraceLine? hframe
  · rintro ⟨t, rfl⟩
    rw [t.ofTraceLine?_text]
    rfl
  · rintro t t' rfl h
    exact (TraceLine.text_inj h).symm
  · rintro t rfl
    exact ⟨t.frame, t.ofTraceLine?_text, String.toList_ofList, String.toList_ofList,
      fun _ _ => sourcePosition_iff⟩
  · rintro t t' rfl howner hmethod hsource
    rw [t.ofTraceLine?_text, t'.ofTraceLine?_text, TraceLine.frame, TraceLine.frame, howner,
      hmethod, hsource]

end LogOrigin
