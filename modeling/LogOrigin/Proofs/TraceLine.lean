import LogOrigin.StackFrame.TraceLine

/-!
# Frames and the lines that show them

A frame that names its parts as frames do (`StackFrame.Shown`) is read back from its line exactly as
it was.
-/

namespace LogOrigin

namespace Text

/-! ## Cutting at a mark -/

/-- Nothing is left behind the mark where there is none. -/
theorem dropWhile_ne_of_not_mem {mark : Char} {cs : List Char} (h : mark ∉ cs) :
    cs.dropWhile (· != mark) = [] := by
  rw [← List.append_nil cs, List.dropWhile_append_of_pos]
  · rfl
  · intro c hc
    exact bne_iff_ne.mpr fun heq => h (heq ▸ hc)

/-- The first mark ends what does not have it. -/
theorem takeWhile_ne_append {mark : Char} {cs : List Char} (h : mark ∉ cs) (rest : List Char) :
    (cs ++ mark :: rest).takeWhile (· != mark) = cs := by
  rw [List.takeWhile_append_of_pos]
  · simp
  · intro c hc
    exact bne_iff_ne.mpr fun heq => h (heq ▸ hc)

theorem dropWhile_ne_append {mark : Char} {cs : List Char} (h : mark ∉ cs) (rest : List Char) :
    (cs ++ mark :: rest).dropWhile (· != mark) = mark :: rest := by
  rw [List.dropWhile_append_of_pos]
  · simp
  · intro c hc
    exact bne_iff_ne.mpr fun heq => h (heq ▸ hc)

end Text

namespace StackFrame

open Text

theorem cutAtFirst_append {mark : Char} {before : List Char} (h : mark ∉ before)
    (after : List Char) : cutAtFirst mark (before ++ mark :: after) = some (before, after) := by
  simp only [cutAtFirst, dropWhile_ne_append h, takeWhile_ne_append h]

theorem cutAtLast_append (before : List Char) {mark : Char} {after : List Char} (h : mark ∉ after) :
    cutAtLast mark (before ++ mark :: after) = some (before, after) := by
  have hrev : (before ++ mark :: after).reverse = after.reverse ++ mark :: before.reverse := by
    simp
  have hmem : mark ∉ after.reverse := by rwa [List.mem_reverse]
  simp only [cutAtLast, hrev, dropWhile_ne_append hmem, takeWhile_ne_append hmem,
    List.reverse_reverse]

theorem cutAtLast_of_not_mem {mark : Char} {cs : List Char} (h : mark ∉ cs) :
    cutAtLast mark cs = none := by
  have hmem : mark ∉ cs.reverse := by rwa [List.mem_reverse]
  simp only [cutAtLast, dropWhile_ne_of_not_mem hmem]

end StackFrame

namespace Text

/-! ## Numerals -/

theorem digit?_of_isDigit {c : Char} (h : c.isDigit = true) : digit? c = some (c.toNat - 48) := by
  rw [Char.isDigit, Bool.and_eq_true, decide_eq_true_eq, decide_eq_true_eq] at h
  rw [digit?, if_pos]
  · rfl
  · rw [Bool.and_eq_true, decide_eq_true_eq, decide_eq_true_eq]
    exact h

/-- Digits are read as the number that they show. -/
theorem digitsFrom_of_isDigit {cs : List Char} (h : ∀ c ∈ cs, c.isDigit = true) (n : Nat) :
    digitsFrom n cs = some (Nat.ofDigitChars 10 cs n) := by
  induction cs generalizing n with
  | nil => simp [digitsFrom]
  | cons c cs ih =>
    rw [digitsFrom, digit?_of_isDigit (h c (List.mem_cons_self ..)), Option.bind_some,
      ih (fun d hd => h d (List.mem_cons_of_mem _ hd)), Nat.ofDigitChars_cons]
    rfl

/-- A number only grows as digits are put behind it. -/
theorem le_ofDigitChars (cs : List Char) (n : Nat) : n ≤ Nat.ofDigitChars 10 cs n := by
  induction cs generalizing n with
  | nil => exact Nat.le_refl n
  | cons c cs ih =>
    rw [Nat.ofDigitChars_cons]
    exact Nat.le_trans (by omega) (ih _)

theorem isDigit_of_mem_toString {n : Nat} {c : Char} (h : c ∈ (toString n).toList) :
    c.isDigit = true := by
  rw [Nat.toString_eq_repr, Nat.toList_repr] at h
  exact Nat.isDigit_of_mem_toDigits (by decide) (by decide) h

/-- A number is read back from its numeral. -/
theorem readUnsigned_toString {bound n : Nat} (h : n < bound) :
    readUnsigned bound (toString n).toList = some n := by
  have hdigits : digitsFrom 0 (toString n).toList = some n := by
    rw [digitsFrom_of_isDigit fun c hc => isDigit_of_mem_toString hc, Nat.toString_eq_repr,
      Nat.toList_repr, Nat.ofDigitChars_ten_toDigits]
  have hplus : ∀ rest, (toString n).toList ≠ '+' :: rest := by
    intro rest heq
    have hc := isDigit_of_mem_toString (n := n) (c := '+') (by rw [heq]; exact List.mem_cons_self ..)
    cases hc
  unfold readUnsigned
  split
  · rename_i heq; exact absurd heq (hplus _)
  · rw [if_neg (by simp), hdigits]
    simp [h]

/-! ## Kinds of characters -/

/-- The code points of ranges. -/
def points (ranges : List (Nat × Nat)) : List Nat :=
  ranges.flatMap fun (first, last) => List.range' first (last + 1 - first)

theorem mem_points_of_inRanges {ranges : List (Nat × Nat)} {n : Nat}
    (h : inRanges ranges n = true) : n ∈ points ranges := by
  induction ranges with
  | nil => cases h
  | cons range ranges ih =>
    obtain ⟨first, last⟩ := range
    rw [points, List.flatMap_cons, List.mem_append]
    rw [inRanges] at h
    split at h
    · cases h
    · rcases Bool.or_eq_true_iff.mp h with hlast | hrest
      · left
        rw [decide_eq_true_eq] at hlast
        rw [List.mem_range'_1]
        omega
      · exact .inr (ih hrest)

/-- No white space of Unicode is in a word, and none of ASCII is a letter, a digit or a mark. -/
theorem blank_points : ∀ n ∈ points blankRanges,
    inRanges wordRanges n = false ∧ (n < 0x80 → n < '$'.toNat) := by
  decide +kernel

theorem toNat_of_isAlphanum {c : Char} (h : c.isAlphanum = true) : '$'.toNat ≤ c.toNat := by
  have hcode : ∀ low : UInt32, '$'.val ≤ low → low ≤ c.val → '$'.toNat ≤ c.toNat :=
    fun low hlow hle => UInt32.le_iff_toNat_le.mp (UInt32.le_trans hlow hle)
  rcases Bool.or_eq_true_iff.mp h with halpha | hdigit
  · rcases Bool.or_eq_true_iff.mp halpha with hupper | hlower
    · exact hcode 'A'.val (by decide) (of_decide_eq_true hupper).1
    · exact hcode 'a'.val (by decide) (of_decide_eq_true (Bool.and_eq_true_iff.mp hlower).1)
  · exact hcode '0'.val (by decide) (of_decide_eq_true (Bool.and_eq_true_iff.mp hdigit).1)

/-- White space is not part of words. -/
theorem isBlank_of_isWord {c : Char} (h : isWord c = true) : isBlank c = false := by
  rw [Bool.eq_false_iff]
  intro hblank
  obtain ⟨hword, hascii⟩ := blank_points _ (mem_points_of_inRanges hblank)
  rw [isWord] at h
  split at h
  · rename_i hlt
    rcases Bool.or_eq_true_iff.mp h with halnum | hmark
    · exact absurd (toNat_of_isAlphanum halnum) (Nat.not_le_of_lt (hascii hlt))
    · rw [beq_iff_eq.mp hmark] at hascii
      exact absurd (hascii (by decide)) (by decide)
  · rw [hword] at h
    cases h

theorem isBlank_of_isDigit {c : Char} (h : c.isDigit = true) : isBlank c = false := by
  have hle : c.toNat ≤ 57 := of_decide_eq_true (Bool.and_eq_true_iff.mp h).2
  refine isBlank_of_isWord ?_
  rw [isWord, if_pos (by omega), Char.isAlphanum, h, Bool.or_true, Bool.true_or]

end Text

namespace StackFrame

open Text

/-- A frame that names its parts as frames do. -/
structure Shown (frame : StackFrame) : Prop where
  owner : isNameOf isOwnerChar frame.className.toList = true
  method : isNameOf isMethodChar frame.methodName.toList = true
  /-- A line fits into 32 bits. -/
  line : frame.lineNumber < Nat.pow 2 32
  /-- A line is known of a file only. -/
  noFile : frame.fileName = none → frame.lineNumber = 0
  file : ∀ f, frame.fileName = some f → ')' ∉ f.toList
  /-- A file without a line is not taken for anything else. -/
  fileAlone : ∀ f, frame.fileName = some f → frame.lineNumber = 0 →
    ':' ∉ f.toList ∧ f ≠ "" ∧ f ≠ "Native Method" ∧ f ≠ "Unknown Source"

/-- The source position of a frame, without its parentheses. -/
def source (frame : StackFrame) : List Char :=
  match frame.fileName, frame.lineNumber with
  | some file, 0 => file.toList
  | some file, line => file.toList ++ ':' :: (toString line).toList
  | none, _ => "Unknown Source".toList

/-! ## What names do not have -/

theorem not_mem_of_isNameOf {isKind : Char → Bool} {cs : List Char} {mark : Char}
    (h : isNameOf isKind cs = true) (hmark : isKind mark = false) : mark ∉ cs := by
  rw [isNameOf, Bool.and_eq_true, List.all_eq_true] at h
  intro hmem
  rw [h.2 mark hmem] at hmark
  cases hmark

theorem isBlank_of_isOwnerChar {c : Char} (h : isOwnerChar c = true) : isBlank c = false := by
  rw [isOwnerChar, Bool.or_eq_true, Bool.or_eq_true] at h
  rcases h with (hword | hdollar) | hdot
  · exact isBlank_of_isWord hword
  · rw [beq_iff_eq.mp hdollar]; decide
  · rw [beq_iff_eq.mp hdot]; decide

/-- No blank is trimmed in front of an owner. -/
theorem trimStart_owner {cs : List Char} (h : isNameOf isOwnerChar cs = true) (rest : List Char) :
    trimStart (cs ++ rest) = cs ++ rest := by
  rw [isNameOf, Bool.and_eq_true, List.all_eq_true] at h
  cases cs with
  | nil => cases h.1
  | cons c cs =>
    have hc := isBlank_of_isOwnerChar (h.2 c (List.mem_cons_self ..))
    rw [List.cons_append, trimStart, List.dropWhile_cons_of_neg (by simp [hc])]

theorem hasPathSeparator_of_not_mem {cs : List Char} (h : ':' ∉ cs) :
    hasPathSeparator cs = false := by
  induction cs with
  | nil => rfl
  | cons c cs ih =>
    have hc : c ≠ ':' := fun heq => h (heq ▸ List.mem_cons_self ..)
    rw [hasPathSeparator]
    · exact ih fun hmem => h (List.mem_cons_of_mem _ hmem)
    · intro rest heq
      exact absurd heq hc

/-! ## The line of a frame -/

theorem toList_displayPosition (frame : StackFrame) :
    frame.displayPosition.toList = '(' :: (frame.source ++ [')']) := by
  cases hfile : frame.fileName with
  | none => simp [displayPosition, source, hfile]
  | some file => cases hline : frame.lineNumber <;> simp [displayPosition, source, hfile, hline]

/-- A frame shows its owner, its method and its source position. -/
theorem toList_display {frame : StackFrame} (h : frame.Shown) :
    frame.display.toList = frame.className.toList ++
      '.' :: (frame.methodName.toList ++ '(' :: (frame.source ++ [')'])) := by
  have hsep : hasPathSeparator frame.className.toList = false :=
    hasPathSeparator_of_not_mem (not_mem_of_isNameOf h.owner (by decide))
  simp only [display, hsep, String.toList_append, toList_displayPosition]
  simp

theorem not_mem_source {frame : StackFrame} (h : frame.Shown) : ')' ∉ frame.source := by
  cases hfile : frame.fileName with
  | none =>
    simp only [source, hfile]
    decide
  | some file =>
    cases hline : frame.lineNumber with
    | zero =>
      simp only [source, hfile, hline]
      exact h.file file hfile
    | succ n =>
      simp only [source, hfile, hline]
      intro hmem
      rcases List.mem_append.mp hmem with hmem | hmem
      · exact h.file file hfile hmem
      · rcases List.mem_cons.mp hmem with hmem | hmem
        · cases hmem
        · cases isDigit_of_mem_toString hmem

/-- The source of a frame names its file and its line. -/
theorem sourcePosition_source {frame : StackFrame} (h : frame.Shown) :
    sourcePosition frame.source = (frame.fileName.map String.toList, frame.lineNumber) := by
  cases hfile : frame.fileName with
  | none =>
    simp only [source, hfile, h.noFile hfile]
    decide
  | some file =>
    cases hline : frame.lineNumber with
    | zero =>
      obtain ⟨hcolon, hempty, hnative, hunknown⟩ := h.fileAlone file hfile hline
      have hne : ∀ s : String, file ≠ s → (file.toList == s.toList) = false :=
        fun s hs => beq_eq_false_iff_ne.mpr fun heq => hs (String.toList_inj.mp heq)
      have hplain : (file.toList.isEmpty || file.toList == "Native Method".toList ||
          file.toList == "Unknown Source".toList) = false := by
        rw [hne _ hnative, hne _ hunknown]
        simp [hempty]
      simp only [source, hfile, hline, sourcePosition, hplain, cutAtLast_of_not_mem hcolon]
      rfl
    | succ n =>
      have hcut : cutAtLast ':' (file.toList ++ ':' :: (toString (n + 1)).toList) =
          some (file.toList, (toString (n + 1)).toList) :=
        cutAtLast_append _ fun hmem => by cases isDigit_of_mem_toString hmem
      have hplain : ∀ cs : List Char, ':' ∉ cs →
          ((file.toList ++ ':' :: (toString (n + 1)).toList) == cs) = false := by
        intro cs hcs
        rw [beq_eq_false_iff_ne]
        intro heq
        exact hcs (heq ▸ List.mem_append_right _ (List.mem_cons_self ..))
      have hempty : (file.toList ++ ':' :: (toString (n + 1)).toList).isEmpty = false := by simp
      have hread := readUnsigned_toString (hline ▸ h.line)
      simp only [source, hfile, hline, sourcePosition]
      rw [hempty, hplain _ (by decide), hplain _ (by decide), hcut]
      simp only [Bool.or_self, Bool.false_eq_true, if_false, hread]
      rfl

/-- Behind `at` stands the frame. -/
theorem afterAt_display {frame : StackFrame} (h : frame.Shown) :
    afterAt ("\tat " ++ frame.display).toList = some frame.display.toList := by
  have hline : ("\tat " ++ frame.display).toList =
      '\t' :: 'a' :: 't' :: ' ' :: frame.display.toList := by simp
  have htab : trimStart ('\t' :: 'a' :: 't' :: ' ' :: frame.display.toList) =
      'a' :: 't' :: ' ' :: frame.display.toList := by
    rw [trimStart, List.dropWhile_cons_of_pos (by decide), List.dropWhile_cons_of_neg (by decide)]
  have hspace : isBlank ' ' = true := by decide
  rw [hline, afterAt, htab]
  simp only [hspace, if_true]
  rw [toList_display h, trimStart_owner h.owner]

/-- The names of a frame have no mark other than the dot between them. -/
theorem not_mem_names {frame : StackFrame} (h : frame.Shown) {c : Char}
    (howner : isOwnerChar c = false) (hmethod : isMethodChar c = false) (hdot : c ≠ '.') :
    c ∉ frame.className.toList ++ '.' :: frame.methodName.toList := by
  intro hmem
  rcases List.mem_append.mp hmem with hmem | hmem
  · exact not_mem_of_isNameOf h.owner howner hmem
  · rcases List.mem_cons.mp hmem with hmem | hmem
    · exact hdot hmem
    · exact not_mem_of_isNameOf h.method hmethod hmem

/-- A frame is read back from the line that shows it. -/
theorem ofTraceLine?_display {frame : StackFrame} (h : frame.Shown) :
    ofTraceLine? ("\tat " ++ frame.display) = some frame := by
  have hopen : cutAtFirst '(' frame.display.toList =
      some (frame.className.toList ++ '.' :: frame.methodName.toList, frame.source ++ [')']) := by
    rw [toList_display h, ← List.cons_append, ← List.append_assoc]
    exact cutAtFirst_append (not_mem_names h (by decide) (by decide) (by decide)) _
  have hclose : cutAtFirst ')' (frame.source ++ [')']) = some (frame.source, []) :=
    cutAtFirst_append (not_mem_source h) _
  have hnames : ownerAndMethod (frame.className.toList ++ '.' :: frame.methodName.toList) =
      some (frame.className.toList, frame.methodName.toList) := by
    have hslash := not_mem_names h (c := '/') (by decide) (by decide) (by decide)
    have hdot : '.' ∉ frame.methodName.toList := not_mem_of_isNameOf h.method (by decide)
    simp [ownerAndMethod, cutAtLast_of_not_mem hslash, cutAtLast_append _ hdot, h.owner, h.method]
  have hfile : frame.fileName.map (String.ofList ∘ String.toList) = frame.fileName := by
    cases frame.fileName <;> simp
  simp only [ofTraceLine?, afterAt_display h, Option.bind_eq_bind, Option.bind_some, hopen, hclose,
    hnames, sourcePosition_source h, Option.map_map, hfile, String.ofList_toList]
  rfl

end StackFrame

end LogOrigin
