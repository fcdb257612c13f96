import LogOrigin.Proofs.BracketDepth

/-!
# Symbols as paths

A symbol is cut at its last separator outside brackets (`lastSeparator_spec`), and an owner in angle
brackets stands for what is in front of the first ` as ` outside brackets in it
(`beforeAs_cases`). So a path that is put together from an owner and a method is taken apart again
into the two (`ofSymbol_path`).
-/

namespace LogOrigin.StackFrame

/-- What stands between the parts of a path. -/
def separator : List Char := "::".toList

/-- What stands between a type and the trait that it implements. -/
def traitMark : List Char := " as ".toList

/-! ## The last separator -/

theorem bracketDepth_separator (cs : List Char) :
    bracketDepth (cs ++ separator) = bracketDepth cs := by
  have hconcat : cs ++ separator = (cs ++ [':']) ++ [':'] := by simp [separator]
  rw [hconcat, bracketDepth_concat_of_ne (by decide) (by decide),
    bracketDepth_concat_of_ne (by decide) (by decide)]

theorem getLast?_separator (cs : List Char) : (cs ++ separator).getLast? ≠ some '-' := by
  rw [List.getLast?_append]
  simp [separator]

/-- Behind a separator, a text has its own depth. -/
theorem bracketDepth_behind (cs ds : List Char) :
    bracketDepth (cs ++ separator ++ ds) = bracketDepth cs + bracketDepth ds := by
  rw [bracketDepth_append (getLast?_separator cs), bracketDepth_separator]

theorem reverse_separator (before : List Char) :
    (':' :: ':' :: before).reverse = before.reverse ++ separator := by
  simp [separator]

/-- Behind what has been read, no separator of the text stands outside brackets. -/
def BareBehind (read cs : List Char) : Prop :=
  ∀ more, more ++ separator <+: cs → bracketDepth (read ++ more) ≠ 0

theorem bareBehind_nil (read : List Char) : BareBehind read [] := by
  intro more hwithin
  cases more <;> cases List.prefix_nil.mp hwithin

/-- A character may be put in front, unless a separator outside brackets comes about by it. -/
theorem BareBehind.cons {read cs : List Char} {c : Char} (h : BareBehind (read ++ [c]) cs)
    (hnew : separator <+: c :: cs → bracketDepth read ≠ 0) : BareBehind read (c :: cs) := by
  intro more hwithin
  cases more with
  | nil =>
    rw [List.append_nil]
    exact hnew hwithin
  | cons d more =>
    obtain ⟨rfl, hbehind⟩ := List.cons_prefix_cons.mp hwithin
    have hdeep := h more hbehind
    rwa [List.append_assoc] at hdeep

/-- Within brackets, separators do not count. -/
theorem BareBehind.within {read cs : List Char} (h : BareBehind (read ++ separator) cs)
    (hread : bracketDepth read ≠ 0) : BareBehind read (':' :: ':' :: cs) := by
  refine .cons (.cons ?_ ?_) fun _ => hread
  · rwa [List.append_assoc]
  · intro _
    rwa [bracketDepth_concat_of_ne (by decide) (by decide)]

/-- Behind a separator outside brackets, a text counts by itself. -/
theorem BareBehind.unparted {read cs : List Char} (h : BareBehind (read ++ separator) cs)
    (hread : bracketDepth read = 0) : Unparted separator cs := by
  rintro more ⟨hwithin, hmore⟩
  refine h more hwithin ?_
  rw [bracketDepth_behind, hread, hmore]
  rfl

/-- The last cut in what is read, or else the one found before; behind it there is no separator
outside brackets. `before.reverse` is what has been read. -/
theorem lastSeparator_spec {depth : Int} (before cs : List Char)
    (best : Option (List Char × List Char)) (hdepth : depth = bracketDepth before.reverse) :
    (lastSeparator depth before best cs = best ∧ BareBehind before.reverse cs) ∨
    ∃ more method, lastSeparator depth before best cs = some (more.reverse ++ before, method) ∧
      cs = more ++ separator ++ method ∧ bracketDepth (before.reverse ++ more) = 0 ∧
      Unparted separator method := by
  fun_induction lastSeparator depth before best cs with
  | case1 depth before best rest ih =>
    rw [reverse_separator, bracketDepth_separator] at ih
    rcases ih hdepth with ⟨heq, hbare⟩ | ⟨more, method, heq, rfl, hmore, hmethod⟩
    · by_cases hzero : depth = 0
      · -- the last cut is the one made here
        rw [if_pos hzero] at heq ⊢
        right
        refine ⟨[], rest, heq, rfl, ?_, hbare.unparted (hdepth ▸ hzero)⟩
        rw [List.append_nil, ← hdepth, hzero]
      · rw [if_neg hzero] at heq ⊢
        left
        exact ⟨heq, hbare.within (hdepth ▸ hzero)⟩
    · right
      refine ⟨':' :: ':' :: more, method, ?_, rfl, ?_, hmethod⟩
      · rw [heq]
        simp
      · rw [← hmore]
        simp [separator]
  | case2 depth before best c rest hne ih =>
    rcases ih (by rw [bracketDepth_reverse_cons, hdepth]) with
      ⟨heq, hbare⟩ | ⟨more, method, heq, rfl, hmore, hmethod⟩
    · left
      rw [List.reverse_cons] at hbare
      refine ⟨heq, hbare.cons ?_⟩
      rintro ⟨tail, htail⟩
      cases htail
      exact absurd rfl (hne _ rfl)
    · right
      refine ⟨c :: more, method, ?_, rfl, ?_, hmethod⟩
      · rw [heq]
        simp
      · rw [← hmore]
        simp
  | case3 depth before best =>
    left
    exact ⟨rfl, bareBehind_nil _⟩

/-- Reading goes on behind a text that does not end within a separator. -/
theorem lastSeparator_append {owner : List Char} (hlast : owner.getLast? ≠ some ':') {depth : Int}
    (before : List Char) (best : Option (List Char × List Char))
    (hdepth : depth = bracketDepth before.reverse) (rest : List Char) :
    ∃ found, lastSeparator depth before best (owner ++ rest) =
      lastSeparator (bracketDepth (before.reverse ++ owner)) (owner.reverse ++ before) found rest := by
  -- the cut found so far makes no difference, so the induction is over all of them
  suffices hall : ∀ cut, ∃ found, lastSeparator depth before cut (owner ++ rest) =
      lastSeparator (bracketDepth (before.reverse ++ owner)) (owner.reverse ++ before) found rest by
    exact hall best
  fun_induction lastSeparator depth before best owner with
  | case1 depth before best owner ih =>
    intro cut
    have htail : owner.getLast? ≠ some ':' := by
      cases owner with
      | nil => exact absurd rfl hlast
      | cons d owner => rwa [List.getLast?_cons_cons, List.getLast?_cons_cons] at hlast
    rw [reverse_separator, bracketDepth_separator] at ih
    obtain ⟨found, hfound⟩ := ih htail hdepth (if depth = 0 then some (before, owner ++ rest) else cut)
    refine ⟨found, ?_⟩
    rw [List.cons_append, List.cons_append, lastSeparator, hfound]
    simp [separator]
  | case2 depth before best c owner hne ih =>
    intro cut
    have hread : depthAfter depth before c = bracketDepth (c :: before).reverse := by
      rw [bracketDepth_reverse_cons, hdepth]
    have htail : owner.getLast? ≠ some ':' := by
      cases owner with
      | nil => simp
      | cons d owner => rwa [List.getLast?_cons_cons] at hlast
    obtain ⟨found, hfound⟩ := ih htail hread cut
    refine ⟨found, ?_⟩
    rw [List.cons_append, lastSeparator, hfound]
    · simp
    · rintro rest' rfl heq
      cases owner with
      | nil => exact hlast rfl
      | cons d owner =>
        cases heq
        exact hne owner rfl rfl
  | case3 depth before best =>
    intro cut
    refine ⟨cut, ?_⟩
    rw [List.append_nil, ← hdepth]
    rfl

/-- A path is cut between an owner and a method if the owner does not end within a separator and the
method has none outside brackets. -/
theorem lastSeparator_join {owner method : List Char} (hlast : owner.getLast? ≠ some ':')
    (howner : bracketDepth owner = 0) (hmethod : Unparted separator method) :
    lastSeparator 0 [] none (owner ++ separator ++ method) = some (owner.reverse, method) := by
  obtain ⟨found, hfound⟩ := lastSeparator_append hlast [] none rfl (separator ++ method)
  have hcut : lastSeparator 0 [] none (owner ++ separator ++ method) =
      lastSeparator 0 (':' :: ':' :: owner.reverse) (some (owner.reverse, method)) method := by
    rw [List.append_assoc]
    refine hfound.trans ?_
    rw [List.reverse_nil, List.nil_append, howner, List.append_nil]
    rfl
  have hread : (':' :: ':' :: owner.reverse).reverse = owner ++ separator := by
    rw [reverse_separator, List.reverse_reverse]
  have hzero : bracketDepth (owner ++ separator) = 0 := (bracketDepth_separator owner).trans howner
  rw [hcut]
  rcases lastSeparator_spec (':' :: ':' :: owner.reverse) method (some (owner.reverse, method))
    (by rw [hread, hzero]) with ⟨heq, -⟩ | ⟨more, method', -, hparts, hmore, -⟩
  · exact heq
  · rw [hread, bracketDepth_behind, howner, Int.zero_add] at hmore
    refine absurd ⟨?_, hmore⟩ (hmethod more)
    rw [hparts]
    exact List.prefix_append ..

/-! ## Owners in angle brackets -/

/-- What is in front of the first ` as ` outside brackets, or all of the text. `before.reverse` is
what has been read, and there has been none in it. -/
theorem beforeAs_spec {depth : Int} (before cs : List Char)
    (hdepth : depth = bracketDepth before.reverse)
    (hseen : ∀ other, PartedAt traitMark other (before.reverse ++ cs) → before.reverse <+: other) :
    FirstPartedAt traitMark (beforeAs depth before cs) (before.reverse ++ cs) ∨
      Unparted traitMark (before.reverse ++ cs) ∧
        beforeAs depth before cs = before.reverse ++ cs := by
  induction cs generalizing depth before with
  | nil =>
    right
    rw [List.append_nil] at hseen ⊢
    refine ⟨?_, rfl⟩
    intro other hparted
    have hlong := (hseen other hparted).length_le
    have hshort := hparted.1.length_le
    rw [List.length_append] at hshort
    have hmark : traitMark.length = 4 := rfl
    omega
  | cons c rest ih =>
    unfold beforeAs
    by_cases hcut : depth = 0 ∧ traitMark <+: c :: rest
    · left
      have hwithin : List.isPrefixOf [' ', 'a', 's', ' '] (c :: rest) = true :=
        List.isPrefixOf_iff_prefix.mpr hcut.2
      rw [if_pos (by rw [hwithin, hcut.1]; rfl)]
      refine ⟨⟨(List.prefix_append_right_inj _).mpr hcut.2, ?_⟩, hseen⟩
      rw [← hdepth, hcut.1]
    · have hread : (c :: before).reverse ++ rest = before.reverse ++ c :: rest := by simp
      have hdeep : depthAfter depth before c = bracketDepth (c :: before).reverse := by
        rw [bracketDepth_reverse_cons, hdepth]
      have hgo : ¬ (decide (depth = 0) && List.isPrefixOf [' ', 'a', 's', ' '] (c :: rest)) = true := by
        intro h
        rw [Bool.and_eq_true, decide_eq_true_eq, List.isPrefixOf_iff_prefix] at h
        exact hcut h
      rw [if_neg hgo, ← hread]
      refine ih (c :: before) hdeep ?_
      intro other hparted
      rw [hread] at hparted
      obtain ⟨more, rfl⟩ := hseen other hparted
      obtain ⟨hmark, hzero⟩ := hparted
      rw [List.append_assoc, List.prefix_append_right_inj] at hmark
      cases more with
      | nil =>
        rw [List.append_nil, ← hdepth] at hzero
        exact absurd ⟨hzero, hmark⟩ hcut
      | cons d more =>
        obtain ⟨rfl, -⟩ := List.cons_prefix_cons.mp hmark
        exact ⟨more, by simp⟩

/-- The type of an owner in angle brackets. -/
theorem beforeAs_cases (inner : List Char) :
    FirstPartedAt traitMark (beforeAs 0 [] inner) inner ∨
      Unparted traitMark inner ∧ beforeAs 0 [] inner = inner :=
  beforeAs_spec [] inner rfl fun _ _ => List.nil_prefix

theorem implementor_bracketed (inner : List Char) :
    implementor ('<' :: (inner ++ ['>'])) = beforeAs 0 [] inner := by
  unfold implementor
  simp

/-- An owner that is not in angle brackets is itself. -/
theorem implementor_of_not {owner : List Char}
    (h : ¬ (owner.head? = some '<' ∧ owner.getLast? = some '>')) : implementor owner = owner := by
  unfold implementor
  split
  · next inner =>
    split
    · next last heq =>
      refine absurd ⟨rfl, ?_⟩ h
      rw [List.getLast?_cons, ← List.head?_reverse, heq]
      rfl
    · rfl
  · rfl

/-- An owner, and the class that it stands for. -/
inductive StandsFor : List Char → List Char → Prop
  /-- An implementation of a trait stands for the type. -/
  | ofTrait {type trait : List Char} (htype : Balanced type) (htrait : Balanced trait)
      (hfirst : FirstPartedAt traitMark type (type ++ traitMark ++ trait)) :
      StandsFor ('<' :: (type ++ traitMark ++ trait ++ ['>'])) type
  /-- So does a type in brackets. -/
  | ofType {type : List Char} (htype : Balanced type) (hbare : Unparted traitMark type) :
      StandsFor ('<' :: (type ++ ['>'])) type
  | itself {owner : List Char} (h : ¬ (owner.head? = some '<' ∧ owner.getLast? = some '>')) :
      StandsFor owner owner

theorem StandsFor.implementor_eq {owner type : List Char} (h : StandsFor owner type) :
    implementor owner = type := by
  cases h with
  | @ofTrait _ trait _ _ hfirst =>
    rw [implementor_bracketed]
    rcases beforeAs_cases (type ++ traitMark ++ trait) with hparted | ⟨hunparted, -⟩
    · exact hparted.unique hfirst
    · exact absurd hfirst.parted (hunparted type)
  | ofType _ hbare =>
    rw [implementor_bracketed]
    rcases beforeAs_cases type with hparted | ⟨-, heq⟩
    · exact absurd hparted.parted (hbare _)
    · exact heq
  | itself h => exact implementor_of_not h

/-! ## Symbols -/

/-- A symbol is a bare method, or it is cut at a separator outside brackets, behind which there is
no other. -/
theorem splitSymbol_cases (symbol : String) :
    (splitSymbol symbol = ("", symbol) ∧ Unparted separator symbol.toList) ∨
    ∃ owner method, symbol.toList = owner ++ separator ++ method ∧ bracketDepth owner = 0 ∧
      Unparted separator method ∧
      splitSymbol symbol = (String.ofList (implementor owner), String.ofList method) := by
  unfold splitSymbol
  rcases lastSeparator_spec [] symbol.toList none rfl with
    ⟨heq, hbare⟩ | ⟨owner, method, heq, hparts, howner, hmethod⟩
  · left
    change lastSeparator 0 [] none symbol.toList = none at heq
    rw [heq]
    refine ⟨rfl, ?_⟩
    rintro before ⟨hwithin, hzero⟩
    exact hbare before hwithin hzero
  · right
    change lastSeparator 0 [] none symbol.toList = _ at heq
    refine ⟨owner, method, hparts, howner, hmethod, ?_⟩
    rw [heq]
    simp

/-- A path of an owner and a method is taken apart into the class that the owner stands for and the
method, unless the owner ends within a separator; a symbol without separator outside brackets is a
method without owner. -/
theorem ofSymbol_path (fileName : Option String) (lineNumber : Nat) :
    (∀ owner className method : String, Balanced owner.toList →
      owner.toList.getLast? ≠ some ':' → StandsFor owner.toList className.toList →
      Unparted separator method.toList →
      ofSymbol (owner ++ "::" ++ method) fileName lineNumber =
        ⟨className, method, fileName, lineNumber⟩) ∧
    ∀ symbol : String, Unparted separator symbol.toList →
      ofSymbol symbol fileName lineNumber = ⟨"", symbol, fileName, lineNumber⟩ := by
  constructor
  · intro owner className method howner hlast hclass hmethod
    have hcut : lastSeparator 0 [] none (owner ++ "::" ++ method).toList =
        some (owner.toList.reverse, method.toList) := by
      rw [String.toList_append, String.toList_append]
      exact lastSeparator_join hlast howner.closed hmethod
    unfold ofSymbol splitSymbol
    rw [hcut]
    simp only [List.reverse_reverse, hclass.implementor_eq, String.ofList_toList]
  · intro symbol hsymbol
    unfold ofSymbol
    rcases splitSymbol_cases symbol with ⟨heq, -⟩ | ⟨owner, method, hparts, howner, -, -⟩
    · rw [heq]
    · refine absurd ⟨?_, howner⟩ (hsymbol owner)
      rw [hparts]
      exact List.prefix_append ..

/-- A path with an arrow, separators and another ` as ` within brackets, and a symbol whose only
separator is within brackets. -/
theorem ofSymbol_path_drop :
    let type := "app::Täsk<fn(u8) -> <u8 as app::Id>::Out>"
    let owner := "<" ++ type ++ " as core::ops::Drop>"
    let method := "drop<app::Now>"
    Balanced owner.toList ∧ owner.toList.getLast? ≠ some ':' ∧
      StandsFor owner.toList type.toList ∧ Unparted separator method.toList ∧
      ofSymbol (owner ++ "::" ++ method) none 0 = ⟨type, method, none, 0⟩ ∧
      ofSymbol method none 0 = ⟨"", method, none, 0⟩ := by
  intro type owner method
  have howner : Balanced owner.toList := by decide +kernel
  have hlast : owner.toList.getLast? ≠ some ':' := by decide +kernel
  have hclass : StandsFor owner.toList type.toList := by
    have hform : owner.toList =
        '<' :: (type.toList ++ traitMark ++ "core::ops::Drop".toList ++ ['>']) := by decide +kernel
    rw [hform]
    exact .ofTrait (by decide +kernel) (by decide +kernel) (by decide +kernel)
  have hmethod : Unparted separator method.toList := by decide +kernel
  exact ⟨howner, hlast, hclass, hmethod,
    (ofSymbol_path none 0).1 owner type method howner hlast hclass hmethod,
    (ofSymbol_path none 0).2 method hmethod⟩

end LogOrigin.StackFrame
