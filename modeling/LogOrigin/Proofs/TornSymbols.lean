import LogOrigin.Proofs.SymbolPaths

/-!
# Symbols that are torn

In a symbol whose brackets match, those of the method match as well. Those of the class do unless
the owner is torn: it begins with a type in brackets that names no trait, and goes on behind it up
to another `>` (`Torn`), as that of a closure in a generic method does. Of such an owner the bracket
at each end is taken off, although these two do not belong together (`balanced_ofSymbol`).
-/

namespace LogOrigin.StackFrame

/-- An owner that begins with a type in brackets, and goes on behind it up to another `>`. -/
inductive Torn : List Char → Prop
  | intro {type rest : List Char} (htype : Balanced type) (hlast : type.getLast? ≠ some '-')
      (hbare : Unparted traitMark type) : Torn ('<' :: (type ++ '>' :: rest ++ ['>']))

/-- A class is what is left at the front of an owner whose leading bracket is taken off together
with the one that closes it. -/
def Unwrapped (cls owner : List Char) : Prop :=
  ∃ more rest, owner = '<' :: (cls ++ more ++ '>' :: rest) ∧ Balanced (cls ++ more) ∧
    (cls ++ more).getLast? ≠ some '-'

/-! ## Owners -/

theorem exists_inner {owner : List Char} (hhead : owner.head? = some '<')
    (hlast : owner.getLast? = some '>') : ∃ inner, owner = '<' :: (inner ++ ['>']) := by
  obtain ⟨rest, rfl⟩ := List.head?_eq_some_iff.mp hhead
  obtain ⟨init, hinit⟩ := List.getLast?_eq_some_iff.mp hlast
  cases init with
  | nil => cases hinit
  | cons c inner =>
    cases hinit
    exact ⟨inner, rfl⟩

/-- The type of an owner in brackets is at the front of it. -/
theorem prefix_beforeAs (inner : List Char) : beforeAs 0 [] inner <+: inner := by
  rcases beforeAs_cases inner with hparted | ⟨-, heq⟩
  · exact (List.prefix_append ..).trans hparted.parted.1
  · rw [heq]

/-- A type that ends within the front of an owner has no ` as ` outside brackets. -/
theorem unparted_of_beforeAs {inner type rest : List Char} {c : Char}
    (h : beforeAs 0 [] inner = type ++ c :: rest) : Unparted traitMark type := by
  have hwithin : type <+: inner := by
    refine List.IsPrefix.trans ?_ (prefix_beforeAs inner)
    rw [h]
    exact List.prefix_append ..
  rintro before ⟨hmark, hzero⟩
  have hparted : PartedAt traitMark before inner := ⟨hmark.trans hwithin, hzero⟩
  rcases beforeAs_cases inner with hfirst | ⟨hbare, -⟩
  · have hle := (hfirst.first before hparted).length_le
    have hlt := hmark.length_le
    rw [h, List.length_append, List.length_cons] at hle
    rw [List.length_append] at hlt
    omega
  · exact hbare before hparted

/-- A torn owner stands for a class that closes the leading bracket of the owner. -/
theorem Torn.not_balanced {owner : List Char} (h : Torn owner) : ¬ Balanced (implementor owner) := by
  obtain @⟨type, rest, htype, hlast, hbare⟩ := h
  intro hclass
  rw [implementor_bracketed] at hclass
  have hfront : beforeAs 0 [] (type ++ '>' :: rest) <+: type :=
    prefix_of_closes htype hlast hclass (prefix_beforeAs _)
  rcases beforeAs_cases (type ++ '>' :: rest) with ⟨⟨hmark, hzero⟩, -⟩ | ⟨-, heq⟩
  · -- the ` as ` behind the class would stand in the type
    obtain ⟨more, hmore⟩ := hfront
    generalize beforeAs 0 [] (type ++ '>' :: rest) = front at hmark hzero hmore
    subst hmore
    rw [List.append_assoc, List.prefix_append_right_inj] at hmark
    have hwithin : traitMark <+: more := prefix_of_not_mem (by decide) hmark
    exact hbare front ⟨(List.prefix_append_right_inj front).mpr hwithin, hzero⟩
  · rw [heq] at hfront
    have hlength := hfront.length_le
    rw [List.length_append, List.length_cons] at hlength
    omega

section Owners

variable {owner : List Char} (howner : Balanced owner)

include howner

/-- The leading bracket of a balanced owner is closed within it. -/
theorem Balanced.depth_inner {inner : List Char} (heq : owner = '<' :: (inner ++ ['>'])) :
    bracketDepth (inner ++ ['>']) = -1 := by
  have hclosed := howner.closed
  rw [heq, bracketDepth_cons_open] at hclosed
  omega

/-- An owner that is not torn stands for a class whose brackets match. -/
theorem Balanced.implementor_of_not_torn (h : ¬ Torn owner) : Balanced (implementor owner) := by
  by_cases hends : owner.head? = some '<' ∧ owner.getLast? = some '>'
  · obtain ⟨inner, heq⟩ := exists_inner hends.1 hends.2
    have hdepth := howner.depth_inner heq
    rw [heq, implementor_bracketed]
    rcases nonneg_or_closes (beforeAs 0 [] inner) with hnonneg | ⟨type, rest, hparts, htype, hlast⟩
    · refine ⟨hnonneg, ?_⟩
      rcases beforeAs_cases inner with hparted | ⟨-, hall⟩
      · exact hparted.parted.2
      · -- the last bracket closes the first one, as nothing between them does
        rw [hall] at hnonneg ⊢
        have hinner := hnonneg inner (List.prefix_refl inner)
        have hlt : bracketDepth (inner ++ ['>']) < bracketDepth inner := by omega
        obtain ⟨-, hlast⟩ := of_depth_concat_lt hlt
        rw [bracketDepth_concat_close hlast] at hdepth
        omega
    · -- the class closes the leading bracket, so the owner is torn
      obtain ⟨tail, htail⟩ := prefix_beforeAs inner
      have hform : owner = '<' :: (type ++ '>' :: (rest ++ tail) ++ ['>']) := by
        rw [heq, ← htail, hparts]
        simp
      rw [hform] at h
      exact absurd (.intro htype hlast (unparted_of_beforeAs hparts)) h
  · rw [implementor_of_not hends]
    exact howner

/-- Where the brackets of the class match, the leading bracket of the owner is taken off together
with the one that closes it. -/
theorem Balanced.unwrapped (h : Balanced (implementor owner)) :
    implementor owner = owner ∨ Unwrapped (implementor owner) owner := by
  by_cases hends : owner.head? = some '<' ∧ owner.getLast? = some '>'
  · right
    obtain ⟨inner, heq⟩ := exists_inner hends.1 hends.2
    have hdepth := howner.depth_inner heq
    rcases nonneg_or_closes (inner ++ ['>']) with hnonneg | ⟨type, rest, hparts, htype, hlast⟩
    · have hinner := hnonneg _ (List.prefix_refl _)
      omega
    · rw [heq, implementor_bracketed] at h ⊢
      have hfront : beforeAs 0 [] inner <+: type ++ '>' :: rest := by
        rw [← hparts]
        exact (prefix_beforeAs inner).trans (List.prefix_append ..)
      obtain ⟨more, hmore⟩ := prefix_of_closes htype hlast h hfront
      refine ⟨more, rest, ?_, ?_, ?_⟩
      · rw [hmore, hparts]
      · rwa [hmore]
      · rwa [hmore]
  · left
    exact implementor_of_not hends

end Owners

/-! ## Symbols -/

/-- In a symbol whose brackets match, those of the method match. Those of the class match just if
the owner is not torn, and then the leading bracket of the owner is kept, or is taken off together
with the one that closes it. -/
theorem balanced_ofSymbol {symbol : String} (h : Balanced symbol.toList) (fileName : Option String)
    (lineNumber : Nat) :
    let frame := ofSymbol symbol fileName lineNumber
    let cls := frame.className.toList
    let method := frame.methodName.toList
    Balanced method ∧ Unparted separator method ∧
      (frame.className = "" ∧ frame.methodName = symbol ∧ Balanced cls ∨
        ∃ owner, symbol.toList = owner ++ separator ++ method ∧ Balanced owner ∧
          (¬ Torn owner → Balanced cls ∧ (cls = owner ∨ Unwrapped cls owner)) ∧
          (Torn owner → ¬ Balanced cls)) := by
  intro frame cls method
  rcases splitSymbol_cases symbol with ⟨heq, hbare⟩ | ⟨owner, rest, hparts, hzero, hbare, heq⟩
  · have hframe : frame = ⟨"", symbol, fileName, lineNumber⟩ := by
      show ofSymbol symbol fileName lineNumber = _
      rw [ofSymbol, heq]
    have hmethod : method = symbol.toList := by
      show frame.methodName.toList = _
      rw [hframe]
    rw [hmethod, hframe]
    refine ⟨h, hbare, .inl ⟨rfl, rfl, ?_⟩⟩
    show Balanced frame.className.toList
    rw [hframe]
    exact balanced_nil
  · have hframe : frame = ⟨String.ofList (implementor owner), String.ofList rest, fileName,
        lineNumber⟩ := by
      show ofSymbol symbol fileName lineNumber = _
      rw [ofSymbol, heq]
    have hmethod : method = rest := by
      show frame.methodName.toList = _
      rw [hframe, String.toList_ofList]
    have hcls : cls = implementor owner := by
      show frame.className.toList = _
      rw [hframe, String.toList_ofList]
    rw [hparts] at h
    have hread : bracketDepth (owner ++ separator) = 0 := (bracketDepth_separator owner).trans hzero
    have howner : Balanced owner := by
      rw [List.append_assoc] at h
      exact h.left hzero
    have hrest : Balanced rest := h.right hread (getLast?_separator owner)
    rw [hmethod, hcls]
    refine ⟨hrest, hbare, .inr ⟨owner, hparts, howner, ?_, Torn.not_balanced⟩⟩
    intro htorn
    have hclass := howner.implementor_of_not_torn htorn
    exact ⟨hclass, howner.unwrapped hclass⟩

/-- Of the implementation of a trait, the type is left, with the brackets around both taken off. -/
theorem balanced_ofSymbol_trait :
    let symbol := "<app::Map<fn() -> u8> as app::Get<u8>>::get"
    Balanced symbol.toList ∧
      ∃ owner, symbol.toList = owner ++ separator ++ "get".toList ∧ Balanced owner ∧ ¬ Torn owner ∧
        Unwrapped "app::Map<fn() -> u8>".toList owner := by
  intro symbol
  have hsymbol : Balanced symbol.toList := by decide +kernel
  have hframe : ofSymbol symbol none 0 = ⟨"app::Map<fn() -> u8>", "get", none, 0⟩ := by
    decide +kernel
  have hclass : Balanced "app::Map<fn() -> u8>".toList := by decide +kernel
  obtain ⟨-, -, ⟨hempty, -, -⟩ | ⟨owner, hparts, howner, hkept, htorn⟩⟩ :=
    balanced_ofSymbol hsymbol none 0
  · rw [hframe] at hempty
    exact absurd hempty (by decide)
  · rw [hframe] at hparts hkept htorn
    have hnot : ¬ Torn owner := fun h => htorn h hclass
    refine ⟨hsymbol, owner, hparts, howner, hnot, ?_⟩
    rcases (hkept hnot).2 with heq | hunwrapped
    · rw [← heq] at hparts
      exact absurd hparts (by decide +kernel)
    · exact hunwrapped

/-- A closure in a generic method of a type, whose class closes a bracket that it does not open. -/
theorem ofSymbol_torn_closure :
    let symbol := "<app::Foo>::map::<u8>::\x7bclosure#0\x7d"
    let frame := ofSymbol symbol none 0
    Balanced symbol.toList ∧ frame.className = "app::Foo>::map::<u8" ∧
      ¬ Balanced frame.className.toList := by
  decide +kernel

end LogOrigin.StackFrame
