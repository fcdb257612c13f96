import LogOrigin.StackFrame.Symbol
import Mathlib.Data.List.Basic
import Mathlib.Data.List.Infix

/-!
# Angle brackets in symbols

How deep a text is nested in angle brackets (`bracketDepth`), when its brackets match (`Balanced`),
and where a mark stands outside of them (`PartedAt`). The depth is that of a whole text, said by its
brackets and its arrows; `bracketDepth_concat` says that counting along the text comes to it.
-/

namespace LogOrigin.StackFrame

/-! ## Depth -/

/-- The number of arrows in a text. -/
def arrows : List Char → Nat
  | '-' :: '>' :: rest => arrows rest + 1
  | _ :: rest => arrows rest
  | [] => 0

/-- The number of brackets that a text opens less the number of those that it closes. The `>` of an
arrow closes nothing. -/
def bracketDepth (cs : List Char) : Int := cs.count '<' + arrows cs - cs.count '>'

theorem arrows_concat (cs : List Char) (c : Char) :
    arrows (cs ++ [c]) = arrows cs + if cs.getLast? = some '-' ∧ c = '>' then 1 else 0 := by
  fun_induction arrows cs with
  | case1 rest ih =>
    have hlast : ('-' :: '>' :: rest).getLast? = some '-' ↔ rest.getLast? = some '-' := by
      rw [List.getLast?_cons, List.getLast?_cons]
      cases rest.getLast? <;> simp
    show arrows (rest ++ [c]) + 1 = _
    simp only [ih, hlast]
    omega
  | case2 d rest hne ih =>
    cases rest with
    | nil =>
      -- an arrow comes about here, or not at all
      by_cases h : d = '-' ∧ c = '>'
      · obtain ⟨rfl, rfl⟩ := h
        rfl
      · have hstep : arrows [d, c] = arrows [c] := by
          rw [arrows]
          rintro rest rfl heq
          cases heq
          exact h ⟨rfl, rfl⟩
        show arrows [d, c] = arrows [] + _
        rw [hstep, if_neg (by simpa using h)]
        simp [arrows]
    | cons e rest =>
      have hstep : arrows (d :: e :: (rest ++ [c])) = arrows (e :: (rest ++ [c])) := by
        rw [arrows]
        rintro rest' rfl heq
        cases heq
        exact hne rest rfl rfl
      show arrows (d :: e :: (rest ++ [c])) = _
      rw [hstep, List.getLast?_cons_cons]
      exact ih
  | case3 => simp [arrows]

/-- Counting along a text comes to its depth. -/
theorem bracketDepth_concat (cs : List Char) (c : Char) :
    bracketDepth (cs ++ [c]) = depthAfter (bracketDepth cs) cs.reverse c := by
  unfold bracketDepth depthAfter
  rw [List.count_append, List.count_append, arrows_concat, List.head?_reverse]
  by_cases hopen : c = '<'
  · subst hopen
    simp
    omega
  · by_cases hclose : c = '>'
    · subst hclose
      by_cases harrow : cs.getLast? = some '-'
      · simp [harrow]
        omega
      · simp [harrow]
        omega
    · simp [hopen, hclose]

/-- The depth of what has been read, which is kept in reverse. -/
theorem bracketDepth_reverse_cons (before : List Char) (c : Char) :
    bracketDepth (c :: before).reverse = depthAfter (bracketDepth before.reverse) before c := by
  rw [List.reverse_cons, bracketDepth_concat, List.reverse_reverse]

/-- A character that is no bracket leaves the depth as it is. -/
theorem bracketDepth_concat_of_ne {c : Char} (hopen : c ≠ '<') (hclose : c ≠ '>')
    (cs : List Char) : bracketDepth (cs ++ [c]) = bracketDepth cs := by
  rw [bracketDepth_concat, depthAfter, if_neg (by simpa using hopen), if_neg (by simp [hclose])]

theorem bracketDepth_concat_close {cs : List Char} (h : cs.getLast? ≠ some '-') :
    bracketDepth (cs ++ ['>']) = bracketDepth cs - 1 := by
  rw [bracketDepth_concat, depthAfter, List.head?_reverse, if_neg (by decide), if_pos (by simp [h])]

/-- A bracket that lowers the depth is a closing one, and not that of an arrow. -/
theorem of_depth_concat_lt {cs : List Char} {c : Char}
    (h : bracketDepth (cs ++ [c]) < bracketDepth cs) : c = '>' ∧ cs.getLast? ≠ some '-' := by
  rw [bracketDepth_concat, depthAfter, List.head?_reverse] at h
  split at h
  · omega
  · split at h
    · next hclose => simpa using hclose
    · omega

/-- The depths of two texts add up, unless an arrow comes about between them. -/
theorem bracketDepth_append {cs : List Char} (hcs : cs.getLast? ≠ some '-') (ds : List Char) :
    bracketDepth (cs ++ ds) = bracketDepth cs + bracketDepth ds := by
  induction ds using List.reverseRecOn with
  | nil =>
    rw [List.append_nil]
    exact (Int.add_zero _).symm
  | append_singleton ds d ih =>
    have hadd : ∀ e before, depthAfter (bracketDepth cs + e) before d =
        bracketDepth cs + depthAfter e before d := by
      intro e before
      unfold depthAfter
      split
      · omega
      · split <;> omega
    rw [← List.append_assoc, bracketDepth_concat, bracketDepth_concat, ih, hadd]
    rcases List.eq_nil_or_concat ds with rfl | ⟨init, e, rfl⟩
    · -- the last character in front of `ds` is no hyphen, so `ds` may as well begin the text
      unfold depthAfter
      simp [hcs]
    · simp [depthAfter]

/-- A bracket opened in front of a text puts all of it one deeper. -/
theorem bracketDepth_cons_open (cs : List Char) : bracketDepth ('<' :: cs) = 1 + bracketDepth cs :=
  bracketDepth_append (by decide : ['<'].getLast? ≠ some '-') cs

/-! ## Matching brackets -/

/-- The brackets of a text match. -/
structure Balanced (cs : List Char) : Prop where
  /-- No bracket is closed that has not been opened before. -/
  nonneg : ∀ p, p <+: cs → 0 ≤ bracketDepth p
  closed : bracketDepth cs = 0

instance (cs : List Char) : Decidable (Balanced cs) :=
  decidable_of_iff ((∀ p ∈ cs.inits, 0 ≤ bracketDepth p) ∧ bracketDepth cs = 0) <| by
    constructor
    · rintro ⟨hnonneg, hclosed⟩
      exact ⟨fun p hp => hnonneg p ((List.mem_inits ..).mpr hp), hclosed⟩
    · rintro ⟨hnonneg, hclosed⟩
      exact ⟨fun p hp => hnonneg p ((List.mem_inits ..).mp hp), hclosed⟩

theorem balanced_nil : Balanced [] := by decide

/-- What is in front of a place where the depth is 0 is balanced. -/
theorem Balanced.left {cs ds : List Char} (h : Balanced (cs ++ ds)) (hcs : bracketDepth cs = 0) :
    Balanced cs :=
  ⟨fun p hp => h.nonneg p (hp.trans (List.prefix_append ..)), hcs⟩

/-- So is what is behind it, unless an arrow is cut there. -/
theorem Balanced.right {cs ds : List Char} (h : Balanced (cs ++ ds)) (hcs : bracketDepth cs = 0)
    (hlast : cs.getLast? ≠ some '-') : Balanced ds := by
  constructor
  · intro p hp
    have hnonneg := h.nonneg (cs ++ p) ((List.prefix_append_right_inj cs).mpr hp)
    rw [bracketDepth_append hlast] at hnonneg
    omega
  · have hclosed := h.closed
    rw [bracketDepth_append hlast] at hclosed
    omega

/-- A text closes no bracket that it has not opened, or there is a first one that it closes. -/
theorem nonneg_or_closes (cs : List Char) :
    (∀ p, p <+: cs → 0 ≤ bracketDepth p) ∨
      ∃ inner rest, cs = inner ++ '>' :: rest ∧ Balanced inner ∧ inner.getLast? ≠ some '-' := by
  induction cs using List.reverseRecOn with
  | nil =>
    left
    intro p hp
    rw [List.prefix_nil.mp hp]
    decide
  | append_singleton cs c ih =>
    rcases ih with hnonneg | ⟨inner, rest, rfl, hinner⟩
    · by_cases hc : 0 ≤ bracketDepth (cs ++ [c])
      · left
        intro p hp
        rcases List.prefix_concat_iff.mp hp with rfl | hp
        · exact hc
        · exact hnonneg p hp
      · right
        have hcs := hnonneg cs (List.prefix_refl cs)
        have hlt : bracketDepth (cs ++ [c]) < bracketDepth cs := by omega
        obtain ⟨rfl, hlast⟩ := of_depth_concat_lt hlt
        rw [bracketDepth_concat_close hlast] at hc
        exact ⟨cs, [], rfl, ⟨hnonneg, by omega⟩, hlast⟩
    · right
      exact ⟨inner, rest ++ [c], by simp, hinner⟩

/-- What a text begins with is in front of a character that it does not have. -/
theorem prefix_of_not_mem {mark cs rest : List Char} {c : Char} (hc : c ∉ mark)
    (h : mark <+: cs ++ c :: rest) : mark <+: cs := by
  have hcut : cs ++ [c] <+: cs ++ c :: rest :=
    (List.prefix_append_right_inj cs).mpr (List.prefix_append [c] rest)
  rcases List.prefix_or_prefix_of_prefix h hcut with hshort | hlong
  · rcases List.prefix_concat_iff.mp hshort with rfl | hwithin
    · exact absurd (by simp) hc
    · exact hwithin
  · exact absurd (hlong.subset (by simp)) hc

/-- A balanced text does not go on behind a bracket that it would close without having opened it. -/
theorem prefix_of_closes {inner rest cs : List Char} (hinner : Balanced inner)
    (hlast : inner.getLast? ≠ some '-') (hcs : Balanced cs) (h : cs <+: inner ++ '>' :: rest) :
    cs <+: inner := by
  rcases List.prefix_or_prefix_of_prefix h (List.prefix_append ..) with hshort | ⟨more, rfl⟩
  · exact hshort
  · rw [List.prefix_append_right_inj] at h
    cases more with
    | nil => simp
    | cons c more =>
      obtain ⟨rfl, -⟩ := List.cons_prefix_cons.mp h
      have hclosed : inner ++ ['>'] <+: inner ++ '>' :: more :=
        (List.prefix_append_right_inj inner).mpr (List.prefix_append ['>'] more)
      have hnonneg := hcs.nonneg _ hclosed
      rw [bracketDepth_concat_close hlast, hinner.closed] at hnonneg
      omega

/-! ## Marks outside brackets -/

/-- A mark parts a text behind `before`, outside brackets. -/
def PartedAt (mark before cs : List Char) : Prop := before ++ mark <+: cs ∧ bracketDepth before = 0

/-- Nowhere in a text does the mark stand outside brackets. -/
def Unparted (mark cs : List Char) : Prop := ∀ before, ¬ PartedAt mark before cs

/-- A mark parts a text behind `before`, and nowhere in front of that. -/
structure FirstPartedAt (mark before cs : List Char) : Prop where
  parted : PartedAt mark before cs
  first : ∀ other, PartedAt mark other cs → before <+: other

section Marks

variable {mark before cs : List Char}

theorem PartedAt.mem_inits (h : PartedAt mark before cs) : before ∈ cs.inits :=
  (List.mem_inits ..).mpr ((List.prefix_append ..).trans h.1)

instance : Decidable (PartedAt mark before cs) :=
  inferInstanceAs (Decidable (before ++ mark <+: cs ∧ bracketDepth before = 0))

instance : Decidable (Unparted mark cs) :=
  decidable_of_iff (∀ before ∈ cs.inits, ¬ PartedAt mark before cs)
    ⟨fun h before hparted => h before hparted.mem_inits hparted, fun h before _ => h before⟩

instance : Decidable (FirstPartedAt mark before cs) :=
  decidable_of_iff
    (PartedAt mark before cs ∧ ∀ other ∈ cs.inits, PartedAt mark other cs → before <+: other)
    ⟨fun h => ⟨h.1, fun other hother => h.2 other hother.mem_inits hother⟩,
      fun h => ⟨h.parted, fun other _ => h.first other⟩⟩

theorem FirstPartedAt.unique {other : List Char} (h : FirstPartedAt mark before cs)
    (hother : FirstPartedAt mark other cs) : before = other := by
  have hle := h.first other hother.parted
  have hge := hother.first before h.parted
  exact hle.eq_of_length (Nat.le_antisymm hle.length_le hge.length_le)

end Marks

end LogOrigin.StackFrame
