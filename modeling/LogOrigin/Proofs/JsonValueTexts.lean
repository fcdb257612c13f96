import LogOrigin.Proofs.JsonRoundTrip
import LogOrigin.Proofs.JsonTrailing

/-!
# The text of a value inside another text

The text of a value, perhaps with blanks around it, is read inside of lists and objects as it is
read by itself (`IsValueText.comes`): the machine that comes to its end alone comes to the same node
with other brackets around it, and goes on behind it. So an object that holds such texts is read as
the object of their nodes (`read_pairText`).
-/

namespace LogOrigin.Json

open Byte (comma colon quote openBracket closeBracket openBrace closeBrace)

/-- The text of a value, with nothing but blanks around it. Strings and numerals in it may be of no
use to a reader of their contents. -/
structure IsValueText (text : List UInt8) : Prop where
  whole : (read text).root.isWhole = true
  alone : (read text).trailing = false

/-! ## Tokens with more behind them -/

theorem skipBlanks_append_of_cons {input tail : List UInt8} {b : UInt8}
    (h : skipBlanks input = b :: tail) (rest : List UInt8) :
    skipBlanks (input ++ rest) = b :: (tail ++ rest) := by
  have happend : skipBlanks (input ++ rest) =
      if (skipBlanks input).isEmpty then skipBlanks rest else skipBlanks input ++ rest :=
    List.dropWhile_append
  rw [happend, h]
  rfl

theorem skipBlanks_append_of_nil {input : List UInt8} (h : skipBlanks input = [])
    (rest : List UInt8) : skipBlanks (input ++ rest) = skipBlanks rest := by
  have happend : skipBlanks (input ++ rest) =
      if (skipBlanks input).isEmpty then skipBlanks rest else skipBlanks input ++ rest :=
    List.dropWhile_append
  rw [happend, h]
  rfl

/-- Behind its closing quote, nothing matters to a string. -/
theorem readString_append_of_closed {done : List UInt8} {lead : Option Nat}
    {flaw : Option TextFault} {input tail : List UInt8} {contents : Except TextFault String}
    (h : readString done lead flaw input = .closed contents tail) (rest : List UInt8) :
    readString done lead flaw (input ++ rest) = .closed contents (tail ++ rest) := by
  fun_induction readString done lead flaw input with
  | case4 done flaw b hb e he h₁ h₂ h₃ h₄ tail unit first hunit htrail ih
  | case5 done flaw b hb e he h₁ h₂ h₃ h₄ tail unit first hunit htrail ih
  | case6 done flaw b hb e he h₁ h₂ h₃ h₄ tail unit hunit htrail ih =>
    simp only [List.cons_append, readString, hb, he, hunit, htrail, if_true]
    exact ih h
  | case7 done flaw b hb e he h₁ h₂ h₃ h₄ tail unit hunit htrail hlead ih
  | case8 done flaw b hb e he h₁ h₂ h₃ h₄ tail unit hunit htrail hlead ih =>
    simp only [List.cons_append, readString, hb, he, hunit, htrail, hlead, if_true]
    exact ih h
  | case10 done lead flaw b hb e tail he flaw' plain hplain ih =>
    rw [List.cons_append, List.cons_append, readString.eq_def]
    simp only [hb, he, hplain, if_true]
    exact ih h
  | case12 done lead flaw b tail hb flaw' hquote =>
    rw [List.cons_append, readString.eq_def]
    simp only [hb, hquote, if_true]
    cases h
    rfl
  | case14 done lead flaw b tail hb flaw' hquote hcontrol ih =>
    rw [List.cons_append, readString.eq_def]
    simp only [hb, hquote, hcontrol]
    exact ih h
  | _ => cases h

theorem Delimited.apart {rest : List UInt8} (h : Delimited rest) : Apart rest :=
  fun b hb => .inr (h b hb)

/-- A scalar that is complete is complete before a delimiter. -/
theorem readScalar_append_of_complete {b : UInt8} {after tail : List UInt8} {node : Node}
    (h : readScalar b after = (node, some tail)) {rest : List UInt8} (hrest : Delimited rest) :
    readScalar b (after ++ rest) = (node, some (tail ++ rest)) := by
  cases hquote : b == quote with
  | true =>
    simp only [readScalar, hquote, if_true] at h ⊢
    split at h
    next contents after' hstring =>
      cases h
      rw [readString_append_of_closed hstring]
    next => cases h
  | false =>
    have hscalar := readScalar_apart hrest.apart hquote after
    rw [h] at hscalar
    generalize readScalar b (after ++ rest) = scalar at hscalar ⊢
    cases hscalar with
    | complete => rfl

/-- A scalar at which reading stops is broken. -/
theorem not_whole_of_none {b : UInt8} {after : List UInt8} {node : Node}
    (h : readScalar b after = (node, none)) : node.isWhole = false := by
  have hscalar := readScalar_append b after
  rw [h] at hscalar
  generalize readScalar b (after ++ [Byte.carriageReturn]) = scalar at hscalar
  cases hscalar
  rfl

/-! ## The machine -/

section Machine

variable {fuel : Nat} {stack : List Frame} {input rest : List UInt8} {node value : Node}

theorem not_stopped {broken : Node} (hbroken : broken.isWhole = false)
    (hwhole : node.isWhole = true) (h : stopped broken stack = ⟨node, false⟩) : False := by
  have hstopped := not_whole_stopped hbroken stack
  rw [h] at hstopped
  exact absurd hstopped (by simp [hwhole])

/-- With so much fuel, a task that leads to a whole node and to the end of the text leads to the
same node above any stack, and before what delimits it. -/
def Completes (fuel : Nat) : Prop :=
  ∀ task stack input node, run fuel task stack input = ⟨node, false⟩ → node.isWhole = true →
    ∀ below rest, Delimited rest →
      Comes fuel task (stack ++ below) (input ++ rest) (.place node) below rest

theorem Comes.of_step {most : Nat} {task task' task'' : Task} {stack stack' stack'' : List Frame}
    {input input' input'' : List UInt8}
    (hstep : ∀ fuel, run (fuel + 1) task stack input = run fuel task' stack' input')
    (h : Comes most task' stack' input' task'' stack'' input'') :
    Comes (most + 1) task stack input task'' stack'' input'' :=
  ((comes_step hstep).trans h).mono (by omega)

theorem completes_value (ih : Completes fuel)
    (h : run (fuel + 1) .value stack input = ⟨node, false⟩) (hwhole : node.isWhole = true)
    (below : List Frame) (hrest : Delimited rest) :
    Comes (fuel + 1) .value (stack ++ below) (input ++ rest) (.place node) below rest := by
  cases hskip : skipBlanks input with
  | nil =>
    simp only [run, hskip] at h
    exact (not_stopped rfl hwhole h).elim
  | cons b after =>
    have hskip' := skipBlanks_append_of_cons hskip rest
    simp only [run, hskip] at h
    split at h
    next hlist =>
      cases hafter : skipBlanks after with
      | nil =>
        rw [hafter] at h
        exact (not_stopped rfl hwhole h).elim
      | cons c inside =>
        have hafter' := skipBlanks_append_of_cons hafter rest
        rw [hafter] at h
        dsimp only at h
        split at h
        next hend =>
          refine .of_step (fun fuel => ?_) (ih _ _ _ _ h hwhole below rest hrest)
          simp only [run, hskip', hlist, hafter', hend, if_true]
        next hend =>
          refine .of_step (fun fuel => ?_) (ih _ _ _ _ h hwhole below rest hrest)
          simp only [run, hskip', hlist, hafter', hend, if_true]
          rfl
    next hlist =>
      split at h
      next hobject =>
        refine .of_step (fun fuel => ?_) (ih _ _ _ _ h hwhole below rest hrest)
        simp only [run, hskip', hlist, hobject, if_true]
        rfl
      next hobject =>
        split at h
        next value tail hscalar =>
          have hscalar' := readScalar_append_of_complete hscalar hrest
          refine .of_step (fun fuel => ?_) (ih _ _ _ _ h hwhole below rest hrest)
          simp only [run, hskip', hlist, hobject, hscalar']
          rfl
        next broken hscalar => exact (not_stopped (not_whole_of_none hscalar) hwhole h).elim

theorem completes_key (ih : Completes fuel) (done : List (Key × Node)) (first : Bool)
    (h : run (fuel + 1) (.key done first) stack input = ⟨node, false⟩)
    (hwhole : node.isWhole = true) (below : List Frame) (hrest : Delimited rest) :
    Comes (fuel + 1) (.key done first) (stack ++ below) (input ++ rest) (.place node) below
      rest := by
  cases hskip : skipBlanks input with
  | nil =>
    simp only [run, hskip] at h
    exact (not_stopped (by cases first <;> rfl) hwhole h).elim
  | cons b after =>
    have hskip' := skipBlanks_append_of_cons hskip rest
    simp only [run, hskip] at h
    split at h
    next hquote =>
      split at h
      next => exact (not_stopped rfl hwhole h).elim
      next key behind hstring =>
        have hstring' := readString_append_of_closed hstring rest
        cases hbehind : skipBlanks behind with
        | nil =>
          rw [hbehind] at h
          exact (not_stopped rfl hwhole h).elim
        | cons c value =>
          have hbehind' := skipBlanks_append_of_cons hbehind rest
          rw [hbehind] at h
          dsimp only at h
          split at h
          next hcolon =>
            refine .of_step (fun fuel => ?_) (ih _ _ _ _ h hwhole below rest hrest)
            simp only [run, hskip', hquote, hstring', hbehind', hcolon, if_true]
            rfl
          next => exact (not_stopped rfl hwhole h).elim
    next hquote =>
      split at h
      next hend =>
        split at h
        next hfirst =>
          refine .of_step (fun fuel => ?_) (ih _ _ _ _ h hwhole below rest hrest)
          simp only [run, hskip', hquote, hend, hfirst, if_true]
          rfl
        next => exact (not_stopped rfl hwhole h).elim
      next => exact (not_stopped rfl hwhole h).elim

/-- Blanks behind a complete value do not matter. -/
theorem run_place_of_blanks (hblanks : skipBlanks input = []) (value : Node) (stack : List Frame)
    (rest : List UInt8) (fuel : Nat) :
    run fuel (.place value) stack (input ++ rest) = run fuel (.place value) stack rest := by
  have hskip := skipBlanks_append_of_nil hblanks rest
  cases fuel with
  | zero => rfl
  | succ fuel =>
    rcases stack with _ | ⟨⟨done⟩ | ⟨done, key⟩, stack⟩ <;> simp only [run, hskip]

theorem completes_place_root (h : run (fuel + 1) (.place value) [] input = ⟨node, false⟩)
    (below : List Frame) (rest : List UInt8) :
    Comes (fuel + 1) (.place value) ([] ++ below) (input ++ rest) (.place node) below rest := by
  rw [run, Document.mk.injEq, Bool.not_eq_false', List.isEmpty_iff] at h
  obtain ⟨rfl, hblanks⟩ := h
  exact ⟨0, Nat.zero_le _, run_place_of_blanks hblanks value below rest⟩

theorem completes_place_item (ih : Completes fuel) (done : List Node)
    (h : run (fuel + 1) (.place value) (.list done :: stack) input = ⟨node, false⟩)
    (hwhole : node.isWhole = true) (below : List Frame) (hrest : Delimited rest) :
    Comes (fuel + 1) (.place value) (.list done :: stack ++ below) (input ++ rest) (.place node)
      below rest := by
  cases hskip : skipBlanks input with
  | nil =>
    simp only [run, hskip] at h
    exact (not_stopped rfl hwhole h).elim
  | cons b after =>
    have hskip' := skipBlanks_append_of_cons hskip rest
    simp only [run, hskip] at h
    split at h
    next hcomma =>
      cases hafter : skipBlanks after with
      | nil =>
        rw [hafter] at h
        exact (not_stopped rfl hwhole h).elim
      | cons c item =>
        have hafter' := skipBlanks_append_of_cons hafter rest
        rw [hafter] at h
        dsimp only at h
        split at h
        next => exact (not_stopped rfl hwhole h).elim
        next hend =>
          refine .of_step (fun fuel => ?_) (ih _ _ _ _ h hwhole below rest hrest)
          simp only [List.cons_append, run, hskip', hcomma, hafter', hend, if_true]
          rfl
    next hcomma =>
      split at h
      next hend =>
        refine .of_step (fun fuel => ?_) (ih _ _ _ _ h hwhole below rest hrest)
        simp only [List.cons_append, run, hskip', hcomma, hend, if_true]
        rfl
      next => exact (not_stopped rfl hwhole h).elim

theorem completes_place_member (ih : Completes fuel) (done : List (Key × Node)) (key : Key)
    (h : run (fuel + 1) (.place value) (.object done key :: stack) input = ⟨node, false⟩)
    (hwhole : node.isWhole = true) (below : List Frame) (hrest : Delimited rest) :
    Comes (fuel + 1) (.place value) (.object done key :: stack ++ below) (input ++ rest)
      (.place node) below rest := by
  cases hskip : skipBlanks input with
  | nil =>
    simp only [run, hskip] at h
    exact (not_stopped rfl hwhole h).elim
  | cons b after =>
    have hskip' := skipBlanks_append_of_cons hskip rest
    simp only [run, hskip] at h
    split at h
    next hcomma =>
      refine .of_step (fun fuel => ?_) (ih _ _ _ _ h hwhole below rest hrest)
      simp only [List.cons_append, run, hskip', hcomma, if_true]
    next hcomma =>
      split at h
      next hend =>
        refine .of_step (fun fuel => ?_) (ih _ _ _ _ h hwhole below rest hrest)
        simp only [List.cons_append, run, hskip', hcomma, hend, if_true]
        rfl
      next => exact (not_stopped rfl hwhole h).elim

end Machine

theorem completes (fuel : Nat) : Completes fuel := by
  induction fuel with
  | zero =>
    intro task stack input node h hwhole
    exact (not_stopped rfl hwhole h).elim
  | succ fuel ih =>
    intro task stack input node h hwhole below rest hrest
    cases task with
    | value => exact completes_value ih h hwhole below hrest
    | key done first => exact completes_key ih done first h hwhole below hrest
    | place value =>
      rcases stack with _ | ⟨⟨done⟩ | ⟨done, key⟩, stack⟩
      · exact completes_place_root h below rest
      · exact completes_place_item ih done h hwhole below hrest
      · exact completes_place_member ih done key h hwhole below hrest

/-! ## Texts in texts -/

/-- Inside of lists and objects, the text of a value is read as by itself. -/
theorem IsValueText.comes {text : List UInt8} (h : IsValueText text) (stack : List Frame)
    {rest : List UInt8} (hrest : Delimited rest) :
    Comes (2 * text.length + 2) .value stack (text ++ rest) (.place (read text).root) stack rest :=
  have hread : read text = ⟨(read text).root, false⟩ := by rw [← h.alone]
  completes _ .value [] text _ hread h.whole stack rest hrest

/-- What a value is written as is the text of a value. -/
theorem Value.Over.isValueText {v : Value} (h : v.Over Value.IsExactInteger) :
    IsValueText v.render := by
  have hread := h.read_render
  exact ⟨by rw [hread]; cases v <;> rfl, by rw [hread]⟩

/-- The text of a member, given that of its value. -/
def memberOf (key : String) (text : List UInt8) : List UInt8 :=
  (textPieces key).flatten ++ colon :: text

/-- The text of an object with two members, given those of their values. -/
def pairText (key key' : String) (text text' : List UInt8) : List UInt8 :=
  openBrace :: (memberOf key text ++ comma :: (memberOf key' text' ++ [closeBrace]))

theorem IsValueText.comes_memberOf {text : List UInt8} (h : IsValueText text)
    (done : List (Key × Node)) (first : Bool) (stack : List Frame) (key : String)
    {rest : List UInt8} (hrest : Delimited rest) :
    Comes (2 * (memberOf key text).length + 1) (.key done first) stack (memberOf key text ++ rest)
      (.place (read text).root) (.object done (.ok key) :: stack) rest := by
  have hkey := comes_key done first stack key (text ++ rest)
  have hall := hkey.trans (h.comes (.object done (.ok key) :: stack) hrest)
  rw [memberOf, List.append_assoc, List.cons_append]
  refine hall.mono ?_
  simp only [List.length_append, List.length_cons]
  omega

/-- An object of two texts is read as the object of their nodes. -/
theorem read_pairText (key key' : String) {text text' : List UInt8} (h : IsValueText text)
    (h' : IsValueText text') :
    read (pairText key key' text text') =
      ⟨.object [(.ok key, (read text).root), (.ok key', (read text').root)] .closed, false⟩ := by
  have hstart := comes_objectStart []
    (memberOf key text ++ comma :: (memberOf key' text' ++ [closeBrace]))
  have hfirst := h.comes_memberOf [] true [] key
    (delimited_cons (.inl rfl) (memberOf key' text' ++ [closeBrace]))
  have hcomma := comes_objectMember [] (.ok key) (read text).root []
    (memberOf key' text' ++ [closeBrace])
  have hsecond := h'.comes_memberOf [(.ok key, (read text).root)] false [] key'
    (delimited_cons (.inr (.inr rfl)) [])
  have hend := comes_objectEnd [(.ok key, (read text).root)] (.ok key') (read text').root [] []
  obtain ⟨k, hk, hrun⟩ := (((hstart.trans hfirst).trans hcomma).trans hsecond).trans hend
  have hlength : (pairText key key' text text').length =
      (memberOf key text).length + (memberOf key' text').length + 3 := by
    simp only [pairText, List.length_cons, List.length_append, List.length_nil]
    omega
  have hfuel : 2 * (pairText key key' text text').length + 2 =
      2 * (pairText key key' text text').length + 1 - k + 1 + k := by omega
  rw [read, hfuel]
  exact hrun _

end LogOrigin.Json
