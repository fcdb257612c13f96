import LogOrigin.Json.Reader

/-!
# JSON text with a carriage return behind it

A carriage return behind a text is a blank. A text that comes to its end comes to the same document
with it; one that breaks off breaks off with it too, if perhaps with another complaint.
-/

namespace LogOrigin.Json

open Byte (carriageReturn)

/-! ## Documents that break off -/

/-- The node ends where its text says that it ends. -/
def Node.isWhole : Node → Bool
  | list _ .closed | object _ .closed => true
  | list _ _ | object _ _ | broken _ => false
  | _ => true

theorem Frame.not_whole_endInside (frame : Frame) (last : Node) (passing : TextFault) :
    (frame.endInside last passing).isWhole = false := by
  cases frame <;> rfl

/-- A document whose innermost node breaks off breaks off. -/
theorem not_whole_stopped {node : Node} (h : node.isWhole = false) (stack : List Frame) :
    (stopped node stack).root.isWhole = false := by
  have hfold : ∀ (passing : TextFault) (stack : List Frame) (last : Node), last.isWhole = false →
      (stack.foldl (fun last frame => frame.endInside last passing) last).isWhole = false := by
    intro passing stack
    induction stack with
    | nil => exact fun last hlast => hlast
    | cons frame stack ih => exact fun last _ => ih _ (frame.not_whole_endInside last passing)
  exact hfold _ stack node h

/-- Two documents are the same, or both break off. -/
def Alike (d d' : Document) : Prop := d' = d ∨ d.root.isWhole = false ∧ d'.root.isWhole = false

theorem alike_stopped {node node' : Node} (h : node.isWhole = false) (h' : node'.isWhole = false)
    (stack : List Frame) : Alike (stopped node stack) (stopped node' stack) :=
  .inr ⟨not_whole_stopped h stack, not_whole_stopped h' stack⟩

/-! ## Strings -/

/-- A string as it is read with a carriage return behind the text. -/
inductive StringToken.Follows (most : Nat) : StringToken → StringToken → Prop where
  | closed (contents : Except TextFault String) (rest : List UInt8) (h : rest.length ≤ most) :
      Follows most (.closed contents rest) (.closed contents (rest ++ [carriageReturn]))
  | cut (b b' : Broken) : Follows most (.cut b) (.cut b')

theorem StringToken.Follows.mono {t t' : StringToken} {most more : Nat} (h : t.Follows most t')
    (hle : most ≤ more) : t.Follows more t' := by
  cases h with
  | closed contents rest hrest => exact .closed contents rest (Nat.le_trans hrest hle)
  | cut b b' => exact .cut b b'

/-- Four bytes with a carriage return among them are no unit. -/
theorem hexUnit?_carriageReturn (a b c : UInt8) : hexUnit? a b c carriageReturn = none := by
  have hcr : Byte.hexDigit? carriageReturn = none := by decide
  simp only [hexUnit?, hcr]
  cases Byte.hexDigit? a <;> cases Byte.hexDigit? b <;> cases Byte.hexDigit? c <;> rfl

/-- A string that is closed is closed with a carriage return behind the text, and one that breaks off
breaks off. -/
theorem readString_append (done : List UInt8) (lead : Option Nat) (flaw : Option TextFault)
    (input : List UInt8) :
    (readString done lead flaw input).Follows input.length
      (readString done lead flaw (input ++ [carriageReturn])) := by
  fun_induction readString done lead flaw input with
  | case1 done lead flaw => exact .cut _ _
  | case2 done lead flaw b hb =>
    rw [List.cons_append, readString.eq_def]
    simp only [hb, if_true, List.nil_append]
    exact .cut _ _
  | case3 done lead flaw b hb e he h₁ h₂ h₃ h₄ rest hunit =>
    simp only [List.cons_append, readString, hb, he, hunit, if_true]
    exact .cut _ _
  | case4 done flaw b hb e he h₁ h₂ h₃ h₄ rest unit first hunit htrail ih =>
    simp only [List.cons_append, readString, hb, he, hunit, htrail, if_true]
    exact ih.mono (by simp; omega)
  | case5 done flaw b hb e he h₁ h₂ h₃ h₄ rest unit first hunit htrail ih =>
    simp only [List.cons_append, readString, hb, he, hunit, htrail, if_true]
    exact ih.mono (by simp; omega)
  | case6 done flaw b hb e he h₁ h₂ h₃ h₄ rest unit hunit htrail ih =>
    simp only [List.cons_append, readString, hb, he, hunit, htrail, if_true]
    exact ih.mono (by simp; omega)
  | case7 done flaw b hb e he h₁ h₂ h₃ h₄ rest unit hunit htrail hlead ih =>
    simp only [List.cons_append, readString, hb, he, hunit, htrail, hlead, if_true]
    exact ih.mono (by simp; omega)
  | case8 done flaw b hb e he h₁ h₂ h₃ h₄ rest unit hunit htrail hlead ih =>
    simp only [List.cons_append, readString, hb, he, hunit, htrail, hlead, if_true]
    exact ih.mono (by simp; omega)
  | case9 done lead flaw b hb e rest he hshort =>
    rcases rest with _ | ⟨h₁, _ | ⟨h₂, _ | ⟨h₃, _ | ⟨h₄, rest⟩⟩⟩⟩
    · simp only [List.cons_append, List.nil_append, readString, hb, he, if_true]
      exact .cut _ _
    · simp only [List.cons_append, List.nil_append, readString, hb, he, if_true]
      exact .cut _ _
    · simp only [List.cons_append, List.nil_append, readString, hb, he, if_true]
      exact .cut _ _
    · simp only [List.cons_append, List.nil_append, readString, hb, he, if_true,
        hexUnit?_carriageReturn]
      exact .cut _ _
    · exact (hshort _ _ _ _ _ rfl).elim
  | case10 done lead flaw b hb e rest he flaw' plain hplain ih =>
    have hnext : readString done lead flaw (b :: e :: (rest ++ [carriageReturn])) =
        readString (plain :: done) none flaw' (rest ++ [carriageReturn]) := by
      rw [readString.eq_def]
      simp only [hb, he, hplain, if_true]
      rfl
    rw [List.cons_append, List.cons_append, hnext]
    exact ih.mono (by simp; omega)
  | case11 done lead flaw b hb e rest he flaw' hplain =>
    simp only [List.cons_append]
    rw [readString.eq_def]
    simp only [hb, he, hplain, if_true]
    exact .cut _ _
  | case12 done lead flaw b rest hb flaw' hquote =>
    simp only [List.cons_append]
    rw [readString.eq_def]
    simp only [hb, hquote, if_true]
    exact .closed _ _ (by simp)
  | case13 done lead flaw b rest hb flaw' hquote hcontrol =>
    simp only [List.cons_append]
    rw [readString.eq_def]
    simp only [hb, hquote, hcontrol, if_true]
    exact .cut _ _
  | case14 done lead flaw b rest hb flaw' hquote hcontrol ih =>
    have hnext : readString done lead flaw (b :: (rest ++ [carriageReturn])) =
        readString (b :: done) none flaw' (rest ++ [carriageReturn]) := by
      rw [readString.eq_def]
      simp only [hb, hquote, hcontrol]
      rfl
    rw [List.cons_append, hnext]
    exact ih.mono (by simp)

/-! ## Numerals and words -/

/-- Bytes that neither a numeral nor a word goes on with. -/
def Apart (more : List UInt8) : Prop :=
  ∀ b ∈ more.head?,
    b = carriageReturn ∨ b = Byte.comma ∨ b = Byte.closeBracket ∨ b = Byte.closeBrace

theorem apart_return : Apart [carriageReturn] := fun _ hb => .inl (Option.some.inj hb).symm

theorem Apart.cases {more : List UInt8} (h : Apart more) :
    more = [] ∨ ∃ b tail, more = b :: tail ∧ Byte.isDigit b = false ∧ (b == Byte.plus) = false ∧
      (b == Byte.minus) = false ∧ (b == Byte.dot) = false ∧
      readNumeral.isExponentMark b = false := by
  cases more with
  | nil => exact .inl rfl
  | cons b tail =>
    refine .inr ⟨b, tail, rfl, ?_⟩
    obtain rfl | rfl | rfl | rfl := h b rfl <;> decide

/-- A value as it is read with more bytes behind the text. -/
inductive Follows (more : List UInt8) (most : Nat) :
    Node × Option (List UInt8) → Node × Option (List UInt8) → Prop where
  | complete (node : Node) (rest : List UInt8) (h : rest.length ≤ most) :
      Follows more most (node, some rest) (node, some (rest ++ more))
  | broken (b b' : Broken) : Follows more most (.broken b, none) (.broken b', none)

section Numerals

variable {more : List UInt8}

theorem Follows.mono {r r' : Node × Option (List UInt8)} {most greater : Nat}
    (h : Follows more most r r') (hle : most ≤ greater) : Follows more greater r r' := by
  cases h with
  | complete node rest hrest => exact .complete node rest (Nat.le_trans hrest hle)
  | broken b b' => exact .broken b b'

/-- The digits at the front come to their end before what is apart. -/
theorem digitsAtFront_append (hmore : Apart more) (input : List UInt8) :
    digitsAtFront (input ++ more) =
      ((digitsAtFront input).1, (digitsAtFront input).2 ++ more) := by
  induction input with
  | nil =>
    obtain rfl | ⟨b, tail, rfl, hdigit, -⟩ := hmore.cases
    · rfl
    · simp [digitsAtFront, hdigit]
  | cons b input ih =>
    simp only [digitsAtFront, Prod.mk.injEq] at ih ⊢
    cases hb : Byte.isDigit b with
    | true =>
      simp only [List.cons_append, List.takeWhile_cons, List.dropWhile_cons, hb, if_true,
        List.map_cons, ih]
      exact ⟨trivial, trivial⟩
    | false =>
      simp only [List.cons_append, List.takeWhile_cons, List.dropWhile_cons, hb,
        Bool.false_eq_true, if_false]
      exact ⟨trivial, trivial⟩

theorem length_digitsAtFront (input : List UInt8) :
    (digitsAtFront input).2.length ≤ input.length :=
  (List.dropWhile_suffix _).length_le

/-- The digits of an exponent come to their end before what is apart. -/
theorem digits_append (hmore : Apart more) (make : List Nat → Node) (input : List UInt8)
    {most : Nat} (hlength : input.length ≤ most) :
    Follows more most
      (if (digitsAtFront input).1.isEmpty then
          (.broken (missingDigit (digitsAtFront input).2), none)
        else (make (digitsAtFront input).1, some (digitsAtFront input).2))
      (if (digitsAtFront (input ++ more)).1.isEmpty then
          (.broken (missingDigit (digitsAtFront (input ++ more)).2), none)
        else (make (digitsAtFront (input ++ more)).1, some (digitsAtFront (input ++ more)).2)) := by
  rw [digitsAtFront_append hmore]
  cases hempty : (digitsAtFront input).1.isEmpty with
  | true => exact .broken _ _
  | false => exact .complete _ _ (Nat.le_trans (length_digitsAtFront input) hlength)

theorem scaled_append (hmore : Apart more) (negative : Bool) (significand : Nat) (exponent : Int)
    (input : List UInt8) :
    Follows more input.length (readNumeral.scaled negative significand exponent input)
      (readNumeral.scaled negative significand exponent (input ++ more)) := by
  cases input with
  | nil =>
    obtain rfl | ⟨b, tail, rfl, -, hplus, hminus, -⟩ := hmore.cases
    · exact .broken _ _
    · simp only [List.nil_append, readNumeral.scaled, hplus, hminus, Bool.false_eq_true, if_false]
      exact digits_append hmore (fun digits => .number
        (withExponent negative significand exponent false digits)) [] (Nat.le_refl _)
  | cons s rest =>
    rw [List.cons_append, readNumeral.scaled, readNumeral.scaled]
    by_cases hplus : s == Byte.plus
    · simp only [hplus, if_true]
      exact digits_append hmore (fun digits => .number
        (withExponent negative significand exponent false digits)) rest (Nat.le_succ _)
    · by_cases hminus : s == Byte.minus
      · simp only [hplus, hminus, if_true]
        exact digits_append hmore (fun digits => .number
          (withExponent negative significand exponent true digits)) rest (Nat.le_succ _)
      · simp only [hplus, hminus]
        exact digits_append hmore (fun digits => .number
          (withExponent negative significand exponent false digits)) (s :: rest) (Nat.le_refl _)

/-- What is apart is neither a dot nor the letter of an exponent. -/
theorem readNumeral_append (hmore : Apart more) (negative : Bool) (input : List UInt8) :
    Follows more input.length (readNumeral negative input)
      (readNumeral negative (input ++ more)) := by
  have hlength := length_digitsAtFront input
  simp only [readNumeral, digitsAtFront_append hmore]
  generalize hdigits : digitsAtFront input = digits at hlength ⊢
  obtain ⟨whole, rest⟩ := digits
  dsimp only at hlength ⊢
  split
  next => exact .broken _ _
  next => exact .broken _ _
  next =>
    cases rest with
    | nil =>
      obtain rfl | ⟨b, tail, rfl, -, -, -, hdot, hmark⟩ := hmore.cases
      · exact .complete _ [] (Nat.zero_le _)
      · simp only [List.nil_append, hdot, hmark]
        exact .complete _ [] (Nat.zero_le _)
    | cons b afterMark =>
      have hafter := length_digitsAtFront afterMark
      have hlt : afterMark.length < input.length := hlength
      simp only [List.cons_append]
      by_cases hdot : b == Byte.dot
      · simp only [hdot, if_true, digitsAtFront_append hmore]
        generalize digitsAtFront afterMark = digits at hafter ⊢
        obtain ⟨fraction, rest⟩ := digits
        dsimp only at hafter ⊢
        cases fraction.isEmpty with
        | true => exact .broken _ _
        | false =>
          simp only [Bool.false_eq_true, if_false]
          cases rest with
          | nil =>
            obtain rfl | ⟨e, tail, rfl, -, -, -, -, hmark⟩ := hmore.cases
            · exact .complete _ [] (Nat.zero_le _)
            · simp only [List.nil_append, hmark]
              exact .complete _ [] (Nat.zero_le _)
          | cons e afterMark =>
            have hbound : (e :: afterMark).length ≤ input.length :=
              Nat.le_trans hafter (Nat.le_of_lt hlt)
            simp only [List.cons_append]
            by_cases he : readNumeral.isExponentMark e
            · simp only [he, if_true]
              exact (scaled_append hmore _ _ _ afterMark).mono (Nat.le_of_succ_le hbound)
            · simp only [he]
              exact .complete _ (e :: afterMark) hbound
      · by_cases he : readNumeral.isExponentMark b
        · simp only [hdot, he, if_true]
          exact (scaled_append hmore _ _ _ afterMark).mono (Nat.le_of_lt hlt)
        · simp only [hdot, he]
          exact .complete _ (b :: afterMark) hlength

theorem readWord_append (node : Node) {word : List UInt8} (h : ∀ b ∈ more.head?, b ∉ word)
    (input : List UInt8) :
    Follows more input.length (readWord node word input)
      (readWord node word (input ++ more)) := by
  induction word generalizing input with
  | nil => exact .complete node input (Nat.le_refl _)
  | cons w word ih =>
    have hword : ∀ b ∈ more.head?, b ∉ word := fun b hb hmem => h b hb (List.mem_cons_of_mem _ hmem)
    cases input with
    | nil =>
      cases more with
      | nil => exact .broken _ _
      | cons b tail =>
        have hne : w ≠ b := fun heq => h b rfl (heq ▸ List.mem_cons_self ..)
        have hw : (w == b) = false := beq_eq_false_iff_ne.mpr hne
        simp only [List.nil_append, readWord, hw]
        exact .broken _ _
    | cons b rest =>
      cases hb : w == b with
      | true =>
        simp only [List.cons_append, readWord, hb, if_true]
        exact (ih hword rest).mono (by simp)
      | false =>
        simp only [List.cons_append, readWord, hb, Bool.false_eq_true, if_false]
        exact .broken _ _

/-- A word does not go on with what is apart. -/
theorem Apart.not_mem_word (hmore : Apart more) {word : List UInt8}
    (hword : word ∈ [bytesOf "ull", bytesOf "rue", bytesOf "alse"]) :
    ∀ b ∈ more.head?, b ∉ word := by
  intro b hb
  simp only [List.mem_cons, List.not_mem_nil, or_false] at hword
  obtain rfl | rfl | rfl | rfl := hmore b hb <;> obtain rfl | rfl | rfl := hword <;> decide

/-- Outside of strings, a scalar is read alike with what is apart behind the text. -/
theorem readScalar_apart (hmore : Apart more) {b : UInt8} (hquote : (b == Byte.quote) = false)
    (rest : List UInt8) :
    Follows more (rest.length + 1) (readScalar b rest) (readScalar b (rest ++ more)) := by
  simp only [readScalar, hquote, Bool.false_eq_true, if_false]
  split
  next => exact (readNumeral_append hmore true rest).mono (Nat.le_succ _)
  split
  next => exact readNumeral_append hmore false (b :: rest)
  split
  next => exact (readWord_append .null (hmore.not_mem_word (by simp)) rest).mono (Nat.le_succ _)
  split
  next =>
    exact (readWord_append (.bool true) (hmore.not_mem_word (by simp)) rest).mono (Nat.le_succ _)
  split
  next =>
    exact (readWord_append (.bool false) (hmore.not_mem_word (by simp)) rest).mono (Nat.le_succ _)
  next => exact .broken _ _

end Numerals

/-- A scalar is read alike with a carriage return behind the text. -/
theorem readScalar_append (b : UInt8) (rest : List UInt8) :
    Follows [carriageReturn] (rest.length + 1) (readScalar b rest)
      (readScalar b (rest ++ [carriageReturn])) := by
  cases hquote : b == Byte.quote with
  | true =>
    simp only [readScalar, hquote, if_true]
    have hstring := readString_append [] none none rest
    generalize readString [] none none rest = token at hstring ⊢
    generalize readString [] none none (rest ++ [carriageReturn]) = token' at hstring ⊢
    cases hstring with
    | closed contents rest hrest => exact .complete _ rest (Nat.le_succ_of_le hrest)
    | cut b b' => exact .broken b b'
  | false => exact readScalar_apart apart_return hquote rest

/-! ## Documents -/

/-- Blanks are passed over to the same byte, or to the end of the text. -/
theorem skipBlanks_append (input : List UInt8) :
    skipBlanks input = [] ∧ skipBlanks (input ++ [carriageReturn]) = [] ∨
      ∃ b rest, skipBlanks input = b :: rest ∧ rest.length < input.length ∧
        skipBlanks (input ++ [carriageReturn]) = b :: (rest ++ [carriageReturn]) := by
  have hle : (skipBlanks input).length ≤ input.length := (List.dropWhile_suffix _).length_le
  have happend : skipBlanks (input ++ [carriageReturn]) =
      if (skipBlanks input).isEmpty then skipBlanks [carriageReturn]
      else skipBlanks input ++ [carriageReturn] := List.dropWhile_append
  cases hskip : skipBlanks input with
  | nil =>
    rw [happend, hskip]
    exact .inl ⟨rfl, rfl⟩
  | cons b rest =>
    rw [hskip] at hle
    rw [happend, hskip]
    exact .inr ⟨b, rest, rfl, hle, rfl⟩

/-- How much fuel a task takes on a text. -/
def Task.cost (input : List UInt8) : Task → Nat
  | .value | .key _ _ => 2 * input.length + 2
  | .place _ => 2 * input.length + 1

/-- With so much fuel the machine does not mind a carriage return behind the text: it comes to the
same document, or breaks off either way. -/
def Indifferent (fuel : Nat) : Prop :=
  ∀ fuel' task stack input, Task.cost input task ≤ fuel →
    Task.cost (input ++ [carriageReturn]) task ≤ fuel' →
    Alike (run fuel task stack input) (run fuel' task stack (input ++ [carriageReturn]))

section Machine

variable {fuel fuel' : Nat} {input : List UInt8}

theorem alike_value (ih : Indifferent fuel) (stack : List Frame)
    (hfuel : Task.value.cost input ≤ fuel + 1)
    (hfuel' : Task.value.cost (input ++ [carriageReturn]) ≤ fuel' + 1) :
    Alike (run (fuel + 1) .value stack input)
      (run (fuel' + 1) .value stack (input ++ [carriageReturn])) := by
  simp only [Task.cost, List.length_append, List.length_singleton] at hfuel hfuel'
  obtain ⟨hnil, hnil'⟩ | ⟨b, rest, hcons, hlt, hcons'⟩ := skipBlanks_append input
  · simp only [run, hnil, hnil']
    exact alike_stopped rfl rfl stack
  simp only [run, hcons, hcons']
  split
  next =>
    obtain ⟨hnil, hnil'⟩ | ⟨c, after, hcons, hlt', hcons'⟩ := skipBlanks_append rest
    · simp only [hnil, hnil']
      exact alike_stopped rfl rfl stack
    simp only [hcons, hcons']
    split
    next => exact ih _ _ _ after (by simp [Task.cost]; omega) (by simp [Task.cost]; omega)
    next => exact ih _ _ _ (c :: after) (by simp [Task.cost]; omega) (by simp [Task.cost]; omega)
  split
  next => exact ih _ _ _ rest (by simp [Task.cost]; omega) (by simp [Task.cost]; omega)
  next =>
    have hscalar := readScalar_append b rest
    generalize readScalar b rest = scalar at hscalar ⊢
    generalize readScalar b (rest ++ [carriageReturn]) = scalar' at hscalar ⊢
    cases hscalar with
    | complete node rest hrest =>
      exact ih _ _ _ rest (by simp [Task.cost]; omega) (by simp [Task.cost]; omega)
    | broken b b' => exact alike_stopped rfl rfl stack

theorem alike_key (ih : Indifferent fuel) (done : List (Key × Node)) (first : Bool)
    (stack : List Frame) (hfuel : (Task.key done first).cost input ≤ fuel + 1)
    (hfuel' : (Task.key done first).cost (input ++ [carriageReturn]) ≤ fuel' + 1) :
    Alike (run (fuel + 1) (.key done first) stack input)
      (run (fuel' + 1) (.key done first) stack (input ++ [carriageReturn])) := by
  simp only [Task.cost, List.length_append, List.length_singleton] at hfuel hfuel'
  obtain ⟨hnil, hnil'⟩ | ⟨b, rest, hcons, hlt, hcons'⟩ := skipBlanks_append input
  · simp only [run, hnil, hnil']
    exact alike_stopped (by cases first <;> rfl) (by cases first <;> rfl) stack
  simp only [run, hcons, hcons']
  split
  next =>
    have hstring := readString_append [] none none rest
    generalize readString [] none none rest = token at hstring ⊢
    generalize readString [] none none (rest ++ [carriageReturn]) = token' at hstring ⊢
    cases hstring with
    | cut b b' => exact alike_stopped rfl rfl stack
    | closed key rest hrest =>
      obtain ⟨hnil, hnil'⟩ | ⟨c, after, hcons, hlt', hcons'⟩ := skipBlanks_append rest
      · simp only [hnil, hnil']
        exact alike_stopped rfl rfl _
      simp only [hcons, hcons']
      split
      next => exact ih _ _ _ after (by simp [Task.cost]; omega) (by simp [Task.cost]; omega)
      next => exact alike_stopped rfl rfl _
  split
  next =>
    split
    next => exact ih _ _ _ rest (by simp [Task.cost]; omega) (by simp [Task.cost]; omega)
    next => exact alike_stopped rfl rfl stack
  next => exact alike_stopped rfl rfl stack

/-- A root is placed last, and blanks behind it do not matter. -/
theorem alike_place_root (node : Node) (input : List UInt8) :
    Alike (run (fuel + 1) (.place node) [] input)
      (run (fuel' + 1) (.place node) [] (input ++ [carriageReturn])) := by
  obtain ⟨hnil, hnil'⟩ | ⟨b, rest, hcons, -, hcons'⟩ := skipBlanks_append input
  · simp only [run, hnil, hnil']
    exact .inl rfl
  · simp only [run, hcons, hcons']
    exact .inl rfl

theorem alike_place_item (ih : Indifferent fuel) (node : Node) (done : List Node)
    (stack : List Frame) (hfuel : (Task.place node).cost input ≤ fuel + 1)
    (hfuel' : (Task.place node).cost (input ++ [carriageReturn]) ≤ fuel' + 1) :
    Alike (run (fuel + 1) (.place node) (.list done :: stack) input)
      (run (fuel' + 1) (.place node) (.list done :: stack) (input ++ [carriageReturn])) := by
  simp only [Task.cost, List.length_append, List.length_singleton] at hfuel hfuel'
  obtain ⟨hnil, hnil'⟩ | ⟨b, rest, hcons, hlt, hcons'⟩ := skipBlanks_append input
  · simp only [run, hnil, hnil']
    exact alike_stopped rfl rfl stack
  simp only [run, hcons, hcons']
  split
  next =>
    obtain ⟨hnil, hnil'⟩ | ⟨c, after, hcons, hlt', hcons'⟩ := skipBlanks_append rest
    · simp only [hnil, hnil']
      exact alike_stopped rfl rfl stack
    simp only [hcons, hcons']
    split
    next => exact alike_stopped rfl rfl stack
    next => exact ih _ _ _ (c :: after) (by simp [Task.cost]; omega) (by simp [Task.cost]; omega)
  split
  next => exact ih _ _ _ rest (by simp [Task.cost]; omega) (by simp [Task.cost]; omega)
  next => exact alike_stopped rfl rfl stack

theorem alike_place_member (ih : Indifferent fuel) (node : Node) (done : List (Key × Node))
    (key : Key) (stack : List Frame) (hfuel : (Task.place node).cost input ≤ fuel + 1)
    (hfuel' : (Task.place node).cost (input ++ [carriageReturn]) ≤ fuel' + 1) :
    Alike (run (fuel + 1) (.place node) (.object done key :: stack) input)
      (run (fuel' + 1) (.place node) (.object done key :: stack) (input ++ [carriageReturn])) := by
  simp only [Task.cost, List.length_append, List.length_singleton] at hfuel hfuel'
  obtain ⟨hnil, hnil'⟩ | ⟨b, rest, hcons, hlt, hcons'⟩ := skipBlanks_append input
  · simp only [run, hnil, hnil']
    exact alike_stopped rfl rfl stack
  simp only [run, hcons, hcons']
  split
  next => exact ih _ _ _ rest (by simp [Task.cost]; omega) (by simp [Task.cost]; omega)
  split
  next => exact ih _ _ _ rest (by simp [Task.cost]; omega) (by simp [Task.cost]; omega)
  next => exact alike_stopped rfl rfl stack

end Machine

theorem indifferent (fuel : Nat) : Indifferent fuel := by
  induction fuel with
  | zero =>
    intro fuel' task stack input hfuel
    cases task <;> simp [Task.cost] at hfuel
  | succ fuel ih =>
    intro fuel' task stack input hfuel hfuel'
    obtain _ | fuel' := fuel'
    · cases task <;> simp [Task.cost] at hfuel'
    cases task with
    | value => exact alike_value ih stack hfuel hfuel'
    | key done first => exact alike_key ih done first stack hfuel hfuel'
    | place node =>
      rcases stack with _ | ⟨⟨done⟩ | ⟨done, key⟩, stack⟩
      · exact alike_place_root node input
      · exact alike_place_item ih node done stack hfuel hfuel'
      · exact alike_place_member ih node done key stack hfuel hfuel'

/-- A text with a carriage return behind it is read alike. -/
theorem read_append (input : List UInt8) : Alike (read input) (read (input ++ [carriageReturn])) :=
  indifferent _ _ .value [] input (Nat.le_refl _) (Nat.le_refl _)

end LogOrigin.Json
