import LogOrigin.Json.Printer
import LogOrigin.Json.Reader
import LogOrigin.Proofs.TraceLine

/-!
# Tokens written and read back

What stands between the quotes of a string has no control character, and it is read back as the
bytes that were written. The numeral of an integer that a reader keeps exactly is read back as that
integer, whatever comes after it, as long as it is nothing that a numeral could go on with.
-/

namespace LogOrigin

/-! ## Texts and their bytes -/

theorem textOf?_bytesOf (s : String) : textOf? (bytesOf s) = some s := by
  have hbytes : (⟨(bytesOf s).toArray⟩ : ByteArray) = s.toByteArray := rfl
  rw [textOf?, hbytes, String.fromUTF8?, dif_pos s.isValidUTF8]
  exact congrArg some (String.toByteArray_inj.mp rfl)

theorem bytesOf_append (s t : String) : bytesOf (s ++ t) = bytesOf s ++ bytesOf t := by
  simp [bytesOf, String.toUTF8, String.toByteArray_append]

theorem bytesOf_ofList (cs : List Char) :
    bytesOf (String.ofList cs) = cs.flatMap String.utf8EncodeChar := by
  simp [bytesOf, String.toUTF8, String.toByteArray_ofList, List.utf8Encode]

namespace Json

open Byte (quote backslash letterU)

/-! ## Escapes -/

/-- Bytes as they stand between quotes. -/
def escaped (bytes : List UInt8) : List UInt8 :=
  bytes.flatMap fun b => (escape? b).getD [b]

/-- The pieces before an escape, which ends a run if there is one. -/
theorem flatten_endRun (done : List (List UInt8)) (run : List UInt8) :
    (if run.isEmpty then done else run.reverse :: done).reverse.flatten =
      done.reverse.flatten ++ run.reverse := by
  cases run <;> simp

theorem flatten_insidePieces (done : List (List UInt8)) (run bytes : List UInt8) :
    (insidePieces done run bytes).flatten =
      done.reverse.flatten ++ run.reverse ++ escaped bytes := by
  induction bytes generalizing done run with
  | nil => rw [insidePieces, flatten_endRun, escaped, List.flatMap_nil, List.append_nil]
  | cons b rest ih =>
    have hescaped : escaped (b :: rest) = (escape? b).getD [b] ++ escaped rest := rfl
    rw [insidePieces, hescaped]
    cases escape? b with
    | none => simp [ih]
    | some e =>
      simp only [ih, Option.getD_some, List.reverse_cons, List.flatten_append, flatten_endRun]
      simp

/-- In whatever parts a string comes, it is one string. -/
theorem flatten_partPieces (parts : List String) :
    (partPieces parts).flatten = quote :: escaped (parts.flatMap bytesOf) ++ [quote] := by
  have hinside : (parts.flatMap fun s => insidePieces [] [] (bytesOf s)).flatten =
      escaped (parts.flatMap bytesOf) := by
    induction parts with
    | nil => rfl
    | cons s rest ih =>
      rw [List.flatMap_cons, List.flatten_append, ih, flatten_insidePieces, List.flatMap_cons,
        escaped, escaped, escaped, List.flatMap_append]
      rfl
  rw [partPieces, List.flatten_append, List.flatten_cons, hinside]
  rfl

theorem flatten_textPieces (s : String) :
    (textPieces s).flatten = quote :: escaped (bytesOf s) ++ [quote] := by
  rw [textPieces, flatten_partPieces, List.flatMap_singleton]

/-- A control character is escaped by its number unless it has a letter. -/
theorem escape_control : ∀ n < 0x20,
    (∃ e ∈ [0x62, 0x66, 0x6E, 0x72, 0x74], escape? (.ofNat n) = some [backslash, e] ∧
      Byte.unescape? e = some (.ofNat n)) ∨
    escape? (.ofNat n) = some [backslash, letterU, Byte.zero, Byte.zero, hexByte (n / 16),
      hexByte (n % 16)] := by
  decide

/-- A byte stands for itself, or is escaped by a letter, or by its number. -/
theorem escape_cases (b : UInt8) :
    (escape? b = none ∧ b ≠ quote ∧ b ≠ backslash ∧ 0x20 ≤ b) ∨
      (∃ e, escape? b = some [backslash, e] ∧ e ≠ letterU ∧ 0x20 ≤ e ∧
        Byte.unescape? e = some b) ∨
      (b.toNat < 0x20 ∧ escape? b = some [backslash, letterU, Byte.zero, Byte.zero,
        hexByte (b.toNat / 16), hexByte (b.toNat % 16)]) := by
  by_cases hquote : b = quote
  · exact .inr (.inl ⟨quote, by rw [hquote]; decide⟩)
  by_cases hslash : b = backslash
  · exact .inr (.inl ⟨backslash, by rw [hslash]; decide⟩)
  by_cases hle : 0x20 ≤ b
  · exact .inl ⟨by simp [escape?, hquote, hslash, hle], hquote, hslash, hle⟩
  · have hlt : b.toNat < 0x20 := UInt8.lt_iff_toNat_lt.mp (UInt8.not_le.mp hle)
    have hb : UInt8.ofNat b.toNat = b := UInt8.ofNat_toNat
    obtain ⟨e, he, hesc, hplain⟩ | hesc := escape_control _ hlt
    · have hletters : ∀ e ∈ [0x62, 0x66, 0x6E, 0x72, 0x74], e ≠ letterU ∧ 0x20 ≤ e := by
        decide +kernel
      rw [hb] at hesc hplain
      exact .inr (.inl ⟨e, hesc, (hletters e he).1, (hletters e he).2, hplain⟩)
    · rw [hb] at hesc
      exact .inr (.inr ⟨hlt, hesc⟩)

/-- Hexadecimal digits are no control characters. -/
theorem le_hexByte : ∀ n < 16, 0x20 ≤ hexByte n := by decide

/-- No control character stands between quotes. -/
theorem le_of_mem_escaped {bytes : List UInt8} {c : UInt8} (h : c ∈ escaped bytes) : 0x20 ≤ c := by
  obtain ⟨b, -, hc⟩ := List.mem_flatMap.mp h
  obtain ⟨hb, -, -, hle⟩ | ⟨e, hb, -, hle, -⟩ | ⟨hlt, hb⟩ := escape_cases b
  · rw [hb, Option.getD_none, List.mem_singleton] at hc
    exact hc ▸ hle
  · simp only [hb, Option.getD_some, List.mem_cons, List.not_mem_nil, or_false] at hc
    obtain rfl | rfl := hc
    · decide
    · exact hle
  · have hhigh := le_hexByte (b.toNat / 16) (by omega)
    have hlow := le_hexByte (b.toNat % 16) (Nat.mod_lt _ (by decide))
    simp only [hb, Option.getD_some, List.mem_cons, List.not_mem_nil, or_false] at hc
    obtain rfl | rfl | rfl | rfl | rfl | rfl := hc
    · decide
    · decide
    · decide
    · decide
    · exact hhigh
    · exact hlow

/-! ## Reading back -/

/-- The escape of a control character by its number is read as that number, which is no half of a
surrogate pair. -/
theorem control_units : ∀ n < 0x20,
    hexUnit? Byte.zero Byte.zero (hexByte (n / 16)) (hexByte (n % 16)) = some n ∧
      isTrail n = false ∧ isLead n = false ∧ pushPoint [] n = [UInt8.ofNat n] := by
  decide

theorem pushPoint_append (done more : List UInt8) (point : Nat) :
    pushPoint (done ++ more) point = pushPoint done point ++ more :=
  (List.append_assoc ..).symm

/-- A byte is read back from what it is written as. -/
theorem readString_escape (done : List UInt8) (b : UInt8) (rest : List UInt8) :
    readString done none none ((escape? b).getD [b] ++ rest) =
      readString (b :: done) none none rest := by
  obtain ⟨hb, hquote, hslash, hle⟩ | ⟨e, hb, he, -, hplain⟩ | ⟨hlt, hb⟩ := escape_cases b
  · have hcontrol : ¬ b < 0x20 := UInt8.not_lt.mpr hle
    rw [hb, Option.getD_none, List.singleton_append]
    conv => lhs; unfold readString
    simp [hquote, hslash, hcontrol]
  · rw [hb, Option.getD_some, List.cons_append, List.singleton_append]
    conv => lhs; unfold readString
    simp [he, hplain]
  · obtain ⟨hunit, htrail, hlead, hpush⟩ := control_units _ hlt
    have hpoint : pushPoint done b.toNat = b :: done := by
      rw [← List.nil_append done, pushPoint_append, hpush, UInt8.ofNat_toNat]
      rfl
    rw [hb, Option.getD_some]
    conv => lhs; unfold readString
    simp [hunit, htrail, hlead, hpoint]

theorem readString_escaped (done bytes rest : List UInt8) :
    readString done none none (escaped bytes ++ quote :: rest) =
      .closed (contentsOf none (bytes.reverse ++ done)) rest := by
  induction bytes generalizing done with
  | nil =>
    have hne : quote ≠ backslash := by decide
    conv => lhs; unfold readString
    simp [escaped, hne]
  | cons b bytes ih =>
    have hsplit : escaped (b :: bytes) ++ quote :: rest =
        (escape? b).getD [b] ++ (escaped bytes ++ quote :: rest) := by
      simp [escaped]
    rw [hsplit, readString_escape, ih]
    simp

/-- A string is read back from behind its opening quote. -/
theorem readString_text (s : String) (rest : List UInt8) :
    readString [] none none (escaped (bytesOf s) ++ quote :: rest) = .closed (.ok s) rest := by
  have hcontents : contentsOf none (bytesOf s).reverse = .ok s := by
    simp [contentsOf, textOf?_bytesOf]
  rw [readString_escaped, List.append_nil, hcontents]

/-! ## Numerals -/

/-- What follows a value inside a list or an object, or nothing. -/
def Delimited (rest : List UInt8) : Prop :=
  ∀ b ∈ rest.head?, b = Byte.comma ∨ b = Byte.closeBracket ∨ b = Byte.closeBrace

theorem delimited_nil : Delimited [] := by
  intro b hb
  cases hb

theorem delimited_cons {b : UInt8}
    (h : b = Byte.comma ∨ b = Byte.closeBracket ∨ b = Byte.closeBrace) (rest : List UInt8) :
    Delimited (b :: rest) := by
  intro c hc
  obtain rfl := Option.some.inj hc
  exact h

/-- The decimal digits of a number, as their values. -/
def digitsOf (n : Nat) : List Nat := (Nat.toDigits 10 n).map fun c => c.toNat - 0x30

/-- A decimal digit is one byte, of the same number. -/
theorem byte_of_isDigit {c : Char} (h : c.isDigit = true) :
    String.utf8EncodeChar c = [c.val.toUInt8] ∧ c.val.toUInt8.toNat = c.toNat ∧
      Byte.isDigit c.val.toUInt8 = true := by
  rw [Char.isDigit, Bool.and_eq_true, decide_eq_true_eq, decide_eq_true_eq] at h
  obtain ⟨hleast, hgreatest⟩ := h
  have hge : 48 ≤ c.val.toNat := UInt32.le_iff_toNat_le.mp hleast
  have hle : c.val.toNat ≤ 57 := UInt32.le_iff_toNat_le.mp hgreatest
  have hbyte : c.val.toUInt8.toNat = c.val.toNat := by
    rw [UInt32.toNat_toUInt8]
    omega
  have hsize : c.utf8Size = 1 := by
    rw [Char.utf8Size, if_pos]
    exact UInt32.le_iff_toNat_le.mpr (Nat.le_trans hle (by decide))
  refine ⟨String.utf8EncodeChar_eq_singleton hsize, hbyte, ?_⟩
  rw [Byte.isDigit, Bool.and_eq_true, decide_eq_true_eq, decide_eq_true_eq, UInt8.le_iff_toNat_le,
    UInt8.le_iff_toNat_le, hbyte]
  exact ⟨hge, hle⟩

theorem flatMap_utf8EncodeChar {cs : List Char} (h : ∀ c ∈ cs, c.isDigit = true) :
    cs.flatMap String.utf8EncodeChar = cs.map fun c => c.val.toUInt8 := by
  induction cs with
  | nil => rfl
  | cons c cs ih =>
    rw [List.flatMap_cons, (byte_of_isDigit (h c (List.mem_cons_self ..))).1,
      ih fun d hd => h d (List.mem_cons_of_mem _ hd)]
    rfl

theorem bytesOf_toString (n : Nat) :
    bytesOf (toString n) = (Nat.toDigits 10 n).map fun c => c.val.toUInt8 := by
  have htext : toString n = String.ofList (Nat.toDigits 10 n) := rfl
  rw [htext, bytesOf_ofList, flatMap_utf8EncodeChar]
  exact fun c hc => Nat.isDigit_of_mem_toDigits (by decide) (by decide) hc

theorem isDigit_of_mem_bytesOf {n : Nat} {b : UInt8} (h : b ∈ bytesOf (toString n)) :
    Byte.isDigit b = true := by
  rw [bytesOf_toString] at h
  obtain ⟨c, hc, rfl⟩ := List.mem_map.mp h
  exact (byte_of_isDigit (Nat.isDigit_of_mem_toDigits (by decide) (by decide) hc)).2.2

/-- The digits of a number are all that is read as digits. -/
theorem digitsAtFront_toString (n : Nat) {rest : List UInt8} (h : Delimited rest) :
    digitsAtFront (bytesOf (toString n) ++ rest) = (digitsOf n, rest) := by
  have hdigits : ∀ b ∈ bytesOf (toString n), Byte.isDigit b = true :=
    fun b hb => isDigit_of_mem_bytesOf hb
  have hrest : rest.takeWhile Byte.isDigit = [] ∧ rest.dropWhile Byte.isDigit = rest := by
    cases rest with
    | nil => exact ⟨rfl, rfl⟩
    | cons b rest =>
      have hb : Byte.isDigit b = false := by
        obtain rfl | rfl | rfl := h b rfl <;> decide
      simp [hb]
  have hvalues : (bytesOf (toString n)).map (fun b => b.toNat - 0x30) = digitsOf n := by
    rw [bytesOf_toString, List.map_map]
    refine List.map_congr_left fun c hc => ?_
    have hc := byte_of_isDigit (Nat.isDigit_of_mem_toDigits (by decide) (by decide) hc)
    exact congrArg (· - 0x30) hc.2.1
  rw [digitsAtFront, List.takeWhile_append_of_pos hdigits, List.dropWhile_append_of_pos hdigits,
    hrest.1, hrest.2, List.append_nil, hvalues]

/-- Digits are added up to the number that they show, if it is kept exactly. -/
theorem accumulate_digits {cs : List Char} {n : Nat}
    (h : Nat.ofDigitChars 10 cs n ≤ greatestSignificand) :
    accumulate n (cs.map fun c => c.toNat - 0x30) = (Nat.ofDigitChars 10 cs n, []) := by
  induction cs generalizing n with
  | nil => rfl
  | cons c cs ih =>
    rw [Nat.ofDigitChars_cons, Nat.mul_comm] at h
    have hle : n * 10 + (c.toNat - 0x30) ≤ greatestSignificand :=
      Nat.le_trans (Text.le_ofDigitChars cs _) h
    have hrest := ih h
    rw [List.map_cons, accumulate, if_neg (Nat.not_lt.mpr hle), Nat.ofDigitChars_cons,
      Nat.mul_comm 10 n]
    exact hrest

theorem accumulate_digitsOf {n : Nat} (h : n ≤ greatestSignificand) :
    accumulate 0 (digitsOf n) = (n, []) := by
  have hn : Nat.ofDigitChars 10 (Nat.toDigits 10 n) 0 = n := Nat.ofDigitChars_ten_toDigits
  rw [digitsOf, accumulate_digits (hn.symm ▸ h), hn]

theorem digitsOf_zero : digitsOf 0 = [0] := by
  decide

/-- Only zero begins with a zero. -/
theorem head?_digitsOf (n : Nat) (h : n ≠ 0) : (digitsOf n).head? ≠ some 0 := by
  induction n using Nat.strongRecOn with
  | ind n ih =>
    by_cases hlt : n < 10
    · have hsmall : ∀ n < 10, n ≠ 0 → (digitsOf n).head? ≠ some 0 := by decide
      exact hsmall n hlt h
    · have hle : 10 ≤ n := Nat.not_lt.mp hlt
      have hfront := ih (n / 10) (by omega) (by omega)
      rw [digitsOf, Nat.toDigits_of_base_le (by decide) hle, List.map_append, List.head?_append]
      cases hdigits : (digitsOf (n / 10)).head? with
      | none =>
        rw [digitsOf, List.head?_eq_none_iff, List.map_eq_nil_iff] at hdigits
        exact absurd hdigits Nat.toDigits_ne_nil
      | some d =>
        rw [hdigits] at hfront
        rw [digitsOf] at hdigits
        rw [hdigits]
        exact hfront

theorem digitsOf_shape (n : Nat) :
    digitsOf n ≠ [] ∧ ∀ d ds, digitsOf n ≠ 0 :: d :: ds := by
  refine ⟨fun h => Nat.toDigits_ne_nil (List.map_eq_nil_iff.mp h), fun d ds h => ?_⟩
  by_cases hzero : n = 0
  · rw [hzero, digitsOf_zero] at h
    cases h
  · exact head?_digitsOf n hzero (by rw [h]; rfl)

/-- A numeral is read up to what delimits it. -/
theorem readNumeral_toString (negative : Bool) (n : Nat) {rest : List UInt8} (h : Delimited rest) :
    readNumeral negative (bytesOf (toString n) ++ rest) =
      (.number (wholeNumber negative (digitsOf n)), some rest) := by
  obtain ⟨hne, hzero⟩ := digitsOf_shape n
  rw [readNumeral, digitsAtFront_toString n h]
  dsimp only
  split
  · next heq => exact absurd heq hne
  · next heq => exact absurd heq (hzero _ _)
  · cases rest with
    | nil => rfl
    | cons b rest =>
      obtain rfl | rfl | rfl := h b rfl <;> rfl

/-- An integer that a reader keeps exactly. -/
def IsExact (i : Int) : Prop := -(Nat.pow 2 63 : Nat) ≤ i ∧ i < (Nat.pow 2 64 : Nat)

theorem wholeNumber_natural {n : Nat} (h : n ≤ greatestSignificand) :
    wholeNumber false (digitsOf n) = .ok (.integer n) := by
  simp [wholeNumber, accumulate_digitsOf h]

theorem wholeNumber_negative {n : Nat} (hpos : 0 < n) (h : n ≤ Nat.pow 2 63) :
    wholeNumber true (digitsOf n) = .ok (.integer (-n)) := by
  have hle : n ≤ greatestSignificand := Nat.le_trans h (by decide)
  simp only [wholeNumber, accumulate_digitsOf hle]
  simp [hpos, h]

/-! ## Scalars -/

/-- Bytes that are read as a node, with the first byte telling that it is neither a list nor an
object. -/
inductive IsScalar : List UInt8 → Node → Prop where
  | mk (b : UInt8) (tail : List UInt8) (node : Node) (hblank : Byte.isBlank b = false)
      (hlist : b ≠ Byte.openBracket) (hobject : b ≠ Byte.openBrace) (hend : b ≠ Byte.closeBracket)
      (hreads : ∀ rest, Delimited rest → readScalar b (tail ++ rest) = (node, some rest)) :
      IsScalar (b :: tail) node

theorem readWord_self (node : Node) (word rest : List UInt8) :
    readWord node word (word ++ rest) = (node, some rest) := by
  induction word with
  | nil => rfl
  | cons w word ih => simpa [readWord] using ih

theorem isScalar_null : IsScalar (bytesOf "null") .null :=
  .mk 0x6E (bytesOf "ull") .null (by decide) (by decide) (by decide) (by decide)
    fun rest _ => readWord_self .null (bytesOf "ull") rest

theorem isScalar_bool (b : Bool) :
    IsScalar (bytesOf (if b then "true" else "false")) (.bool b) := by
  cases b with
  | true =>
    exact .mk 0x74 (bytesOf "rue") _ (by decide) (by decide) (by decide) (by decide)
      fun rest _ => readWord_self (.bool true) (bytesOf "rue") rest
  | false =>
    exact .mk 0x66 (bytesOf "alse") _ (by decide) (by decide) (by decide) (by decide)
      fun rest _ => readWord_self (.bool false) (bytesOf "alse") rest

theorem isScalar_text (s : String) : IsScalar (textPieces s).flatten (.text (.ok s)) := by
  rw [flatten_textPieces, List.cons_append]
  refine .mk quote _ _ (by decide) (by decide) (by decide) (by decide) fun rest _ => ?_
  rw [readScalar, if_pos (by decide), List.append_assoc, List.singleton_append, readString_text]

/-- A digit has no other meaning in JSON text. -/
theorem ne_of_isDigit {b c : UInt8} (hb : Byte.isDigit b = true) (hc : Byte.isDigit c = false) :
    b ≠ c := by
  intro heq
  rw [heq, hc] at hb
  cases hb

theorem isBlank_of_isDigit {b : UInt8} (hb : Byte.isDigit b = true) : Byte.isBlank b = false := by
  simp [Byte.isBlank, ne_of_isDigit hb (c := Byte.space) (by decide),
    ne_of_isDigit hb (c := Byte.lineFeed) (by decide), ne_of_isDigit hb (c := Byte.tab) (by decide),
    ne_of_isDigit hb (c := Byte.carriageReturn) (by decide)]

theorem readScalar_of_isDigit {b : UInt8} (hb : Byte.isDigit b = true) (rest : List UInt8) :
    readScalar b rest = readNumeral false (b :: rest) := by
  simp [readScalar, hb, ne_of_isDigit hb (c := quote) (by decide),
    ne_of_isDigit hb (c := Byte.minus) (by decide)]

theorem isScalar_natural {n : Nat} (h : n ≤ greatestSignificand) :
    IsScalar (bytesOf (toString n)) (.number (.ok (.integer n))) := by
  cases hbytes : bytesOf (toString n) with
  | nil =>
    rw [bytesOf_toString, List.map_eq_nil_iff] at hbytes
    exact absurd hbytes Nat.toDigits_ne_nil
  | cons b tail =>
    have hb : Byte.isDigit b = true :=
      isDigit_of_mem_bytesOf (n := n) (by rw [hbytes]; exact List.mem_cons_self ..)
    refine .mk b tail _ (isBlank_of_isDigit hb) (ne_of_isDigit hb (by decide))
      (ne_of_isDigit hb (by decide)) (ne_of_isDigit hb (by decide)) fun rest hrest => ?_
    rw [readScalar_of_isDigit hb, ← List.cons_append, ← hbytes, readNumeral_toString false n hrest,
      wholeNumber_natural h]

theorem bytesOf_negSucc (m : Nat) :
    bytesOf (toString (Int.negSucc m)) = Byte.minus :: bytesOf (toString (m + 1)) :=
  bytesOf_append "-" (toString (m + 1))

theorem isScalar_integer {i : Int} (h : IsExact i) :
    IsScalar (bytesOf (toString i)) (.number (.ok (.integer i))) := by
  obtain ⟨hleast, hgreatest⟩ := h
  cases i with
  | ofNat n =>
    have hle : n ≤ greatestSignificand := by
      have hpow : greatestSignificand + 1 = Nat.pow 2 64 := rfl
      have hlt : n < Nat.pow 2 64 := Int.ofNat_lt.mp hgreatest
      omega
    exact isScalar_natural hle
  | negSucc m =>
    have hle : m + 1 ≤ Nat.pow 2 63 := by omega
    rw [bytesOf_negSucc]
    refine .mk Byte.minus _ _ (by decide) (by decide) (by decide) (by decide) fun rest hrest => ?_
    have hread := readNumeral_toString true (m + 1) hrest
    rw [wholeNumber_negative (Nat.succ_pos m) hle] at hread
    exact hread

/-- The numeral of an integer has no control character. -/
theorem le_of_mem_integer {i : Int} {b : UInt8} (h : b ∈ bytesOf (toString i)) : 0x20 ≤ b := by
  have hnat : ∀ n : Nat, b ∈ bytesOf (toString n) → 0x20 ≤ b := by
    intro n hb
    have hdigit := isDigit_of_mem_bytesOf hb
    rw [Byte.isDigit, Bool.and_eq_true, decide_eq_true_eq, decide_eq_true_eq] at hdigit
    exact UInt8.le_trans (by decide) hdigit.1
  cases i with
  | ofNat n => exact hnat n h
  | negSucc m =>
    rw [bytesOf_negSucc, List.mem_cons] at h
    obtain rfl | h := h
    · decide
    · exact hnat _ h

end Json

end LogOrigin
