import LogOrigin.Json.Byte
import LogOrigin.Json.Node

/-!
# Reading JSON text

Text is read into nodes by a machine with an explicit stack of open lists and objects, so the depth
of the text does not matter. `read` is total: every text gives a document, and `Document.value`
says whether it is JSON.
-/

namespace LogOrigin.Json

/-! ## Strings -/

/-- A string from behind its opening quote: its contents and what follows it, or how it breaks
off. -/
inductive StringToken where
  | closed (contents : Except TextFault String) (rest : List UInt8)
  | cut (b : Broken)

/-- A string that breaks off with `fault`; a reader of the contents complains about the first
unusable escape instead, if there was one. -/
def StringToken.broken (flaw : Option TextFault) (fault : TextFault) : StringToken :=
  .cut ⟨flaw.getD fault, fault, flaw.getD fault⟩

/-- The contents of a string, given its bytes in reverse. -/
def contentsOf (flaw : Option TextFault) (done : List UInt8) : Except TextFault String :=
  match flaw, textOf? done.reverse with
  | some fault, _ => .error fault
  | none, none => .error .badUnicode
  | none, some s => .ok s

/-- A 16-bit unit from four hexadecimal digits. -/
def hexUnit? (a b c d : UInt8) : Option Nat := do
  let a ← Byte.hexDigit? a
  let b ← Byte.hexDigit? b
  let c ← Byte.hexDigit? c
  let d ← Byte.hexDigit? d
  return ((a * 16 + b) * 16 + c) * 16 + d

/-- A unit that opens a surrogate pair. -/
def isLead (unit : Nat) : Bool := 0xD800 ≤ unit && unit ≤ 0xDBFF

/-- A unit that closes a surrogate pair. -/
def isTrail (unit : Nat) : Bool := 0xDC00 ≤ unit && unit ≤ 0xDFFF

/-- The code point of a surrogate pair. -/
def pairPoint (lead trail : Nat) : Nat :=
  (lead - 0xD800) * 0x400 + (trail - 0xDC00) + 0x10000

/-- Puts the UTF-8 bytes of a code point on top of reversed bytes. -/
def pushPoint (done : List UInt8) (point : Nat) : List UInt8 :=
  (String.utf8EncodeChar (Char.ofNat point)).reverse ++ done

/-- Reads a string from behind its opening quote. `done` holds the bytes so far in reverse, `lead`
the opening half of a surrogate pair if the last escape was one, and `flaw` the first thing that
makes the contents unusable. -/
def readString (done : List UInt8) (lead : Option Nat) (flaw : Option TextFault) :
    List UInt8 → StringToken
  | [] => .broken flaw .endOfString
  | b :: rest =>
    if b == Byte.backslash then
      match rest with
      | [] => .broken flaw .endOfString
      | e :: rest =>
        if e == Byte.letterU then
          match rest with
          | h₁ :: h₂ :: h₃ :: h₄ :: rest =>
            match hexUnit? h₁ h₂ h₃ h₄, lead with
            | none, _ => .broken flaw .badEscape
            | some unit, some first =>
              if isTrail unit then
                readString (pushPoint done (pairPoint first unit)) none flaw rest
              else readString done none (flaw <|> some .loneSurrogate) rest
            | some unit, none =>
              if isTrail unit then readString done none (flaw <|> some .loneSurrogate) rest
              else if isLead unit then readString done (some unit) flaw rest
              else readString (pushPoint done unit) none flaw rest
          | _ => .broken flaw .endOfString
        else
          let flaw := if lead.isSome then flaw <|> some .unpairedEscape else flaw
          match Byte.unescape? e with
          | some plain => readString (plain :: done) none flaw rest
          | none => .broken flaw .badEscape
    else
      let flaw := if lead.isSome then flaw <|> some .unpairedEscape else flaw
      if b == Byte.quote then .closed (contentsOf flaw done) rest
      else if b < 0x20 then .broken flaw .controlCharacter
      else readString (b :: done) none flaw rest

/-! ## Numerals -/

/-- The digits at the front, as their values, and what follows them. -/
def digitsAtFront (input : List UInt8) : List Nat × List UInt8 :=
  ((input.takeWhile Byte.isDigit).map fun b => b.toNat - 0x30, input.dropWhile Byte.isDigit)

/-- The greatest significand that is kept exactly. -/
def greatestSignificand : Nat := Nat.pow 2 64 - 1

/-- Adds digits to a significand for as long as it can be kept exactly, and gives the rest. -/
def accumulate (n : Nat) : List Nat → Nat × List Nat
  | [] => (n, [])
  | d :: rest =>
    if greatestSignificand < n * 10 + d then (n, d :: rest) else accumulate (n * 10 + d) rest

/-- The greatest exponent that is kept exactly. -/
def greatestExponent : Nat := Nat.pow 2 31 - 1

/-- An exponent between the bounds that are kept exactly. -/
def clampExponent (e : Int) : Int :=
  max (-(greatestExponent : Int) - 1) (min greatestExponent e)

/-- A number that is not written as an integer, or is one beyond the exact range. -/
def realNumber (negative : Bool) (significand : Nat) (exponent : Int) :
    Except TextFault Number :=
  match Binary64.ofDecimal significand exponent with
  | some x => .ok (.real (.finite negative x))
  | none => .error .numberTooLarge

/-- The value of a numeral with an exponent part of the given sign and digits. -/
def withExponent (negative : Bool) (significand : Nat) (exponent : Int) (down : Bool)
    (digits : List Nat) : Except TextFault Number :=
  let e := digits.foldl (fun n d => n * 10 + d) 0
  if greatestExponent < e then
    if significand ≠ 0 && !down then .error .numberTooLarge
    else .ok (.real (.finite negative .zero))
  else
    let e := if down then exponent - e else exponent + e
    realNumber negative significand (clampExponent e)

/-- The value of a numeral without fraction and exponent part. -/
def wholeNumber (negative : Bool) (digits : List Nat) : Except TextFault Number :=
  let (n, dropped) := accumulate 0 digits
  if dropped.isEmpty then
    if !negative then .ok (.integer n)
    else if 0 < n && n ≤ Nat.pow 2 63 then .ok (.integer (-n))
    else realNumber true n 0
  else realNumber negative n dropped.length

/-- A numeral that breaks off where a digit belongs. -/
def missingDigit (input : List UInt8) : Broken :=
  if input.isEmpty then ⟨.endOfValue, .badNumber, .expectedValue⟩
  else ⟨.badNumber, .badNumber, .expectedValue⟩

/-- Reads a numeral from behind its sign. -/
def readNumeral (negative : Bool) (input : List UInt8) : Node × Option (List UInt8) :=
  let (whole, rest) := digitsAtFront input
  match whole with
  | [] => (.broken (missingDigit input), none)
  | 0 :: _ :: _ => (.broken ⟨.badNumber, .badNumber, .expectedValue⟩, none)
  | _ =>
    let (significand, dropped) := accumulate 0 whole
    match rest with
    | [] => (.number (wholeNumber negative whole), some rest)
    | b :: afterMark =>
      if b == Byte.dot then
        let (fraction, rest) := digitsAtFront afterMark
        if fraction.isEmpty then (.broken (missingDigit rest), none)
        else
          let (significand, ignored) := accumulate significand fraction
          let exponent : Int := (dropped.length : Int) - (fraction.length - ignored.length : Nat)
          match rest with
          | e :: afterMark =>
            if isExponentMark e then scaled negative significand exponent afterMark
            else (.number (realNumber negative significand exponent), some rest)
          | [] => (.number (realNumber negative significand exponent), some rest)
      else if isExponentMark b then scaled negative significand dropped.length afterMark
      else (.number (wholeNumber negative whole), some rest)
where
  /-- The letter before an exponent. -/
  isExponentMark (b : UInt8) : Bool := b == 0x65 || b == 0x45
  /-- The exponent part behind its letter. -/
  scaled (negative : Bool) (significand : Nat) (exponent : Int) (input : List UInt8) :
      Node × Option (List UInt8) :=
    let (down, unsigned) := match input with
      | s :: rest =>
        if s == Byte.plus then (false, rest) else if s == Byte.minus then (true, rest)
        else (false, input)
      | [] => (false, input)
    let (digits, rest) := digitsAtFront unsigned
    if digits.isEmpty then (.broken (missingDigit rest), none)
    else (.number (withExponent negative significand exponent down digits), some rest)

/-! ## Scalars -/

/-- Reads the rest of a word such as `true`. -/
def readWord (node : Node) : List UInt8 → List UInt8 → Node × Option (List UInt8)
  | [], input => (node, some input)
  | _ :: _, [] => (.broken ⟨.endOfValue, .endOfValue, .expectedValue⟩, none)
  | w :: word, b :: rest =>
    if w == b then readWord node word rest
    else (.broken ⟨.expectedWord, .expectedWord, .expectedValue⟩, none)

/-- Reads a value that is neither list nor object, given its first byte; no rest means that reading
stops. -/
def readScalar (b : UInt8) (rest : List UInt8) : Node × Option (List UInt8) :=
  if b == Byte.quote then
    match readString [] none none rest with
    | .closed contents rest => (.text contents, some rest)
    | .cut broken => (.broken broken, none)
  else if b == Byte.minus then readNumeral true rest
  else if Byte.isDigit b then readNumeral false (b :: rest)
  else if b == 0x6E then readWord .null (bytesOf "ull") rest
  else if b == 0x74 then readWord (.bool true) (bytesOf "rue") rest
  else if b == 0x66 then readWord (.bool false) (bytesOf "alse") rest
  else (.broken (.always .expectedValue), none)

/-- What stands at the front, for a reader that wanted something else. -/
def foundAtFront (b : UInt8) (rest : List UInt8) : Except TextFault Found :=
  if b == Byte.openBracket then .ok .list
  else if b == Byte.openBrace then .ok .object
  else (readScalar b rest).1.found

/-! ## Lists and objects -/

/-- A list or an object that is still open, with what it holds so far in reverse. -/
inductive Frame where
  | list (done : List Node)
  | object (done : List (Key × Node)) (key : Key)

/-- The frame, ended inside its last item or member `last`. -/
def Frame.endInside (frame : Frame) (last : Node) (passing : TextFault) : Node :=
  match frame with
  | list done => .list (last :: done).reverse (.inside passing)
  | object done key => .object ((key, last) :: done).reverse (.inside passing)

/-- The document of a text at whose innermost node reading stopped. -/
def stopped (node : Node) (stack : List Frame) : Document :=
  let passing := node.passingFault?.getD .expectedValue
  ⟨stack.foldl (fun last frame => frame.endInside last passing) node, false⟩

/-- What the machine does next: read a value, read a key behind a brace or a comma, or place a
value that is complete. -/
inductive Task where
  | value
  | key (done : List (Key × Node)) (first : Bool)
  | place (node : Node)

/-- Text from its first byte that is no blank. -/
def skipBlanks (input : List UInt8) : List UInt8 :=
  input.dropWhile Byte.isBlank

/-- Runs the machine. Every two steps consume a byte, so twice the length of the text and some is
fuel enough. -/
def run : Nat → Task → List Frame → List UInt8 → Document
  | 0, _, stack, _ => stopped (.broken (.always .expectedValue)) stack
  | fuel + 1, .value, stack, input =>
    match skipBlanks input with
    | [] => stopped (.broken (.always .endOfValue)) stack
    | b :: rest =>
      if b == Byte.openBracket then
        match skipBlanks rest with
        | [] => stopped (.list [] .cut) stack
        | c :: afterBracket =>
          if c == Byte.closeBracket then run fuel (.place (.list [] .closed)) stack afterBracket
          else run fuel .value (.list [] :: stack) (c :: afterBracket)
      else if b == Byte.openBrace then run fuel (.key [] true) stack rest
      else
        match readScalar b rest with
        | (node, some rest) => run fuel (.place node) stack rest
        | (node, none) => stopped node stack
  | fuel + 1, .key done first, stack, input =>
    match skipBlanks input with
    | [] => stopped (.object done.reverse (if first then .cut else .cutAfterComma)) stack
    | b :: rest =>
      if b == Byte.quote then
        match readString [] none none rest with
        | .cut broken => stopped (.object done.reverse (.brokenKey broken)) stack
        | .closed key rest =>
          match skipBlanks rest with
          | [] => stopped (.broken (.always .endOfObject)) (.object done key :: stack)
          | c :: rest =>
            if c == Byte.colon then run fuel .value (.object done key :: stack) rest
            else stopped (.broken (.always .expectedColon)) (.object done key :: stack)
      else if b == Byte.closeBrace then
        if first then run fuel (.place (.object done.reverse .closed)) stack rest
        else stopped (.object done.reverse .danglingComma) stack
      else stopped (.object done.reverse (.notKey (foundAtFront b rest))) stack
  | _ + 1, .place node, [], input => ⟨node, !(skipBlanks input).isEmpty⟩
  | fuel + 1, .place node, .list done :: stack, input =>
    let done := node :: done
    match skipBlanks input with
    | [] => stopped (.list done.reverse .cut) stack
    | b :: rest =>
      if b == Byte.comma then
        match skipBlanks rest with
        | [] => stopped (.list done.reverse .cutAfterComma) stack
        | c :: afterComma =>
          if c == Byte.closeBracket then stopped (.list done.reverse .danglingComma) stack
          else run fuel .value (.list done :: stack) (c :: afterComma)
      else if b == Byte.closeBracket then run fuel (.place (.list done.reverse .closed)) stack rest
      else stopped (.list done.reverse .unseparated) stack
  | fuel + 1, .place node, .object done key :: stack, input =>
    let done := (key, node) :: done
    match skipBlanks input with
    | [] => stopped (.object done.reverse .cut) stack
    | b :: rest =>
      if b == Byte.comma then run fuel (.key done false) stack rest
      else if b == Byte.closeBrace then run fuel (.place (.object done.reverse .closed)) stack rest
      else stopped (.object done.reverse .unseparated) stack

/-- Reads a text. -/
def read (input : List UInt8) : Document :=
  run (2 * input.length + 2) .value [] input

end LogOrigin.Json
