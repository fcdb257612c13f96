import LogOrigin.Text.CodePoint

/-!
# Blank characters, trimming and lines

Blank means Unicode white space. Texts are handled as lists of characters; `lines` cuts a text at
line feeds, where a carriage return right before the line feed belongs to the terminator.
-/

namespace LogOrigin.Text

/-- The white space of Unicode. -/
def blankRanges : List (Nat × Nat) :=
  [(0x9, 0xD), (0x20, 0x20), (0x85, 0x85), (0xA0, 0xA0), (0x1680, 0x1680), (0x2000, 0x200A),
   (0x2028, 0x2029), (0x202F, 0x202F), (0x205F, 0x205F), (0x3000, 0x3000)]

/-- White space in the sense of Unicode. -/
def isBlank (c : Char) : Bool :=
  inRanges blankRanges c.toNat

/-- A text without its leading blanks. -/
def trimStart (cs : List Char) : List Char :=
  cs.dropWhile isBlank

/-- A text without its trailing blanks. -/
def trimEnd (cs : List Char) : List Char :=
  (cs.reverse.dropWhile isBlank).reverse

/-- A text without blanks at either end. -/
def trim (cs : List Char) : List Char :=
  trimEnd (trimStart cs)

/-- A line without the carriage return that its line feed carried along. -/
def dropReturn (line : List Char) : List Char :=
  match line.reverse with
  | '\r' :: before => before.reverse
  | _ => line

/-- The lines of a text whose current line, read backwards, is `current`. A last line without line
feed keeps its carriage return, and nothing follows a final line feed. -/
def linesFrom (current : List Char) : List Char → List (List Char)
  | [] => if current.isEmpty then [] else [current.reverse]
  | '\n' :: rest => dropReturn current.reverse :: linesFrom [] rest
  | c :: rest => linesFrom (c :: current) rest

/-- The lines of a text, without their terminators. -/
def lines (s : String) : List String :=
  (linesFrom [] s.toList).map String.ofList

end LogOrigin.Text
