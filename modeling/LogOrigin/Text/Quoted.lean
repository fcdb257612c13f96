import LogOrigin.Text.Printable

/-!
# Quoted texts in messages

A message shows a text between double quotes. The quote, the backslash, the common controls and
NUL have short escapes; every other character that cannot be shown is written as `\u` with its
hexadecimal number in braces.
-/

namespace LogOrigin.Text

/-- A character as it stands between the quotes. -/
def quotedChar (c : Char) : String :=
  match c with
  | '"' => "\\\""
  | '\\' => "\\\\"
  | '\n' => "\\n"
  | '\r' => "\\r"
  | '\t' => "\\t"
  | c =>
    if c.toNat = 0 then "\\0"
    else if isPrintable c then String.singleton c
    else "\\u\x7b" ++ String.ofList (Nat.toDigits 16 c.toNat) ++ "\x7d"

/-- A text between double quotes. -/
def quoted (s : String) : String :=
  "\"" ++ s.toList.foldl (fun text c => text ++ quotedChar c) "" ++ "\""

end LogOrigin.Text
