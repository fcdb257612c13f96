import LogOrigin.Instant
import LogOrigin.Toml.Entry

/-!
# Reading TOML

A reader of TOML 1.0 documents. It gives the tables of a document as one object, with dates as
objects without members, or nothing if the text is not TOML. Keys keep the order in which the
tables came about.
-/

namespace LogOrigin.Toml

/-! ## Blanks, comments and line ends -/

/-- A blank inside a line. -/
def isSpace (c : Char) : Bool := c == ' ' || c == '\t'

/-- Text from its first character that is no blank. -/
def skipSpaces (cs : List Char) : List Char := cs.dropWhile isSpace

/-- A character that may stand in a comment. -/
def isCommentChar (c : Char) : Bool :=
  c == '\t' || (0x20 ≤ c.toNat && c.toNat != 0x7F)

/-- The text behind a line end, if it is at the front. -/
def afterNewline? : List Char → Option (List Char)
  | '\n' :: rest => some rest
  | '\r' :: '\n' :: rest => some rest
  | _ => none

/-- The rest of a line may hold blanks and a comment; gives the text behind it. -/
def endOfLine? (cs : List Char) : Option (List Char) :=
  let afterComment := match skipSpaces cs with
    | '#' :: rest => rest.dropWhile isCommentChar
    | rest => rest
  if afterComment.isEmpty then some [] else afterNewline? afterComment

/-- Skips blanks, line ends and comments between the items of an array. -/
def skipTrivia (inComment : Bool) : List Char → Option (List Char)
  | [] => if inComment then none else some []
  | '\n' :: rest => skipTrivia false rest
  | '\r' :: '\n' :: rest => skipTrivia false rest
  | c :: rest =>
    if inComment then if isCommentChar c then skipTrivia true rest else none
    else if isSpace c then skipTrivia false rest
    else if c == '#' then skipTrivia true rest
    else some (c :: rest)

/-! ## Strings -/

/-- A character that stands for itself in a string. -/
def isPlain (c : Char) : Bool := isCommentChar c

/-- The value of a hexadecimal digit. -/
def hexDigit? (c : Char) : Option Nat :=
  if '0' ≤ c && c ≤ '9' then some (c.toNat - '0'.toNat)
  else if 'a' ≤ c && c ≤ 'f' then some (c.toNat - 'a'.toNat + 10)
  else if 'A' ≤ c && c ≤ 'F' then some (c.toNat - 'A'.toNat + 10)
  else none

/-- The character with the number that hexadecimal digits give. -/
def charOfHex? (digits : List Char) : Option Char := do
  let n ← digits.foldlM (fun n c => (hexDigit? c).map (16 * n + ·)) 0
  if n.isValidChar then some (Char.ofNat n) else none

/-- The character that a one-letter escape stands for. -/
def unescape? : Char → Option Char
  | 'b' => some '\x08'
  | 't' => some '\t'
  | 'n' => some '\n'
  | 'f' => some '\x0c'
  | 'r' => some '\r'
  | '"' => some '"'
  | '\\' => some '\\'
  | _ => none

/-- A basic string from behind its quote; `done` is read backwards. -/
def readBasic (done : List Char) : List Char → Option (String × List Char)
  | [] => none
  | '"' :: rest => some (String.ofList done.reverse, rest)
  | '\\' :: 'u' :: a :: b :: c :: d :: rest => do
    readBasic ((← charOfHex? [a, b, c, d]) :: done) rest
  | '\\' :: 'U' :: a :: b :: c :: d :: e :: f :: g :: h :: rest => do
    readBasic ((← charOfHex? [a, b, c, d, e, f, g, h]) :: done) rest
  | '\\' :: c :: rest => do readBasic ((← unescape? c) :: done) rest
  | c :: rest => if isPlain c && c != '\\' then readBasic (c :: done) rest else none

/-- A literal string from behind its quote. -/
def readLiteral (done : List Char) : List Char → Option (String × List Char)
  | [] => none
  | '\x27' :: rest => some (String.ofList done.reverse, rest)
  | c :: rest => if isPlain c then readLiteral (c :: done) rest else none

/-- What closes a long string: three quotes, with up to two more in front that belong to it. -/
def closing (quote : Char) (done : List Char) : List Char → String × List Char
  | a :: b :: rest =>
    if a == quote then
      if b == quote then (String.ofList (quote :: quote :: done).reverse, rest)
      else (String.ofList (quote :: done).reverse, b :: rest)
    else (String.ofList done.reverse, a :: b :: rest)
  | [a] => if a == quote then (String.ofList (quote :: done).reverse, []) else
    (String.ofList done.reverse, [a])
  | [] => (String.ofList done.reverse, [])

/-- Only blanks stand before the next line end. -/
def isAtLineEnd (cs : List Char) : Bool := (afterNewline? (skipSpaces cs)).isSome

/-- A long basic string from behind its quotes. `skipping` says that blanks and line ends are left
out, as they are behind a backslash at the end of a line. -/
def readLongBasic (skipping : Bool) (done : List Char) : List Char → Option (String × List Char)
  | [] => none
  | '"' :: '"' :: '"' :: rest => some (closing '"' done rest)
  | '\n' :: rest => readLongBasic skipping (if skipping then done else '\n' :: done) rest
  | '\r' :: '\n' :: rest => readLongBasic skipping (if skipping then done else '\n' :: done) rest
  | '\\' :: 'u' :: a :: b :: c :: d :: rest => do
    readLongBasic false ((← charOfHex? [a, b, c, d]) :: done) rest
  | '\\' :: 'U' :: a :: b :: c :: d :: e :: f :: g :: h :: rest => do
    readLongBasic false ((← charOfHex? [a, b, c, d, e, f, g, h]) :: done) rest
  | '\\' :: c :: rest =>
    match unescape? c with
    | some plain => readLongBasic false (plain :: done) rest
    | none =>
      if isAtLineEnd (c :: rest) then
        if c == '\r' || c == '\n' || isSpace c then
          match c, rest with
          | '\r', '\n' :: rest => readLongBasic true done rest
          | _, rest => readLongBasic true done rest
        else none
      else none
  | c :: rest =>
    if skipping && isSpace c then readLongBasic true done rest
    else if isPlain c && c != '\\' then readLongBasic false (c :: done) rest
    else none

/-- A long literal string from behind its quotes. -/
def readLongLiteral (done : List Char) : List Char → Option (String × List Char)
  | [] => none
  | '\x27' :: '\x27' :: '\x27' :: rest => some (closing '\x27' done rest)
  | '\n' :: rest => readLongLiteral ('\n' :: done) rest
  | '\r' :: '\n' :: rest => readLongLiteral ('\n' :: done) rest
  | c :: rest => if isPlain c then readLongLiteral (c :: done) rest else none

/-- The text of a long string, without a line end right behind the quotes. -/
def dropFirstNewline (cs : List Char) : List Char := (afterNewline? cs).getD cs

/-- Any string. -/
def readString : List Char → Option (String × List Char)
  | '"' :: '"' :: '"' :: rest => readLongBasic false [] (dropFirstNewline rest)
  | '\x27' :: '\x27' :: '\x27' :: rest => readLongLiteral [] (dropFirstNewline rest)
  | '"' :: rest => readBasic [] rest
  | '\x27' :: rest => readLiteral [] rest
  | _ => none

/-! ## Keys -/

/-- A character of a key without quotes. -/
def isBareKeyChar (c : Char) : Bool := c.isAlphanum || c == '-' || c == '_'

/-- One part of a key. -/
def readKeyPart : List Char → Option (String × List Char)
  | '"' :: rest => readBasic [] rest
  | '\x27' :: rest => readLiteral [] rest
  | cs =>
    let name := cs.takeWhile isBareKeyChar
    if name.isEmpty then none else some (String.ofList name, cs.dropWhile isBareKeyChar)

/-- Further parts of a key, each behind a dot. -/
def readKeyParts : Nat → List Char → Option (List String × List Char)
  | 0, _ => none
  | fuel + 1, cs =>
    match skipSpaces cs with
    | '.' :: rest => do
      let (part, rest) ← readKeyPart (skipSpaces rest)
      let (parts, rest) ← readKeyParts fuel rest
      return (part :: parts, rest)
    | rest => some ([], rest)

/-- How deep keys and values may be nested. -/
def maxDepth : Nat := 80

/-- A key: the parts in front of its last one, and the last one. -/
def readKey (cs : List Char) : Option ((List String × String) × List Char) := do
  let (first, rest) ← readKeyPart (skipSpaces cs)
  let (parts, rest) ← readKeyParts (cs.length + 1) rest
  let all := first :: parts
  if maxDepth ≤ all.length then none
  else return ((all.dropLast, all.getLastD first), rest)

/-! ## Dates -/

/-- Exactly so many digits, as a number between bounds. -/
def readFixed (count least greatest : Nat) (cs : List Char) : Option (Nat × List Char) := do
  let digits := cs.take count
  if digits.length < count then none
  else
    let n ← Text.digitsFrom 0 digits
    if least ≤ n && n ≤ greatest then some (n, cs.drop count) else none

/-- A character that must come next. -/
def expect (c : Char) : List Char → Option (List Char)
  | d :: rest => if c == d then some rest else none
  | [] => none

/-- A time of day; gives the text behind it. -/
def afterTime? (cs : List Char) : Option (List Char) := do
  let (_, cs) ← readFixed 2 0 23 cs
  let cs ← expect ':' cs
  let (_, cs) ← readFixed 2 0 59 cs
  let cs ← expect ':' cs
  let (_, cs) ← readFixed 2 0 60 cs
  match cs with
  | '.' :: rest =>
    if (rest.takeWhile Char.isDigit).isEmpty then some cs else some (rest.dropWhile Char.isDigit)
  | _ => some cs

/-- An offset from UTC; gives the text behind it. -/
def afterOffset? : List Char → Option (List Char)
  | [] => none
  | c :: rest =>
    if c == 'Z' || c == 'z' then some rest
    else if c == '+' || c == '-' then do
      let (_, cs) ← readFixed 2 0 23 rest
      let cs ← expect ':' cs
      let (_, cs) ← readFixed 2 0 59 cs
      return cs
    else none

/-- A date, a time, or both, perhaps with an offset; gives the text behind it. -/
def afterDate? (cs : List Char) : Option (List Char) :=
  let fullDate : Option (List Char) := do
    let (year, cs) ← readFixed 4 0 9999 cs
    let cs ← expect '-' cs
    let (month, cs) ← readFixed 2 1 12 cs
    let cs ← expect '-' cs
    let (_, cs) ← readFixed 2 1 (Date.daysInMonth year month) cs
    let timed : Option (List Char) := match cs with
      | c :: rest =>
        if c == 'T' || c == 't' || c == ' ' then
          (afterTime? rest).map fun cs => (afterOffset? cs).getD cs
        else none
      | [] => none
    return timed.getD cs
  fullDate <|> afterTime? cs

/-! ## Numbers -/

/-- The digits behind the first one, where an underscore may stand between two digits: their values,
and what follows. -/
def moreDigits (digit? : Char → Option Nat) (done : List Nat) : List Char → List Nat × List Char
  | '_' :: c :: rest =>
    match digit? c with
    | some d => moreDigits digit? (d :: done) rest
    | none => (done.reverse, '_' :: c :: rest)
  | c :: rest =>
    match digit? c with
    | some d => moreDigits digit? (d :: done) rest
    | none => (done.reverse, c :: rest)
  | [] => (done.reverse, [])

/-- Digits with underscores between them, at least one. -/
def readDigits (digit? : Char → Option Nat) : List Char → Option (List Nat × List Char)
  | c :: rest => do
    let d ← digit? c
    return moreDigits digit? [d] rest
  | [] => none

/-- The number that digits give in a base. -/
def ofDigits (base : Nat) (digits : List Nat) : Nat :=
  digits.foldl (fun n d => base * n + d) 0

/-- The digits of a decimal number that begins with zero only if it is zero. -/
def readDecimal : List Char → Option (List Nat × List Char)
  | '0' :: rest => some ([0], rest)
  | cs => readDigits Text.digit? cs

/-- A sign, true for minus. -/
def readSign : List Char → Bool × List Char
  | '+' :: rest => (false, rest)
  | '-' :: rest => (true, rest)
  | cs => (false, cs)

/-- A digit of a base up to sixteen. -/
def digitBelow (base : Nat) (c : Char) : Option Nat := (hexDigit? c).filter (· < base)

/-- An integer of 64 bits. -/
def readInteger (cs : List Char) : Option (Json.Number × List Char) :=
  let inBase (base : Nat) (rest : List Char) : Option (Json.Number × List Char) := do
    let (digits, rest) ← readDigits (digitBelow base) rest
    let n := ofDigits base digits
    if n < Nat.pow 2 63 then some (.integer n, rest) else none
  match cs with
  | '0' :: 'x' :: rest => inBase 16 rest
  | '0' :: 'o' :: rest => inBase 8 rest
  | '0' :: 'b' :: rest => inBase 2 rest
  | _ => do
    let (negative, unsigned) := readSign cs
    let (digits, rest) ← readDecimal unsigned
    let n := ofDigits 10 digits
    if negative then if n ≤ Nat.pow 2 63 then some (.integer (-n), rest) else none
    else if n < Nat.pow 2 63 then some (.integer n, rest) else none

/-- The number `digits * 10 ^ exponent`, rounded once; a negative one may be infinite. -/
def realOf (negative : Bool) (digits : List Nat) (exponent : Int) : Option Real64 :=
  let n := ofDigits 10 digits
  let size : Int := digits.length + exponent
  if n = 0 || size < -400 then some (.finite negative .zero)
  else
    let magnitude :=
      if 400 < size then none
      else if 0 ≤ exponent then Binary64.ofRatio (n * Nat.pow 10 exponent.toNat) 1
      else Binary64.ofRatio n (Nat.pow 10 (-exponent).toNat)
    match magnitude with
    | some x => some (.finite negative x)
    | none => if negative then some (.infinite true) else none

/-- An exponent part. -/
def readExponent : List Char → Option (Int × List Char)
  | c :: rest =>
    if c == 'e' || c == 'E' then do
      let (negative, unsigned) := readSign rest
      let (digits, rest) ← readDigits Text.digit? unsigned
      let n : Int := ofDigits 10 digits
      return (if negative then -n else n, rest)
    else none
  | [] => none

/-- A number with a fraction or an exponent part, or a special one. -/
def readReal (cs : List Char) : Option (Json.Number × List Char) :=
  let (negative, unsigned) := readSign cs
  match unsigned with
  | 'i' :: 'n' :: 'f' :: rest => some (.real (.infinite negative), rest)
  | 'n' :: 'a' :: 'n' :: rest => some (.real .undefined, rest)
  | _ => do
    let (whole, rest) ← readDecimal unsigned
    match rest with
    | '.' :: afterPoint => do
      let (fraction, rest) ← readDigits Text.digit? afterPoint
      let (exponent, rest) := (readExponent rest).getD (0, rest)
      let r ← realOf negative (whole ++ fraction) (exponent - fraction.length)
      return (.real r, rest)
    | _ => do
      let (exponent, rest) ← readExponent rest
      let r ← realOf negative whole exponent
      return (.real r, rest)

/-- A date or a number; a date is an object without members. -/
def readDateOrNumber (cs : List Char) : Option (Json.Value × List Char) :=
  match afterDate? cs with
  | some rest => some (.object [], rest)
  | none => ((readReal cs) <|> (readInteger cs)).map fun (n, rest) => (.number n, rest)

/-! ## Values -/

mutual

/-- A value nested in so many more. -/
def readValue : Nat → Nat → List Char → Option (Json.Value × List Char)
  | 0, _, _ => none
  | fuel + 1, depth, cs =>
    match cs with
    | [] => none
    | '[' :: rest => if depth = 0 then none else readItems fuel (depth - 1) [] rest
    | '\x7b' :: rest =>
      if depth = 0 then none
      else
        match skipSpaces rest with
        | '\x7d' :: rest => some (.object [], rest)
        | rest => readPairs fuel (depth - 1) [] rest
    | 't' :: 'r' :: 'u' :: 'e' :: rest => some (.bool true, rest)
    | 'f' :: 'a' :: 'l' :: 's' :: 'e' :: rest => some (.bool false, rest)
    | c :: _ =>
      if c == '"' || c == '\x27' then (readString cs).map fun (s, rest) => (.text s, rest)
      else if c.isDigit || c == '+' || c == '-' || c == 'i' || c == 'n' then readDateOrNumber cs
      else none

/-- The items of an array from behind its bracket or a comma; `done` is in reverse. -/
def readItems : Nat → Nat → List Json.Value → List Char → Option (Json.Value × List Char)
  | 0, _, _, _ => none
  | fuel + 1, depth, done, cs => do
    match ← skipTrivia false cs with
    | ']' :: rest => return (.list done.reverse, rest)
    | cs =>
      let (v, rest) ← readValue fuel depth cs
      match ← skipTrivia false rest with
      | ',' :: rest => readItems fuel depth (v :: done) rest
      | ']' :: rest => return (.list (v :: done).reverse, rest)
      | _ => none

/-- The pairs of an inline table from behind its brace or a comma. -/
def readPairs : Nat → Nat → Entries → List Char → Option (Json.Value × List Char)
  | 0, _, _, _ => none
  | fuel + 1, depth, entries, cs => do
    let ((path, key), rest) ← readKey cs
    let rest ← expect '=' (skipSpaces rest)
    let (v, rest) ← readValue fuel depth (skipSpaces rest)
    let entries ← Entries.addValue path key v .headed entries
    match skipSpaces rest with
    | ',' :: rest => readPairs fuel depth entries rest
    | '\x7d' :: rest => return (.object (membersOf entries), rest)
    | _ => none

end

/-! ## Documents -/

/-- A header between its brackets: the path of the table and its key. -/
def readHeader (close : List Char) (cs : List Char) :
    Option ((List String × String) × List Char) := do
  let (key, rest) ← readKey cs
  let rest := skipSpaces rest
  if close.isPrefixOf rest then some (key, rest.drop close.length) else none

/-- The statements of a document: `header` is the table that pairs belong to. -/
def readStatements : Nat → List String → Entries → List Char → Option Entries
  | 0, _, _, _ => none
  | fuel + 1, header, entries, cs => do
    match skipSpaces cs with
    | [] => return entries
    | '[' :: '[' :: rest =>
      let ((path, key), rest) ← readHeader [']', ']'] rest
      let rest ← endOfLine? rest
      readStatements fuel (path ++ [key]) (← Entries.addRow path key entries) rest
    | '[' :: rest =>
      let ((path, key), rest) ← readHeader [']'] rest
      let rest ← endOfLine? rest
      readStatements fuel (path ++ [key]) (← Entries.addTable path key entries) rest
    | c :: rest =>
      if c == '#' || c == '\n' || c == '\r' then
        readStatements fuel header entries (← endOfLine? (c :: rest))
      else
        let ((path, key), rest) ← readKey (c :: rest)
        let rest ← expect '=' (skipSpaces rest)
        let (v, rest) ← readValue (rest.length + 1) (maxDepth - 1) (skipSpaces rest)
        let rest ← endOfLine? rest
        readStatements fuel header (← Entries.addValueAt header path key v entries) rest

/-- The tables of a document as one object; a byte order mark in front is left out. -/
def read? (s : String) : Option Json.Value := do
  let cs := match s.toList with
    | '\uFEFF' :: rest => rest
    | cs => cs
  let entries ← readStatements (cs.length + 1) [] [] cs
  return .object (membersOf entries)

end LogOrigin.Toml
