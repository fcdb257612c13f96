import LogOrigin.Json.Value

/-!
# JSON text as read

Reading text yields a tree of nodes even when the text is not JSON: the tree then ends where
reading stopped, and says why. Which complaint is due depends on who looks. A reader that wants the
contents of a string or a numeral objects to more than one that only passes over it, and a list
that breaks off is worded differently by the reader that expected its end. A node therefore keeps
the situation and leaves the wording to the question.
-/

namespace LogOrigin.Json

/-- Why a text is not JSON, or not JSON that can be used. -/
inductive TextFault where
  | endOfList
  | endOfObject
  | endOfString
  | endOfValue
  | expectedColon
  | expectedListEnd
  | expectedObjectEnd
  | expectedWord
  | expectedValue
  | badEscape
  | badNumber
  | numberTooLarge
  | badUnicode
  | controlCharacter
  | keyNotString
  | loneSurrogate
  | unpairedEscape
  | trailingComma
  | trailingText
  | tooDeep
  deriving DecidableEq, Repr

namespace TextFault

/-- The wording of a fault. -/
def message : TextFault → String
  | endOfList => "EOF while parsing a list"
  | endOfObject => "EOF while parsing an object"
  | endOfString => "EOF while parsing a string"
  | endOfValue => "EOF while parsing a value"
  | expectedColon => "expected `:`"
  | expectedListEnd => "expected `,` or `]`"
  | expectedObjectEnd => "expected `,` or `\x7d`"
  | expectedWord => "expected ident"
  | expectedValue => "expected value"
  | badEscape => "invalid escape"
  | badNumber => "invalid number"
  | numberTooLarge => "number out of range"
  | badUnicode => "invalid unicode code point"
  | controlCharacter => "control character (\\u0000-\\u001F) found while parsing a string"
  | keyNotString => "key must be a string"
  | loneSurrogate => "lone leading surrogate in hex escape"
  | unpairedEscape => "unexpected end of hex escape"
  | trailingComma => "trailing comma"
  | trailingText => "trailing characters"
  | tooDeep => "recursion limit exceeded"

/-- The text ends too early, rather than going wrong. -/
def isEnd : TextFault → Bool
  | endOfList | endOfObject | endOfString | endOfValue => true
  | _ => false

end TextFault

/-- What a reader found where it wanted something else. -/
inductive Found where
  | null
  | bool (b : Bool)
  | integer (i : Int)
  | real (r : Real64)
  | text (s : String)
  | list
  | object
  | bareVariant
  deriving DecidableEq, Repr

/-- A value that could not be read, with the complaint of a reader that wants its contents, of one
that passes over it, and of one that wants the name of a variant. -/
structure Broken where
  contents : TextFault
  passing : TextFault
  variant : TextFault
  deriving DecidableEq, Repr

/-- A value at which every reader has the same complaint. -/
def Broken.always (fault : TextFault) : Broken := ⟨fault, fault, fault⟩

/-- How a list ends. -/
inductive ListEnding where
  /-- By its bracket. -/
  | closed
  /-- By the end of the text, after the opening bracket or an item. -/
  | cut
  /-- By the end of the text, after a comma. -/
  | cutAfterComma
  /-- By something after an item that is neither comma nor bracket. -/
  | unseparated
  /-- By a bracket after a comma. -/
  | danglingComma
  /-- Inside its last item, with the complaint of a reader that passes over it. -/
  | inside (passing : TextFault)
  deriving DecidableEq, Repr

namespace ListEnding

/-- The complaint of a reader that goes through the items. -/
def fault? : ListEnding → Option TextFault
  | closed => none
  | cut => some .endOfList
  | cutAfterComma => some .endOfValue
  | unseparated => some .expectedListEnd
  | danglingComma => some .trailingComma
  | inside fault => some fault

/-- The complaint of a reader that passes over the list. -/
def passingFault? : ListEnding → Option TextFault
  | danglingComma => some .expectedValue
  | ending => ending.fault?

/-- The complaint of a reader that has all the items it wants and expects the end. -/
def finalFault? : ListEnding → Option TextFault
  | cutAfterComma | unseparated => some .trailingText
  | ending => ending.fault?

end ListEnding

/-- How an object ends. -/
inductive ObjectEnding where
  /-- By its brace. -/
  | closed
  /-- By the end of the text, after the opening brace or a member. -/
  | cut
  /-- By the end of the text, after a comma. -/
  | cutAfterComma
  /-- By something after a member that is neither comma nor brace. -/
  | unseparated
  /-- By a brace after a comma. -/
  | danglingComma
  /-- By something other than a string where a key belongs. -/
  | notKey (found : Except TextFault Found)
  /-- Inside a key. -/
  | brokenKey (key : Broken)
  /-- Inside its last member, with the complaint of a reader that passes over it. -/
  | inside (passing : TextFault)

namespace ObjectEnding

/-- The complaint of a reader that goes through the members. -/
def fault? : ObjectEnding → Option TextFault
  | closed => none
  | cut => some .endOfObject
  | cutAfterComma => some .endOfValue
  | unseparated => some .expectedObjectEnd
  | danglingComma => some .trailingComma
  | notKey _ => some .keyNotString
  | brokenKey key => some key.contents
  | inside fault => some fault

/-- The complaint of a reader that passes over the object. -/
def passingFault? : ObjectEnding → Option TextFault
  | cutAfterComma => some .endOfObject
  | danglingComma => some .keyNotString
  | brokenKey key => some key.passing
  | ending => ending.fault?

end ObjectEnding

/-- A key, or why its text cannot be used. -/
abbrev Key := Except TextFault String

/-- A value as read. A numeral or a string that is well delimited may still be of no use to a
reader that wants its contents. -/
inductive Node where
  | null
  | bool (b : Bool)
  | number (n : Except TextFault Number)
  | text (s : Except TextFault String)
  | list (items : List Node) (ending : ListEnding)
  | object (members : List (Key × Node)) (ending : ObjectEnding)
  | broken (b : Broken)

/-- A whole text as read: its value, and whether anything but blanks follows it. -/
structure Document where
  root : Node
  trailing : Bool

namespace Node

/-- The complaint of a reader that passes over the value. -/
def passingFault? : Node → Option TextFault
  | list _ ending => ending.passingFault?
  | object _ ending => ending.passingFault?
  | broken b => some b.passing
  | _ => none

/-- What a reader finds that wanted something else. Lists and objects are known by their opening
bracket, whatever is in them. -/
def found : Node → Except TextFault Found
  | null => .ok .null
  | bool b => .ok (.bool b)
  | number n => n.map fun
    | .integer i => .integer i
    | .real r => .real r
  | text s => s.map .text
  | list _ _ => .ok .list
  | object _ _ => .ok .object
  | broken b => .error b.contents

/-- Raises a fault, if there is one. -/
def raise : Option TextFault → Except TextFault Unit
  | none => .ok ()
  | some fault => .error fault

/-- The value of a node whose lists and objects are nested at most `depth` deep. -/
def value : Nat → Node → Except TextFault Value
  | _, null => .ok .null
  | _, bool b => .ok (.bool b)
  | _, number n => n.map .number
  | _, text s => s.map .text
  | 0, list _ _ => .error .tooDeep
  | depth + 1, list items ending => do
    let values ← items.mapM (value depth)
    raise ending.fault?
    return .list values
  | 0, object _ _ => .error .tooDeep
  | depth + 1, object members ending => do
    let values ← members.mapM fun (key, node) => do
      let name ← key
      let v ← value depth node
      return (name, v)
    raise ending.fault?
    return .object values
  | _, broken b => .error b.contents

mutual

/-- A value as a reader of its text would see it. -/
def ofValue : Value → Node
  | .null => null
  | .bool b => bool b
  | .number n => number (.ok n)
  | .text s => text (.ok s)
  | .list items => list (ofItems items) .closed
  | .object members => object (ofMembers members) .closed

/-- List items as a reader would see them. -/
def ofItems : List Value → List Node
  | [] => []
  | v :: rest => ofValue v :: ofItems rest

/-- Object members as a reader would see them. -/
def ofMembers : List (String × Value) → List (Key × Node)
  | [] => []
  | (key, v) :: rest => (.ok key, ofValue v) :: ofMembers rest

end

end Node

/-- How deep lists and objects may be nested. -/
def maxDepth : Nat := 127

/-- The value of a whole text, within the nesting limit. -/
def Document.value (d : Document) : Except TextFault Value := do
  let v ← d.root.value maxDepth
  if d.trailing then throw .trailingText
  return v

end LogOrigin.Json
