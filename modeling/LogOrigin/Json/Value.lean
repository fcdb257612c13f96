import LogOrigin.Binary64

/-!
# JSON values

A number is an integer or a binary64 number. Object members keep their order, and a key may occur
more than once.
-/

namespace LogOrigin.Json

/-- A JSON number: an integer that was written as one, or any other number. -/
inductive Number where
  | integer (i : Int)
  | real (r : Real64)
  deriving DecidableEq, Repr

/-- A JSON value. -/
inductive Value where
  | null
  | bool (b : Bool)
  | number (n : Number)
  | text (s : String)
  | list (items : List Value)
  | object (members : List (String × Value))
  deriving Repr

namespace Value

/-- A natural number as a value. -/
def natural (n : Nat) : Value := .number (.integer n)

/-- A value that may be absent, as null when it is. -/
def optional {α : Type} (value : α → Value) : Option α → Value
  | none => .null
  | some a => value a

end Value

end LogOrigin.Json
