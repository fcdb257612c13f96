import LogOrigin.Instant
import LogOrigin.Json.Node
import LogOrigin.Json.Printer
import LogOrigin.Text.Quoted

/-!
# Why a document does not describe a value

A document may be malformed, or it may be well formed and not describe what was wanted. The second
kind names what was found and what was expected.
-/

namespace LogOrigin.Decode

open Json (Found TextFault)

/-- What a decoder expects. -/
inductive Expectation where
  | text
  | list
  | map
  | unit
  | unsigned32
  | unsigned64
  | signed32
  | size
  | instant
  /-- A value described by a phrase such as the kind and the name of a record. -/
  | phrase (p : String)
  /-- A record given as a list of all its fields. -/
  | allFields (phrase : String) (count : Nat)
  | variantName
  | variantFields
  | textOrMap
  | singleMember
  /-- A list that ends after so many items. -/
  | itemsInList (count : Nat)
  | fewerItems
  deriving DecidableEq, Repr

/-- A count of things. -/
def counted (n : Nat) (one : String) : String :=
  toString n ++ " " ++ one ++ (if n = 1 then "" else "s")

/-- The wording of an expectation. -/
def Expectation.describe : Expectation → String
  | text => "a string"
  | list => "a sequence"
  | map => "a map"
  | unit => "unit"
  | unsigned32 => "u32"
  | unsigned64 => "u64"
  | signed32 => "i32"
  | size => "usize"
  | instant => "an RFC 3339 formatted date and time string"
  | phrase p => p
  | allFields p n => p ++ " with " ++ counted n "element"
  | variantName => "variant identifier"
  | variantFields => "struct variant"
  | textOrMap => "string or map"
  | singleMember => "map with a single key"
  | itemsInList n => counted n "element" ++ " in sequence"
  | fewerItems => "fewer elements in array"

/-- The wording of what was found, with numbers in the given layout. -/
def describeFound (layout : Binary64.Layout) : Found → String
  | .null => "null"
  | .bool b => "boolean `" ++ (if b then "true" else "false") ++ "`"
  | .integer i => "integer `" ++ toString i ++ "`"
  | .real r => "floating point `" ++ r.text layout ++ "`"
  | .text s => "string " ++ Text.quoted s
  | .list => "sequence"
  | .object => "map"
  | .bareVariant => "unit variant"

/-- Why decoding fails. -/
inductive Fault where
  /-- The document is not well formed. -/
  | malformed (fault : TextFault)
  /-- A value of the wrong kind. -/
  | wrongType (found : Found) (wanted : Expectation)
  /-- A value of the right kind beyond what can be represented. -/
  | wrongValue (found : Found) (wanted : Expectation)
  /-- A list of the wrong length. -/
  | wrongLength (length : Nat) (wanted : Expectation)
  | missingField (name : String)
  | duplicateField (name : String)
  | unknownVariant (name : String) (choices : List String)
  | badInstant (fault : Instant.Fault)
  deriving DecidableEq, Repr

/-- The names one may choose from. -/
def oneOf (choices : List String) : String :=
  let shown := choices.map fun c => "`" ++ c ++ "`"
  match shown with
  | [] => "there are no variants"
  | [a] => "expected " ++ a
  | [a, b] => "expected " ++ a ++ " or " ++ b
  | _ => "expected one of " ++ ", ".intercalate shown

/-- The wording of a fault, with numbers in the given layout. -/
def Fault.message (layout : Binary64.Layout) : Fault → String
  | malformed fault => fault.message
  | wrongType found wanted =>
    "invalid type: " ++ describeFound layout found ++ ", expected " ++ wanted.describe
  | wrongValue found wanted =>
    "invalid value: " ++ describeFound layout found ++ ", expected " ++ wanted.describe
  | wrongLength n wanted => "invalid length " ++ toString n ++ ", expected " ++ wanted.describe
  | missingField name => "missing field `" ++ name ++ "`"
  | duplicateField name => "duplicate field `" ++ name ++ "`"
  | unknownVariant name choices => "unknown variant `" ++ name ++ "`, " ++ oneOf choices
  | badInstant fault => fault.message

end LogOrigin.Decode
