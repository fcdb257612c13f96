import LogOrigin.Decode.Basic

/-!
# Variants

A value of an enumeration is given by the name of a variant, or by an object whose only key is the
name and whose value is null. A variant with fields of its own is always given as such an object.
-/

namespace LogOrigin.Decode

open Json (TextFault Node Key ObjectEnding)

/-- An enumeration: the names in order, the value of each plain variant, and the one variant with
fields, if there is one. -/
structure Variants (α : Type) where
  plain : List (String × α)
  /-- The name and the fields of the variant with fields. -/
  custom : Option (String × DeepDecoder α) := none

namespace Variants

variable {α : Type} (vs : Variants α)

/-- The names to choose from. -/
def names : List String :=
  vs.plain.map (·.1) ++ (vs.custom.map (·.1)).toList

/-- What a name stands for. -/
inductive Choice (α : Type) where
  | plain (a : α)
  | custom (fields : DeepDecoder α)

/-- Looks a name up. -/
def choose (name : String) : Except Fault (Choice α) :=
  match vs.plain.find? (·.1 == name), vs.custom with
  | some (_, a), _ => .ok (.plain a)
  | none, some (custom, fields) =>
    if custom == name then .ok (.custom fields) else .error (.unknownVariant name vs.names)
  | none, none => .error (.unknownVariant name vs.names)

/-- Decodes the value behind the name of a variant. -/
def contents (depth : Nat) (origin : Origin) (choice : Choice α) (node : Node) :
    Except Fault α :=
  match choice with
  | .plain a => (fun _ => a) <$> unit origin node
  | .custom fields =>
    match origin, node with
    | .streamed, node => fields depth origin node
    | _, .object _ _ => fields depth origin node
    | _, .list _ _ => fields depth origin node
    | _, node => mismatch .variantFields node

/-- What is wrong with an object that begins with no member. -/
def withoutMember (ending : ObjectEnding) : Fault :=
  match ending with
  | .notKey (.ok found) => .wrongType found .variantName
  | .notKey (.error fault) => .malformed fault
  | .brokenKey key => .malformed key.contents
  | .cut => .malformed .endOfValue
  | _ => .malformed .expectedValue

/-- What is wrong with an object after its first member. -/
def afterMember (others : List (Key × Node)) (ending : ObjectEnding) : Except Fault Unit :=
  match others, ending with
  | [], .closed => .ok ()
  | [], .cut => .error (.malformed .endOfObject)
  | _, _ => .error (.malformed .expectedValue)

/-- Decodes a value of the enumeration. -/
def decode : DeepDecoder α
  | _, _, .text s => do
    match ← vs.choose (← ofText s) with
    | .plain a => return a
    | .custom _ => throw (.wrongType .bareVariant .variantFields)
  | 0, .streamed, .object _ _ => .error (.malformed .tooDeep)
  | _, .streamed, .object [] ending => .error (withoutMember ending)
  | depth + 1, .streamed, .object ((key, node) :: others) ending => do
    let choice ← vs.choose (← ofText key)
    let a ← contents depth .streamed choice node
    afterMember others ending
    return a
  | depth, origin, .object [(key, node)] _ => do
    let choice ← vs.choose (← ofText key)
    contents (depth - 1) origin choice node
  | _, _, .object _ _ => .error (.wrongValue .object .singleMember)
  | _, .streamed, .broken b => .error (.malformed b.variant)
  | _, .streamed, _ => .error (.malformed .expectedValue)
  | _, _, node => mismatch .textOrMap node

end Variants

end LogOrigin.Decode
