import LogOrigin.Decode.Basic

/-!
# Records

A record is an object with known keys, in any order and mixed with keys that are passed over, or a
list of its fields in their order. A field may be given once. Decoding goes through the document in
its order and fills in a draft, from which the record is made at the end.
-/

namespace LogOrigin.Decode

open Json (TextFault Node Key ListEnding)

/-- A field of a record whose drafts have type `δ`. -/
structure Field (δ : Type) where
  /-- Its key. -/
  name : String
  /-- The draft has it. -/
  isGiven : δ → Bool
  /-- Decodes it into a draft. -/
  fill : Decoder (δ → δ)
  /-- A list of fields may end before it. -/
  mayBeLeftOut : Bool := true

/-- A field that is kept in the draft as an optional value. -/
def field {δ β : Type} (name : String) (get : δ → Option β) (set : δ → Option β → δ)
    (decode : Decoder β) (mayBeLeftOut : Bool := true) : Field δ where
  name := name
  isGiven draft := (get draft).isSome
  fill origin node := (fun b draft => set draft (some b)) <$> decode origin node
  mayBeLeftOut := mayBeLeftOut

/-- How a record of type `α` is described and put together from drafts of type `δ`. -/
structure Record (δ α : Type) where
  /-- What messages call it. -/
  phrase : String
  fields : List (Field δ)
  /-- The draft without any field. -/
  blank : δ
  /-- The record of a draft, if no necessary field is missing. -/
  finish : δ → Except Fault α

/-- The value of a necessary field. -/
def necessary {β : Type} (name : String) : Option β → Except Fault β
  | some b => .ok b
  | none => .error (.missingField name)

namespace Record

variable {δ α : Type} (r : Record δ α)

/-- Takes one member of an object into the draft. -/
def member (origin : Origin) (draft : δ) (key : Key) (node : Node) : Except Fault δ := do
  let name ← ofText key
  match r.fields.find? (·.name == name) with
  | none => do
    raise node.passingFault?
    return draft
  | some f =>
    if f.isGiven draft then throw (.duplicateField name)
    return (← f.fill origin node) draft

/-- Takes list items into the draft, the fields from number `i` on being due. `given` is the length
of the whole list. -/
def items (origin : Origin) (given : Nat) (ending : ListEnding) :
    Nat → List (Field δ) → List Node → δ → Except Fault δ
  | i, f :: fields, node :: nodes, draft => do
    items origin given ending (i + 1) fields nodes ((← f.fill origin node) draft)
  | i, f :: fields, [], draft => do
    raise ending.fault?
    if f.mayBeLeftOut then items origin given ending (i + 1) fields [] draft
    else throw (.wrongLength i (.allFields r.phrase r.fields.length))
  | _, [], _, draft => return draft

/-- What is wrong with a list that goes on after all fields, or with its end. -/
def afterFields (origin : Origin) (given : Nat) (ending : ListEnding) : Except Fault Unit :=
  if r.fields.length < given then
    match origin with
    | .streamed => .error (.malformed .trailingText)
    | .kept => .error (.wrongLength given (.itemsInList r.fields.length))
    | .given => .error (.wrongLength given .fewerItems)
    | .table => .ok ()
  else raise ending.finalFault?

/-- Decodes the record, nesting being allowed. -/
def decode : Decoder α
  | origin, .object members ending => do
    let draft ← members.foldlM (fun draft (key, node) => r.member origin draft key node) r.blank
    raise ending.fault?
    r.finish draft
  | origin, .list nodes ending => do
    let draft ← r.items origin nodes.length ending 0 r.fields nodes r.blank
    let a ← r.finish draft
    r.afterFields origin nodes.length ending
    return a
  | _, node => mismatch (.phrase r.phrase) node

end Record

/-- Refuses a record that would nest too deep, and anything that is no record as usual. -/
def tooDeep {α : Type} (phrase : String) : Decoder α
  | _, .object _ _ => .error (.malformed .tooDeep)
  | _, .list _ _ => .error (.malformed .tooDeep)
  | _, node => mismatch (.phrase phrase) node

/-- Decodes a record, given the record for each depth that is left inside. -/
def record {δ α : Type} (phrase : String) (inside : Nat → Record δ α) : DeepDecoder α
  | 0 => tooDeep phrase
  | depth + 1 => (inside depth).decode

end LogOrigin.Decode
