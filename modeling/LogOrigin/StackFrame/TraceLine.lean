import LogOrigin.StackFrame
import LogOrigin.Text.Blank
import LogOrigin.Text.Decimal
import LogOrigin.Text.Word

/-!
# Frames from trace lines

A line of a textual trace reads `at owner.method(source)`, after any blanks and with anything behind
the closing parenthesis. In front of the owner there may be a class loader, a module and a version,
each ended by a slash; they are checked and dropped.
-/

namespace LogOrigin.StackFrame

/-- Characters of class loaders and modules. -/
def isModuleChar (c : Char) : Bool := Text.isWord c || c == '.' || c == '$' || c == '-'

/-- Characters of module versions. -/
def isVersionChar (c : Char) : Bool := Text.isWord c || c == '.' || c == '-'

/-- Characters of owners. -/
def isOwnerChar (c : Char) : Bool := Text.isWord c || c == '$' || c == '.'

/-- Characters of methods. -/
def isMethodChar (c : Char) : Bool := Text.isWord c || c == '$' || c == '<' || c == '>' || c == '-'

/-- A text that is not empty and has only characters of a kind. -/
def isNameOf (isKind : Char → Bool) (cs : List Char) : Bool :=
  !cs.isEmpty && cs.all isKind

/-- A module, with or without `@` and a version. -/
def isModule (cs : List Char) : Bool :=
  match cs.dropWhile (· != '@') with
  | [] => isNameOf isModuleChar cs
  | _ :: version =>
    isNameOf isModuleChar (cs.takeWhile (· != '@')) && isNameOf isVersionChar version

/-- What may stand before the last slash: a module, or a class loader, a slash and perhaps a
module. -/
def isLoaderPath (cs : List Char) : Bool :=
  match cs.dropWhile (· != '/') with
  | [] => isModule cs
  | _ :: module =>
    isNameOf isModuleChar (cs.takeWhile (· != '/')) && (module.isEmpty || isModule module)

/-- A text cut at the last `mark` in it: what is before the mark, and what is after it. -/
def cutAtLast (mark : Char) (cs : List Char) : Option (List Char × List Char) :=
  let after := (cs.reverse.takeWhile (· != mark)).reverse
  match cs.reverse.dropWhile (· != mark) with
  | [] => none
  | _ :: before => some (before.reverse, after)

/-- A text cut at the first `mark` in it. -/
def cutAtFirst (mark : Char) (cs : List Char) : Option (List Char × List Char) :=
  match cs.dropWhile (· != mark) with
  | [] => none
  | _ :: after => some (cs.takeWhile (· != mark), after)

/-- What stands between `at` and the blanks behind it and the end of the line. -/
def afterAt (line : List Char) : Option (List Char) :=
  match Text.trimStart line with
  | 'a' :: 't' :: c :: rest => if Text.isBlank c then some (Text.trimStart rest) else none
  | _ => none

/-- The owner and the method in front of the parenthesis. -/
def ownerAndMethod (head : List Char) : Option (List Char × List Char) := do
  let qualified ← match cutAtLast '/' head with
    | none => some head
    | some (path, qualified) => if isLoaderPath path then some qualified else none
  let (owner, method) ← cutAtLast '.' qualified
  if isNameOf isOwnerChar owner && isNameOf isMethodChar method then some (owner, method) else none

/-- The file and the line that a source names. -/
def sourcePosition (source : List Char) : Option (List Char) × Nat :=
  if source.isEmpty || source == "Native Method".toList || source == "Unknown Source".toList then
    (none, 0)
  else
    match cutAtLast ':' source with
    | none => (some source, 0)
    | some (file, line) => (some file, (Text.readUnsigned (Nat.pow 2 32) line).getD 0)

/-- The frame of a trace line, if it is one. -/
def ofTraceLine? (line : String) : Option StackFrame := do
  let body ← afterAt line.toList
  let (head, rest) ← cutAtFirst '(' body
  let (source, _) ← cutAtFirst ')' rest
  let (owner, method) ← ownerAndMethod head
  let (file, lineNumber) := sourcePosition source
  return ⟨String.ofList owner, String.ofList method, file.map String.ofList, lineNumber⟩

end LogOrigin.StackFrame
