import LogOrigin.StackFrame

/-!
# Frames from symbol paths

A symbol such as `app::Service<T>::run` names a method by a path. The last separator outside angle
brackets parts the owner from the method, and an owner of the form `<Type as Trait>` or `<Type>`
stands for `Type`. The `>` of an arrow `->` is no bracket.
-/

namespace LogOrigin.StackFrame

/-- The bracket depth behind `c`, where `before` is the text before `c`, read backwards. It changes
by one with a character, so in texts of fewer than `2 ^ 31` characters it is what a signed number of
32 bits would count; in longer ones such a number could overflow. -/
def depthAfter (depth : Int) (before : List Char) (c : Char) : Int :=
  if c == '<' then depth + 1
  else if c == '>' && before.head? != some '-' then depth - 1
  else depth

/-- Cuts a path at its last separator outside brackets: the part before it, read backwards, and the
part after it. `before` is what has been read, `best` the last cut found in it. -/
def lastSeparator (depth : Int) (before : List Char) (best : Option (List Char × List Char)) :
    List Char → Option (List Char × List Char)
  | ':' :: ':' :: rest =>
    lastSeparator depth (':' :: ':' :: before)
      (if depth = 0 then some (before, rest) else best) rest
  | c :: rest => lastSeparator (depthAfter depth before c) (c :: before) best rest
  | [] => best

/-- The part of a text before its first ` as ` outside brackets, or all of it. -/
def beforeAs (depth : Int) (before : List Char) : List Char → List Char
  | [] => before.reverse
  | c :: rest =>
    if depth = 0 && [' ', 'a', 's', ' '].isPrefixOf (c :: rest) then before.reverse
    else beforeAs (depthAfter depth before c) (c :: before) rest

/-- The type that an owner in angle brackets stands for; any other owner is itself. -/
def implementor (owner : List Char) : List Char :=
  match owner with
  | '<' :: inner =>
    match inner.reverse with
    | '>' :: inner => beforeAs 0 [] inner.reverse
    | _ => owner
  | _ => owner

/-- The owner and the method of a symbol; a symbol without separator is a bare method. -/
def splitSymbol (symbol : String) : String × String :=
  match lastSeparator 0 [] none symbol.toList with
  | some (before, method) =>
    (String.ofList (implementor before.reverse), String.ofList method)
  | none => ("", symbol)

/-- The frame of a symbol. -/
def ofSymbol (symbol : String) (fileName : Option String) (lineNumber : Nat) : StackFrame :=
  let (owner, method) := splitSymbol symbol
  ⟨owner, method, fileName, lineNumber⟩

end LogOrigin.StackFrame
