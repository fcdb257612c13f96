import LogOrigin.Limits
import LogOrigin.StackFrame.TraceLine
import LogOrigin.Throwable

/-!
# Textual traces

A trace begins with a header, the type and perhaps a message behind `: `, followed by frame lines.
Each `Caused by:` at the start of a line heads the next link of the cause chain. A block that starts
with `Suppressed:` is passed over up to the next such line, and other lines carry nothing. A trace
that does not begin with a header is none.
-/

namespace LogOrigin.Throwable

/-- A text cut at the first colon that a space follows. -/
def cutAtColon (before : List Char) : List Char → Option (List Char × List Char)
  | ':' :: ' ' :: rest => some (before.reverse, rest)
  | c :: rest => cutAtColon (c :: before) rest
  | [] => none

/-- The type and the message of a header. -/
def header (line : List Char) : Link :=
  match cutAtColon [] line with
  | some (typeName, message) =>
    ⟨String.ofList (Text.trim typeName), some (String.ofList message), []⟩
  | none =>
    ⟨String.ofList ((Text.trim line).reverse.dropWhile (· == ':')).reverse, none, []⟩

/-- What has been read of a trace: its links, the last one first and with its frames in reverse, and
whether a suppressed block is being passed over. -/
structure TraceState where
  links : List Link := []
  suppressed : Bool := false

/-- Adds a frame to the last link; without a link there is nothing to add it to. -/
def TraceState.addFrame (s : TraceState) (frame : StackFrame) : TraceState :=
  match s.links with
  | [] => s
  | l :: rest => { s with links := { l with frames := frame :: l.frames } :: rest }

/-- The texts that head causes and suppressed blocks. -/
def causedBy : List Char := "Caused by:".toList

/-- What opens a suppressed block. -/
def suppressedMark : List Char := "Suppressed:".toList

/-- Takes in one line that heads no cause. -/
def TraceState.inside (s : TraceState) (line : String) : TraceState :=
  let cs := line.toList
  if s.suppressed then s
  else if suppressedMark.isPrefixOf (Text.trimStart cs) then { s with suppressed := true }
  else
    match StackFrame.ofTraceLine? line with
    | some frame => s.addFrame frame
    | none =>
      if s.links.isEmpty && !(cs.head?.any Text.isBlank) then { s with links := [header cs] } else s

/-- Takes in lines, up to a cause beyond the deepest link that is kept. -/
def TraceState.run (s : TraceState) : List String → TraceState
  | [] => s
  | line :: rest =>
    let cs := line.toList
    if (Text.trim cs).isEmpty then s.run rest
    else if causedBy.isPrefixOf cs then
      if Limits.causeDepth ≤ s.links.length then s
      else
        let link := header (Text.trimStart (cs.drop causedBy.length))
        TraceState.run ⟨link :: s.links, false⟩ rest
    else (s.inside line).run rest

/-- The throwable that lines describe. -/
def ofLines? (lines : List String) : Option Throwable :=
  let links := (TraceState.run {} lines).links
  ofLinks? (links.map fun l => { l with frames := l.frames.reverse }).reverse

/-- The throwable that a text describes. -/
def ofText? (text : String) : Option Throwable :=
  ofLines? (Text.lines text)

end LogOrigin.Throwable
