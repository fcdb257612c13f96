import LogOrigin.Toml.Document

/-!
# Errors

What can go wrong outside a single event: files that cannot be used, configuration that cannot be
read, captured lines that cannot be replayed. Each error has a wording, and the errors it comes from
form a chain with it. An event without a location is no error.
-/

namespace LogOrigin

/-- Why the file system refuses. -/
inductive IoError where
  | notFound
  | isDirectory
  | notDirectory
  /-- A file to be read as text is not UTF-8. -/
  | notText
  /-- Anything else, in the words of the system. -/
  | other (text : String)
  deriving DecidableEq, Repr

namespace IoError

/-- The wording of a refusal. -/
def message : IoError → String
  | notFound => "No such file or directory (os error 2)"
  | isDirectory => "Is a directory (os error 21)"
  | notDirectory => "Not a directory (os error 20)"
  | notText => "stream did not contain valid UTF-8"
  | other text => text

/-- There is nothing at the path. -/
def isAbsence : IoError → Bool
  | notFound | notDirectory => true
  | _ => false

end IoError

/-- Why a sink refuses a registration. -/
inductive SinkError where
  | cannotOpen (path : String) (cause : IoError)
  | unavailable (reason : String)
  deriving DecidableEq, Repr

namespace SinkError

/-- The wording of a refusal. -/
def message : SinkError → String
  | cannotOpen path cause => "Cannot open sink '" ++ path ++ "': " ++ cause.message
  | unavailable reason => "Sink unavailable: " ++ reason

/-- The wordings of the refusal and of what it comes from. -/
def chain (e : SinkError) : List String :=
  e.message :: match e with
    | cannotOpen _ cause => [cause.message]
    | unavailable _ => []

end SinkError

/-- Why configuration cannot be used. -/
inductive ConfigError where
  | unreadable (path : String) (cause : IoError)
  | unparseable (path : String) (cause : Toml.Fault)
  | outOfRange (field value expected : String)
  deriving DecidableEq, Repr

namespace ConfigError

/-- The wording of an error. -/
def message : ConfigError → String
  | unreadable path cause => "Config I/O error '" ++ path ++ "': " ++ cause.message
  | unparseable path cause => "Config parse error '" ++ path ++ "': " ++ cause.message
  | outOfRange field value expected =>
    "Config '" ++ field ++ "' = '" ++ value ++ "' is out of range. Expected: " ++ expected

/-- The wordings of the error and of what it comes from. -/
def chain (e : ConfigError) : List String :=
  e.message :: match e with
    | unreadable _ cause => [cause.message]
    | unparseable _ cause => [cause.message]
    | outOfRange _ _ _ => []

end ConfigError

/-- Why a line is not replayed. -/
inductive LineError where
  | malformed (fault : Decode.Fault)
  | tooLong (length greatest : Nat)
  deriving DecidableEq, Repr

/-- A line that is not replayed, by its number in the input. -/
structure SkippedLine where
  number : Nat
  cause : LineError
  deriving DecidableEq, Repr

/-- Why a line was skipped, in words. -/
def SkippedLine.message (l : SkippedLine) : String :=
  "line " ++ toString l.number ++ ": " ++
    match l.cause with
    | .malformed fault => "invalid captured event: " ++ fault.message Json.realLayout
    | .tooLong length greatest =>
      toString length ++ " bytes exceeds maximum of " ++ toString greatest

/-- Why captured events cannot be replayed. -/
inductive ReplayError where
  | unreadable (path : String) (cause : IoError)
  | line (l : SkippedLine)
  | outputUnavailable (path : String)
  deriving DecidableEq, Repr

namespace ReplayError

/-- The wording of an error. -/
def message : ReplayError → String
  | unreadable path cause => "Replay I/O error '" ++ path ++ "': " ++ cause.message
  | line l => l.message
  | outputUnavailable path => "Output '" ++ path ++ "' could not be opened"

/-- The wordings of the error and of what it comes from. -/
def chain (e : ReplayError) : List String :=
  e.message :: match e with
    | unreadable _ cause => [cause.message]
    | line ⟨_, .malformed fault⟩ => [fault.message Json.realLayout]
    | line ⟨_, .tooLong _ _⟩ | outputUnavailable _ => []

end ReplayError

/-- Why the program fails. -/
inductive Error where
  | config (cause : ConfigError)
  | replay (cause : ReplayError)
  deriving DecidableEq, Repr

namespace Error

/-- The wording of an error. -/
def message : Error → String
  | config cause => "Configuration error: " ++ cause.message
  | replay cause => "Replay error: " ++ cause.message

/-- The wordings of the error and of what it comes from, outermost first. -/
def chain (e : Error) : List String :=
  e.message :: match e with
    | config cause => cause.chain
    | replay cause => cause.chain

end Error

end LogOrigin
