import LogOrigin.Limits

/-!
# Arguments

Options are read from left to right. An option with a value takes it from the same argument, behind
an equals sign or, for a short option, right behind its letter; or else from the next argument,
unless that looks like an option. Short options may be clustered. Asking for help or for the version
counts where it is met, unless something was wrong before.
-/

namespace LogOrigin.CommandLine

/-- An option with a value. -/
inductive ValueOption where
  | input
  | output
  | config
  deriving DecidableEq, Repr

/-- An option without a value. -/
inductive Flag where
  | debug
  | help
  | version
  deriving DecidableEq, Repr

/-- Any option. -/
inductive AnyOption where
  | valued (o : ValueOption)
  | flag (f : Flag)
  deriving DecidableEq, Repr

/-- The long name of an option with a value. -/
def ValueOption.name : ValueOption → String
  | input => "input"
  | output => "output"
  | config => "config"

/-- The long name of an option. -/
def AnyOption.name : AnyOption → String
  | valued o => o.name
  | flag .debug => "debug"
  | flag .help => "help"
  | flag .version => "version"

/-- All options. -/
def AnyOption.all : List AnyOption :=
  [valued .input, valued .output, valued .config, flag .debug, flag .help, flag .version]

/-- The option with a long name. -/
def longOption? (name : List Char) : Option AnyOption :=
  AnyOption.all.find? (·.name.toList == name)

/-- The option with a letter. -/
def shortOption? : Char → Option AnyOption
  | 'i' => some (.valued .input)
  | 'o' => some (.valued .output)
  | 'c' => some (.valued .config)
  | 'd' => some (.flag .debug)
  | 'h' => some (.flag .help)
  | 'V' => some (.flag .version)
  | _ => none

/-- What a run is asked to do. -/
structure Options where
  input : String
  output : String
  config : Option String
  debug : Bool
  deriving DecidableEq, Repr

/-- What arguments ask for. -/
inductive Request where
  | help
  | version
  | replay (o : Options)
  deriving DecidableEq, Repr

/-- Why arguments cannot be followed. -/
inductive UsageError where
  | unexpectedArgument (argument : String)
  | unexpectedValue (name : String)
  | missingValue (name : String)
  | repeated (name : String)
  | missingOption (name : String)
  deriving DecidableEq, Repr

/-- The wording of a usage error. -/
def UsageError.message : UsageError → String
  | unexpectedArgument argument => "unexpected argument '" ++ argument ++ "'"
  | unexpectedValue name => "unexpected value for '--" ++ name ++ "'"
  | missingValue name => "a value is required for '--" ++ name ++ "'"
  | repeated name => "the argument '--" ++ name ++ "' cannot be used multiple times"
  | missingOption name => "the argument '--" ++ name ++ "' is required"

/-- The arguments read so far. -/
structure Draft where
  input : Option String := none
  output : Option String := none
  config : Option String := none
  debug : Bool := false
  /-- An option that waits for its value. -/
  pending : Option ValueOption := none

namespace Draft

/-- The value of an option so far. -/
def value (d : Draft) : ValueOption → Option String
  | .input => d.input
  | .output => d.output
  | .config => d.config

/-- Gives an option its value, which must be its first and not empty. -/
def assign (d : Draft) (o : ValueOption) (v : String) : Except UsageError Draft :=
  if (d.value o).isSome then .error (.repeated o.name)
  else if v = "" then .error (.missingValue o.name)
  else
    match o with
    | .input => .ok { d with input := some v, pending := none }
    | .output => .ok { d with output := some v, pending := none }
    | .config => .ok { d with config := some v, pending := none }

/-- No option waits for a value. -/
def settled (d : Draft) : Except UsageError Unit :=
  match d.pending with
  | none => .ok ()
  | some o => .error (.missingValue o.name)

/-- The request of arguments that have all been read. -/
def finish (d : Draft) : Except UsageError Request := do
  d.settled
  match d.input, d.output with
  | some input, some output => return .replay ⟨input, output, d.config, d.debug⟩
  | none, _ => throw (.missingOption ValueOption.input.name)
  | some _, none => throw (.missingOption ValueOption.output.name)

end Draft

/-- Where reading arguments leads: on with a draft, or at once to a request. -/
abbrev Step := Except UsageError (Draft ⊕ Request)

/-- Meets an option with a value, which may be attached. -/
def takeValued (d : Draft) (o : ValueOption) (attached : Option String) : Step := do
  d.settled
  match attached with
  | some v => return .inl (← d.assign o v)
  | none => return .inl { d with pending := some o }

/-- Meets an option without a value. -/
def takeFlag (d : Draft) (f : Flag) : Step := do
  d.settled
  match f with
  | .help => return .inr .help
  | .version => return .inr .version
  | .debug => if d.debug then throw (.repeated "debug") else return .inl { d with debug := true }

/-- The value behind the letter of a short option, if there is any. -/
def attachedValue? : List Char → Option String
  | [] => none
  | '=' :: v => some (String.ofList v)
  | v => some (String.ofList v)

/-- Meets a cluster of short options, from the letter that is due. -/
def takeCluster (argument : String) (d : Draft) : List Char → Step
  | [] => .ok (.inl d)
  | c :: rest =>
    match shortOption? c with
    | none => .error (.unexpectedArgument argument)
    | some (.valued o) => takeValued d o (attachedValue? rest)
    | some (.flag f) => do
      match ← takeFlag d f with
      | .inl d => takeCluster argument d rest
      | .inr request => return .inr request

/-- Meets a long option, from behind its dashes. -/
def takeLong (argument : String) (d : Draft) (cs : List Char) : Step :=
  let name := cs.takeWhile (· != '=')
  let attached := match cs.dropWhile (· != '=') with
    | _ :: v => some (String.ofList v)
    | [] => none
  match longOption? name, attached with
  | none, _ => .error (.unexpectedArgument argument)
  | some (.valued o), attached => takeValued d o attached
  | some (.flag f), none => takeFlag d f
  | some (.flag f), some _ => .error (.unexpectedValue (AnyOption.flag f).name)

/-- Meets an argument that is no option: the value that an option waits for. -/
def takePlain (argument : String) (d : Draft) : Step :=
  match d.pending with
  | some o => do return .inl (← d.assign o argument)
  | none => .error (.unexpectedArgument argument)

/-- Meets one argument. -/
def take (d : Draft) (argument : String) : Step :=
  match argument.toList with
  | '-' :: '-' :: name => takeLong argument d name
  | ['-'] => takePlain argument d
  | '-' :: cluster => takeCluster argument d cluster
  | _ => takePlain argument d

/-- Reads arguments into a draft. Nothing may follow two dashes on their own. -/
def readFrom (d : Draft) : List String → Except UsageError Request
  | [] => d.finish
  | "--" :: [] => d.finish
  | "--" :: argument :: _ => .error (.unexpectedArgument argument)
  | argument :: rest => do
    match ← take d argument with
    | .inl d => readFrom d rest
    | .inr request => return request

/-- Reads arguments. -/
def read (arguments : List String) : Except UsageError Request := readFrom {} arguments

end LogOrigin.CommandLine
