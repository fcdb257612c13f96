import LogOrigin.CommandLine.Arguments
import LogOrigin.Replay

/-!
# The command line

A run reads its configuration, replays the input into the output, and reports. A configuration that
was asked for must be usable; the one at the default place may be missing or broken. Malformed lines
and values out of range are reported and do not fail the run.
-/

namespace LogOrigin.CommandLine

/-- The files that a run may use, by their paths. -/
structure Files where
  /-- Where the configuration is unless another is asked for. -/
  defaultConfig : String
  /-- Reads a configuration. -/
  config : String → Except IoError (List UInt8)
  /-- Whether a look at the path of a configuration finds something. It may fail for other reasons
  than that there is nothing, as where a directory on the way is closed. -/
  found : String → Bool := fun path => Config.seemsThere (config path)
  /-- What can be read is found. -/
  found_of_read : ∀ path, (config path).isOk = true → found path = true := by
    exact fun path => Config.seemsThere_of_isOk
  /-- Opens an input. -/
  input : String → Except IoError Source
  /-- The file that an output is appended to. -/
  output : String → OutputFile

/-- Where the configuration is by default, given the directory of configurations and the home
directory, as far as they are known. A relative directory of configurations does not count. -/
def defaultConfigPath (configHome home : Option String) : String :=
  let directory := match configHome.filter (·.toList.head? = some '/'), home.filter (· ≠ "") with
    | some directory, _ => directory ++ "/" ++ Limits.configDirectory
    | none, some home => home ++ "/.config/" ++ Limits.configDirectory
    | none, none => "."
  directory ++ "/" ++ Limits.configFileName

/-- What a run leaves behind. -/
structure Outcome where
  status : Nat
  /-- What is printed on the standard output. -/
  printed : String := ""
  /-- The lines printed on the standard error output. -/
  complaints : List String := []
  /-- The path of the output, and the output afterwards, if the run got that far. -/
  output : Option (Replay.Named OutputFile) := none

/-- The status of a run that succeeds. -/
def success : Nat := 0

/-- The status of a run that fails. -/
def failure : Nat := 1

/-- The status of a run with arguments that cannot be followed. -/
def misuse : Nat := 2

/-- The configuration of a run, with its warnings. -/
def loadConfig (files : Files) (o : Options) : Except ConfigError (Config × List ConfigWarning) :=
  match o.config with
  | some path => Config.loadStrict path (files.config path)
  | none =>
    let path := files.defaultConfig
    .ok (Config.loadLenient path (files.config path) (files.found path))

/-- The last line of a report. -/
def reportLine (r : Replay.Report) (outputPath : String) : String :=
  toString r.summary.lines ++ " lines, " ++ toString r.summary.dispatched ++ " dispatched, " ++
    toString r.summary.malformed ++ " malformed, " ++ toString r.written ++ " written to " ++
    outputPath ++ "\n"

/-- What is said about malformed lines. -/
def skippedLines (s : Replay.Summary) : List String :=
  s.errors.map (fun l => "Skipped: " ++ l.message) ++
    if s.unreported = 0 then []
    else ["... and " ++ toString s.unreported ++ " more malformed lines"]

/-- What is said about an error. -/
def errorLine (e : Error) : String := "Error: " ++ e.message

/-- A replay as asked for. -/
def runReplay (clock : Nat → Instant) (files : Files) (o : Options) : Outcome :=
  match loadConfig files o with
  | .error e => { status := failure, complaints := [errorLine (.config e)] }
  | .ok (config, warnings) =>
    let warned := warnings.map fun w => "Warning: " ++ w.message
    let (result, file) :=
      Replay.runFile clock config ⟨o.input, files.input o.input⟩ ⟨o.output, files.output o.output⟩
    let output := some ⟨o.output, file⟩
    match result with
    | .error e =>
      { status := failure, complaints := warned ++ [errorLine (.replay e)], output }
    | .ok report =>
      { status := success
        printed := reportLine report o.output
        complaints := warned ++ skippedLines report.summary
        output }

/-- The line that names the program and its version. -/
def versionLine : String := Limits.programName ++ " " ++ Limits.version ++ "\n"

/-- How the program is used. -/
def helpText : String :=
  "Usage: " ++ Limits.programName ++ " [OPTIONS] --input <INPUT> --output <OUTPUT>\n\n" ++
  "Options:\n" ++
  "  -i, --input <INPUT>    Captured native events, one JSON object per line\n" ++
  "  -o, --output <OUTPUT>  Destination for normalised events (appended, JSON lines)\n" ++
  "  -c, --config <CONFIG>  Config file (defaults to the platform config directory)\n" ++
  "  -d, --debug            Enable debug logging\n" ++
  "  -h, --help             Print help\n" ++
  "  -V, --version          Print version\n"

/-- A run with the given arguments. -/
def run (clock : Nat → Instant) (files : Files) (arguments : List String) : Outcome :=
  match read arguments with
  | .error e => { status := misuse, complaints := ["error: " ++ e.message] }
  | .ok .help => { status := success, printed := helpText }
  | .ok .version => { status := success, printed := versionLine }
  | .ok (.replay o) => runReplay clock files o

end LogOrigin.CommandLine
