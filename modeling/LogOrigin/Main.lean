import LogOrigin.CommandLine
import LogOrigin.Instant.Epoch
import Std.Time.DateTime.Timestamp

/-!
# The program

Reads the files that the arguments name, runs the command line on them, and writes down what it
leaves behind.
-/

namespace LogOrigin.Program

/-- A refusal of the system by its number, or in its own words. -/
def refusal (code : UInt32) (details : String) : IoError :=
  match code.toNat with
  | 2 => .notFound
  | 20 => .notDirectory
  | 21 => .isDirectory
  | n => .other (details ++ " (os error " ++ toString n ++ ")")

/-- A failed action as a refusal. -/
def refusalOf : IO.Error → IoError
  | .noFileOrDirectory _ code details | .interrupted _ code details => refusal code details
  | .alreadyExists _ code details | .invalidArgument _ code details
  | .permissionDenied _ code details | .resourceExhausted _ code details
  | .inappropriateType _ code details | .noSuchThing _ code details => refusal code details
  | .otherError code details | .resourceBusy code details | .resourceVanished code details
  | .unsupportedOperation code details | .hardwareFault code details
  | .unsatisfiedConstraints code details | .illegalOperation code details
  | .protocolError code details | .timeExpired code details => refusal code details
  | .unexpectedEof => .other "unexpected end of file"
  | .userError text => .other text

/-- The result of an action, or the refusal it met. -/
def attempt {α : Type} (action : IO α) : IO (Except IoError α) := do
  try return .ok (← action) catch e => return .error (refusalOf e)

/-- Reads a whole file. -/
def readFile (path : String) : IO (Except IoError (List UInt8)) :=
  attempt do return (← (← IO.FS.Handle.mk path .read).readBinToEnd).data.toList

/-- Whether a look at a path finds something. -/
def isThere (path : String) : IO Bool := do
  return (← attempt (IO.FS.realPath path)).isOk

/-- Opens an input. What stops it from being read is part of it. -/
def openInput (path : String) : IO (Except IoError Source) := do
  match ← attempt (IO.FS.Handle.mk path .read) with
  | .error cause => return .error cause
  | .ok _ =>
    match ← readFile path with
    | .ok bytes => return .ok (Source.chunked BufferedFile.capacity bytes)
    | .error cause => return .ok ⟨[], some cause⟩

/-- Replays as asked for, and appends to the output what the run adds to it. -/
def replay (o : CommandLine.Options) (arguments : List String) : IO CommandLine.Outcome := do
  let now := Instant.ofNanoseconds (← Std.Time.Timestamp.now).toNanosecondsSinceUnixEpoch.val
  let defaultConfig :=
    CommandLine.defaultConfigPath (← IO.getEnv "XDG_CONFIG_HOME") (← IO.getEnv "HOME")
  let configPath := o.config.getD defaultConfig
  let found ← isThere configPath
  -- a default configuration that a look does not find is not read
  let config ← if found || o.config.isSome then readFile configPath else pure (.error .notFound)
  let input ← openInput o.input
  let files : CommandLine.Files :=
    { defaultConfig
      config := fun _ => config
      found := fun _ => found || config.isOk
      found_of_read := fun _ h => by rw [h, Bool.or_true]
      input := fun _ => input
      output := fun _ => {} }
  let wanted := (CommandLine.loadConfig files o).isOk && input.isOk
  let handle? ← if wanted then some <$> attempt (IO.FS.Handle.mk o.output .append) else pure none
  let output : OutputFile := match handle? with
    | some (.error cause) => { refusal := some cause }
    | _ => {}
  let outcome := CommandLine.run (fun _ => now) { files with output := fun _ => output } arguments
  match handle?, outcome.output with
  | some (.ok handle), some added => handle.write ⟨added.file.bytes⟩
  | _, _ => pure ()
  return outcome

/-- Runs the program: its exit status, after printing what it has to say. -/
def run (arguments : List String) : IO UInt32 := do
  let idle : CommandLine.Files :=
    { defaultConfig := ""
      config := fun _ => .error .notFound
      input := fun _ => .error .notFound
      output := fun _ => {} }
  let outcome ← match CommandLine.read arguments with
    | .ok (.replay o) => replay o arguments
    | _ => pure (CommandLine.run (fun _ => Instant.ofNanoseconds 0) idle arguments)
  let err ← IO.getStderr
  for line in outcome.complaints do
    err.putStrLn line
  IO.print outcome.printed
  return UInt32.ofNat outcome.status

end LogOrigin.Program

/-- The program. -/
def main (arguments : List String) : IO UInt32 := LogOrigin.Program.run arguments
