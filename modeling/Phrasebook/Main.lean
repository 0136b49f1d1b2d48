import Phrasebook.CommandLine.Run
import Phrasebook.Expression.Place

/-!
# The program

Looks at the files that a command line is about, carries the command line out and shows the
report.  The entries of directories cannot be listed from here, so documents are given by their
own paths.

* `seeded`: a random source from a seed;
* `main`: the program.
-/

namespace Phrasebook

/-! ## Showing -/

/-- How a log record is shown. -/
def LogRecord.shown (r : LogRecord) : Text :=
  r.logger ++ " - " ++ r.severity.name ++ " - " ++ r.message

/-- The number of a severity among the levels. -/
def Severity.number : Severity → Int
  | debug => 10
  | info => 20

/-- Is a record shown at a level? -/
def LogRecord.isShown (level : Level) (r : LogRecord) : Bool :=
  match level with
  | .number n => n ≤ r.severity.number
  | .flag _ => true

/-! ## Randomness -/

/-- Spreads the bits of a word over the whole word. -/
def scramble (z : UInt64) : UInt64 :=
  let z := (z ^^^ (z >>> 30)) * 0xbf58476d1ce4e5b9
  let z := (z ^^^ (z >>> 27)) * 0x94d049bb133111eb
  z ^^^ (z >>> 31)

/-- The random source that starts from a seed. -/
def seeded (seed : Int) : RandomSource := fun turn count =>
  let start := UInt64.ofInt seed
  (scramble (start + (UInt64.ofNat turn + 1) * 0x9e3779b97f4a7c15)).toNat % count

/-! ## Files -/

/-- What a path leads to. A directory cannot be read, and neither can a path through a file; the
system tells the latter by an error with the number 20, in some calls with the sign turned. -/
def lookAt (path : Path) : IO (Except Obstacle Entry) := do
  try
    let bytes ← IO.FS.readBinFile path.text.toStr
    return .ok (.file (bytes.toList.map UInt8.toNat))
  catch
    | .inappropriateType _ number _ =>
      return .error (if number = 20 ∨ number = -20 then .notDirectory else .isDirectory)
    | _ => return .error .missing

/-- The paths that a command line is about, among them the usual settings files. -/
def pathsOf (args : List Text) : List Path :=
  let usual := Settings.fileNames.map Path.ofText
  match Invocation.read args with
  | .error _ => []
  | .ok i =>
    let config := i.config.toList
    match i.command with
    | .list path => usual ++ (config ++ [path]).map Path.ofText
    | .render path _ _ scopeFile _ => usual ++ (config ++ scopeFile.toList ++ [path]).map Path.ofText

/-- The files as they are found now. -/
def snapshot (paths : List Path) : IO Files := do
  let found ← paths.mapM fun path => do return (path, ← lookAt path)
  return fun path =>
    match found.find? (·.1 = path) with
    | some (_, entry) => entry
    | none => .error .missing

/-- The variables that settings are taken from. -/
def readEnvironment : IO Settings.Environment := do
  let names := ["LGEN_ENCODING", "LGEN_SEED", "LGEN_LOG_LEVEL"]
  let found ← names.mapM fun name => do
    return (← IO.getEnv name).map fun value => (name.toList, value.toList)
  return found.filterMap id

/-! ## The program -/

/-- Shows what a run leaves behind. -/
def CommandLine.Report.show (console : Console) (r : CommandLine.Report) : IO Unit := do
  for record in r.log do
    if record.isShown r.level then IO.eprintln record.shown.toStr
  IO.print (r.output console).toStr
  IO.eprint (r.errors console).toStr

/-- The exit code of a run; a run that is stopped or fails tells why. -/
def CommandLine.Ending.finish : CommandLine.Ending → IO UInt32
  | .exit code => return UInt32.ofNat code
  | .failed f => do
    IO.eprintln f.message.toStr
    return 1
  | .stopped s => do
    let usage := "usage: lgen [-h] [--version] [--config FILE] [--log-level LEVEL] render|list ..."
    match s with
    | .version => IO.print CommandLine.versionLine.toStr
    | .help => IO.println usage
    | .usage => IO.eprintln usage
    return UInt32.ofNat (CommandLine.stopCode s)

end Phrasebook

open Phrasebook in
/-- Runs the program on its command line. -/
def main (args : List String) : IO UInt32 := do
  let args := args.map String.toList
  let files ← snapshot (pathsOf args)
  let unseeded ← IO.rand 0 (Nat.pow 2 32)
  let host : CommandLine.Host :=
    ⟨files, ← readEnvironment, [], .byPlace fun _ _ => .error .wrongType,
      fun seed => seeded (seed.getD unseeded), .plain⟩
  let (ending, report) := CommandLine.run host args
  report.show host.console
  ending.finish
