import ScopePaint.CommandLine.Schema

/-!
The program.

It highlights a file or, if it is called by the name `generate_schema`, prints a schema.
-/

set_option autoImplicit false

namespace ScopePaint.CommandLine

/-- What the outer world says about a file that cannot be read. -/
def faultOf : IO.Error → FileFault
  | .inappropriateType .. => .isADirectory
  | .noFileOrDirectory .. | .resourceVanished .. => .notFound
  | _ => .notADirectory

/-- Ask the outer world, and turn its errors into faults. -/
def ask {α : Type} (action : IO α) : IO (Except FileFault α) := do
  try
    return .ok (← action)
  catch e =>
    return .error (faultOf e)

/-- Read a file. -/
def readBytes (path : String) : IO (List UInt8) := do
  return (← IO.FS.readBinFile path).toList

/-- The names in a directory. -/
def readNames (path : String) : IO (List String) := do
  let entries ← (← IO.FS.realPath path).readDir
  return entries.toList.map (·.fileName)

/-- Whether an answer is not a fault. -/
def succeeds {α : Type} (action : IO α) : IO Bool := do
  match ← ask action with
  | .ok _ => return true
  | .error _ => return false

/-- The files of the outer world. -/
def worldFiles : FileSource IO where
  read path := ask (readBytes path)
  names path := ask (readNames path)
  isFile path := succeeds (readBytes path)
  isPresent path := succeeds (IO.FS.realPath path)

/-- The directory for all configurations. -/
def configurationDirectory : IO (Option String) := do
  match ← IO.getEnv "XDG_CONFIG_HOME" with
  | some directory => if Path.isAbsolute directory then return some directory
  | none => pure ()
  return (← IO.getEnv "HOME").map fun home => Path.join home ".config"

/-- Say how a run ended, and give its exit code. -/
def conclude (outcome : Outcome) : IO UInt32 := do
  let stderr ← IO.getStderr
  for warning in outcome.warnings do
    stderr.putStrLn ("WARN " ++ warning.message)
  (← IO.getStdout).putStr outcome.output
  match outcome.error with
  | some message => stderr.putStrLn ("Error: " ++ message)
  | none => pure ()
  return .ofNat outcome.exitCode

end ScopePaint.CommandLine

/-- Run the program. -/
def main (arguments : List String) : IO UInt32 := do
  let path := (← IO.appPath).toString
  if ScopePaint.Path.fileName? path = some "generate_schema" then
    ScopePaint.CommandLine.conclude (ScopePaint.CommandLine.printSchema arguments)
  else
    let directory ← ScopePaint.CommandLine.configurationDirectory
    let outcome ← ScopePaint.CommandLine.run ScopePaint.CommandLine.worldFiles directory arguments
    ScopePaint.CommandLine.conclude outcome
