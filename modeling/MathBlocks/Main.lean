import MathBlocks.CommandLine.Run

/-!
# The program

Reads the files that the arguments name, carries out the plan of the command, and prints what the
outcome says.
-/

open MathBlocks CommandLine

/-- The number of an error of the system, which is handed on with either sign. -/
def errorNumber (code : UInt32) : Nat :=
  code.toInt32.toInt.natAbs

/-- The fault that an error of the system stands for. -/
def faultOfError : IO.Error → FileFault
  | .noFileOrDirectory .. => .notFound
  | .permissionDenied .. => .other "Permission denied (os error 13)"
  | .inappropriateType _ code _ => if errorNumber code = 21 then .isDirectory else .notDirectory
  | error@(.invalidArgument _ code _) =>
      if errorNumber code = 36 then .nameTooLong else .other (toString error)
  | error => .other (toString error)

/-- Reads a file as text. -/
def readText (path : String) : IO (Except FileFault String) := do
  try
    let bytes ← IO.FS.readBinFile path
    match String.fromUTF8? bytes with
    | some text => return .ok text
    | none => return .error .notText
  catch error =>
    return .error (faultOfError error)

/-- Writes a text to a file. -/
def writeText
    (path text : String) : IO (Except FileFault Unit) := do
  try
    IO.FS.writeFile path text
    return .ok ()
  catch error =>
    return .error (faultOfError error)

/-- The files that the arguments name, as they are read. -/
def namedFiles (arguments : List String) : IO (List (String × Except FileFault String)) := do
  let paths :=
    match Request.ofArguments arguments with
    | .ok (.compile input _ _ config _) => input :: config.toList
    | .ok (.validate input config _) => input :: config.toList
    | _ => []
  paths.mapM fun path => do return (path, ← readText path)

/-- Carries out a plan. -/
def perform : Plan → IO Outcome
  | .finish outcome => return outcome
  | .write path text next => do
      let result ← writeText path text
      return next result

/-- Runs the program with its arguments. -/
def main (arguments : List String) : IO UInt32 := do
  let files ← namedFiles arguments
  let outcome ← perform (plan (fun path => (files.lookup path).getD (.error .notFound)) arguments)
  IO.eprint outcome.stderr
  IO.print outcome.stdout
  return outcome.exit.toUInt32
