import MathBlocks.CommandLine.Arguments
import MathBlocks.CommandLine.Folder
import MathBlocks.Compiler
import MathBlocks.Document.Decode

/-!
# Running a command

What the program does for its arguments. A command reads its files, and what it does then is a
`Plan`: an outcome, or one file to write and an outcome that depends on whether that went well.
Nothing is written unless all that is to be written is there.
-/

namespace MathBlocks
namespace CommandLine

/-- What a run leaves behind, files aside. -/
structure Outcome where
  exit : Nat
  stdout : String
  stderr : String
  deriving DecidableEq, Repr

/-- What is left to do once the files have been read. -/
inductive Plan where
  | finish (outcome : Outcome)
  | write (path text : String) (next : Except FileFault Unit → Outcome)

/-- A text whose every line is indented by four spaces. -/
def indented (text : String) : String :=
  "\n".intercalate ((Text.splitLines text).map ("    " ++ ·))

/-- What went wrong, in what, and why if there is more to say. -/
structure Failure where
  context : String
  cause : Option String
  deriving DecidableEq, Repr

/-- The report of a failure. -/
def Failure.report (failure : Failure) : String :=
  "Error: " ++ failure.context
    ++ (match failure.cause with
        | some cause => "\n\nCaused by:\n" ++ indented cause
        | none => "")
    ++ "\n"

/-- An outcome of failure after what was printed before. -/
def Failure.outcome
    (failure : Failure)
    (stdout stderr : String) : Outcome :=
  ⟨1, stdout, stderr ++ failure.report⟩

/-- How the files of a command are read. -/
abbrev Files := String → Except FileFault String

/-- The program in a file. -/
def readProgram
    (files : Files)
    (path : String) : Except Failure Program :=
  match files path with
  | .error fault => .error ⟨"reading " ++ path, some fault.message⟩
  | .ok text =>
      match Program.ofString? text with
      | some program => .ok program
      | none => .error ⟨"parsing block program " ++ path, none⟩

/-- The settings in a file, or the standard ones if no file is given. -/
def readSettings
    (files : Files) :
    Option String → Except Failure Settings
  | none => .ok .standard
  | some path =>
      match files path with
      | .error fault => .error ⟨"reading config " ++ path, some fault.message⟩
      | .ok text =>
          match Settings.ofString? text with
          | some settings => .ok settings
          | none => .error ⟨"parsing config " ++ path, none⟩

/-- The program and the settings of a command, in the order in which they are read. -/
def load
    (files : Files)
    (input : String)
    (config : Option String) : Except Failure (Program × Settings) := do
  let program ← readProgram files input
  let settings ← readSettings files config
  return (program, settings)

/-- A line of fifty equals signs. -/
def rule : String :=
  Text.repeated 50 "="

/-- The name of an output format in the report of a run. -/
def formatName : ProgramFormat → String
  | .text => "Text"
  | .json => "Json"

/-- What a compilation says about itself first, if it is to say anything. -/
def compileHeader
    (input : String)
    (output : Option String)
    (format : ProgramFormat)
    (verbose : Bool) : String :=
  if verbose then
    Text.endLines <|
      [" blockgen Compiler", rule, " Input: " ++ input]
        ++ (match output with
            | some path => [" Output: " ++ path]
            | none => [])
        ++ [" Format: " ++ formatName format, ""]
  else
    ""

/-- What a compilation says about itself last, if it is to say anything. -/
def compileSummary
    (helpers : Nat)
    (output : String)
    (verbose : Bool) : String :=
  if verbose then
    Text.endLines
      ["", " SUCCESS: Compilation successful!", "   Helpers: " ++ Nat.repr helpers,
       "   Output: " ++ output]
  else
    ""

/-- The plan of a compilation. -/
def compilePlan
    (files : Files)
    (input : String)
    (output : Option String)
    (format : ProgramFormat)
    (config : Option String)
    (verbose : Bool) : Plan :=
  let header := compileHeader input output format verbose
  match load files input config with
  | .error failure => .finish (failure.outcome "" header)
  | .ok (program, settings) =>
      let stderr :=
        header ++ (if program.blocks.isEmpty then "  No blocks found in input\n" else "")
      match ((Compiler.new settings).compile program).1 with
      | .error fault =>
          let failure : Failure := ⟨"generating Lua for " ++ input, some fault.message⟩
          .finish (failure.outcome "" stderr)
      | .ok compiled =>
          let text := compiled.written format .none
          match output with
          | none => .finish ⟨0, text, stderr⟩
          | some path =>
              .write path text fun
                | .ok () => ⟨0, "", stderr ++ compileSummary compiled.helpers.length path verbose⟩
                | .error fault =>
                    let failure : Failure := ⟨"writing " ++ path, some fault.message⟩
                    failure.outcome "" stderr

/-- What a check says about itself first, if it is to say anything. -/
def validateHeader
    (input : String)
    (verbose : Bool) : String :=
  if verbose then
    Text.endLines [" Validating block program", rule, " Input: " ++ input, ""]
  else
    ""

/-- What a check says about a program that is in order, if it is to say more than that. -/
def validateSummary
    (program : Program)
    (compiled : LuaProgram)
    (verbose : Bool) : String :=
  if verbose then
    Text.endLines <|
      ["   Top-level blocks: " ++ Nat.repr program.blocks.length,
       "   Helpers: " ++ Nat.repr compiled.helpers.length]
        ++ compiled.helpers.map fun helper =>
            "     " ++ helper.logicalName ++ " -> " ++ helper.identifier
  else
    ""

/-- The outcome of a check. -/
def validateOutcome
    (files : Files)
    (input : String)
    (config : Option String)
    (verbose : Bool) : Outcome :=
  let header := validateHeader input verbose
  match load files input config with
  | .error failure => failure.outcome header ""
  | .ok (program, settings) =>
      match ((Compiler.new settings).compile program).1 with
      | .ok compiled => ⟨0, header ++ " VALID\n" ++ validateSummary program compiled verbose, ""⟩
      | .error fault =>
          let failure : Failure := ⟨"Validation failed", none⟩
          failure.outcome (header ++ " INVALID\n\nGeneration Error:\n" ++ fault.message ++ "\n") ""

/-- The arguments that the program takes. -/
def usage : String :=
  Text.endLines
    ["Usage:",
     "  blockgen compile <input> [-o <path>] [--format text|json] [-c <path>] [-v]",
     "  blockgen validate <input> [-c <path>] [-v]",
     "  blockgen --version"]

/-- The plan of a request. -/
def Request.plan
    (files : Files) :
    Request → Plan
  | .version => .finish ⟨0, "blockgen 0.1.0\n", ""⟩
  | .help => .finish ⟨0, usage, ""⟩
  | .compile input output format config verbose =>
      compilePlan files input output format config verbose
  | .validate input config verbose => .finish (validateOutcome files input config verbose)

/-- The plan for the arguments of the program. -/
def plan
    (files : Files)
    (arguments : List String) : Plan :=
  match Request.ofArguments arguments with
  | .ok request => request.plan files
  | .error .help => .finish ⟨0, usage, ""⟩
  | .error .usage => .finish ⟨2, "", usage⟩

/-- Carries out a plan in a folder. -/
def Plan.run
    (folder : Folder) :
    Plan → Outcome × Folder
  | .finish outcome => (outcome, folder)
  | .write path text next =>
      match folder.write path text with
      | .ok written => (next (.ok ()), written)
      | .error fault => (next (.error fault), folder)

/-- Runs the program with its arguments in a folder. -/
def run
    (arguments : List String)
    (folder : Folder) : Outcome × Folder :=
  (plan folder.read arguments).run folder

end CommandLine
end MathBlocks
