import MathBlocks.Lua.Program

/-!
# Command line arguments

Reads the arguments of the program. A command is followed by its input and its options in any
order. The value of an option may be an argument of its own or be joined to the option, letters
may be put together behind one dash, and everything after two dashes alone is input.
-/

namespace MathBlocks
namespace CommandLine

/-- The options of the commands. -/
inductive OptionName where
  | output
  | format
  | config
  | verbose
  deriving DecidableEq, Repr

/-- The two commands. -/
inductive CommandName where
  | compile
  | validate
  deriving DecidableEq, Repr

/-- The option of a long name. -/
def OptionName.ofLong? (name : List Char) : Option OptionName :=
  if name = ['o', 'u', 't', 'p', 'u', 't'] then some .output
  else if name = ['f', 'o', 'r', 'm', 'a', 't'] then some .format
  else if name = ['c', 'o', 'n', 'f', 'i', 'g'] then some .config
  else if name = ['v', 'e', 'r', 'b', 'o', 's', 'e'] then some .verbose
  else none

/-- The option of a letter. -/
def OptionName.ofLetter? (letter : Char) : Option OptionName :=
  if letter = 'o' then some .output
  else if letter = 'c' then some .config
  else if letter = 'v' then some .verbose
  else none

/-- Whether a command has an option. -/
def CommandName.takes : CommandName → OptionName → Bool
  | .compile, _ => true
  | .validate, .config => true
  | .validate, .verbose => true
  | .validate, _ => false

/-- What has been read of the arguments of a command. -/
structure Options where
  input : Option String
  output : Option String
  format : Option ProgramFormat
  config : Option String
  verbose : Bool
  deriving DecidableEq, Repr

/-- Nothing read yet. -/
def Options.none : Options :=
  ⟨.none, .none, .none, .none, false⟩

/-- Why reading the arguments stopped. -/
inductive Stop where
  /-- They ask for help. -/
  | help
  /-- They make no sense. -/
  | usage
  deriving DecidableEq, Repr

/-- Fills in what may be given once; nothing empty is taken. -/
def fill
    (held : Option String)
    (text : String) : Except Stop (Option String) :=
  if held.isNone && !text.isEmpty then .ok (some text) else .error .usage

/-- The output format of that name. -/
def formatOfName? (name : String) : Option ProgramFormat :=
  if name = "text" then some .text
  else if name = "json" then some .json
  else none

namespace Options

/-- Takes in the value of an option. -/
def setValue
    (options : Options)
    (value : String) :
    OptionName → Except Stop Options
  | .output => do
      let output ← fill options.output value
      return { options with output := output }
  | .config => do
      let config ← fill options.config value
      return { options with config := config }
  | .format =>
      match options.format, formatOfName? value with
      | .none, some format => .ok { options with format := some format }
      | _, _ => .error .usage
  | .verbose => .error .usage

/-- Takes in the input. -/
def setInput
    (options : Options)
    (text : String) : Except Stop Options := do
  let input ← fill options.input text
  return { options with input := input }

/-- Takes in the option that has no value. -/
def setVerbose (options : Options) : Except Stop Options :=
  if options.verbose then .error .usage else .ok { options with verbose := true }

end Options

/-- What has been read, and the option whose value is to come. -/
abbrev Progress := Except Stop (Options × Option OptionName)

/-- Takes in an option that is not joined to a value. -/
def takeOption
    (options : Options) :
    OptionName → Progress
  | .verbose => do return (← options.setVerbose, .none)
  | option => .ok (options, some option)

/-- Takes in the letters behind one dash; what follows the letter of an option is its value. -/
def takeLetters
    (command : CommandName)
    (options : Options) :
    List Char → Progress
  | [] => .ok (options, .none)
  | letter :: rest =>
      if letter = 'h' then .error .help
      else
        match OptionName.ofLetter? letter with
        | .none => .error .usage
        | some option =>
            if !command.takes option then .error .usage
            else if option = .verbose then do
              takeLetters command (← options.setVerbose) rest
            else
              match rest with
              | [] => .ok (options, some option)
              | '=' :: value => do return (← options.setValue (String.ofList value) option, .none)
              | value => do return (← options.setValue (String.ofList value) option, .none)

/-- Takes in what stands behind two dashes: the name of an option, perhaps joined to a value. -/
def takeLong
    (command : CommandName)
    (options : Options)
    (text : List Char) : Progress :=
  let name := text.takeWhile (· ≠ '=')
  if text = ['h', 'e', 'l', 'p'] then .error .help
  else
    match OptionName.ofLong? name with
    | .none => .error .usage
    | some option =>
        if !command.takes option then .error .usage
        else
          match text.dropWhile (· ≠ '=') with
          | [] => takeOption options option
          | _ :: value => do return (← options.setValue (String.ofList value) option, .none)

/-- Whether an argument is an option rather than a value. -/
def isOption : List Char → Bool
  | ['-'] => false
  | '-' :: _ => true
  | _ => false

/-- Takes in one argument. -/
def takeArgument
    (command : CommandName)
    (options : Options)
    (argument : String) :
    Option OptionName → Progress
  | some option =>
      if isOption argument.toList then .error .usage
      else do return (← options.setValue argument option, .none)
  | .none =>
      match argument.toList with
      | '-' :: '-' :: text => takeLong command options text
      | '-' :: letter :: rest => takeLetters command options (letter :: rest)
      | _ => do return (← options.setInput argument, .none)

/-- Takes in all arguments after a command. -/
def takeArguments
    (command : CommandName)
    (options : Options)
    (awaited : Option OptionName) :
    List String → Except Stop Options
  | [] => if awaited.isNone then .ok options else .error .usage
  | argument :: rest =>
      if argument = "--" then
        if awaited.isNone then rest.foldlM Options.setInput options else .error .usage
      else
        match takeArgument command options argument awaited with
        | .ok (options, awaited) => takeArguments command options awaited rest
        | .error stop => .error stop

/-- What the arguments ask for. -/
inductive Request where
  | version
  | help
  | compile (input : String) (output : Option String) (format : ProgramFormat)
      (config : Option String) (verbose : Bool)
  | validate (input : String) (config : Option String) (verbose : Bool)
  deriving DecidableEq, Repr

/-- The request of a command with the options that were read. -/
def CommandName.request
    (command : CommandName)
    (options : Options) : Except Stop Request :=
  match options.input, command with
  | .none, _ => .error .usage
  | some input, .compile =>
      .ok (.compile input options.output (options.format.getD .text) options.config options.verbose)
  | some input, .validate => .ok (.validate input options.config options.verbose)

/-- The request of a command with its arguments. -/
def commandRequest
    (command : CommandName)
    (arguments : List String) : Except Stop Request := do
  let options ← takeArguments command .none .none arguments
  command.request options

/-- What the arguments ask for, or why they ask for nothing. -/
def Request.ofArguments : List String → Except Stop Request
  | [] => .error .usage
  | "compile" :: rest => commandRequest .compile rest
  | "validate" :: rest => commandRequest .validate rest
  | "--version" :: _ => .ok .version
  | "--help" :: _ => .ok .help
  | ["help"] => .ok .help
  | ["help", command] =>
      if command = "compile" || command = "validate" || command = "help" then .ok .help
      else .error .usage
  | first :: _ =>
      match first.toList with
      | '-' :: 'V' :: _ => .ok .version
      | '-' :: 'h' :: _ => .ok .help
      | _ => .error .usage

end CommandLine
end MathBlocks
