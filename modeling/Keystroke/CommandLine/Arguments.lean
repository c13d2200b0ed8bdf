import Keystroke.CommandLine.Request
import Keystroke.Device.Registry

namespace Keystroke.CommandLine

/-!
# Arguments of the command line

The arguments are a subcommand, its options and the file it works on.  Options
may stand before or after the file, values may be attached to their option or
follow it, and an argument of two hyphens ends the options.  An option may be
given once.  Arguments are read from the first on, and the first that is wrong
or asks for help decides.
-/

/-- How the program is called. -/
def usage :
    String :=
  "usage: keyscript [-v] parse FILE | encode FILE [-o PATH] [-d ID] " ++
    "[--production] | validate FILE [-d ID] | devices\n"

/-- The name and the version of the program. -/
def version :
    String :=
  "keyscript_core 0.1.0\n"

/-- The value, if there is one; otherwise the arguments are rejected. -/
def orReject
    {Value : Type} :
    Option Value → Except Dismissal Value
  | some value => .ok value
  | none => .error .rejected

/-- What the command line can be asked to do. -/
inductive Subcommand where
  | parse
  | encode
  | validate
  | devices
  deriving Repr, DecidableEq

/-- The options without a value. -/
inductive Switch where
  | verbose
  | production
  deriving Repr, DecidableEq

/-- The options with a value. -/
inductive Setting where
  | output
  | device
  deriving Repr, DecidableEq

/-- An option of either sort, or the one that asks for help. -/
inductive Flag where
  | switch (switch : Switch)
  | setting (setting : Setting)
  | help
  deriving Repr, DecidableEq

namespace Subcommand

/-- The subcommand with a name; case matters. -/
def ofName? :
    String → Option Subcommand
  | "parse" => some .parse
  | "encode" => some .encode
  | "validate" => some .validate
  | "devices" => some .devices
  | _ => none

/-- Whether the subcommand works on a file. -/
def takesFile :
    Subcommand → Bool
  | .devices => false
  | _ => true

/-- The options that a subcommand has. -/
def accepts :
    Subcommand → Flag → Bool
  | _, .help => true
  | _, .switch .verbose => true
  | .encode, .switch .production => true
  | .encode, .setting .output => true
  | .encode, .setting .device => true
  | .validate, .setting .device => true
  | _, _ => false

end Subcommand

namespace Flag

/-- The option with a long name. -/
def ofLong? :
    String → Option Flag
  | "verbose" => some (.switch .verbose)
  | "production" => some (.switch .production)
  | "output" => some (.setting .output)
  | "device" => some (.setting .device)
  | "help" => some .help
  | _ => none

/-- The option with a letter. -/
def ofShort? :
    Char → Option Flag
  | 'v' => some (.switch .verbose)
  | 'o' => some (.setting .output)
  | 'd' => some (.setting .device)
  | 'h' => some .help
  | _ => none

end Flag

/-- What the arguments have given so far. -/
structure Given where
  verbose : Bool := false
  production : Bool := false
  output? : Option String := none
  device? : Option String := none
  file? : Option String := none
  deriving Repr, DecidableEq

namespace Given

/-- Turn on a switch that is not on yet. -/
def turnOn
    (given : Given) :
    Switch → Option Given
  | .verbose =>
      if given.verbose then none else some { given with verbose := true }
  | .production =>
      if given.production then none
      else some { given with production := true }

/-- Give a setting its first value; a path may not be empty. -/
def assign
    (given : Given)
    (value : String) :
    Setting → Option Given
  | .output =>
      if given.output?.isSome || value.isEmpty then none
      else some { given with output? := some value }
  | .device =>
      if given.device?.isSome then none
      else some { given with device? := some value }

/-- Take an argument as the file, if one is still wanted. -/
def takeFile
    (given : Given)
    (subcommand : Subcommand)
    (argument : String) :
    Option Given :=
  if subcommand.takesFile && given.file?.isNone && !argument.isEmpty then
    some { given with file? := some argument }
  else
    none

end Given

/-- What is given after an argument, and the setting whose value comes next. -/
abbrev Progress :=
  Given × Option Setting

/-- The part before the first equals sign, and the part after it. -/
def splitValue
    (option : List Char) :
    String × Option String :=
  let name := option.takeWhile (· != '=')
  (String.ofList name,
    match option.drop name.length with
    | [] => none
    | _ :: value => some (String.ofList value))

/-- Read an option with a long name. -/
def readLong
    (subcommand : Subcommand)
    (given : Given)
    (option : List Char) :
    Except Dismissal Progress :=
  let (name, value?) := splitValue option
  match (Flag.ofLong? name).filter subcommand.accepts, value? with
  | some .help, none =>
      .error (.answered usage)
  | some (.switch switch), none =>
      orReject ((given.turnOn switch).map fun next => (next, none))
  | some (.setting setting), none =>
      .ok (given, some setting)
  | some (.setting setting), some value =>
      orReject ((given.assign value setting).map fun next => (next, none))
  | _, _ =>
      .error .rejected

/-- The value attached to a letter, after an optional equals sign. -/
def attachedValue :
    List Char → String
  | '=' :: value => String.ofList value
  | value => String.ofList value

/-- Read the letters of a cluster of short options. -/
def readShort
    (subcommand : Subcommand) :
    Given → List Char → Except Dismissal Progress
  | given, [] =>
      .ok (given, none)
  | given, letter :: rest =>
      match (Flag.ofShort? letter).filter subcommand.accepts with
      | none =>
          .error .rejected
      | some .help =>
          .error (.answered usage)
      | some (.switch switch) =>
          match given.turnOn switch with
          | none =>
              .error .rejected
          | some next =>
              readShort subcommand next rest
      | some (.setting setting) =>
          if rest.isEmpty then
            .ok (given, some setting)
          else
            orReject ((given.assign (attachedValue rest) setting).map
              fun next => (next, none))

/-- Read an argument that is not the value of the option before it. -/
def readArgument
    (subcommand : Subcommand)
    (given : Given)
    (argument : String) :
    Except Dismissal Progress :=
  match argument.toList with
  | '-' :: '-' :: option =>
      readLong subcommand given option
  | '-' :: letter :: rest =>
      readShort subcommand given (letter :: rest)
  | _ =>
      orReject ((given.takeFile subcommand argument).map
        fun next => (next, none))

/-- Whether an argument can be the value of the option before it. -/
def isValue
    (argument : String) :
    Bool :=
  match argument.toList with
  | '-' :: _ :: _ => false
  | _ => true

/-- Read arguments of which none is an option any more. -/
def readFiles
    (subcommand : Subcommand)
    (given : Given)
    (arguments : List String) :
    Option Given :=
  arguments.foldlM (fun given => given.takeFile subcommand) given

/-- Read the arguments of a subcommand. -/
def readArguments
    (subcommand : Subcommand) :
    Given → List String → Except Dismissal Given
  | given, [] =>
      .ok given
  | given, argument :: rest =>
      if argument = "--" then
        orReject (readFiles subcommand given rest)
      else
        match readArgument subcommand given argument with
        | .error dismissal =>
            .error dismissal
        | .ok (next, none) =>
            readArguments subcommand next rest
        | .ok (next, some setting) =>
            match rest with
            | [] =>
                .error .rejected
            | value :: others =>
                if isValue value then
                  match next.assign value setting with
                  | none =>
                      .error .rejected
                  | some assigned =>
                      readArguments subcommand assigned others
                else
                  .error .rejected

/-- The request that a subcommand makes of what is given. -/
def Given.request?
    (given : Given) :
    Subcommand → Option Request
  | .parse =>
      given.file?.map .parse
  | .encode =>
      given.file?.map fun file =>
        .encode file given.output? (given.device?.getD Registry.defaultId)
          given.production
  | .validate =>
      given.file?.map fun file =>
        .validate file (given.device?.getD Registry.defaultId)
  | .devices =>
      some .devices

/-- The answer to arguments that ask about the program itself. -/
def answer? :
    List String → Option String
  | "-h" :: _ | "--help" :: _ => some usage
  | "-V" :: _ | "--version" :: _ => some version
  | ["help"] => some usage
  | ["help", name] => (Subcommand.ofName? name).map fun _ => usage
  | _ => none

/-- Read the subcommand and what follows it. -/
def readSubcommand
    (verbose : Bool)
    (arguments : List String) :
    Except Dismissal Invocation :=
  match answer? arguments, arguments with
  | some text, _ =>
      .error (.answered text)
  | none, [] =>
      .error .rejected
  | none, name :: others => do
      let subcommand ← orReject (Subcommand.ofName? name)
      let given ← readArguments subcommand {} others
      let request ← orReject (given.request? subcommand)
      pure { verbose := verbose || given.verbose, request }

/-- Read all arguments; before the subcommand there may be one switch. -/
def Invocation.ofArguments :
    ArgumentReader
  | "-v" :: arguments => readSubcommand true arguments
  | "--verbose" :: arguments => readSubcommand true arguments
  | arguments => readSubcommand false arguments

end Keystroke.CommandLine
