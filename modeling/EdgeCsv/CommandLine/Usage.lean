import EdgeCsv.Path

/-!
# Commands and settings

What can be said on the command line. Each command has settings, which take a value; one command
takes a name; and two have commands of their own. The level of the log can be set at every command.
-/

namespace EdgeCsv.CommandLine

/-- Something that takes a value. -/
inductive Setting
  | logLevel
  | plan
  | input
  | output
  | loadScript
  deriving DecidableEq, Repr

namespace Setting

/-- The long name. -/
def long : Setting → String
  | .logLevel => "log-level"
  | .plan => "plan"
  | .input => "input"
  | .output => "output"
  | .loadScript => "load-script"

/-- The letter, if there is one. -/
def short? : Setting → Option Char
  | .logLevel => some 'l'
  | .plan => some 'p'
  | .input => some 'i'
  | .output => some 'o'
  | .loadScript => none

/-- What messages call the value. -/
def valueName : Setting → String
  | .logLevel => "LOG_LEVEL"
  | .plan => "PLAN"
  | .input => "INPUT"
  | .output => "OUTPUT"
  | .loadScript => "LOAD_SCRIPT"

/-- The setting as messages show it. -/
def shown (s : Setting) : String :=
  "--" ++ s.long ++ " <" ++ s.valueName ++ ">"

/-- Whether the value is a path; otherwise it is a text. -/
def isPath : Setting → Bool
  | .logLevel => false
  | _ => true

end Setting

/-- A command. -/
inductive Command
  /-- The program itself, without a command. -/
  | top
  | run
  | init
  | generate
  | template
  deriving DecidableEq, Repr

namespace Command

/-- The settings of a command. -/
def settings : Command → List Setting
  | .top | .generate | .template => [.logLevel]
  | .run => [.logLevel, .plan, .input, .output, .loadScript]
  | .init => [.logLevel, .plan]

/-- The commands of a command, by name. -/
def commands : Command → List (String × Command)
  | .top => [("run", .run), ("init", .init), ("generate", .generate)]
  | .generate => [("template", .template)]
  | _ => []

/-- Whether a command has commands of its own. -/
def hasCommands (c : Command) : Bool :=
  !c.commands.isEmpty

/-- Whether a command needs one of its own. -/
def needsCommand : Command → Bool
  | .generate => true
  | _ => false

/-- Whether a command takes a name. -/
def takesName : Command → Bool
  | .template => true
  | _ => false

/-- The settings that a command cannot do without. -/
def required : Command → List Setting
  | .init => [.plan]
  | _ => []

/-- How a command is called. -/
def call : Command → String
  | .top => "cfl-edges"
  | .run => "cfl-edges run"
  | .init => "cfl-edges init"
  | .generate => "cfl-edges generate"
  | .template => "cfl-edges generate template"

/-- How a command is used, in one line. -/
def usage : Command → String
  | .top => "Usage: cfl-edges [OPTIONS] [COMMAND]"
  | .run => "Usage: cfl-edges run [OPTIONS]"
  | .init => "Usage: cfl-edges init [OPTIONS] --plan <PLAN>"
  | .generate => "Usage: cfl-edges generate [OPTIONS] <COMMAND>"
  | .template => "Usage: cfl-edges generate template [OPTIONS] <NAME>"

end Command

/-- Something that takes no value and ends the reading of the command line. -/
inductive Flag
  | help
  | version
  deriving DecidableEq, Repr

/-- The flags of a command. -/
def Command.flags : Command → List Flag
  | .top => [.help, .version]
  | _ => [.help]

namespace Flag

/-- The long name. -/
def long : Flag → String
  | .help => "help"
  | .version => "version"

/-- The letter. -/
def short : Flag → Char
  | .help => 'h'
  | .version => 'V'

end Flag

/-- Why a command line makes no sense. -/
inductive UsageError
  | unexpectedArgument (shown : String)
  | unrecognizedCommand (shown : String)
  | valueRequired (s : Setting)
  | repeated (s : Setting)
  | unexpectedValue (value : String) (flag : Flag)
  | notText
  | requiredMissing
  | commandMissing (c : Command)
  /-- Nothing at all was said where a command is needed. -/
  | nothingSaid (c : Command)
  deriving DecidableEq, Repr

/-- The first line of the message. -/
def UsageError.message : UsageError → String
  | .unexpectedArgument shown => "error: unexpected argument '" ++ shown ++ "' found"
  | .unrecognizedCommand shown => "error: unrecognized subcommand '" ++ shown ++ "'"
  | .valueRequired s => "error: a value is required for '" ++ s.shown ++ "' but none was supplied"
  | .repeated s => "error: the argument '" ++ s.shown ++ "' cannot be used multiple times"
  | .unexpectedValue value flag =>
    "error: unexpected value '" ++ value ++ "' for '--" ++ flag.long ++
      "' found; no more were expected"
  | .notText => "error: invalid UTF-8 was detected in one or more arguments"
  | .requiredMissing => "error: the following required arguments were not provided:"
  | .commandMissing c =>
    "error: '" ++ c.call ++ "' requires a subcommand but one was not provided"
  | .nothingSaid c => c.usage

end EdgeCsv.CommandLine
