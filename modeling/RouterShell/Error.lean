import RouterShell.Command.Tree
import RouterShell.Filter
import RouterShell.Line.Quoted
import RouterShell.Net.Network
import RouterShell.Value

/-!
# Errors

Everything that a line, a configuration or the start of the shell can fail with, by cause. Each cause
has one wording.
-/

namespace RouterShell

/-- Why a word is not accepted as a value. -/
inductive Rejection where
  /-- It is not among the values of a kind. -/
  | invalidFor (word kind : String)
  /-- It is not among the values of a kind without a name. -/
  | invalid (word : String)
  /-- It names no namespace. -/
  | noNamespace (word : String)
  /-- It is no address. -/
  | notAnAddress (word : String)
  /-- It is an address of the other family. -/
  | addressFamily (word : String) (family : Family)
  /-- It is no network. -/
  | badPrefix (fault : PrefixFault)
  /-- It is a network of the other family. -/
  | prefixFamily (word : String) (family : Family)
  deriving DecidableEq

/-- The wording of a rejection. -/
def Rejection.message : Rejection → String
  | .invalidFor word kind => s!"{word} is invalid for {kind}"
  | .invalid word => s!"{word} is an invalid value"
  | .noNamespace word => s!"netns {word} does not exist"
  | .notAnAddress word => s!"'{word}' does not appear to be an IP address"
  | .addressFamily word family => s!"'{word}' is not an {family.name} address"
  | .badPrefix fault => fault.message
  | .prefixFamily word family => s!"'{word}' is not an {family.name} prefix"

/-- What is wrong with an argument. -/
inductive ArgumentFault where
  /-- It is missing. -/
  | missing
  /-- It is one too many. -/
  | tooMany
  /-- The command takes no arguments. -/
  | noneAllowed
  /-- It names no parameter. -/
  | unknownParameter (name : String)
  /-- It names a parameter again. -/
  | repeatedParameter (name : String)
  /-- The value of a parameter is missing. -/
  | missingValue (name : String)
  /-- It is no subcommand. -/
  | invalidSubcommand (word : String)
  /-- It is not accepted as a value. -/
  | rejected (why : Rejection)
  deriving DecidableEq

/-- The wording of a fault. -/
def ArgumentFault.message : ArgumentFault → String
  | .missing => "missing argument"
  | .tooMany => "too many arguments"
  | .noneAllowed => "no parameters allowed"
  | .unknownParameter name => s!"unknown parameter {String.ofList (Line.quote name)}"
  | .repeatedParameter name => s!"parameter {name} already given"
  | .missingValue name => s!"missing value for {name}"
  | .invalidSubcommand word => s!"subcommand {word} is invalid"
  | .rejected why => why.message

/-- Why a command fails. -/
inductive CommandFault where
  /-- There is no interface of this name. -/
  | noInterface (name : String)
  /-- There is no such subcommand. -/
  | invalidSubcommand (word : String)
  /-- A tool is not installed. -/
  | unavailable (tool : String)
  /-- A file cannot be read. -/
  | unreadable (path : String) (error : OsError)
  /-- The command gives a reason of its own. -/
  | refused (reason : String)
  deriving DecidableEq, Repr

/-- The wording of a fault. -/
def CommandFault.message : CommandFault → String
  | .noInterface name => s!"{name} does not exist"
  | .invalidSubcommand word => s!"subcommand {word} is invalid"
  | .unavailable tool => s!"{tool} is not available"
  | .unreadable path error => s!"could not read {path}: {error.message}"
  | .refused reason => reason

/-- Why a program was not started. -/
inductive LaunchFault where
  /-- The operating system could not start it. -/
  | cannotRun (exe : String) (error : OsError)
  /-- The launcher gives a reason of its own. -/
  | refused (reason : String)
  deriving DecidableEq, Repr

/-- The wording of a fault. -/
def LaunchFault.message : LaunchFault → String
  | .cannotRun exe error => s!"failed to run {exe}: {error.message}"
  | .refused reason => reason

/-- Why there is no configuration. -/
inductive ConfigFault where
  /-- The file cannot be read. -/
  | unreadable (path : String) (error : OsError)
  deriving DecidableEq, Repr

/-- The wording of a fault. -/
def ConfigFault.message : ConfigFault → String
  | .unreadable path error => s!"cannot read {path}: {error.message}"

/-- What the shell can fail with. -/
inductive ShellError where
  /-- A word selects no command. -/
  | unknownCommand (word : String)
  /-- The line ends before a command is reached. -/
  | incompleteCommand
  /-- An argument is not accepted; `column` counts the arguments. -/
  | argument (column : Nat) (fault : ArgumentFault)
  /-- A segment is not accepted. -/
  | filter (fault : FilterFault)
  /-- The line cannot be read. -/
  | badSyntax (fault : SyntaxFault)
  /-- A command failed. -/
  | command (fault : CommandFault)
  /-- The state of the network cannot be read. -/
  | query (fault : QueryFault)
  /-- A program was not started. -/
  | process (fault : LaunchFault)
  /-- A configuration file cannot be read. -/
  | config (fault : ConfigFault)
  /-- A command cannot be entered in the tree. -/
  | registry (fault : TreeFault)
  /-- A configuration is not well-formed. -/
  | badConfig
  /-- A configuration cannot be written. -/
  | unwritableConfig
  deriving DecidableEq

namespace ShellError

/-- The index of the argument, or of the word of a segment, that an error is about. -/
def column? : ShellError → Option Nat
  | .argument column _ => some column
  | .filter (.unknown _) => none
  | .filter fault => some fault.column
  | _ => none

/-- The wording of an error. -/
def message : ShellError → String
  | .unknownCommand word => s!"unknown command: {word}"
  | .incompleteCommand => "command incomplete"
  | .argument _ fault => fault.message
  | .filter fault => fault.message
  | .badSyntax fault => s!"syntax error: {fault.message}"
  | .command fault => s!"command error: {fault.message}"
  | .query .badReport => s!"JSON error: {QueryFault.badReport.message}"
  | .query fault => s!"query error: {fault.message}"
  | .process fault => s!"process error: {fault.message}"
  | .config fault => s!"config error: {fault.message}"
  | .registry fault => s!"registry error: {fault.message}"
  | .badConfig => "TOML parse error"
  | .unwritableConfig => "TOML serialize error"

end ShellError

/-- The arguments of a command, accepted. -/
structure ParsedArgs where
  /-- The value of the first argument, where arguments count by position. -/
  positional : Option Value
  /-- The values of parameters, where arguments come in pairs. -/
  named : SortedMap String Value
  deriving DecidableEq

/-- No arguments. -/
def ParsedArgs.empty : ParsedArgs := ⟨none, []⟩

end RouterShell
