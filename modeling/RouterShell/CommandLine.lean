import RouterShell.SortedMap

/-!
# Options of the program

The program takes options and one of three subcommands. Options stand before the subcommand; each may
be given once, and two of them exclude each other. Letters of options may share one hyphen.

## The model

Arguments are read from left to right. A request for help or for the version ends the reading where it
stands, so nothing after it matters; a mistake before it does.
-/

namespace RouterShell.CommandLine

/-- What the program is to do. -/
inductive Subcommand where
  /-- Run the interactive loop. -/
  | shell
  /-- List all commands and filters. -/
  | commands
  /-- Print the settings. -/
  | config
  deriving DecidableEq, Repr

/-- The subcommand of a word. -/
def Subcommand.ofWord? : String → Option Subcommand
  | "shell" => some .shell
  | "commands" => some .commands
  | "config" => some .config
  | _ => none

/-- The options that were given. -/
structure Options where
  /-- The configuration file. -/
  config : Option String
  /-- Whether much is logged. -/
  verbose : Bool
  /-- Whether little is logged. -/
  quiet : Bool
  deriving DecidableEq, Repr

/-- No options. -/
def Options.none : Options := ⟨.none, false, false⟩

/-- What the arguments ask for. -/
inductive Request where
  /-- Do something under some options. -/
  | run (options : Options) (subcommand : Subcommand)
  /-- Show help. -/
  | help
  /-- Show the version. -/
  | version
  /-- The arguments are not understood. -/
  | misuse
  deriving DecidableEq, Repr

/-- Note the configuration file. -/
def Options.setConfig (o : Options) (file : List Char) : Option Options :=
  if file.isEmpty || o.config.isSome then .none else some { o with config := String.ofList file }

/-- Note that much is to be logged. -/
def Options.setVerbose (o : Options) : Option Options :=
  if o.verbose then .none else some { o with verbose := true }

/-- Note that little is to be logged. -/
def Options.setQuiet (o : Options) : Option Options :=
  if o.quiet then .none else some { o with quiet := true }

/-- Whether an argument can be the value of the option before it. -/
def isValue (arg : String) : Bool :=
  match arg.toList with
  | '-' :: _ :: _ => false
  | _ => true

/-- What comes of an argument with options. -/
inductive Step where
  /-- Go on with other options. -/
  | next (options : Options)
  /-- The next argument is the configuration file. -/
  | wantsFile (options : Options)
  /-- The request is known. -/
  | done (request : Request)

/-- Go on if options could be noted. -/
def Step.ofOptions : Option Options → Step
  | some o => .next o
  | .none => .done .misuse

/-- Read the letters behind one hyphen. -/
def readLetters (o : Options) : List Char → Step
  | [] => .next o
  | 'V' :: _ => .done .version
  | 'h' :: _ => .done .help
  | 'v' :: rest =>
    match o.setVerbose with
    | some o => readLetters o rest
    | .none => .done .misuse
  | 'q' :: rest =>
    match o.setQuiet with
    | some o => readLetters o rest
    | .none => .done .misuse
  | 'c' :: rest =>
    match rest with
    | [] => .wantsFile o
    | '=' :: file => .ofOptions (o.setConfig file)
    | file => .ofOptions (o.setConfig file)
  | _ => .done .misuse

/-- Read an option with a long name, behind two hyphens. -/
def readLong (o : Options) (name : List Char) : Step :=
  let configIs := "config=".toList
  if name = "help".toList then .done .help
  else if name = "version".toList then .done .version
  else if name = "verbose".toList then .ofOptions o.setVerbose
  else if name = "quiet".toList then .ofOptions o.setQuiet
  else if name = "config".toList then .wantsFile o
  else if configIs.isPrefixOf name then .ofOptions (o.setConfig (name.drop configIs.length))
  else .done .misuse

/-- What options and a subcommand ask for. -/
def finish (o : Options) (s : Subcommand) : Request :=
  if o.verbose && o.quiet then .misuse else .run o s

/-- Read the arguments after a subcommand: it has no options but the one for help. -/
def afterSubcommand (o : Options) (s : Subcommand) : List String → Request
  | [] => finish o s
  | arg :: rest =>
    if arg = "--" then if rest.isEmpty then finish o s else .misuse
    else if arg = "--help" || "-h".toList.isPrefixOf arg.toList then .help
    else .misuse

/-- Read the words after `help`: at most one, a subcommand. -/
def afterHelp : List String → Request
  | [] => .help
  | [word] => if word = "help" || (Subcommand.ofWord? word).isSome then .help else .misuse
  | _ => .misuse

/-- Read an argument that is no option. -/
def readWord (o : Options) (word : String) (rest : List String) : Request :=
  if word = "help" then afterHelp rest
  else match Subcommand.ofWord? word with
    | some s => afterSubcommand o s rest
    | .none => .misuse

/-- Read arguments after some options. `wantsFile` tells that the next one is the configuration
file. -/
def readFrom (o : Options) (wantsFile : Bool) : List String → Request
  | [] => if wantsFile then .misuse else finish o .shell
  | arg :: rest =>
    if wantsFile then
      if isValue arg then
        match o.setConfig arg.toList with
        | some o => readFrom o false rest
        | .none => .misuse
      else .misuse
    else
      let step : Option Step := match arg.toList with
        | ['-', '-'] => .none
        | '-' :: '-' :: name => some (readLong o name)
        | '-' :: c :: letters => some (readLetters o (c :: letters))
        | _ => .none
      match step with
      | some (.next o) => readFrom o false rest
      | some (.wantsFile o) => readFrom o true rest
      | some (.done request) => request
      | .none =>
        if arg = "--" then if rest.isEmpty then finish o .shell else .misuse
        else readWord o arg rest

/-- What the arguments of the program ask for. -/
def read (args : List String) : Request :=
  readFrom .none false args

end RouterShell.CommandLine
