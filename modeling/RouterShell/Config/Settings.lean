import RouterShell.Host.Disk
import RouterShell.SortedMap

/-!
# Settings

What a configuration file can change. Every setting has a default, so an empty configuration is a
valid one; the history's place depends on the home directory.
-/

namespace RouterShell

/-- Environment variables by name. -/
abbrev Variables := SortedMap String String

/-- The value of a variable, unless it is empty. -/
def Variables.nonempty? (vars : Variables) (name : String) : Option String :=
  (vars.find? name).filter (· ≠ "")

/-- The home directory of a user without the variable `HOME`. -/
def fallbackHome : String := "/root"

/-- The home directory. -/
def Variables.home (vars : Variables) : String :=
  (vars.nonempty? "HOME").getD fallbackHome

/-- Settings of the interactive loop. -/
structure LoopSettings where
  /-- The file in which lines are kept, if they are. -/
  historyFile : Option String
  /-- The number of lines kept. -/
  historySize : Nat
  /-- What ends the prompt. -/
  promptSuffix : String
  deriving DecidableEq, Repr

/-- Paths of tools that are not searched for. -/
structure ToolSettings where
  /-- The path of `ip`. -/
  ip : Option String
  /-- The path of `bridge`. -/
  bridge : Option String
  /-- The path of `ethtool`. -/
  ethtool : Option String
  deriving DecidableEq, Repr

/-- Settings of the command `ifstatecli`. -/
structure IfstateSettings where
  /-- The file it works on; empty for its own default. -/
  configFile : String
  /-- Whether it says little. -/
  quiet : Bool
  /-- Whether it accepts unknown settings. -/
  softSchema : Bool
  /-- Whether it says much. -/
  verbose : Bool
  deriving DecidableEq, Repr

/-- The arguments that the settings put in front of the typed ones. -/
def IfstateSettings.args (s : IfstateSettings) : List String :=
  (if s.configFile = "" then [] else ["-c", s.configFile]) ++
    (if s.quiet then ["-q"] else []) ++
    (if s.softSchema then ["-s"] else []) ++
    (if s.verbose then ["-v"] else [])

/-- All settings. -/
structure Config where
  /-- Settings of the interactive loop. -/
  loop : LoopSettings
  /-- Paths of tools. -/
  tools : ToolSettings
  /-- Settings of `ifstatecli`. -/
  ifstate : IfstateSettings
  deriving DecidableEq, Repr

/-- The number of lines kept if nothing else is said. -/
def defaultHistorySize : Nat := 1000

/-- The settings of an empty configuration. -/
def Config.default (home : String) : Config where
  loop := ⟨some (Path.join home ".rosh_history"), defaultHistorySize, "> "⟩
  tools := ⟨none, none, none⟩
  ifstate := ⟨"", false, false, false⟩

end RouterShell
