import RouterShell.Transcript

/-!
# Command line

The outer layer: it reads the variables, files and input that the program may ask for, and writes what
the program answers.

It starts no other program, so the host it describes has no executables. What is left are the settings,
the list of commands, and a loop with the commands that need no tool.
-/

namespace RouterShell.Outer

/-- The variables that are read. -/
def variableNames : List String := ["HOME", Config.fileVariable, "XDG_CONFIG_HOME"]

/-- The variables that are set. -/
def readVariables : IO Variables := do
  let found ← variableNames.mapM fun name => return (name, ← IO.getEnv name)
  return SortedMap.ofList (found.filterMap fun (name, value) => value.map (name, ·))

/-- The components of a path without steps to itself and back. -/
def plainComponents (current : List String) (path : String) : List String :=
  let start := if Path.isAbsolute path then [] else current
  (Path.components path).foldl (fun steps c =>
    if c = "." then steps else if c = ".." then steps.dropLast else steps ++ [c]) start

/-- Those of some files that can be read. -/
def readDisk (current : List String) (paths : List String) : IO Disk := do
  let entries ← paths.filterMapM fun (path : String) => do
    try
      let bytes ← IO.FS.readBinFile path
      return some (plainComponents current path, DiskEntry.file 0o644 bytes.toList)
    catch _ => return none
  return ⟨entries, current⟩

/-- The files that settings may come from. -/
def configPaths (vars : Variables) (args : List String) : List String :=
  let asked := match CommandLine.read args with
    | .run options _ => options.config.toList
    | _ => []
  asked ++ (vars.nonempty? Config.fileVariable).toList ++ [Config.defaultPath vars]

/-- The files of the tables, and the one that is shown on request. -/
def otherPaths (vars : Variables) (disk : Disk) (args : List String) : List String :=
  let tables := Lookups.directories.flatMap fun dir =>
    ["rt_tables", "rt_protos", "rt_scopes"].map (Path.join dir)
  let explicit := match CommandLine.read args with
    | .run options _ => options.config
    | _ => none
  match Config.load disk vars explicit with
  | .ok config => config.ifstate.configFile :: Show.ifstateFile :: tables
  | .error _ => tables

/-- The name of the host. -/
def readHostName : IO String := do
  try
    let text ← IO.FS.readFile "/proc/sys/kernel/hostname"
    return String.ofList (Text.trim text.toList)
  catch _ => return "localhost"

/-- Programs that do nothing; none is ever found. -/
def noPrograms : Run → Program := fun _ => ⟨[], [], fun _ => .exited 0, 0⟩

/-- Read everything that is left of a stream. -/
partial def readAll (stream : IO.FS.Stream) (before : ByteArray) : IO ByteArray := do
  let chunk ← stream.read 65536
  if chunk.isEmpty then return before else readAll stream (before ++ chunk)

/-- Do what the arguments ask for. -/
def perform (args : List String) : IO UInt32 := do
  let vars ← readVariables
  let current := Path.components (toString (← IO.currentDir))
  let settings ← readDisk current (configPaths vars args)
  let others ← readDisk current (otherPaths vars settings args)
  let host : Host := ⟨⟨settings.entries ++ others.entries, current⟩, vars, noPrograms⟩
  let input ← match CommandLine.read args with
    | .run _ .shell => readAll (← IO.getStdin) .empty
    | _ => pure .empty
  let text := (Text.decodeLossy input.toList).toList
  let transcript := host.answer (← readHostName) args text
  (← IO.getStdout).write ⟨transcript.output.toArray⟩
  (← IO.getStderr).write ⟨transcript.errors.toArray⟩
  return UInt32.ofNat transcript.code

end RouterShell.Outer

/-- The program. -/
def main (args : List String) : IO UInt32 := RouterShell.Outer.perform args
