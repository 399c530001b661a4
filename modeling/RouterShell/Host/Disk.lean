import RouterShell.Text.Utf8

/-!
# Files

The part of a file system that the shell looks at: regular files with permission bits and contents,
and directories. A path is walked component by component; where a walk fails says which error the
operating system reports.

## The model

A disk lists its files and directories by the components of their absolute paths. Every path on the
way to an entry is a directory. There are no links, and permission bits matter to nothing but the
search for executables.
-/

namespace RouterShell

/-- What the operating system reports when something cannot be opened, read or started. -/
inductive OsError where
  /-- Nothing has this name. -/
  | notFound
  /-- The permission bits forbid it. -/
  | permissionDenied
  /-- A component before the last one is a file. -/
  | notADirectory
  /-- A directory cannot be read as a file. -/
  | isADirectory
  /-- The contents are no text. -/
  | notText
  /-- A word that is handed over holds the character with code 0. -/
  | nulByte
  deriving DecidableEq, Repr

/-- The wording of an error. -/
def OsError.message : OsError → String
  | .notFound => "No such file or directory (os error 2)"
  | .permissionDenied => "Permission denied (os error 13)"
  | .notADirectory => "Not a directory (os error 20)"
  | .isADirectory => "Is a directory (os error 21)"
  | .notText => "stream did not contain valid UTF-8"
  | .nulByte => "nul byte found in provided data"

/-! ### Paths -/

namespace Path

/-- A name looked up below a directory; an absolute name stands for itself. -/
def join (dir name : String) : String :=
  if name.startsWith "/" || dir.isEmpty then name
  else if dir.endsWith "/" then dir ++ name
  else dir ++ "/" ++ name

/-- Whether a path starts at the root. -/
def isAbsolute (path : String) : Bool :=
  path.startsWith "/"

/-- Cut at every slash. -/
def slashParts : List Char → List (List Char)
  | [] => [[]]
  | c :: rest =>
    if c = '/' then [] :: slashParts rest
    else match slashParts rest with
      | [] => [[c]]
      | p :: ps => (c :: p) :: ps

/-- The components of a path. A slash at the end asks for a directory, which a last component `.`
expresses. -/
def components (path : String) : List String :=
  let parts := ((slashParts path.toList).filter (fun p => !p.isEmpty)).map String.ofList
  if path.endsWith "/" then parts ++ ["."] else parts

/-- The last component. -/
def fileName (path : String) : String :=
  (components path).getLast?.getD ""

/-- What follows the last dot of a file name; a dot at its start does not count. -/
def extension (name : String) : Option String :=
  let back := name.toList.reverse
  match back.dropWhile (· ≠ '.') with
  | [] => none
  | [_] => none
  | _ => some (String.ofList (back.takeWhile (· ≠ '.')).reverse)

end Path

/-! ### Disks -/

/-- What a path can lead to. -/
inductive DiskEntry where
  /-- A regular file: its permission bits and its contents. -/
  | file (mode : Nat) (bytes : List UInt8)
  /-- A directory. -/
  | directory
  deriving DecidableEq, Repr

/-- The files and directories of a host. -/
structure Disk where
  /-- The entries, each under the components of its absolute path. -/
  entries : List (List String × DiskEntry)
  /-- The directory at which relative paths start. -/
  current : List String
  deriving Repr

namespace Disk

/-- The entry with the given components. -/
def entry? (d : Disk) (at' : List String) : Option DiskEntry :=
  match d.entries.find? (fun e => e.1 == at') with
  | some e => some e.2
  | none => if at'.isEmpty || d.entries.any (fun e => at'.isPrefixOf e.1) then some .directory else none

/-- The components of the place to which steps lead from the directory `at'`. -/
def walk (d : Disk) (at' : List String) : List String → Except OsError (List String)
  | [] => if (d.entry? at').isSome then .ok at' else .error .notFound
  | c :: rest => match d.entry? at' with
    | none => .error .notFound
    | some (.file _ _) => .error .notADirectory
    | some .directory =>
      if c = "." then d.walk at' rest
      else if c = ".." then d.walk at'.dropLast rest
      else d.walk (at' ++ [c]) rest

/-- The components of the place that a path leads to. -/
def place (d : Disk) (path : String) : Except OsError (List String) :=
  if path.isEmpty then .error .notFound
  else d.walk (if Path.isAbsolute path then [] else d.current) (Path.components path)

/-- What a path leads to. -/
def look (d : Disk) (path : String) : Except OsError DiskEntry :=
  match d.place path with
  | .error e => .error e
  | .ok found => match d.entry? found with
    | some e => .ok e
    | none => .error .notFound

/-- Whether a path leads to anything. -/
def exists? (d : Disk) (path : String) : Bool :=
  (d.look path).toBool

/-- The bytes of a regular file. -/
def fileBytes? (d : Disk) (path : String) : Option (List UInt8) :=
  match d.look path with
  | .ok (.file _ bytes) => some bytes
  | _ => none

/-- The text of a file. -/
def readText (d : Disk) (path : String) : Except OsError String :=
  match d.look path with
  | .error e => .error e
  | .ok .directory => .error .isADirectory
  | .ok (.file _ bytes) =>
    match Text.decode bytes with
    | some text => .ok text
    | none => .error .notText

/-- The permission bits of execution, for owner, group and others. -/
def executeBits : Nat := 0o111

/-- Whether a path leads to a regular file that someone may execute. -/
def isExecutable (d : Disk) (path : String) : Bool :=
  match d.look path with
  | .ok (.file mode _) => mode &&& executeBits != 0
  | _ => false

/-- The names of the files and directories right below a directory, in order. -/
def names (d : Disk) (path : String) : List String :=
  match d.place path with
  | .error _ => []
  | .ok found =>
    let below := d.entries.filterMap fun e =>
      if found.isPrefixOf e.1 then (e.1.drop found.length).head? else none
    below.eraseDups.mergeSort (fun a b => decide (a ≤ b))

end Disk

end RouterShell
