import Scanout.Files.Path

/-!
A tree of files and folders, with one folder in which relative paths start. Operations follow a path
part by part and say which obstacle they met first.
-/

namespace Scanout

inductive FileError where
  | absent
  /-- Something on the way is a file. -/
  | notFolder
  | isFolder
  /-- There is something at the place already. -/
  | taken
  /-- The path has a zero character in it. -/
  | invalidName
  | tooLong
  | notText
  deriving DecidableEq, Repr, Inhabited

def FileError.message : FileError → String
  | absent => "no such file or folder"
  | notFolder => "not a folder"
  | isFolder => "is a folder"
  | taken => "exists already"
  | invalidName => "a path with a zero character"
  | tooLong => "name too long"
  | notText => "the content is not valid text"

/-- A place in a tree, by the names that lead to it from the root. -/
abbrev Location := List String

inductive Node where
  | folder
  | file (content : ByteArray)
  deriving Inhabited

instance : DecidableEq Node
  | .folder, .folder => .isTrue rfl
  | .folder, .file _ | .file _, .folder => .isFalse nofun
  | .file first, .file second =>
      decidable_of_decidable_of_iff (p := first.data = second.data) (by
        rw [Node.file.injEq, ByteArray.ext_iff])

structure Files where
  home : Location := []
  nodes : List (Location × Node) := []

namespace Files

def nameLimit : Nat := 255

def pathLimit : Nat := 4095

/-- What is at a place. The root is always a folder. -/
def node? (files : Files) (location : Location) : Option Node :=
  if location.isEmpty then some .folder else files.nodes.lookup location

def add (files : Files) (location : Location) (node : Node) : Files :=
  { files with nodes := files.nodes ++ [(location, node)] }

/-- Adds the folders that lead to a place, and the place itself as a folder. -/
def addFolders (files : Files) (location : Location) : Files :=
  (List.range location.length).foldl (fun files count =>
    let place := location.take (count + 1)
    if (files.node? place).isSome then files else files.add place .folder) files

/-- The folders that are always there. -/
def usualFolders : List Location :=
  ["bin", "dev", "etc", "home", "lib", "opt", "proc", "root", "run", "sys", "tmp", "usr",
    "var"].map ([·])

/-- Files that are always there, by their folders, names and contents: one that is empty for good,
and one of those that are no settings. -/
def usualFiles : List (Location × String) :=
  [(["dev", "null"], ""), (["etc", "passwd"], "root:x:0:0:root:/root:/bin/sh\n")]

/-- The folder to work in. It is made for the purpose, under a name that no path can spell. -/
def workplace : Location := ["tmp", "/"]

def workspace (things : List (String × Node)) : Files :=
  let home := workplace
  let empty := usualFiles.foldl (fun files (place, content) =>
    files.add place (.file content.toUTF8)) ((home :: usualFolders).foldl addFolders { home })
  things.foldl (fun files (path, node) =>
    let place := home ++ Text.split '/' path
    (files.addFolders place.dropLast).add place node) empty

/-- Goes from one place to the next. -/
def stepTo (files : Files) (place : Location) (part : String) : Except FileError Location :=
  match files.node? place with
  | none => .error .absent
  | some (.file _) => .error .notFolder
  | some .folder =>
      if Path.saysNothing part then .ok place
      else if part = ".." then .ok place.dropLast
      else if nameLimit < part.utf8ByteSize then .error .tooLong
      else .ok (place ++ [part])

/-- Follows the parts of a path. Its end need not exist. -/
def follow (files : Files) (path : String) : Except FileError Location :=
  if path = "" then .error .absent
  else if path.toList.contains '\x00' then .error .invalidName
  else if pathLimit < path.utf8ByteSize then .error .tooLong
  else
    (Text.split '/' path).foldlM files.stepTo (if Path.isAbsolute path then [] else files.home)

def find (files : Files) (path : String) : Except FileError (Location × Node) := do
  let place ← files.follow path
  match files.node? place with
  | some node => .ok (place, node)
  | none => .error .absent

def isFolder (files : Files) (path : String) : Bool :=
  match files.find path with
  | .ok (_, .folder) => true
  | _ => false

def readText (files : Files) (path : String) : Except FileError String := do
  match ← files.find path with
  | (_, .folder) => .error .isFolder
  | (_, .file content) =>
      match String.fromUTF8? content with
      | some text => .ok text
      | none => .error .notText

def makeFolder (files : Files) (path : String) : Except FileError Files := do
  let place ← files.follow path
  match files.node? place with
  | some _ => .error .taken
  | none => .ok (files.add place .folder)

/-- Makes a folder and first, where they are missing, the ones that lead to it. -/
def makeFoldersWithin (files : Files) (path : String) : (depth : Nat) → Except FileError Files
  | 0 => .error .absent
  | depth + 1 =>
      let settle (files : Files) (attempt : Except FileError Files) : Except FileError Files :=
        match attempt with
        | .ok made => .ok made
        | .error reason => if files.isFolder path then .ok files else .error reason
      if path = "" then .ok files
      else
        match files.makeFolder path, Path.parent? path with
        | .error .absent, some parent => do
            let files ← makeFoldersWithin files parent depth
            settle files (files.makeFolder path)
        | attempt, _ => settle files attempt

/-- Makes a folder and all that lead to it. A parent is shorter than its path, so the length of the
path is deep enough. -/
def makeFolders (files : Files) (path : String) : Except FileError Files :=
  files.makeFoldersWithin path (path.length + 1)

/-- Opens a file of a folder for writing at its end, and makes it if it is not there. -/
def openEnd (files : Files) (folder name : String) : Except FileError (Location × Files) := do
  let place ← files.stepTo (← files.find folder).1 name
  match files.node? place with
  | some (.file _) => .ok (place, files)
  | some .folder => .error .isFolder
  | none => .ok (place, files.add place (.file .empty))

/-- The files below the folder where relative paths start, by the path that leads to each. -/
def homeFiles (files : Files) : List (String × Location) :=
  files.nodes.filterMap fun (place, node) =>
    match node with
    | .folder => none
    | .file _ =>
        if files.home.isPrefixOf place then
          some ("/".intercalate (place.drop files.home.length), place)
        else none

end Files
end Scanout
