/-
# Disk.Files -- a tree of files in memory

The tree lists what stands at each absolute place, a place being the names on the
way to it from the root, which itself is always a directory.  A path is walked
name by name from the root or from the working directory: a single dot or nothing
between two slashes stays where it is, two dots go up, and only a directory can be
walked through.  Names and paths are of bounded length, and no path holds the
character with code zero.
-/
import Wikilink.Disk.Basic
import Wikilink.Disk.Path
import Wikilink.Text.Basic

namespace Wikilink

set_option autoImplicit false

inductive FileNode where
  | directory
  | text (content : String)
  | index (content : StoredIndex)

/-- The names from the root to a place. -/
abbrev Place := List String

/-- A tree of files with a working directory and a standard input. -/
structure Files where
  nodes : List (Place × FileNode) := []
  workingDirectory : Place := []
  input : String := ""

/-- Why nothing can be read or made at a path. -/
inductive FileFault where
  | notThere
  | notDirectory
  | isDirectory
  /-- A name or the path is too long. -/
  | tooLong
  /-- The path holds the character with code zero. -/
  | holdsNul
  | notText
  deriving DecidableEq, Repr

def FileFault.message : FileFault → String
  | notThere => "No such file or directory (os error 2)"
  | notDirectory => "Not a directory (os error 20)"
  | isDirectory => "Is a directory (os error 21)"
  | tooLong => "File name too long (os error 36)"
  | holdsNul => "file name contained an unexpected NUL byte"
  | notText => "stream did not contain valid UTF-8"

namespace Files

/-! ## Places -/

def node? (f : Files) (place : Place) : Option FileNode :=
  if place = [] then some .directory else List.lookup place f.nodes

/-- The tree with something at a place, in place of what was there. -/
def put (f : Files) (place : Place) (node : FileNode) : Files :=
  { f with nodes := (place, node) :: f.nodes.filter fun n => n.1 ≠ place }

def isDirectory (f : Files) (place : Place) : Bool :=
  match f.node? place with
  | some .directory => true
  | _ => false

/-! ## Paths -/

def names (path : String) : List String :=
  (Text.split '/' path.toList).map String.ofList

/-- The place that a walk begins at. -/
def start (f : Files) (path : String) : Place :=
  if Disk.isAbsolute path then [] else f.workingDirectory

def step (place : Place) (name : String) : Place :=
  if name = "" ∨ name = "." then place
  else if name = ".." then place.dropLast
  else place ++ [name]

/-- The greatest number of bytes of a name. -/
def nameLimit : Nat := 255

/-- The greatest number of bytes of a path. -/
def pathLimit : Nat := 4095

/-- What is wrong with a path whatever the tree is. -/
def pathFault? (path : String) : Option FileFault :=
  if '\x00' ∈ path.toList then some .holdsNul
  else if pathLimit < path.utf8ByteSize then some .tooLong
  else if path.isEmpty then some .notThere
  else none

/-- The place at the end of a walk on which each name but the last leads to a directory; the last
place may be empty.  An empty last name wants a directory there. -/
def walk (f : Files) (place : Place) : List String → Except FileFault Place
  | [] => .ok place
  | name :: rest =>
      match f.node? place with
      | none => .error .notThere
      | some .directory =>
          if nameLimit < name.utf8ByteSize then .error .tooLong
          else f.walk (step place name) rest
      | some _ => .error .notDirectory

def place? (f : Files) (path : String) : Except FileFault Place :=
  match pathFault? path with
  | some fault => .error fault
  | none => f.walk (f.start path) (names path)

def at? (f : Files) (path : String) : Except FileFault FileNode := do
  match f.node? (← f.place? path) with
  | some node => return node
  | none => throw .notThere

/-- The place of a path at which a file may be made or replaced.  A slash at the end asks for a
directory, whether there is one or not. -/
def filePlace? (f : Files) (path : String) : Except FileFault Place := do
  if let some fault := pathFault? path then throw fault
  let given := names path
  let kept := (given.reverse.dropWhile (· = "")).reverse
  let place ← f.walk (f.start path) kept
  if kept.length < given.length ∨ f.isDirectory place then throw .isDirectory
  return place

/-- The tree with the missing directories of a walk made; a fault where something else is in the
way. -/
def makeAlong (f : Files) (place : Place) : List String → Files × Except FileFault Unit
  | [] => (f, if f.isDirectory place then .ok () else .error .notDirectory)
  | name :: rest =>
      let next := step place name
      if nameLimit < name.utf8ByteSize then (f, .error .tooLong)
      else
        match f.node? next with
        | some .directory => f.makeAlong next rest
        | some _ => (f, .error .notDirectory)
        | none => (f.put next .directory).makeAlong next rest

/-! ## Actions -/

def readText (f : Files) (path : String) : Except FileFault String :=
  match f.at? path with
  | .ok (.text content) => .ok content
  | .ok .directory => .error .isDirectory
  | .ok (.index _) => .error .notText
  | .error fault => .error fault

/-- The index at a path; an empty file is an index without rows and version. -/
def readIndex (f : Files) (path : String) : IndexFile :=
  match f.at? path with
  | .error _ => .absent
  | .ok (.index content) => .stored content
  | .ok (.text "") => .stored ⟨.empty, none⟩
  | .ok (.text _) => .foreign "invalid data"
  | .ok .directory => .foreign FileFault.isDirectory.message

/-- The tree with the directory at a path made. -/
def makeDirectory (f : Files) (path : String) : Files × Except FileFault Unit :=
  if path.isEmpty then (f, .ok ())
  else
    match pathFault? path with
    | some fault => (f, .error fault)
    | none => f.makeAlong (f.start path) (names path)

/-- The tree with an index at a path. -/
def writeIndex (f : Files) (path : String) (content : StoredIndex) :
    Files × Except FileFault Unit :=
  match f.filePlace? path with
  | .ok place => (f.put place (.index content), .ok ())
  | .error fault => (f, .error fault)

/-- The tree with a text at a path, its directories included. -/
def writeText (f : Files) (path content : String) : Files :=
  let f := (f.makeDirectory ((Disk.parent? path).getD "")).1
  match f.filePlace? path with
  | .ok place => f.put place (.text content)
  | .error _ => f

/-- A result with the wording of its fault. -/
def worded {α : Type} (result : Except FileFault α) : Except String α :=
  result.mapError FileFault.message

/-- The tree as the surroundings of the program. -/
def disk : Disk (StateM Files) where
  readText path := fun f => (worded (f.readText path), f)
  isThere path := fun f => ((f.at? path).isOk, f)
  makeDirectory path := fun f => let (f, result) := f.makeDirectory path; (worded result, f)
  readIndex path := fun f => (f.readIndex path, f)
  writeIndex path content := fun f =>
    let (f, result) := f.writeIndex path content; (worded result, f)
  sizeOf _ := fun f => (0, f)
  readInput := fun f => (.ok f.input, f)

end Files

end Wikilink
