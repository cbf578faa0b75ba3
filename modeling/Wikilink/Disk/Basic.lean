/-
# Disk.Basic -- what the program needs of its surroundings

The program reads text files, looks whether files exist, makes directories, and
keeps its index in a file.  `Disk` names these actions in any monad; failures of
the surroundings carry a reason in their words.
-/
import Wikilink.Index.Stored

namespace Wikilink

set_option autoImplicit false

/-- What stands at the path of an index. -/
inductive IndexFile where
  | absent
  | stored (s : StoredIndex)
  /-- Something else than an index. -/
  | foreign (reason : String)

/-- Access to files and to the standard input. -/
structure Disk (m : Type → Type) where
  /-- The text of a file. -/
  readText : String → m (Except String String)
  /-- Whether there is something at a path. -/
  isThere : String → m Bool
  /-- Makes a directory and those it stands in, as far as they are missing. -/
  makeDirectory : String → m (Except String Unit)
  readIndex : String → m IndexFile
  writeIndex : String → StoredIndex → m (Except String Unit)
  /-- The size of a file in bytes, zero if there is none. -/
  sizeOf : String → m Nat
  /-- The text of the standard input. -/
  readInput : m (Except String String)

end Wikilink
