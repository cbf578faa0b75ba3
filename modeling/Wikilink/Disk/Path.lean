/-
# Disk.Path -- paths as text

A path is a text with slashes.  Joining and taking the parent work on the text
alone: nothing is looked up, and a path is not brought into a normal form.
-/

namespace Wikilink.Disk

set_option autoImplicit false

/-- Whether a path starts at the root. -/
def isAbsolute (path : String) : Bool :=
  path.toList.head? = some '/'

/-- The path of a file relative to a directory; an absolute path stays as it is. -/
def join (directory path : String) : String :=
  if isAbsolute path then path
  else if directory.isEmpty ∨ directory.toList.getLast? = some '/' then directory ++ path
  else directory ++ "/" ++ path

/-- A path written backwards without the slashes and the single dots at its end; a dot that begins
a relative path stays. -/
def dropTail : List Char → List Char
  | '/' :: rest => dropTail rest
  | ['.'] => ['.']
  | '.' :: '/' :: rest => dropTail ('/' :: rest)
  | rest => rest

/-- A path behind the root, written backwards, without slashes and single dots at its end. -/
def dropRootTail (backwards : List Char) : List Char :=
  let rest := dropTail backwards
  if rest = ['.'] then [] else rest

/-- The directory that a path stands in; the root and the empty path stand in none. -/
def parent? (path : String) : Option String :=
  match path.toList with
  | '/' :: cs =>
      match dropRootTail cs.reverse with
      | [] => none
      | backwards =>
          let rest := dropRootTail (backwards.dropWhile (· ≠ '/'))
          some (String.ofList ('/' :: rest.reverse))
  | cs =>
      match dropTail cs.reverse with
      | [] => none
      | backwards => some (String.ofList (dropTail (backwards.dropWhile (· ≠ '/'))).reverse)

end Wikilink.Disk
