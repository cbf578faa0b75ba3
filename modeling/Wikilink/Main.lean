/-
# Main -- the program

Connects the commands with the files and the streams of the system.  The index is
kept in a file as the text of `StoredIndex.toText`.
-/
import Wikilink.Command.Run
import Wikilink.Index.Text

namespace Wikilink.Program

set_option autoImplicit false

/-- A result with the message of what went wrong. -/
def guarded {α : Type} (action : IO α) : IO (Except String α) := do
  match ← action.toBaseIO with
  | .ok a => return .ok a
  | .error e => return .error (toString e)

/-- Whether there is something at a path. -/
def isThere (path : String) : IO Bool := do
  match ← guarded (IO.FS.realPath path) with
  | .ok _ => return true
  | .error _ => return false

/-- The index at a path. -/
def readIndex (path : String) : IO IndexFile := do
  if !(← isThere path) then return .absent
  match ← guarded (IO.FS.readFile path) with
  | .error reason => return .foreign reason
  | .ok text =>
      match StoredIndex.ofText? text with
      | some s => return .stored s
      | none => return .foreign "the file holds no index"

/-- The size of a file. -/
def sizeOf (path : String) : IO Nat := do
  match ← guarded (IO.FS.readBinFile path) with
  | .ok bytes => return bytes.size
  | .error _ => return 0

/-- The rest of a stream. -/
partial def readRest (stream : IO.FS.Stream) (before : String) : IO String := do
  let line ← stream.getLine
  if line.isEmpty then return before
  readRest stream (before ++ line)

/-- The files and the standard input of the system. -/
def disk : Disk IO where
  readText path := guarded (IO.FS.readFile path)
  isThere := isThere
  makeDirectory path :=
    if path.isEmpty then return .ok () else guarded (IO.FS.createDirAll path)
  readIndex := readIndex
  writeIndex path content := guarded (IO.FS.writeFile path content.toText)
  sizeOf := sizeOf
  readInput := guarded do readRest (← IO.getStdin) ""

/-- The text that tells how the program is called. -/
def usage : String :=
  Command.page
    ["Usage: smartlinks [--config <FILE>] [--index <FILE>] <COMMAND>", "", "Commands:",
      "  reset-index     Wipe the search index and rebuild it from every configured type",
      "  render [FILE]   Replace the smartlinks and embeds of a file (or stdin)",
      "  resolve <LINK>  Show what a single smartlink resolves to",
      "  stats           Index statistics",
      "  check           Validate the configuration and registrations"]

/-- The options that the environment sets. -/
def environment : IO Command.Options := do
  return ⟨← IO.getEnv "SMARTLINKS_CONFIG", ← IO.getEnv "SMARTLINKS_INDEX"⟩

end Wikilink.Program

open Wikilink in
/-- Runs the program; the exit code is 1 after a failure and 2 for a malformed command line. -/
def main (words : List String) : IO UInt32 := do
  match Command.request? words with
  | none => do
      IO.eprint Program.usage
      return 2
  | some .help => do
      IO.print Program.usage
      return 0
  | some .version => do
      IO.println "smartlinks 0.1.0"
      return 0
  | some (.run options action) => do
      let options := options.over (← Program.environment)
      let outcome ← Command.run Program.disk options action
      IO.print outcome.output
      match outcome.failure with
      | none => return 0
      | some f => do
          IO.eprintln f.text
          return 1
