/-
# Command.Run -- the commands

Each command loads the settings first.  What a command has to say goes to its
output; a command that fails may have said something before.
-/
import Wikilink.Command.Arguments
import Wikilink.Index.Report
import Wikilink.Settings.Load
import Wikilink.Site.Maintenance
import Wikilink.Site.Rendering

namespace Wikilink.Command

set_option autoImplicit false

/-- What a command printed, and why it failed if it did. -/
structure Outcome where
  output : String
  failure : Option Failure

/-- The outcome of an attempt that prints only if it succeeds. -/
def Outcome.ofResult : Except Failure String → Outcome
  | .ok output => ⟨output, none⟩
  | .error f => ⟨"", some f⟩

section Opening

variable {m : Type → Type} [Monad m] (disk : Disk m)

/-- The index at a path; it is made, with the directories on the way, if there is none. -/
def openStored (path : String) : Attempt m StoredIndex := do
  if let some directory := Disk.parent? path then
    let made ← disk.makeDirectory directory
    .ofExcept (fun reason => .failed (.refused (.noDirectory reason))) made
  match ← disk.readIndex path with
  | .foreign reason => .ofExcept .failed (.error (.notAnIndex reason))
  | .stored s => do
      let _ ← Attempt.ofExcept Cause.failed s.open?
      return s
  | .absent => do
      let written ← disk.writeIndex path .new
      .ofExcept (fun reason => .failed (.notAnIndex reason)) written
      return .new

/-- A site with the index as it is stored. -/
structure Opened where
  site : Site Nat
  stored : StoredIndex

def openSite (s : Settings) : Attempt m Opened := do
  let site ← s.loadSite disk
  let path := s.resolvedIndexPath
  let stored ← Attempt.within s!"Failed to open index at {path}" (openStored disk path)
  return ⟨{ site with index := stored.index }, stored⟩

/-- Keeps an index in place of the one that is stored. -/
def keep (s : Settings) (o : Opened) (ix : Index) : Attempt m Unit := do
  let written ← disk.writeIndex s.resolvedIndexPath { o.stored with index := ix }
  .ofExcept (fun reason => .failed (.notAnIndex reason)) written

end Opening

/-! ## Texts -/

/-- The name of what a query was looked for in. -/
def typeName (site : Site Nat) (i : Nat) : String :=
  (site.types i).contentType

/-- The line that tells what a mention leads to. -/
def describe (site : Site Nat) (m : Mention) : Resolution Nat → String
  | .found i o =>
      let url := ((site.types i).urlOf? o).getD "(no url)"
      s!"{typeName site i} {o.id}: {o.display} → {url}"
  | .unresolved i => s!"unresolved: no {typeName site i} matches '{m.query}'"
  | .ambiguous i => s!"ambiguous: several {typeName site i} objects match '{m.query}'"
  | .unknownType =>
      let hint := m.typeHint.getD ""
      s!"unknown type '{hint}'"

/-- A line across the page. -/
def rule : String :=
  String.ofList (List.replicate 50 '─')

/-- Lines one below the other. -/
def page (lines : List String) : String :=
  String.join (lines.map (· ++ "\n"))

/-- A number of bytes in units of 1024, with one decimal. -/
def kilobytes (bytes : Nat) : String :=
  let tenths := Decimal.roundHalfEven (bytes * 10) 1024
  toString (tenths / 10) ++ "." ++ toString (tenths % 10)

/-- A count in the column of counts. -/
def countColumn (n : Nat) : String :=
  Text.padStart 8 (toString n)

def statsPage (site : Site Nat) (bytes : Nat) : String :=
  let n := site.index.stats
  let types := n.byType.map fun (name, count) =>
    "  " ++ Text.padEnd 16 name ++ " " ++ countColumn count
  let shortcuts := site.registry.bindings.map fun (shortcut, i) =>
    "  " ++ Text.padEnd 16 shortcut ++ " " ++ typeName site i
  page (["", "Smartlink Index", rule, "Entries: " ++ countColumn n.entries] ++ types ++
    ["Objects: " ++ countColumn n.objects,
      "DB Size: " ++ Text.padStart 7 (kilobytes bytes) ++ " KB", rule, "Shortcuts:"] ++
    shortcuts ++ [""])

def typesPage (site : Site Nat) : String :=
  let types := site.registry.linkTypes.map fun i =>
    let bound := (site.registry.bindings.filter (·.2 = i)).map Prod.fst
    "  " ++ Text.padEnd 16 (typeName site i) ++
      s!" {(site.sources i).all.length} object(s), shortcuts: " ++ ", ".intercalate bound
  page (types ++ ["✅ Configuration is valid."])

def faultsPage (faults : List String) : String :=
  page ("❌ Validation errors:" :: faults.map ("  - " ++ ·))

/-! ## Commands -/

section Commands

variable {m : Type → Type} [Monad m] (disk : Disk m) (s : Settings)

/-- Builds the index anew. -/
def resetIndex : Attempt m String := do
  let o ← openSite disk s
  let b := o.site.rebuild
  keep disk s o b.index
  let _ ← Attempt.ofExcept Cause.failed b.result
  return ""

/-- The text of a file, or of the input. -/
def readSubject : Option String → Attempt m String
  | some path => Settings.readFile disk path
  | none =>
      .within "Failed to read stdin" do
        .ofExcept .unreadable (← disk.readInput)

/-- Replaces the mentions of a file or of the input. -/
def render (file : Option String) : Attempt m String := do
  let text ← readSubject disk file
  let o ← openSite disk s
  .ofExcept .failed (o.site.process text)

/-- Tells what one smartlink leads to. -/
def resolve (link : String) : Attempt m String := do
  let link := Mention.trimmed link.toList
  match Mention.parse? link with
  | none => throw ⟨[], .notASmartlink link⟩
  | some mention => do
      let o ← openSite disk s
      let resolution ← Attempt.ofExcept Cause.failed (o.site.resolve mention.typeHint mention.query)
      return page [describe o.site mention resolution]

def stats : Attempt m String := do
  let o ← openSite disk s
  let bytes ← disk.sizeOf s.resolvedIndexPath
  return statsPage o.site bytes

/-- Tells what is wrong with the settings, or else what they come to. -/
def check : m Outcome := do
  let faults ← s.faults disk
  if faults.isEmpty then
    return .ofResult (← (typesPage <$> s.loadSite disk).run)
  else return ⟨faultsPage faults, some ⟨[], .faultySettings faults.length⟩⟩

def Action.run : Action → m Outcome
  | .resetIndex => return .ofResult (← (Command.resetIndex disk s).run)
  | .render file => return .ofResult (← (Command.render disk s file).run)
  | .resolve link => return .ofResult (← (Command.resolve disk s link).run)
  | .stats => return .ofResult (← (Command.stats disk s).run)
  | .check => Command.check disk s

end Commands

/-- The settings file unless another is named. -/
def defaultConfig : String := "smartlinks.toml"

/-- The settings in a file, with the index that the options name. -/
def loadSettings {m : Type → Type} [Monad m] (disk : Disk m) (options : Options) :
    Attempt m Settings := do
  let s ← Settings.load disk (options.config.getD defaultConfig)
  return { s with indexPath := options.index.getD s.indexPath }

/-- Runs a command under the given options. -/
def run {m : Type → Type} [Monad m] (disk : Disk m) (options : Options) (action : Action) :
    m Outcome := do
  match ← (loadSettings disk options).run with
  | .error f => return ⟨"", some f⟩
  | .ok s => action.run disk s

end Wikilink.Command
