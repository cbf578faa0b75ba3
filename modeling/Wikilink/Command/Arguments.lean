/-
# Command.Arguments -- reading a command line

Two options, the settings file and the index, may stand before or after the name
of the command; what stands after it counts more.  A value follows its option or
an equals sign, is not empty, and does not look like an option itself.  Two dashes
end the options.  Words are read from the left, and the first fault or the first
request for help decides; only the value that stands right before the name of the
command is looked at after the words behind that name.
-/

namespace Wikilink.Command

set_option autoImplicit false

/-! ## What can be asked for -/

inductive Action where
  | resetIndex
  /-- Replace the mentions of a file, or of the input. -/
  | render (file : Option String)
  /-- Tell what one smartlink leads to. -/
  | resolve (link : String)
  | stats
  | check
  deriving DecidableEq, Repr

structure Options where
  /-- The path of the settings file. -/
  config : Option String := none
  /-- The path of the index, in place of the one in the settings. -/
  index : Option String := none
  deriving DecidableEq, Repr

/-- What a command line asks for. -/
inductive Request where
  | run (options : Options) (action : Action)
  | help
  | version
  deriving DecidableEq, Repr

/-! ## Words -/

/-- A word of a command line by its form. -/
inductive Word where
  /-- A long option, with the value behind its equals sign. -/
  | long (name : String) (value : Option String)
  /-- Short options, of which the first decides. -/
  | short (first : Char)
  /-- The end of the options. -/
  | escape
  | plain (text : String)
  deriving DecidableEq, Repr

def Word.of (word : String) : Word :=
  match word.toList with
  | ['-', '-'] => .escape
  | '-' :: '-' :: cs =>
      let name := String.ofList (cs.takeWhile (· ≠ '='))
      match cs.dropWhile (· ≠ '=') with
      | [] => .long name none
      | _ :: value => .long name (some (String.ofList value))
  | '-' :: c :: _ => .short c
  | _ => .plain word

/-! ## Options -/

/-- The name of an option that takes a value. -/
inductive Key where
  | config
  | index
  deriving DecidableEq, Repr

def Key.of? (name : String) : Option Key :=
  if name = "config" then some .config
  else if name = "index" then some .index
  else none

/-- The options with one more; an option is given once and is not empty. -/
def Options.set? (o : Options) (key : Key) (value : String) : Option Options :=
  if value = "" then none
  else
    match key with
    | .config => if o.config.isSome then none else some { o with config := some value }
    | .index => if o.index.isSome then none else some { o with index := some value }

/-- The options that count where those of two places differ. -/
def Options.over (inner outer : Options) : Options :=
  ⟨inner.config.or outer.config, inner.index.or outer.index⟩

/-- The options read so far. -/
structure Progress where
  options : Options := {}
  /-- An option not taken up yet, with its value if that has been read. -/
  pending : Option (Key × Option String) := none
  deriving DecidableEq, Repr

namespace Progress

/-- The options with the pending one taken up. -/
def settle (p : Progress) : Option Options :=
  match p.pending with
  | none => some p.options
  | some (key, some value) => p.options.set? key value
  | some (_, none) => none

/-- Whether the next word has to be a value. -/
def awaitsValue (p : Progress) : Bool :=
  match p.pending with
  | some (_, none) => true
  | _ => false

/-- The progress after a plain word, which is the awaited value. -/
def withValue (p : Progress) (value : String) : Progress :=
  { p with pending := p.pending.map fun (key, _) => (key, some value) }

/-- What a long option makes of the progress: help is asked for, or an option is begun. -/
def long? (p : Progress) (name : String) (value : Option String) : Option (Progress ⊕ Request) := do
  let options ← p.settle
  if name = "help" then
    guard value.isNone
    return .inr .help
  let key ← Key.of? name
  match value with
  | none => return .inl ⟨options, some (key, none)⟩
  | some value => return .inl ⟨← options.set? key value, none⟩

/-- What short options make of the progress. -/
def short? (p : Progress) (first : Char) : Option Request := do
  let _ ← p.settle
  guard (first = 'h')
  return .help

end Progress

/-! ## Behind the name of a command -/

inductive Verb where
  | resetIndex
  | render
  | resolve
  | stats
  | check
  deriving DecidableEq, Repr

namespace Verb

def of? (name : String) : Option Verb :=
  List.lookup name
    [("reset-index", resetIndex), ("render", render), ("resolve", resolve), ("stats", stats),
      ("check", check)]

/-- Whether a command takes a word of its own. -/
def takes (verb : Verb) (word : String) : Bool :=
  match verb with
  | render => word ≠ ""
  | resolve => true
  | _ => false

def action? (verb : Verb) (word : Option String) : Option Action :=
  match verb, word with
  | resetIndex, _ => some .resetIndex
  | render, file => some (.render file)
  | resolve, some link => some (.resolve link)
  | resolve, none => none
  | stats, _ => some .stats
  | check, _ => some .check

end Verb

/-- Reads the words behind the name of a command; `escaped` tells whether the options have
ended, and `own` is the command's own word. -/
def behind (verb : Verb) (p : Progress) (escaped : Bool) (own : Option String) :
    List String → Option Request
  | [] => do return .run (← p.settle) (← verb.action? own)
  | word :: rest =>
      let form := if escaped then .plain word else Word.of word
      match p.awaitsValue, form with
      | true, .plain value =>
          if escaped then none else behind verb (p.withValue value) escaped own rest
      | true, _ => none
      | false, .plain text =>
          if own.isNone ∧ verb.takes text then behind verb p escaped (some text) rest else none
      | false, .escape => behind verb p true own rest
      | false, .short first => p.short? first
      | false, .long name value => do
          match ← p.long? name value with
          | .inl p => behind verb p escaped own rest
          | .inr request => return request

/-! ## Before the name of a command -/

/-- Help on a command, if the words name one. -/
def helpOn : List String → Option Request
  | [] => some .help
  | [name] => if name = "help" ∨ (Verb.of? name).isSome then some .help else none
  | _ => none

/-- Reads the words before the name of a command. -/
def before (p : Progress) : List String → Option Request
  | [] => none
  | word :: rest =>
      match p.awaitsValue, Word.of word with
      | true, .plain value => before (p.withValue value) rest
      | true, _ => none
      | false, .escape => none
      | false, .short first =>
          if first = 'V' then p.settle.map fun _ => .version else p.short? first
      | false, .long name value =>
          if name = "version" then
            if value.isNone then p.settle.map fun _ => .version else none
          else do
            match ← p.long? name value with
            | .inl p => before p rest
            | .inr request => return request
      | false, .plain name =>
          if name = "help" then helpOn rest
          else do
            match ← behind (← Verb.of? name) {} false none rest with
            | .run inner action => return .run (inner.over (← p.settle)) action
            | request => return request

/-- What a command line asks for; `none` if it is malformed. -/
def request? (words : List String) : Option Request :=
  before {} words

end Wikilink.Command
