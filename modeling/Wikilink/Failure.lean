/-
# Failure -- why a command ended

A failure is a cause inside the activities that it cut short.  It is told from the
outermost activity inwards.
-/
import Wikilink.Error
import Wikilink.Records

namespace Wikilink

set_option autoImplicit false

/-- What made a command fail. -/
inductive Cause where
  /-- A file or the input cannot be read. -/
  | unreadable (reason : String)
  /-- A text is no settings file. -/
  | malformedSettings
  /-- A text is no list of records. -/
  | malformedRecords
  | faultyRecords (fault : RecordFault)
  | failed (e : Error)
  /-- The settings have faults. -/
  | faultySettings (count : Nat)
  /-- A text names nothing to resolve. -/
  | notASmartlink (text : String)
  deriving DecidableEq, Repr

/-- The wording of a cause. -/
def Cause.message : Cause → String
  | unreadable reason => reason
  | malformedSettings => "invalid TOML"
  | malformedRecords => "invalid JSON"
  | faultyRecords fault => fault.message
  | failed e => e.message
  | faultySettings count => s!"{count} configuration error(s)"
  | notASmartlink text => s!"'{text}' is not a smartlink"

/-- A cause and the activities around it, the outermost first. -/
structure Failure where
  activities : List String := []
  cause : Cause
  deriving DecidableEq, Repr

namespace Failure

/-- The failure of one more activity around. -/
def within (activity : String) (f : Failure) : Failure :=
  { f with activities := activity :: f.activities }

/-- A failure as it is shown. -/
def text (f : Failure) : String :=
  match f.activities ++ [f.cause.message] with
  | [] => ""
  | [only] => s!"Error: {only}"
  | outer :: inner =>
      s!"Error: {outer}\n\nCaused by:\n" ++
        "\n".intercalate (inner.zipIdx.map fun (message, i) =>
          if inner.length = 1 then s!"    {message}"
          else Text.padStart 5 (toString i) ++ s!": {message}")

end Failure

/-- Actions that can end in a failure. -/
abbrev Attempt (m : Type → Type) := ExceptT Failure m

namespace Attempt

variable {m : Type → Type} [Monad m] {α : Type}

/-- The action as part of an activity. -/
def within (activity : String) (action : Attempt m α) : Attempt m α :=
  ExceptT.mk do
    return (← action.run).mapError (Failure.within activity)

/-- The value of a result; its error ends the action. -/
def ofExcept {ε : Type} (cause : ε → Cause) (result : Except ε α) : Attempt m α :=
  ExceptT.mk (pure (result.mapError fun e => ⟨[], cause e⟩))

end Attempt

end Wikilink
