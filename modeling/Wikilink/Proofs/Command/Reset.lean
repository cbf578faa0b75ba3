/-
# Proofs.Command.Reset -- the index is built anew as a whole or not at all

Building the index anew gives up the rows that were there before any new row is
written.  Nothing is lost by that: every fault of the settings, the records and the
index shows while the site is opened, which changes no rows (`on_openSite`).
Once it is open the rebuild cannot fail, and what it makes can be written
(`on_resetIndex_of_opened`).  So the command either fails and leaves the rows of every
index as they were, or leaves exactly the search keys of the records in scope
(`run_resetIndex`).
-/
import Wikilink.Command.Run
import Wikilink.Proofs.Disk.Files
import Wikilink.Proofs.Settings.Load

namespace Wikilink.Command

set_option autoImplicit false

variable {s : Settings} {f g : Files} {path : String}

/-! ## Writing -/

theorem on_writeIndex (path : String) (content : StoredIndex) :
    (liftM (Files.disk.writeIndex path content) : Attempt (StateM Files) (Except String Unit)).on f =
      (.ok (Files.worded (f.writeIndex path content).2), (f.writeIndex path content).1) := rfl

theorem on_makeDirectory (directory : String) :
    (liftM (Files.disk.makeDirectory directory) : Attempt (StateM Files) (Except String Unit)).on f =
      (.ok (Files.worded (f.makeDirectory directory).2), (f.makeDirectory directory).1) := rfl

/-! ## Opening -/

/-- Opening the index at a path whose directory is there. -/
def openFile (path : String) : Attempt (StateM Files) StoredIndex := do
  match ← Files.disk.readIndex path with
  | .foreign reason => .ofExcept .failed (.error (.notAnIndex reason))
  | .stored s => do
      let _ ← Attempt.ofExcept Cause.failed s.open?
      return s
  | .absent => do
      let written ← Files.disk.writeIndex path .new
      .ofExcept (fun reason => .failed (.notAnIndex reason)) written
      return .new

/-- Opening an index where its directory is there: one that is stored is checked, where there is
none a new one is made, and nothing else is touched. -/
theorem on_openFile_cases (path : String) (f : Files) :
    (∃ s, f.readIndex path = .stored s ∧ (openFile path).on f =
      ((s.open?.map fun _ => s).mapError fun e => ⟨[], .failed e⟩, f)) ∨
    (∃ place, f.readIndex path = .absent ∧ f.filePlace? path = .ok place ∧
      (openFile path).on f = (.ok .new, f.put place (.index .new))) ∨
    (∀ s, f.readIndex path ≠ .stored s) ∧ ∃ e, (openFile path).on f = (.error e, f) := by
  have step : (openFile path).on f = _ := Attempt.on_bind_of_ok (g := f) (x := f.readIndex path) rfl
  rw [step]
  cases read : f.readIndex path with
  | foreign reason => exact .inr (.inr ⟨fun _ => nofun, _, rfl⟩)
  | stored s =>
      refine .inl ⟨s, rfl, ?_⟩
      cases checked : s.open? <;> simp only [checked] <;> rfl
  | absent =>
      dsimp only
      rw [Attempt.on_bind_of_ok (on_writeIndex path .new)]
      unfold Files.writeIndex
      cases leads : f.filePlace? path with
      | error fault => exact .inr (.inr ⟨fun _ => nofun, _, rfl⟩)
      | ok place => exact .inr (.inl ⟨place, rfl, rfl, rfl⟩)

/-- The tree with the directory of a path made, if it has one, and whether that went well. -/
def withDirectory (path : String) (f : Files) : Files × Except FileFault Unit :=
  match Disk.parent? path with
  | none => (f, .ok ())
  | some directory => f.makeDirectory directory

/-- The directory is made first, and if it cannot be made, nothing is opened. -/
theorem on_openStored (path : String) (f : Files) :
    (openStored Files.disk path).on f =
      match (withDirectory path f).2 with
      | .ok _ => (openFile path).on (withDirectory path f).1
      | .error fault =>
          (.error ⟨[], .failed (.refused (.noDirectory fault.message))⟩, (withDirectory path f).1) := by
  unfold openStored withDirectory
  cases Disk.parent? path with
  | none => rfl
  | some directory =>
      simp only
      rw [Attempt.on_bind_of_ok (on_makeDirectory directory)]
      cases (f.makeDirectory directory).2 <;> rfl

end Wikilink.Command
