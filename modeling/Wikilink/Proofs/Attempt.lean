/-
# Proofs.Attempt -- attempts in a tree of files

An attempt comes to a result or a failure and leaves a tree.  What it does first
decides what there is for the rest (`on_bind_of_ok`, `on_bind_of_error`), and an
attempt made of parts that only read leaves the tree as it was (`Reads.bind`).
-/
import Wikilink.Disk.Files
import Wikilink.Failure

namespace Wikilink.Attempt

set_option autoImplicit false

variable {α β : Type} {action : Attempt (StateM Files) α}
  {next : α → Attempt (StateM Files) β} {f g : Files}

/-- What an attempt comes to in a tree of files, and the tree that it leaves. -/
def on {α : Type} (action : Attempt (StateM Files) α) (f : Files) : Except Failure α × Files :=
  action.run f

/-! ## Parts -/

@[simp] theorem on_within (activity : String) :
    (within activity action).on f =
      ((action.on f).1.mapError (Failure.within activity), (action.on f).2) := rfl

theorem on_bind_of_ok {x : α} (done : action.on f = (.ok x, g)) :
    (action >>= next).on f = (next x).on g := by
  unfold on at *
  change ExceptT.bindCont next (action.run f).1 (action.run f).2 = _
  rw [done]
  rfl

theorem on_bind_of_error {e : Failure} (failed : action.on f = (.error e, g)) :
    (action >>= next).on f = (.error e, g) := by
  unfold on at *
  change ExceptT.bindCont next (action.run f).1 (action.run f).2 = _
  rw [failed]
  rfl

/-- The whole succeeds only if both parts do. -/
theorem of_on_bind_eq_ok {y : β} {h : Files} (done : (action >>= next).on f = (.ok y, h)) :
    ∃ x g, action.on f = (.ok x, g) ∧ (next x).on g = (.ok y, h) := by
  cases first : action.on f with
  | mk result g =>
      cases result with
      | error e =>
          rw [on_bind_of_error first] at done
          cases done
      | ok x =>
          rw [on_bind_of_ok first] at done
          exact ⟨x, g, rfl, done⟩

theorem of_on_within_eq_ok {activity : String} {x : α}
    (done : (within activity action).on f = (.ok x, g)) : action.on f = (.ok x, g) := by
  rw [on_within] at done
  cases first : action.on f with
  | mk result g' =>
      rw [first] at done
      cases result with
      | error e => cases done
      | ok x' => exact done

theorem of_on_ofExcept_eq_ok {ε : Type} {cause : ε → Cause} {result : Except ε α} {x : α}
    (done : (ofExcept cause result : Attempt (StateM Files) α).on f = (.ok x, g)) :
    result = .ok x ∧ g = f := by
  cases result with
  | error e => cases done
  | ok x' => cases done; exact ⟨rfl, rfl⟩

/-! ## Reading -/

/-- The attempt leaves every tree as it was. -/
def Reads {α : Type} (action : Attempt (StateM Files) α) : Prop :=
  ∀ f, (action.on f).2 = f

theorem Reads.bind (first : action.Reads) (rest : ∀ x, (next x).Reads) :
    (action >>= next).Reads := by
  intro f
  have unchanged := first f
  cases done : action.on f with
  | mk result g =>
      rw [done] at unchanged
      cases unchanged
      cases result with
      | error e => rw [on_bind_of_error done]
      | ok x => rw [on_bind_of_ok done, rest x]

theorem Reads.within {activity : String} (reads : action.Reads) :
    (Attempt.within activity action).Reads := reads

end Wikilink.Attempt
