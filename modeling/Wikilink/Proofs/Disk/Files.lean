/-
# Proofs.Disk.Files -- a place that holds a file can be written again

The walk along a path goes through directories only, so it does not meet a file, and
what is written over a file, or where nothing was, does not bend any other walk
(`walk_put`).  Where an index was read it can therefore be written
(`filePlace?_of_at?`), and what was written is read back (`readIndex_put`).

Making a directory is a run of steps that each put an empty directory at a free place,
so what every such step keeps is kept by the whole (`makeDirectory_induction`), the rows
of every index among it (`sameRows_makeDirectory`).
-/
import Wikilink.Disk.Files

namespace Wikilink.Files

set_option autoImplicit false

variable {f g : Files} {place other : Place} {node : FileNode} {path : String}

/-! ## Nodes -/

theorem lookup_filter_ne (nodes : List (Place × FileNode)) (apart : other ≠ place) :
    List.lookup other (nodes.filter fun n => n.1 ≠ place) = List.lookup other nodes := by
  induction nodes with
  | nil => rfl
  | cons n nodes ih =>
      obtain ⟨at', node⟩ := n
      by_cases dropped : at' = place
      · subst dropped
        have differ : (other == at') = false := by simpa using apart
        rw [List.filter_cons_of_neg (by simp), ih, List.lookup_cons, differ]
      · rw [List.filter_cons_of_pos (by simpa using dropped), List.lookup_cons,
          List.lookup_cons, ih]

theorem node?_put (below : place ≠ []) :
    (f.put place node).node? other = if other = place then some node else f.node? other := by
  unfold node? put
  by_cases root : other = []
  · subst root
    rw [if_pos rfl, if_neg (Ne.symm below), if_pos rfl]
  · rw [if_neg root, if_neg root]
    by_cases same : other = place
    · rw [if_pos same, same, List.lookup_cons_self]
    · have differ : (other == place) = false := by simpa using same
      rw [if_neg same, List.lookup_cons, differ]
      exact lookup_filter_ne f.nodes same

theorem ne_root_of_isDirectory (file : f.isDirectory place = false) : place ≠ [] := by
  rintro rfl
  simp [isDirectory, node?] at file

theorem node?_eq_directory_iff : f.node? place = some .directory ↔ f.isDirectory place = true := by
  unfold isDirectory
  cases f.node? place with
  | none => simp
  | some node => cases node <;> simp

/-! ## Walks -/

/-- A walk goes on from a directory, under a name that is short enough. -/
theorem walk_cons_eq_ok_iff {start goal : Place} {name : String} {rest : List String} :
    f.walk start (name :: rest) = .ok goal ↔ f.node? start = some .directory ∧
      ¬ nameLimit < name.utf8ByteSize ∧ f.walk (step start name) rest = .ok goal := by
  rw [walk]
  cases f.node? start with
  | none => simp
  | some here =>
      cases here with
      | directory =>
          by_cases long : nameLimit < name.utf8ByteSize
          · simp [long]
          · simp [long]
      | text content => simp
      | index content => simp

/-- What is put where no directory is does not bend a walk. -/
theorem walk_put (file : f.isDirectory place = false) {start goal : Place} {names : List String}
    (walked : f.walk start names = .ok goal) : (f.put place node).walk start names = .ok goal := by
  induction names generalizing start with
  | nil => exact walked
  | cons name rest ih =>
      obtain ⟨here, short, walked⟩ := walk_cons_eq_ok_iff.mp walked
      have apart : start ≠ place := by
        rintro rfl
        rw [node?_eq_directory_iff, file] at here
        cases here
      refine walk_cons_eq_ok_iff.mpr ⟨?_, short, ih walked⟩
      rw [node?_put (ne_root_of_isDirectory file), if_neg apart, here]

/-- A walk whose last name is empty ends at a directory. -/
theorem node?_of_walk_slash {start goal : Place} {names : List String}
    (walked : f.walk start (names ++ [""]) = .ok goal) : f.node? goal = some .directory := by
  induction names generalizing start with
  | nil =>
      obtain ⟨here, -, walked⟩ := walk_cons_eq_ok_iff.mp walked
      cases walked
      exact here
  | cons name rest ih => exact ih (walk_cons_eq_ok_iff.mp walked).2.2

/-! ## Places of files -/

/-- The names of a path without the empty ones at its end. -/
def keptNames (path : String) : List String :=
  ((names path).reverse.dropWhile (· = "")).reverse

theorem keptNames_of_length (whole : ¬ (keptNames path).length < (names path).length) :
    keptNames path = names path := by
  unfold keptNames at *
  rw [List.length_reverse] at whole
  have suffix := List.dropWhile_suffix (· = "") (l := (names path).reverse)
  have all := suffix.eq_of_length (by
    have := suffix.length_le
    rw [List.length_reverse] at *
    omega)
  rw [all, List.reverse_reverse]

/-- Without a name to leave out, a path does not end in an empty name. -/
theorem keptNames_of_file {start goal : Place} (walked : f.walk start (names path) = .ok goal)
    (file : f.isDirectory goal = false) : keptNames path = names path := by
  unfold keptNames
  cases backwards : (names path).reverse with
  | nil =>
      rw [← List.reverse_reverse (names path), backwards]
      rfl
  | cons last rest =>
      have whole : names path = rest.reverse ++ [last] := by
        rw [← List.reverse_reverse (names path), backwards, List.reverse_cons]
      have named : last ≠ "" := by
        rintro rfl
        rw [whole] at walked
        have directory := node?_eq_directory_iff.mp (node?_of_walk_slash walked)
        rw [file] at directory
        cases directory
      rw [List.dropWhile_cons_of_neg (by simpa using named), ← backwards, List.reverse_reverse]

theorem filePlace?_of_walk {goal : Place} (sound : pathFault? path = none)
    (walked : f.walk (f.start path) (keptNames path) = .ok goal) :
    f.filePlace? path =
      if (keptNames path).length < (names path).length ∨ f.isDirectory goal = true then
        .error .isDirectory
      else .ok goal := by
  unfold filePlace?
  rw [sound]
  change (f.walk (f.start path) (keptNames path) >>= fun place => _) = _
  rw [walked]
  rfl

/-- A file may stand where a path leads, unless it leads to a directory. -/
theorem filePlace?_eq_ok_iff :
    f.filePlace? path = .ok place ↔ f.place? path = .ok place ∧ f.isDirectory place = false := by
  cases sound : pathFault? path with
  | some fault =>
      simp [filePlace?, place?, sound, throw, throwThe, MonadExceptOf.throw, bind, Except.bind]
  | none =>
      have leads : f.place? path = f.walk (f.start path) (names path) := by rw [place?, sound]
      rw [leads]
      constructor
      · intro found
        cases walked : f.walk (f.start path) (keptNames path) with
        | error fault =>
            unfold filePlace? at found
            rw [sound] at found
            change (f.walk (f.start path) (keptNames path) >>= fun place => _) = _ at found
            rw [walked] at found
            cases found
        | ok goal =>
            rw [filePlace?_of_walk sound walked] at found
            split at found
            · cases found
            · rename_i file
              rw [not_or, Bool.not_eq_true] at file
              cases found
              rw [keptNames_of_length file.1] at walked
              exact ⟨walked, file.2⟩
      · rintro ⟨walked, file⟩
        have whole := keptNames_of_file walked file
        rw [← whole] at walked
        rw [filePlace?_of_walk sound walked, whole, if_neg]
        simp [file]

/-! ## Reading and writing -/

/-- What is read at a path stands at its place. -/
theorem at?_eq_ok_iff : f.at? path = .ok node ↔ ∃ place, f.place? path = .ok place ∧
    f.node? place = some node := by
  unfold at?
  cases f.place? path with
  | error fault => simp [bind, Except.bind]
  | ok place =>
      cases here : f.node? place with
      | none => simp [bind, Except.bind, here, throw, throwThe, MonadExceptOf.throw]
      | some found => simp [bind, Except.bind, here, pure, Except.pure]

/-- A file that is there can be written over. -/
theorem filePlace?_of_at? (found : f.at? path = .ok node) (file : node ≠ .directory) :
    ∃ place, f.filePlace? path = .ok place ∧ f.node? place = some node := by
  obtain ⟨place, leads, here⟩ := at?_eq_ok_iff.mp found
  refine ⟨place, filePlace?_eq_ok_iff.mpr ⟨leads, ?_⟩, here⟩
  rw [← Bool.not_eq_true, ← node?_eq_directory_iff, here, Option.some.injEq]
  exact file

/-- What is put where no directory is leaves every path as it leads. -/
theorem place?_put (file : f.isDirectory place = false) (leads : f.place? path = .ok other) :
    (f.put place node).place? path = .ok other := by
  unfold place? at leads ⊢
  cases fault : pathFault? path with
  | some fault' => rw [fault] at leads; cases leads
  | none =>
      rw [fault] at leads
      exact walk_put file leads

/-- An index that is there can be written over. -/
theorem filePlace?_of_stored {content : StoredIndex} (found : f.readIndex path = .stored content) :
    ∃ place, f.filePlace? path = .ok place := by
  unfold readIndex at found
  split at found
  · cases found
  · rename_i stored there
    exact (filePlace?_of_at? there (by simp)).imp fun _ h => h.1
  · rename_i there
    exact (filePlace?_of_at? there (by simp)).imp fun _ h => h.1
  · cases found
  · cases found

/-- Where nothing can be read but a file can be written, there is none. -/
theorem node?_of_absent (absent : f.readIndex path = .absent)
    (leads : f.filePlace? path = .ok place) : f.node? place = none := by
  cases here : f.node? place with
  | none => rfl
  | some node =>
      have found : f.at? path = .ok node :=
        at?_eq_ok_iff.mpr ⟨place, (filePlace?_eq_ok_iff.mp leads).1, here⟩
      unfold readIndex at absent
      rw [found] at absent
      split at absent <;> simp_all

/-! ## Making directories -/

/-- Directories are made one after the other, each where nothing was. -/
theorem makeAlong_induction {motive : Files → Prop} {names : List String} (start : motive f)
    (made : ∀ {g : Files} {place : Place}, motive g → g.node? place = none →
      motive (g.put place .directory)) : motive (f.makeAlong place names).1 := by
  induction names generalizing f place with
  | nil => exact start
  | cons name rest ih =>
      rw [makeAlong]
      split
      · exact start
      · cases here : f.node? (step place name) with
        | none => exact ih (made start here)
        | some node =>
            cases node with
            | directory => exact ih start
            | text content => exact start
            | index content => exact start

theorem makeDirectory_induction {motive : Files → Prop} (start : motive f)
    (made : ∀ {g : Files} {place : Place}, motive g → g.node? place = none →
      motive (g.put place .directory)) (path : String) : motive (f.makeDirectory path).1 := by
  unfold makeDirectory
  split
  · exact start
  · split
    · exact start
    · exact makeAlong_induction start made

/-! ## Rows -/

/-- The index at a place, without rows if there is none. -/
def indexAt (f : Files) (place : Place) : Index :=
  match f.node? place with
  | some (.index content) => content.index
  | _ => .empty

/-- The indexes of both trees are the same. -/
def SameRows (f g : Files) : Prop :=
  ∀ place, g.indexAt place = f.indexAt place

theorem SameRows.refl (f : Files) : f.SameRows f := fun _ => rfl

theorem SameRows.trans {h : Files} (first : f.SameRows g) (second : g.SameRows h) : f.SameRows h :=
  fun place => (second place).trans (first place)

end Wikilink.Files
