/-
# Proofs.Command.Opening -- opening an index again and again

Opening an index puts nothing in the place of what is there (`extends_openStored`), so
neither do many openings, of that index and of others (`extends_afterOpening`).  Where an
index is stored, its directory is there as well: the opening comes to nothing but the check
of the version, and leaves the whole tree as it was (`on_openStored_of_stored`).
-/
import Wikilink.Proofs.Command.Reset
import Wikilink.Proofs.Disk.Parent
import Wikilink.Proofs.Index.Version

namespace Wikilink

set_option autoImplicit false

/-! ## Trees that grow -/

namespace Files

variable {f g : Files} {place : Place} {node : FileNode} {path : String}

/-- What is found in the first tree is found in the second as well. -/
def Extends (f g : Files) : Prop :=
  ∀ path node, f.at? path = .ok node → g.at? path = .ok node

theorem Extends.refl (f : Files) : f.Extends f := fun _ _ found => found

theorem Extends.trans {h : Files} (first : f.Extends g) (second : g.Extends h) : f.Extends h :=
  fun path node found => second path node (first path node found)

/-- What is put where nothing was does not bend the way to anything else. -/
theorem extends_put (free : f.node? place = none) : f.Extends (f.put place node) := by
  have file : f.isDirectory place = false := by
    rw [← Bool.not_eq_true, ← node?_eq_directory_iff, free]
    simp
  intro path found there
  obtain ⟨goal, leads, here⟩ := at?_eq_ok_iff.mp there
  have apart : goal ≠ place := by
    rintro rfl
    rw [free] at here
    cases here
  refine at?_eq_ok_iff.mpr ⟨goal, place?_put file leads, ?_⟩
  rw [node?_put (ne_root_of_isDirectory file), if_neg apart, here]

theorem extends_makeDirectory (path : String) : f.Extends (f.makeDirectory path).1 :=
  makeDirectory_induction (.refl f) (fun grown free => grown.trans (extends_put free)) path

/-- An index that is stored is stored in every tree that has what the first one has. -/
theorem Extends.readIndex {s : StoredIndex} (grown : f.Extends g)
    (stored : f.readIndex path = .stored s) : g.readIndex path = .stored s := by
  unfold Files.readIndex at stored ⊢
  cases there : f.at? path with
  | error fault => rw [there] at stored; cases stored
  | ok node =>
      rw [there] at stored
      rw [grown path node there]
      exact stored

end Files

/-! ## Openings -/

namespace Command

open StoredIndex (Numeral versionLimit currentVersion)

variable {f : Files} {path : String} {s : StoredIndex}

theorem extends_openFile (path : String) : f.Extends ((openFile path).on f).2 := by
  rcases on_openFile_cases path f with ⟨s, -, done⟩ | ⟨place, read, leads, done⟩ | ⟨-, e, done⟩
  · rw [done]
    exact .refl f
  · rw [done]
    exact Files.extends_put (Files.node?_of_absent read leads)
  · rw [done]
    exact .refl f

theorem extends_withDirectory (path : String) : f.Extends (withDirectory path f).1 := by
  unfold withDirectory
  split
  · exact .refl f
  · exact Files.extends_makeDirectory _

/-- **An opening puts nothing in the place of what is there.** -/
theorem extends_openStored (path : String) :
    f.Extends ((openStored Files.disk path).on f).2 := by
  have grown := extends_withDirectory (f := f) path
  rw [on_openStored]
  cases (withDirectory path f).2 with
  | error fault => exact grown
  | ok _ => exact grown.trans (extends_openFile path)

/-- The tree after openings at these paths, whatever each of them comes to. -/
def afterOpening (paths : List String) (f : Files) : Files :=
  paths.foldl (fun f path => ((openStored Files.disk path).on f).2) f

theorem extends_afterOpening (paths : List String) : f.Extends (afterOpening paths f) := by
  induction paths generalizing f with
  | nil => exact .refl f
  | cons path paths ih => exact (extends_openStored path).trans ih

/-- Where a path leads anywhere, no directory is left to be made. -/
theorem withDirectory_of_place {place : Place} (leads : f.place? path = .ok place) :
    withDirectory path f = (f, .ok ()) := by
  unfold withDirectory
  split
  · rfl
  · rename_i directory parent
    exact Files.makeDirectory_parent leads parent

/-- Opening an index that is stored only checks its version. -/
theorem on_openStored_of_stored (stored : f.readIndex path = .stored s) :
    (openStored Files.disk path).on f =
      ((s.open?.map fun _ => s).mapError fun e => ⟨[], .failed e⟩, f) := by
  obtain ⟨place, leads⟩ := Files.filePlace?_of_stored stored
  rw [on_openStored, withDirectory_of_place (Files.filePlace?_eq_ok_iff.mp leads).1]
  simp only
  rcases on_openFile_cases path f with ⟨t, read, done⟩ | ⟨_, read, -⟩ | ⟨other, -⟩
  · rw [stored] at read
    cases read
    exact done
  · rw [stored] at read
    cases read
  · exact absurd stored (other s)

/-- **An index is opened by its version, if that can be read, and keeps its rows.**  Let an index
with some text as its version be stored at a path, and let any openings come before, there or
elsewhere, whether they succeed or fail.  The index is then still stored there with its rows and its
version, and to open it leaves the whole tree as it is.  If the text writes a number below the
limit, it opens exactly with the current version, and is refused with both versions otherwise.  If
the text writes no such number, it opens, whatever the text is. -/
theorem openStored_afterOpening {text : String} (stored : f.readIndex path = .stored s)
    (version : s.version = some text) (paths : List String) :
    (afterOpening paths f).readIndex path = .stored s ∧
    ((openStored Files.disk path).on (afterOpening paths f)).2 = afterOpening paths f ∧
    (∀ n, Numeral text n → n < versionLimit →
      ((openStored Files.disk path).on (afterOpening paths f)).1 =
        if n = currentVersion then .ok s
        else .error ⟨[], .failed (.refused (.layoutVersion n currentVersion))⟩) ∧
    ((∀ n, Numeral text n → versionLimit ≤ n) →
      ((openStored Files.disk path).on (afterOpening paths f)).1 = .ok s) := by
  have kept := (extends_afterOpening paths).readIndex stored
  rw [on_openStored_of_stored kept]
  refine ⟨kept, rfl, fun n numeral small => ?_, fun unread => ?_⟩
  · rw [StoredIndex.open?_of_numeral version numeral small]
    split <;> rfl
  · rw [StoredIndex.open?_of_unread version unread]
    rfl

/-- An index of one film, with this text as its version. -/
def filmIndex (version : String) : StoredIndex :=
  ⟨⟨[⟨"madmax", ⟨"movie", 1⟩⟩], [⟨"madmax", ⟨"movie", 1⟩⟩]⟩, some version⟩

/-- A tree with that index. -/
def filmFiles (version : String) : Files where
  nodes := [(["var"], .directory), (["var", "films"], .index (filmIndex version))]

theorem readIndex_filmFiles (version : String) :
    (filmFiles version).readIndex "/var/films" = .stored (filmIndex version) := rfl

/-- Before each opening the index was opened already, and another one was made beside it. -/
theorem openStored_afterOpening_films :
    ((openStored Files.disk "/var/films").on
      (afterOpening ["/var/films", "/var/events"] (filmFiles "+1"))).1 = .ok (filmIndex "+1") ∧
    ((openStored Files.disk "/var/films").on
      (afterOpening ["/var/films", "/var/events"] (filmFiles "2"))).1 =
        .error ⟨[], .failed (.refused (.layoutVersion 2 1))⟩ ∧
    ((openStored Files.disk "/var/films").on
      (afterOpening ["/var/films", "/var/events"] (filmFiles ""))).1 = .ok (filmIndex "") := by
  have current : Numeral "+1" 1 :=
    ⟨['1'], .inr rfl, by decide, List.all_eq_true.mp (by decide), rfl⟩
  have other : Numeral "2" 2 :=
    ⟨['2'], .inl rfl, by decide, List.all_eq_true.mp (by decide), rfl⟩
  have unread : ∀ n, Numeral "" n → versionLimit ≤ n := by
    rintro n ⟨digits, rfl | signed, filled, -⟩
    · exact absurd rfl filled
    · cases signed
  obtain ⟨-, -, opened, -⟩ :=
    openStored_afterOpening (readIndex_filmFiles "+1") rfl ["/var/films", "/var/events"]
  obtain ⟨-, -, refused, -⟩ :=
    openStored_afterOpening (readIndex_filmFiles "2") rfl ["/var/films", "/var/events"]
  obtain ⟨-, -, -, opened'⟩ :=
    openStored_afterOpening (readIndex_filmFiles "") rfl ["/var/films", "/var/events"]
  exact ⟨opened 1 current (by decide), refused 2 other (by decide), opened' unread⟩

/-- The version of this index is a number, and another one than the current; the number is too
large, and the index opens. -/
theorem too_large_version_opens :
    Numeral "4294967296" 4294967296 ∧ 4294967296 ≠ currentVersion ∧
    ((openStored Files.disk "/var/films").on (filmFiles "4294967296")).1 =
      .ok (filmIndex "4294967296") := by
  have numeral : Numeral "4294967296" 4294967296 :=
    ⟨"4294967296".toList, .inl rfl, by decide, List.all_eq_true.mp (by decide), rfl⟩
  refine ⟨numeral, by decide, ?_⟩
  have opens : (filmIndex "4294967296").open? = .ok (filmIndex "4294967296").index := by rfl
  rw [on_openStored_of_stored (readIndex_filmFiles _), opens]
  rfl

end Command

end Wikilink
