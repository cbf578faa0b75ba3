/-
# Proofs.Settings.Load -- the site that settings come to

Settings are loaded without a trace in the files (`reads_loadSite`).  A site that is
loaded has one link type for each content type of the settings, made of the records
as they stand in the files, and all of them were registered (`assembled_loadSite`).
So the rows that are due to it are the search keys of the records in scope
(`Assembled.rowDue_iff`).
-/
import Wikilink.Proofs.Attempt
import Wikilink.Proofs.Maintenance.Rebuild
import Wikilink.Proofs.Records
import Wikilink.Proofs.Registry.Runs
import Wikilink.Settings.Load

namespace Wikilink.Settings

set_option autoImplicit false

variable {s : Settings} {f g : Files} {t : TypeSettings}

/-! ## Reading -/

theorem reads_readFile (path : String) : (readFile Files.disk path).Reads := fun _ => rfl

theorem of_on_readFile_eq_ok {path text : String}
    (read : (readFile Files.disk path).on f = (.ok text, g)) : f.readText path = .ok text := by
  change (((Files.worded (f.readText path)).mapError fun reason =>
    (⟨[], .unreadable reason⟩ : Failure)).mapError (Failure.within s!"Failed to read {path}"), f) =
      _ at read
  cases found : f.readText path with
  | error fault =>
      rw [found] at read
      cases read
  | ok content =>
      rw [found] at read
      cases read
      rfl

theorem reads_loadType (s : Settings) (t : TypeSettings) : (s.loadType Files.disk t).Reads := by
  refine Attempt.Reads.within ((reads_readFile _).bind fun text => ?_)
  cases (Json.parse? text).bind Json.array? <;> exact fun _ => rfl

theorem reads_addType (s : Settings) (site : Site Nat) (t : TypeSettings) (position : Nat) :
    (s.addType Files.disk site t position).Reads :=
  (reads_loadType s t).bind fun _ => fun _ => rfl

/-- The records of a content type as they stand in the files. -/
def RecordsIn (s : Settings) (f : Files) (t : TypeSettings) (records : List (Nat × Members)) :
    Prop :=
  ∃ text values, f.readText (s.resolve t.records) = .ok text ∧
    (Json.parse? text).bind Json.array? = some values ∧
    t.format.readFrom 0 [] values = .ok records

theorem RecordsIn.unique {records others : List (Nat × Members)} (first : s.RecordsIn f t records)
    (second : s.RecordsIn f t others) : records = others := by
  obtain ⟨text, values, read, parsed, made⟩ := first
  obtain ⟨text', values', read', parsed', made'⟩ := second
  rw [read, Except.ok.injEq] at read'
  subst read'
  rw [parsed, Option.some.injEq] at parsed'
  subst parsed'
  rw [made, Except.ok.injEq] at made'
  exact made'

/-- The link type of records. -/
def typeOf (t : TypeSettings) (records : List (Nat × Members)) : LinkType :=
  t.linkType (t.format.schemaOf records)

@[simp] theorem contentType_typeOf (records : List (Nat × Members)) :
    (typeOf t records).contentType = t.name :=
  RecordFormat.contentType_schemaOf

theorem of_on_loadType_eq_ok {linkType : LinkType} {source : Source}
    (loaded : (s.loadType Files.disk t).on f = (.ok (linkType, source), g)) :
    ∃ records, s.RecordsIn f t records ∧ linkType = typeOf t records ∧
      source = t.format.sourceOf records := by
  obtain ⟨text, f', read, loaded⟩ :=
    Attempt.of_on_bind_eq_ok (Attempt.of_on_within_eq_ok loaded)
  have found := of_on_readFile_eq_ok read
  cases values : (Json.parse? text).bind Json.array? with
  | none =>
      simp only [values] at loaded
      cases loaded
  | some values' =>
      simp only [values] at loaded
      obtain ⟨made, -⟩ := Attempt.of_on_ofExcept_eq_ok loaded
      unfold TypeSettings.read RecordFormat.read at made
      cases records : t.format.readFrom 0 [] values' with
      | error fault =>
          rw [records] at made
          cases made
      | ok records' =>
          rw [records] at made
          cases made
          exact ⟨records', ⟨text, values', found, values, records⟩, rfl, rfl⟩

/-! ## All content types -/

/-- The site has one registered link type for each of the content types, by position. -/
structure Assembled (s : Settings) (f : Files) (ts : List TypeSettings) (site : Site Nat) :
    Prop where
  reached : site.registry.Reachable site.types
  linkTypes : ∀ i, i ∈ site.registry.linkTypes ↔ i < ts.length
  parts : ∀ i t, ts[i]? = some t → ∃ records, s.RecordsIn f t records ∧
    site.types i = typeOf t records ∧ site.sources i = t.format.sourceOf records

theorem of_register_eq_ok {site next : Site Nat} {shortcuts : List String} {i : Nat}
    (registered : site.register shortcuts i = .ok next) :
    ∃ r, site.registry.register site.types shortcuts i = .ok r ∧
      next = { site with registry := r } := by
  unfold Site.register at registered
  cases done : site.registry.register site.types shortcuts i with
  | error e =>
      rw [done] at registered
      cases registered
  | ok r =>
      rw [done] at registered
      cases registered
      exact ⟨r, rfl, rfl⟩

/-- A step of the loading adds one content type. -/
theorem Assembled.addType {ts : List TypeSettings} {site next : Site Nat}
    (assembled : Assembled s f ts site)
    (added : (s.addType Files.disk site t ts.length).on f = (.ok next, g)) :
    Assembled s f (ts ++ [t]) next := by
  obtain ⟨⟨linkType, source⟩, f', loaded, added⟩ := Attempt.of_on_bind_eq_ok added
  obtain ⟨records, recorded, rfl, rfl⟩ := of_on_loadType_eq_ok loaded
  obtain ⟨accepted, -⟩ := Attempt.of_on_ofExcept_eq_ok (Attempt.of_on_within_eq_ok added)
  obtain ⟨r, registered, rfl⟩ := of_register_eq_ok accepted
  -- The types before keep their positions, so what they are is what they were.
  have earlier {i : Nat} (mem : i ∈ site.registry.linkTypes) : i ≠ ts.length :=
    Nat.ne_of_lt ((assembled.linkTypes i).mp mem)
  have reached : Registry.Reachable
      (site.withType ts.length (typeOf t records) (t.format.sourceOf records)).types
      site.registry :=
    assembled.reached.congr fun i mem => if_neg (earlier mem)
  refine ⟨.register reached registered, fun i => ?_, fun i t' found => ?_⟩
  · obtain ⟨-, given, -, -, rfl⟩ := Registry.register_ok registered
    rw [Registry.mem_linkTypes_append given, List.length_append, List.length_singleton]
    have old : i ∈ (site.withType ts.length (typeOf t records)
        (t.format.sourceOf records)).registry.linkTypes ↔ i < ts.length := assembled.linkTypes i
    rw [old]
    omega
  · by_cases last : i = ts.length
    · subst last
      rw [List.getElem?_concat_length, Option.some.injEq] at found
      subst found
      exact ⟨records, recorded, if_pos rfl, if_pos rfl⟩
    · have before : i < ts.length := by
        have bound := (List.getElem?_eq_some_iff.mp found).1
        rw [List.length_append, List.length_singleton] at bound
        omega
      rw [List.getElem?_append_left before] at found
      obtain ⟨records', recorded', type, source⟩ := assembled.parts i t' found
      exact ⟨records', recorded', (if_neg last).trans type, (if_neg last).trans source⟩

theorem Assembled.foldlM {rest ts : List TypeSettings} {site last : Site Nat}
    (assembled : Assembled s f ts site)
    (loaded : ((rest.zipIdx ts.length).foldlM
      (fun site (t, position) => s.addType Files.disk site t position) site).on f =
        (.ok last, g)) :
    Assembled s f (ts ++ rest) last := by
  induction rest generalizing ts site with
  | nil =>
      cases loaded
      rw [List.append_nil]
      exact assembled
  | cons t rest ih =>
      rw [List.zipIdx_cons, List.foldlM_cons] at loaded
      obtain ⟨next, f', added, others⟩ := Attempt.of_on_bind_eq_ok loaded
      have unchanged : f' = f := by
        have reads := reads_addType s site t ts.length f
        rwa [added] at reads
      rw [unchanged, ← List.length_singleton, ← List.length_append] at others
      have done := ih (assembled.addType added) others
      rwa [List.append_assoc, List.singleton_append] at done

/-- A search key of a record in scope of one of the content types. -/
def RowDue (s : Settings) (f : Files) (r : Row) : Prop :=
  ∃ t ∈ s.types, ∃ records, s.RecordsIn f t records ∧
    ∃ record ∈ records, t.format.admits record.2 = true ∧ r.owner = ⟨t.name, record.1⟩ ∧
      r.key ∈ (typeOf t records).searchKeys (t.format.item record.1 record.2)

/-- The rows that are due to the site are the search keys of the records in scope. -/
theorem Assembled.rowDue_iff {site : Site Nat} (assembled : Assembled s f s.types site) {r : Row} :
    site.RowDue r ↔ s.RowDue f r := by
  have listed {t : TypeSettings} {records : List (Nat × Members)}
      (recorded : s.RecordsIn f t records) {o : Item} :
      o ∈ (t.format.sourceOf records).all ↔
        ∃ record ∈ records, t.format.admits record.2 = true ∧
          o = t.format.item record.1 record.2 := by
    obtain ⟨_, _, -, -, made⟩ := recorded
    exact RecordFormat.mem_all_sourceOf (RecordFormat.nodup_of_readFrom made).1
  constructor
  · rintro ⟨i, mem, o, object, owner, keyed⟩
    have bound := (assembled.linkTypes i).mp mem
    obtain ⟨records, recorded, type, source⟩ :=
      assembled.parts i _ (List.getElem?_eq_getElem bound)
    rw [source, listed recorded] at object
    obtain ⟨record, memR, admits, rfl⟩ := object
    rw [type] at owner keyed
    refine ⟨_, List.getElem_mem bound, records, recorded, record, memR, admits, ?_, keyed⟩
    rw [owner, LinkType.ownerOf, contentType_typeOf]
    rfl
  · rintro ⟨t, memT, records, recorded, record, memR, admits, owner, keyed⟩
    obtain ⟨i, found⟩ := List.mem_iff_getElem?.mp memT
    obtain ⟨records', recorded', type, source⟩ := assembled.parts i t found
    -- The same file was read when the site was loaded.
    obtain rfl := recorded.unique recorded'
    refine ⟨i, (assembled.linkTypes i).mpr (List.getElem?_eq_some_iff.mp found).1,
      t.format.item record.1 record.2, ?_, ?_, type ▸ keyed⟩
    · rw [source]
      exact (listed recorded).mpr ⟨record, memR, admits, rfl⟩
    · rw [owner, LinkType.ownerOf, type, contentType_typeOf]
      rfl

end Wikilink.Settings
