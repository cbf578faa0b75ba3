/-
# Proofs.Records -- the objects that records make

Records that are read have distinct ids (`nodup_of_readFrom`), so none of them takes
the place of another: the source lists exactly the objects of the records in scope
(`mem_all_sourceOf`).
-/
import Wikilink.Proofs.Source
import Wikilink.Records

namespace Wikilink.RecordFormat

set_option autoImplicit false

variable {f : RecordFormat} {records : List (Nat × Members)}

/-- The first of the values makes a record of a new id, which counts as seen for the others. -/
theorem of_readFrom_cons {value : Json} {values : List Json} {position : Nat} {seen : List Nat}
    (read : f.readFrom position seen (value :: values) = .ok records) :
    ∃ r rest, membersAt position value = .ok r ∧ r.1 ∉ seen ∧
      f.readFrom (position + 1) (r.1 :: seen) values = .ok rest ∧ records = r :: rest := by
  rw [readFrom] at read
  cases first : membersAt position value with
  | error fault => rw [first] at read; cases read
  | ok r =>
      rw [first] at read
      simp only [bind, Except.bind, pure, Except.pure] at read
      by_cases old : r.1 ∈ seen
      · simp [old] at read
      · cases others : f.readFrom (position + 1) (r.1 :: seen) values with
        | error fault => simp [old, others] at read
        | ok rest =>
            simp only [old, if_false, others, Except.ok.injEq] at read
            exact ⟨r, rest, rfl, old, others, read.symm⟩

/-- Records have distinct ids, none of them seen before. -/
theorem nodup_of_readFrom {values : List Json} {position : Nat} {seen : List Nat}
    (read : f.readFrom position seen values = .ok records) :
    (records.map Prod.fst).Nodup ∧ ∀ r ∈ records, r.1 ∉ seen := by
  induction values generalizing position seen records with
  | nil =>
      cases read
      exact ⟨List.nodup_nil, by simp⟩
  | cons value values ih =>
      obtain ⟨first, rest, -, new, others, rfl⟩ := of_readFrom_cons read
      -- The ids of the rest are new to the id of this record as well.
      obtain ⟨distinct, fresh⟩ := ih others
      refine ⟨List.nodup_cons.mpr ⟨?_, distinct⟩, ?_⟩
      · intro again
        obtain ⟨r, mem, same⟩ := List.mem_map.mp again
        exact fresh r mem (by simp [same])
      · intro r mem
        rcases List.mem_cons.mp mem with rfl | mem
        · exact new
        · exact fun seen => fresh r mem (by simp [seen])

/-- Objects of other ids than those before are added to them. -/
theorem mem_objects_foldl {s : Source} (distinct : (records.map Prod.fst).Nodup)
    (fresh : ∀ r ∈ records, ∀ o ∈ s.objects, o.id ≠ r.1) {o : Item} :
    o ∈ (records.foldl (fun s r => s.insert (f.item r.1 r.2)) s).objects ↔
      (∃ r ∈ records, o = f.item r.1 r.2) ∨ o ∈ s.objects := by
  induction records generalizing s with
  | nil => simp
  | cons r records ih =>
      obtain ⟨first, rest⟩ := List.nodup_cons.mp distinct
      have others : ∀ q ∈ records, ∀ p ∈ (s.insert (f.item r.1 r.2)).objects, p.id ≠ q.1 := by
        intro q memQ p memP same
        rcases Source.mem_insert.mp memP with rfl | ⟨old, -⟩
        · exact first (List.mem_map.mpr ⟨q, memQ, same.symm⟩)
        · exact fresh q (by simp [memQ]) p old same
      rw [List.foldl_cons, ih rest others, Source.mem_insert]
      constructor
      · rintro (⟨q, mem, rfl⟩ | rfl | ⟨old, -⟩)
        · exact Or.inl ⟨q, by simp [mem], rfl⟩
        · exact Or.inl ⟨r, by simp, rfl⟩
        · exact Or.inr old
      · rintro (⟨q, mem, rfl⟩ | old)
        · rcases List.mem_cons.mp mem with rfl | mem
          · exact Or.inr (Or.inl rfl)
          · exact Or.inl ⟨q, mem, rfl⟩
        · exact Or.inr (Or.inr ⟨old, fresh r (by simp) o old⟩)

theorem inScope_foldl (s : Source) :
    (records.foldl (fun s r => s.insert (f.item r.1 r.2)) s).inScope = s.inScope := by
  induction records generalizing s with
  | nil => rfl
  | cons r records ih => rw [List.foldl_cons, ih, Source.inScope_insert]

/-- **The source lists the objects of the records in scope**, and no others. -/
theorem mem_all_sourceOf (distinct : (records.map Prod.fst).Nodup) {o : Item} :
    o ∈ (f.sourceOf records).all ↔ ∃ r ∈ records, f.admits r.2 = true ∧ o = f.item r.1 r.2 := by
  have admitted {r : Nat × Members} (mem : r ∈ records) :
      r.1 ∈ (records.filter fun r => f.admits r.2).map Prod.fst ↔ f.admits r.2 = true := by
    constructor
    · intro listed
      obtain ⟨q, admits, same⟩ := List.mem_map.mp listed
      obtain ⟨memQ, admits⟩ := List.mem_filter.mp admits
      exact List.inj_on_of_nodup_map distinct memQ mem same ▸ admits
    · intro admits
      exact List.mem_map.mpr ⟨r, List.mem_filter.mpr ⟨mem, admits⟩, rfl⟩
  rw [sourceOf, Source.all, List.mem_filter, mem_objects_foldl distinct (by simp), inScope_foldl]
  simp only [List.not_mem_nil, or_false, decide_eq_true_eq]
  constructor
  · rintro ⟨⟨r, mem, rfl⟩, inScope⟩
    exact ⟨r, mem, (admitted mem).mp inScope, rfl⟩
  · rintro ⟨r, mem, admits, rfl⟩
    exact ⟨⟨r, mem, rfl⟩, (admitted mem).mpr admits⟩

/-! ## Schemas -/

theorem contentType_foldl_declare (member : Member) (s : Schema) (names : List String) :
    (names.foldl (fun s name => s.declare name member) s).contentType = s.contentType := by
  induction names generalizing s with
  | nil => rfl
  | cons name names ih => exact ih (s.declare name member)

@[simp] theorem contentType_schemaOf : (f.schemaOf records).contentType = f.contentType := by
  simp only [schemaOf, Schema.declareFields, contentType_foldl_declare]

end Wikilink.RecordFormat
