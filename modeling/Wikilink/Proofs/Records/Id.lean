/-
# Proofs.Records.Id -- what the id of a record reads as

The id of a record is a member like any other, and every way to read that member gives one
text (`ReadsAs`).  The id itself, as a natural number, is the key of the record and the text of
its pseudo-field.  The two agree below `2 ^ 63`.  From there on the member is a floating
number, and its text ends in zeros in place of the last digits (`id_reads_alike`).
-/
import Wikilink.LinkType.Basic
import Wikilink.Proofs.Decimal.Whole
import Wikilink.Proofs.Records
import Wikilink.Proofs.SearchKey
import Wikilink.Proofs.Table
import Wikilink.Proofs.Template

namespace Wikilink

set_option autoImplicit false

/-! ## Texts of natural numbers -/

/-- What holds of the ten digits holds of every character of a decimal text. -/
theorem forall_mem_toString {p : Char → Prop} (digits : ∀ k < 10, p (Nat.digitChar k)) (n : Nat) :
    ∀ c ∈ (toString n).toList, p c := by
  intro c mem
  rw [Nat.toString_eq_ofList_toDigits, String.toList_ofList] at mem
  have digit := Char.isDigit_iff_toNat.mp (Nat.isDigit_of_mem_toDigits (by decide) (by decide) mem)
  have zero : '0'.toNat = 48 := rfl
  have nine : '9'.toNat = 57 := rfl
  have small : c.toNat - 48 < 10 := by omega
  have same : Nat.digitChar (c.toNat - 48) = c := by
    apply Char.toNat_inj.mp
    rw [Nat.toNat_digitChar_of_lt_ten small]
    omega
  exact same ▸ digits (c.toNat - 48) small

theorem eq_of_toString_eq {n m : Nat} (same : toString n = toString m) : n = m := by
  have digits : Nat.toDigits 10 n = Nat.toDigits 10 m := by
    simpa only [Nat.toString_eq_ofList_toDigits, String.toList_ofList] using
      congrArg String.toList same
  rw [← Nat.ofDigitChars_ten_toDigits (n := n), digits, Nat.ofDigitChars_ten_toDigits]

/-- A natural number of at most twenty digits is its own search key. -/
theorem searchKey_toString {n : Nat} (short : n < 10 ^ 20) : searchKey (toString n) = toString n := by
  have normal : SearchKey.Normal (toString n).toList := by
    refine ⟨?_, forall_mem_toString (by decide) n, forall_mem_toString (by decide) n⟩
    rw [Nat.toString_eq_ofList_toDigits, String.toList_ofList]
    have digits := (Nat.length_toDigits_le_iff (b := 10) (by decide) (by decide)).mpr short
    exact Nat.le_trans digits (by decide)
  rw [searchKey, SearchKey.ofChars_of_normal normal, String.ofList_toList]

/-- A natural number stands in markup as it is. -/
theorem escapeHtml_toString (n : Nat) : Text.escapeHtml (toString n) = toString n := by
  have plain : ∀ c ∈ (toString n).toList, Text.escapeChar c = [c] :=
    forall_mem_toString (by decide) n
  have same : (toString n).toList.flatMap Text.escapeChar = (toString n).toList := by
    rw [List.flatMap_congr plain, List.flatMap_singleton']
  rw [Text.escapeHtml, same, String.ofList_toList]

/-! ## Readings -/

namespace RecordFormat

variable {f : RecordFormat} {values : List Json} {records : List (Nat × Members)}
  {r : Nat × Members}

theorem of_membersAt {position : Nat} {value : Json}
    (read : membersAt position value = .ok r) :
    value = .object r.2 ∧ List.lookup "id" r.2 = some (.int r.1) := by
  unfold membersAt at read
  split at read
  · rename_i members
    cases found : List.lookup "id" members with
    | none => rw [found] at read; cases read
    | some id =>
        rw [found, Option.bind_some] at read
        cases id with
        | int n =>
            by_cases natural : 0 ≤ n
            · simp only [Json.nat?, if_pos natural] at read
              cases read
              exact ⟨rfl, by rw [found, Int.toNat_of_nonneg natural]⟩
            · simp only [Json.nat?, if_neg natural] at read
              cases read
        | _ => cases read
  · cases read

/-- Each record that was read is one of the values, with its id among the members. -/
theorem of_mem_readFrom {position : Nat} {seen : List Nat}
    (read : f.readFrom position seen values = .ok records) (mem : r ∈ records) :
    .object r.2 ∈ values ∧ List.lookup "id" r.2 = some (.int r.1) := by
  induction values generalizing position seen records with
  | nil =>
      cases read
      cases mem
  | cons value values ih =>
      obtain ⟨q, rest, first, -, others, rfl⟩ := of_readFrom_cons read
      rcases List.mem_cons.mp mem with rfl | mem
      · obtain ⟨rfl, id⟩ := of_membersAt first
        exact ⟨by simp, id⟩
      · obtain ⟨value, id⟩ := ih others mem
        exact ⟨by simp [value], id⟩

theorem lookup_ofMembers (name : String) (members : Members) :
    List.lookup name (Value.ofMembers members) = (List.lookup name members).map Value.ofJson := by
  induction members with
  | nil => rfl
  | cons m members ih =>
      obtain ⟨other, value⟩ := m
      rw [Value.ofMembers, List.lookup_cons, List.lookup_cons]
      split
      · rfl
      · exact ih

/-- Names that are bound later leave the others as they are. -/
theorem find?_foldl_withText {entries : List (String × String)} {name : String}
    (other : name ∉ entries.map Prod.fst) (c : Context) :
    Table.find? (entries.foldl (fun c e => Context.withText c e.1 e.2) c) name =
      Table.find? c name := by
  induction entries generalizing c with
  | nil => rfl
  | cons entry entries ih =>
      rw [List.map_cons, List.mem_cons, not_or] at other
      rw [List.foldl_cons, ih other.2, Context.withText, Table.find?_insert, if_neg other.1]

/-- In the context of a record a member stands for its text. -/
theorem find?_context {members : Members} {name : String} {value : Json}
    (distinct : (members.map Prod.fst).Nodup) (found : List.lookup name members = some value) :
    Table.find? members.context name = some (.text (Members.text value)) := by
  obtain ⟨front, back, rfl, -⟩ := List.lookup_eq_some_iff.mp found
  rw [List.map_append, List.map_cons] at distinct
  have later : name ∉ back.map Prod.fst :=
    (List.nodup_cons.mp (List.nodup_append.mp distinct).2.1).1
  have others : name ∉ (back.map fun m => (m.1, Members.text m.2)).map Prod.fst := by
    rwa [List.map_map]
  have bound := find?_foldl_withText others
    (Context.withText (front.foldl (fun c m => Context.withText c m.1 (Members.text m.2)) []) name
      (Members.text value))
  rw [List.foldl_map] at bound
  rw [Members.context, List.foldl_append, List.foldl_cons, bound, Context.withText,
    Table.find?_insert, if_pos rfl]

/-- The positional options of an embed are numbered, and none of them hides a word. -/
theorem find?_embedContext {members : Members} {options : EmbedOptions} {name : String}
    (word : ∀ i : Nat, name ≠ toString i) (other : name ∉ options.named.names) :
    Table.find? (embedContext members options) name = Table.find? members.context name := by
  refine find?_foldl_withText ?_ members.context
  rw [List.map_append, List.mem_append, not_or]
  refine ⟨fun numbered => ?_, other⟩
  obtain ⟨entry, mem, same⟩ := List.mem_map.mp numbered
  obtain ⟨⟨value, i⟩, -, rfl⟩ := List.mem_map.mp mem
  exact word i same.symm

/-! ## The text of an id -/

/-- The text of an id among the members of a record. -/
def idText (id : Nat) : String :=
  Members.text (.int id)

theorem idText_of_small {id : Nat} (small : id < 2 ^ 63) : idText id = toString id := by
  have signed : (id : Int) < Value.integerLimit := Int.ofNat_lt.mpr small
  rw [idText, Members.text, Value.ofJson, if_pos signed]
  rfl

theorem idText_of_large {id : Nat} (large : 2 ^ 63 ≤ id) :
    idText id = Decimal.Layout.plain.write (.ofInt id) := by
  have unsigned : ¬ (id : Int) < Value.integerLimit :=
    Int.not_lt.mpr (Int.ofNat_le.mpr large)
  rw [idText, Members.text, Value.ofJson, if_neg unsigned]
  rfl

/-- The text of an id is always the text of a natural number. -/
theorem exists_idText_eq {id : Nat} (bounded : id < 2 ^ 64) :
    ∃ n, idText id = toString n ∧ n < 10 ^ 20 ∧ (2 ^ 63 ≤ n ↔ 2 ^ 63 ≤ id) := by
  by_cases large : 2 ^ 63 ≤ id
  · obtain ⟨n, written, least, most, -⟩ := Decimal.coarse_write_ofInt large bounded
    exact ⟨n, (idText_of_large large).trans written, most, iff_of_true least large⟩
  · exact ⟨id, idText_of_small (by omega), by omega, Iff.rfl⟩

/-- Of two different ids with one text, both are beyond the signed integers. -/
theorem large_of_idText_eq {id other : Nat} (bounded : id < 2 ^ 64) (bounded' : other < 2 ^ 64)
    (apart : id ≠ other) (same : idText id = idText other) : 2 ^ 63 ≤ id ∧ 2 ^ 63 ≤ other := by
  obtain ⟨n, written, -, large⟩ := exists_idText_eq bounded
  obtain ⟨m, written', -, large'⟩ := exists_idText_eq bounded'
  have equal : n = m := eq_of_toString_eq (written.symm.trans (same.trans written'))
  subst equal
  by_cases small : id < 2 ^ 63
  · refine absurd ?_ apart
    have small' : other < 2 ^ 63 := by omega
    rw [idText_of_small small, idText_of_small small'] at same
    exact eq_of_toString_eq same
  · omega

/-- Every reading of the id of a record gives one text: as a field and at the end of a path, in the
template of a display, in that of an embed without an option of this name, as an attribute without
a template of its own, and in a search key.  In markup the text stands as it is. -/
structure ReadsAs (f : RecordFormat) (r : Nat × Members) (text : String) : Prop where
  field : ((f.item r.1 r.2).field? "id").map Value.toText = some text
  path : ((f.item r.1 r.2).valueAt "id").toText = text
  display : Template.value r.2.context ["id"] = text
  embed : ∀ options : EmbedOptions, "id" ∉ options.named.names →
    Template.value (embedContext r.2 options) ["id"] = text
  attr : f.embeds.find? "id" = none → (f.item r.1 r.2).embed "id" {} = .ok text
  markup : Text.escapeHtml text = text
  key : searchKey ((FieldSet.single "id").searchText (f.item r.1 r.2)) = text

theorem readsAs_idText (bounded : r.1 < 2 ^ 64) (distinct : (r.2.map Prod.fst).Nodup)
    (found : List.lookup "id" r.2 = some (.int r.1)) : f.ReadsAs r (idText r.1) := by
  obtain ⟨n, written, short, -⟩ := exists_idText_eq bounded
  have field : (f.item r.1 r.2).field? "id" = some (Value.ofJson (.int r.1)) := by
    have listed : (f.item r.1 r.2).field? "id" = List.lookup "id" (Value.ofMembers r.2) := rfl
    rw [listed, lookup_ofMembers, found, Option.map_some]
  have path : (f.item r.1 r.2).valueAt "id" = Value.ofJson (.int r.1) := by
    have walked : (f.item r.1 r.2).valueAt "id" = ((f.item r.1 r.2).field? "id").getD .null := rfl
    rw [walked, field, Option.getD_some]
  have context := find?_context distinct found
  have value {c : Context} (bound : Table.find? c "id" = some (.text (idText r.1))) :
      Template.value c ["id"] = idText r.1 := by
    have resolved : Template.value c ["id"] =
        ((Table.find? c "id").map fun binding => binding.textAt []).getD "" := rfl
    rw [resolved, bound, Option.map_some, Option.getD_some, Binding.textAt]
  have markup : Text.escapeHtml (idText r.1) = idText r.1 := by
    rw [written, escapeHtml_toString]
  refine ⟨by rw [field]; rfl, by rw [path]; rfl, value context, fun options other => ?_,
    fun bare => ?_, markup, ?_⟩
  · have word : ∀ i : Nat, "id" ≠ toString i := by
      intro i same
      have letter : 'i' ∈ (toString i).toList := by simp [← same]
      exact forall_mem_toString (p := (· ≠ 'i')) (by decide) i 'i' letter rfl
    exact value ((find?_embedContext word other).trans context)
  · have embedded : (f.item r.1 r.2).embed "id" {} = f.embed r.2 "id" {} := rfl
    rw [embedded, RecordFormat.embed, bare, found]
    exact congrArg Except.ok markup
  · have text : (FieldSet.single "id").searchText (f.item r.1 r.2) = idText r.1 := by
      rw [FieldSet.searchText_single, path]
      rfl
    rw [text, written, searchKey_toString short]

/-- **The id of a record reads the same everywhere, and as the id below `2 ^ 63`.**  Of a list of
records that is accepted, every record has one text for its id, whichever way it is read.  Below
`2 ^ 63` this is the decimal form of the id, the text of the pseudo-field.  From there on it is the
decimal form of a multiple of a hundred, and so no other id's than such a one's.  Two records have
the same text, or the same search key, only if both ids are from there on. -/
theorem id_reads_alike (read : f.readFrom 0 [] values = .ok records)
    (named : ∀ members, Json.object members ∈ values → (members.map Prod.fst).Nodup)
    (bounded : ∀ r ∈ records, r.1 < 2 ^ 64) :
    (∀ r ∈ records, ∃ text, f.ReadsAs r text ∧
      ((f.item r.1 r.2).valueAt idField).toText = toString r.1 ∧
      (r.1 < 2 ^ 63 → text = toString r.1) ∧
      (2 ^ 63 ≤ r.1 → ∃ n, text = toString n ∧ 2 ^ 63 ≤ n ∧ 100 ∣ n)) ∧
    ∀ r ∈ records, ∀ q ∈ records, r ≠ q → r.1 < 2 ^ 63 ∨ q.1 < 2 ^ 63 →
      ((f.item r.1 r.2).valueAt "id").toText ≠ ((f.item q.1 q.2).valueAt "id").toText ∧
      searchKey ((FieldSet.single "id").searchText (f.item r.1 r.2)) ≠
        searchKey ((FieldSet.single "id").searchText (f.item q.1 q.2)) := by
  have reads (r : Nat × Members) (mem : r ∈ records) : f.ReadsAs r (idText r.1) := by
    obtain ⟨value, found⟩ := of_mem_readFrom read mem
    exact readsAs_idText (bounded r mem) (named r.2 value) found
  refine ⟨fun r mem => ⟨idText r.1, reads r mem, rfl, idText_of_small, fun large => ?_⟩, ?_⟩
  · obtain ⟨n, written, least, -, round⟩ := Decimal.coarse_write_ofInt large (bounded r mem)
    exact ⟨n, (idText_of_large large).trans written, least, round⟩
  · intro r mem q mem' apart small
    have ids : r.1 ≠ q.1 := fun same =>
      apart (List.inj_on_of_nodup_map (nodup_of_readFrom read).1 mem mem' same)
    have texts : idText r.1 ≠ idText q.1 := by
      intro same
      have large := large_of_idText_eq (bounded r mem) (bounded q mem') ids same
      omega
    rw [(reads r mem).path, (reads q mem').path, (reads r mem).key, (reads q mem').key]
    exact ⟨texts, texts⟩

/-- Films that have nothing but an id, as data and as records. -/
def filmValues (ids : List Nat) : List Json :=
  ids.map fun id => .object [("id", .int id)]

def filmRecords (ids : List Nat) : List (Nat × Members) :=
  ids.map fun id => (id, [("id", .int id)])

def filmFormat : RecordFormat where
  contentType := "film"
  display := some (.ofSource "\x7b\x7b id \x7d\x7d")

/-- The last id that has a sign, and the next one. -/
theorem id_reads_alike_films :
    filmFormat.readFrom 0 [] (filmValues [9223372036854775807, 9223372036854775808]) =
      .ok (filmRecords [9223372036854775807, 9223372036854775808]) ∧
    (∀ r ∈ filmRecords [9223372036854775807, 9223372036854775808], r.1 < 2 ^ 63 →
      filmFormat.ReadsAs r (toString r.1)) ∧
    ∀ r ∈ filmRecords [9223372036854775807, 9223372036854775808],
      ∀ q ∈ filmRecords [9223372036854775807, 9223372036854775808],
      r.1 < 2 ^ 63 → 2 ^ 63 ≤ q.1 →
      searchKey ((FieldSet.single "id").searchText (filmFormat.item r.1 r.2)) ≠
        searchKey ((FieldSet.single "id").searchText (filmFormat.item q.1 q.2)) := by
  have read : filmFormat.readFrom 0 [] (filmValues [9223372036854775807, 9223372036854775808]) =
      .ok (filmRecords [9223372036854775807, 9223372036854775808]) := rfl
  obtain ⟨alike, differ⟩ := id_reads_alike read (by simp [filmValues]) (by simp [filmRecords])
  refine ⟨read, fun r mem small => ?_, fun r mem q mem' small large => ?_⟩
  · obtain ⟨text, reads, -, same, -⟩ := alike r mem
    exact same small ▸ reads
  · have apart : r ≠ q := by
      rintro rfl
      omega
    exact (differ r mem q mem' apart (.inl small)).2

theorem display_film (n : Nat) (members : Members) :
    (filmFormat.item n members).display = Template.value members.context ["id"] := by
  have segments : (Template.ofSource "\x7b\x7b id \x7d\x7d").segments = [.variable ["id"]] := by
    decide
  have shown : (filmFormat.item n members).display = String.join
      ((Template.ofSource "\x7b\x7b id \x7d\x7d").segments.map
        (Template.Segment.render id members.context)) := rfl
  rw [shown, segments, List.map_cons, List.map_nil, String.join_cons, String.join_nil,
    String.append_empty]
  rfl

/-- Two records that are accepted, with different ids, have one text for their ids, which is the
text of neither id, and so one display and one search key. -/
theorem large_ids_read_alike :
    filmFormat.readFrom 0 [] (filmValues [9223372036854775809, 9223372036854775810]) =
      .ok (filmRecords [9223372036854775809, 9223372036854775810]) ∧
    ∀ r ∈ filmRecords [9223372036854775809, 9223372036854775810],
      ((filmFormat.item r.1 r.2).valueAt "id").toText = "9223372036854776000" ∧
      ((filmFormat.item r.1 r.2).valueAt idField).toText = toString r.1 ∧
      toString r.1 ≠ "9223372036854776000" ∧
      (filmFormat.item r.1 r.2).display = "9223372036854776000" ∧
      searchKey ((FieldSet.single "id").searchText (filmFormat.item r.1 r.2)) =
        "9223372036854776000" := by
  have written : idText 9223372036854775809 = "9223372036854776000" ∧
      idText 9223372036854775810 = "9223372036854776000" := by
    rw [idText_of_large (by decide), idText_of_large (by decide)]
    decide +kernel
  have reads (id : Nat) (bounded : id < 2 ^ 64) :
      filmFormat.ReadsAs (id, [("id", .int id)]) (idText id) :=
    readsAs_idText bounded (by simp) (by simp)
  refine ⟨rfl, fun r mem => ?_⟩
  simp only [filmRecords, List.map_cons, List.map_nil, List.mem_cons, List.not_mem_nil,
    or_false] at mem
  rcases mem with rfl | rfl
  · have all := reads 9223372036854775809 (by decide)
    rw [written.1] at all
    exact ⟨all.path, rfl, by decide, (display_film _ _).trans all.display, all.key⟩
  · have all := reads 9223372036854775810 (by decide)
    rw [written.2] at all
    exact ⟨all.path, rfl, by decide, (display_film _ _).trans all.display, all.key⟩

end RecordFormat

end Wikilink
