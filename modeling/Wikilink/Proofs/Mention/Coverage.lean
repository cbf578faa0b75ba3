/-
# Proofs.Mention.Coverage -- every mention is found, and nothing else

The mentions that are found lie one behind the other (`pairwise_locate`), each
between two characters of the text, and each is what is read at its place.  The
converse holds as well: wherever a mention can be read and no backslash stands
before it, the place lies inside a mention that is found (`findAll_covers`).  So a
mention at the very start of a text is the first that is found.
-/
import Wikilink.Proofs.Mention.Search

namespace Wikilink

set_option autoImplicit false

namespace Text

/-! ## Bytes -/

theorem byteLength_toList (text : String) : byteLength text.toList = text.utf8ByteSize := by
  have count : ∀ s : List Char, byteLength s = (String.ofList s).utf8ByteSize := by
    intro s
    induction s with
    | nil => rfl
    | cons c s ih =>
        rw [byteLength, ih, String.ofList_cons, String.utf8ByteSize_append,
          String.utf8ByteSize_singleton]
  rw [count, String.ofList_toList]

theorem byteLength_pos {s : List Char} (nonempty : s ≠ []) : 0 < byteLength s := by
  obtain ⟨c, s, rfl⟩ := List.exists_cons_of_ne_nil nonempty
  have positive := c.utf8Size_pos
  rw [byteLength]
  omega

theorem byteLength_eq_zero_iff {s : List Char} : byteLength s = 0 ↔ s = [] := by
  refine ⟨fun none => ?_, fun empty => by rw [empty, byteLength]⟩
  by_contra nonempty
  exact absurd none (Nat.ne_of_gt (byteLength_pos nonempty))

variable {α : Type}

/-- What is located lies one behind the other. -/
theorem pairwise_locate {offset : Nat} {pieces : List (Piece α)} :
    (locate offset pieces).Pairwise fun a b => a.stop ≤ b.start := by
  induction pieces generalizing offset with
  | nil => exact .nil
  | cons p pieces ih =>
      cases p with
      | char c => exact ih
      | form covered value =>
          refine List.pairwise_cons.mpr ⟨fun found mem => ?_, ih⟩
          obtain ⟨front, -, -, -, start, -⟩ := mem_locate.mp mem
          rw [start]
          exact Nat.le_add_right _ _

/-- A place is escaped where the character before it is the escape character. -/
theorem escapedAfter_eq_false_iff {e : Char} {s : List Char} :
    escapedAfter (some e) false s = false ↔ s.getLast? ≠ some e := by
  rcases List.eq_nil_or_concat s with rfl | ⟨front, c, rfl⟩
  · simp [escapedAfter]
  · rw [List.concat_eq_append, escapedAfter_concat, List.getLast?_concat]
    exact beq_eq_false_iff_ne.trans ne_comm

end Text

namespace Mention.Form

open Text

/-! ## What is found -/

/-- What a found mention is, said of the text around it. -/
def FoundAt (form : Form) (text : String) (found : Located Mention)
    (before covered after : List Char) : Prop :=
  text.toList = before ++ covered ++ after ∧
    found.start = byteLength before ∧ found.stop = byteLength (before ++ covered) ∧
    found.value.fullText = String.ofList covered ∧
    form.parse? (String.ofList (covered ++ after)) = some found.value ∧
    before.getLast? ≠ some '\\'

theorem parse?_ofList (form : Form) (s : List Char) :
    form.parse? (String.ofList s) = (form.recognizer s).map Prod.fst := by
  rw [parse?, String.toList_ofList]

/-- A mention that is found is read at its place, behind no backslash. -/
theorem foundAt_of_mem {form : Form} {text : String} {found : Located Mention}
    (mem : found ∈ form.findAll text) :
    ∃ before covered after, covered ≠ [] ∧ form.FoundAt text found before covered after := by
  obtain ⟨before, covered, after, whole, start, stop, unescaped, recognized⟩ :=
    recognized_of_mem_findAll mem
  have positive := (form.covering_recognizer recognized).1
  refine ⟨before, covered, after, List.ne_nil_of_length_pos positive, whole, start, stop, ?_, ?_,
    escapedAfter_eq_false_iff.mp unescaped⟩
  · rw [fullText_of_recognized recognized, List.take_left' rfl]
  · rw [parse?_ofList, recognized]
    rfl

/-- The range of a found mention is not empty and lies within the text. -/
theorem FoundAt.range {form : Form} {text : String} {found : Located Mention}
    {before covered after : List Char} (nonempty : covered ≠ [])
    (place : form.FoundAt text found before covered after) :
    found.start < found.stop ∧ found.stop ≤ text.utf8ByteSize := by
  obtain ⟨whole, start, stop, -⟩ := place
  have positive := byteLength_pos nonempty
  rw [← byteLength_toList, whole, byteLength_append (before ++ covered), start, stop,
    byteLength_append]
  omega

/-- A place where a mention is read lies inside one that is found, unless it is escaped. -/
theorem exists_covering {form : Form} {text : String} {before after : List Char}
    (whole : text.toList = before ++ after) (unescaped : before.getLast? ≠ some '\\')
    (read : form.parse? (String.ofList after) ≠ none) :
    ∃ found ∈ form.findAll text,
      found.start ≤ byteLength before ∧ byteLength before < found.stop := by
  rw [parse?_ofList] at read
  cases recognized : form.recognizer after with
  | none => exact absurd (by rw [recognized]; rfl) read
  | some answer =>
      obtain ⟨m, size⟩ := answer
      have within := form.covering_recognizer recognized
      have nonempty : after ≠ [] := List.ne_nil_of_length_pos (by omega)
      rcases (form.walks_mentions text).escaped_or_covered whole nonempty recognized with
        escaped | ⟨front, inside, more, found, back, split, rfl, left⟩
      · rw [escapedAfter_eq_false_iff.mpr unescaped] at escaped
        cases escaped
      · have positive := byteLength_pos left
        refine ⟨⟨byteLength (sources front),
          byteLength (sources front) + byteLength (inside ++ more), found⟩, ?_, ?_, ?_⟩
        · exact mem_locate.mpr ⟨front, _, back, split, (Nat.zero_add _).symm, rfl⟩
        · simp only [byteLength_append]
          omega
        · simp only [byteLength_append]
          omega

/-- What is found at the start of a text is read there. -/
theorem parse?_of_mem_findAll {form : Form} {text : String} {found : Located Mention}
    (mem : found ∈ form.findAll text) (start : found.start = 0) :
    form.parse? text = some found.value := by
  obtain ⟨before, covered, after, -, whole, offset, -, -, parsed, -⟩ := foundAt_of_mem mem
  obtain rfl := byteLength_eq_zero_iff.mp (offset.symm.trans start)
  rw [List.nil_append] at whole
  rwa [← whole, String.ofList_toList] at parsed

/-- What is found at the start of a text is found first. -/
theorem head?_findAll {form : Form} {text : String} {found : Located Mention}
    (mem : found ∈ form.findAll text) (start : found.start = 0) :
    (form.findAll text).head? = some found := by
  have order : (form.findAll text).Pairwise fun a b => a.stop ≤ b.start := pairwise_locate
  cases all : form.findAll text with
  | nil => simp [all] at mem
  | cons first rest =>
      have listed : first ∈ form.findAll text := by simp [all]
      obtain ⟨_, _, _, nonempty, place⟩ := foundAt_of_mem listed
      have range := (place.range nonempty).1
      rw [all] at mem order
      rcases List.mem_cons.mp mem with rfl | later
      · rfl
      -- A mention in front of this one would end before the start of the text.
      · have ahead := (List.pairwise_cons.mp order).1 found later
        omega

/-- A mention at the start of a text is the first that is found. -/
theorem parse?_eq_some_iff {form : Form} {text : String} {m : Mention} :
    form.parse? text = some m ↔
      ∃ first, (form.findAll text).head? = some first ∧ first.start = 0 ∧ first.value = m := by
  constructor
  · intro parsed
    have somewhere : form.parse? (String.ofList text.toList) ≠ none := by
      rw [String.ofList_toList, parsed]
      simp
    obtain ⟨found, mem, before, -⟩ :=
      exists_covering (List.nil_append text.toList).symm (by simp) somewhere
    have start : found.start = 0 := Nat.le_zero.mp before
    have read := parse?_of_mem_findAll mem start
    exact ⟨found, head?_findAll mem start, start, Option.some.inj (read.symm.trans parsed)⟩
  · rintro ⟨first, head, start, rfl⟩
    exact parse?_of_mem_findAll (List.mem_of_head? head) start

/-- **Every unescaped mention is found, and nothing else.**  The ranges that are found are not
empty, lie one behind the other within the text, and start and end between two characters; each
is what is read at its place, behind no backslash.  A place where a mention is read and that is
not escaped lies inside one of the ranges, and a mention at the start of the text is the first. -/
theorem findAll_covers (form : Form) (text : String) :
    ((form.findAll text).Pairwise fun a b => a.stop ≤ b.start) ∧
    (∀ found ∈ form.findAll text, found.start < found.stop ∧ found.stop ≤ text.utf8ByteSize ∧
      ∃ before covered after, form.FoundAt text found before covered after) ∧
    (∀ before after, text.toList = before ++ after → before.getLast? ≠ some '\\' →
      form.parse? (String.ofList after) ≠ none →
      ∃ found ∈ form.findAll text,
        found.start ≤ byteLength before ∧ byteLength before < found.stop) ∧
    ∀ m, form.parse? text = some m ↔
      ∃ first, (form.findAll text).head? = some first ∧ first.start = 0 ∧ first.value = m := by
  refine ⟨pairwise_locate, fun found mem => ?_,
    fun before after whole unescaped read => exists_covering whole unescaped read,
    fun m => parse?_eq_some_iff⟩
  obtain ⟨before, covered, after, nonempty, place⟩ := foundAt_of_mem mem
  exact ⟨(place.range nonempty).1, (place.range nonempty).2, before, covered, after, place⟩

/-- A bracket of an escaped link still opens another. -/
example : (link.findAll "\\[[[ Mad Max ]]").map (fun found => (found.start, found.stop)) =
    [(2, 15)] := by
  rfl

end Mention.Form

end Wikilink
