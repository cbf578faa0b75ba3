/-
# Proofs.Mention.Substitution -- a text around its mentions

`slice` reads a text between two byte offsets, and `splice` puts slices and written
forms one behind the other, with the offsets where the forms were located.  Writing
the pieces of a text is that splice (`splice_locate`), also when it starts or ends in
the middle of the text.  So a stretch that meets no form divides the pieces
(`exists_split_of_clear`) and is copied to where it stood, and a text comes out as
spliced, unless a mention cannot be written: then it fails with the first such
(`replaceAll_splices`).

A stretch behind a backslash that reads as a mention (`EscapedAt`) is not always
copied whole.  The search goes on one character later, and another mention may
begin inside it (`escaped_mention_rewritten`).
-/
import Mathlib.Data.String.Basic
import Wikilink.Proofs.Mention.Coverage
import Wikilink.Proofs.Text.Writing

namespace Wikilink

set_option autoImplicit false

namespace Text

/-! ## Slices -/

/-- The text from the byte offset `start` up to the byte offset `stop`. -/
def slice (text : String) (start stop : Nat) : String :=
  String.Pos.Raw.extract text ⟨start⟩ ⟨stop⟩

theorem utf8Len_eq_byteLength (s : List Char) : String.utf8Len s = byteLength s := by
  induction s with
  | nil => rfl
  | cons c s ih => rw [String.utf8Len_cons, ih, byteLength, Nat.add_comm]

/-- Between the bytes of what comes before and the bytes up to its end, a part is read again. -/
theorem slice_of_split {text : String} {before inside after : List Char}
    (whole : text.toList = before ++ inside ++ after) :
    slice text (byteLength before) (byteLength (before ++ inside)) = String.ofList inside := by
  have valid := String.extract_of_valid before inside after
  rwa [← whole, String.ofList_toList, utf8Len_eq_byteLength, utf8Len_eq_byteLength,
    ← byteLength_append] at valid

/-! ## Splices -/

variable {α ε : Type}

/-- The text from the byte offset `last` up to the byte offset `stop`, with each located form as
`shown` puts it. -/
def splice (text : String) (shown : α → String) (last : Nat) :
    List (Located α) → Nat → String
  | [], stop => slice text last stop
  | found :: rest, stop =>
      slice text last found.start ++ shown found.value ++ splice text shown found.stop rest stop

theorem locate_append (offset : Nat) (ps qs : List (Piece α)) :
    locate offset (ps ++ qs) = locate offset ps ++ locate (offset + byteLength (sources ps)) qs := by
  induction ps generalizing offset with
  | nil => rfl
  | cons p ps ih =>
      cases p with
      | char c =>
          simp only [List.cons_append, locate, ih, sources_cons, Piece.source, List.nil_append,
            byteLength, Nat.add_assoc]
      | form covered value =>
          simp only [List.cons_append, locate, ih, sources_cons, Piece.source, byteLength_append,
            Nat.add_assoc]

/-- **Writing pieces splices the text that they are pieces of.**  The text is written up to `done`,
and `gap` is what is kept since the last form. -/
theorem splice_locate {write : α → Except ε String} {shown : α → String} {text : String}
    {done gap after : List Char} {ps : List (Piece α)}
    (whole : text.toList = done ++ gap ++ sources ps ++ after)
    (wrote : ∀ value ∈ forms ps, write value = .ok (shown value)) :
    ∃ out, substitute write ps = .ok out ∧
      splice text shown (byteLength done) (locate (byteLength (done ++ gap)) ps)
        (byteLength (done ++ gap ++ sources ps)) = String.ofList gap ++ out := by
  induction ps generalizing done gap with
  | nil =>
      refine ⟨"", rfl, ?_⟩
      rw [sources_nil, List.append_nil] at whole ⊢
      rw [locate, splice, slice_of_split whole, String.append_empty]
  | cons p ps ih =>
      cases p with
      | char c =>
          -- The character goes to the gap.
          have shifted : done ++ gap ++ sources (.char c :: ps) =
              done ++ (gap ++ [c]) ++ sources ps := by
            simp [Piece.source]
          rw [shifted] at whole ⊢
          obtain ⟨out, later, spliced⟩ := ih whole wrote
          refine ⟨_, substitute_char.mpr ⟨out, later, rfl⟩, ?_⟩
          have offset : byteLength (done ++ gap) + c.utf8Size = byteLength (done ++ (gap ++ [c])) := by
            simp [byteLength_append, byteLength, Nat.add_assoc]
          rw [locate, offset, spliced, String.ofList_append, String.append_assoc]
          rfl
      | form covered value =>
          -- The gap is copied, and the text is written up to the end of the form.
          have front : text.toList = done ++ gap ++ (covered ++ sources ps ++ after) := by
            rw [whole, sources_cons]
            simp [Piece.source]
          have moved : done ++ gap ++ sources (.form covered value :: ps) =
              done ++ gap ++ covered ++ [] ++ sources ps := by
            simp [Piece.source]
          rw [moved] at whole ⊢
          obtain ⟨first, others⟩ := List.forall_mem_cons.mp wrote
          obtain ⟨out, later, spliced⟩ := ih whole others
          refine ⟨_, substitute_form.mpr ⟨_, out, first, later, rfl⟩, ?_⟩
          rw [List.append_nil] at spliced ⊢
          rw [locate, splice, slice_of_split front, ← byteLength_append, spliced]
          simp only [String.ofList_nil, String.empty_append, String.append_assoc]

/-- Pieces are written as the splice of the part of the text that they are pieces of. -/
theorem substitute_eq_splice {write : α → Except ε String} {shown : α → String} {text : String}
    {before after : List Char} {ps : List (Piece α)}
    (whole : text.toList = before ++ sources ps ++ after)
    (wrote : ∀ value ∈ forms ps, write value = .ok (shown value)) :
    substitute write ps = .ok (splice text shown (byteLength before)
      (locate (byteLength before) ps) (byteLength (before ++ sources ps))) := by
  have gapless : text.toList = before ++ [] ++ sources ps ++ after := by
    rw [List.append_nil, whole]
  obtain ⟨out, written, spliced⟩ := splice_locate gapless wrote
  rw [List.append_nil, String.ofList_nil, String.empty_append] at spliced
  rw [written, spliced]

/-! ## Where pieces divide -/

/-- Two beginnings of one text are the same if they are as long. -/
theorem eq_of_byteLength_eq {s t u v : List Char} (whole : s ++ u = t ++ v)
    (same : byteLength s = byteLength t) : s = t := by
  rcases List.append_eq_append_iff.mp whole with ⟨more, rfl, -⟩ | ⟨more, rfl, -⟩
  all_goals
    rw [byteLength_append] at same
    rw [byteLength_eq_zero_iff.mp (by omega : byteLength more = 0), List.append_nil]

/-- What is located behind the first piece is located. -/
theorem mem_locate_cons {offset : Nat} {p : Piece α} {ps : List (Piece α)} {found : Located α}
    (mem : found ∈ locate (offset + byteLength p.source) ps) : found ∈ locate offset (p :: ps) := by
  have split := locate_append offset [p] ps
  rw [sources_cons, sources_nil, List.append_nil, List.singleton_append] at split
  rw [split]
  exact List.mem_append_right _ mem

/-- A place that is inside no form divides the pieces. -/
theorem exists_split_at {offset : Nat} {ps : List (Piece α)} {x y : List Char}
    (whole : sources ps = x ++ y)
    (outside : ∀ found ∈ locate offset ps,
      found.stop ≤ offset + byteLength x ∨ offset + byteLength x ≤ found.start) :
    ∃ front back, ps = front ++ back ∧ sources front = x ∧ sources back = y := by
  induction ps generalizing offset x with
  | nil =>
      obtain ⟨rfl, rfl⟩ := List.append_eq_nil_iff.mp whole.symm
      exact ⟨[], [], rfl, rfl, rfl⟩
  | cons p ps ih =>
      rcases behind_or_inside whole with ⟨x', rfl, rest⟩ | ⟨c, more, inner⟩
      · have apart : ∀ found ∈ locate (offset + byteLength p.source) ps,
            found.stop ≤ offset + byteLength p.source + byteLength x' ∨
              offset + byteLength p.source + byteLength x' ≤ found.start := by
          intro found mem
          have clear := outside found (mem_locate_cons mem)
          rwa [byteLength_append, ← Nat.add_assoc] at clear
        obtain ⟨front, back, rfl, rfl, rfl⟩ := ih rest apart
        exact ⟨p :: front, back, rfl, rfl, rfl⟩
      -- Before the end of the first piece, only its start is inside no form.
      · cases x with
        | nil => exact ⟨[], p :: ps, rfl, rfl, whole⟩
        | cons d x =>
            cases p with
            | char e => simp [Piece.source] at inner
            | form covered value =>
                have clear := (List.forall_mem_cons.mp outside).1
                have ahead := byteLength_pos (List.cons_ne_nil d x)
                have behind := byteLength_pos (List.cons_ne_nil c more)
                rw [Piece.source] at inner
                simp only [inner, byteLength_append] at clear
                omega

/-- A stretch that meets no form stands among the pieces as characters. -/
theorem exists_split_of_clear {ps : List (Piece α)} {before inside after : List Char}
    (nonempty : ∀ covered value, .form covered value ∈ ps → covered ≠ [])
    (whole : sources ps = before ++ inside ++ after)
    (clear : ∀ found ∈ locate 0 ps,
      found.stop ≤ byteLength before ∨ byteLength (before ++ inside) ≤ found.start) :
    ∃ front mid back, ps = front ++ mid ++ back ∧ Plain mid ∧
      sources front = before ∧ sources mid = inside ∧ sources back = after := by
  have order := byteLength_append before inside
  have behind : ∀ found ∈ locate 0 ps, found.stop ≤ 0 + byteLength (before ++ inside) ∨
      0 + byteLength (before ++ inside) ≤ found.start := by
    intro found mem
    have apart := clear found mem
    omega
  obtain ⟨upTo, back, rfl, first, last⟩ := exists_split_at whole behind
  have ahead : ∀ found ∈ locate 0 upTo, found.stop ≤ 0 + byteLength before ∨
      0 + byteLength before ≤ found.start := by
    intro found mem
    have apart := clear found (by rw [locate_append]; exact List.mem_append_left _ mem)
    omega
  obtain ⟨front, mid, rfl, rfl, rfl⟩ := exists_split_at first ahead
  refine ⟨front, mid, back, rfl, ?_, rfl, rfl, last⟩
  rintro (c | ⟨covered, value⟩) mem
  · rfl
  -- A form among them would be located within the stretch.
  · obtain ⟨prior, later, rfl⟩ := List.append_of_mem mem
    have positive := byteLength_pos (nonempty covered value (by simp))
    have apart := clear ⟨byteLength (sources (front ++ prior)),
      byteLength (sources (front ++ prior)) + byteLength covered, value⟩
      (mem_locate.mpr ⟨front ++ prior, covered, later ++ back, by simp, by simp, rfl⟩)
    simp only [sources_append, sources_cons, Piece.source, byteLength_append] at apart
    omega

end Text

namespace Mention.Form

open Text

variable {form : Form} {text : String} {write : Mention → Except Error String}

/-! ## Mentions that cannot be written -/

theorem forall_forms_iff {P : Mention → Prop} :
    (∀ m ∈ forms (form.pieces text), P m) ↔ ∀ found ∈ form.findAll text, P found.value := by
  rw [← map_value_locate 0, ← findAll, List.forall_mem_map]

/-- Replacing fails with the first mention that cannot be written. -/
theorem replaceAll_eq_error_iff {e : Error} :
    form.replaceAll text write = .error e ↔
      ∃ front found back, form.findAll text = front ++ found :: back ∧
        (∀ earlier ∈ front, ∃ written, write earlier.value = .ok written) ∧
        write found.value = .error e := by
  rw [replaceAll, substitute_eq_error_iff, ← map_value_locate 0, ← findAll]
  constructor
  · rintro ⟨_, _, _, split, wrote, failed⟩
    obtain ⟨front, rest, all, rfl, tail⟩ := List.map_eq_append_iff.mp split
    obtain ⟨found, back, rfl, rfl, -⟩ := List.map_eq_cons_iff.mp tail
    exact ⟨front, found, back, all, fun earlier mem => wrote _ (List.mem_map_of_mem mem), failed⟩
  · rintro ⟨front, found, back, all, wrote, failed⟩
    exact ⟨front.map Located.value, found.value, back.map Located.value, by rw [all, List.map_append,
      List.map_cons], List.forall_mem_map.mpr wrote, failed⟩

/-- If every mention fails alike, a text with a mention fails so. -/
theorem replaceAll_of_failing {e : Error} (failing : ∀ m, write m = .error e)
    (mentioned : form.findAll text ≠ []) : form.replaceAll text write = .error e := by
  obtain ⟨first, rest, all⟩ := List.exists_cons_of_ne_nil mentioned
  exact replaceAll_eq_error_iff.mpr ⟨[], first, rest, all, by simp, failing first.value⟩

/-- Replacing fails where some mention cannot be written, and only there. -/
theorem exists_replaceAll_eq_error_iff :
    (∃ e, form.replaceAll text write = .error e) ↔
      ∃ found ∈ form.findAll text, ∃ e, write found.value = .error e := by
  constructor
  · rintro ⟨e, failed⟩
    obtain ⟨front, found, back, split, -, unwritten⟩ := replaceAll_eq_error_iff.mp failed
    exact ⟨found, by simp [split], e, unwritten⟩
  · rintro ⟨found, mem, e, unwritten⟩
    cases outcome : form.replaceAll text write with
    | error f => exact ⟨f, rfl⟩
    | ok out =>
        have written := forall_forms_iff.mp (exists_written_of_substitute outcome)
        obtain ⟨shown, wrote⟩ := written found mem
        rw [unwritten] at wrote
        cases wrote

/-! ## Mentions that are written -/

/-- A mention among the pieces covers its own full text. -/
theorem fullText_of_mem_pieces {covered : List Char} {m : Mention}
    (mem : .form covered m ∈ form.pieces text) :
    covered ≠ [] ∧ m.fullText = String.ofList covered := by
  obtain ⟨front, back, split⟩ := List.append_of_mem mem
  have walk := form.walks_mentions text
  rw [split] at walk
  obtain ⟨_, -, later⟩ := walk.split
  obtain ⟨-, rest, -, recognized⟩ := later.uncons_form
  have positive := (form.covering_recognizer recognized).1
  refine ⟨List.ne_nil_of_length_pos positive, ?_⟩
  rw [fullText_of_recognized recognized, List.take_left' rfl]

/-- Mentions written as they stand give the text again. -/
theorem replaceAll_fullText (form : Form) (text : String) :
    form.replaceAll text (fun m => .ok m.fullText) = .ok text := by
  rw [replaceAll, substitute_of_sources, (form.walks_mentions text).sources_eq,
    String.ofList_toList]
  exact fun covered m mem => congrArg Except.ok (fullText_of_mem_pieces mem).2

/-- No mention is found that meets the stretch of the text behind `before`. -/
def Clear (form : Form) (text : String) (before inside : List Char) : Prop :=
  ∀ found ∈ form.findAll text,
    found.stop ≤ byteLength before ∨ byteLength (before ++ inside) ≤ found.start

/-- The stretch stands in `out` as it does in the text, behind what the text before it is spliced
to and before what the text after it is spliced to. -/
def Copied (form : Form) (text : String) (shown : Mention → String) (before inside : List Char)
    (out : String) : Prop :=
  ∃ earlier later, form.findAll text = earlier ++ later ∧
    (∀ found ∈ earlier, found.stop ≤ byteLength before) ∧
    (∀ found ∈ later, byteLength (before ++ inside) ≤ found.start) ∧
    out = splice text shown 0 earlier (byteLength before) ++ String.ofList inside ++
      splice text shown (byteLength (before ++ inside)) later text.utf8ByteSize

section Written

variable {shown : Mention → String}

/-- **A text is written as spliced**: the slices around its mentions, with each of them as it is
shown. -/
theorem replaceAll_eq_splice
    (wrote : ∀ found ∈ form.findAll text, write found.value = .ok (shown found.value)) :
    form.replaceAll text write =
      .ok (splice text shown 0 (form.findAll text) text.utf8ByteSize) := by
  have sourced := (form.walks_mentions text).sources_eq
  have whole : text.toList = [] ++ sources (form.pieces text) ++ [] := by
    rw [List.append_nil, sourced, List.nil_append]
  have written : ∀ m ∈ forms (form.pieces text), write m = .ok (shown m) :=
    forall_forms_iff.mpr wrote
  rw [replaceAll, substitute_eq_splice whole written, List.nil_append, sourced,
    byteLength_toList]
  rfl

/-- **A stretch that meets no mention is copied**, whatever is written around it. -/
theorem copied_of_clear
    (wrote : ∀ found ∈ form.findAll text, write found.value = .ok (shown found.value))
    {before inside after : List Char} (whole : text.toList = before ++ inside ++ after)
    (clear : form.Clear text before inside) :
    ∃ out, form.replaceAll text write = .ok out ∧ form.Copied text shown before inside out := by
  have sourced := (form.walks_mentions text).sources_eq.trans whole
  obtain ⟨front, mid, back, split, plain, rfl, rfl, rfl⟩ :=
    exists_split_of_clear (fun _ _ mem => (fullText_of_mem_pieces mem).1) sourced clear
  have located : form.findAll text = locate 0 front ++
      locate (byteLength (sources front ++ sources mid)) back := by
    rw [findAll, split, locate_append, locate_append, locate_eq_nil_iff.mpr plain,
      List.append_nil, Nat.zero_add, sources_append]
  have written : ∀ m ∈ forms (form.pieces text), write m = .ok (shown m) :=
    forall_forms_iff.mpr wrote
  rw [split, forms_append, forms_append, List.forall_mem_append, List.forall_mem_append] at written
  refine ⟨_, ?_, _, _, located, ?_, ?_, rfl⟩
  -- The pieces before the stretch and those behind it are spliced on their own.
  · have ahead : text.toList = [] ++ sources front ++ (sources mid ++ sources back) := by
      rw [whole, List.nil_append, List.append_assoc]
    have behind : text.toList = sources front ++ sources mid ++ sources back ++ [] := by
      rw [whole, List.append_nil]
    have first := substitute_eq_splice ahead written.1.1
    have last := substitute_eq_splice behind written.2
    rw [← List.append_nil (_ ++ _ ++ _), ← behind, byteLength_toList] at last
    rw [replaceAll, split]
    exact substitute_append.mpr ⟨_, _, substitute_append.mpr ⟨_, _, first,
      substitute_of_plain plain, rfl⟩, last, rfl⟩
  · intro found mem
    obtain ⟨prior, covered, later, rfl, start, stop⟩ := mem_locate.mp mem
    simp only [sources_append, sources_cons, Piece.source, byteLength_append]
    omega
  · intro found mem
    obtain ⟨prior, covered, later, -, start, -⟩ := mem_locate.mp mem
    omega

end Written

/-! ## Escaped mentions -/

/-- The form can be read at a place right behind a backslash, and covers `covered` there. -/
structure EscapedAt (form : Form) (text : String) (before covered after : List Char) : Prop where
  whole : text.toList = before ++ covered ++ after
  escaped : before.getLast? = some '\\'
  read : (form.recognizer (covered ++ after)).map Prod.snd = some covered.length

/-- No mention that is found begins where an escaped one does. -/
theorem EscapedAt.start_ne {before covered after : List Char}
    (place : form.EscapedAt text before covered after) {found : Located Mention}
    (mem : found ∈ form.findAll text) : found.start ≠ byteLength before := by
  intro same
  obtain ⟨front, inside, rest, -, split, start, -, -, -, unescaped⟩ := foundAt_of_mem mem
  rw [place.whole, List.append_assoc, List.append_assoc] at split
  obtain rfl := eq_of_byteLength_eq split (same.symm.trans start)
  exact unescaped place.escaped

/-- **A text comes out with its mentions spliced into what stands around them.**  It fails where
some mention cannot be written, and with the failure of the first such.  Otherwise it is the slices
around the mentions with each mention as it is shown, and a stretch that meets no mention is
copied.  So mentions written as they stand give the text again, and a text without mentions stays
as it is.  Of an escaped mention this holds as far as no other mention begins inside it or takes it
in: none that is found begins at its place. -/
theorem replaceAll_splices (form : Form) (text : String)
    (write : Mention → Except Error String) :
    ((∃ e, form.replaceAll text write = .error e) ↔
      ∃ found ∈ form.findAll text, ∃ e, write found.value = .error e) ∧
    (∀ e, form.replaceAll text write = .error e ↔
      ∃ front found back, form.findAll text = front ++ found :: back ∧
        (∀ earlier ∈ front, ∃ written, write earlier.value = .ok written) ∧
        write found.value = .error e) ∧
    (∀ shown : Mention → String,
      (∀ found ∈ form.findAll text, write found.value = .ok (shown found.value)) →
      form.replaceAll text write =
        .ok (splice text shown 0 (form.findAll text) text.utf8ByteSize) ∧
      ∀ before inside after, text.toList = before ++ inside ++ after →
        form.Clear text before inside →
        ∃ out, form.replaceAll text write = .ok out ∧ form.Copied text shown before inside out) ∧
    form.replaceAll text (fun m => .ok m.fullText) = .ok text ∧
    (form.findAll text = [] → form.replaceAll text write = .ok text) ∧
    ∀ before covered after, form.EscapedAt text before covered after →
      ∀ found ∈ form.findAll text, found.start ≠ byteLength before :=
  ⟨exists_replaceAll_eq_error_iff, fun _ => replaceAll_eq_error_iff,
    fun _ wrote => ⟨replaceAll_eq_splice wrote, fun _ _ _ whole clear =>
      copied_of_clear wrote whole clear⟩,
    replaceAll_fullText form text, fun none => replaceAll_of_unmentioned none write,
    fun _ _ _ place _ mem => place.start_ne mem⟩

/-- What a mention is replaced by is not read again, also where it looks like one. -/
example : link.replaceAll "é[[ x ]][[ y ]] \\[[ z ]]" (fun m => .ok ("[[ " ++ m.label ++ "! ]]")) =
    .ok "é[[ x! ]][[ y! ]] \\[[ z ]]" := by
  rfl

/-- Inside an escaped link another one begins, and the escaped one is not copied. -/
theorem escaped_mention_rewritten :
    ∃ before covered,
      link.EscapedAt "\\[[ see [[ Mad Max ]]" before covered [] ∧
      link.replaceAll "\\[[ see [[ Mad Max ]]" (fun m => .ok ("<" ++ m.label ++ ">")) =
        .ok "\\[[ see <Mad Max>" ∧
      ∀ front back, "\\[[ see <Mad Max>" ≠ front ++ String.ofList covered ++ back := by
  refine ⟨['\\'], "[[ see [[ Mad Max ]]".toList, ⟨rfl, rfl, ?_⟩, ?_, ?_⟩
  · rfl
  · rfl
  · intro front back same
    have lengths := congrArg String.length same
    have written : "\\[[ see <Mad Max>".length = 17 := by decide
    have covered : "[[ see [[ Mad Max ]]".length = 20 := by decide
    rw [String.ofList_toList, String.length_append, String.length_append, written, covered]
      at lengths
    omega

end Mention.Form

end Wikilink
