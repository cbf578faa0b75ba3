/-
# Proofs.Text.Pattern -- patterns and the reading that they prefer

A pattern says what may stand at the start of a text and which parts of it are kept.
A text often fits in more than one way: a repetition may stop early, an alternative
may be passed over.  `Pattern.readings` lists the ways, the preferred one first.  A
repetition goes on as long as it can and the earlier alternative is taken; such a
choice is given up only where what follows does not fit, and the latest choice is
given up first.  So the head of the list is what a search that goes back finds.

What is used of it: a reading takes the text apart (`whole_of_mem_readings`), a
repetition is a first one and more of them, or else nothing (`readings_many`), the
readings of a run of one class are its beginnings, the longest first
(`readings_many_one`), and the preferred reading of a sequence is found behind the
readings of its first part that lead nowhere (`head?_readings_seq`).
-/
import Wikilink.Proofs.Text.Scan

namespace Wikilink.Text

set_option autoImplicit false

/-- What may stand at the start of a text.  Parts are kept under names. -/
inductive Pattern (γ : Type) where
  /-- Nothing. -/
  | nothing
  /-- A character of a class. -/
  | one (inside : Char → Bool)
  /-- The one and then the other. -/
  | seq (first second : Pattern γ)
  /-- The one, or else the other. -/
  | either (first second : Pattern γ)
  /-- As often as possible, or less often. -/
  | many (body : Pattern γ)
  /-- A part that is kept. -/
  | keep (name : γ) (body : Pattern γ)

/-- A way in which the start of a text fits a pattern. -/
structure Reading (γ : Type) where
  covered : List Char
  rest : List Char
  parts : List (γ × List Char) := []

variable {γ : Type}

/-- A reading and one that begins where it ends. -/
def Reading.andThen (r q : Reading γ) : Reading γ :=
  ⟨r.covered ++ q.covered, q.rest, r.parts ++ q.parts⟩

/-- The reading with what it covers kept under a name. -/
def Reading.keep (name : γ) (r : Reading γ) : Reading γ :=
  { r with parts := r.parts ++ [(name, r.covered)] }

@[simp] theorem Reading.rest_andThen (r q : Reading γ) : (r.andThen q).rest = q.rest := rfl

@[simp] theorem Reading.covered_andThen (r q : Reading γ) :
    (r.andThen q).covered = r.covered ++ q.covered := rfl

@[simp] theorem Reading.rest_keep (name : γ) (r : Reading γ) : (r.keep name).rest = r.rest := rfl

@[simp] theorem Reading.covered_keep (name : γ) (r : Reading γ) :
    (r.keep name).covered = r.covered := rfl

/-- The part that is kept under a name. -/
def Reading.part? [DecidableEq γ] (r : Reading γ) (name : γ) : Option (List Char) :=
  (r.parts.find? fun part => part.1 = name).map Prod.snd

namespace Pattern

/-- What at most `bound` repetitions of a step read; a step that reads nothing does not count. -/
def repeated (step : List Char → List (Reading γ)) : Nat → List Char → List (Reading γ)
  | 0, s => [⟨[], s, []⟩]
  | bound + 1, s =>
      ((step s).filter (·.covered ≠ [])).flatMap
        (fun r => (repeated step bound r.rest).map r.andThen) ++ [⟨[], s, []⟩]

/-- The readings of the start of a text, in the order of preference.  A text of `n` characters
leaves no room for more than `n` repetitions. -/
def readings : Pattern γ → List Char → List (Reading γ)
  | nothing, s => [⟨[], s, []⟩]
  | one _, [] => []
  | one inside, c :: cs => if inside c then [⟨[c], cs, []⟩] else []
  | seq first second, s =>
      (readings first s).flatMap fun r => (readings second r.rest).map r.andThen
  | either first second, s => readings first s ++ readings second s
  | many body, s => repeated (readings body) s.length s
  | keep name body, s => (readings body s).map (Reading.keep name)

/-! ## Common patterns -/

/-- The pattern, if it fits. -/
def optional (body : Pattern γ) : Pattern γ :=
  either body nothing

/-- A character of a class, and more of them. -/
def run (inside : Char → Bool) : Pattern γ :=
  seq (one inside) (many (one inside))

/-- Any number of blanks. -/
def blanks : Pattern γ :=
  many (one isBlank)

/-- Characters that have to stand there as they are. -/
def exactly : List Char → Pattern γ
  | [] => nothing
  | c :: cs => seq (one (· = c)) (exactly cs)

variable {p q : Pattern γ} {s : List Char} {r : Reading γ} {inside : Char → Bool}

/-! ## Sequences -/

theorem mem_readings_seq :
    r ∈ (seq p q).readings s ↔
      ∃ r₁ ∈ p.readings s, ∃ r₂ ∈ q.readings r₁.rest, r = r₁.andThen r₂ := by
  simp only [readings, List.mem_flatMap, List.mem_map, eq_comm]

theorem mem_readings_keep {name : γ} :
    r ∈ (keep name p).readings s ↔ ∃ r₁ ∈ p.readings s, r = r₁.keep name := by
  simp only [readings, List.mem_map, eq_comm]

theorem mem_readings_either :
    r ∈ (either p q).readings s ↔ r ∈ p.readings s ∨ r ∈ q.readings s := by
  rw [readings, List.mem_append]

/-- **A sequence prefers the first reading of its first part that leads on.** -/
theorem head?_readings_seq {front back : List (Reading γ)} {r₁ r₂ : Reading γ}
    (order : p.readings s = front ++ r₁ :: back) (stuck : ∀ r ∈ front, q.readings r.rest = [])
    (leads : (q.readings r₁.rest).head? = some r₂) :
    ((seq p q).readings s).head? = some (r₁.andThen r₂) := by
  have passed : (front.flatMap fun r => (q.readings r.rest).map r.andThen) = [] := by
    rw [List.flatMap_eq_nil_iff]
    intro r mem
    rw [stuck r mem, List.map_nil]
  rw [readings, order, List.flatMap_append, passed, List.nil_append, List.flatMap_cons]
  obtain ⟨more, rest⟩ := List.head?_eq_some_iff.mp leads
  rw [rest]
  rfl

/-- The preferred reading of the first part, if it leads on, and the preferred one behind it. -/
theorem head?_readings_seq_of_head? {r₁ r₂ : Reading γ} (first : (p.readings s).head? = some r₁)
    (leads : (q.readings r₁.rest).head? = some r₂) :
    ((seq p q).readings s).head? = some (r₁.andThen r₂) := by
  obtain ⟨back, order⟩ := List.head?_eq_some_iff.mp first
  rw [← List.nil_append (r₁ :: back)] at order
  exact head?_readings_seq order (by simp) leads

theorem head?_readings_either_left (fits : (p.readings s).head? = some r) :
    ((either p q).readings s).head? = some r := by
  rw [readings, List.head?_append, fits]
  rfl

theorem readings_either_right (stuck : p.readings s = []) :
    (either p q).readings s = q.readings s := by
  rw [readings, stuck, List.nil_append]

theorem readings_optional : (optional p).readings s = p.readings s ++ ⟨[], s, []⟩ :: [] := rfl

/-- What is optional is read where it fits. -/
theorem head?_readings_optional (fits : (p.readings s).head? = some r) :
    ((optional p).readings s).head? = some r :=
  head?_readings_either_left fits

theorem head?_readings_keep (name : γ) :
    ((keep name p).readings s).head? = ((p.readings s).head?).map (Reading.keep name) := by
  rw [readings, List.head?_map]

/-! ## What is covered -/

theorem whole_of_mem_repeated {step : List Char → List (Reading γ)}
    (whole : ∀ {s r}, r ∈ step s → s = r.covered ++ r.rest) {bound : Nat}
    (mem : r ∈ repeated step bound s) : s = r.covered ++ r.rest := by
  induction bound generalizing s r with
  | zero =>
      obtain rfl := List.mem_singleton.mp mem
      rfl
  | succ bound ih =>
      simp only [repeated, List.mem_append, List.mem_flatMap, List.mem_filter, List.mem_map,
        List.mem_singleton] at mem
      rcases mem with ⟨r₁, ⟨first, -⟩, r₂, second, rfl⟩ | rfl
      · rw [whole first, ih second, Reading.andThen, List.append_assoc]
      · rfl

/-- **A reading takes the text apart.** -/
theorem whole_of_mem_readings (mem : r ∈ p.readings s) : s = r.covered ++ r.rest := by
  induction p generalizing s r with
  | nothing =>
      obtain rfl := List.mem_singleton.mp mem
      rfl
  | one inside =>
      cases s with
      | nil => cases mem
      | cons c s =>
          rw [readings] at mem
          split at mem
          · obtain rfl := List.mem_singleton.mp mem
            rfl
          · cases mem
  | seq p q ihP ihQ =>
      obtain ⟨r₁, first, r₂, second, rfl⟩ := mem_readings_seq.mp mem
      rw [ihP first, ihQ second, Reading.andThen, List.append_assoc]
  | either p q ihP ihQ => exact (mem_readings_either.mp mem).elim ihP ihQ
  | many p ih => exact whole_of_mem_repeated ih mem
  | keep name p ih =>
      obtain ⟨r₁, first, rfl⟩ := mem_readings_keep.mp mem
      have whole : s = r₁.covered ++ r₁.rest := ih first
      exact whole

/-! ## Repetitions -/

/-- A repetition that covers something leaves less to read. -/
theorem length_rest_lt (mem : r ∈ (p.readings s).filter (·.covered ≠ [])) :
    r.rest.length < s.length := by
  obtain ⟨read, covers⟩ := List.mem_filter.mp mem
  have covers : r.covered ≠ [] := of_decide_eq_true covers
  rw [whole_of_mem_readings read, List.length_append]
  have positive := List.length_pos_iff.mpr covers
  omega

theorem repeated_nil (bound : Nat) : repeated p.readings bound [] = [⟨[], [], []⟩] := by
  cases bound with
  | zero => rfl
  | succ bound =>
      have none : (p.readings []).filter (·.covered ≠ []) = [] := by
        rw [List.eq_nil_iff_forall_not_mem]
        exact fun r mem => absurd (length_rest_lt mem) (Nat.not_lt_zero _)
      simp only [repeated, none, List.flatMap_nil, List.nil_append]

/-- Room for more repetitions than there are characters makes no difference. -/
theorem repeated_eq_of_le {bound more : Nat} (room : s.length ≤ bound) (room' : s.length ≤ more) :
    repeated p.readings bound s = repeated p.readings more s := by
  induction bound generalizing s more with
  | zero =>
      rw [List.eq_nil_of_length_eq_zero (Nat.le_zero.mp room), repeated_nil, repeated_nil]
  | succ bound ih =>
      cases more with
      | zero =>
          rw [List.eq_nil_of_length_eq_zero (Nat.le_zero.mp room'), repeated_nil, repeated_nil]
      | succ more =>
          rw [repeated, repeated, List.flatMap_def, List.flatMap_def]
          congr 2
          refine List.map_congr_left fun r mem => ?_
          have shorter := length_rest_lt mem
          rw [@ih r.rest more (by omega) (by omega)]

/-- **A repetition is a first one and more of them, or else nothing.** -/
theorem readings_many :
    (many p).readings s =
      ((p.readings s).filter (·.covered ≠ [])).flatMap
        (fun r => ((many p).readings r.rest).map r.andThen) ++ [⟨[], s, []⟩] := by
  have room : (many p).readings s = repeated p.readings (s.length + 1) s :=
    repeated_eq_of_le (Nat.le_refl _) (Nat.le_succ _)
  rw [room, repeated, List.flatMap_def, List.flatMap_def]
  congr 2
  refine List.map_congr_left fun r mem => ?_
  rw [readings, repeated_eq_of_le (Nat.le_of_lt (length_rest_lt mem)) (Nat.le_refl _)]

/-- Where the body cannot be read, it is repeated no more. -/
theorem readings_many_of_stuck (stuck : p.readings s = []) :
    (many p).readings s = [⟨[], s, []⟩] := by
  rw [readings_many, stuck]
  rfl

theorem head?_readings_many {r₁ r₂ : Reading γ} (first : (p.readings s).head? = some r₁)
    (covers : r₁.covered ≠ []) (more : ((many p).readings r₁.rest).head? = some r₂) :
    ((many p).readings s).head? = some (r₁.andThen r₂) := by
  obtain ⟨others, order⟩ := List.head?_eq_some_iff.mp first
  obtain ⟨behind, rest⟩ := List.head?_eq_some_iff.mp more
  rw [readings_many, order, List.filter_cons_of_pos (by simp [covers]), List.flatMap_cons, rest]
  rfl

/-- What holds of nothing, and of one reading more before what it holds of, holds of what a
repetition covers. -/
theorem covered_of_mem_readings_many (Holds : List Char → Prop) (nothing : Holds [])
    (more : ∀ {s r c}, r ∈ p.readings s → Holds c → Holds (r.covered ++ c))
    (mem : r ∈ (many p).readings s) : Holds r.covered := by
  induction length : s.length using Nat.strongRecOn generalizing s r with
  | ind n ih =>
    rw [readings_many] at mem
    simp only [List.mem_append, List.mem_flatMap, List.mem_map, List.mem_singleton] at mem
    rcases mem with ⟨r₁, first, r₂, second, rfl⟩ | rfl
    · have shorter := length_rest_lt first
      exact more (List.mem_filter.mp first).1 (ih r₁.rest.length (length ▸ shorter) second rfl)
    · exact nothing

/-! ## Runs of a class -/

/-- The ways to cut a text in two, the longest first part first. -/
def cuts : List Char → List (List Char × List Char)
  | [] => [([], [])]
  | c :: cs => (cuts cs).map (fun cut => (c :: cut.1, cut.2)) ++ [([], c :: cs)]

theorem mem_cuts {a b : List Char} : (a, b) ∈ cuts s ↔ s = a ++ b := by
  induction s generalizing a with
  | nil => simp [cuts, eq_comm]
  | cons c s ih =>
      simp only [cuts, List.mem_append, List.mem_map, List.mem_singleton, Prod.mk.injEq]
      constructor
      · rintro (⟨⟨a', b'⟩, cut, rfl, rfl⟩ | ⟨rfl, rfl⟩)
        · rw [ih.mp cut, List.cons_append]
        · rfl
      · intro same
        cases a with
        | nil => exact Or.inr ⟨rfl, same.symm⟩
        | cons d a =>
            obtain ⟨rfl, tail⟩ := List.cons.inj same
            exact Or.inl ⟨(a, b), ih.mpr tail, rfl, rfl⟩

theorem cuts_concat (s : List Char) (c : Char) :
    cuts (s ++ [c]) = (s ++ [c], []) :: (cuts s).map fun cut => (cut.1, cut.2 ++ [c]) := by
  induction s with
  | nil => rfl
  | cons d s ih => simp [cuts, ih]

theorem exists_cuts_eq (s : List Char) : ∃ more, cuts s = (s, []) :: more := by
  rcases List.eq_nil_or_concat s with rfl | ⟨front, c, rfl⟩
  · exact ⟨[], rfl⟩
  · exact ⟨_, by rw [List.concat_eq_append, cuts_concat]⟩

/-- No character of the class comes next. -/
def Ends (inside : Char → Bool) (s : List Char) : Prop :=
  ∀ c ∈ s.head?, inside c = false

theorem ends_cons {c : Char} (outside : inside c = false) (s : List Char) :
    Ends inside (c :: s) := by
  intro d next
  cases next
  exact outside

theorem ends_dropWhile (inside : Char → Bool) (s : List Char) :
    Ends inside (s.dropWhile inside) := by
  intro c next
  have outside := List.head?_dropWhile_not inside s
  rw [Option.mem_def.mp next] at outside
  simpa using outside

/-- The text that a class covers, and a text that it does not go on with. -/
theorem repeated_one {run rest : List Char} (covers : ∀ c ∈ run, inside c = true)
    (ends : Ends inside rest) {bound : Nat} (room : run.length ≤ bound) :
    repeated (one inside : Pattern γ).readings bound (run ++ rest) =
      (cuts run).map fun cut => ⟨cut.1, cut.2 ++ rest, []⟩ := by
  induction run generalizing bound with
  | nil =>
      cases bound with
      | zero => rfl
      | succ bound =>
          cases rest with
          | nil => rfl
          | cons c rest =>
              have outside : inside c = false := ends c rfl
              simp [repeated, readings, outside, cuts]
  | cons c run ih =>
      obtain ⟨bound, rfl⟩ : ∃ k, bound = k + 1 := ⟨bound - 1, by simp at room; omega⟩
      have first : inside c = true := covers c (by simp)
      have later := @ih (fun d mem => covers d (by simp [mem])) bound (by simpa using room)
      simp [repeated, readings, first, later, cuts, Reading.andThen]

/-- **The readings of a run are its beginnings, the longest first.** -/
theorem readings_many_one {run rest : List Char} (covers : ∀ c ∈ run, inside c = true)
    (ends : Ends inside rest) :
    (many (one inside) : Pattern γ).readings (run ++ rest) =
      (cuts run).map fun cut => ⟨cut.1, cut.2 ++ rest, []⟩ :=
  repeated_one covers ends (by simp)

theorem mem_readings_many_one :
    r ∈ (many (one inside) : Pattern γ).readings s ↔
      ∃ a b, s = a ++ b ∧ (∀ c ∈ a, inside c = true) ∧ r = ⟨a, b, []⟩ := by
  have whole := List.takeWhile_append_dropWhile (p := inside) (l := s)
  have covers : ∀ c ∈ s.takeWhile inside, inside c = true := fun c mem =>
    List.mem_takeWhile_imp mem
  have listed := readings_many_one (γ := γ) covers (ends_dropWhile inside s)
  rw [whole] at listed
  simp only [listed, List.mem_map, Prod.exists, mem_cuts]
  constructor
  · rintro ⟨a, b, cut, rfl⟩
    refine ⟨a, b ++ s.dropWhile inside, ?_, fun c mem => ?_, rfl⟩
    · rw [← List.append_assoc, ← cut, whole]
    · exact List.mem_takeWhile_imp (l := s) (by rw [cut]; exact List.mem_append_left _ mem)
  · rintro ⟨a, b, rfl, covers, rfl⟩
    refine ⟨a, b.takeWhile inside, List.takeWhile_append_of_pos covers, ?_⟩
    rw [List.dropWhile_append_of_pos covers, List.takeWhile_append_dropWhile]

theorem head?_readings_many_one {run rest : List Char} (covers : ∀ c ∈ run, inside c = true)
    (ends : Ends inside rest) :
    ((many (one inside) : Pattern γ).readings (run ++ rest)).head? = some ⟨run, rest, []⟩ := by
  obtain ⟨more, order⟩ := exists_cuts_eq run
  rw [readings_many_one covers ends, order]
  rfl

theorem head?_readings_blanks {run rest : List Char} (covers : ∀ c ∈ run, isBlank c = true)
    (ends : Ends isBlank rest) :
    ((blanks : Pattern γ).readings (run ++ rest)).head? = some ⟨run, rest, []⟩ :=
  head?_readings_many_one covers ends

/-- The second reading of a run leaves its last character to what follows. -/
theorem exists_readings_many_one_eq {run rest : List Char} {c : Char}
    (covers : ∀ d ∈ run, inside d = true) (last : inside c = true) (ends : Ends inside rest) :
    ∃ more, (many (one inside) : Pattern γ).readings (run ++ c :: rest) =
      [⟨run ++ [c], rest, []⟩] ++ ⟨run, c :: rest, []⟩ :: more := by
  have all : ∀ d ∈ run ++ [c], inside d = true := by
    intro d mem
    rcases List.mem_append.mp mem with mem | mem
    · exact covers d mem
    · exact List.mem_singleton.mp mem ▸ last
  obtain ⟨more, order⟩ := exists_cuts_eq run
  rw [List.append_cons, readings_many_one all ends, cuts_concat, order]
  exact ⟨_, rfl⟩

theorem mem_readings_one :
    r ∈ (one inside : Pattern γ).readings s ↔
      ∃ c rest, s = c :: rest ∧ inside c = true ∧ r = ⟨[c], rest, []⟩ := by
  cases s with
  | nil => simp [readings]
  | cons c rest =>
      rw [readings]
      split
      · rename_i first
        constructor
        · intro mem
          exact ⟨c, rest, rfl, first, List.mem_singleton.mp mem⟩
        · rintro ⟨d, rest', same, -, rfl⟩
          obtain ⟨rfl, rfl⟩ := List.cons.inj same
          exact List.mem_singleton.mpr rfl
      · rename_i outside
        constructor
        · intro mem
          cases mem
        · rintro ⟨d, rest', same, first, -⟩
          obtain ⟨rfl, rfl⟩ := List.cons.inj same
          exact absurd first outside

theorem mem_readings_run :
    r ∈ (run inside : Pattern γ).readings s ↔
      ∃ a b, s = a ++ b ∧ a ≠ [] ∧ (∀ c ∈ a, inside c = true) ∧ r = ⟨a, b, []⟩ := by
  rw [run, mem_readings_seq]
  constructor
  · rintro ⟨r₁, first, r₂, second, rfl⟩
    obtain ⟨c, rest, rfl, member, rfl⟩ := mem_readings_one.mp first
    obtain ⟨a, b, rfl, covers, rfl⟩ := mem_readings_many_one.mp second
    refine ⟨c :: a, b, rfl, List.cons_ne_nil c a, ?_, rfl⟩
    simpa [member] using covers
  · rintro ⟨a, b, rfl, nonempty, covers, rfl⟩
    obtain ⟨c, a, rfl⟩ := List.exists_cons_of_ne_nil nonempty
    simp only [List.mem_cons, forall_eq_or_imp] at covers
    exact ⟨_, mem_readings_one.mpr ⟨c, a ++ b, rfl, covers.1, rfl⟩, _,
      mem_readings_many_one.mpr ⟨a, b, rfl, covers.2, rfl⟩, rfl⟩

theorem head?_readings_run {run rest : List Char} (nonempty : run ≠ [])
    (covers : ∀ c ∈ run, inside c = true) (ends : Ends inside rest) :
    ((Pattern.run inside : Pattern γ).readings (run ++ rest)).head? = some ⟨run, rest, []⟩ := by
  obtain ⟨c, run, rfl⟩ := List.exists_cons_of_ne_nil nonempty
  simp only [List.mem_cons, forall_eq_or_imp] at covers
  have first : ((one inside : Pattern γ).readings (c :: run ++ rest)).head? =
      some ⟨[c], run ++ rest, []⟩ := by
    simp [readings, covers.1]
  exact head?_readings_seq_of_head? first (head?_readings_many_one covers.2 ends)

/-! ## Characters as they are -/

theorem mem_readings_exactly {word : List Char} :
    r ∈ (exactly word : Pattern γ).readings s ↔
      ∃ rest, s = word ++ rest ∧ r = ⟨word, rest, []⟩ := by
  induction word generalizing s r with
  | nil => simp [exactly, readings]
  | cons c word ih =>
      rw [exactly, mem_readings_seq]
      constructor
      · rintro ⟨r₁, first, r₂, second, rfl⟩
        obtain ⟨d, rest, rfl, same, rfl⟩ := mem_readings_one.mp first
        obtain ⟨rest, rfl, rfl⟩ := ih.mp second
        exact ⟨rest, by rw [of_decide_eq_true same]; rfl, by rw [of_decide_eq_true same]; rfl⟩
      · rintro ⟨rest, rfl, rfl⟩
        exact ⟨_, mem_readings_one.mpr ⟨c, word ++ rest, rfl, decide_eq_true rfl, rfl⟩, _,
          ih.mpr ⟨rest, rfl, rfl⟩, rfl⟩

theorem head?_readings_exactly (word rest : List Char) :
    ((exactly word : Pattern γ).readings (word ++ rest)).head? = some ⟨word, rest, []⟩ := by
  induction word with
  | nil => rfl
  | cons c word ih =>
      have first : ((one (· = c) : Pattern γ).readings (c :: word ++ rest)).head? =
          some ⟨[c], word ++ rest, []⟩ := by
        simp [readings]
      exact head?_readings_seq_of_head? first ih

end Pattern

end Wikilink.Text
