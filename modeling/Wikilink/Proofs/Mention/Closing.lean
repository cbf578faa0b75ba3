/-
# Proofs.Mention.Closing -- where an embed ends

An embed ends at the first closing braces behind its first bar.  Whether these are
the first closing braces of the embed at all depends on its query, which may hold
braces: the embed closes once exactly where there are no closing braces before the
first bar (`closesOnce_embed_iff`).  So a form without an attribute is not passed
over.  It is taken for the beginning of a query, and the embed that lends it an
attribute goes with it (`recognizeEmbed_of_unfinished`).
-/
import Wikilink.Proofs.Mention.Search

namespace Wikilink.Mention

set_option autoImplicit false

open Text

/-- The first closing braces in a text are its end. -/
def ClosesOnce (s : List Char) : Prop :=
  ∀ front back, s = front ++ '}' :: '}' :: back → back = []

/-! ## Closing braces -/

variable {opening tail : List Char}

theorem closesOnce_of_braceless (braceless : '}' ∉ tail) : ClosesOnce (tail ++ ['}', '}']) := by
  intro front back same
  have length := congrArg List.length same
  simp only [List.length_append, List.length_cons, List.length_nil] at length
  have starts : front <+: tail :=
    List.prefix_of_prefix_length_le ⟨_, same.symm⟩ (List.prefix_append tail _) (by omega)
  obtain ⟨between, rfl⟩ := starts
  rw [List.append_assoc, List.append_cancel_left_eq] at same
  cases between with
  | nil => simpa using same.symm
  | cons c between =>
      obtain ⟨rfl, -⟩ := List.cons.inj same
      exact absurd (by simp) braceless

/-- A text that closes once behind its first bar closes once if nothing before the bar closes. -/
theorem closesOnce_append_iff {rest : List Char} (closed : ClosesOnce rest) :
    ClosesOnce (opening ++ '|' :: rest) ↔ ¬ ['}', '}'] <:+: opening := by
  constructor
  · rintro once ⟨front, back, rfl⟩
    have none := once front (back ++ '|' :: rest) (by simp)
    simp at none
  · intro unclosed front back same
    rcases List.append_eq_append_iff.mp same with ⟨between, -, later⟩ | ⟨between, rfl, later⟩
    -- Either the braces stand behind the bar, or at least the first of them stands before it.
    · cases between with
      | nil => simp at later
      | cons c between =>
          rw [List.cons_append, List.cons.injEq] at later
          exact closed between back later.2
    · rcases between with - | ⟨c, - | ⟨d, between⟩⟩
      · simp at later
      · simp at later
      · simp only [List.cons_append, List.cons.injEq] at later
        obtain ⟨rfl, rfl, -⟩ := later
        exact absurd ⟨front, between, by simp⟩ unclosed

/-! ## Embeds -/

theorem not_bar_of_inQuery {subject : List Char} (queried : ∀ c ∈ subject, inQuery c = true) :
    ∀ c ∈ '{' :: '{' :: subject, decide (c ≠ '|') = true := by
  intro c mem
  rcases List.mem_cons.mp mem with rfl | mem
  · decide
  · rcases List.mem_cons.mp mem with rfl | mem
    · decide
    · have admitted := queried c mem
      simp only [inQuery, Bool.and_eq_true] at admitted
      exact admitted.2

/-- **An embed closes once behind its first bar, and as a whole exactly if no closing braces stand
before that bar.** -/
theorem closesOnce_embed_iff {text : String} {found : Located Mention}
    (mem : found ∈ Form.embed.findAll text) :
    ∃ before slice after, text.toList = before ++ slice ++ after ∧
      found.start = byteLength before ∧ found.stop = byteLength (before ++ slice) ∧
      found.value.fullText = String.ofList slice ∧
      ClosesOnce (slice.dropWhile (· ≠ '|')) ∧
      (ClosesOnce slice ↔ ¬ ['}', '}'] <:+: slice.takeWhile (· ≠ '|')) := by
  obtain ⟨before, slice, after, whole, start, stop, -, recognized⟩ :=
    Form.recognized_of_mem_findAll mem
  have shown : found.value.fullText = String.ofList slice := by
    rw [Form.fullText_of_recognized recognized, List.take_left' rfl]
  obtain ⟨subject, tail, rfl, queried, braceless⟩ := covered_of_recognizeEmbed recognized
  have inside := not_bar_of_inQuery queried
  have bar : decide ('|' ≠ '|') = false := by decide
  refine ⟨before, _, after, whole, start, stop, shown, ?_, ?_⟩
  · rw [← List.cons_append, ← List.cons_append, dropWhile_run inside bar]
    have free : '}' ∉ '|' :: tail := by simpa using braceless
    exact closesOnce_of_braceless free
  · rw [← List.cons_append, ← List.cons_append, takeWhile_run inside bar]
    exact closesOnce_append_iff (closesOnce_of_braceless braceless)

/-- The embed of an image in a text, with its place. -/
def imageEmbed : Located Mention :=
  ⟨4, 25, ⟨"\x7b\x7b Mad Max | image \x7d\x7d", none, "Mad Max", .embed "image" {}⟩⟩

theorem closesOnce_embed_iff_image :
    imageEmbed ∈ Form.embed.findAll "See \x7b\x7b Mad Max | image \x7d\x7d. \x7d\x7d" ∧
      ClosesOnce "\x7b\x7b Mad Max | image \x7d\x7d".toList := by
  have all : Form.embed.findAll "See \x7b\x7b Mad Max | image \x7d\x7d. \x7d\x7d" =
      [imageEmbed] := rfl
  have mem := List.mem_singleton.mpr (rfl : imageEmbed = imageEmbed)
  rw [← all] at mem
  obtain ⟨-, slice, -, -, -, -, covered, -, closes⟩ := closesOnce_embed_iff mem
  have same : slice = "\x7b\x7b Mad Max | image \x7d\x7d".toList := by
    rw [← String.toList_ofList (l := slice), ← covered]
    rfl
  rw [same] at closes
  refine ⟨mem, closes.mpr fun unclosed => ?_⟩
  have brace : '}' ∈ "\x7b\x7b Mad Max | image \x7d\x7d".toList.takeWhile (· ≠ '|') :=
    unclosed.subset (by simp)
  exact absurd brace (by decide)

/-- **A form without an attribute is the beginning of a query**, which goes on to the first bar. -/
theorem recognizeEmbed_of_unfinished {form between query tail : List Char} {request : Request}
    (queried : ∀ c ∈ form ++ between ++ query, inQuery c = true) (braceless : '}' ∉ tail)
    (asked : embedRequest? tail = some request) (rest : List Char) :
    ∃ m, recognizeEmbed
        ("\x7b\x7b".toList ++ form ++ "\x7d\x7d".toList ++ between ++
          ("\x7b\x7b".toList ++ query ++ '|' :: tail ++ "\x7d\x7d".toList) ++ rest) =
      some (m, form.length + between.length + query.length + tail.length + 9) := by
  refine ⟨_, recognizeEmbed_eq_some_iff.mpr
    ⟨form ++ '}' :: '}' :: (between ++ '{' :: '{' :: query), tail, rest, request, ?_, by simp, ?_,
      braceless, asked, ?_, rfl⟩⟩
  · simp
  · intro c mem
    simp only [List.mem_append, List.mem_cons] at mem queried
    rcases mem with mem | rfl | rfl | mem | rfl | rfl | mem
    · exact queried c (Or.inl (Or.inl mem))
    · decide
    · decide
    · exact queried c (Or.inl (Or.inr mem))
    · decide
    · decide
    · exact queried c (Or.inr mem)
  · simp only [List.length_append, List.length_cons]
    omega

/-- The form of a lone name takes in the text and the embed behind it. -/
theorem unfinished_form_takes_in_embed :
    Form.embed.findAll "\x7b\x7b x \x7d\x7d and \x7b\x7b Mad Max | image \x7d\x7d" =
        [⟨0, 33, ⟨"\x7b\x7b x \x7d\x7d and \x7b\x7b Mad Max | image \x7d\x7d", none,
          "x \x7d\x7d and \x7b\x7b Mad Max", .embed "image" {}⟩⟩] ∧
      ¬ ClosesOnce "\x7b\x7b x \x7d\x7d and \x7b\x7b Mad Max | image \x7d\x7d".toList := by
  refine ⟨rfl, fun once => ?_⟩
  have none := once "\x7b\x7b x ".toList " and \x7b\x7b Mad Max | image \x7d\x7d".toList rfl
  exact absurd none (by decide)

end Wikilink.Mention
