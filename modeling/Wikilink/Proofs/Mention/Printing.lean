/-
# Proofs.Mention.Printing -- embeds as they can be written

An embed is written from a hint, a query, an attribute and options, with blanks around
each word and around the query (`EmbedLayout`).  However it is spaced, and in
whatever order its options stand, it is read back as what it was written from
(`parse?_print`).
-/
import Wikilink.Proofs.Mention.EmbedReading
import Wikilink.Proofs.Registry.Runs
import Wikilink.Proofs.Table

namespace Wikilink.Mention

set_option autoImplicit false

open Text

/-! ## Hints and queries -/

/-- A text that a registry accepts as a shortcut. -/
def IsShortcut (s : String) : Prop :=
  Registry.checkShortcuts [] [s] = .ok ()

theorem isShortcut_iff {s : String} : IsShortcut s ↔ IsWord s := by
  rw [IsShortcut, Registry.checkShortcuts_eq_ok_iff]
  simp [IsWord]

/-- Whatever a registration takes as a shortcut can stand before an arrow. -/
theorem isShortcut_of_register {ι : Type} [DecidableEq ι] {types : ι → LinkType}
    {r r' : Registry ι} {shortcuts : List String} {i : ι}
    (registered : r.register types shortcuts i = .ok r') : ∀ s ∈ shortcuts, IsShortcut s := by
  obtain ⟨-, -, names, -, -⟩ := Registry.register_ok registered
  obtain ⟨words, -, -⟩ := Registry.checkShortcuts_eq_ok_iff.mp names
  exact fun s mem => isShortcut_iff.mpr (words s mem)

/-- A query as it comes out of a mention. -/
structure IsQuery (s : String) : Prop where
  nonempty : s.toList ≠ []
  tight : trim s.toList = s.toList
  bracketless : ']' ∉ s.toList
  barless : '|' ∉ s.toList

/-! ## Embeds -/

/-- The parts of an embed with the blanks around them.  A query without a hint does not look like
one with a hint. -/
structure EmbedLayout extends RequestLayout where
  hint : Option (Padded IsShortcut)
  query : Padded IsQuery
  unhinted : hint = none → ¬ StartsWithHint query.text.toList

namespace EmbedLayout

/-- What stands before the first bar. -/
def subject (e : EmbedLayout) : List Char :=
  match e.hint with
  | none => e.query.print
  | some hint => hint.print ++ '-' :: '>' :: e.query.print

/-- The embed as it is written. -/
def print (e : EmbedLayout) : String :=
  String.ofList (embedText e.subject e.toRequestLayout)

/-! ## Reading what is written -/

theorem query_print_ne_nil (e : EmbedLayout) : e.query.print ≠ [] := by
  have nonempty := e.query.fits.nonempty
  simp [Padded.print, nonempty]

theorem subject_ne_nil (e : EmbedLayout) : e.subject ≠ [] := by
  unfold subject
  split
  · exact e.query_print_ne_nil
  · simp

theorem inQuery_of_mem_subject (e : EmbedLayout) : ∀ c ∈ e.subject, inQuery c = true := by
  have query : ∀ c ∈ e.query.text.toList, inQuery c = true :=
    inQuery_of_not_mem e.query.fits.bracketless e.query.fits.barless
  have queried : ∀ c ∈ e.query.print, inQuery c = true := fun c mem =>
    (Padded.mem_print mem).elim inQuery_of_isBlank (query c)
  unfold subject
  split
  · exact queried
  · rename_i hint _
    have letters : ∀ c ∈ hint.print, inQuery c = true := fun c mem =>
      (Padded.mem_print mem).elim inQuery_of_isBlank fun mem =>
        inQuery_of_isWord (isWord_of_mem (isShortcut_iff.mp hint.fits) mem)
    intro c mem
    simp only [List.mem_append, List.mem_cons] at mem
    rcases mem with mem | rfl | rfl | mem
    · exact letters c mem
    · decide
    · decide
    · exact queried c mem

/-- The hint and the query come apart at the arrow, and without a hint there is none. -/
theorem splitHint_subject (e : EmbedLayout) :
    splitHint e.subject = (e.hint.map Padded.text, e.query.text) := by
  have query : trimmed e.query.print = e.query.text := by
    rw [trimmed, Padded.trim_print, e.query.fits.tight, String.ofList_toList]
  unfold subject
  split
  · rename_i plain
    have unhinted : ∀ word rest, ¬ Hinted e.query.print word rest := fun word rest hinted =>
      e.unhinted plain (hinted.startsWithHint e.query.fits.nonempty e.query.fits.tight
        e.query.front e.query.back)
    rw [splitHint_of_unhinted unhinted, query, plain]
    rfl
  · rename_i hint given
    have hinted : Hinted (hint.print ++ '-' :: '>' :: e.query.print) hint.text.toList
        e.query.print :=
      ⟨hint.before, hint.after, rfl, hint.front, isShortcut_iff.mp hint.fits, hint.back,
        e.query_print_ne_nil⟩
    rw [splitHint_of_hinted hinted, String.ofList_toList, query, given]
    rfl

/-- An embed is recognized as it was written, whatever stands behind it. -/
theorem recognizeEmbed_print (e : EmbedLayout) (rest : List Char) :
    recognizeEmbed (e.print.toList ++ rest) =
      some (⟨e.print, e.hint.map Padded.text, e.query.text, .embed e.attr.text e.options⟩,
        e.print.toList.length) := by
  have text : e.print.toList = embedText e.subject e.toRequestLayout := String.toList_ofList
  rw [text, recognizeEmbed_embedText e.subject_ne_nil e.inQuery_of_mem_subject, splitHint_subject]
  rfl

/-- **An embed is read back as what it was written from**: with its hint, its query, its
attribute, its bare options in their order, and under each name the last value that was written
for it.  The pattern prefers to read the same. -/
theorem parse?_print (e : EmbedLayout) :
    Form.embed.parse? e.print =
        some ⟨e.print, e.hint.map Padded.text, e.query.text, .embed e.attr.text e.options⟩ ∧
      (embedPattern.readings e.print.toList).head?.map embedOf = Form.embed.parse? e.print ∧
      e.options.positional = e.values ∧
      ∀ name, e.options.named.find? name = List.lookup name e.entries.reverse := by
  refine ⟨?parsed, ?preferred, rfl, Table.find?_ofList e.entries⟩
  case parsed =>
    have recognized := e.recognizeEmbed_print []
    rw [List.append_nil] at recognized
    rw [Form.parse?, Form.recognizer, recognized]
    rfl
  case preferred =>
    rw [Form.parse?, Form.recognizer, recognizeEmbed_eq_head?, Option.map_map]
    rfl

/-- An embed with options of both kinds, where one name stands twice. -/
def siesta : EmbedLayout where
  hint := some (.spaced 1 "event" 0 rfl)
  query := .spaced 0 "Siesta" 1 ⟨by decide, by decide, by decide, by decide⟩
  attr := .spaced 1 "image" 2 rfl
  choices :=
    [.bare (.spaced 1 "300" 1 rfl), .named (.spaced 1 "alt" 1 rfl) (.spaced 1 "still" 1 rfl),
      .bare (.spaced 0 "large" 0 rfl), .named (.spaced 0 "alt" 0 rfl) (.spaced 0 "poster" 1 rfl)]
  unhinted := by simp

theorem parse?_print_siesta :
    siesta.print =
        "\x7b\x7b event->Siesta | image  | 300 | alt = still |large|alt=poster \x7d\x7d" ∧
      Form.embed.parse? siesta.print = some ⟨siesta.print, some "event", "Siesta",
        .embed "image" ⟨["300", "large"], [("alt", "poster")]⟩⟩ :=
  ⟨by decide, siesta.parse?_print.1⟩

end EmbedLayout

end Wikilink.Mention
