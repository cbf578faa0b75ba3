/-
# Proofs.Rendering -- what the embed pass does to the links

Embeds are searched for in the text that the link pass wrote, so what a link was
replaced by can be taken for an embed.  A text without embeds keeps its links as
they were written exactly where that text has no embed either
(`process_of_unembedded`), and an embed that is found there is never one of the
characters that were copied from the text: it takes in what a link was replaced by
or stretches over it (`not_copied_of_unembedded`).
-/
import Wikilink.Proofs.Mention.Search
import Wikilink.Proofs.Resolution
import Wikilink.Site.Rendering

namespace Wikilink

set_option autoImplicit false

open Text

/-! ## Copied characters -/

/-- What stands behind `front` in the written text, as far as `covered`, are characters that were
copied from between the forms. -/
def Text.Copied {α ε : Type} (write : α → Except ε String) (pieces : List (Piece α))
    (front covered : List Char) : Prop :=
  ∃ before run after written, pieces = before ++ run ++ after ∧ Plain run ∧
    substitute write before = .ok written ∧ written.toList <+: front ∧
    front ++ covered <+: written.toList ++ sources run

theorem escapedAfter_cons_left {escape : Option Char} (a b : Bool) (c : Char) (cs : List Char) :
    escapedAfter escape a (c :: cs) = escapedAfter escape b (c :: cs) :=
  rfl

/-- Replacing links brings no backslash right before what follows them. -/
theorem Mention.Form.escapedAfter_written {text : String} {before rest : List (Piece Mention)}
    {write : Mention → Except Error String} {written : String}
    (whole : Form.link.pieces text = before ++ rest)
    (wrote : substitute write before = .ok written)
    (escaped : escapedAfter (some '\\') false (sources before) = true) :
    escapedAfter (some '\\') false written.toList = true := by
  rcases List.eq_nil_or_concat before with rfl | ⟨init, last, rfl⟩
  · cases escaped
  · have walk := Form.link.walks_mentions text
    rw [whole, List.concat_eq_append, List.append_assoc] at walk
    obtain ⟨tail, -, later⟩ := walk.split
    rw [List.concat_eq_append] at wrote escaped
    obtain ⟨front, back, -, ended, rfl⟩ := substitute_append.mp wrote
    cases last with
    | char c =>
        obtain ⟨none, nothing, rfl⟩ := substitute_char.mp ended
        cases nothing
        have same : sources (init ++ [.char c]) = sources init ++ [c] := by simp [Piece.source]
        rw [same, escapedAfter_concat] at escaped
        have shown : (front ++ (String.singleton c ++ "")).toList = front.toList ++ [c] := by simp
        rw [shown, escapedAfter_concat]
        exact escaped
    | form covered m =>
        obtain ⟨-, t, -, recognized⟩ := later.uncons_form
        obtain ⟨content, rfl, -⟩ := covered_of_recognizeLink recognized
        have same : sources (init ++ [.form ('[' :: '[' :: (content ++ [']', ']'])) m]) =
            (sources init ++ '[' :: '[' :: (content ++ [']'])) ++ [']'] := by
          simp [Piece.source]
        rw [same, escapedAfter_concat] at escaped
        exact absurd escaped (by decide)

/-- Where a text has no embed, the characters copied from between its links make none. -/
theorem Mention.Form.not_copied_of_unembedded {text linked : String}
    {write : Mention → Except Error String} (none : Form.embed.findAll text = [])
    {front back : List (Piece Mention)} {covered : List Char} {m : Mention}
    (found : Form.embed.pieces linked = front ++ .form covered m :: back) :
    ¬ Text.Copied write (Form.link.pieces text) (sources front) covered := by
  rintro ⟨before, run, after, written, whole, plain, wrote, ⟨u, starts⟩, ⟨v, within⟩⟩
  rw [← starts, List.append_assoc, List.append_assoc, List.append_cancel_left_eq] at within
  have embeds := Form.embed.walks_mentions linked
  rw [found] at embeds
  obtain ⟨rest, -, later⟩ := embeds.split
  obtain ⟨unescaped, t, -, recognized⟩ := later.uncons_form
  -- The same characters are recognized in the text itself, so a backslash stands before them.
  have here := local_recognizeEmbed (v ++ sources after) recognized
  rw [List.take_left' rfl] at here
  have links := (Form.link.walks_mentions text).sources_eq
  have split : text.toList = (sources before ++ u) ++ (covered ++ (v ++ sources after)) := by
    rw [← links, whole]
    simp only [sources_append, ← within, List.append_assoc]
  have nonempty : covered ++ (v ++ sources after) ≠ [] := by
    have positive := (covering_recognizeEmbed recognized).1
    intro none
    rw [(List.append_eq_nil_iff.mp none).1] at positive
    exact absurd positive (by decide)
  have escaped := (Form.embed.walks_mentions text).escaped_of_recognized
    (findAll_eq_nil_iff.mp none) split nonempty here
  rw [escapedAfter_append] at escaped
  rw [← starts, escapedAfter_append] at unescaped
  cases u with
  | nil =>
      have shown := escapedAfter_written (whole.trans (List.append_assoc ..)) wrote escaped
      exact absurd (shown.symm.trans unescaped) (by decide)
  | cons c cs =>
      rw [escapedAfter_cons_left _ (escapedAfter (some '\\') false written.toList)] at escaped
      exact absurd (escaped.symm.trans unescaped) (by decide)

/-! ## The two passes -/

namespace Site

variable {ι : Type} [DecidableEq ι]

/-- The text with its links alone replaced. -/
def linked (s : Site ι) (text : String) : Except Error String :=
  Mention.Form.link.replaceAll text s.renderMention

theorem process_of_linked {s : Site ι} {text written : String}
    (done : s.linked text = .ok written) :
    s.process text = Mention.Form.embed.replaceAll written s.renderMention := by
  unfold linked at done
  rw [process, done]
  rfl

/-- **Where a text has no embed, its links stay as they were written exactly if what was written
has none either.**  Otherwise something that the links were replaced by is taken for an embed: the
embeds that are found are not among the characters that were copied from the text. -/
theorem process_of_unembedded (s : Site ι) {text : String}
    (none : Mention.Form.embed.findAll text = []) :
    (∀ e, s.linked text = .error e → s.process text = .error e) ∧
    ∀ written, s.linked text = .ok written →
      (Mention.Form.embed.findAll written = [] → s.process text = .ok written) ∧
      ((∀ write : Mention → String,
          Mention.Form.embed.replaceAll written (fun m => .ok (write m)) = .ok written) ↔
        Mention.Form.embed.findAll written = []) ∧
      ∀ (front back : List (Piece Mention)) covered m,
        Mention.Form.embed.pieces written = front ++ .form covered m :: back →
          ¬ Text.Copied s.renderMention (Mention.Form.link.pieces text) (Text.sources front)
            covered := by
  constructor
  · intro e failed
    unfold linked at failed
    rw [process, failed]
    rfl
  · intro written done
    refine ⟨fun unembedded => ?_, Mention.Form.replaceAll_eq_self_iff, ?_⟩
    · rw [process_of_linked done]
      exact Mention.Form.replaceAll_of_unmentioned unembedded _
    · intro front back covered m found
      exact Mention.Form.not_copied_of_unembedded none found

theorem process_of_unembedded_title :
    Mention.Form.embed.findAll "See [[ Mad Max! | it ]]." = [] ∧
      indexedFilms.process "See [[ Mad Max! | it ]]." =
        .ok "See <a href=\"\" title=\"Mad Max\">it</a>." := by
  have none : Mention.Form.embed.findAll "See [[ Mad Max! | it ]]." = [] := by decide
  have links : indexedFilms.linked "See [[ Mad Max! | it ]]." =
      .ok "See <a href=\"\" title=\"Mad Max\">it</a>." := by decide
  exact ⟨none, ((process_of_unembedded indexedFilms none).2 _ links).1 (by decide)⟩

/-- A site with a film whose text of its own has the form of an embed. -/
def posters : Site Unit where
  types := fun _ =>
    { schema := ⟨"movie", [("poster", .field), ("title", .field)]⟩
      searched := [.single "title"]
      embeddable := ["poster"] }
  sources := fun _ => ({} : Source).insert
    { id := 1
      display := "\x7b\x7b Mad Max | poster \x7d\x7d"
      fields := [("title", .text "Mad Max")]
      embed := fun _ _ => .ok "<img>" }
  registry := ⟨[("m", ())]⟩
  index := ⟨[⟨"madmax", "movie", 1⟩], [⟨"madmax", "movie", 1⟩]⟩
  render := Template.html

/-- The text of an object is expanded as an embed, inside of an attribute. -/
theorem process_expands_display :
    posters.registry.Reachable posters.types ∧ posters.rebuild.index = posters.index ∧
      Mention.Form.embed.findAll "[[ Mad Max ]]" = [] ∧
      posters.linked "[[ Mad Max ]]" =
        .ok "<a href=\"\" title=\"\x7b\x7b Mad Max | poster \x7d\x7d\">Mad Max</a>" ∧
      posters.process "[[ Mad Max ]]" = .ok "<a href=\"\" title=\"<img>\">Mad Max</a>" := by
  refine ⟨.register .empty
    (rfl : Registry.register posters.types {} ["m"] () = .ok posters.registry), ?_⟩
  decide

end Site

end Wikilink
