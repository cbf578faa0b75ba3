/-
# Proofs.Rendering.Failing -- when a text cannot be rendered

A query cannot be resolved for one of two reasons: nothing is registered, or a finder
of a registered link type failed (`of_resolve_eq_error`).  Rendering brings in no
third one.  A mention that can be resolved can be rendered, whatever it leads to
(`renderMention_eq_error_iff`): an unknown type hint, no object, several objects, an
attribute that may not be embedded and an embed that fails all have a template.  So
these two are the reasons for which a text cannot be rendered, also in the second of
the two passes, which works on what the first one wrote (`process_fails_only`).
-/
import Wikilink.Proofs.Rendering
import Wikilink.Proofs.Mention.Substitution

namespace Wikilink

set_option autoImplicit false

theorem Registry.first?_eq_none_iff {ι : Type} {r : Registry ι} :
    r.first? = none ↔ r.bindings = [] := by
  cases bindings : r.bindings <;> simp [first?, bindings]

namespace Site

variable {ι : Type} {s : Site ι} {query : String} {e : Error}

/-! ## Finders -/

/-- The finder of a registered link type fails with the given error.  A link type that looks in
its index has no finder of its own, and never fails. -/
def FinderFails [DecidableEq ι] (s : Site ι) (e : Error) : Prop :=
  ∃ i ∈ s.registry.linkTypes, ∃ find query,
    (s.types i).finder = .custom find ∧ find s.index query = .error e

theorem of_find_eq_error {i : ι} (failed : s.find i query = .error e) :
    ∃ find, (s.types i).finder = .custom find ∧ find s.index query = .error e := by
  unfold find at failed
  cases way : (s.types i).finder with
  | searchKeys =>
      rw [way] at failed
      cases failed
  | custom find =>
      rw [way] at failed
      exact ⟨find, rfl, failed⟩

theorem resolveIn_eq_error_iff {i : ι} :
    s.resolveIn i query = .error e ↔ s.find i query = .error e := by
  unfold resolveIn
  cases s.find i query with
  | error f => simp [bind, Except.bind]
  | ok outcome => cases outcome <;> simp [bind, Except.bind, pure, Except.pure]

theorem of_resolveAmong_eq_error {fallback : ι} {is : List ι}
    (failed : s.resolveAmong fallback query is = .error e) :
    ∃ i ∈ is, s.find i query = .error e := by
  induction is with
  | nil => cases failed
  | cons i is ih =>
      rw [resolveAmong] at failed
      cases outcome : s.resolveIn i query with
      | error f =>
          rw [outcome] at failed
          obtain rfl := Except.error.inj failed
          exact ⟨i, by simp, resolveIn_eq_error_iff.mp outcome⟩
      | ok r =>
          rw [outcome] at failed
          cases r with
          | unresolved j =>
              obtain ⟨k, mem, found⟩ := ih failed
              exact ⟨k, by simp [mem], found⟩
          | found j o => cases failed
          | ambiguous j => cases failed
          | unknownType => cases failed

/-! ## Mentions -/

variable [DecidableEq ι] {m : Mention}

/-- **A query cannot be resolved where nothing is registered or where a finder fails.** -/
theorem of_resolve_eq_error {typeHint : Option String}
    (failed : s.resolve typeHint query = .error e) :
    s.registry.bindings = [] ∧ e = .nothingRegistered ∨ s.FinderFails e := by
  have finder {i : ι} (registered : i ∈ s.registry.linkTypes)
      (failed : s.find i query = .error e) : s.FinderFails e := by
    obtain ⟨find, custom, answer⟩ := of_find_eq_error failed
    exact ⟨i, registered, find, query, custom, answer⟩
  unfold resolve at failed
  cases head : s.registry.first? with
  | none =>
      rw [head] at failed
      exact Or.inl ⟨Registry.first?_eq_none_iff.mp head, (Except.error.inj failed).symm⟩
  | some first =>
      rw [head] at failed
      right
      cases typeHint with
      | none =>
          obtain ⟨i, registered, found⟩ := of_resolveAmong_eq_error failed
          exact finder registered found
      | some shortcut =>
          simp only at failed
          cases bound : s.registry.find? shortcut with
          | none =>
              rw [bound] at failed
              cases failed
          | some i =>
              rw [bound] at failed
              exact finder (Registry.mem_linkTypes_of_find? bound)
                (resolveIn_eq_error_iff.mp failed)

/-- Nothing can be resolved where nothing is registered. -/
theorem resolve_of_unregistered (unregistered : s.registry.bindings = [])
    (typeHint : Option String) (query : String) :
    s.resolve typeHint query = .error .nothingRegistered := by
  unfold resolve
  rw [Registry.first?_eq_none_iff.mpr unregistered]

theorem first?_of_resolve_eq_ok {typeHint : Option String} {outcome : Resolution ι}
    (resolved : s.resolve typeHint query = .ok outcome) :
    ∃ first, s.registry.first? = some first := by
  unfold resolve at resolved
  cases head : s.registry.first? with
  | none =>
      rw [head] at resolved
      cases resolved
  | some first => exact ⟨first, rfl⟩

/-- **A mention cannot be rendered exactly where it cannot be resolved**; every outcome has a
template. -/
theorem renderMention_eq_error_iff :
    s.renderMention m = .error e ↔ s.resolve m.typeHint m.query = .error e := by
  unfold renderMention
  cases resolved : s.resolve m.typeHint m.query with
  | error f => simp [bind, Except.bind]
  | ok outcome =>
      cases outcome with
      | found i o => simp [bind, Except.bind, pure, Except.pure]
      | unresolved i => simp [bind, Except.bind, pure, Except.pure]
      | ambiguous i => simp [bind, Except.bind, pure, Except.pure]
      | unknownType =>
          obtain ⟨first, head⟩ := first?_of_resolve_eq_ok resolved
          simp [bind, Except.bind, renderUnknownType, head]

/-! ## Texts -/

theorem process_of_linked_error {text : String} (failed : s.linked text = .error e) :
    s.process text = .error e := by
  unfold linked at failed
  rw [process, failed]
  rfl

/-- A text cannot be rendered where a mention cannot be resolved: one of its own links, or an
embed of what its links were replaced by. -/
theorem exists_resolve_of_process_eq_error {text : String} (failed : s.process text = .error e) :
    ∃ typeHint query, s.resolve typeHint query = .error e := by
  have unresolved {form : Mention.Form} {text : String}
      (failed : form.replaceAll text s.renderMention = .error e) :
      ∃ typeHint query, s.resolve typeHint query = .error e := by
    obtain ⟨-, found, -, -, -, unwritten⟩ := Mention.Form.replaceAll_eq_error_iff.mp failed
    exact ⟨found.value.typeHint, found.value.query, renderMention_eq_error_iff.mp unwritten⟩
  cases links : s.linked text with
  | error f =>
      rw [process_of_linked_error links] at failed
      exact unresolved (links.trans failed)
  | ok written =>
      rw [process_of_linked links] at failed
      exact unresolved failed

/-- **A text cannot be rendered for two reasons only.**  Where nothing is registered a text with a
mention fails, and one without stays as it is.  Where something is registered and no finder fails,
every text is rendered.  Whatever else holds, a failure is one of these two. -/
theorem process_fails_only (s : Site ι) (text : String) :
    (s.registry.bindings = [] →
      (Mention.Form.link.findAll text ≠ [] ∨ Mention.Form.embed.findAll text ≠ [] →
        s.process text = .error .nothingRegistered) ∧
      (Mention.Form.link.findAll text = [] → Mention.Form.embed.findAll text = [] →
        s.process text = .ok text)) ∧
    (s.registry.bindings ≠ [] → (∀ e, ¬ s.FinderFails e) →
      ∃ rendered, s.process text = .ok rendered) ∧
    ∀ e, s.process text = .error e →
      s.registry.bindings = [] ∧ e = .nothingRegistered ∨ s.FinderFails e := by
  have reasons : ∀ e, s.process text = .error e →
      s.registry.bindings = [] ∧ e = .nothingRegistered ∨ s.FinderFails e := by
    intro e failed
    obtain ⟨typeHint, query, unresolved⟩ := exists_resolve_of_process_eq_error failed
    exact of_resolve_eq_error unresolved
  refine ⟨fun unregistered => ⟨fun mentioned => ?_, fun linkless embedless => ?_⟩,
    fun registered answering => ?_, reasons⟩
  · have failing : ∀ m, s.renderMention m = .error .nothingRegistered := fun m =>
      renderMention_eq_error_iff.mpr (resolve_of_unregistered unregistered m.typeHint m.query)
    by_cases linkless : Mention.Form.link.findAll text = []
    · have embeds : Mention.Form.embed.findAll text ≠ [] := mentioned.resolve_left (absurd linkless)
      rw [process, Mention.Form.replaceAll_of_unmentioned linkless]
      exact Mention.Form.replaceAll_of_failing failing embeds
    · exact process_of_linked_error (Mention.Form.replaceAll_of_failing failing linkless)
  · rw [process, Mention.Form.replaceAll_of_unmentioned linkless]
    exact Mention.Form.replaceAll_of_unmentioned embedless _
  · cases outcome : s.process text with
    | ok rendered => exact ⟨rendered, rfl⟩
    | error e =>
        rcases reasons e outcome with ⟨unregistered, -⟩ | fails
        · exact absurd unregistered registered
        · exact absurd fails (answering e)

/-- The films of an index that was never built are rendered, under any hint and embedded or not;
without a registry the same text fails. -/
theorem process_fails_only_films :
    (∃ rendered, films.process "[[ m->Mad Max ]], [[ book->Emma ]], {{ Mad Max | plot }}" =
      .ok rendered) ∧
    (Site.empty : Site Unit).process "[[ m->Mad Max ]], [[ book->Emma ]], {{ Mad Max | plot }}" =
      .error .nothingRegistered ∧
    (Site.empty : Site Unit).process "\\[[ Mad Max ]]" = .ok "\\[[ Mad Max ]]" := by
  have answering : ∀ e, ¬ films.FinderFails e := by
    rintro e ⟨_, _, _, _, custom, _⟩
    cases custom
  refine ⟨?_, ?_, ?_⟩
  · exact (process_fails_only films _).2.1 (List.cons_ne_nil _ _) answering
  · refine ((process_fails_only Site.empty _).1 rfl).1 (Or.inl ?_)
    decide
  · exact ((process_fails_only Site.empty _).1 rfl).2 rfl rfl

end Site

end Wikilink
