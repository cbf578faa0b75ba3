/-
# Proofs.LinkTemplate -- the URL of a link and the URL of its object

The URL of an object is read along the URL field of its link type.  The default
link template reads it along a variable, after the name of the field was put into
the source of the template and read again from there.  The two agree for every
object where the name survives that, which is where it is words joined by single dots;
along any other path on which some object has a URL they do not
(`LinkType.usual_link_reads_url`).  A validation asks no more of the name than that it
is not empty (`LinkType.validate_withUrlField`).
-/
import Mathlib.Data.List.Basic
import Wikilink.LinkType.Faults
import Wikilink.Proofs.Content.Path
import Wikilink.Proofs.Template
import Wikilink.Site.Rendering

namespace Wikilink

set_option autoImplicit false

open Text

/-! ## The default link template -/

/-- An anchor with its texts escaped for markup. -/
def anchor (url title body : String) : String :=
  "<a href=\"" ++ Text.escapeHtml url ++ "\" title=\"" ++ Text.escapeHtml title ++ "\">" ++
    Text.escapeHtml body ++ "</a>"

theorem toList_anchor (url title body : String) :
    (anchor url title body).toList =
      "<a href=\"".toList ++ ((Text.escapeHtml url).toList ++ ("\" title=\"".toList ++
        ((Text.escapeHtml title).toList ++ ("\">".toList ++
          ((Text.escapeHtml body).toList ++ "</a>".toList))))) := by
  -- Said of any texts first: on literals the rewriting is slow.
  have parts : ∀ a b c d e f g : String, (a ++ b ++ c ++ d ++ e ++ f ++ g).toList =
      a.toList ++ (b.toList ++ (c.toList ++ (d.toList ++ (e.toList ++ (f.toList ++ g.toList))))) := by
    intro a b c d e f g
    simp only [String.toList_append, List.append_assoc]
  exact parts _ _ _ _ _ _ _

/-- The names for a link to an object. -/
def linkContext (o : Item) (label : String) : Context :=
  (Context.withText [] "label" label).withItem "object" o

namespace Template

variable {o : Item} {label : String}

theorem linkContext_eq : linkContext o label = [("label", .text label), ("object", .item o)] := by
  show Table.insert [("label", Binding.text label)] "object" (.item o) = _
  rw [Table.insert, Ascending.insert, if_neg, if_pos]
  · rfl
  · show "label" < "object"
    decide
  · show ¬ "object" < "label"
    decide

theorem resolve?_object : (linkContext o label).resolve? ["object"] = some o.display := by
  rw [linkContext_eq]
  rfl

theorem resolve?_label : (linkContext o label).resolve? ["label"] = some label := by
  rw [linkContext_eq]
  rfl

/-- Behind the name of the object a variable is read like a field path. -/
theorem resolve?_path {path : String} :
    (linkContext o label).resolve? ("object" :: pathSegments path) =
      some (o.valueAt path).toText := by
  cases segments : pathSegments path with
  | nil => exact absurd segments (pathSegments_ne_nil path)
  | cons name names =>
      have whole : path = ".".intercalate (name :: names) := by
        rw [← segments, intercalate_pathSegments]
      rw [linkContext_eq, whole]
      rfl

/-- What follows the URL in the source of a link. -/
def closing : List Char :=
  "\" title=\"\x7b\x7b object \x7d\x7d\">\x7b\x7b label \x7d\x7d</a>".toList

theorem closing_eq : closing =
    "\" title=\"".toList ++ ("\x7b\x7b object \x7d\x7d".toList ++ ("\">".toList ++
      ("\x7b\x7b label \x7d\x7d".toList ++ "</a>".toList))) := by
  decide

theorem filled_closing :
    filled Text.escapeHtml (linkContext o label) closing =
      "\" title=\"".toList ++ ((Text.escapeHtml o.display).toList ++ ("\">".toList ++
        ((Text.escapeHtml label).toList ++ "</a>".toList))) := by
  have object : recognizeVariable ("\x7b\x7b object \x7d\x7d".toList ++ ("\">".toList ++
      ("\x7b\x7b label \x7d\x7d".toList ++ "</a>".toList))) =
        some (["object"], "\x7b\x7b object \x7d\x7d".toList.length) := by decide
  have body : recognizeVariable ("\x7b\x7b label \x7d\x7d".toList ++ "</a>".toList) =
      some (["label"], "\x7b\x7b label \x7d\x7d".toList.length) := by decide
  have last := @filled_literal Text.escapeHtml (linkContext o label) "</a>".toList (by decide) []
  rw [filled_nil, List.append_nil] at last
  rw [closing_eq, filled_literal (by decide), filled_variable object, filled_literal (by decide),
    filled_variable body, last, resolve?_object, resolve?_label, Option.getD_some,
    Option.getD_some]

theorem toList_append_append (front middle back : String) :
    (front ++ middle ++ back).toList = front.toList ++ (middle.toList ++ back.toList) := by
  rw [String.toList_append, String.toList_append, List.append_assoc]

/-- The variable of the URL in the source of a link. -/
def urlVariable (urlField : String) : List Char :=
  '{' :: '{' :: (" object.".toList ++ (urlField.toList ++ [' ', '}', '}']))

theorem toList_linkSource (urlField : String) :
    (Templates.linkSource urlField).toList =
      "<a href=\"".toList ++ (urlVariable urlField ++ closing) := by
  have opening : "<a href=\"\x7b\x7b object.".toList =
      "<a href=\"".toList ++ '{' :: '{' :: " object.".toList := by decide
  have ending : " \x7d\x7d\" title=\"\x7b\x7b object \x7d\x7d\">\x7b\x7b label \x7d\x7d</a>".toList =
      [' ', '}', '}'] ++ closing := by decide
  refine (toList_append_append _ _ _).trans ?_
  rw [opening, ending, urlVariable]
  simp only [List.append_assoc, List.cons_append]

/-- A link with its URL to be filled in. -/
theorem filled_linkSource (urlField : String) (c : Context) :
    filled Text.escapeHtml c (Templates.linkSource urlField).toList =
      "<a href=\"".toList ++ filled Text.escapeHtml c (urlVariable urlField ++ closing) := by
  rw [toList_linkSource, filled_literal (by decide)]

theorem trim_opening (x : List Char) :
    Text.trim (" object.".toList ++ x) = "object".toList ++ '.' :: Text.trimEnd x := by
  have opening : " object.".toList = ' ' :: ("object".toList ++ ['.']) := by decide
  have space : Text.isBlank ' ' = true := by decide
  have start : Text.trimStart (" object.".toList ++ x) = "object".toList ++ '.' :: x := by
    rw [opening, List.cons_append, Text.trimStart, List.dropWhile_cons_of_pos space,
      List.append_assoc]
    exact List.dropWhile_cons_of_neg (by decide)
  rw [Text.trim, start, Text.trimEnd_append (by decide)]

/-- The path of a variable that starts at the object. -/
theorem variablePath?_opening (x : List Char) :
    variablePath? (" object.".toList ++ x) =
      if (Text.split '.' (Text.trimEnd x)).all Text.isWordRun then
        some ("object" :: (Text.split '.' (Text.trimEnd x)).map String.ofList)
      else none := by
  have first : Text.isWordRun "object".toList = true := by decide
  have parts : Text.split '.' ("object".toList ++ '.' :: Text.trimEnd x) =
      "object".toList :: Text.split '.' (Text.trimEnd x) := Text.split_append (by decide) _
  simp only [variablePath?, trim_opening, parts, List.all_cons, first, Bool.true_and]
  rfl

/-- **A path of words is read again as it was written.** -/
theorem recognizeVariable_of_words {urlField : String} (words : IsWordPath urlField)
    (s : List Char) :
    recognizeVariable (urlVariable urlField ++ s) =
      some ("object" :: pathSegments urlField, (urlVariable urlField).length) := by
  have named : variablePath? (" object.".toList ++ (urlField.toList ++ [' '])) =
      some ("object" :: pathSegments urlField) := by
    rw [variablePath?_opening, Text.trimEnd_concat (by decide), words.trimEnd]
    exact if_pos (List.all_eq_true.mpr words)
  have literal : '}' ∉ " object.".toList := by decide
  have braceless : '}' ∉ " object.".toList ++ (urlField.toList ++ [' ']) := by
    simp only [List.mem_append, List.mem_singleton, not_or]
    refine ⟨literal, fun mem => ?_, by decide⟩
    rcases words.char mem with same | word
    · exact absurd same (by decide)
    · exact absurd word (by decide)
  refine recognizeVariable_eq_some_iff.mpr ⟨_, s, ?_, braceless, named, ?_⟩
  · simp only [urlVariable, List.cons_append, List.append_assoc, List.nil_append]
  · simp only [urlVariable, List.length_cons, List.length_append, List.length_nil]
    omega

/-! ## What the variable of the URL can be -/

/-- Up to its first closing brace the variable holds the URL field, or a start of it. -/
theorem inner_of_urlVariable {urlField : String} {inner rest : List Char} (braceless : '}' ∉ inner)
    (read : " object.".toList ++ (urlField.toList ++ ' ' :: '}' :: '}' :: closing) =
      inner ++ '}' :: '}' :: rest) :
    ∃ x, inner = " object.".toList ++ x ∧ Text.trimEnd x <+: urlField.toList := by
  have literal : '}' ∉ " object.".toList := by decide
  by_cases brace : '}' ∈ urlField.toList
  · obtain ⟨front, back, split, first⟩ := List.eq_append_cons_of_mem brace
    have parts : " object.".toList ++ (urlField.toList ++ ' ' :: '}' :: '}' :: closing) =
        (" object.".toList ++ front) ++ '}' :: (back ++ ' ' :: '}' :: '}' :: closing) := by
      rw [split]
      simp only [List.append_assoc, List.cons_append]
    have absent : '}' ∉ " object.".toList ++ front := by
      rw [List.mem_append, not_or]
      exact ⟨literal, first⟩
    refine ⟨front, eq_of_append_cons braceless absent (read.symm.trans parts), ?_⟩
    exact (Text.trimEnd_prefix front).trans ⟨'}' :: back, split.symm⟩
  · have parts : " object.".toList ++ (urlField.toList ++ ' ' :: '}' :: '}' :: closing) =
        (" object.".toList ++ (urlField.toList ++ [' '])) ++ '}' :: '}' :: closing := by
      simp only [List.append_assoc, List.cons_append, List.nil_append]
    have absent : '}' ∉ " object.".toList ++ (urlField.toList ++ [' ']) := by
      simp only [List.mem_append, List.mem_singleton, not_or]
      exact ⟨literal, brace, by decide⟩
    refine ⟨_, eq_of_append_cons braceless absent (read.symm.trans parts), ?_⟩
    rw [Text.trimEnd_concat (by decide)]
    exact Text.trimEnd_prefix _

/-- Where a variable is recognized in place of the URL, its path is a start of the URL field. -/
theorem path_of_recognized {urlField : String} {path : List String} {size : Nat}
    (recognized : recognizeVariable (urlVariable urlField ++ closing) = some (path, size)) :
    ∃ start, start.toList <+: urlField.toList ∧ IsWordPath start ∧
      path = "object" :: pathSegments start := by
  obtain ⟨inner, rest, whole, braceless, named, -⟩ := recognizeVariable_eq_some_iff.mp recognized
  have read : " object.".toList ++ (urlField.toList ++ ' ' :: '}' :: '}' :: closing) =
      inner ++ '}' :: '}' :: rest := by
    simpa [urlVariable] using whole
  obtain ⟨x, rfl, start⟩ := inner_of_urlVariable braceless read
  rw [variablePath?_opening] at named
  split at named
  · rename_i words
    refine ⟨String.ofList (Text.trimEnd x), by simpa using start, ?_, ?_⟩
    · intro part mem
      rw [String.toList_ofList] at mem
      exact List.all_eq_true.mp words part mem
    · rw [← Option.some.inj named, pathSegments, String.toList_ofList]
  · cases named

end Template

/-! ## Objects that tell two paths apart -/

theorem lookup_of_ne {α : Type} {name other : String} (apart : other ≠ name) (x : α) :
    List.lookup other [(name, x)] = none := by
  rw [List.lookup_eq_none_iff]
  simp [apart]

namespace Value

/-- A text behind a path of names. -/
def behind : List String → Value
  | [] => .text "x"
  | name :: names => .map [(name, behind names)]

/-- Along another path there is no text. -/
theorem toText_follow_behind (names path : List String) :
    (follow (behind names) path).toText = if path = names then "x" else "" := by
  induction names generalizing path with
  | nil =>
      cases path with
      | nil => rfl
      | cons name path =>
          rw [behind, follow_text]
          rfl
  | cons name names ih =>
      cases path with
      | nil => rfl
      | cons other path =>
          show (follow ((behind (name :: names)).step other) path).toText = _
          by_cases same : other = name
          · subst same
            have found : (behind (other :: names)).step other = behind names := by
              simp [behind, step, get?]
            rw [found, ih]
            simp
          · have lost : (behind (name :: names)).step other = .null := by
              rw [behind, step, get?, lookup_of_ne same]
              rfl
            rw [lost, follow_null, if_neg (by simp [same])]
            rfl

end Value

namespace Item

/-- An object with a text behind one path, under the display `x`. -/
def probe : List String → Item
  | [] => ⟨0, "x", [], noEmbeds⟩
  | name :: names => ⟨0, "x", [(name, .behind names)], noEmbeds⟩

/-- What every object answers has no fields of its own. -/
theorem toText_valueAt_of_reserved (o : Item) {path name next : String} {names : List String}
    (segments : pathSegments path = name :: next :: names)
    (reserved : name = idField ∨ name = displayField) : (o.valueAt path).toText = "" := by
  have text : ∃ s, (Value.item o).step name = .text s := by
    rcases reserved with rfl | rfl
    · exact ⟨_, rfl⟩
    · exact ⟨_, rfl⟩
  obtain ⟨s, stepped⟩ := text
  rw [valueAt, segments]
  show (((Value.item o).step name).follow (next :: names)).toText = _
  rw [stepped, Value.follow_text]
  rfl

/-- A name that not every object answers leads on where the object was given it. -/
theorem step_probe {first : String} (names : List String)
    (free : ¬ (first = idField ∨ first = displayField)) :
    (Value.item (probe names)).step first =
      if names.head? = some first then .behind names.tail else .null := by
  rw [not_or] at free
  rw [Value.step, Value.get?, field?, if_neg free.1, if_neg free.2]
  cases names with
  | nil => rfl
  | cons name names =>
      rw [probe, List.head?_cons]
      by_cases same : first = name
      · rw [same, List.lookup_cons_self, if_pos rfl]
        rfl
      · have differs : some name ≠ some first := fun equal => same (Option.some.inj equal).symm
        rw [lookup_of_ne same, if_neg differs]
        rfl

/-- Along its own path the object shows something. -/
theorem toText_valueAt_probe {path : String}
    (free : ∀ name next names, pathSegments path = name :: next :: names →
      ¬ (name = idField ∨ name = displayField)) :
    ((probe (pathSegments path)).valueAt path).toText = "x" ∨
      ((probe (pathSegments path)).valueAt path).toText = "0" := by
  cases segments : pathSegments path with
  | nil => exact absurd segments (pathSegments_ne_nil path)
  | cons name names =>
      rw [valueAt_of_segments segments]
      by_cases reserved : name = idField ∨ name = displayField
      · cases names with
        | nil =>
            rcases reserved with rfl | rfl
            · exact Or.inr rfl
            · exact Or.inl rfl
        | cons next names => exact absurd reserved (free name next names segments)
      · left
        rw [step_probe _ reserved, List.head?_cons, if_pos rfl, List.tail_cons,
          Value.toText_follow_behind, if_pos rfl]

/-- Along another path it shows nothing, unless every object shows something there. -/
theorem toText_valueAt_probe_other {path : String} {names : List String}
    (other : pathSegments path ≠ names) (id : pathSegments path ≠ [idField])
    (display : pathSegments path ≠ [displayField]) :
    ((probe names).valueAt path).toText = "" := by
  cases segments : pathSegments path with
  | nil => exact absurd segments (pathSegments_ne_nil path)
  | cons first rest =>
      by_cases reserved : first = idField ∨ first = displayField
      · cases rest with
        | nil =>
            rcases reserved with rfl | rfl
            · exact absurd segments id
            · exact absurd segments display
        | cons next rest => exact toText_valueAt_of_reserved _ segments reserved
      · rw [valueAt_of_segments segments, step_probe _ reserved]
        split
        · rename_i head
          have apart : rest ≠ names.tail := by
            rintro rfl
            exact other (segments.trans (List.cons_head?_tail head))
          rw [Value.toText_follow_behind, if_neg apart]
        · rw [Value.follow_null]
          rfl

end Item

/-- A path whose start has several segments has the first of them and several too. -/
theorem pathSegments_of_prefix {start path name next : String} {names : List String}
    (starts : start.toList <+: path.toList) (segments : pathSegments start = name :: next :: names) :
    ∃ other others, pathSegments path = name :: other :: others := by
  obtain ⟨tail, whole⟩ := starts
  rcases Text.split_cases '.' start.toList with ⟨-, single⟩ | ⟨part, rest, read, free, parts⟩
  · rw [pathSegments, single] at segments
    cases segments
  · have longer : path.toList = part ++ '.' :: (rest ++ tail) := by
      rw [← whole, read, List.append_assoc, List.cons_append]
    rw [pathSegments, parts, List.map_cons] at segments
    cases more : Text.split '.' (rest ++ tail) with
    | nil => exact absurd more (Text.split_ne_nil _)
    | cons other others =>
        refine ⟨String.ofList other, others.map String.ofList, ?_⟩
        rw [pathSegments, longer, Text.split_append free, List.map_cons, more, List.map_cons,
          (List.cons.inj segments).1]

/-! ## The law of the default link -/

namespace LinkType

variable {t : LinkType}

/-- A link to the object is an anchor to the URL of the object, which is empty if it has none. -/
def LinksToUrl (t : LinkType) (o : Item) (label : String) : Prop :=
  Template.html t.templates.link (linkContext o label) = anchor ((t.urlOf? o).getD "") o.display label

/-- The link template that goes with the URL field. -/
def HasUsualLink (t : LinkType) : Prop :=
  t.templates.link = (Templates.forUrlField t.urlField).link

theorem hasUsualLink_withUrlField (t : LinkType) (urlField : String) :
    (t.withUrlField urlField).HasUsualLink :=
  rfl

theorem getD_urlOf? (t : LinkType) (o : Item) :
    (t.urlOf? o).getD "" = (o.valueAt t.urlField).toText := by
  simp only [urlOf?]
  split
  · rename_i empty
    rw [Option.getD_none, String.isEmpty_iff.mp empty]
  · rfl

theorem validate_eq_ok_iff : t.validate = .ok () ↔ t.faults = [] := by
  unfold validate
  split
  · rename_i none
    exact iff_of_true rfl none
  · rename_i fault others some
    refine iff_of_false (fun accepted => by cases accepted) ?_
    rw [some]
    exact List.cons_ne_nil _ _

/-- Of a URL field a validation asks that it is not empty. -/
theorem validate_withUrlField (urlField : String) :
    (t.withUrlField urlField).validate = .ok () ↔
      urlField ≠ "" ∧ (t.withUrlField defaultUrlField).validate = .ok () := by
  have usual : (t.withUrlField defaultUrlField).urlField.isEmpty = false :=
    show defaultUrlField.isEmpty = false by decide
  simp only [validate_eq_ok_iff, faults, usual, List.append_eq_nil_iff, Bool.false_eq_true, if_false]
  by_cases empty : urlField = ""
  · subst empty
    refine iff_of_false (fun sound => ?_) fun sound => sound.1 rfl
    cases sound.2
  · have given : (t.withUrlField urlField).urlField.isEmpty = false := by
      simpa [withUrlField] using empty
    simp only [given, Bool.false_eq_true, if_false]
    exact ⟨fun sound => ⟨empty, sound⟩, fun sound => sound.2⟩

/-- Both sides of the law, without the opening that they share. -/
theorem linksToUrl_iff (usual : t.HasUsualLink) {o : Item} {label : String} :
    t.LinksToUrl o label ↔
      Template.filled Text.escapeHtml (linkContext o label)
          (Template.urlVariable t.urlField ++ Template.closing) =
        (Text.escapeHtml (o.valueAt t.urlField).toText).toList ++
          Template.filled Text.escapeHtml (linkContext o label) Template.closing := by
  have rendered : (Template.html t.templates.link (linkContext o label)).toList =
      "<a href=\"".toList ++ Template.filled Text.escapeHtml (linkContext o label)
        (Template.urlVariable t.urlField ++ Template.closing) := by
    rw [usual]
    exact (Template.renderWith_ofSource _ _ _).trans (Template.filled_linkSource _ _)
  have wanted : (anchor (o.valueAt t.urlField).toText o.display label).toList =
      "<a href=\"".toList ++ ((Text.escapeHtml (o.valueAt t.urlField).toText).toList ++
        Template.filled Text.escapeHtml (linkContext o label) Template.closing) := by
    rw [toList_anchor, Template.filled_closing]
  rw [LinksToUrl, getD_urlOf?, ← String.toList_inj, rendered, wanted, List.append_cancel_left_eq]

/-- **Along a path of words every link leads to the URL of its object.** -/
theorem linksToUrl_of_words (usual : t.HasUsualLink) (words : IsWordPath t.urlField) (o : Item)
    (label : String) : t.LinksToUrl o label := by
  rw [linksToUrl_iff usual,
    Template.filled_variable (Template.recognizeVariable_of_words words Template.closing),
    Template.resolve?_path, Option.getD_some]

/-- Where some object has a URL, the path does not go on behind what every object answers. -/
theorem segments_free {o : Item} (found : t.urlOf? o ≠ none) {name next : String}
    {names : List String} (segments : pathSegments t.urlField = name :: next :: names) :
    ¬ (name = idField ∨ name = displayField) := by
  intro reserved
  have nothing := o.toText_valueAt_of_reserved segments reserved
  apply found
  rw [urlOf?, nothing]
  rfl

/-- **Along any other path some link leads elsewhere.** -/
theorem exists_not_linksToUrl (usual : t.HasUsualLink) (other : ¬ IsWordPath t.urlField) {o : Item}
    (found : t.urlOf? o ≠ none) : ∃ p label, ¬ t.LinksToUrl p label := by
  have nonword : ∀ start : String, IsWordPath start → pathSegments t.urlField ≠ pathSegments start := by
    intro start words same
    have equal : t.urlField = start := by
      rw [← intercalate_pathSegments t.urlField, same, intercalate_pathSegments]
    exact other (equal ▸ words)
  have id : pathSegments t.urlField ≠ [idField] := nonword idField (by decide)
  have display : pathSegments t.urlField ≠ [displayField] := nonword displayField (by decide)
  cases recognized : Template.recognizeVariable
      (Template.urlVariable t.urlField ++ Template.closing) with
  | none =>
      -- The braces stay, and an object without a URL shows that.
      refine ⟨Item.probe [], "", fun law => ?_⟩
      have empty := Item.toText_valueAt_probe_other (pathSegments_ne_nil t.urlField) id display
      rw [linksToUrl_iff usual, empty, Template.urlVariable, List.cons_append] at law
      rw [Template.urlVariable, List.cons_append] at recognized
      rw [Template.filled_char recognized, Template.filled_closing] at law
      cases law
  | some answer =>
      -- The variable reads a start of the path, where another object shows something.
      obtain ⟨path, size⟩ := answer
      obtain ⟨start, starts, words, rfl⟩ := Template.path_of_recognized recognized
      refine ⟨Item.probe (pathSegments start), "", fun law => ?_⟩
      have shown := @Item.toText_valueAt_probe start fun name next names segments => by
        obtain ⟨second, others, longer⟩ := pathSegments_of_prefix starts segments
        exact segments_free found longer
      have empty := Item.toText_valueAt_probe_other (nonword start words) id display
      rw [linksToUrl_iff usual, empty, Template.filled_of_recognized recognized,
        Template.resolve?_path, Option.getD_some, Template.filled_closing] at law
      rcases shown with shown | shown
      · rw [shown] at law
        cases law
      · rw [shown] at law
        cases law

/-- **Which URL fields the default link template can read.** -/
theorem usual_link_reads_url (usual : t.HasUsualLink) :
    (IsWordPath t.urlField → ∀ o label, t.LinksToUrl o label) ∧
      (¬ IsWordPath t.urlField → (∃ o, t.urlOf? o ≠ none) → ∃ o label, ¬ t.LinksToUrl o label) := by
  constructor
  · intro words o label
    exact linksToUrl_of_words usual words o label
  · rintro other ⟨o, found⟩
    exact exists_not_linksToUrl usual other found

/-- Films with their URL under `wiki.page`. -/
def pagedFilms : LinkType :=
  { schema := ⟨"film", [("title", .field), ("wiki", .field)]⟩ : LinkType }.withUrlField "wiki.page"

/-- Films with their URL under `perma-link`, which is no word. -/
def permalinkedFilms : LinkType :=
  { schema := ⟨"film", [("perma-link", .field), ("title", .field)]⟩ : LinkType }.withUrlField
    "perma-link"

/-- A film with a URL under `perma-link`. -/
def permalinkedFilm : Item :=
  ⟨1, "Mad Max", [("perma-link", .text "/m/1")], Item.noEmbeds⟩

theorem usual_link_reads_url_paged :
    (pagedFilms.HasUsualLink ∧ IsWordPath pagedFilms.urlField ∧
      ∀ o label, pagedFilms.LinksToUrl o label) ∧
    (permalinkedFilms.HasUsualLink ∧ ¬ IsWordPath permalinkedFilms.urlField ∧
      (∃ o, permalinkedFilms.urlOf? o ≠ none) ∧
      ∃ o label, ¬ permalinkedFilms.LinksToUrl o label) := by
  have words : IsWordPath pagedFilms.urlField := by decide
  have other : ¬ IsWordPath permalinkedFilms.urlField := by decide
  have found : ∃ o, permalinkedFilms.urlOf? o ≠ none := ⟨permalinkedFilm, by decide⟩
  have paged : pagedFilms.HasUsualLink := hasUsualLink_withUrlField _ "wiki.page"
  have permalinked : permalinkedFilms.HasUsualLink := hasUsualLink_withUrlField _ "perma-link"
  exact ⟨⟨paged, words, (usual_link_reads_url paged).1 words⟩,
    permalinked, other, found, (usual_link_reads_url permalinked).2 other found⟩

/-- The URL field is accepted and the film has a URL, but its link shows the variable. -/
theorem permalinked_film_not_linked :
    permalinkedFilms.validate = .ok () ∧ permalinkedFilms.HasUsualLink ∧
      permalinkedFilms.urlOf? permalinkedFilm = some "/m/1" ∧
      Template.html permalinkedFilms.templates.link (linkContext permalinkedFilm "Mad Max") =
        "<a href=\"\x7b\x7b object.perma-link \x7d\x7d\" title=\"Mad Max\">Mad Max</a>" ∧
      ¬ permalinkedFilms.LinksToUrl permalinkedFilm "Mad Max" := by
  refine ⟨validate_eq_ok_iff.mpr ?_, rfl, ?_, ?_, ?_⟩
  · decide
  · decide
  · decide
  · unfold LinksToUrl
    decide

end LinkType

/-! ## Links of a site -/

namespace Site

variable {ι : Type} {s : Site ι} {i : ι} {m : Mention}

/-- Where markup is written and the URL field is a path of words, a link to an object is an anchor
to its URL. -/
theorem renderFound_eq_anchor {verbose : Option String} (markup : s.render = Template.html)
    (link : m.request = .link verbose) (usual : (s.types i).HasUsualLink)
    (words : IsWordPath (s.types i).urlField) (o : Item) :
    s.renderFound m i o = anchor (((s.types i).urlOf? o).getD "") o.display m.label := by
  rw [renderFound, link, markup]
  exact LinkType.linksToUrl_of_words usual words o m.label

end Site

end Wikilink
