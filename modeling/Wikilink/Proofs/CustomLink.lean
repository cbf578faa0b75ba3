/-
# Proofs.CustomLink -- the lines of a custom link lead to its URL

A blank leaves nothing in a search key (`lower_of_isBlank`), so a line has the same
key with the blanks around it and without them (`searchKey_trimmed`).  Therefore the
keys under which the index holds a custom link, made of its lines as they stand, are
the keys of the lines that the link gives out (`mem_searchKeys_iff`).  A line is read
back from behind a shortcut as it was (`parse?_line`), and where no other link
shares its key it leads to the one link, also where longer keys start with it
(`lines_lead_to_url`).
-/
import Wikilink.CustomLink
import Wikilink.Proofs.LinkField.Agreement
import Wikilink.Proofs.Registry.Runs
import Wikilink.Proofs.Resolution

namespace Wikilink

set_option autoImplicit false

/-! ## Blanks in search keys -/

namespace SearchKey

open Text

/-- No capital is a blank. -/
theorem smallLetter?_of_isBlank {c : Char} (blank : isBlank c = true) :
    smallLetter? capitals c.toNat = none := by
  have apart : whiteSpace.apart (capitals.map fun r => (r.first, r.last)) = true := by
    decide +kernel
  obtain ⟨range, listed, low, high⟩ := CodePoints.range_of_contains blank
  refine smallLetter?_eq_none fun r mem => ?_
  have clear := List.all_eq_true.mp (List.all_eq_true.mp apart range listed) _
    (List.mem_map_of_mem mem)
  simp only [Bool.or_eq_true, Nat.blt_eq] at clear
  exact if_neg (by omega)

theorem lower_of_isBlank {c : Char} (blank : isBlank c = true) : lower c = [c] := by
  have undotted : c ≠ 'İ' := by
    rintro rfl
    exact absurd blank (by decide)
  rw [lower, if_neg undotted, smallLetter?_of_isBlank blank, Option.elim_none]

theorem not_admits_of_isBlank {c : Char} (blank : isBlank c = true) : admits c = false := by
  have letters := CodePoints.not_contains_of_apart (t := alphabetic) (by decide +kernel) blank
  have digits := CodePoints.not_contains_of_apart (t := decimalDigit) (by decide +kernel) blank
  have numerals := CodePoints.not_contains_of_apart (t := otherNumeral) (by decide +kernel) blank
  have moreLetters :=
    CodePoints.not_contains_of_apart (t := alphabeticAdditions) (by decide +kernel) blank
  have moreDigits :=
    CodePoints.not_contains_of_apart (t := decimalDigitAdditions) (by decide +kernel) blank
  have other : c ≠ '_' := by
    rintro rfl
    exact absurd blank (by decide)
  simp [admits, isAlphanumeric, letters, digits, numerals, moreLetters, moreDigits, other]

/-- Blanks leave nothing in a search key. -/
theorem filter_admits_of_blanks {s : List Char} (blanks : ∀ c ∈ s, isBlank c = true) :
    (s.flatMap lower).filter admits = [] := by
  refine List.filter_eq_nil_iff.mpr fun d mem => ?_
  obtain ⟨c, listed, lowered⟩ := List.mem_flatMap.mp mem
  rw [lower_of_isBlank (blanks c listed), List.mem_singleton] at lowered
  rw [lowered, not_admits_of_isBlank (blanks c listed)]
  exact Bool.false_ne_true

end SearchKey

/-- **Trimming does not change the search key of a text.** -/
theorem searchKey_trimmed (s : List Char) :
    searchKey (Mention.trimmed s) = searchKey (String.ofList s) := by
  obtain ⟨before, after, whole, front, back⟩ := Text.exists_padding s
  have same : SearchKey.ofChars s = SearchKey.ofChars (Text.trim s) := by
    rw [SearchKey.ofChars, SearchKey.ofChars]
    conv_lhs => rw [whole]
    simp only [List.flatMap_append, List.filter_append, SearchKey.filter_admits_of_blanks front,
      SearchKey.filter_admits_of_blanks back, List.nil_append, List.append_nil]
  rw [searchKey, searchKey, Mention.trimmed, String.toList_ofList, String.toList_ofList, same]

theorem searchKey_empty : searchKey "" = "" := by
  rfl

namespace CustomLink

variable {link : CustomLink} {line shortcut : String}

/-! ## Lines -/

theorem mem_lines :
    line ∈ link.lines ↔
      line ≠ "" ∧ ∃ raw ∈ Text.lines link.shortcuts.toList, Mention.trimmed raw = line := by
  rw [lines, List.mem_filter, List.mem_map, decide_eq_true_iff]
  exact And.comm

/-- A link is told by its object. -/
theorem toItem_injective : Function.Injective toItem := by
  rintro ⟨id, shortcuts, url, description⟩ ⟨id', shortcuts', url', description'⟩ same
  have ids : id = id' := congrArg Item.id same
  have fields := congrArg Item.fields same
  simp only [toItem, List.cons.injEq, Prod.mk.injEq, Value.text.injEq, true_and, and_true] at fields
  obtain ⟨rfl, rfl, rfl⟩ := fields
  rw [ids]

theorem linesOf_toItem (link : CustomLink) :
    linesOf link.toItem = (Text.lines link.shortcuts.toList).map String.ofList := by
  have read : List.lookup shortcutsField link.toItem.fields = some (.text link.shortcuts) :=
    List.lookup_cons_self
  rw [linesOf, read]
  rfl

/-- **The search keys of a custom link are the keys of its lines.** -/
theorem mem_searchKeys_iff {key : String} :
    key ∈ linkType.searchKeys link.toItem ↔
      key ≠ "" ∧ ∃ line ∈ link.lines, searchKey line = key := by
  have texts : linkType.textsOf link.toItem =
      (Text.lines link.shortcuts.toList).map String.ofList := linesOf_toItem link
  rw [LinkType.searchKeys, texts, Index.mem_storedKeys]
  refine and_congr_right fun filled => ⟨?_, ?_⟩
  · rintro ⟨_, mem, rfl⟩
    obtain ⟨raw, listed, rfl⟩ := List.mem_map.mp mem
    rw [← searchKey_trimmed] at filled ⊢
    refine ⟨_, mem_lines.mpr ⟨?_, raw, listed, rfl⟩, rfl⟩
    intro blank
    rw [blank, searchKey_empty] at filled
    exact filled rfl
  · rintro ⟨_, mem, rfl⟩
    obtain ⟨-, raw, listed, rfl⟩ := mem_lines.mp mem
    exact ⟨_, List.mem_map_of_mem listed, (searchKey_trimmed raw).symm⟩

/-- A line has no blanks around it. -/
theorem trimmed_of_mem_lines (mem : line ∈ link.lines) : Text.trim line.toList = line.toList := by
  obtain ⟨-, raw, -, rfl⟩ := mem_lines.mp mem
  rw [Mention.trimmed, String.toList_ofList, Text.trim_trim]

/-! ## Links to a line -/

/-- **A line behind a shortcut is read back as it was.** -/
theorem parse?_line (word : Text.isWordRun shortcut.toList = true)
    (mem : line ∈ link.lines) (bracketless : ']' ∉ line.toList) (barless : '|' ∉ line.toList) :
    ∃ m, Mention.Form.link.parse? (String.ofList
        (Text.trimStart ("[[ " ++ shortcut ++ "->" ++ line ++ " ]]").toList)) = some m ∧
      m.typeHint = some shortcut ∧ m.query = line := by
  let subject := ' ' :: (shortcut.toList ++ '-' :: '>' :: (line.toList ++ [' ']))
  have written : ("[[ " ++ shortcut ++ "->" ++ line ++ " ]]").toList =
      '[' :: '[' :: (subject ++ ']' :: ']' :: []) := by
    simp [subject]
  have queried := Mention.not_mem_of_inQuery fun c inside =>
    Mention.inQuery_of_isWord (Text.isWord_of_mem word inside)
  have closed : ']' ∉ subject := by simp [subject, queried.1, bracketless]
  have content : Mention.LinkContent subject subject none :=
    .bare (List.cons_ne_nil _ _) (by simp [subject, queried.2, barless])
  have recognized := Mention.recognizeLink_eq_some_iff.mpr
    ⟨subject, [], subject, none, rfl, closed, content, rfl, rfl⟩
  have none : ∀ c ∈ ([] : List Char), Text.isBlank c = true := by simp
  have blank : ∀ c ∈ [' '], Text.isBlank c = true := List.forall_mem_singleton.mpr (by decide)
  have hinted : Mention.Hinted subject shortcut.toList (line.toList ++ [' ']) :=
    ⟨[' '], [], by simp [subject], blank, word, none, by simp⟩
  have query : Mention.trimmed (line.toList ++ [' ']) = line := by
    have padded := Text.trim_padded none blank line.toList
    rw [List.nil_append, trimmed_of_mem_lines mem] at padded
    rw [Mention.trimmed, padded, String.ofList_toList]
  rw [Mention.splitHint_of_hinted hinted] at recognized
  rw [written, Text.trimStart, List.dropWhile_cons_of_neg (by decide),
    Mention.Form.parse?_ofList, Mention.Form.recognizer, recognized]
  exact ⟨_, rfl, congrArg some String.ofList_toList, query⟩

/-! ## Sites with custom links -/

/-- Custom links are registered under a shortcut, and all of them are in scope. -/
structure Registered {ι : Type} [DecidableEq ι] (s : Site ι) (i : ι) (shortcut : String) :
    Prop where
  reached : s.registry.Reachable s.types
  bound : s.registry.find? shortcut = some i
  type : s.types i = linkType
  links : ∀ o ∈ (s.sources i).objects, ∃ link : CustomLink, o = link.toItem
  unscoped : ∀ o ∈ (s.sources i).objects, (s.sources i).inScope o = true

section Site

variable {ι : Type} [DecidableEq ι] {s : Site ι} {i : ι}

theorem Registered.isWordRun (site : Registered s i shortcut) :
    Text.isWordRun shortcut.toList = true := by
  obtain ⟨distinct, words⟩ := site.reached.words
  have bound := (Registry.find?_eq_some_iff distinct).mp site.bound
  exact words shortcut (List.mem_map.mpr ⟨_, bound, rfl⟩)

/-- A line that no other link shares finds the one link. -/
theorem Registered.exactMatches_eq (site : Registered s i shortcut)
    (held : link.toItem ∈ (s.sources i).objects) (mem : line ∈ link.lines)
    (keyed : searchKey line ≠ "")
    (unshared : ∀ other : CustomLink, other.toItem ∈ (s.sources i).objects → other ≠ link →
      ∀ shared ∈ other.lines, searchKey shared ≠ searchKey line) :
    s.exactMatches i line = {link.toItem} := by
  refine Set.eq_singleton_iff_unique_mem.mpr ⟨⟨?_, ?_⟩, ?_⟩
  · exact List.mem_filter.mpr ⟨held, site.unscoped _ held⟩
  · rw [site.type]
    exact mem_searchKeys_iff.mpr ⟨keyed, line, mem, rfl⟩
  · rintro o ⟨listed, matched⟩
    have stored := (List.mem_filter.mp listed).1
    obtain ⟨other, rfl⟩ := site.links o stored
    rw [site.type] at matched
    obtain ⟨-, shared, listed, same⟩ := mem_searchKeys_iff.mp matched
    by_contra differ
    exact unshared other stored (fun same => differ (congrArg toItem same)) shared listed same

theorem urlOf?_toItem (filled : link.url ≠ "") :
    linkType.urlOf? link.toItem = some link.url := by
  have read : (link.toItem.valueAt linkType.urlField).toText = link.url := by
    rfl
  rw [LinkType.urlOf?, read, if_neg (by simpa using filled)]

/-- **Every line of a custom link leads to its URL.**  After a rebuild, a line that has a search
key and no character that would end it early leads to the URL of its link from behind the shortcut,
unless another link has a line with the same key; and the search keys of a link are the keys of its
lines. -/
theorem lines_lead_to_url (site : Registered s i shortcut) :
    (∃ n, s.rebuild.result = .ok n) ∧
    (∀ link : CustomLink, link.toItem ∈ (s.sources i).objects → ∀ key,
      key ∈ (s.types i).searchKeys link.toItem ↔
        key ≠ "" ∧ ∃ line ∈ link.lines, searchKey line = key) ∧
    ∀ link : CustomLink, link.toItem ∈ (s.sources i).objects → link.url ≠ "" →
      ∀ line ∈ link.lines, searchKey line ≠ "" → ']' ∉ line.toList → '|' ∉ line.toList →
      (∀ other : CustomLink, other.toItem ∈ (s.sources i).objects → other ≠ link →
        ∀ shared ∈ other.lines, searchKey shared ≠ searchKey line) →
      Site.urlFor { s with index := s.rebuild.index }
        ("[[ " ++ shortcut ++ "->" ++ line ++ " ]]") = .ok (some link.url) := by
  obtain ⟨built, well, rows⟩ := Site.rebuild_ok site.reached
  refine ⟨⟨_, built⟩, fun link _ key => by rw [site.type]; exact mem_searchKeys_iff, ?_⟩
  intro link held filled line mem keyed bracketless barless unshared
  have registered := Registry.mem_linkTypes_of_find? site.bound
  obtain ⟨m, parsed, hint, query⟩ := parse?_line site.isWordRun mem bracketless barless
  obtain ⟨_, _, leading⟩ := Mention.exists_leading parsed
  let indexed : Site ι := { s with index := s.rebuild.index }
  have found : indexed.findIndexed i line = .found link.toItem := by
    have one : indexed.exactMatches i line = {link.toItem} :=
      site.exactMatches_eq held mem keyed unshared
    have outcome := Site.findIndexed_of (s := indexed) site.reached well.keyAscending rows
      registered keyed
    rw [if_neg (by simp [one])] at outcome
    have decided : (Lookup.found link.toItem).Of (indexed.exactMatches i line) := one
    exact outcome.unique decided
  have resolved : indexed.resolve m.typeHint m.query = .ok (.found i link.toItem) := by
    have bound : indexed.registry.find? shortcut = some i := site.bound
    have finder : (indexed.types i).finder = .searchKeys := congrArg LinkType.finder site.type
    rw [hint, query, Site.resolve_of_searchKeys bound finder, found]
    rfl
  have url : (indexed.types i).urlOf? link.toItem = some link.url := by
    rw [show indexed.types i = linkType from site.type, urlOf?_toItem filled]
  rw [← url]
  exact (@LinkField.leadsTo_of_found ι _ indexed ⟨_⟩ m _ _ i link.toItem leading parsed
    resolved).urlFor

end Site

/-! ## A site of custom links -/

/-- Custom links under one shortcut, without other link types; of the links with one id the last
stays. -/
def siteOf (links : List CustomLink) (shortcut : String) : Site Unit where
  types := fun _ => linkType
  sources := fun _ => links.foldl (fun source link => source.insert link.toItem) {}
  registry := ⟨[(shortcut, ())]⟩
  index := .empty
  render := Template.html

theorem register_eq (word : Text.isWordRun shortcut.toList = true) :
    ({} : Registry Unit).register (fun _ => linkType) [shortcut] () = .ok ⟨[(shortcut, ())]⟩ := by
  have valid : linkType.validate = .ok () := by decide
  have names : Registry.checkShortcuts [] [shortcut] = .ok () :=
    Registry.checkShortcuts_eq_ok_iff.mpr ⟨by simpa using word, by simp, by simp⟩
  simp only [Registry.register, valid]
  rw [show ({} : Registry Unit).shortcuts = [] from rfl, names]
  rfl

/-- **Any custom links can be registered under any word.** -/
theorem registered_siteOf (links : List CustomLink)
    (word : Text.isWordRun shortcut.toList = true) :
    Registered (siteOf links shortcut) () shortcut := by
  have source : ∀ source : Source, (∀ o ∈ source.objects, ∃ link : CustomLink, o = link.toItem) →
      (∀ o, source.inScope o = true) →
      let all := links.foldl (fun source link => source.insert link.toItem) source
      (∀ o ∈ all.objects, ∃ link : CustomLink, o = link.toItem) ∧ ∀ o, all.inScope o = true := by
    induction links with
    | nil => exact fun source made unscoped => ⟨made, unscoped⟩
    | cons link links ih =>
        intro source made unscoped
        refine ih (source.insert link.toItem) (fun o mem => ?_) unscoped
        rcases Source.mem_insert.mp mem with rfl | ⟨old, -⟩
        · exact ⟨link, rfl⟩
        · exact made o old
  obtain ⟨made, unscoped⟩ := source {} (by simp) fun _ => rfl
  exact ⟨.register .empty (register_eq word), List.lookup_cons_self, rfl, made,
    fun o _ => unscoped o⟩

/-- A link with blank, padded and repeated lines. -/
def rustBook : CustomLink where
  id := 1
  shortcuts := "rust book\r\n  The Book \nRUST BOOK\n\n"
  url := "/book"

/-- A link with a longer line than another. -/
def bookClub : CustomLink where
  id := 2
  shortcuts := "the book club"
  url := "/club"

/-- The shorter line leads to its own link, although the longer key starts with its key. -/
theorem lines_lead_to_url_books :
    Registered (siteOf [rustBook, bookClub] "link") () "link" ∧
    rustBook.lines = ["rust book", "The Book", "RUST BOOK"] ∧
    ({ siteOf [rustBook, bookClub] "link" with
        index := (siteOf [rustBook, bookClub] "link").rebuild.index } : Site Unit).urlFor
      "[[ link->The Book ]]" = .ok (some "/book") := by
  have site : Registered (siteOf [rustBook, bookClub] "link") () "link" :=
    registered_siteOf _ (by decide)
  have lines : rustBook.lines = ["rust book", "The Book", "RUST BOOK"] := by decide
  have clubLines : bookClub.lines = ["the book club"] := by decide
  have stored : ∀ o, o ∈ ((siteOf [rustBook, bookClub] "link").sources ()).objects ↔
      o = rustBook.toItem ∨ o = bookClub.toItem := fun o => List.mem_pair
  refine ⟨site, lines, (lines_lead_to_url site).2.2 rustBook ((stored _).mpr (Or.inl rfl)) ?_
    "The Book" ?_ ?_ ?_ ?_ ?_⟩
  · decide
  · rw [lines]
    simp
  · decide
  · decide
  · decide
  · intro other held differ shared mem
    rcases (stored _).mp held with same | same
    · exact absurd (toItem_injective same) differ
    · rw [toItem_injective same, clubLines] at mem
      obtain rfl := List.mem_singleton.mp mem
      decide

end CustomLink

end Wikilink
