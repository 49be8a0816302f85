import FaultPages.App.Controller
import FaultPages.Proofs.Text.Cutting
import Mathlib.Logic.Relation

/-! # Accept headers — entries that make one list

    A readable header value lists entries, and an entry is a media type with its parameters.
    What a client accepts is read off the media types of all entries
    (`acceptsHtml_iff_exists_entry`).  So nothing else about the headers matters: a `Change`
    puts the same entries into other headers, in another order or in another spelling, or
    adds what lists no HTML.  Each change keeps the answer (`listsHtml_change`), and so does
    any run of them in either direction, by induction (`acceptsHtml_restated`). -/

namespace FaultPages

open Http Text

-- ── Entries ──────────────────────────────────────────────────────────────────────

/-- An entry of a list of media types: a media type with blanks around it, and its parameters
    after a semicolon, if there are any. -/
structure Entry where
  front : Text
  mediaType : Text
  behind : Text
  parameters : Option Text
  front_blank : ∀ c ∈ front, isBlank c = true
  behind_blank : ∀ c ∈ behind, isBlank c = true
  first_not_blank : ∀ c ∈ mediaType.head?, isBlank c = false
  last_not_blank : ∀ c ∈ mediaType.getLast?, isBlank c = false
  semicolon_not_mem : ';' ∉ mediaType

namespace Entry

/-- The media type of an entry with the blanks around it. -/
def padded (e : Entry) : Text := e.front ++ (e.mediaType ++ e.behind)

/-- An entry as it is written. -/
def text (e : Entry) : Text :=
  match e.parameters with
  | none => e.padded
  | some parameters => e.padded ++ ';' :: parameters

/-- Whether an entry is for HTML. -/
def isHtml (e : Entry) : Bool := equalsIgnoringCase e.mediaType textHtml

theorem semicolon_not_mem_padded (e : Entry) : ';' ∉ e.padded := by
  have hblank : ¬ isBlank ';' = true := by decide
  intro h
  rcases List.mem_append.mp h with h | h
  · exact hblank (e.front_blank _ h)
  · rcases List.mem_append.mp h with h | h
    · exact e.semicolon_not_mem h
    · exact hblank (e.behind_blank _ h)

/-- Of an entry, only the media type is looked at. -/
theorem isHtmlRange_text (e : Entry) : isHtmlRange e.text = e.isHtml := by
  have hcut : (cutAt ';' e.text).1 = e.padded := by
    rw [text]
    cases e.parameters with
    | none => rw [cutAt_of_not_mem e.semicolon_not_mem_padded]
    | some parameters => rw [cutAt_append e.semicolon_not_mem_padded]
  have htrim : trim e.padded = e.mediaType :=
    trim_append e.front_blank e.behind_blank e.first_not_blank e.last_not_blank
  rw [isHtmlRange, hcut, htrim, isHtml]

/-- Any text is an entry. -/
theorem exists_text_eq (t : Text) : ∃ e : Entry, e.text = t := by
  obtain ⟨head, rest, rfl, hhead, hrest⟩ := exists_takeWhile (· != ';') t
  obtain ⟨front, bare, behind, rfl, hfront, hbehind, hfirst, hlast⟩ := exists_bare head
  have hsemicolon : ';' ∉ bare := by
    intro h
    have := hhead ';' (List.mem_append_right _ (List.mem_append_left _ h))
    simp at this
  cases rest with
  | nil =>
      refine ⟨⟨front, bare, behind, none, hfront, hbehind, hfirst, hlast, hsemicolon⟩, ?_⟩
      exact (List.append_nil _).symm
  | cons c rest =>
      obtain rfl : c = ';' := by simpa using hrest c rfl
      exact ⟨⟨front, bare, behind, some rest, hfront, hbehind, hfirst, hlast, hsemicolon⟩, rfl⟩

end Entry

-- ── Header values ────────────────────────────────────────────────────────────────

/-- A readable header value lists some entries: texts without commas, with commas between
    them. -/
structure Lists (value : Text) (entries : List Text) : Prop where
  readable : isReadable value = true
  ne_nil : entries ≠ []
  comma_not_mem : ∀ entry ∈ entries, ',' ∉ entry
  value_eq : value = [','].intercalate entries

theorem Lists.splitOn_eq {value : Text} {entries : List Text} (h : Lists value entries) :
    splitOn ',' value = entries := by
  rw [Text.splitOn_eq, h.value_eq]
  exact List.splitOn_intercalate ',' h.comma_not_mem h.ne_nil

/-- Every readable value lists the pieces between its commas. -/
theorem lists_splitOn {value : Text} (h : isReadable value = true) :
    Lists value (splitOn ',' value) where
  readable := h
  ne_nil := by
    rw [Text.splitOn_eq]
    exact List.splitOn_ne_nil ',' value
  comma_not_mem entry hentry := not_mem_of_mem_splitOn hentry
  value_eq := by
    rw [Text.splitOn_eq]
    exact (List.intercalate_splitOn ',').symm

theorem isReadable_comma (s t : Text) :
    isReadable (s ++ ',' :: t) = (isReadable s && isReadable t) := by
  rw [isReadable, List.all_append, List.all_cons]
  rfl

variable {value other s t : Text} {values others before after entries : List Text}

theorem listsHtml_append (values others : List Text) :
    listsHtml (values ++ others) = (listsHtml values || listsHtml others) := by
  rw [listsHtml, List.filter_append, List.any_append]
  rfl

/-- A value that is not readable lists nothing. -/
theorem listsHtml_of_not_isReadable (h : isReadable value = false) : listsHtml [value] = false := by
  rw [listsHtml, List.filter_cons_of_neg (Bool.eq_false_iff.mp h)]
  rfl

/-- A readable value lists HTML if one of its entries is for it. -/
theorem Lists.listsHtml_eq (h : Lists value entries) :
    listsHtml [value] = entries.any isHtmlRange := by
  rw [listsHtml, List.filter_cons_of_pos h.readable, ← h.splitOn_eq]
  exact Bool.or_false _

/-- A value in which two stand with a comma between them lists what the two list. -/
theorem listsHtml_comma (hs : isReadable s = true) (ht : isReadable t = true) :
    listsHtml [s ++ ',' :: t] = (listsHtml [s] || listsHtml [t]) := by
  have hboth : isReadable (s ++ ',' :: t) = true := by rw [isReadable_comma, hs, ht]; rfl
  rw [(lists_splitOn hboth).listsHtml_eq, (lists_splitOn hs).listsHtml_eq,
    (lists_splitOn ht).listsHtml_eq, Text.splitOn_eq, List.splitOn_append_cons_self, List.any_append,
    Text.splitOn_eq, Text.splitOn_eq]

/-- Readable values list what one value lists in which they stand with commas between them. -/
theorem listsHtml_intercalate (h : ∀ value ∈ values, isReadable value = true) :
    isReadable ([','].intercalate values) = true ∧
      listsHtml [[','].intercalate values] = listsHtml values := by
  induction values with
  | nil => exact ⟨rfl, by decide⟩
  | cons value values ih =>
      obtain ⟨hvalue, hvalues⟩ := List.forall_mem_cons.mp h
      cases values with
      | nil =>
          rw [List.intercalate_singleton]
          exact ⟨hvalue, rfl⟩
      | cons next values =>
          obtain ⟨hreadable, hlists⟩ := ih hvalues
          rw [List.intercalate_cons_cons, List.append_assoc, List.singleton_append,
            isReadable_comma, hvalue, hreadable, listsHtml_comma hvalue hreadable, hlists,
            ← listsHtml_append]
          exact ⟨rfl, rfl⟩

-- ── Changes ──────────────────────────────────────────────────────────────────────

/-- A change of header values that does not bear on what they list.  Entries are those of
    readable values; a value that is not readable has none. -/
inductive Change : List Text → List Text → Prop where
  /-- All values are put into one, with commas between them. -/
  | joined {values : List Text} (readable : ∀ value ∈ values, isReadable value = true) :
      Change values [[','].intercalate values]
  /-- The values are put into another order. -/
  | reordered {values others : List Text} (same : values.Perm others) : Change values others
  /-- The entries of a value are put into another order. -/
  | entriesReordered {before after entries moved : List Text} {value other : Text}
      (lists : Lists value entries) (listsOther : Lists other moved) (same : entries.Perm moved) :
      Change (before ++ value :: after) (before ++ other :: after)
  /-- An entry gets other blanks, other parameters, or its letters in another case. -/
  | respelled {before after first last : List Text} {value other : Text} {entry spelling : Entry}
      (lists : Lists value (first ++ entry.text :: last))
      (listsOther : Lists other (first ++ spelling.text :: last))
      (same : equalsIgnoringCase entry.mediaType spelling.mediaType = true) :
      Change (before ++ value :: after) (before ++ other :: after)
  /-- A value that is not readable is added. -/
  | unreadable {before after : List Text} {value : Text} (hidden : isReadable value = false) :
      Change (before ++ after) (before ++ value :: after)
  /-- An entry that is not for HTML is added to a value. -/
  | otherEntry {before after first last : List Text} {value other : Text} {entry : Entry}
      (lists : Lists value (first ++ last)) (listsOther : Lists other (first ++ entry.text :: last))
      (different : entry.isHtml = false) :
      Change (before ++ value :: after) (before ++ other :: after)

/-- One value may be put in place of another that lists HTML if it does. -/
theorem listsHtml_replace (h : listsHtml [value] = listsHtml [other]) :
    listsHtml (before ++ value :: after) = listsHtml (before ++ other :: after) := by
  rw [listsHtml_append, listsHtml_append, ← List.singleton_append, listsHtml_append, h,
    ← listsHtml_append, List.singleton_append]

/-- **A change keeps what is listed.** -/
theorem listsHtml_change (h : Change values others) : listsHtml values = listsHtml others := by
  cases h with
  | joined readable => exact (listsHtml_intercalate readable).2.symm
  | reordered same => exact (same.filter isReadable).any_eq
  | entriesReordered lists listsOther same =>
      refine listsHtml_replace ?_
      rw [lists.listsHtml_eq, listsOther.listsHtml_eq]
      exact same.any_eq
  | respelled lists listsOther same =>
      rename_i entry spelling
      refine listsHtml_replace ?_
      have hlower : lower entry.mediaType = lower spelling.mediaType := beq_iff_eq.mp same
      have hentry : isHtmlRange entry.text = isHtmlRange spelling.text := by
        rw [Entry.isHtmlRange_text, Entry.isHtmlRange_text, Entry.isHtml, Entry.isHtml,
          equalsIgnoringCase, equalsIgnoringCase, hlower]
      rw [lists.listsHtml_eq, listsOther.listsHtml_eq, List.any_append, List.any_append,
        List.any_cons, List.any_cons, hentry]
  | @unreadable before after value hidden =>
      rw [listsHtml_append, listsHtml_append, ← List.singleton_append, listsHtml_append,
        listsHtml_of_not_isReadable hidden, Bool.false_or]
  | otherEntry lists listsOther different =>
      refine listsHtml_replace ?_
      rw [lists.listsHtml_eq, listsOther.listsHtml_eq, List.any_append, List.any_append,
        List.any_cons, Entry.isHtmlRange_text, different, Bool.false_or]

/-- So does any run of changes, in either direction. -/
theorem listsHtml_eqvGen (h : Relation.EqvGen Change values others) :
    listsHtml values = listsHtml others := by
  induction h with
  | rel values others change => exact listsHtml_change change
  | refl values => rfl
  | symm values others _ ih => exact ih.symm
  | trans values middle others _ _ ih ih' => exact ih.trans ih'

-- ── Headers ──────────────────────────────────────────────────────────────────────

/-- **What a client accepts** is read off the media types of the entries that it lists. -/
theorem acceptsHtml_iff_exists_entry (headers : Headers) :
    acceptsHtml headers = true ↔
      ∃ value ∈ headers.values "accept".toList, ∃ (entries : List Text) (entry : Entry),
        Lists value entries ∧ entry.text ∈ entries ∧ entry.isHtml = true := by
  rw [acceptsHtml, listsHtml, List.any_eq_true]
  constructor
  · rintro ⟨value, hvalue, hany⟩
    obtain ⟨hmem, hreadable⟩ := List.mem_filter.mp hvalue
    obtain ⟨t, ht, hhtml⟩ := List.any_eq_true.mp hany
    obtain ⟨entry, rfl⟩ := Entry.exists_text_eq t
    exact ⟨value, hmem, _, entry, lists_splitOn hreadable, ht,
      entry.isHtmlRange_text.symm.trans hhtml⟩
  · rintro ⟨value, hvalue, entries, entry, hlists, hentry, hhtml⟩
    refine ⟨value, List.mem_filter.mpr ⟨hvalue, hlists.readable⟩, ?_⟩
    rw [hlists.splitOn_eq]
    exact List.any_eq_true.mpr ⟨entry.text, hentry, entry.isHtmlRange_text.trans hhtml⟩

/-- **Accept headers make one list.**  A client accepts HTML if an entry of a readable value has
    the media type of HTML, in any case of its letters, between any blanks and with any
    parameters.  Hence the answer stays the same when the values are put into one or into another
    order, when entries are put into another order or another spelling, and when values that
    are not readable or entries for something else are added or left out. -/
theorem acceptsHtml_restated {headers others : Headers}
    (h : Relation.EqvGen Change (headers.values "accept".toList) (others.values "accept".toList)) :
    (acceptsHtml headers = true ↔
      ∃ value ∈ headers.values "accept".toList, ∃ (entries : List Text) (entry : Entry),
        Lists value entries ∧ entry.text ∈ entries ∧
          equalsIgnoringCase entry.mediaType "text/html".toList = true) ∧
      acceptsHtml headers = acceptsHtml others :=
  ⟨acceptsHtml_iff_exists_entry headers, listsHtml_eqvGen h⟩

/-- Two values are put into one, an entry for plain text is left out, the other is spelled in
    lower case and without its parameter, and a value that is not readable is added. -/
theorem acceptsHtml_restated_shouted :
    let headers : Headers := [("accept".toList, "text/plain".toList),
      ("accept".toList, "TEXT/HTML ;q=1".toList)]
    let others : Headers := [("accept".toList, ['é']), ("accept".toList, "text/html".toList)]
    Relation.EqvGen Change (headers.values "accept".toList) (others.values "accept".toList) ∧
      acceptsHtml headers = true ∧ acceptsHtml others = true := by
  intro headers others
  let plain : Entry := ⟨[], "text/plain".toList, [], none, List.forall_mem_nil _,
    List.forall_mem_nil _, by rintro c ⟨⟩; decide, by rintro c ⟨⟩; decide, by decide⟩
  let shouted : Entry := ⟨[], "TEXT/HTML".toList, [' '], some "q=1".toList, List.forall_mem_nil _,
    List.forall_mem_singleton.mpr (by decide), by rintro c ⟨⟩; decide, by rintro c ⟨⟩; decide,
    by decide⟩
  let quiet : Entry := ⟨[], "text/html".toList, [], none, List.forall_mem_nil _,
    List.forall_mem_nil _, by rintro c ⟨⟩; decide, by rintro c ⟨⟩; decide, by decide⟩
  have hboth : Lists "text/plain,TEXT/HTML ;q=1".toList [plain.text, shouted.text] :=
    ⟨by decide, by decide, by decide, by decide⟩
  have hshouted : Lists "TEXT/HTML ;q=1".toList [shouted.text] :=
    ⟨by decide, by decide, by decide, by decide⟩
  have hquiet : Lists "text/html".toList [quiet.text] :=
    ⟨by decide, by decide, by decide, by decide⟩
  have hjoined : Change ["text/plain".toList, "TEXT/HTML ;q=1".toList]
      ["text/plain,TEXT/HTML ;q=1".toList] := .joined (by decide)
  have hadded : Change ["TEXT/HTML ;q=1".toList] ["text/plain,TEXT/HTML ;q=1".toList] :=
    @Change.otherEntry [] [] [] [shouted.text] _ _ plain hshouted hboth (by decide)
  have hspelled : Change ["TEXT/HTML ;q=1".toList] ["text/html".toList] :=
    @Change.respelled [] [] [] [] _ _ shouted quiet hshouted hquiet (by decide)
  have hhidden : Change ["text/html".toList] [['é'], "text/html".toList] :=
    @Change.unreadable [] _ _ (by decide)
  have hrun : Relation.EqvGen Change (headers.values "accept".toList)
      (others.values "accept".toList) :=
    .trans _ _ _ (.rel _ _ hjoined) (.trans _ _ _ (.symm _ _ (.rel _ _ hadded))
      (.trans _ _ _ (.rel _ _ hspelled) (.rel _ _ hhidden)))
  obtain ⟨hiff, hsame⟩ := acceptsHtml_restated hrun
  have hheaders : acceptsHtml headers = true :=
    hiff.mpr ⟨_, List.mem_cons_of_mem _ List.mem_cons_self, _, shouted, hshouted,
      List.mem_cons_self, by decide⟩
  exact ⟨hrun, hheaders, hsame.symm.trans hheaders⟩

end FaultPages
