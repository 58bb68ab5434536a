import Folio.Frontmatter.Schema
import Folio.Proofs.Date.Text
import Folio.Proofs.Dict
import Folio.Proofs.Outcome

/-!
# Records written as mappings

The record of a post is read again from the mapping that it is written as, and the mapping of a page
is written again from its record.
-/

namespace Folio.Frontmatter

/-! ## Fields -/

section

variable {α : Type} {read : Json → Except RecordFault α} {name : String} {entries : Dict Json}

theorem field_of_get?_none (hvalue : entries.get? name = none) :
    field read name entries = .ok none := by
  rw [field, hvalue]

theorem field_of_get?_some {value : Json} (hvalue : entries.get? name = some value) :
    field read name entries = (read value).map some := by
  rw [field, hvalue]

/-- A field that is listed once among different ones is read from its value. -/
theorem field_ofList {l : List (String × Json)} (hl : (l.map Prod.fst).Nodup) {value : Json} {a : α}
    (hread : read value = .ok a) (hm : (name, value) ∈ l) :
    field read name (Dict.ofList l) = .ok (some a) := by
  rw [field_of_get?_some (Dict.get?_ofList_of_mem hl hm), hread]
  rfl

/-- A list of written values is read value by value. -/
theorem list_ofList {write : α → Json} (h : ∀ a, read (write a) = .ok a) (l : List α) :
    list read (.ofList write l) = .ok l := by
  rw [Json.ofList, list]
  induction l with
  | nil => rfl
  | cons a l ih =>
      rw [List.map_cons, List.mapM_cons, h a, ih]
      rfl

theorem text_string (s : String) : text (.string s) = .ok s := rfl

theorem optionalText_string (s : String) : optionalText (.string s) = .ok (some s) := rfl

theorem date_string_text (day : Date) : date (.string day.text) = .ok day := by
  have hread : Date.parse? day.text = some day := by
    simpa using day.parse?_text (List.forall_mem_nil _) (List.forall_mem_nil _)
  refine bind_eq_ok_iff.2 ⟨day.text, text_string day.text, ?_⟩
  simp only [hread]
  rfl

end

/-! ## Posts -/

/-- An author is read again from the written one. -/
theorem Author.read_toJson (author : Author) : Author.read author.toJson = .ok author := by
  obtain ⟨avatar, handle, username, handleUrl⟩ := author
  rw [toJson, Json.ofDict, Author.read, Dict.ofList_entries, ofEntries]
  -- A picture that there is not is not written, so its field is not there either.
  cases avatar with
  | none =>
      rw [field_of_get?_none ((Dict.get?_ofList _ _).trans (by simp)),
        field_ofList (by simp) (text_string handle) (by simp),
        field_ofList (by simp) (text_string handleUrl) (by simp),
        field_ofList (by simp) (text_string username) (by simp)]
      rfl
  | some avatar =>
      rw [field_ofList (by simp) (optionalText_string avatar) (by simp),
        field_ofList (by simp) (text_string handle) (by simp),
        field_ofList (by simp) (text_string handleUrl) (by simp),
        field_ofList (by simp) (text_string username) (by simp)]
      rfl

/-- A post is read again from the written one. -/
theorem Post.read_entries (post : Post) : Post.read post.entries = .ok post := by
  have hauthors : list Author.read (.ofList Author.toJson post.authors) = .ok post.authors :=
    list_ofList Author.read_toJson post.authors
  rw [Post.read, Post.entries, field_ofList (by simp) hauthors (by simp),
    field_ofList (by simp) (date_string_text post.date) (by simp),
    field_ofList (by simp) (text_string post.description) (by simp),
    field_ofList (by simp) (text_string post.title) (by simp)]
  rfl

/-! ## Pages -/

/-- A text is read from a field exactly if there is one in it. -/
theorem field_text_eq_ok_some_iff {name s : String} {entries : Dict Json} :
    field text name entries = .ok (some s) ↔ entries.get? name = some (.string s) := by
  rw [field]
  cases entries.get? name with
  | none => simp
  | some value => cases value <;> simp [text, wrongType, Except.map]

theorem present_eq_ok_iff {α : Type} {name : String} {value? : Option α} {a : α} :
    present name value? = .ok a ↔ value? = some a := by
  cases value? <;> simp [present]

/-- A page is read exactly if its two texts are there, and all other keys are kept. -/
theorem Page.read_eq_ok_iff {entries : Dict Json} {page : Page} :
    Page.read entries = .ok page ↔ entries.get? "title" = some (.string page.title) ∧
      entries.get? "description" = some (.string page.description) ∧
      page.extra = (entries.erase "title").erase "description" := by
  rw [← field_text_eq_ok_some_iff, ← field_text_eq_ok_some_iff]
  constructor
  · intro h
    obtain ⟨description?, hdescription, h⟩ := bind_eq_ok_iff.1 h
    obtain ⟨title?, htitle, h⟩ := bind_eq_ok_iff.1 h
    obtain ⟨title, htitle', h⟩ := bind_eq_ok_iff.1 h
    obtain ⟨description, hdescription', rfl⟩ := bind_pure_eq_ok_iff.1 h
    rw [htitle, hdescription, present_eq_ok_iff.1 htitle', present_eq_ok_iff.1 hdescription']
    exact ⟨rfl, rfl, rfl⟩
  · rintro ⟨htitle, hdescription, hextra⟩
    rw [Page.read, hdescription, htitle]
    exact congrArg Except.ok (by rw [← hextra])

/-- The mapping of a page is the one that it was read from. -/
theorem Page.entries_of_read {entries : Dict Json} {page : Page}
    (h : Page.read entries = .ok page) :
    page.entries = entries := by
  obtain ⟨htitle, hdescription, hextra⟩ := Page.read_eq_ok_iff.1 h
  apply Dict.ext_get?
  intro name
  rw [Page.entries, Dict.get?_insert, Dict.get?_insert, hextra, Dict.get?_erase, Dict.get?_erase]
  split
  case isTrue hname => rw [← hname, hdescription]
  case isFalse hname =>
    split
    case isTrue hname => rw [← hname, htitle]
    case isFalse hname => rfl

/-! ## Both ways -/

/-- Every post is read again from its mapping.  A page is read from just the mappings that have a
text for its title and one for its description, and each of these is written again, with all further
keys.  Both rest on dates that are read again from their text, which has a sign unless the year has
four digits; and a timestamp stands for the day it writes. -/
theorem records_roundTrip :
    (∀ post : Post, Post.read post.entries = .ok post) ∧
      (∀ entries : Dict Json,
        ((∃ page, Page.read entries = .ok page) ↔
          ∃ title description, entries.get? "title" = some (.string title) ∧
            entries.get? "description" = some (.string description)) ∧
        ∀ page, Page.read entries = .ok page → page.entries = entries) ∧
      (∀ (date : Date) (lead tail : List Char), (∀ c ∈ lead, Text.isBlank c) →
        (∀ c ∈ tail, Text.isBlank c) →
        Date.parse? (String.ofList (lead ++ (date.text.toList ++ tail))) = some date ∧
          (date.text.toList.head? = some '-' ↔ date.year < 0) ∧
          (date.text.toList.head? = some '+' ↔ 9999 < date.year)) ∧
      ∀ (timestamp : Date.Timestamp) (lead tail : List Char), (∀ c ∈ lead, Text.isBlank c) →
        (∀ c ∈ tail, Text.isBlank c) →
        Date.parse? (String.ofList (lead ++ (timestamp.written ++ tail))) =
          some timestamp.date := by
  refine ⟨Post.read_entries, fun entries => ⟨?_, fun page => Page.entries_of_read⟩,
    fun date lead tail hlead htail => ⟨date.parse?_text hlead htail, date.head?_text⟩,
    fun timestamp lead tail hlead htail => timestamp.parse?_written hlead htail⟩
  constructor
  · rintro ⟨page, h⟩
    obtain ⟨htitle, hdescription, -⟩ := Page.read_eq_ok_iff.1 h
    exact ⟨page.title, page.description, htitle, hdescription⟩
  · rintro ⟨title, description, htitle, hdescription⟩
    exact ⟨⟨title, description, _⟩, Page.read_eq_ok_iff.2 ⟨htitle, hdescription, rfl⟩⟩

/-- The mapping of a page with a nested value under a further key. -/
def componentPage : Dict Json :=
  Dict.ofList [("title", .string "Button"), ("description", .string "Clickable"),
    ("component", .array [.bool true, .object [("size", .integer 2)]])]

/-- A timestamp in the last second of a year. -/
def lateTimestamp : Date.Timestamp where
  date := ⟨2016, 12, 31, by decide⟩
  year_mem := by decide
  separator := 'T'
  separator_eq := Or.inl rfl
  hour := 23
  hour_le := by decide
  minute := 59
  minute_le := by decide
  second := 60
  second_le := by decide
  decimals := []
  isDigit_decimals := nofun
  offset := .apart '+' (Or.inl rfl) 2 0 (by decide) (by decide)

theorem records_roundTrip_componentPage :
    (∃ page, Page.read componentPage = .ok page ∧ page.entries = componentPage) ∧
      Date.parse? " +10000-02-29\n" = some ⟨10000, 2, 29, by decide⟩ ∧
      Date.parse? "2016-12-31T23:59:60+02:00" = some ⟨2016, 12, 31, by decide⟩ := by
  obtain ⟨-, hpages, hdates, htimestamps⟩ := records_roundTrip
  obtain ⟨page, hpage⟩ := (hpages componentPage).1.2 ⟨"Button", "Clickable", rfl, rfl⟩
  have hday : String.ofList ([' '] ++ ((⟨10000, 2, 29, by decide⟩ : Date).text.toList ++ ['\n'])) =
      " +10000-02-29\n" := by decide
  have htime : String.ofList ([] ++ (lateTimestamp.written ++ [])) =
      "2016-12-31T23:59:60+02:00" := by
    decide
  refine ⟨⟨page, hpage, (hpages componentPage).2 page hpage⟩, ?_, ?_⟩
  · rw [← hday]
    exact (hdates _ [' '] ['\n'] (by simp [Text.isBlank]) (by simp [Text.isBlank])).1
  · rw [← htime]
    exact htimestamps lateTimestamp [] [] (List.forall_mem_nil _) (List.forall_mem_nil _)

end Folio.Frontmatter
