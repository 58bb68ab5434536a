import Folio.Proofs.Json.Record
import Folio.Proofs.Outcome
import Folio.Proofs.Text.Line
import Folio.Site.Config

/-!
# Accepted configurations

What a configuration that was accepted is like.  Its extensions are in a normal form, which bringing
them there again does not change, so a configuration that is written is read again as it is.
-/

namespace Folio.Site

open Record

/-! ## Extensions -/

theorem isUpper_iff {c : Char} : c.isUpper ↔ 'A'.val ≤ c.val ∧ c.val ≤ 'Z'.val :=
  decide_eq_true_iff

theorem toLower_of_not_isUpper {c : Char} (h : ¬ c.isUpper) : c.toLower = c :=
  dif_neg (isUpper_iff.not.1 h)

theorem val_toLower_of_isUpper {c : Char} (h : c.isUpper) : c.toLower.val = c.val + 32 := by
  have hlower : c.toLower = ⟨c.val + 32, _⟩ := dif_pos (isUpper_iff.1 h)
  rw [hlower]

theorem isUpper_toLower (c : Char) : c.toLower.isUpper = false := by
  rw [Bool.eq_false_iff]
  by_cases h : c.isUpper
  · rw [ne_eq, isUpper_iff, val_toLower_of_isUpper h]
    rw [isUpper_iff] at h
    grind [UInt32.toNat_add]
  · rwa [toLower_of_not_isUpper h]

theorem toLower_ne_dot {c : Char} (hc : c ≠ '.') : c.toLower ≠ '.' := by
  by_cases h : c.isUpper
  · intro hdot
    have hvalue := val_toLower_of_isUpper h
    rw [hdot] at hvalue
    rw [isUpper_iff] at h
    grind [UInt32.toNat_add]
  · rwa [toLower_of_not_isUpper h]

/-- An extension without a point in front and without capitals. -/
structure IsNormal (extension : String) : Prop where
  head?_ne : extension.toList.head? ≠ some '.'
  isUpper_eq_false : ∀ c ∈ extension.toList, c.isUpper = false

theorem isNormal_normalExtension (extension : String) :
    IsNormal (SiteConfig.normalExtension extension) := by
  constructor
  · rw [SiteConfig.normalExtension, String.toList_ofList]
    cases hrest : extension.toList.dropWhile (· == '.') with
    | nil => simp
    | cons c rest =>
        have hc := List.head?_dropWhile_not (· == '.') extension.toList
        rw [hrest, List.head?_cons] at hc
        have hne : c.toLower ≠ '.' := toLower_ne_dot (by simpa using hc)
        simpa using hne
  · rw [SiteConfig.normalExtension, String.toList_ofList, List.forall_mem_map]
    exact fun c _ => isUpper_toLower c

/-- The normal form of an extension that has it already is the extension. -/
theorem IsNormal.normalExtension_eq {extension : String} (h : IsNormal extension) :
    SiteConfig.normalExtension extension = extension := by
  have hdrop : extension.toList.dropWhile (· == '.') = extension.toList := by
    cases hlist : extension.toList with
    | nil => rfl
    | cons c rest =>
        have hc := h.head?_ne
        rw [hlist] at hc
        exact List.dropWhile_cons_of_neg (by simpa using hc)
  have hmap : extension.toList.map Char.toLower = extension.toList :=
    (List.map_congr_left fun c hc =>
      toLower_of_not_isUpper (by simp [h.isUpper_eq_false c hc])).trans
      (List.map_id' _)
  rw [SiteConfig.normalExtension, hdrop, hmap, String.ofList_toList]

namespace SiteConfig

/-- The extensions of a list in normal form, without those that nothing is left of. -/
def normalExtensions (extensions : List String) : List String :=
  (extensions.map normalExtension).filter (!·.isEmpty)

theorem mem_normalExtensions {extensions : List String} {extension : String}
    (h : extension ∈ normalExtensions extensions) : extension ≠ "" ∧ IsNormal extension := by
  obtain ⟨hm, hempty⟩ := List.mem_filter.1 h
  obtain ⟨other, -, rfl⟩ := List.mem_map.1 hm
  exact ⟨by simpa using hempty, isNormal_normalExtension other⟩

theorem normalExtensions_normalExtensions (extensions : List String) :
    normalExtensions (normalExtensions extensions) = normalExtensions extensions := by
  have hmap : (normalExtensions extensions).map normalExtension = normalExtensions extensions :=
    (List.map_congr_left fun _ hm => (mem_normalExtensions hm).2.normalExtension_eq).trans
      (List.map_id' _)
  rw [normalExtensions, hmap, List.filter_eq_self]
  intro extension hm
  simpa using (mem_normalExtensions hm).1

/-! ## Validation -/

theorem validate_eq_ok_iff {written config : SiteConfig} : written.validate = .ok config ↔
    normalExtensions written.extensions ≠ [] ∧ written.maxThreads ≠ some 0 ∧
      config = { written with extensions := normalExtensions written.extensions } := by
  have heq : (written.extensions.map normalExtension).filter (!·.isEmpty) =
    normalExtensions written.extensions := rfl
  simp only [validate, heq, List.isEmpty_iff]
  by_cases hempty : normalExtensions written.extensions = []
  · simp [hempty]
  · by_cases hthread : written.maxThreads = some 0
    · simp [hempty, hthread]
    · simp [hempty, hthread, eq_comm]

/-- A configuration that was accepted is accepted as it is. -/
theorem validate_of_validate {written config : SiteConfig} (h : written.validate = .ok config) :
    config.validate = .ok config := by
  obtain ⟨hextensions, hthreads, rfl⟩ := validate_eq_ok_iff.1 h
  refine validate_eq_ok_iff.2 ⟨?_, hthreads, ?_⟩
  · rwa [normalExtensions_normalExtensions]
  · rw [normalExtensions_normalExtensions]

/-! ## Reading -/

/-- What is read from a document is read from its fields. -/
theorem exists_fields_of_read? {δ : Type} [Readable δ] {document : δ} {config : SiteConfig}
    (h : read? document = some config) :
    ∃ docsDir postsDir extensions maxThreads components compile,
      Readable.fields? ["docsDir", "postsDir", "extensions", "maxThreads", "components", "compile"]
        document = some [docsDir, postsDir, extensions, maxThreads, components, compile] ∧
      defaulted ["md", "mdx"] (list Readable.text?) extensions = some config.extensions ∧
      Record.optional Readable.count? maxThreads = some config.maxThreads := by
  simp only [read?, Option.bind_eq_bind, Option.bind_eq_some_iff] at h
  obtain ⟨fields, hfields, h⟩ := h
  split at h
  case h_1 docsDir postsDir extensions maxThreads components compile =>
    simp only [Option.bind_eq_some_iff, Option.pure_def, Option.some.injEq] at h
    obtain ⟨_, -, _, -, written, hextensions, count, hthreads, _, -, _, -, rfl⟩ := h
    exact ⟨_, _, _, _, _, _, hfields, hextensions, hthreads⟩
  case h_2 => cases h

/-- A number of threads that is read from JSON fits a machine word. -/
theorem maxThreads_le_of_read? {document : Json.Source} {config : SiteConfig}
    (h : read? document = some config) : ∀ n ∈ config.maxThreads, n ≤ maxCount := by
  obtain ⟨_, _, _, threads, _, _, -, -, hthreads⟩ := exists_fields_of_read? h
  intro n hn
  rw [hn] at hthreads
  cases threads with
  | none => cases hthreads
  | some value =>
      rw [Record.optional] at hthreads
      split at hthreads
      · cases hthreads
      · obtain ⟨m, hm, heq⟩ := Option.map_eq_some_iff.1 hthreads
        cases heq
        exact Json.le_maxCount_of_count? hm

/-- A configuration is read again from the written one. -/
theorem read?_source {config : SiteConfig} (hthreads : ∀ n ∈ config.maxThreads, n ≤ maxCount) :
    read? config.toJson.source = some config := by
  obtain ⟨docsDir, postsDir, extensions, maxThreads, components, compile⟩ := config
  have hextensions : list Readable.text? (Json.source (.ofList Json.string extensions)) =
      some extensions := Json.list_source Json.text?_source extensions
  have hcomponents : list Binding.read? (Json.source (.ofList Binding.toJson components)) =
      some components := Json.list_source Binding.read?_source components
  have hcount : Record.optional Readable.count?
      (some (Json.source (.ofOption (fun n : Nat => (n : Json)) maxThreads))) =
        some maxThreads := by
    cases maxThreads with
    | none => rfl
    | some n =>
        have hpresent : Readable.isAbsent (Json.source (.integer n)) = false := rfl
        have hn := Json.count?_source (hthreads n rfl)
        simp [Json.ofOption, Record.optional, hpresent, hn]
  rw [read?, toJson, Json.fields?_source]
  simp [pickAll?, pick?, defaulted, Json.text?_source, hextensions, hcomponents, hcount,
    CompileOptions.read?_source]

/-! ## Extensions of a document -/

/-- The value of a document for the extensions: the one of that name, or the third one when it lists
values alone. -/
def extensionsIn? : Json.Source → Option Json.Source
  | .object entries =>
    (entries.find? fun entry => Json.unescape? entry.1 == some "extensions".toList).map (·.2)
  | .array values => values[2]?
  | _ => none

/-- The extensions that a document lists, or the usual ones when it says nothing about them. -/
def Lists (document : Json.Source) (extensions : List String) : Prop :=
  match extensionsIn? document with
  | some (.array items) => items.mapM Json.Source.text? = some extensions
  | some _ => False
  | none => extensions = ["md", "mdx"]

/-- The value of a name is that of its first entry. -/
theorem find?_of_pick? {δ : Type} {name : String} {entries : List (String × δ)} {value? : Option δ}
    (h : pick? name entries = some value?) :
    (entries.find? (·.1 == name)).map (·.2) = value? := by
  rw [← List.head?_filter]
  unfold pick? at h
  split at h
  case h_1 hfilter =>
    cases h
    rw [hfilter]
    rfl
  case h_2 hfilter =>
    cases h
    rw [hfilter]
    rfl
  case h_3 => cases h

theorem find?_of_mapM_named? {entries : List (List Char × Json.Source)}
    {named : List (String × Json.Source)} (h : entries.mapM Json.named? = some named)
    (name : String) : (named.find? (·.1 == name)).map (·.2) =
      (entries.find? fun entry => Json.unescape? entry.1 == some name.toList).map (·.2) := by
  induction entries generalizing named with
  | nil =>
      cases h
      rfl
  | cons entry entries ih =>
      obtain ⟨written, value⟩ := entry
      rw [List.mapM_cons, Option.bind_eq_bind, Option.bind_eq_some_iff] at h
      obtain ⟨head, hhead, h⟩ := h
      obtain ⟨tail, htail, h⟩ := Option.bind_eq_some_iff.1 h
      cases h
      obtain ⟨cs, hcs, rfl⟩ := Option.map_eq_some_iff.1 hhead
      have hname : (some cs == some name.toList) = (String.ofList cs == name) := by
        rw [Bool.eq_iff_iff, beq_iff_eq, beq_iff_eq, Option.some_inj, ← String.toList_inj,
          String.toList_ofList]
      rw [List.find?_cons, List.find?_cons, hcs, hname]
      cases String.ofList cs == name with
      | true => rfl
      | false => exact ih htail

/-- The extensions that are read are the ones that the document lists. -/
theorem lists_of_read? {document : Json.Source} {config : SiteConfig}
    (h : read? document = some config) : Lists document config.extensions := by
  obtain ⟨docsDir, postsDir, extensions, maxThreads, components, compile, hfields, hlist, -⟩ :=
    exists_fields_of_read? h
  -- The fields come from the names of an object, or from the places of an array.
  have hvalue : extensionsIn? document = extensions := by
    cases document with
    | object entries =>
        rw [Json.fields?_object, Option.bind_eq_some_iff] at hfields
        obtain ⟨named, hnamed, hpick⟩ := hfields
        rw [extensionsIn?, ← find?_of_mapM_named? hnamed]
        apply find?_of_pick?
        simp only [pickAll?, List.mapM_cons, Option.bind_eq_bind, Option.bind_eq_some_iff] at hpick
        obtain ⟨_, -, _, ⟨_, -, _, ⟨_, hthird, _, -, heq₃⟩, heq₂⟩, heq₁⟩ := hpick
        cases heq₁
        cases heq₂
        cases heq₃
        exact hthird
    | array values =>
        replace hfields : pickInOrder? _ values = some _ := hfields
        obtain ⟨-, heq⟩ := Option.ite_none_right_eq_some.1 hfields
        have hthird := congrArg (·[2]?) (Option.some.inj heq)
        rcases values with _ | ⟨first, _ | ⟨second, _ | ⟨third, rest⟩⟩⟩
        all_goals
          cases hthird
          rfl
    | _ => cases hfields
  rw [Lists, hvalue]
  cases extensions with
  | none => exact (Option.some.inj hlist).symm
  | some value =>
      obtain ⟨items, hitems, hlist⟩ := Option.bind_eq_some_iff.1 hlist
      cases value with
      | array values =>
          cases hitems
          exact hlist
      | _ => cases hitems

/-! ## Configurations in JSON -/

/-- What is known of a configuration that was accepted: its extensions are those of the document in
normal form, it does not forbid all threads, and it is read again from the text it is written as. -/
theorem ofJson_toJson {text : String} {config : SiteConfig} (h : ofJson text = .ok config) :
    (∀ extension ∈ config.extensions, extension ≠ "" ∧ extension.toList.head? ≠ some '.' ∧
        ∀ c ∈ extension.toList, c.isUpper = false) ∧
      (∃ document written, Json.Source.ofText? text = some document ∧ Lists document written ∧
        config.extensions = (written.map normalExtension).filter (!·.isEmpty)) ∧
      (∀ n ∈ config.maxThreads, 1 ≤ n) ∧
      ofJson config.toJson.text = .ok config := by
  obtain ⟨document, written, hdocument, hread, hvalidate⟩ : ∃ document written,
      Json.Source.ofText? text = some document ∧ read? document = some written ∧
        written.validate = .ok config := by
    rw [ofJson, ofDocument] at h
    split at h
    case h_1 written hwritten =>
      obtain ⟨document, hdocument, hread⟩ := Option.bind_eq_some_iff.1 hwritten
      exact ⟨document, written, hdocument, hread, h⟩
    case h_2 => cases h
  obtain ⟨-, hthread, hconfig⟩ := validate_eq_ok_iff.1 hvalidate
  have hextensions : config.extensions = normalExtensions written.extensions := by rw [hconfig]
  have hthreads : config.maxThreads = written.maxThreads := by rw [hconfig]
  have hcount : ∀ n ∈ config.maxThreads, n ≤ maxCount := by
    rw [hthreads]
    exact maxThreads_le_of_read? hread
  refine ⟨fun extension hm => ?_, ⟨document, _, hdocument, lists_of_read? hread, hextensions⟩,
    fun n hn => ?_, ?_⟩
  · rw [hextensions] at hm
    obtain ⟨hne, hnormal⟩ := mem_normalExtensions hm
    exact ⟨hne, hnormal.head?_ne, hnormal.isUpper_eq_false⟩
  · rw [hthreads] at hn
    refine Nat.pos_of_ne_zero ?_
    rintro rfl
    exact hthread hn
  · -- What is read again is valid already, so nothing about it changes.
    rw [ofJson, Json.ofText?_text, ofDocument, Option.bind_some, read?_source hcount]
    exact validate_of_validate hvalidate

/-- A configuration with an extension in capitals, one that is only a point, and nested options. -/
def bareText : String :=
  "\x7b\"extensions\":[\".MD\",\".\"],\"compile\":\x7b\"parse\":\x7b\"jsx\":false\x7d\x7d\x7d"

/-- The configuration that is read from it. -/
def bareConfig : SiteConfig where
  extensions := ["md"]
  compile := { parse := { jsx := false } }

theorem ofJson_toJson_bareText :
    ofJson bareText = .ok bareConfig ∧ ofJson bareConfig.toJson.text = .ok bareConfig := by
  have h : ofJson bareText = .ok bareConfig := by decide +kernel
  exact ⟨h, (ofJson_toJson h).2.2.2⟩

end SiteConfig

end Folio.Site
