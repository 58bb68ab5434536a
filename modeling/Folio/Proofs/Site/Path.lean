import Folio.Proofs.Text.Line
import Folio.Site.Path

/-!
# Paths of names

A path that is written as names with slashes between them is read as these names, also behind a path
to a directory; and the name of a file is cut into the stem and the extension that it is made of.
-/

namespace Folio.Site

open Folio.Text

/-- A name that a directory may hold. -/
def IsName (name : String) : Prop :=
  name ≠ "" ∧ name ≠ "." ∧ name ≠ ".." ∧ '/' ∉ name.toList

instance (name : String) : Decidable (IsName name) :=
  inferInstanceAs (Decidable (_ ∧ _))

/-! ## Segments -/

theorem segments_eq_splitOn (cs : List Char) : segments cs = cs.splitOn '/' := by
  induction cs with
  | nil => rfl
  | cons c cs ih =>
      rw [segments, ih, List.splitOn_cons_eq_if_modifyHead]
      by_cases hc : c = '/'
      · rw [if_pos hc, if_pos (by simpa using hc)]
      · rw [if_neg hc, if_neg (by simpa using hc)]
        cases hcs : cs.splitOn '/' with
        | nil => exact (segments_ne_nil cs (by rw [ih, hcs])).elim
        | cons segment rest => rfl

/-- A slash ends a segment. -/
theorem segments_append_slash (cs ds : List Char) :
    segments (cs ++ '/' :: ds) = segments cs ++ segments ds := by
  induction cs with
  | nil => rfl
  | cons c cs ih =>
      rw [List.cons_append, segments, segments, ih]
      by_cases hc : c = '/'
      · rw [if_pos hc, if_pos hc, List.cons_append]
      · rw [if_neg hc, if_neg hc]
        cases hcs : segments cs with
        | nil => exact (segments_ne_nil cs hcs).elim
        | cons segment rest => rfl

/-- Names with slashes between them. -/
def joined (names : List String) : String :=
  "/".intercalate names

theorem toList_joined (names : List String) :
    (joined names).toList = ['/'].intercalate (names.map String.toList) :=
  String.toList_intercalate

theorem joined_singleton (name : String) : joined [name] = name := by
  rw [← String.toList_inj, toList_joined, List.map_singleton, List.intercalate_singleton]

theorem joined_cons_cons (name next : String) (names : List String) :
    joined (name :: next :: names) = name ++ "/" ++ joined (next :: names) := by
  rw [← String.toList_inj, toList_joined]
  simp [List.intercalate_cons_cons, toList_joined]

/-- Names that hold no slash are the segments of what they are joined to. -/
theorem segments_joined {names : List String} (hne : names ≠ [])
    (h : ∀ name ∈ names, '/' ∉ name.toList) :
    segments (joined names).toList = names.map String.toList := by
  have hslash : ∀ segment ∈ names.map String.toList, '/' ∉ segment := by
    intro segment hm
    obtain ⟨name, hname, rfl⟩ := List.mem_map.1 hm
    exact h name hname
  rw [toList_joined, segments_eq_splitOn, List.splitOn_intercalate '/' hslash (by simpa using hne)]

/-- One more name, behind a slash. -/
theorem joined_concat {names : List String} (hne : names ≠ []) (name : String) :
    joined (names ++ [name]) = joined names ++ "/" ++ name := by
  induction names with
  | nil => exact (hne rfl).elim
  | cons first names ih =>
      cases names with
      | nil => rw [List.singleton_append, joined_cons_cons, joined_singleton, joined_singleton]
      | cons next names =>
          rw [List.cons_append, List.cons_append, joined_cons_cons, ← List.cons_append,
            ih (List.cons_ne_nil _ _), joined_cons_cons]
          simp only [String.append_assoc]

/-- A text behind the last name. -/
theorem joined_append (names : List String) (name suffix : String) :
    joined (names ++ [name]) ++ suffix = joined (names ++ [name ++ suffix]) := by
  by_cases hne : names = []
  · rw [hne, List.nil_append, List.nil_append, joined_singleton, joined_singleton]
  · rw [joined_concat hne, joined_concat hne, String.append_assoc]

/-- Names are known from what they are joined to. -/
theorem joined_inj {names others : List String} (hne : names ≠ []) (hne' : others ≠ [])
    (h : ∀ name ∈ names, '/' ∉ name.toList) (h' : ∀ name ∈ others, '/' ∉ name.toList)
    (heq : joined names = joined others) : names = others := by
  have hsegments := segments_joined hne h
  rw [heq, segments_joined hne' h'] at hsegments
  exact (List.map_injective_iff.2 (fun _ _ => String.toList_injective) hsegments).symm

/-- A character that is no slash is in one of the names. -/
theorem mem_joined {names : List String} {c : Char} (hc : c ≠ '/') :
    c ∈ (joined names).toList ↔ ∃ name ∈ names, c ∈ name.toList := by
  induction names with
  | nil => simp [joined]
  | cons first names ih =>
      cases names with
      | nil => simp [joined_singleton]
      | cons next names =>
          rw [joined_cons_cons, String.toList_append, String.toList_append, List.mem_append,
            List.mem_append, ih, List.exists_mem_cons_iff]
          simp [hc]

/-! ## Components -/

namespace IsName

variable {name : String}

theorem toList_ne_nil (h : IsName name) : name.toList ≠ [] := by
  intro hnil
  exact h.1 (String.toList_inj.1 hnil)

theorem toList_ne_current (h : IsName name) : name.toList ≠ ['.'] := by
  intro hdot
  exact h.2.1 (String.toList_inj.1 hdot)

theorem component?_eq (h : IsName name) : component? name.toList = some (.name name) := by
  have hparent : name.toList ≠ ['.', '.'] := by
    intro hdots
    exact h.2.2.1 (String.toList_inj.1 hdots)
  rw [component?, if_neg (not_or.2 ⟨h.toList_ne_nil, h.toList_ne_current⟩), if_neg hparent,
    String.ofList_toList]

end IsName

theorem filterMap_component? {names : List String} (h : ∀ name ∈ names, IsName name) :
    (names.map String.toList).filterMap component? = names.map Component.name := by
  induction names with
  | nil => rfl
  | cons name names ih =>
      rw [List.forall_mem_cons] at h
      rw [List.map_cons, List.filterMap_cons_some h.1.component?_eq, ih h.2, List.map_cons]

/-- The steps of a path that starts with a name. -/
theorem components_of_segments {path name : String} {rest : List (List Char)} (hname : IsName name)
    (h : segments path.toList = name.toList :: rest) :
    components path = .name name :: rest.filterMap component? := by
  rw [components, h]
  simp only [if_neg hname.toList_ne_nil, if_neg hname.toList_ne_current, hname.component?_eq]
  rfl

/-- A path of names leads along them. -/
theorem components_joined {names : List String} (hne : names ≠ [])
    (h : ∀ name ∈ names, IsName name) : components (joined names) = names.map .name := by
  obtain ⟨name, rest, rfl⟩ := List.exists_cons_of_ne_nil hne
  have hsegments := segments_joined hne fun name hm => (h name hm).2.2.2
  rw [List.forall_mem_cons] at h
  rw [List.map_cons] at hsegments
  rw [components_of_segments h.1 hsegments, filterMap_component? h.2, List.map_cons]

/-- A path of names and something else. -/
theorem components_joined_concat {names : List String} (hne : names ≠ [])
    (h : ∀ name ∈ names, IsName name) {last : String} (hlast : '/' ∉ last.toList) :
    components (joined (names ++ [last])) =
      names.map .name ++ (component? last.toList).toList := by
  obtain ⟨name, rest, rfl⟩ := List.exists_cons_of_ne_nil hne
  have hslash : ∀ other ∈ (name :: rest) ++ [last], '/' ∉ other.toList := by
    rw [List.forall_mem_append, List.forall_mem_singleton]
    exact ⟨fun other hm => (h other hm).2.2.2, hlast⟩
  have hsegments := segments_joined (by simp) hslash
  rw [List.forall_mem_cons] at h
  rw [List.cons_append, List.map_cons, List.map_append] at hsegments
  have hrest : (List.map String.toList [last]).filterMap component? =
      (component? last.toList).toList := by
    rw [List.map_singleton]
    cases hcomponent : component? last.toList <;> simp [hcomponent]
  rw [List.cons_append, components_of_segments h.1 hsegments, List.filterMap_append,
    filterMap_component? h.2, hrest]
  rfl

/-! ## Paths behind paths -/

/-- A path of names starts with the first one. -/
theorem exists_toList_joined {names : List String} (hne : names ≠ [])
    (h : ∀ name ∈ names, IsName name) : ∃ c cs, (joined names).toList = c :: cs ∧ c ≠ '/' := by
  obtain ⟨name, rest, rfl⟩ := List.exists_cons_of_ne_nil hne
  have hname := h name List.mem_cons_self
  obtain ⟨c, cs, hcs⟩ := List.exists_cons_of_ne_nil hname.toList_ne_nil
  have hslash : c ≠ '/' := by
    rintro rfl
    exact hname.2.2.2 (by rw [hcs]; exact List.mem_cons_self)
  cases rest with
  | nil => exact ⟨c, cs, by rw [joined_singleton, hcs], hslash⟩
  | cons next rest =>
      refine ⟨c, cs ++ '/' :: (joined (next :: rest)).toList, ?_, hslash⟩
      rw [joined_cons_cons, String.toList_append, String.toList_append, hcs]
      simp

theorem isAbsolute_of_cons {path : String} {c : Char} {cs : List Char} (h : path.toList = c :: cs)
    (hc : c ≠ '/') : isAbsolute path = false := by
  rw [isAbsolute, h]
  simpa using hc

theorem isEmpty_of_cons {path : String} {c : Char} {cs : List Char} (h : path.toList = c :: cs) :
    path.isEmpty = false := by
  rw [← Bool.not_eq_true, String.isEmpty_iff]
  rintro rfl
  cases h

/-- A path of names is relative. -/
theorem isAbsolute_joined {names : List String} (hne : names ≠ [])
    (h : ∀ name ∈ names, IsName name) : isAbsolute (joined names) = false := by
  obtain ⟨c, cs, hcs, hc⟩ := exists_toList_joined hne h
  exact isAbsolute_of_cons hcs hc

/-- A path of names does not end in a slash. -/
theorem getLast?_joined {names : List String} {name : String} (h : IsName name) :
    (joined (names ++ [name])).toList.getLast? ≠ some '/' := by
  obtain ⟨front, hfront⟩ : ∃ front, (joined (names ++ [name])).toList = front ++ name.toList := by
    by_cases hne : names = []
    · exact ⟨[], by rw [hne, List.nil_append, joined_singleton, List.nil_append]⟩
    · exact ⟨(joined names ++ "/").toList, by rw [joined_concat hne, String.toList_append]⟩
  rw [hfront, List.getLast?_append_of_ne_nil _ h.toList_ne_nil]
  intro hlast
  exact h.2.2.2 (List.mem_of_mem_getLast? hlast)

/-- What a base puts before all relative paths. -/
theorem exists_join (base : String) :
    ∃ front, ∀ path, isAbsolute path = false → join base path = front ++ path := by
  by_cases hbase : base.isEmpty
  · exact ⟨"", fun path hpath => by simp [join, hpath, hbase]⟩
  · by_cases hlast : base.toList.getLast? = some '/'
    · exact ⟨base, fun path hpath => by simp [join, hpath, hbase, hlast]⟩
    · exact ⟨base ++ "/", fun path hpath => by simp [join, hpath, hbase, hlast]⟩

/-- A path behind a path of names behind a base. -/
theorem join_join {base path : String} {names : List String} (hne : names ≠ [])
    (hnames : ∀ name ∈ names, IsName name) (hpath : isAbsolute path = false) :
    join (join base (joined names)) path = join base (joined names ++ "/" ++ path) := by
  obtain ⟨front, hfront⟩ := exists_join base
  obtain ⟨init, name, rfl⟩ := (List.eq_nil_or_concat' names).resolve_left hne
  have hrelative := isAbsolute_joined hne hnames
  obtain ⟨c, cs, hcs, hc⟩ := exists_toList_joined hne hnames
  have hnonempty : (front ++ joined (init ++ [name])).toList ≠ [] := by simp [hcs]
  have hempty : (front ++ joined (init ++ [name])).isEmpty = false := by
    obtain ⟨d, ds, hds⟩ := List.exists_cons_of_ne_nil hnonempty
    exact isEmpty_of_cons hds
  have hlast : (front ++ joined (init ++ [name])).toList.getLast? ≠ some '/' := by
    rw [String.toList_append, List.getLast?_append_of_ne_nil _ (by simp [hcs])]
    exact getLast?_joined (hnames name (by simp))
  have hlonger : isAbsolute (joined (init ++ [name]) ++ "/" ++ path) = false := by
    have hlong : (joined (init ++ [name]) ++ "/" ++ path).toList =
        c :: (cs ++ '/' :: path.toList) := by
      simp [hcs]
    exact isAbsolute_of_cons hlong hc
  rw [hfront _ hrelative, hfront _ hlonger, join, hpath, hempty, Bool.or_false, if_neg (by decide),
    if_neg hlast]
  simp only [String.append_assoc]

/-! ## Stems and extensions -/

/-- What stands behind the last point is read back from the end. -/
theorem takeWhile_lastPoint {stem ext : List Char} (hext : '.' ∉ ext) :
    ((stem ++ '.' :: ext).reverse.takeWhile (· != '.')).reverse = ext := by
  have hfront : ∀ c ∈ ext.reverse, (c != '.') = true := by
    intro c hc
    rw [bne_iff_ne]
    rintro rfl
    exact hext (List.mem_reverse.1 hc)
  have hrest : ∀ c ∈ ('.' :: stem.reverse).head?, (c != '.') = false := by
    rintro c ⟨⟩
    rfl
  have hreverse : (stem ++ '.' :: ext).reverse = ext.reverse ++ '.' :: stem.reverse := by simp
  rw [hreverse, takeWhile_front hfront hrest, List.reverse_reverse]

theorem exists_lastPoint {name : List Char} (h : '.' ∈ name) :
    ∃ stem ext, name = stem ++ '.' :: ext ∧ '.' ∉ ext := by
  obtain ⟨before, after, hreverse, hbefore⟩ := List.eq_append_cons_of_mem (List.mem_reverse.2 h)
  refine ⟨after.reverse, before.reverse, ?_, by rwa [List.mem_reverse]⟩
  rw [← List.reverse_reverse name, hreverse]
  simp

/-- What a name with a point is cut into. -/
theorem splitName_lastPoint {stem ext : List Char} (hext : '.' ∉ ext) :
    splitName (stem ++ '.' :: ext) =
      if stem = [] ∨ stem ++ '.' :: ext = ['.', '.'] then (stem ++ '.' :: ext, none)
      else (stem, some ext) := by
  have hlength : (stem ++ '.' :: ext).length - ext.length - 1 = stem.length := by
    rw [List.length_append, List.length_cons]
    omega
  rw [splitName, takeWhile_lastPoint hext, hlength, List.take_left]
  simp [or_comm]

/-- A name is cut at the last point. -/
theorem splitName_concat {stem ext : List Char} (hstem : stem ≠ []) (hext : '.' ∉ ext)
    (hne : stem ++ '.' :: ext ≠ ['.', '.']) :
    splitName (stem ++ '.' :: ext) = (stem, some ext) := by
  rw [splitName_lastPoint hext, if_neg (not_or.2 ⟨hstem, hne⟩)]

/-- What a name was cut into. -/
theorem eq_concat_of_splitName {name stem ext : List Char} (h : splitName name = (stem, some ext)) :
    name = stem ++ '.' :: ext ∧ stem ≠ [] ∧ '.' ∉ ext := by
  by_cases hpoint : '.' ∈ name
  · obtain ⟨front, back, rfl, hback⟩ := exists_lastPoint hpoint
    rw [splitName_lastPoint hback] at h
    split at h
    · cases h
    · rename_i hcut
      cases h
      exact ⟨rfl, (not_or.1 hcut).1, hback⟩
  · have hwhole : splitName name = (name, none) := by
      rw [splitName]
      simp [hpoint]
    rw [hwhole] at h
    cases h

end Folio.Site
