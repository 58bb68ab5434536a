import Folio.Proofs.Site.Loading

/-!
# Ids stay below the root

Whatever an id says, the paths that are asked for it lead from the root of the collection down along
names, and an id that says something else is refused before any path is asked for.

Ids are checked as paths, but the paths that they stand for are put together as texts.  So the proof
goes by segments: behind the last segment of an id a point and an extension make a name of it, also
where the segment is empty or a point and is no step of the id.
-/

namespace Folio.Site

/-! ## Segments -/

/-- A segment holds no slash. -/
theorem slash_notMem_of_mem_segments {cs segment : List Char} (hm : segment ∈ segments cs) :
    '/' ∉ segment := by
  induction cs generalizing segment with
  | nil =>
      rw [segments, List.mem_singleton] at hm
      rw [hm]
      exact List.not_mem_nil
  | cons c cs ih =>
      rw [segments] at hm
      by_cases hc : c = '/'
      · rw [if_pos hc, List.mem_cons] at hm
        rcases hm with rfl | hm
        · exact List.not_mem_nil
        · exact ih hm
      · rw [if_neg hc] at hm
        cases hcs : segments cs with
        | nil => exact (segments_ne_nil cs hcs).elim
        | cons first rest =>
            rw [hcs] at hm ih
            rcases List.mem_cons.1 hm with rfl | hm
            · simp [Ne.symm hc, ih List.mem_cons_self]
            · exact ih (List.mem_cons_of_mem _ hm)

theorem segments_of_notMem {cs : List Char} (h : '/' ∉ cs) : segments cs = [cs] := by
  rw [segments_eq_splitOn, List.splitOn_eq_singleton h]

/-- A text without a slash goes to the last segment. -/
theorem exists_segments_append (cs : List Char) {ds : List Char} (hds : '/' ∉ ds) :
    ∃ front last, segments cs = front ++ [last] ∧ segments (cs ++ ds) = front ++ [last ++ ds] := by
  induction cs with
  | nil => exact ⟨[], [], rfl, segments_of_notMem hds⟩
  | cons c cs ih =>
      obtain ⟨front, last, hcs, hboth⟩ := ih
      rw [List.cons_append, segments, segments, hcs, hboth]
      by_cases hc : c = '/'
      · exact ⟨[] :: front, last, by rw [if_pos hc]; rfl, by rw [if_pos hc]; rfl⟩
      · rw [if_neg hc, if_neg hc]
        cases front with
        | nil => exact ⟨[], c :: last, rfl, rfl⟩
        | cons first front => exact ⟨(c :: first) :: front, last, rfl, rfl⟩

/-! ## Steps along segments -/

/-- The steps of a path whose first segment is one: those of all its segments. -/
theorem components_eq_filterMap {path : String} {first : List Char} {rest : List (List Char)}
    (h : segments path.toList = first :: rest) (hne : first ≠ []) (hcurrent : first ≠ ['.']) :
    components path = (first :: rest).filterMap component? := by
  rw [components, h]
  simp only [if_neg hne, if_neg hcurrent]
  cases hfirst : component? first <;> simp [hfirst]

/-- More segments behind a path are more steps. -/
theorem components_of_segments_append {base path : String} {more : List (List Char)}
    (hbase : base.toList ≠ []) (h : segments path.toList = segments base.toList ++ more) :
    components path = components base ++ more.filterMap component? := by
  rw [components, components, h]
  cases hsegments : segments base.toList with
  | nil => exact (segments_ne_nil _ hsegments).elim
  | cons first rest =>
      simp only [List.cons_append]
      by_cases hroot : first = []
      · -- A text that starts with an empty segment starts with a slash.
        have hrest : rest ≠ [] := by
          rintro rfl
          have hcs := intercalate_segments base.toList
          rw [hsegments, hroot] at hcs
          exact hbase hcs.symm
        simp [hroot, hrest]
      · rw [if_neg hroot, if_neg hroot]
        by_cases hcurrent : first = ['.']
        · simp [hcurrent]
        · simp [hcurrent]

/-- A slash at the end of a base is the one in front of what follows. -/
theorem components_append_of_lastSlash {base path : String} {init : List Char}
    (hbase : base.toList = init ++ ['/']) :
    components (base ++ path) = components base ++ (segments path.toList).filterMap component? := by
  have hboth : segments (base ++ path).toList = segments init ++ segments path.toList := by
    rw [String.toList_append, hbase, List.append_assoc, List.singleton_append,
      segments_append_slash]
  have halone : segments base.toList = segments init ++ [[]] := by
    rw [hbase, segments_append_slash]
    rfl
  by_cases hinit : init = []
  · subst hinit
    have hroot : base = "/" := String.toList_inj.1 hbase
    have hne := segments_ne_nil path.toList
    rw [components, hboth, hroot]
    simp [segments, components, component?, hne]
  · have hlist : (String.ofList init).toList ≠ [] := by rwa [String.toList_ofList]
    rw [← String.toList_ofList (l := init)] at hboth halone
    rw [components_of_segments_append hlist hboth, components_of_segments_append hlist halone]
    simp [component?]

/-- A path that starts with a step leads on from where a base leads. -/
theorem components_join (base : String) {path : String} {first : List Char}
    {rest : List (List Char)} (h : segments path.toList = first :: rest) (hne : first ≠ [])
    (hcurrent : first ≠ ['.']) :
    components (join base path) =
      components base ++ (segments path.toList).filterMap component? := by
  have hrelative : isAbsolute path = false := by
    cases hpath : path.toList with
    | nil => rw [isAbsolute, hpath]; rfl
    | cons c cs =>
        refine isAbsolute_of_cons hpath ?_
        rintro rfl
        rw [hpath, segments, if_pos rfl] at h
        exact hne (List.cons.inj h).1.symm
  rw [join, hrelative, Bool.false_or]
  by_cases hbase : base.isEmpty
  · rw [if_pos hbase, String.isEmpty_iff.1 hbase, components_eq_filterMap h hne hcurrent, h]
    rfl
  · have hlist : base.toList ≠ [] := fun hnil =>
      hbase (String.isEmpty_iff.2 (String.toList_eq_nil_iff.1 hnil))
    rw [if_neg hbase]
    by_cases hslash : base.toList.getLast? = some '/'
    · obtain ⟨init, hinit⟩ := List.getLast?_eq_some_iff.1 hslash
      rw [if_pos hslash, components_append_of_lastSlash hinit]
    · have hboth : (base ++ "/" ++ path).toList = base.toList ++ '/' :: path.toList := by simp
      rw [if_neg hslash]
      exact components_of_segments_append hlist (by rw [hboth, segments_append_slash])

/-! ## Names -/

/-- A segment that is no point, no two points and not empty is a name. -/
theorem isName_ofList {part : List Char} (hne : part ≠ []) (hcurrent : part ≠ ['.'])
    (hparent : part ≠ ['.', '.']) (hslash : '/' ∉ part) : IsName (String.ofList part) := by
  have hother : ∀ name : String, part ≠ name.toList → String.ofList part ≠ name := by
    rintro name h rfl
    exact h String.toList_ofList.symm
  exact ⟨hother "" hne, hother "." hcurrent, hother ".." hparent, by rwa [String.toList_ofList]⟩

/-- A point and an extension make a name of every text without a slash. -/
theorem isName_extended {last ext : List Char} (hlast : '/' ∉ last) (hne : ext ≠ [])
    (hext : '/' ∉ ext) (hpoint : ext.head? ≠ some '.') :
    IsName (String.ofList (last ++ '.' :: ext)) := by
  have hlength := List.length_pos_iff.2 hne
  refine isName_ofList (by simp) ?_ ?_ (by simp [hlast, hext])
  · intro hcurrent
    have hshort := congrArg List.length hcurrent
    simp at hshort
    omega
  · intro hparent
    cases last with
    | nil =>
        -- The point is the first of both, so the extension is the second one.
        rw [List.nil_append] at hparent
        exact hpoint (by rw [(List.cons.inj hparent).2]; rfl)
    | cons c last =>
        have hshort := congrArg List.length hparent
        simp at hshort
        omega

/-- A path that starts with a step and never leads to a directory around. -/
structure Downward (path : String) : Prop where
  start : ∀ first ∈ (segments path.toList).head?, first ≠ [] ∧ first ≠ ['.']
  parent_notMem : ['.', '.'] ∉ segments path.toList

namespace Downward

variable {path : String}

/-- Segments none of which is two points lead along names. -/
theorem exists_names {parts : List (List Char)} (hslash : ∀ part ∈ parts, '/' ∉ part)
    (hparent : ['.', '.'] ∉ parts) :
    ∃ names : List String, names.length ≤ parts.length ∧ (∀ name ∈ names, IsName name) ∧
      parts.filterMap component? = names.map Component.name := by
  induction parts with
  | nil => exact ⟨[], Nat.le_refl _, List.forall_mem_nil _, rfl⟩
  | cons part parts ih =>
      rw [List.forall_mem_cons] at hslash
      rw [List.mem_cons, not_or] at hparent
      obtain ⟨names, hlength, hnames, hsteps⟩ := ih hslash.2 hparent.2
      by_cases hstep : part = [] ∨ part = ['.']
      · have hnone : component? part = none := if_pos hstep
        refine ⟨names, Nat.le_succ_of_le hlength, hnames, ?_⟩
        rw [List.filterMap_cons_none hnone, hsteps]
      · have hname := isName_ofList (not_or.1 hstep).1 (not_or.1 hstep).2 (Ne.symm hparent.1)
          hslash.1
        have hsome := hname.component?_eq
        rw [String.toList_ofList] at hsome
        refine ⟨String.ofList part :: names, Nat.succ_le_succ hlength,
          List.forall_mem_cons.2 ⟨hname, hnames⟩, ?_⟩
        rw [List.filterMap_cons_some hsome, hsteps, List.map_cons]

/-- Behind a base such a path leads down from where the base leads, by at most as many names as it
has segments. -/
theorem exists_components_join (h : Downward path) (base : String) :
    ∃ names : List String, names ≠ [] ∧ names.length ≤ (segments path.toList).length ∧
      (∀ name ∈ names, IsName name) ∧
      components (join base path) = components base ++ names.map Component.name := by
  obtain ⟨names, hlength, hnames, hsteps⟩ :=
    exists_names (fun part hm => slash_notMem_of_mem_segments hm) h.parent_notMem
  cases hsegments : segments path.toList with
  | nil => exact (segments_ne_nil _ hsegments).elim
  | cons first rest =>
      obtain ⟨hne, hcurrent⟩ := h.start first (by rw [hsegments]; rfl)
      refine ⟨names, ?_, hsegments ▸ hlength, hnames, ?_⟩
      · -- The first segment is a step.
        rintro rfl
        rw [hsegments, List.map_nil, List.filterMap_eq_nil_iff] at hsteps
        have hnone := hsteps first List.mem_cons_self
        rw [component?, if_neg (not_or.2 ⟨hne, hcurrent⟩)] at hnone
        split at hnone <;> cases hnone
      · rw [components_join base hsegments hne hcurrent, hsteps]

/-- A point and an extension behind such a path change its last segment only. -/
theorem extend (h : Downward path) {ext : String} (hne : ext ≠ "") (hslash : '/' ∉ ext.toList)
    (hpoint : ext.toList.head? ≠ some '.') :
    Downward (path ++ "." ++ ext) ∧
      (segments (path ++ "." ++ ext).toList).length = (segments path.toList).length := by
  have htail : '/' ∉ '.' :: ext.toList := by simp [hslash]
  obtain ⟨front, last, hpath, hboth⟩ := exists_segments_append path.toList htail
  have htext : (path ++ "." ++ ext).toList = path.toList ++ '.' :: ext.toList := by simp
  have hname : IsName (String.ofList (last ++ '.' :: ext.toList)) :=
    isName_extended (slash_notMem_of_mem_segments (by rw [hpath]; simp))
      (fun hnil => hne (String.toList_eq_nil_iff.1 hnil)) hslash hpoint
  have hlast := And.intro hname.toList_ne_nil hname.toList_ne_current
  have hparent : (String.ofList (last ++ '.' :: ext.toList)).toList ≠ ['.', '.'] := fun hpoints =>
    hname.2.2.1 (String.toList_inj.1 hpoints)
  rw [String.toList_ofList] at hlast hparent
  have hstart := h.start
  have hfront := h.parent_notMem
  rw [hpath] at hstart hfront
  refine ⟨⟨?_, ?_⟩, by rw [htext, hboth, hpath, List.length_append, List.length_append]; rfl⟩
  · rw [htext, hboth]
    intro first hfirst
    cases front with
    | nil =>
        cases hfirst
        exact hlast
    | cons start front => exact hstart first hfirst
  · rw [htext, hboth, List.mem_append, List.mem_singleton]
    rintro (hm | hlast)
    · exact hfront (List.mem_append_left _ hm)
    · exact hparent hlast.symm

end Downward

theorem downward_of_isName {name : String} (h : IsName name) : Downward name := by
  have hsegments := segments_of_notMem h.2.2.2
  refine ⟨?_, ?_⟩
  · rw [hsegments]
    rintro first ⟨⟩
    exact ⟨h.toList_ne_nil, h.toList_ne_current⟩
  · rw [hsegments, List.mem_singleton]
    exact fun hpoints => h.2.2.1 (String.toList_inj.1 hpoints.symm)

namespace Loader

variable {loader : Loader} {disk : Disk} {id ext : String}

/-- A safe id leads down. -/
theorem downward_of_isSafeId (h : isSafeId id) : Downward id := by
  rw [isSafeId, Bool.and_eq_true, Bool.and_eq_true, List.all_eq_true] at h
  obtain ⟨⟨hid, -⟩, hsteps⟩ := h
  have hroot : Component.root ∉ components id := fun hm => absurd (hsteps _ hm) (by decide)
  have hcurrent : Component.current ∉ components id := fun hm => absurd (hsteps _ hm) (by decide)
  have hparent : Component.parent ∉ components id := fun hm => absurd (hsteps _ hm) (by decide)
  cases hsegments : segments id.toList with
  | nil => exact (segments_ne_nil _ hsegments).elim
  | cons first rest =>
      have hfirst : first ≠ [] ∧ first ≠ ['.'] := by
        rw [components, hsegments] at hroot hcurrent
        refine ⟨?_, ?_⟩
        · rintro rfl
          have hrest : rest ≠ [] := by
            rintro rfl
            have hnil := intercalate_segments id.toList
            rw [hsegments, List.intercalate_singleton] at hnil
            rw [String.toList_eq_nil_iff.1 hnil.symm] at hid
            cases hid
          simp [hrest] at hroot
        · rintro rfl
          simp at hcurrent
      refine ⟨?_, ?_⟩
      · rw [hsegments]
        rintro start ⟨⟩
        exact hfirst
      · rw [hsegments]
        intro hm
        rw [components_eq_filterMap hsegments hfirst.1 hfirst.2, List.mem_filterMap] at hparent
        exact hparent ⟨_, hm, by decide⟩

/-- An id that is empty, absolute, leads to a directory around or holds a backslash is refused. -/
theorem not_admits (h : id = "" ∨ isAbsolute id ∨ Component.parent ∈ components id ∨
    '\\' ∈ id.toList) : ¬ loader.admits id := by
  intro hadmits
  rw [admits, Bool.and_eq_true] at hadmits
  have hdown := downward_of_isSafeId hadmits.1
  obtain ⟨hsafe, -⟩ := hadmits
  rw [isSafeId, Bool.and_eq_true, Bool.and_eq_true, List.all_eq_true] at hsafe
  obtain ⟨⟨hid, hslash⟩, hsteps⟩ := hsafe
  rcases h with rfl | habsolute | hparent | hbackslash
  · cases hid
  · obtain ⟨cs, hcs⟩ : ∃ cs, id.toList = '/' :: cs := by
      rw [isAbsolute, beq_iff_eq] at habsolute
      exact List.head?_eq_some_iff.1 habsolute
    refine (hdown.start [] ?_).1 rfl
    rw [hcs, segments, if_pos rfl]
    rfl
  · exact absurd (hsteps _ hparent) (by decide)
  · simp [hbackslash] at hslash

/-! ## Paths that are asked for -/

/-- The paths that are asked for an id: those that it may stand for, up to the first one that leads
to a file.  For an id that the collection refuses nothing is asked. -/
def probes (loader : Loader) (disk : Disk) (id : String) : List String :=
  if loader.admits id then
    (loader.candidates id).takeWhile (fun path => !disk.hasFile path) ++
      ((loader.candidates id).find? disk.hasFile).toList
  else []

theorem probes_of_not_admits (h : ¬ loader.admits id) : loader.probes disk id = [] :=
  if_neg h

theorem mem_candidates_of_mem_probes {path : String} (hm : path ∈ loader.probes disk id) :
    loader.admits id ∧ path ∈ loader.candidates id := by
  by_cases hadmits : loader.admits id
  · rw [probes, if_pos hadmits, List.mem_append, Option.mem_toList] at hm
    refine ⟨hadmits, ?_⟩
    rcases hm with hm | hm
    · exact (List.takeWhile_sublist _).subset hm
    · exact List.mem_of_find?_eq_some hm
  · rw [probes_of_not_admits hadmits] at hm
    cases hm

/-- The first text of a kind is found by looking at the texts up to it. -/
theorem find?_congr {p q : String → Bool} {l : List String}
    (h : ∀ path ∈ l.takeWhile (fun path => !p path) ++ (l.find? p).toList, q path = p path) :
    l.find? q = l.find? p := by
  induction l with
  | nil => rfl
  | cons path l ih =>
      have hq := h path (by cases hpath : p path <;> simp [hpath])
      cases hpath : p path with
      | true => rw [List.find?_cons_of_pos hpath, List.find?_cons_of_pos (by rw [hq, hpath])]
      | false =>
          have hneg : ¬ q path = true := by rw [hq, hpath]; decide
          rw [List.find?_cons_of_neg hneg, List.find?_cons_of_neg (by simp [hpath])]
          refine ih fun other hm => h other ?_
          rw [List.takeWhile_cons_of_pos (by simp [hpath]),
            List.find?_cons_of_neg (by simp [hpath])]
          exact List.mem_cons_of_mem _ hm

/-- What is fetched for an id depends on nothing but the paths that are asked for it. -/
theorem fetch_congr {other : Disk} (h : ∀ path ∈ loader.probes disk id,
      other.hasFile path = disk.hasFile path ∧ other.read? path = disk.read? path) :
    loader.fetch other id = loader.fetch disk id := by
  by_cases hadmits : loader.admits id
  · rw [probes, if_pos hadmits] at h
    have hfind := find?_congr fun path hm => (h path hm).1
    rw [fetch, fetch, hfind]
    cases hfirst : (loader.candidates id).find? disk.hasFile with
    | none => rfl
    | some path =>
        have hread := (h path (by simp [hfirst])).2
        simp only [hread]
  · rw [fetch_eq_missing fun h => hadmits h.1, fetch_eq_missing fun h => hadmits h.1]

/-! ## Candidates -/

/-- The path leads from the root of the collection down along names; for posts it is one name. -/
def Below (loader : Loader) (path : String) : Prop :=
  ∃ names : List String, names ≠ [] ∧ (loader.kind = .posts → names.length = 1) ∧
    (∀ name ∈ names, IsName name) ∧
    components path = components loader.root ++ names.map Component.name

/-- An id that may belong to posts is one segment. -/
theorem length_segments_of_posts (hposts : loader.kind = .posts) (hadmits : loader.admits id) :
    (segments id.toList).length = 1 := by
  rw [admits, hposts, Bool.and_eq_true] at hadmits
  have hslash : '/' ∉ id.toList := by simpa using hadmits.2
  rw [segments_of_notMem hslash]
  rfl

/-- A file that is named by an id and an extension is below the root. -/
theorem below_direct (hadmits : loader.admits id) (hne : ext ≠ "") (hslash : '/' ∉ ext.toList)
    (hpoint : ext.toList.head? ≠ some '.') :
    loader.Below (join loader.root (id ++ "." ++ ext)) := by
  have hsafe : isSafeId id := by
    rw [admits, Bool.and_eq_true] at hadmits
    exact hadmits.1
  obtain ⟨hdown, hlength⟩ := (downward_of_isSafeId hsafe).extend hne hslash hpoint
  obtain ⟨names, hnames, hle, hall, hpath⟩ := hdown.exists_components_join loader.root
  refine ⟨names, hnames, fun hposts => ?_, hall, hpath⟩
  rw [hlength, length_segments_of_posts hposts hadmits] at hle
  exact Nat.le_antisymm hle (List.length_pos_iff.2 hnames)

/-- An index file in the directory that an id stands for is below the root. -/
theorem below_index (hdocs : loader.kind = .docs) (hadmits : loader.admits id)
    (hslash : '/' ∉ ext.toList) :
    loader.Below (join (join loader.root id) ("index." ++ ext)) := by
  have hsafe : isSafeId id := by
    rw [admits, Bool.and_eq_true] at hadmits
    exact hadmits.1
  have hindex : IsName "index" := by decide
  have hname : IsName ("index." ++ ext) := hindex.fileName hslash
  obtain ⟨names, hnames, -, hall, hpath⟩ :=
    (downward_of_isSafeId hsafe).exists_components_join loader.root
  obtain ⟨last, -, -, hlast, hwhole⟩ :=
    (downward_of_isName hname).exists_components_join (join loader.root id)
  refine ⟨names ++ last, by simp [hnames], fun hposts => ?_, List.forall_mem_append.2 ⟨hall, hlast⟩,
    ?_⟩
  · rw [hdocs] at hposts
    cases hposts
  · rw [hwhole, hpath, List.map_append, List.append_assoc]

/-- Every path that is asked for an id leads from the root down along names, and what is fetched
depends on no other path.  For an id that is empty, absolute, leads to a directory around or holds a
backslash nothing is asked, and there is no such document. -/
theorem below_of_mem_probes (hext : ∀ ext ∈ loader.extensions,
      ext ≠ "" ∧ '/' ∉ ext.toList ∧ ext.toList.head? ≠ some '.') (disk : Disk) (id : String) :
    (∀ path ∈ loader.probes disk id, loader.Below path) ∧
    (∀ other : Disk, (∀ path ∈ loader.probes disk id,
        other.hasFile path = disk.hasFile path ∧ other.read? path = disk.read? path) →
      loader.fetch other id = loader.fetch disk id) ∧
    (id = "" ∨ isAbsolute id ∨ Component.parent ∈ components id ∨ '\\' ∈ id.toList →
      loader.probes disk id = [] ∧ loader.fetch disk id = .error (.missingDocument id)) := by
  refine ⟨fun path hm => ?_, fun other h => fetch_congr h, fun h => ?_⟩
  · obtain ⟨hadmits, hm⟩ := mem_candidates_of_mem_probes hm
    rw [candidates] at hm
    cases hkind : loader.kind with
    | docs =>
        rw [hkind, List.mem_append, List.mem_map, List.mem_map] at hm
        rcases hm with ⟨ext, hknown, rfl⟩ | ⟨ext, hknown, rfl⟩
        · obtain ⟨hne, hslash, hpoint⟩ := hext ext hknown
          exact below_direct hadmits hne hslash hpoint
        · exact below_index hkind hadmits (hext ext hknown).2.1
    | posts =>
        rw [hkind, List.mem_map] at hm
        obtain ⟨ext, hknown, rfl⟩ := hm
        obtain ⟨hne, hslash, hpoint⟩ := hext ext hknown
        exact below_direct hadmits hne hslash hpoint
  · have hrefused : ¬ loader.admits id := not_admits h
    exact ⟨probes_of_not_admits hrefused, fetch_eq_missing fun hthere => hrefused hthere.1⟩

theorem below_of_pointedId :
    (∀ ext ∈ pages.extensions, ext ≠ "" ∧ '/' ∉ ext.toList ∧ ext.toList.head? ≠ some '.') ∧
      pages.probes mixedPages.disk "a/." =
        ["r/a/..md", "r/a/..mdx", "r/a/./index.md", "r/a/./index.mdx"] ∧
      (∀ path ∈ pages.probes mixedPages.disk "a/.", pages.Below path) ∧
      Component.parent ∈ components "a/../b" ∧
      pages.fetch mixedPages.disk "a/../b" = .error (.missingDocument "a/../b") := by
  have hext : ∀ ext ∈ pages.extensions,
      ext ≠ "" ∧ '/' ∉ ext.toList ∧ ext.toList.head? ≠ some '.' := by decide
  have hparent : Component.parent ∈ components "a/../b" := by decide
  obtain ⟨hbelow, -, -⟩ := below_of_mem_probes hext mixedPages.disk "a/."
  obtain ⟨-, -, hrefused⟩ := below_of_mem_probes hext mixedPages.disk "a/../b"
  exact ⟨hext, by decide, hbelow, hparent, (hrefused (Or.inr (Or.inr (Or.inl hparent)))).2⟩

end Loader

end Folio.Site
