import Folio.Proofs.Site.Loading

/-!
# Loading an id's own document

What is loaded for a listed id is a document of the collection.  It has the id, unless the id ends
in `index` and names a file: such a file stands for its directory and has the id of that.
-/

namespace Folio.Site.Loader

variable {loader : Loader} {tree : FileTree} {place front names : List String}
  {last ext id : String}

/-- A page of which a file is there by the name of the id, and that file stands for a directory. -/
def Shadowed (loader : Loader) (tree : FileTree) (id : String) : Prop :=
  loader.kind = .docs ∧ (∃ directory, id = directory ++ "/index") ∧
    ∃ ext ∈ loader.extensions, tree.hasFile (join loader.root (id ++ "." ++ ext))

/-! ## Ids of direct files -/

/-- Whether an id of names ends in `index`. -/
theorem exists_index_iff (h : ∀ part ∈ front ++ [last], IsName part) :
    (∃ directory, joined (front ++ [last]) = directory ++ "/index") ↔
      front ≠ [] ∧ last = "index" := by
  constructor
  · rintro ⟨directory, hid⟩
    have hsegments := segments_joined (by simp) fun part hm => (h part hm).2.2.2
    have hcut : (directory ++ "/index").toList =
        directory.toList ++ '/' :: "index".toList := by simp
    have hindex : segments "index".toList = ["index".toList] := by decide
    rw [hid, hcut, segments_append_slash, hindex, List.map_append, List.map_singleton] at hsegments
    obtain ⟨hfront, hlast⟩ := List.append_inj' hsegments rfl
    refine ⟨?_, String.toList_inj.1 (List.singleton_injective hlast).symm⟩
    rintro rfl
    exact segments_ne_nil _ hfront
  · rintro ⟨hne, rfl⟩
    exact ⟨joined front, by rw [joined_concat hne, String.append_assoc]; rfl⟩

/-- A direct file has its path as its id, unless it is an index. -/
theorem idOf_direct_iff (h : ∀ part ∈ front ++ [last], IsName part) (hpoint : '.' ∉ ext.toList) :
    loader.idOf (front ++ [fileName last ext]) = joined (front ++ [last]) ↔
      ¬ (loader.kind = .docs ∧ ∃ directory, joined (front ++ [last]) = directory ++ "/index") := by
  have hlast : IsName last := h last (by simp)
  have hfront : ∀ part ∈ front, IsName part := fun part hm => h part (List.mem_append_left _ hm)
  rw [exists_index_iff h, idOf_concat hfront hlast (splitName_fileName hlast hpoint),
    idParts_concat]
  by_cases hindex : loader.kind = .docs ∧ front ≠ [] ∧ last = "index"
  · -- The id is that of the directory, and one name shorter.
    rw [if_pos hindex]
    refine iff_of_false (fun heq => ?_) (not_not_intro hindex)
    have hslash : ∀ part ∈ front ++ [last], '/' ∉ part.toList := fun part hm => (h part hm).2.2.2
    have hnames := joined_inj hindex.2.1 (by simp)
      (fun part hm => hslash part (List.mem_append_left _ hm)) hslash heq
    have hlength := congrArg List.length hnames
    simp at hlength
  · rw [if_neg hindex]
    exact iff_of_true rfl hindex

/-! ## The first candidate -/

theorem exists_of_mem_direct {path : String} (hm : path ∈ loader.extensions.map fun ext =>
      join loader.root (joined (front ++ [last]) ++ "." ++ ext)) :
    ∃ ext ∈ loader.extensions, path = join loader.root (joined (front ++ [fileName last ext])) := by
  obtain ⟨ext, hext, rfl⟩ := List.mem_map.1 hm
  exact ⟨ext, hext, by rw [direct_joined]⟩

/-- The file that is loaded for an id of names. -/
theorem first_candidate (h : ∀ part ∈ front ++ [last], IsName part) {path : String}
    (hfind : (loader.candidates (joined (front ++ [last]))).find? tree.hasFile = some path) :
    (∃ ext ∈ loader.extensions, path = join loader.root (joined (front ++ [fileName last ext]))) ∨
      loader.kind = .docs ∧
        (∀ ext ∈ loader.extensions,
          ¬ tree.hasFile (join loader.root (joined (front ++ [last]) ++ "." ++ ext))) ∧
        ∃ ext ∈ loader.extensions,
          path = join loader.root (joined (front ++ [last] ++ [fileName "index" ext])) := by
  rw [candidates] at hfind
  cases hkind : loader.kind with
  | posts =>
      rw [hkind] at hfind
      exact Or.inl (exists_of_mem_direct (List.mem_of_find?_eq_some hfind))
  | docs =>
      simp only [hkind, List.find?_append] at hfind
      cases hfirst : (loader.extensions.map fun ext =>
          join loader.root (joined (front ++ [last]) ++ "." ++ ext)).find? tree.hasFile with
      | some first =>
          rw [hfirst, Option.some_or] at hfind
          cases hfind
          exact Or.inl (exists_of_mem_direct (List.mem_of_find?_eq_some hfirst))
      | none =>
          rw [hfirst, Option.none_or] at hfind
          obtain ⟨ext, hext, rfl⟩ := List.mem_map.1 (List.mem_of_find?_eq_some hfind)
          refine Or.inr ⟨rfl, fun other hother => ?_, ext, hext, index_joined loader.root h ext⟩
          exact List.find?_eq_none.1 hfirst _ (List.mem_map_of_mem hother)

/-- What is loaded for a listed id is a document of the collection, which has the id exactly if the
id is not shadowed. -/
theorem idOf_loaded_iff (htree : tree.Proper) (hext : loader.PlainExtensions)
    (hid : id ∈ loader.ids tree) {source : Source} (hload : loader.load tree id = .ok source) :
    ∃ names ∈ loader.documents tree, source.path = join loader.root (joined names) ∧
      tree.read? source.path = some source.text ∧
      (loader.idOf names = id ↔ ¬ loader.Shadowed tree id) := by
  obtain ⟨hadmits, hfind, hread⟩ := of_load_eq_ok hload
  obtain ⟨place, front, last, hroot, rfl, hparts⟩ := exists_front_of_mem_ids htree hid hadmits
  have hfile : tree.hasFile source.path := List.find?_some hfind
  rcases first_candidate hparts hfind with ⟨ext, hknown, hpath⟩ | ⟨hdocs, hnone, ext, hknown, hpath⟩
  · have hdirect : front ++ [fileName last ext] ∈ loader.candidateNames front last :=
      mem_candidateNames_iff.2 ⟨ext, hknown, Or.inl rfl⟩
    have hthere : tree.hasFile (join loader.root (joined (front ++ [last]) ++ "." ++ ext)) := by
      rw [direct_joined, ← hpath]
      exact hfile
    refine ⟨_, mem_documents_of_hasFile htree hext hparts hroot hadmits hdirect (hpath ▸ hfile),
      hpath, hread, ?_⟩
    rw [idOf_direct_iff hparts (hext ext hknown).1, not_iff_not]
    exact ⟨fun ⟨hdocs, hindex⟩ => ⟨hdocs, hindex, ext, hknown, hthere⟩,
      fun ⟨hdocs, hindex, _⟩ => ⟨hdocs, hindex⟩⟩
  · have hindex : front ++ [last] ++ [fileName "index" ext] ∈ loader.candidateNames front last :=
      mem_candidateNames_iff.2 ⟨ext, hknown, Or.inr ⟨hdocs, rfl⟩⟩
    have hshadow : ¬ loader.Shadowed tree (joined (front ++ [last])) := by
      rintro ⟨-, -, other, hother, hthere⟩
      exact hnone other hother hthere
    refine ⟨_, mem_documents_of_hasFile htree hext hparts hroot hadmits hindex (hpath ▸ hfile),
      hpath, hread, ?_⟩
    exact iff_of_true (idOf_index hdocs (by simp) hparts (hext ext hknown).1) hshadow

/-- An index file in a directory `index`, and one beside that directory. -/
def nestedIndex : FileTree :=
  ⟨[(["r", "a", "index.md"], .file (some "outer")),
    (["r", "a", "index", "index.md"], .file (some "inner"))]⟩

theorem idOf_loaded_of_nestedIndex :
    nestedIndex.Proper ∧ pages.PlainExtensions ∧ pages.ids nestedIndex = ["a", "a/index"] ∧
      pages.load nestedIndex "a" = .ok { path := "r/a/index.md", text := "outer" } ∧
      ∃ names ∈ pages.documents nestedIndex, "r/a/index.md" = join pages.root (joined names) ∧
        nestedIndex.read? "r/a/index.md" = some "outer" ∧
        ¬ pages.Shadowed nestedIndex "a" ∧ pages.idOf names = "a" := by
  have htree : nestedIndex.Proper := ⟨by decide, by decide⟩
  have hext : pages.PlainExtensions := by decide
  have hload : pages.load nestedIndex "a" = .ok { path := "r/a/index.md", text := "outer" } := by
    decide
  have hshadow : ¬ pages.Shadowed nestedIndex "a" := by
    rintro ⟨-, -, ext, hknown, hthere⟩
    revert ext
    decide
  obtain ⟨names, hm, hpath, hread, hiff⟩ := idOf_loaded_iff htree hext (by decide) hload
  exact ⟨htree, hext, by decide, hload, names, hm, hpath, hread, hshadow, hiff.2 hshadow⟩

/-- Not every listed id is loaded from a document that has it. -/
theorem not_idOf_loaded :
    ¬ ∀ (loader : Loader) (tree : FileTree), tree.Proper → loader.PlainExtensions →
      ∀ id ∈ loader.ids tree, ∀ source, loader.load tree id = .ok source →
        ∃ names ∈ loader.documents tree, source.path = join loader.root (joined names) ∧
          loader.idOf names = id := by
  intro h
  have hext : pages.PlainExtensions := by decide
  have hload : pages.load nestedIndex "a/index" =
      .ok { path := "r/a/index.md", text := "outer" } := by
    decide
  obtain ⟨names, hm, hpath, hid⟩ := h pages nestedIndex ⟨by decide, by decide⟩ hext "a/index"
    (by decide) _ hload
  have hdocuments : pages.documents nestedIndex =
      [["a", "index.md"], ["a", "index", "index.md"]] := by
    decide
  rw [hdocuments, List.mem_cons, List.mem_singleton] at hm
  -- The file that is read has another id, and the file with this id is not read.
  rcases hm with rfl | rfl
  · exact absurd hid (by decide)
  · exact absurd hpath (by decide)

end Folio.Site.Loader
