import Folio.Proofs.Dict
import Folio.Proofs.Site.FileTree
import Folio.Site.Loader

/-!
# Documents and their ids

The documents of a collection are files below its root.  An id that is listed and safe is made of
names, and the paths that it may stand for are those of the files with these names.
-/

namespace Folio.Site

/-! ## Names of files -/

/-- The name of a file with a stem and an extension. -/
def fileName (stem ext : String) : String :=
  stem ++ "." ++ ext

theorem toList_fileName (stem ext : String) :
    (fileName stem ext).toList = stem.toList ++ '.' :: ext.toList := by
  simp [fileName]

theorem IsName.fileName_ne_points {stem : String} (h : IsName stem) (ext : String) :
    stem.toList ++ '.' :: ext.toList ≠ ['.', '.'] := by
  intro hpoints
  cases hstem : stem.toList with
  | nil => exact h.toList_ne_nil hstem
  | cons c cs =>
      rw [hstem] at hpoints
      -- The stem takes the first point and the second one is that before the extension.
      cases cs with
      | nil =>
          have hc : c = '.' := (List.cons.inj hpoints).1
          exact h.toList_ne_current (by rw [hstem, hc])
      | cons d cs =>
          have hlength := congrArg List.length hpoints
          simp at hlength

theorem IsName.fileName {stem ext : String} (h : IsName stem) (hext : '/' ∉ ext.toList) :
    IsName (fileName stem ext) := by
  have hslash : '/' ∉ (Site.fileName stem ext).toList := by
    rw [toList_fileName]
    simp [h.2.2.2, hext]
  refine ⟨?_, ?_, ?_, hslash⟩
  · intro heq
    have hlength := congrArg (fun s => s.toList.length) heq
    simp [toList_fileName] at hlength
  · intro heq
    have hlist := congrArg String.toList heq
    rw [toList_fileName] at hlist
    have hlength := congrArg List.length hlist
    have hpos := List.length_pos_iff.2 h.toList_ne_nil
    simp at hlength
    omega
  · intro heq
    have hlist := congrArg String.toList heq
    rw [toList_fileName] at hlist
    exact h.fileName_ne_points ext hlist

theorem splitName_fileName {stem ext : String} (h : IsName stem) (hext : '.' ∉ ext.toList) :
    splitName (fileName stem ext).toList = (stem.toList, some ext.toList) := by
  rw [toList_fileName]
  exact splitName_concat h.toList_ne_nil hext (h.fileName_ne_points ext)

/-- A name is left of a file with a stem that is one. -/
theorem withoutExtension_fileName {stem ext : String} (h : IsName stem)
    (hsplit : splitName (fileName stem ext).toList = (stem.toList, some ext.toList)) :
    String.ofList (withoutExtension (fileName stem ext).toList) = stem := by
  simp only [withoutExtension, hsplit, if_neg h.toList_ne_current, String.ofList_toList]

/-- Two points are left of a file with a stem of points. -/
theorem withoutExtension_points {stem ext : String} (hpoints : stem = "." ∨ stem = "..")
    (hsplit : splitName (fileName stem ext).toList = (stem.toList, some ext.toList)) :
    String.ofList (withoutExtension (fileName stem ext).toList) = ".." := by
  rw [withoutExtension, hsplit]
  rcases hpoints with rfl | rfl
  · rfl
  · rfl

namespace Loader

/-- The path of a file without its extension. -/
theorem stemPath_concat (front : List String) (name : String) :
    stemPath (front ++ [name]) =
      joined (front ++ [String.ofList (withoutExtension name.toList)]) := by
  rw [← String.toList_inj, toList_joined]
  simp [stemPath]

variable {loader : Loader} {tree : FileTree} {place front names parts : List String}
  {stem ext id : String}

/-! ## Documents -/

/-- A file that is a document by its place and its name. -/
def Admitted (loader : Loader) (names : List String) : Prop :=
  (loader.kind = .docs ∨ names.length = 1) ∧ ∃ name ∈ names.getLast?, loader.isDocument name

theorem mem_documents_iff (hroot : tree.place? loader.root = some place) :
    names ∈ loader.documents tree ↔ names ∈ tree.filesBelow place ∧ loader.Admitted names := by
  rw [documents, hroot]
  simp only [List.mem_filter, Bool.and_eq_true, Bool.or_eq_true, beq_iff_eq]
  refine and_congr_right fun _ => and_congr_right fun _ => ?_
  cases names.getLast? with
  | none => simp
  | some name => simp

/-- The documents of a collection are below its root. -/
theorem exists_place_of_mem_documents (hm : names ∈ loader.documents tree) :
    ∃ place, tree.place? loader.root = some place ∧ names ∈ tree.filesBelow place ∧
      loader.Admitted names := by
  cases hroot : tree.place? loader.root with
  | none =>
      rw [documents, hroot] at hm
      cases hm
  | some place => exact ⟨place, rfl, (mem_documents_iff hroot).1 hm⟩

/-- A file with one of the extensions is a document. -/
theorem isDocument_fileName (h : IsName stem) (hext : '.' ∉ ext.toList)
    (hknown : ext ∈ loader.extensions) : loader.isDocument (fileName stem ext) := by
  rw [isDocument, splitName_fileName h hext, List.any_eq_true]
  exact ⟨ext, hknown, by simp⟩

/-- What a document is called. -/
theorem exists_of_mem_documents (htree : tree.Proper) (hm : names ∈ loader.documents tree) :
    ∃ front stem ext, names = front ++ [fileName stem ext] ∧ (∀ part ∈ front, IsName part) ∧
      stem ≠ "" ∧ '/' ∉ stem.toList ∧ '.' ∉ ext.toList ∧
      splitName (fileName stem ext).toList = (stem.toList, some ext.toList) := by
  obtain ⟨place, -, hbelow, -, name, hlast, hdocument⟩ := exists_place_of_mem_documents hm
  have hnames := FileTree.isName_of_mem_filesBelow htree hbelow
  obtain ⟨front, rfl⟩ := List.getLast?_eq_some_iff.1 hlast
  rw [List.forall_mem_append, List.forall_mem_singleton] at hnames
  -- Only a name with an extension is that of a document.
  rw [isDocument] at hdocument
  split at hdocument
  · rename_i ext hext
    have hsplit : splitName name.toList = ((splitName name.toList).1, some ext) :=
      Prod.ext rfl hext
    obtain ⟨hname, hstem, hpoint⟩ := eq_concat_of_splitName hsplit
    have hwhole : fileName (String.ofList (splitName name.toList).1) (String.ofList ext) =
        name := by
      rw [← String.toList_inj, toList_fileName, String.toList_ofList, String.toList_ofList, ← hname]
    refine ⟨front, String.ofList (splitName name.toList).1, String.ofList ext, by rw [hwhole],
      hnames.1, ?_, ?_, by rwa [String.toList_ofList], ?_⟩
    · intro hempty
      exact hstem (by rw [← String.toList_ofList (l := (splitName name.toList).1), hempty]; rfl)
    · intro hslash
      rw [String.toList_ofList] at hslash
      exact hnames.2.2.2.2 (by rw [hname]; exact List.mem_append_left _ hslash)
    · rw [hwhole, String.toList_ofList, String.toList_ofList]
      exact hsplit
  · cases hdocument

/-! ## Ids -/

theorem mem_ids_iff : id ∈ loader.ids tree ↔
    tree.hasDirectory loader.root ∧ ∃ names ∈ loader.documents tree, loader.idOf names = id := by
  rw [ids]
  by_cases hroot : tree.hasDirectory loader.root
  · rw [if_pos hroot, Dict.mem_names_ofList, List.map_map, List.mem_map]
    simp [hroot]
  · rw [if_neg hroot]
    simp [hroot]

/-- The parts of an id, from the steps of a path without an extension. -/
def idParts (loader : Loader) (parts : List String) : List String :=
  match loader.kind with
  | .docs => dropIndex parts
  | .posts => parts

theorem idOf_eq (loader : Loader) (names : List String) :
    loader.idOf names =
      joined (loader.idParts ((components (stemPath names)).map Component.text)) :=
  rfl

theorem dropIndex_concat (front : List String) (last : String) :
    dropIndex (front ++ [last]) =
      if front ≠ [] ∧ last = "index" then front else front ++ [last] := by
  cases front with
  | nil => simp [dropIndex]
  | cons first front =>
      rw [dropIndex, List.getLast?_concat, List.dropLast_concat]
      by_cases hlast : last = "index"
      · simp [hlast]
      · simp [hlast]

/-- Only a last step `index` behind others is dropped, and only for documents. -/
theorem idParts_concat (loader : Loader) (front : List String) (last : String) :
    loader.idParts (front ++ [last]) =
      if loader.kind = .docs ∧ front ≠ [] ∧ last = "index" then front else front ++ [last] := by
  rw [idParts]
  cases loader.kind with
  | docs => simp only [dropIndex_concat, true_and]
  | posts => simp

/-- The parts of an id are names if the steps are. -/
theorem isName_idParts (loader : Loader) (hne : parts ≠ []) (h : ∀ part ∈ parts, IsName part) :
    loader.idParts parts ≠ [] ∧ ∀ part ∈ loader.idParts parts, IsName part := by
  obtain ⟨front, last, rfl⟩ := (List.eq_nil_or_concat' parts).resolve_left hne
  rw [idParts_concat]
  split
  · rename_i hindex
    exact ⟨hindex.2.1, fun part hm => h part (List.mem_append_left _ hm)⟩
  · exact ⟨hne, h⟩

theorem map_text_name (names : List String) :
    (names.map Component.name).map Component.text = names := by
  rw [List.map_map]
  exact List.map_id names

/-- The id of a file whose stem is a name. -/
theorem idOf_concat (hfront : ∀ part ∈ front, IsName part) (hstem : IsName stem)
    (hsplit : splitName (fileName stem ext).toList = (stem.toList, some ext.toList)) :
    loader.idOf (front ++ [fileName stem ext]) = joined (loader.idParts (front ++ [stem])) := by
  have hnames : ∀ part ∈ front ++ [stem], IsName part :=
    List.forall_mem_append.2 ⟨hfront, List.forall_mem_singleton.2 hstem⟩
  rw [idOf_eq, stemPath_concat, withoutExtension_fileName hstem hsplit,
    components_joined (by simp) hnames, map_text_name]

/-! ### Stems of points -/

theorem isName_or_points (hstem : stem ≠ "") (hslash : '/' ∉ stem.toList) :
    IsName stem ∨ stem = "." ∨ stem = ".." := by
  by_cases hcurrent : stem = "."
  · exact .inr (.inl hcurrent)
  · by_cases hparent : stem = ".."
    · exact .inr (.inr hparent)
    · exact .inl ⟨hstem, hcurrent, hparent, hslash⟩

/-- The id of a file whose stem is made of points leads out of its directory. -/
theorem not_isSafeId_idOf_points (hpoints : stem = "." ∨ stem = "..")
    (hfront : ∀ part ∈ front, IsName part)
    (hsplit : splitName (fileName stem ext).toList = (stem.toList, some ext.toList)) :
    ¬ isSafeId (loader.idOf (front ++ [fileName stem ext])) := by
  -- Both stems leave two points, and the last step of the path goes back.
  have hcomponents : components (joined (front ++ [".."])) =
      front.map Component.name ++ [.parent] := by
    by_cases hnil : front = []
    · subst hnil
      decide
    · have hparent : component? "..".toList = some .parent := by decide
      rw [components_joined_concat hnil hfront (by decide), hparent]
      rfl
  have hid : loader.idOf (front ++ [fileName stem ext]) = joined (front ++ [".."]) := by
    rw [idOf_eq, stemPath_concat, withoutExtension_points hpoints hsplit, hcomponents,
      List.map_append, map_text_name]
    exact congrArg joined ((idParts_concat loader front "..").trans (if_neg (by simp)))
  rw [hid, isSafeId, hcomponents]
  simp

/-- A listed id that is safe is made of names. -/
theorem exists_parts_of_mem_ids (htree : tree.Proper) (hid : id ∈ loader.ids tree)
    (hsafe : isSafeId id) :
    ∃ parts, parts ≠ [] ∧ (∀ part ∈ parts, IsName part) ∧ id = joined parts := by
  obtain ⟨-, names, hm, rfl⟩ := mem_ids_iff.1 hid
  obtain ⟨front, stem, ext, rfl, hfront, hstem, hslash, -, hsplit⟩ :=
    exists_of_mem_documents htree hm
  rcases isName_or_points hstem hslash with hname | hpoints
  · have hnames : ∀ part ∈ front ++ [stem], IsName part :=
      List.forall_mem_append.2 ⟨hfront, List.forall_mem_singleton.2 hname⟩
    obtain ⟨hne, hparts⟩ := isName_idParts loader (by simp) hnames
    exact ⟨_, hne, hparts, idOf_concat hfront hname hsplit⟩
  · exact absurd hsafe (not_isSafeId_idOf_points hpoints hfront hsplit)

end Loader

end Folio.Site
