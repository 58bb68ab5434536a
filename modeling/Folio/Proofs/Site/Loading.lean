import Folio.Proofs.Outcome
import Folio.Proofs.Site.Document

/-!
# Loading what is listed

The ids of a collection are made from its files, and files are looked for by ids.  The two fit for
files whose extension is spelled as the collection has it, and whose names hold no backslash and are
more than points before the extension; other files are listed, and loading their ids fails.
-/

namespace Folio.Site.Loader

variable {loader : Loader} {tree : FileTree} {place front names : List String}
  {last stem ext id : String}

/-! ## Safe ids -/

/-- Names make a safe id if none of them holds a backslash. -/
theorem isSafeId_joined (hne : names ≠ []) (h : ∀ name ∈ names, IsName name) :
    isSafeId (joined names) ↔ ∀ name ∈ names, '\\' ∉ name.toList := by
  obtain ⟨c, cs, hcs, -⟩ := exists_toList_joined hne h
  have hslash : '\\' ≠ '/' := by decide
  rw [isSafeId, isEmpty_of_cons hcs, components_joined hne h]
  simp [mem_joined hslash]

/-- Whether an id of names may belong to a collection. -/
theorem admits_joined (h : ∀ part ∈ front ++ [last], IsName part) :
    loader.admits (joined (front ++ [last])) ↔
      (∀ part ∈ front ++ [last], '\\' ∉ part.toList) ∧ (loader.kind = .docs ∨ front = []) := by
  have hslash : '/' ∉ (joined (front ++ [last])).toList ↔ front = [] := by
    by_cases hnil : front = []
    · have hlast : '/' ∉ last.toList := (h last (by simp)).2.2.2
      simp [hnil, joined_singleton, hlast]
    · simp [hnil, joined_concat hnil]
  rw [admits, Bool.and_eq_true, isSafeId_joined (by simp) h, Bool.or_eq_true, beq_iff_eq,
    Bool.not_eq_true', List.contains_eq_mem, decide_eq_false_iff_not, hslash]

/-! ## Candidates -/

/-- The files that an id of names may stand for, best first. -/
def candidateNames (loader : Loader) (front : List String) (last : String) : List (List String) :=
  let direct := loader.extensions.map fun ext => front ++ [fileName last ext]
  match loader.kind with
  | .docs => direct ++ loader.extensions.map fun ext => front ++ [last] ++ [fileName "index" ext]
  | .posts => direct

theorem mem_candidateNames_iff : names ∈ loader.candidateNames front last ↔
    ∃ ext ∈ loader.extensions, names = front ++ [fileName last ext] ∨
      loader.kind = .docs ∧ names = front ++ [last] ++ [fileName "index" ext] := by
  rw [candidateNames]
  cases hkind : loader.kind with
  | docs =>
      simp only [List.mem_append, List.mem_map, true_and]
      constructor
      · rintro (⟨ext, hext, rfl⟩ | ⟨ext, hext, rfl⟩)
        · exact ⟨ext, hext, Or.inl rfl⟩
        · exact ⟨ext, hext, Or.inr rfl⟩
      · rintro ⟨ext, hext, rfl | rfl⟩
        · exact Or.inl ⟨ext, hext, rfl⟩
        · exact Or.inr ⟨ext, hext, rfl⟩
  | posts => simp [eq_comm]

/-- A direct file of an id of names. -/
theorem direct_joined (front : List String) (last ext : String) :
    joined (front ++ [last]) ++ "." ++ ext = joined (front ++ [fileName last ext]) := by
  rw [String.append_assoc, joined_append, fileName, String.append_assoc]

/-- An index file in the directory that an id of names stands for. -/
theorem index_joined (root : String) (h : ∀ part ∈ front ++ [last], IsName part) (ext : String) :
    join (join root (joined (front ++ [last]))) ("index." ++ ext) =
      join root (joined (front ++ [last] ++ [fileName "index" ext])) := by
  have hi : ("index." ++ ext).toList = 'i' :: ("ndex." ++ ext).toList := by simp
  have hrelative : isAbsolute ("index." ++ ext) = false := isAbsolute_of_cons hi (by decide)
  have hname : "index." ++ ext = fileName "index" ext := rfl
  have hne : front ++ [last] ≠ [] := by simp
  rw [join_join hne h hrelative, hname, ← joined_concat hne]

/-- The paths that an id of names may stand for are those of the files. -/
theorem candidates_joined (h : ∀ part ∈ front ++ [last], IsName part) :
    loader.candidates (joined (front ++ [last])) =
      (loader.candidateNames front last).map fun names => join loader.root (joined names) := by
  cases hkind : loader.kind with
  | docs =>
      simp [candidates, candidateNames, hkind, direct_joined, index_joined loader.root h,
        Function.comp_def]
  | posts => simp [candidates, candidateNames, hkind, direct_joined, Function.comp_def]

/-- No extension holds a point or a slash. -/
def PlainExtensions (loader : Loader) : Prop :=
  ∀ ext ∈ loader.extensions, '.' ∉ ext.toList ∧ '/' ∉ ext.toList

instance (loader : Loader) : Decidable loader.PlainExtensions :=
  inferInstanceAs (Decidable (∀ ext ∈ loader.extensions, '.' ∉ ext.toList ∧ '/' ∉ ext.toList))

/-- What an id of names may stand for is made of names. -/
theorem isName_candidate (hext : loader.PlainExtensions) (h : ∀ part ∈ front ++ [last], IsName part)
    (hm : names ∈ loader.candidateNames front last) : names ≠ [] ∧ ∀ name ∈ names, IsName name := by
  have hindex : IsName "index" := by decide
  rw [List.forall_mem_append, List.forall_mem_singleton] at h
  obtain ⟨ext, hknown, rfl | ⟨-, rfl⟩⟩ := mem_candidateNames_iff.1 hm
  · refine ⟨by simp, List.forall_mem_append.2 ⟨h.1, List.forall_mem_singleton.2 ?_⟩⟩
    exact h.2.fileName (hext ext hknown).2
  · refine ⟨by simp, List.forall_mem_append.2 ⟨?_, List.forall_mem_singleton.2 ?_⟩⟩
    · exact List.forall_mem_append.2 ⟨h.1, List.forall_mem_singleton.2 h.2⟩
    · exact hindex.fileName (hext ext hknown).2

/-- A file that an id of names may stand for is a document. -/
theorem mem_documents_of_candidate (hext : loader.PlainExtensions)
    (h : ∀ part ∈ front ++ [last], IsName part) (hroot : tree.place? loader.root = some place)
    (hkind : loader.kind = .docs ∨ front = []) (hm : names ∈ loader.candidateNames front last)
    (hbelow : names ∈ tree.filesBelow place) : names ∈ loader.documents tree := by
  refine (mem_documents_iff hroot).2 ⟨hbelow, ?_⟩
  have hindex : IsName "index" := by decide
  obtain ⟨ext, hknown, rfl | ⟨hdocs, rfl⟩⟩ := mem_candidateNames_iff.1 hm
  · have hdocument := isDocument_fileName (h last (by simp)) (hext ext hknown).1 hknown
    refine ⟨hkind.imp_right fun hnil => ?_, fileName last ext, List.getLast?_concat, hdocument⟩
    rw [hnil]
    rfl
  · have hdocument := isDocument_fileName hindex (hext ext hknown).1 hknown
    exact ⟨Or.inl hdocs, fileName "index" ext, List.getLast?_concat, hdocument⟩

theorem stemPath_direct (hlast : IsName last) (hpoint : '.' ∉ ext.toList) :
    stemPath (front ++ [fileName last ext]) = joined (front ++ [last]) := by
  rw [stemPath_concat, withoutExtension_fileName hlast (splitName_fileName hlast hpoint)]

/-- The id of an index file is that of its directory. -/
theorem idOf_index (hdocs : loader.kind = .docs) (hne : names ≠ [])
    (h : ∀ name ∈ names, IsName name) (hpoint : '.' ∉ ext.toList) :
    loader.idOf (names ++ [fileName "index" ext]) = joined names := by
  have hindex : IsName "index" := by decide
  rw [idOf_concat h hindex (splitName_fileName hindex hpoint), idParts_concat,
    if_pos ⟨hdocs, hne, rfl⟩]

/-- A file that is there for an id of names is a document. -/
theorem mem_documents_of_hasFile (htree : tree.Proper) (hext : loader.PlainExtensions)
    (h : ∀ part ∈ front ++ [last], IsName part) (hroot : tree.place? loader.root = some place)
    (hadmits : loader.admits (joined (front ++ [last])))
    (hm : names ∈ loader.candidateNames front last)
    (hfile : tree.hasFile (join loader.root (joined names))) : names ∈ loader.documents tree := by
  obtain ⟨hnil, hname⟩ := isName_candidate hext h hm
  have hbelow := (FileTree.hasFile_joined_iff htree hroot hnil hname).1 hfile
  have hkind := ((admits_joined h).1 hadmits).2
  exact mem_documents_of_candidate hext h hroot hkind hm hbelow

/-- An id that is listed and admitted is made of names, below a root that is there. -/
theorem exists_front_of_mem_ids (htree : tree.Proper) (hid : id ∈ loader.ids tree)
    (hadmits : loader.admits id) : ∃ place front last, tree.place? loader.root = some place ∧
      id = joined (front ++ [last]) ∧ ∀ part ∈ front ++ [last], IsName part := by
  have hsafe : isSafeId id := by
    rw [admits, Bool.and_eq_true] at hadmits
    exact hadmits.1
  obtain ⟨parts, hne, hparts, rfl⟩ := exists_parts_of_mem_ids htree hid hsafe
  obtain ⟨front, last, rfl⟩ := (List.eq_nil_or_concat' parts).resolve_left hne
  obtain ⟨-, listed, hlisted, -⟩ := mem_ids_iff.1 hid
  obtain ⟨place, hroot, -⟩ := exists_place_of_mem_documents hlisted
  exact ⟨place, front, last, hroot, rfl, hparts⟩

/-! ## Loading -/

/-- What is fetched is the text of the first file that the id may stand for. -/
theorem of_fetch_eq_ok {disk : Disk} {source : Source} (h : loader.fetch disk id = .ok source) :
    loader.admits id ∧ (loader.candidates id).find? disk.hasFile = some source.path ∧
      disk.read? source.path = some source.text := by
  rw [fetch] at h
  split at h
  · cases h
  · rename_i hadmits
    split at h
    · cases h
    · rename_i path hfind
      split at h
      · rename_i text hread
        cases h
        exact ⟨by simpa using hadmits, hfind, hread⟩
      · cases h

/-- What is loaded is the text of the first file that the id may stand for. -/
theorem of_load_eq_ok {source : Source} (h : loader.load tree id = .ok source) :
    loader.admits id ∧ (loader.candidates id).find? tree.hasFile = some source.path ∧
      tree.read? source.path = some source.text :=
  of_fetch_eq_ok h

theorem load_eq_ok {path text : String} (hadmits : loader.admits id)
    (hfind : (loader.candidates id).find? tree.hasFile = some path)
    (hread : tree.read? path = some text) : loader.load tree id = .ok { path, text } := by
  simp only [load, fetch, FileTree.disk, hadmits, hfind, hread, Bool.not_true, Bool.false_eq_true,
    if_false]

/-- Fetching says that there is no document if the id is refused or no file is there for it. -/
theorem fetch_eq_missing {disk : Disk}
    (h : ¬ (loader.admits id ∧ ∃ path ∈ loader.candidates id, disk.hasFile path)) :
    loader.fetch disk id = .error (.missingDocument id) := by
  rw [fetch]
  split
  · rfl
  · rename_i hadmits
    have hnone : (loader.candidates id).find? disk.hasFile = none := by
      rw [List.find?_eq_none]
      intro path hm hfile
      exact h ⟨by simpa using hadmits, path, hm, hfile⟩
    rw [hnone]

/-- Loading says that there is no document if the id is refused or no file is there for it. -/
theorem load_eq_missing
    (h : ¬ (loader.admits id ∧ ∃ path ∈ loader.candidates id, tree.hasFile path)) :
    loader.load tree id = .error (.missingDocument id) :=
  fetch_eq_missing h

/-- A document that loading finds: its extension is spelled as the collection has it, the rest of
its name is a name of its own, and no backslash is in its id. -/
def Plain (loader : Loader) (names : List String) : Prop :=
  ∃ front stem ext, names = front ++ [fileName stem ext] ∧ ext ∈ loader.extensions ∧ IsName stem ∧
    ∀ part ∈ front ++ [stem], '\\' ∉ part.toList

/-- An id is served by a document that loading finds and that has the id, or whose path without the
extension is the id. -/
def Served (loader : Loader) (tree : FileTree) (id : String) : Prop :=
  ∃ names ∈ loader.documents tree, loader.Plain names ∧
    (loader.idOf names = id ∨ stemPath names = id)

section

variable (htree : tree.Proper) (hext : loader.PlainExtensions)
include htree hext

/-- A file that is found for a listed id is a document that loading finds. -/
theorem served_of_candidate (hid : id ∈ loader.ids tree) (hadmits : loader.admits id)
    {path : String} (hm : path ∈ loader.candidates id) (hfile : tree.hasFile path) :
    loader.Served tree id := by
  obtain ⟨place, front, last, hroot, rfl, hparts⟩ := exists_front_of_mem_ids htree hid hadmits
  rw [candidates_joined hparts] at hm
  obtain ⟨names, hnames, rfl⟩ := List.mem_map.1 hm
  have hdocument := mem_documents_of_hasFile htree hext hparts hroot hadmits hnames hfile
  have hslash := ((admits_joined hparts).1 hadmits).1
  have hlast : IsName last := hparts last (by simp)
  refine ⟨names, hdocument, ?_⟩
  obtain ⟨ext, hknown, rfl | ⟨hdocs, rfl⟩⟩ := mem_candidateNames_iff.1 hnames
  · exact ⟨⟨front, last, ext, rfl, hknown, hlast, hslash⟩,
      Or.inr (stemPath_direct hlast (hext ext hknown).1)⟩
  · have hindex : IsName "index" := by decide
    have hslash' : ∀ part ∈ front ++ [last] ++ ["index"], '\\' ∉ part.toList :=
      List.forall_mem_append.2 ⟨hslash, List.forall_mem_singleton.2 (by decide)⟩
    exact ⟨⟨front ++ [last], "index", ext, rfl, hknown, hindex, hslash'⟩,
      Or.inl (idOf_index hdocs (by simp) hparts (hext ext hknown).1)⟩

/-- A file that an id of names without a backslash may stand for is found. -/
theorem candidate_of_mem (h : ∀ part ∈ front ++ [last], IsName part)
    (hslash : ∀ part ∈ front ++ [last], '\\' ∉ part.toList)
    (hkind : loader.kind = .docs ∨ front = []) (hroot : tree.place? loader.root = some place)
    (hnames : names ∈ loader.candidateNames front last) (hbelow : names ∈ tree.filesBelow place) :
    loader.admits (joined (front ++ [last])) ∧
      ∃ path ∈ loader.candidates (joined (front ++ [last])), tree.hasFile path := by
  obtain ⟨hnil, hname⟩ := isName_candidate hext h hnames
  refine ⟨(admits_joined h).2 ⟨hslash, hkind⟩, join loader.root (joined names), ?_,
    (FileTree.hasFile_joined_iff htree hroot hnil hname).2 hbelow⟩
  rw [candidates_joined h]
  exact List.mem_map_of_mem hnames

/-- A document that loading finds is there for the ids that it serves. -/
theorem candidate_of_served (h : loader.Served tree id) :
    loader.admits id ∧ ∃ path ∈ loader.candidates id, tree.hasFile path := by
  obtain ⟨names, hm, ⟨front, stem, ext, rfl, hknown, hstem, hslash⟩, hserved⟩ := h
  obtain ⟨place, hroot, hbelow, hadmitted, -⟩ := exists_place_of_mem_documents hm
  have hpoint := (hext ext hknown).1
  have hfront : ∀ part ∈ front, IsName part := fun part hpart =>
    FileTree.isName_of_mem_filesBelow htree hbelow part (List.mem_append_left _ hpart)
  have hparts : ∀ part ∈ front ++ [stem], IsName part :=
    List.forall_mem_append.2 ⟨hfront, List.forall_mem_singleton.2 hstem⟩
  have hkind : loader.kind = .docs ∨ front = [] := by
    refine hadmitted.imp_right fun hlength => ?_
    rw [List.length_append, List.length_singleton] at hlength
    exact List.eq_nil_of_length_eq_zero (by omega)
  have hdirect : front ++ [fileName stem ext] ∈ loader.candidateNames front stem :=
    mem_candidateNames_iff.2 ⟨ext, hknown, Or.inl rfl⟩
  by_cases hid : id = joined (front ++ [stem])
  · rw [hid]
    exact candidate_of_mem htree hext hparts hslash hkind hroot hdirect hbelow
  · -- The file is the index of the directory that the id stands for.
    rw [stemPath_direct hstem hpoint, idOf_concat hfront hstem (splitName_fileName hstem hpoint)]
      at hserved
    have hindex := hserved.resolve_right (Ne.symm hid)
    rw [idParts_concat] at hindex
    split at hindex
    · rename_i hdropped
      obtain ⟨hdocs, hne, rfl⟩ := hdropped
      obtain ⟨init, last, rfl⟩ := (List.eq_nil_or_concat' front).resolve_left hne
      have hnames : init ++ [last] ++ [fileName "index" ext] ∈ loader.candidateNames init last :=
        mem_candidateNames_iff.2 ⟨ext, hknown, Or.inr ⟨hdocs, rfl⟩⟩
      have hslash' : ∀ part ∈ init ++ [last], '\\' ∉ part.toList := fun part hpart =>
        hslash part (List.mem_append_left _ hpart)
      rw [← hindex]
      exact candidate_of_mem htree hext hfront hslash' (Or.inl hdocs) hroot hnames hbelow
    · exact (hid hindex.symm).elim

/-- Where all files are texts, a listed id is loaded exactly if a document serves it, and otherwise
there is no such document. -/
theorem exists_load_iff (hread : tree.Readable) (hid : id ∈ loader.ids tree) :
    ((∃ source, loader.load tree id = .ok source) ↔ loader.Served tree id) ∧
      (¬ loader.Served tree id → loader.load tree id = .error (.missingDocument id)) := by
  have hserved : (loader.admits id ∧ ∃ path ∈ loader.candidates id, tree.hasFile path) ↔
      loader.Served tree id :=
    ⟨fun ⟨hadmits, path, hm, hfile⟩ => served_of_candidate htree hext hid hadmits hm hfile,
      candidate_of_served htree hext⟩
  refine ⟨⟨fun ⟨source, hload⟩ => ?_, fun h => ?_⟩, fun h => load_eq_missing (hserved.not.2 h)⟩
  · obtain ⟨hadmits, hfind, -⟩ := of_load_eq_ok hload
    exact hserved.1 ⟨hadmits, source.path, List.mem_of_find?_eq_some hfind, List.find?_some hfind⟩
  · obtain ⟨hadmits, path, hm, hfile⟩ := hserved.2 h
    -- Some file is there, so a first one is, and it is a text.
    obtain ⟨first, hfirst⟩ : ∃ first, (loader.candidates id).find? tree.hasFile = some first := by
      rw [← Option.isSome_iff_exists, List.find?_isSome]
      exact ⟨path, hm, hfile⟩
    obtain ⟨text, htext⟩ := FileTree.exists_read? hread (List.find?_some hfirst)
    exact ⟨_, load_eq_ok hadmits hfirst htext⟩

end

/-! ## Loading everything -/

/-- A batch is loaded whole, or fails as one of its documents does. -/
theorem mapM_cases (load : String → Except LoadError Source) (ids : List String) :
    (∃ sources, ids.mapM (fun id => do return (id, ← load id)) = .ok sources ∧
      sources.map (·.1) = ids ∧ ∀ id ∈ ids, ∃ source, load id = .ok source) ∨
    ∃ id ∈ ids, ∃ error, load id = .error error ∧
      ids.mapM (fun id => do return (id, ← load id)) = .error error := by
  induction ids with
  | nil => exact Or.inl ⟨[], rfl, rfl, List.forall_mem_nil _⟩
  | cons id ids ih =>
      rw [List.mapM_cons]
      cases hload : load id with
      | error error => exact Or.inr ⟨id, List.mem_cons_self, error, hload, rfl⟩
      | ok source =>
          rcases ih with ⟨sources, hsources, hids, hall⟩ | ⟨other, hm, error, herror, hrun⟩
          · refine Or.inl ⟨(id, source) :: sources, ?_, by rw [List.map_cons, hids],
              List.forall_mem_cons.2 ⟨⟨source, hload⟩, hall⟩⟩
            rw [hsources]
            rfl
          · refine Or.inr ⟨other, List.mem_cons_of_mem id hm, error, herror, ?_⟩
            rw [hrun]
            rfl

/-- Where all files are texts and no extension holds a point or a slash, a listed id is loaded
exactly if a document serves it, and else reported missing; a batch is loaded whole if all listed
ids are served, and else fails with a listed id that is missing.  All are served if the extensions
of all documents are spelled as the collection has them, what stands before them is a name of its
own, and no id holds a backslash. -/
theorem load_listed_iff_served (htree : tree.Proper) (hread : tree.Readable)
    (hext : loader.PlainExtensions) :
    (∀ id ∈ loader.ids tree,
      ((∃ source, loader.load tree id = .ok source) ↔ loader.Served tree id) ∧
      (¬ loader.Served tree id → loader.load tree id = .error (.missingDocument id))) ∧
    (tree.hasDirectory loader.root →
      (∀ id ∈ loader.ids tree, loader.Served tree id) ∧
        (∃ sources, loader.loadAll tree = .ok sources ∧ sources.map (·.1) = loader.ids tree) ∨
      ∃ id ∈ loader.ids tree, ¬ loader.Served tree id ∧
        loader.loadAll tree = .error (.missingDocument id)) ∧
    ((∀ names ∈ loader.documents tree, loader.Plain names) →
      ∀ id ∈ loader.ids tree, loader.Served tree id) := by
  have hload : ∀ id ∈ loader.ids tree,
      ((∃ source, loader.load tree id = .ok source) ↔ loader.Served tree id) ∧
        (¬ loader.Served tree id → loader.load tree id = .error (.missingDocument id)) :=
    fun id hid => exists_load_iff htree hext hread hid
  refine ⟨hload, fun hroot => ?_, fun hplain id hid => ?_⟩
  · rw [loadAll, if_pos hroot]
    rcases mapM_cases (loader.load tree) (loader.ids tree) with
      ⟨sources, hsources, hids, hall⟩ | ⟨id, hid, error, herror, hrun⟩
    · exact Or.inl ⟨fun id hid => (hload id hid).1.1 (hall id hid), sources, hsources, hids⟩
    · have hunserved : ¬ loader.Served tree id := by
        intro hserved
        obtain ⟨source, hsource⟩ := (hload id hid).1.2 hserved
        rw [hsource] at herror
        cases herror
      rw [(hload id hid).2 hunserved] at herror
      cases herror
      exact Or.inr ⟨id, hid, hunserved, hrun⟩
  · obtain ⟨-, names, hm, hidOf⟩ := mem_ids_iff.1 hid
    exact ⟨names, hm, hplain names hm, Or.inl hidOf⟩

/-- Pages in a directory `r`. -/
def pages : Loader where
  root := "r"
  kind := .docs

/-- Two pages that are served, and one whose extension is in upper case. -/
def mixedPages : FileTree :=
  ⟨[(["r", "a", "index.mdx"], .file (some "a")), (["r", "b.md"], .file (some "b")),
    (["r", "README.MD"], .file (some "c"))]⟩

theorem load_listed_of_mixedPages :
    mixedPages.Proper ∧ mixedPages.Readable ∧ pages.PlainExtensions ∧
      pages.ids mixedPages = ["README", "a", "b"] ∧ mixedPages.hasDirectory pages.root ∧
      (∀ id ∈ pages.ids mixedPages,
        ((∃ source, pages.load mixedPages id = .ok source) ↔ pages.Served mixedPages id) ∧
        (¬ pages.Served mixedPages id → pages.load mixedPages id = .error (.missingDocument id))) ∧
      ∃ id ∈ pages.ids mixedPages, ¬ pages.Served mixedPages id ∧
        pages.loadAll mixedPages = .error (.missingDocument id) := by
  have htree : mixedPages.Proper := ⟨by decide, by decide⟩
  have hread : mixedPages.Readable := by decide
  have hext : pages.PlainExtensions := by decide
  have hroot : mixedPages.hasDirectory pages.root := by decide
  obtain ⟨hload, hall, -⟩ := load_listed_iff_served htree hread hext
  refine ⟨htree, hread, hext, by decide, hroot, hload, ?_⟩
  rcases hall hroot with ⟨-, sources, hsources, -⟩ | hfailed
  · have herror : pages.loadAll mixedPages = .error (.missingDocument "README") := by decide
    rw [herror] at hsources
    cases hsources
  · exact hfailed

/-- Not every listed id is loaded. -/
theorem not_load_listed :
    ¬ ∀ (loader : Loader) (tree : FileTree), tree.Proper → tree.Readable → loader.extensions ≠ [] →
      (∀ ext ∈ loader.extensions, '.' ∉ ext.toList ∧ '/' ∉ ext.toList ∧
        SiteConfig.normalExtension ext = ext) →
      ∀ id ∈ loader.ids tree, ∃ source, loader.load tree id = .ok source := by
  intro h
  obtain ⟨source, hsource⟩ :=
    h pages mixedPages ⟨by decide, by decide⟩ (by decide) (by decide) (by decide)
    "README" (by decide)
  have herror : pages.load mixedPages "README" = .error (.missingDocument "README") := by decide
  rw [herror] at hsource
  cases hsource

end Folio.Site.Loader
