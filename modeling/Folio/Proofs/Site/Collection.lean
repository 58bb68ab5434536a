import Folio.Proofs.Assemble.Relocation
import Folio.Proofs.Dict
import Folio.Proofs.Site.Batch
import Folio.Proofs.Site.Loading
import Folio.Site.Collection

/-!
# All documents and one document

A collection compiles all its documents at once, in two batches: everything is loaded, and then
everything is compiled.  A single document is found by its id.  Both ways give the same documents
and succeed together, in whatever order the workers come to an end, on every disk that does not
change meanwhile.
-/

namespace Folio.Site

open Frontmatter

variable {workers : Nat} {disk : Disk}

/-! ## The two batches -/

namespace Loader

variable {loader : Loader} {ids : List String}

/-- Fetches a document and keeps its id with it. -/
def fetchEntry (loader : Loader) (disk : Disk) (id : String) : Except LoadError (String × Source) :=
  (loader.fetch disk id).map fun source => (id, source)

/-- The outcomes of loading all documents of a disk with a number of workers. -/
inductive LoadsTo (loader : Loader) (workers : Nat) (disk : Disk) :
    Except LoadError (List (String × Source)) → Prop
  | missingRoot : disk.hasDirectory loader.root = false →
      LoadsTo loader workers disk (.error (.missingRoot loader.root))
  | unlisted {error : LoadError} : disk.hasDirectory loader.root = true →
      loader.listIds disk = .error error → LoadsTo loader workers disk (.error error)
  | batch {ids : List String} {outcome : Except LoadError (List (String × Source))} :
      disk.hasDirectory loader.root = true → loader.listIds disk = .ok ids →
      Batch.Gives workers (loader.fetchEntry disk) ids outcome → LoadsTo loader workers disk outcome

theorem fetchEntry_eq_ok_iff {id : String} {loaded : String × Source} :
    loader.fetchEntry disk id = .ok loaded ↔
      loaded.1 = id ∧ loader.fetch disk id = .ok loaded.2 := by
  rw [fetchEntry, map_eq_ok_iff]
  constructor
  · rintro ⟨source, hfetch, rfl⟩
    exact ⟨rfl, hfetch⟩
  · rintro ⟨rfl, hfetch⟩
    exact ⟨loaded.2, hfetch, rfl⟩

/-- The ids are listed in strictly increasing order. -/
theorem pairwise_of_listIds (h : loader.listIds disk = .ok ids) : ids.Pairwise (· < ·) := by
  rw [listIds] at h
  split at h
  · split at h
    · cases h
      exact List.pairwise_map.2 (Dict.increasing _)
    · cases h
  · cases h
    exact .nil

/-- On a file tree the root can be listed, and gives the documents below it. -/
theorem exists_list_disk (loader : Loader) (tree : FileTree) :
    ∃ files, tree.disk.list loader.root (loader.kind == .docs) = .ok files ∧
      files.filter loader.isListed = loader.documents tree := by
  simp only [FileTree.disk, documents]
  cases tree.place? loader.root with
  | none => exact ⟨[], rfl, rfl⟩
  | some place =>
      refine ⟨_, rfl, ?_⟩
      rw [List.filter_filter]
      exact List.filter_congr fun names _ => Bool.and_comm _ _

/-- On a file tree the ids are those of the documents below the root. -/
theorem listIds_disk (loader : Loader) (tree : FileTree) :
    loader.listIds tree.disk = .ok (loader.ids tree) := by
  obtain ⟨files, hlist, hfiles⟩ := exists_list_disk loader tree
  have hroot : tree.disk.hasDirectory loader.root = tree.hasDirectory loader.root := rfl
  rw [listIds, ids, hroot, hlist]
  simp only [hfiles]
  split
  · rfl
  · rfl

/-- Loading one document after the other is one way to load a file tree. -/
theorem loadsTo_loadAll (hworkers : 0 < workers) (loader : Loader) (tree : FileTree) :
    loader.LoadsTo workers tree.disk (loader.loadAll tree) := by
  have hentry : (fun id => do return (id, ← loader.load tree id)) =
      loader.fetchEntry tree.disk := by
    funext id
    rw [fetchEntry, load]
    cases loader.fetch tree.disk id <;> rfl
  rw [loadAll]
  split
  · rename_i hroot
    rw [hentry]
    exact .batch hroot (listIds_disk loader tree) (Batch.gives_mapM hworkers _ _)
  · rename_i hroot
    exact .missingRoot (Bool.eq_false_iff.2 hroot)

/-- There is an outcome for every disk. -/
theorem exists_loadsTo (hworkers : 0 < workers) (loader : Loader) (disk : Disk) :
    ∃ outcome, loader.LoadsTo workers disk outcome := by
  cases hroot : disk.hasDirectory loader.root with
  | false => exact ⟨_, .missingRoot hroot⟩
  | true =>
      cases hids : loader.listIds disk with
      | error error => exact ⟨_, .unlisted hroot hids⟩
      | ok ids =>
          obtain ⟨outcome, hgives⟩ := Batch.exists_gives hworkers (loader.fetchEntry disk) ids
          exact ⟨outcome, .batch hroot hids hgives⟩

/-- If everything is loaded, then the root is there, it can be listed, and each id is there once
with what is fetched for it. -/
theorem of_loadsTo_ok {sources : List (String × Source)}
    (h : loader.LoadsTo workers disk (.ok sources)) :
    disk.hasDirectory loader.root = true ∧ ∃ ids, loader.listIds disk = .ok ids ∧
      (sources.map (·.1)).Perm ids ∧
      ∀ loaded ∈ sources, loader.fetch disk loaded.1 = .ok loaded.2 := by
  cases h with
  | @batch ids _ hroot hids hgives =>
      have hkeys : ∀ id loaded, loader.fetchEntry disk id = .ok loaded → loaded.1 = id :=
        fun id loaded hfetch => (fetchEntry_eq_ok_iff.1 hfetch).1
      have hperm := Batch.perm_of_gives_ok id hkeys hgives
      rw [List.map_id] at hperm
      refine ⟨hroot, ids, hids, hperm, fun loaded hm => ?_⟩
      obtain ⟨id, -, hfetch⟩ := Batch.exists_item_of_gives_ok hgives hm
      obtain ⟨rfl, hsource⟩ := fetchEntry_eq_ok_iff.1 hfetch
      exact hsource

/-- If loading fails, then the root is not there, or it cannot be listed, or some listed document
cannot be fetched. -/
theorem of_loadsTo_error {error : LoadError} (h : loader.LoadsTo workers disk (.error error)) :
    disk.hasDirectory loader.root = false ∨ loader.listIds disk = .error error ∨
      ∃ ids, loader.listIds disk = .ok ids ∧ ∃ id ∈ ids, loader.fetch disk id = .error error := by
  cases h with
  | missingRoot hroot => exact Or.inl hroot
  | unlisted _ hids => exact Or.inr (Or.inl hids)
  | @batch ids _ _ hids hgives =>
      obtain ⟨id, hm, herror⟩ := Batch.exists_of_gives_error hgives
      exact Or.inr (Or.inr ⟨ids, hids, id, hm, map_eq_error_iff.1 herror⟩)

end Loader

namespace Collection

variable {φ : Type} [Schema φ] {c : Collection}

/-- The outcomes of compiling all documents of a disk with a number of workers.  Nothing is compiled
before everything is loaded. -/
inductive CompilesTo (c : Collection) (workers : Nat) (disk : Disk) :
    Except LoadError (List (Entry φ)) → Prop
  | unloaded {error : LoadError} : c.loader.LoadsTo workers disk (.error error) →
      CompilesTo c workers disk (.error error)
  | batch {sources : List (String × Source)} {outcome : Except LoadError (List (Entry φ))} :
      c.loader.LoadsTo workers disk (.ok sources) →
      Batch.Gives workers c.compileEntry sources outcome → CompilesTo c workers disk outcome

/-- An error of the document with an id: it cannot be loaded, or it is loaded and cannot be
compiled. -/
def FailsOn (φ : Type) [Schema φ] (c : Collection) (disk : Disk) (id : String) (error : LoadError) :
    Prop :=
  c.loader.fetch disk id = .error error ∨
    ∃ source, c.loader.fetch disk id = .ok source ∧
      (c.compile id source : Except LoadError (Compiled φ)) = .error error

theorem compileEntry_eq_ok_iff {loaded : String × Source} {entry : Entry φ} :
    c.compileEntry loaded = .ok entry ↔
      entry.id = loaded.1 ∧ c.compile loaded.1 loaded.2 = .ok entry.document := by
  rw [compileEntry, map_eq_ok_iff]
  constructor
  · rintro ⟨document, hcompile, rfl⟩
    exact ⟨rfl, hcompile⟩
  · rintro ⟨hid, hcompile⟩
    refine ⟨entry.document, hcompile, ?_⟩
    rw [← hid]

/-- A document is found if it is fetched and compiled. -/
theorem findOn_eq_some_iff {id : String} {document : Compiled φ} :
    c.findOn disk id = .ok (some document) ↔
      ∃ source, c.loader.fetch disk id = .ok source ∧ c.compile id source = .ok document := by
  rw [findOn]
  cases hfetch : c.loader.fetch disk id with
  | error error =>
      constructor
      · intro h
        simp only at h
        split at h <;> cases h
      · rintro ⟨source, hsource, -⟩
        cases hsource
  | ok source =>
      simp only [map_eq_ok_iff, Option.some.injEq, Except.ok.injEq]
      constructor
      · rintro ⟨found, hcompile, rfl⟩
        exact ⟨source, rfl, hcompile⟩
      · rintro ⟨_, rfl, hcompile⟩
        exact ⟨document, hcompile, rfl⟩

/-- An id on which something fails finds no document. -/
theorem not_findOn_of_failsOn {id : String} {error : LoadError} (h : c.FailsOn φ disk id error) :
    ¬ ∃ document : Compiled φ, c.findOn disk id = .ok (some document) := by
  rintro ⟨document, hfind⟩
  obtain ⟨source, hfetch, hcompile⟩ := findOn_eq_some_iff.1 hfind
  rcases h with herror | ⟨other, hother, herror⟩
  · rw [hfetch] at herror
    cases herror
  · rw [hfetch] at hother
    cases hother
    rw [hcompile] at herror
    cases herror

/-! ## Outcomes -/

/-- Working on one document after the other is one way to compile a file tree. -/
theorem compilesTo_compileAll (hworkers : 0 < workers) (c : Collection) (tree : FileTree) :
    c.CompilesTo workers tree.disk (c.compileAll tree : Except LoadError (List (Entry φ))) := by
  have hloads := c.loader.loadsTo_loadAll hworkers tree
  rw [compileAll]
  cases hload : c.loader.loadAll tree with
  | error error =>
      rw [hload] at hloads
      exact .unloaded hloads
  | ok sources =>
      rw [hload] at hloads
      exact .batch hloads (Batch.gives_mapM hworkers _ sources)

theorem exists_compilesTo (hworkers : 0 < workers) (c : Collection) (disk : Disk) :
    ∃ outcome : Except LoadError (List (Entry φ)), c.CompilesTo workers disk outcome := by
  obtain ⟨loaded, hloads⟩ := c.loader.exists_loadsTo hworkers disk
  cases loaded with
  | error error => exact ⟨_, .unloaded hloads⟩
  | ok sources =>
      obtain ⟨outcome, hgives⟩ :=
        Batch.exists_gives hworkers (c.compileEntry (φ := φ)) sources
      exact ⟨outcome, .batch hloads hgives⟩

/-- If everything is compiled, then the root is there, it can be listed, and each id has one entry
with the document that is found for it. -/
theorem of_compilesTo_ok {entries : List (Entry φ)} (h : c.CompilesTo workers disk (.ok entries)) :
    disk.hasDirectory c.loader.root = true ∧ ∃ ids, c.loader.listIds disk = .ok ids ∧
      (entries.map (·.id)).Perm ids ∧
      ∀ entry ∈ entries, c.findOn disk entry.id = .ok (some entry.document) := by
  cases h with
  | @batch sources _ hloads hgives =>
      obtain ⟨hroot, ids, hids, hsources, hfetch⟩ := Loader.of_loadsTo_ok hloads
      have hkeys : ∀ loaded (entry : Entry φ), c.compileEntry loaded = .ok entry →
          entry.id = loaded.1 :=
        fun loaded entry hcompile => (compileEntry_eq_ok_iff.1 hcompile).1
      have hentries := Batch.perm_of_gives_ok Prod.fst hkeys hgives
      refine ⟨hroot, ids, hids, hentries.trans hsources, fun entry hm => ?_⟩
      obtain ⟨loaded, hloaded, hentry⟩ := Batch.exists_item_of_gives_ok hgives hm
      obtain ⟨hid, hcompile⟩ := compileEntry_eq_ok_iff.1 hentry
      rw [hid]
      exact findOn_eq_some_iff.2 ⟨loaded.2, hfetch loaded hloaded, hcompile⟩

/-- If not everything is compiled, then the root is not there, or it cannot be listed, or something
fails on a listed id. -/
theorem of_compilesTo_error {error : LoadError}
    (h : c.CompilesTo workers disk (.error error : Except LoadError (List (Entry φ)))) :
    disk.hasDirectory c.loader.root = false ∨ c.loader.listIds disk = .error error ∨
      ∃ ids, c.loader.listIds disk = .ok ids ∧ ∃ id ∈ ids, c.FailsOn φ disk id error := by
  cases h with
  | unloaded hloads =>
      rcases Loader.of_loadsTo_error hloads with hroot | hids | ⟨ids, hids, id, hm, hfetch⟩
      · exact Or.inl hroot
      · exact Or.inr (Or.inl hids)
      · exact Or.inr (Or.inr ⟨ids, hids, id, hm, Or.inl hfetch⟩)
  | @batch sources _ hloads hgives =>
      obtain ⟨-, ids, hids, hsources, hfetch⟩ := Loader.of_loadsTo_ok hloads
      obtain ⟨loaded, hm, herror⟩ := Batch.exists_of_gives_error hgives
      have hid : loaded.1 ∈ ids := hsources.subset (List.mem_map_of_mem hm)
      exact Or.inr (Or.inr ⟨ids, hids, loaded.1, hid,
        Or.inr ⟨loaded.2, hfetch loaded hm, map_eq_error_iff.1 herror⟩⟩)

/-- If the root is there and can be listed, then something fails on a listed id. -/
theorem exists_failsOn_of_compilesTo_error {ids : List String} {error : LoadError}
    (h : c.CompilesTo workers disk (.error error : Except LoadError (List (Entry φ))))
    (hroot : disk.hasDirectory c.loader.root = true) (hids : c.loader.listIds disk = .ok ids) :
    ∃ id ∈ ids, c.FailsOn φ disk id error := by
  rcases of_compilesTo_error h with hnone | hunlisted | ⟨others, hothers, hfails⟩
  · rw [hroot] at hnone
    cases hnone
  · rw [hids] at hunlisted
    cases hunlisted
  · rw [hids] at hothers
    cases hothers
    exact hfails

/-- On a disk that does not change, and with any number of workers in any order, compiling
everything has an outcome, and succeeds exactly if the root is there, it can be listed, and each
listed id finds a document.  Then each id has one entry, whose document is the one that the id
finds; else, if the root is there and can be listed, the error is that of loading or compiling a
listed id.  The ids are listed in strictly increasing order. -/
theorem compilesTo_iff_findOn (c : Collection) (disk : Disk) (hworkers : 0 < workers) :
    (∀ ids, c.loader.listIds disk = .ok ids → ids.Pairwise (· < ·)) ∧
    (∃ outcome : Except LoadError (List (Entry φ)), c.CompilesTo workers disk outcome) ∧
    ∀ outcome : Except LoadError (List (Entry φ)), c.CompilesTo workers disk outcome →
      ((∃ entries, outcome = .ok entries) ↔
        disk.hasDirectory c.loader.root = true ∧ ∃ ids, c.loader.listIds disk = .ok ids ∧
          ∀ id ∈ ids, ∃ document : Compiled φ, c.findOn disk id = .ok (some document)) ∧
      (∀ entries ids, outcome = .ok entries → c.loader.listIds disk = .ok ids →
        (entries.map (·.id)).Perm ids ∧
          ∀ entry ∈ entries, c.findOn disk entry.id = .ok (some entry.document)) ∧
      ∀ error ids, outcome = .error error → disk.hasDirectory c.loader.root = true →
        c.loader.listIds disk = .ok ids → ∃ id ∈ ids, c.FailsOn φ disk id error := by
  refine ⟨fun ids => Loader.pairwise_of_listIds, exists_compilesTo hworkers c disk,
    fun outcome hcompiles => ⟨⟨?_, ?_⟩, ?_, ?_⟩⟩
  · rintro ⟨entries, rfl⟩
    obtain ⟨hroot, ids, hids, hperm, hfind⟩ := of_compilesTo_ok hcompiles
    refine ⟨hroot, ids, hids, fun id hm => ?_⟩
    obtain ⟨entry, hentry, rfl⟩ := List.mem_map.1 (hperm.mem_iff.2 hm)
    exact ⟨entry.document, hfind entry hentry⟩
  · rintro ⟨hroot, ids, hids, hfound⟩
    cases outcome with
    | ok entries => exact ⟨entries, rfl⟩
    | error error =>
        -- The id on which it failed would find no document.
        obtain ⟨id, hm, hfails⟩ := exists_failsOn_of_compilesTo_error hcompiles hroot hids
        exact (not_findOn_of_failsOn hfails (hfound id hm)).elim
  · rintro entries ids rfl hids
    obtain ⟨-, listed, hlisted, hperm, hfind⟩ := of_compilesTo_ok hcompiles
    rw [hids] at hlisted
    cases hlisted
    exact ⟨hperm, hfind⟩
  · rintro error ids rfl hroot hids
    exact exists_failsOn_of_compilesTo_error hcompiles hroot hids

/-- Two pages, one of them the index of its directory. -/
def twoPages : FileTree :=
  ⟨[(["r", "a", "index.mdx"], .file (some "---\ntitle: a\ndescription: b\n---\nc\n")),
    (["r", "b.md"], .file (some "---\ntitle: d\ndescription: e\n---\n"))]⟩

/-- The pages below a directory, compiled by an assembler that knows no component. -/
def bareCollection : Collection :=
  ⟨Loader.pages, bareAssembler⟩

theorem compilesTo_twoPages : 0 < 2 ∧
    bareCollection.CompilesTo 2 twoPages.disk (bareCollection.compileAll (φ := Page) twoPages) ∧
    ∀ outcome : Except LoadError (List (Entry Page)),
      bareCollection.CompilesTo 2 twoPages.disk outcome → ∃ entries, outcome = .ok entries ∧
        (entries.map (·.id)).Perm ["a", "b"] ∧
        ∀ entry ∈ entries,
          bareCollection.findOn twoPages.disk entry.id = .ok (some entry.document) := by
  have hworkers : 0 < 2 := by decide
  have hroot : twoPages.disk.hasDirectory bareCollection.loader.root = true := by decide
  have hids : bareCollection.loader.listIds twoPages.disk = .ok ["a", "b"] := by decide
  have hfound : ∀ id ∈ ["a", "b"], ∃ document : Compiled Page,
      bareCollection.findOn twoPages.disk id = .ok (some document) := by
    have hsome : ∀ id ∈ ["a", "b"],
        (bareCollection.findOn (φ := Page) twoPages.disk id).map Option.isSome = .ok true := by
      decide +kernel
    intro id hm
    obtain ⟨found, hfind, hfound⟩ := map_eq_ok_iff.1 (hsome id hm)
    obtain ⟨document, rfl⟩ := Option.isSome_iff_exists.1 hfound.symm
    exact ⟨document, hfind⟩
  obtain ⟨-, -, hall⟩ :=
    compilesTo_iff_findOn (φ := Page) bareCollection twoPages.disk hworkers
  refine ⟨hworkers, compilesTo_compileAll hworkers bareCollection twoPages, fun outcome h => ?_⟩
  obtain ⟨hok, hentries, -⟩ := hall outcome h
  obtain ⟨entries, rfl⟩ := hok.2 ⟨hroot, _, hids, hfound⟩
  obtain ⟨hperm, hfind⟩ := hentries entries _ rfl hids
  exact ⟨entries, rfl, hperm, hfind⟩

end Collection

end Folio.Site
