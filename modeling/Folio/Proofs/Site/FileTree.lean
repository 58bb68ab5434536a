import Folio.Proofs.Site.Path
import Folio.Site.FileTree

/-!
# Paths in a file tree

In a tree whose places are made of names, a path of names behind a path to a directory leads to the
place that the names make, and to a file exactly if the file is listed below the directory.
-/

namespace Folio.Site.FileTree

/-- Places are made of names, and one thing is at each. -/
structure Proper (tree : FileTree) : Prop where
  isName : ∀ entry ∈ tree.entries, ∀ name ∈ entry.1, IsName name
  nodup : (tree.entries.map (·.1)).Nodup

/-- All files are texts. -/
def Readable (tree : FileTree) : Prop :=
  ∀ entry ∈ tree.entries, entry.2 ≠ .file none

instance (tree : FileTree) : Decidable tree.Readable :=
  inferInstanceAs (Decidable (∀ entry ∈ tree.entries, entry.2 ≠ .file none))

variable {tree : FileTree} {place names : List String}

/-! ## Entries -/

/-- The place of what is below a directory. -/
theorem isPrefixOf_append : place.isPrefixOf (place ++ names) = true :=
  List.isPrefixOf_iff_prefix.2 (List.prefix_append place names)

theorem length_lt_append (hne : names ≠ []) : place.length < (place ++ names).length := by
  have hpos := List.length_pos_iff.2 hne
  rw [List.length_append]
  omega

theorem isDirectory_of_mem {item : Item} (hm : (place ++ names, item) ∈ tree.entries)
    (hne : names ≠ []) : tree.isDirectory place := by
  simp only [isDirectory, Bool.or_eq_true, List.any_eq_true]
  refine .inr ⟨_, hm, ?_⟩
  simp only [isPrefixOf_append, length_lt_append hne, decide_true, Bool.true_or, Bool.and_true]

theorem mem_of_file? {text : Option String} (h : tree.file? place = some text) :
    (place, .file text) ∈ tree.entries := by
  unfold file? at h
  split at h
  · rename_i other found hfind
    cases h
    have hplace : other = place := by simpa using List.find?_some hfind
    rw [← hplace]
    exact List.mem_of_find?_eq_some hfind
  · cases h

/-- A file is found at its place. -/
theorem file?_eq_some_iff (htree : tree.Proper) {text : Option String} :
    tree.file? place = some text ↔ (place, .file text) ∈ tree.entries := by
  constructor
  · exact mem_of_file?
  · intro hm
    obtain ⟨before, after, hentries⟩ := List.append_of_mem hm
    have hnodup := htree.nodup
    rw [hentries, List.map_append, List.map_cons, List.nodup_append] at hnodup
    have hbefore : ∀ entry ∈ before, ¬ (entry.1 == place) = true := by
      intro entry hentry heq
      exact hnodup.2.2 _ (List.mem_map_of_mem hentry) _ List.mem_cons_self (by simpa using heq)
    have hfind : tree.entries.find? (·.1 == place) = some (place, .file text) := by
      rw [hentries, List.find?_append, List.find?_eq_none.2 hbefore, Option.none_or,
        List.find?_cons_of_pos (by simp)]
    rw [file?, hfind]

/-- A file that is listed below a directory. -/
theorem mem_filesBelow : names ∈ tree.filesBelow place ↔
    names ≠ [] ∧ ∃ text, (place ++ names, .file text) ∈ tree.entries := by
  unfold filesBelow
  rw [List.mem_filterMap]
  constructor
  · rintro ⟨⟨other, item⟩, hm, hnames⟩
    by_cases hbelow :
        (place.isPrefixOf other && item != .directory && place.length < other.length) = true
    · simp only [if_pos hbelow] at hnames
      simp only [Bool.and_eq_true, List.isPrefixOf_iff_prefix, bne_iff_ne, decide_eq_true_eq]
        at hbelow
      obtain ⟨⟨⟨rest, rfl⟩, hfile⟩, hlength⟩ := hbelow
      rw [List.drop_left] at hnames
      cases hnames
      refine ⟨fun hnil => ?_, ?_⟩
      · rw [hnil, List.append_nil] at hlength
        exact lt_irrefl _ hlength
      · cases item with
        | directory => exact (hfile rfl).elim
        | file text => exact ⟨text, hm⟩
    · simp only [if_neg hbelow] at hnames
      cases hnames
  · rintro ⟨hne, text, hm⟩
    refine ⟨_, hm, ?_⟩
    have hbelow : (place.isPrefixOf (place ++ names) && Item.file text != .directory &&
        place.length < (place ++ names).length) = true := by
      simp only [isPrefixOf_append, length_lt_append hne, decide_true, Bool.and_true, Bool.true_and]
      rfl
    simp only [if_pos hbelow, List.drop_left]

theorem isName_of_mem_filesBelow (htree : tree.Proper) (hm : names ∈ tree.filesBelow place) :
    ∀ name ∈ names, IsName name := by
  obtain ⟨-, text, hentry⟩ := mem_filesBelow.1 hm
  exact fun name hname => htree.isName _ hentry name (List.mem_append_right place hname)

/-! ## Steps -/

/-- A name leads one step down. -/
theorem step_isName {name : String} (h : IsName name) (hdir : tree.isDirectory place) :
    tree.step place name.toList = some (place ++ [name]) := by
  have hparent : name.toList ≠ ['.', '.'] := by
    intro hdots
    exact h.2.2.1 (String.toList_inj.1 hdots)
  rw [step, hdir, if_neg (by decide), if_neg (not_or.2 ⟨h.toList_ne_nil, h.toList_ne_current⟩),
    if_neg hparent, String.ofList_toList]

/-- Names lead to the place that they make, if they lead anywhere. -/
theorem eq_of_foldlM_step (h : ∀ name ∈ names, IsName name) {found : List String}
    (hfound : (names.map String.toList).foldlM tree.step place = some found) :
    found = place ++ names := by
  induction names generalizing place with
  | nil =>
      cases hfound
      rw [List.append_nil]
  | cons name names ih =>
      rw [List.forall_mem_cons] at h
      rw [List.map_cons, List.foldlM_cons] at hfound
      obtain ⟨next, hnext, hfound⟩ := Option.bind_eq_some_iff.1 hfound
      have hdir : tree.isDirectory place := by
        by_contra hno
        rw [step, if_pos (by simpa using hno)] at hnext
        cases hnext
      rw [step_isName h.1 hdir] at hnext
      cases hnext
      rw [ih h.2 hfound, List.append_assoc, List.singleton_append]

/-- Names lead to a file that is listed below a directory. -/
theorem foldlM_step_of_mem {item : Item} (hm : (place ++ names, item) ∈ tree.entries)
    (h : ∀ name ∈ names, IsName name) :
    (names.map String.toList).foldlM tree.step place = some (place ++ names) := by
  induction names generalizing place with
  | nil => rw [List.append_nil]; rfl
  | cons name names ih =>
      rw [List.forall_mem_cons] at h
      have hdir : tree.isDirectory place := isDirectory_of_mem hm (List.cons_ne_nil _ _)
      have happend : place ++ name :: names = place ++ [name] ++ names := by simp
      rw [happend] at hm ⊢
      rw [List.map_cons, List.foldlM_cons, step_isName h.1 hdir]
      exact ih hm h.2

/-! ## Paths -/

/-- A path that leads somewhere is relative and says something. -/
theorem head?_of_place? {base : String} (h : tree.place? base = some place) :
    ∃ c cs, base.toList = c :: cs ∧ c ≠ '/' := by
  rw [place?] at h
  split at h
  · cases h
  · rename_i hrelative
    rw [Bool.or_eq_true, not_or, String.isEmpty_iff] at hrelative
    obtain ⟨hne, habsolute⟩ := hrelative
    cases hbase : base.toList with
    | nil => exact (hne (String.toList_eq_nil_iff.1 hbase)).elim
    | cons c cs =>
        refine ⟨c, cs, rfl, ?_⟩
        rintro rfl
        exact habsolute (by rw [isAbsolute, hbase]; rfl)

/-- The segments of a path lead to its place. -/
theorem place?_eq {base : String} {c : Char} {cs : List Char} (hbase : base.toList = c :: cs)
    (hc : c ≠ '/') : tree.place? base = (segments base.toList).foldlM tree.step [] := by
  rw [place?, isEmpty_of_cons hbase, isAbsolute_of_cons hbase hc]
  rfl

theorem eq_of_step_nil {found : List String} (h : tree.step place [] = some found) :
    found = place := by
  rw [step] at h
  split at h
  · cases h
  · exact (Option.some.inj h).symm

/-- What stands before a last slash leads where the path does. -/
theorem foldlM_step_of_lastSlash {front : List Char}
    (h : (segments (front ++ ['/'])).foldlM tree.step [] = some place) :
    (segments front).foldlM tree.step [] = some place := by
  rw [segments_append_slash, List.foldlM_append] at h
  obtain ⟨middle, hmiddle, hlast⟩ := Option.bind_eq_some_iff.1 h
  have hstep : (tree.step middle []).bind some = some place := hlast
  rw [Option.bind_fun_some] at hstep
  rw [eq_of_step_nil hstep, hmiddle]

/-- What a base puts before the slash that a relative path follows leads where the base does. -/
theorem exists_front_of_place? {base path : String} (hbase : tree.place? base = some place)
    (hpath : isAbsolute path = false) : ∃ c cs, c ≠ '/' ∧
      (join base path).toList = c :: cs ++ '/' :: path.toList ∧
      (segments (c :: cs)).foldlM tree.step [] = some place := by
  obtain ⟨c, cs, hcs, hc⟩ := head?_of_place? hbase
  rw [place?_eq hcs hc] at hbase
  refine ⟨c, ?_⟩
  rw [join, hpath, isEmpty_of_cons hcs, Bool.or_false, if_neg (by decide)]
  by_cases hlast : base.toList.getLast? = some '/'
  · obtain ⟨front, hfront⟩ := List.getLast?_eq_some_iff.1 hlast
    obtain ⟨init, rfl⟩ : ∃ init, front = c :: init := by
      rw [hcs] at hfront
      cases front with
      | nil =>
          cases hfront
          exact (hc rfl).elim
      | cons d init =>
          cases hfront
          exact ⟨init, rfl⟩
    rw [hfront] at hbase
    refine ⟨init, hc, ?_, foldlM_step_of_lastSlash hbase⟩
    rw [if_pos hlast, String.toList_append, hfront, List.append_assoc]
    rfl
  · rw [hcs] at hbase
    refine ⟨cs, hc, ?_, hbase⟩
    rw [if_neg hlast, String.toList_append, String.toList_append, hcs]
    simp

/-- A path behind another one is read from where that leads. -/
theorem place?_join {base path : String} (hbase : tree.place? base = some place)
    (hpath : isAbsolute path = false) :
    tree.place? (join base path) = (segments path.toList).foldlM tree.step place := by
  obtain ⟨c, cs, hc, hjoin, hfront⟩ := exists_front_of_place? hbase hpath
  rw [place?_eq hjoin hc, hjoin, segments_append_slash, List.foldlM_append, hfront]
  rfl

section

variable {base : String} (htree : tree.Proper) (hbase : tree.place? base = some place)
  (hne : names ≠ []) (hnames : ∀ name ∈ names, IsName name)
include hbase hne hnames

/-- A path of names is read name by name. -/
theorem place?_joined : tree.place? (join base (joined names)) =
    (names.map String.toList).foldlM tree.step place := by
  rw [place?_join hbase (isAbsolute_joined hne hnames),
    segments_joined hne fun name hm => (hnames name hm).2.2.2]

/-- A file that a path of names leads to is at the place that they make. -/
theorem mem_of_file?_joined {text : Option String}
    (h : (tree.place? (join base (joined names))).bind tree.file? = some text) :
    (place ++ names, .file text) ∈ tree.entries := by
  rw [place?_joined hbase hne hnames] at h
  obtain ⟨found, hfound, hfile⟩ := Option.bind_eq_some_iff.1 h
  rw [eq_of_foldlM_step hnames hfound] at hfile
  exact mem_of_file? hfile

include htree in
theorem file?_joined_of_mem {text : Option String}
    (hm : (place ++ names, .file text) ∈ tree.entries) :
    (tree.place? (join base (joined names))).bind tree.file? = some text := by
  rw [place?_joined hbase hne hnames, foldlM_step_of_mem hm hnames]
  exact (file?_eq_some_iff htree).2 hm

include htree in
/-- A path of names leads to a file exactly if it is listed. -/
theorem hasFile_joined_iff :
    tree.hasFile (join base (joined names)) ↔ names ∈ tree.filesBelow place := by
  rw [hasFile, Option.isSome_iff_exists, mem_filesBelow]
  constructor
  · rintro ⟨text, htext⟩
    exact ⟨hne, text, mem_of_file?_joined hbase hne hnames htext⟩
  · rintro ⟨-, text, hm⟩
    exact ⟨text, file?_joined_of_mem htree hbase hne hnames hm⟩

end

/-- A file that a path leads to is read if all files are texts. -/
theorem exists_read? (hread : tree.Readable) {path : String} (hfile : tree.hasFile path) :
    ∃ text, tree.read? path = some text := by
  obtain ⟨text, htext⟩ := Option.isSome_iff_exists.1 hfile
  obtain ⟨found, -, hfound⟩ := Option.bind_eq_some_iff.1 htext
  cases text with
  | none => exact (hread _ (mem_of_file? hfound) rfl).elim
  | some text => exact ⟨text, by rw [read?, htext]; rfl⟩

end Folio.Site.FileTree
