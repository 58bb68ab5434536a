import Folio.Proofs.Date.Order
import Folio.Proofs.Site.Collection
import Mathlib.Data.List.Rotate
import Mathlib.Data.String.Basic

/-!
# The order of posts

Posts are listed from the newest to the oldest, and those of one day by their ids.  The two keys run
in opposite directions, but together they compare any two posts, and no two posts of a collection
have the same id.  So there is one list in this order, however the posts come in.
-/

namespace Folio.Site

open Frontmatter

/-- The day of a post and its id, the later day first. -/
def Entry.rank (entry : Entry Post) : (ℤ ×ₗ ℕ ×ₗ ℕ)ᵒᵈ ×ₗ String :=
  toLex (.toDual entry.document.record.date.rank, entry.id)

/-- A post comes before another one: it is of a later day, or of the same day with a smaller id. -/
def Entry.Precedes (a b : Entry Post) : Prop :=
  b.document.record.date.isBefore a.document.record.date = true ∨
    a.document.record.date = b.document.record.date ∧ a.id < b.id

instance (a b : Entry Post) : Decidable (a.Precedes b) :=
  inferInstanceAs (Decidable (_ ∨ _))

theorem Entry.precedes_iff_rank_lt {a b : Entry Post} : a.Precedes b ↔ a.rank < b.rank := by
  rw [rank, rank, Prod.Lex.toLex_lt_toLex, OrderDual.toDual_lt_toDual, OrderDual.toDual_inj,
    Date.rank_injective.eq_iff, ← Date.isBefore_iff_rank_lt]
  rfl

theorem isListedBefore_iff_rank_le {a b : Entry Post} :
    isListedBefore a b = true ↔ a.rank ≤ b.rank := by
  rw [Entry.rank, Entry.rank, Prod.Lex.toLex_le_toLex, OrderDual.toDual_lt_toDual,
    OrderDual.toDual_inj, Date.rank_injective.eq_iff, ← Date.isBefore_iff_rank_lt]
  simp [isListedBefore]

theorem Entry.id_eq_of_rank_eq {a b : Entry Post} (h : a.rank = b.rank) : a.id = b.id :=
  congrArg (fun rank => (ofLex rank).2) h

/-- Sorted posts are in order, where posts of the same rank may stand either way. -/
theorem pairwise_rank_le_newestFirst (entries : List (Entry Post)) :
    (newestFirst entries).Pairwise fun a b => a.rank ≤ b.rank := by
  have htrans : ∀ a b c : Entry Post, isListedBefore a b = true → isListedBefore b c = true →
      isListedBefore a c = true := by
    intro a b c hab hbc
    rw [isListedBefore_iff_rank_le] at hab hbc ⊢
    exact hab.trans hbc
  have htotal : ∀ a b : Entry Post, (isListedBefore a b || isListedBefore b a) = true := by
    intro a b
    rw [Bool.or_eq_true, isListedBefore_iff_rank_le, isListedBefore_iff_rank_le]
    exact le_total a.rank b.rank
  exact (List.pairwise_mergeSort htrans htotal entries).imp isListedBefore_iff_rank_le.1

theorem perm_newestFirst (entries : List (Entry Post)) : (newestFirst entries).Perm entries :=
  List.mergeSort_perm entries isListedBefore

/-- Posts with different ids are in strict order. -/
theorem pairwise_precedes_newestFirst {entries : List (Entry Post)}
    (hids : (entries.map Entry.id).Nodup) : (newestFirst entries).Pairwise Entry.Precedes := by
  have hsorted : ((newestFirst entries).map Entry.id).Nodup :=
    ((perm_newestFirst entries).map Entry.id).nodup_iff.2 hids
  refine ((pairwise_rank_le_newestFirst entries).and (List.pairwise_map.1 hsorted)).imp ?_
  rintro a b ⟨hle, hne⟩
  exact Entry.precedes_iff_rank_lt.2 (hle.lt_of_ne fun h => hne (Entry.id_eq_of_rank_eq h))

/-- There is one way to put the same posts in strict order. -/
theorem eq_of_perm_of_precedes {entries entries' : List (Entry Post)}
    (hperm : entries.Perm entries') (h : entries.Pairwise Entry.Precedes)
    (h' : entries'.Pairwise Entry.Precedes) :
    entries = entries' := by
  refine hperm.eq_of_pairwise (fun a b _ _ hab hba => ?_) h h'
  rw [Entry.precedes_iff_rank_lt] at hab hba
  exact (hab.asymm hba).elim

/-- The same posts are sorted into the same list. -/
theorem newestFirst_congr {entries entries' : List (Entry Post)}
    (hids : (entries.map Entry.id).Nodup) (hperm : entries.Perm entries') :
    newestFirst entries' = newestFirst entries := by
  have hids' : (entries'.map Entry.id).Nodup := (hperm.map Entry.id).nodup_iff.1 hids
  have hsorted : (newestFirst entries').Perm (newestFirst entries) :=
    (perm_newestFirst entries').trans (hperm.symm.trans (perm_newestFirst entries).symm)
  exact eq_of_perm_of_precedes hsorted (pairwise_precedes_newestFirst hids')
    (pairwise_precedes_newestFirst hids)

/-- A list that has the same posts in strict order is the sorted list. -/
theorem newestFirst_eq_of_precedes {entries sorted : List (Entry Post)}
    (hperm : sorted.Perm entries) (h : sorted.Pairwise Entry.Precedes)
    (hids : (entries.map Entry.id).Nodup) : newestFirst entries = sorted :=
  eq_of_perm_of_precedes ((perm_newestFirst entries).trans hperm.symm)
    (pairwise_precedes_newestFirst hids) h

/-! ## Batches of posts -/

section

variable {c : Collection} {disk : Disk} {entries entries' : List (Entry Post)}

/-- Where entries have the documents that their ids find, an entry is determined by its id. -/
theorem mem_of_found (hids : (entries.map Entry.id).Perm (entries'.map Entry.id))
    (hfind : ∀ entry ∈ entries, c.findOn disk entry.id = .ok (some entry.document))
    (hfind' : ∀ entry ∈ entries', c.findOn disk entry.id = .ok (some entry.document))
    {entry : Entry Post} (hm : entry ∈ entries) : entry ∈ entries' := by
  have hid : entry.id ∈ entries'.map Entry.id := hids.subset (List.mem_map_of_mem hm)
  obtain ⟨other, hother, heq⟩ := List.mem_map.1 hid
  have hfound := hfind' other hother
  rw [heq, hfind entry hm] at hfound
  have hdocument : entry.document = other.document := by simpa using hfound
  have hsame : entry = other := by
    cases entry
    cases other
    simp_all
  rwa [hsame]

/-- However the workers come to an end, the posts of a collection are published in one order. -/
theorem newestFirst_eq_of_compilesTo {workers workers' : Nat}
    (h : c.CompilesTo workers disk (.ok entries)) (h' : c.CompilesTo workers' disk (.ok entries')) :
    newestFirst entries' = newestFirst entries := by
  obtain ⟨-, ids, hids, hperm, hfind⟩ := Collection.of_compilesTo_ok h
  obtain ⟨-, ids', hids', hperm', hfind'⟩ := Collection.of_compilesTo_ok h'
  rw [hids] at hids'
  cases hids'
  have hdistinct : ids.Nodup := (Loader.pairwise_of_listIds hids).imp String.ne_of_lt
  have hnodup : (entries.map Entry.id).Nodup := hperm.nodup_iff.2 hdistinct
  have hnodup' : (entries'.map Entry.id).Nodup := hperm'.nodup_iff.2 hdistinct
  have hsame : (entries.map Entry.id).Perm (entries'.map Entry.id) := hperm.trans hperm'.symm
  refine newestFirst_congr hnodup ?_
  refine (List.perm_ext_iff_of_nodup (.of_map _ hnodup) (.of_map _ hnodup')).2 fun entry => ?_
  exact ⟨mem_of_found hsame hfind hfind', mem_of_found hsame.symm hfind' hfind⟩

end

/-! ## The order -/

/-- Posts with different ids have one order, however they come in: sorting gives the same list,
which has the same posts, and in which each post is followed only by posts of an earlier day, or of
the same day with a greater id. -/
theorem newestFirst_of_perm {entries entries' : List (Entry Post)}
    (hids : (entries.map Entry.id).Nodup) (hperm : entries.Perm entries') :
    newestFirst entries' = newestFirst entries ∧ (newestFirst entries).Perm entries ∧
      (newestFirst entries).Pairwise fun post later =>
        later.document.record.date.isBefore post.document.record.date = true ∨
          later.document.record.date = post.document.record.date ∧ post.id < later.id := by
  refine ⟨newestFirst_congr hids hperm, perm_newestFirst entries, ?_⟩
  refine (pairwise_precedes_newestFirst hids).imp ?_
  rintro post later (hnewer | ⟨hday, hid⟩)
  · exact Or.inl hnewer
  · exact Or.inr ⟨hday.symm, hid⟩

/-- A post without a text. -/
def barePost (id : String) (date : Date) : Entry Post :=
  ⟨id, ⟨⟨id, "", date, []⟩, [], []⟩⟩

/-- Three posts, two of them of the last day of a leap year's February. -/
def threePosts : List (Entry Post) :=
  [barePost "b" ⟨2024, 2, 29, by decide⟩, barePost "c" ⟨2023, 12, 31, by decide⟩,
    barePost "a" ⟨2024, 2, 29, by decide⟩]

theorem newestFirst_of_reversedPosts : (threePosts.map Entry.id).Nodup ∧
    threePosts.Perm threePosts.reverse ∧
    (newestFirst threePosts.reverse).map Entry.id = ["a", "b", "c"] := by
  have hids : (threePosts.map Entry.id).Nodup := by decide
  have hperm : threePosts.Perm threePosts.reverse := (List.reverse_perm threePosts).symm
  obtain ⟨hsame, -, -⟩ := newestFirst_of_perm hids hperm
  have hsorted : newestFirst threePosts = threePosts.rotate 2 :=
    newestFirst_eq_of_precedes (List.rotate_perm threePosts 2) (by decide) hids
  refine ⟨hids, hperm, ?_⟩
  rw [hsame, hsorted]
  rfl

end Folio.Site
