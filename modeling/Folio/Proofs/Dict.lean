import Folio.Dict
import Mathlib.Data.List.Induction
import Mathlib.Data.List.Nodup

/-!
# Dictionaries with the same values

A dictionary is determined by the values of its names, because its entries are in the order of
their names.  So changes to different names may be made in any order.
-/

namespace Folio.Dict

variable {α : Type}

/-- In a list in strictly increasing order of names an entry is the first one with its name. -/
theorem find?_of_mem {l : List (String × α)} (hl : l.Pairwise fun a b => a.1 < b.1)
    {name : String} {value : α} (hm : (name, value) ∈ l) :
    l.find? (·.1 == name) = some (name, value) := by
  induction l with
  | nil => cases hm
  | cons entry l ih =>
      rw [List.pairwise_cons] at hl
      rcases List.mem_cons.1 hm with rfl | hm
      · exact List.find?_cons_of_pos (by simp)
      · have hlt : entry.1 < name := hl.1 (name, value) hm
        have hne : (entry.1 == name) = false := by
          rw [beq_eq_false_iff_ne]
          intro he
          rw [he] at hlt
          exact String.lt_irrefl name hlt
        rw [List.find?_cons_of_neg (by rw [hne]; decide)]
        exact ih hl.2 hm

/-- An entry is listed exactly if its name has its value. -/
theorem mem_entries_iff (d : Dict α) {name : String} {value : α} :
    (name, value) ∈ d.entries ↔ d.get? name = some value := by
  constructor
  · intro hm
    rw [get?, find?_of_mem d.increasing hm]
    rfl
  · intro hvalue
    obtain ⟨⟨other, found⟩, hfind, heq⟩ := Option.map_eq_some_iff.1 hvalue
    have hname : other = name := by simpa using List.find?_some hfind
    have hfound : found = value := heq
    rw [← hname, ← hfound]
    exact List.mem_of_find?_eq_some hfind

/-- A name is listed exactly if it has a value. -/
theorem mem_names_iff (d : Dict α) {name : String} :
    name ∈ d.entries.map (·.1) ↔ ∃ value, d.get? name = some value := by
  rw [List.mem_map]
  constructor
  · rintro ⟨⟨other, value⟩, hm, rfl⟩
    exact ⟨value, (mem_entries_iff d).1 hm⟩
  · rintro ⟨value, hvalue⟩
    exact ⟨(name, value), (mem_entries_iff d).2 hvalue, rfl⟩

theorem mem_names_insert (d : Dict α) {name other : String} {value : α} :
    name ∈ (d.insert other value).entries.map (·.1) ↔
      name ∈ d.entries.map (·.1) ∨ name = other := by
  rw [mem_names_iff, mem_names_iff, get?_insert]
  by_cases h : other = name
  · simp [h]
  · simp [h, Ne.symm h]

/-- No entry is listed twice. -/
theorem nodup_entries (d : Dict α) : d.entries.Nodup := by
  refine d.increasing.imp fun {a b} hlt he => ?_
  rw [he] at hlt
  exact String.lt_irrefl b.1 hlt

/-- Dictionaries that give each name the same value are equal. -/
theorem ext_get? {d e : Dict α} (h : ∀ name, d.get? name = e.get? name) : d = e := by
  have hmem : ∀ entry, entry ∈ d.entries ↔ entry ∈ e.entries := by
    rintro ⟨name, value⟩
    rw [mem_entries_iff, mem_entries_iff, h name]
  have hperm : d.entries.Perm e.entries :=
    (List.perm_ext_iff_of_nodup d.nodup_entries e.nodup_entries).2 hmem
  -- Both lists are in the same strict order, so they are the same list.
  refine ext (hperm.eq_of_pairwise (fun a b _ _ hab hba => ?_) d.increasing e.increasing)
  exact (String.lt_irrefl a.1 (String.lt_trans hab hba)).elim

/-- Two names may be set in either order. -/
theorem insert_comm (d : Dict α) {first second : String} (hne : first ≠ second) (a b : α) :
    (d.insert first a).insert second b = (d.insert second b).insert first a := by
  apply ext_get?
  intro name
  rw [get?_insert, get?_insert, get?_insert, get?_insert]
  by_cases hfirst : first = name
  · have hsecond : second ≠ name := fun he => hne (hfirst.trans he.symm)
    rw [if_neg hsecond, if_pos hfirst, if_pos hfirst]
  · rw [if_neg hfirst, if_neg hfirst]

/-- One name may be dropped and another one set in either order. -/
theorem erase_insert_comm (d : Dict α) {first second : String} (hne : first ≠ second) (a : α) :
    (d.insert first a).erase second = (d.erase second).insert first a := by
  apply ext_get?
  intro name
  rw [get?_insert, get?_erase, get?_erase, get?_insert]
  by_cases hfirst : first = name
  · have hsecond : second ≠ name := fun he => hne (hfirst.trans he.symm)
    rw [if_neg hsecond, if_pos hfirst, if_pos hfirst]
  · rw [if_neg hfirst, if_neg hfirst]

/-- Setting a name that is dropped afterwards makes no difference. -/
theorem erase_insert_self (d : Dict α) (name : String) (value : α) :
    (d.insert name value).erase name = d.erase name := by
  apply ext_get?
  intro other
  rw [get?_erase, get?_erase, get?_insert]
  by_cases h : name = other
  · rw [if_pos h, if_pos h]
  · rw [if_neg h, if_neg h, if_neg h]

/-- Dropping a name again makes no difference. -/
theorem erase_erase_self (d : Dict α) (name : String) :
    (d.erase name).erase name = d.erase name := by
  apply ext_get?
  intro other
  rw [get?_erase, get?_erase]
  by_cases h : name = other
  · rw [if_pos h, if_pos h]
  · rw [if_neg h]

/-- The names of a dictionary that is made from a list of entries are those of the entries. -/
theorem mem_names_ofList {l : List (String × α)} {name : String} :
    name ∈ (ofList l).entries.map (·.1) ↔ name ∈ l.map (·.1) := by
  have hfold : ∀ (d : Dict α), name ∈ (l.foldl (fun d e => d.insert e.1 e.2) d).entries.map (·.1) ↔
      name ∈ d.entries.map (·.1) ∨ name ∈ l.map (·.1) := by
    induction l with
    | nil => simp
    | cons entry l ih =>
        intro d
        rw [List.foldl_cons, ih, mem_names_insert, List.map_cons, List.mem_cons, or_assoc]
  have hempty : name ∉ (empty : Dict α).entries.map (·.1) := List.not_mem_nil
  rw [ofList, hfold, or_iff_right hempty]

/-- Of the entries with one name the last one counts. -/
theorem get?_ofList (l : List (String × α)) (name : String) :
    (ofList l).get? name = l.reverse.lookup name := by
  induction l using List.reverseRecOn with
  | nil => rfl
  | append_singleton l entry ih =>
      obtain ⟨key, value⟩ := entry
      have hlast : ofList (l ++ [(key, value)]) = (ofList l).insert key value := by
        rw [ofList, List.foldl_concat]
        rfl
      rw [hlast, get?_insert, ih, List.reverse_concat, List.lookup_cons]
      by_cases h : key = name
      · simp [h]
      · have hne : (name == key) = false := beq_eq_false_iff_ne.2 (Ne.symm h)
        rw [if_neg h, hne]

/-- No name is listed twice. -/
theorem nodup_names (d : Dict α) : (d.entries.map Prod.fst).Nodup := by
  refine (List.pairwise_map.2 d.increasing).imp fun {a b} hlt he => ?_
  rw [he] at hlt
  exact String.lt_irrefl b hlt

/-- In a list without two entries for one name each entry is found under its name. -/
theorem lookup_eq_some_iff_mem {l : List (String × α)} (hl : (l.map Prod.fst).Nodup)
    {name : String} {value : α} : l.lookup name = some value ↔ (name, value) ∈ l := by
  constructor
  · intro h
    obtain ⟨before, after, rfl, -⟩ := List.lookup_eq_some_iff.1 h
    exact List.mem_append_right before List.mem_cons_self
  · intro h
    obtain ⟨before, after, rfl⟩ := List.append_of_mem h
    refine List.lookup_eq_some_iff.2 ⟨before, after, rfl, fun entry hentry => ?_⟩
    rw [List.map_append, List.map_cons] at hl
    have hne : entry.1 ≠ name :=
      (List.nodup_append.1 hl).2.2 _ (List.mem_map_of_mem hentry) _ List.mem_cons_self
    simpa using hne.symm

/-- All entries of a list are kept in a dictionary exactly if no two of them have one name. -/
theorem perm_entries_ofList_iff {l : List (String × α)} :
    (ofList l).entries.Perm l ↔ (l.map Prod.fst).Nodup := by
  constructor
  · intro h
    exact (h.map Prod.fst).nodup (ofList l).nodup_names
  · intro h
    have hreverse : (l.reverse.map Prod.fst).Nodup := by rwa [List.map_reverse, List.nodup_reverse]
    rw [List.perm_ext_iff_of_nodup (ofList l).nodup_entries (List.Nodup.of_map Prod.fst h)]
    rintro ⟨name, value⟩
    rw [mem_entries_iff, get?_ofList, lookup_eq_some_iff_mem hreverse, List.mem_reverse]

/-- In a dictionary of entries with different names each name has the value of its entry. -/
theorem get?_ofList_of_mem {l : List (String × α)} (hl : (l.map Prod.fst).Nodup) {name : String}
    {value : α} (hm : (name, value) ∈ l) : (ofList l).get? name = some value :=
  (mem_entries_iff _).1 ((perm_entries_ofList_iff.2 hl).mem_iff.2 hm)

/-- A dictionary is made again from its entries. -/
theorem ofList_entries (d : Dict α) : ofList d.entries = d := by
  have hreverse : (d.entries.reverse.map Prod.fst).Nodup := by
    rw [List.map_reverse, List.nodup_reverse]
    exact d.nodup_names
  apply ext_get?
  intro name
  ext value
  rw [get?_ofList, lookup_eq_some_iff_mem hreverse, List.mem_reverse, mem_entries_iff]

end Folio.Dict
