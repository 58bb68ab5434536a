/-!
# Dictionaries

Finite maps from names to values, kept as a list in strictly increasing order of names.  The order
is part of the type, so dictionaries with the same entries are equal, and listing the entries needs
no sorting.
-/

namespace Folio

/-- A finite map from names to values. -/
structure Dict (α : Type) where
  entries : List (String × α)
  increasing : entries.Pairwise fun a b => a.1 < b.1

namespace Dict

variable {α β : Type}

/-- The dictionary without entries. -/
def empty : Dict α := ⟨[], List.Pairwise.nil⟩

instance : EmptyCollection (Dict α) := ⟨empty⟩
instance : Inhabited (Dict α) := ⟨empty⟩

theorem ext {d e : Dict α} (h : d.entries = e.entries) : d = e := by
  cases d
  cases e
  simp_all

instance [DecidableEq α] : DecidableEq (Dict α) := fun d e =>
  if h : d.entries = e.entries then isTrue (ext h)
  else isFalse fun he => h (he ▸ rfl)

instance [Repr α] : Repr (Dict α) := ⟨fun d n => reprPrec d.entries n⟩

/-- A list of entries with the value of one name set. -/
def insertEntry (name : String) (value : α) : List (String × α) → List (String × α)
  | [] => [(name, value)]
  | (other, old) :: rest =>
    if name < other then (name, value) :: (other, old) :: rest
    else if other < name then (other, old) :: insertEntry name value rest
    else (name, value) :: rest

/-- A name of the new list is the inserted one or one of the old list. -/
theorem mem_insertEntry {name : String} {value : α} {l : List (String × α)} {e : String × α}
    (h : e ∈ insertEntry name value l) : e.1 = name ∨ ∃ e' ∈ l, e'.1 = e.1 := by
  induction l with
  | nil =>
    simp only [insertEntry, List.mem_singleton] at h
    exact Or.inl (by rw [h])
  | cons a l ih =>
    obtain ⟨other, old⟩ := a
    unfold insertEntry at h
    split at h
    · rcases List.mem_cons.1 h with rfl | h
      · exact Or.inl rfl
      · exact Or.inr ⟨e, h, rfl⟩
    · split at h
      · rcases List.mem_cons.1 h with rfl | h
        · exact Or.inr ⟨_, List.mem_cons_self, rfl⟩
        · rcases ih h with h | ⟨e', he', h⟩
          · exact Or.inl h
          · exact Or.inr ⟨e', List.mem_cons_of_mem _ he', h⟩
      · rcases List.mem_cons.1 h with rfl | h
        · exact Or.inl rfl
        · exact Or.inr ⟨e, List.mem_cons_of_mem _ h, rfl⟩

/-- Inserting keeps the order. -/
theorem pairwise_insertEntry {name : String} {value : α} {l : List (String × α)}
    (h : l.Pairwise fun a b => a.1 < b.1) :
    (insertEntry name value l).Pairwise fun a b => a.1 < b.1 := by
  induction l with
  | nil => simp [insertEntry]
  | cons a l ih =>
    obtain ⟨other, old⟩ := a
    rw [List.pairwise_cons] at h
    unfold insertEntry
    split
    · rename_i hlt
      rw [List.pairwise_cons]
      refine ⟨fun b hb => ?_, List.pairwise_cons.2 h⟩
      rcases List.mem_cons.1 hb with rfl | hb
      · exact hlt
      · exact String.lt_trans hlt (h.1 b hb)
    · split
      · rename_i hlt
        rw [List.pairwise_cons]
        refine ⟨fun b hb => ?_, ih h.2⟩
        rcases mem_insertEntry hb with hb | ⟨e, he, hb⟩
        · rw [hb]; exact hlt
        · rw [← hb]; exact h.1 e he
      · rename_i h₁ h₂
        have he : other = name := String.le_antisymm h₁ h₂
        rw [List.pairwise_cons]
        exact ⟨fun b hb => he ▸ h.1 b hb, h.2⟩

/-- The dictionary with the value of one name set; a former value of the name is lost. -/
def insert (d : Dict α) (name : String) (value : α) : Dict α :=
  ⟨insertEntry name value d.entries, pairwise_insertEntry d.increasing⟩

/-- The value of a name. -/
def get? (d : Dict α) (name : String) : Option α :=
  (d.entries.find? (·.1 == name)).map (·.2)

theorem find?_insertEntry (name other : String) (value : α) (l : List (String × α)) :
    (insertEntry name value l).find? (·.1 == other) =
      if name = other then some (name, value) else l.find? (·.1 == other) := by
  induction l with
  | nil => by_cases h : name = other <;> simp [insertEntry, h]
  | cons a l ih =>
    obtain ⟨key, old⟩ := a
    unfold insertEntry
    split
    · by_cases h : name = other <;> simp [h]
    · split
      · rename_i hlt
        have hne : key ≠ name := fun he => String.lt_irrefl name (he ▸ hlt)
        by_cases h : name = other
        · have : (key == other) = false := by simp [← h, hne]
          simp only [List.find?_cons, this, ih, if_pos h]
        · simp [List.find?_cons, ih, h]
      · rename_i h₁ h₂
        have he : key = name := String.le_antisymm h₁ h₂
        by_cases h : name = other <;> simp [h, he]

/-- A dictionary with a name set has the new value for it, and the old values for the others. -/
theorem get?_insert (d : Dict α) (name other : String) (value : α) :
    (d.insert name value).get? other = if name = other then some value else d.get? other := by
  simp only [get?, insert, find?_insertEntry]
  split <;> rfl

/-- Whether the name has a value. -/
def contains (d : Dict α) (name : String) : Bool :=
  (d.get? name).isSome

/-- The dictionary without a name. -/
def erase (d : Dict α) (name : String) : Dict α :=
  ⟨d.entries.filter (·.1 != name), d.increasing.filter _⟩

/-- A dictionary without a name has no value for it, and the old values for the others. -/
theorem get?_erase (d : Dict α) (name other : String) :
    (d.erase name).get? other = if name = other then none else d.get? other := by
  simp only [get?, erase, List.find?_filter]
  by_cases h : name = other
  · have hnone : d.entries.find? (fun e => decide (e.1 != name ∧ e.1 == other)) = none := by
      rw [List.find?_eq_none]
      simp [h]
    rw [if_pos h]
    simpa using hnone
  · have heq : (fun e : String × α => decide ((e.1 != name) = true ∧ (e.1 == other) = true)) =
        fun e => e.1 == other := by
      funext e
      by_cases he : e.1 = other
      · simp [he, Ne.symm h]
      · simp [he]
    rw [if_neg h, heq]

/-- The number of names. -/
def size (d : Dict α) : Nat :=
  d.entries.length

/-- The dictionary with every value replaced by its image. -/
def map (f : α → β) (d : Dict α) : Dict β :=
  ⟨d.entries.map fun e => (e.1, f e.2), by
    rw [List.pairwise_map]
    exact d.increasing⟩

/-- The dictionary of a list of entries; of two entries with one name the later one counts. -/
def ofList (entries : List (String × α)) : Dict α :=
  entries.foldl (fun d e => d.insert e.1 e.2) empty

end Dict

end Folio
