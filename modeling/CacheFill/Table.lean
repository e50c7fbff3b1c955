/-!
Finite maps with a fixed order of their keys: a key keeps its place from its first insertion to its
removal. Main statements: what a lookup finds after an insertion or a removal.
-/

set_option autoImplicit false

namespace CacheFill

/-- A list of keys with values in which no key occurs twice. -/
structure Table (κ α : Type) where
  entries : List (κ × α)
  distinct : (entries.map (·.1)).Nodup

namespace Table

variable {κ α β : Type} [DecidableEq κ]

def empty : Table κ α := ⟨[], by simp⟩

instance : Inhabited (Table κ α) := ⟨empty⟩

def get? (table : Table κ α) (key : κ) : Option α :=
  (table.entries.find? fun entry => entry.1 = key).map (·.2)

def contains (table : Table κ α) (key : κ) : Bool := (table.get? key).isSome

def keys (table : Table κ α) : List κ := table.entries.map (·.1)

def values (table : Table κ α) : List α := table.entries.map (·.2)

def size (table : Table κ α) : Nat := table.entries.length

/-- The entries with the value of one key exchanged. -/
def replaceEntry (key : κ) (value : α) (entries : List (κ × α)) : List (κ × α) :=
  entries.map fun entry => if entry.1 = key then (entry.1, value) else entry

theorem map_fst_replaceEntry (key : κ) (value : α) (entries : List (κ × α)) :
    (replaceEntry key value entries).map (·.1) = entries.map (·.1) := by
  simp only [replaceEntry, List.map_map]
  apply List.map_congr_left
  intro entry _
  by_cases same : entry.1 = key <;> simp [same]

/-- Gives a key a value; a new key comes last. -/
def insert (table : Table κ α) (key : κ) (value : α) : Table κ α :=
  if present : key ∈ table.entries.map (·.1) then
    ⟨replaceEntry key value table.entries, by
      rw [map_fst_replaceEntry]; exact table.distinct⟩
  else
    ⟨table.entries ++ [(key, value)], by
      simp only [List.map_append, List.map_cons, List.map_nil]
      rw [List.nodup_append]
      refine ⟨table.distinct, by simp, ?_⟩
      intro a member b single same
      simp only [List.mem_singleton] at single
      subst same
      exact present (single ▸ member)⟩

/-- Removes a key with its value. -/
def erase (table : Table κ α) (key : κ) : Table κ α :=
  ⟨table.entries.filter fun entry => entry.1 ≠ key,
    table.distinct.sublist ((List.filter_sublist).map _)⟩

/-- The same keys with changed values. -/
def mapValues (table : Table κ α) (change : α → β) : Table κ β :=
  ⟨table.entries.map fun entry => (entry.1, change entry.2), by
    have same : (table.entries.map fun entry => (entry.1, change entry.2)).map (·.1) =
        table.entries.map (·.1) := by simp
    rw [same]; exact table.distinct⟩

/-- The table of a list in which a later value of a key replaces an earlier one. -/
def ofList (entries : List (κ × α)) : Table κ α :=
  entries.foldl (fun table entry => table.insert entry.1 entry.2) empty

@[simp] theorem get?_empty (key : κ) : (empty : Table κ α).get? key = none := rfl

theorem find?_replaceEntry (entries : List (κ × α)) (key other : κ) (value : α) :
    (replaceEntry key value entries).find? (fun entry => entry.1 = other) =
      (entries.find? fun entry => entry.1 = other).map
        fun entry => if entry.1 = key then (entry.1, value) else entry := by
  induction entries with
  | nil => rfl
  | cons entry rest ih =>
      by_cases same : entry.1 = key <;> by_cases found : entry.1 = other <;>
        simp_all [replaceEntry]

theorem get?_eq_none_iff {table : Table κ α} {key : κ} :
    table.get? key = none ↔ key ∉ table.keys := by
  simp only [get?, keys, Option.map_eq_none_iff, List.find?_eq_none, List.mem_map, not_exists,
    not_and, decide_eq_true_eq]

theorem get?_insert (table : Table κ α) (key other : κ) (value : α) :
    (table.insert key value).get? other =
      if other = key then some value else table.get? other := by
  unfold insert
  split
  · next present =>
      by_cases same : other = key
      · subst same
        simp only [get?, find?_replaceEntry, Option.map_map, if_true]
        cases found : table.entries.find? fun entry => entry.1 = other with
        | none =>
            rw [List.find?_eq_none] at found
            obtain ⟨entry, member, here⟩ := List.mem_map.mp present
            exact absurd here (by simpa using found entry member)
        | some entry =>
            have here := List.find?_some found
            simp only [decide_eq_true_eq] at here
            simp [here]
      · simp only [get?, find?_replaceEntry, Option.map_map, if_neg same]
        cases found : table.entries.find? fun entry => entry.1 = other with
        | none => rfl
        | some entry =>
            have here := List.find?_some found
            simp only [decide_eq_true_eq] at here
            have different : entry.1 ≠ key := fun equal => same (here ▸ equal)
            simp [different]
  · next absent =>
      simp only [get?, List.find?_append]
      by_cases same : other = key
      · subst same
        have none_found : table.entries.find? (fun entry => entry.1 = other) = none := by
          rw [List.find?_eq_none]
          intro entry member
          simp only [decide_eq_true_eq]
          exact fun equal => absent (List.mem_map.mpr ⟨entry, member, equal⟩)
        simp [none_found]
      · have different : ¬ key = other := fun equal => same equal.symm
        simp [different, same]

theorem get?_insert_self (table : Table κ α) (key : κ) (value : α) :
    (table.insert key value).get? key = some value := by simp [get?_insert]

theorem get?_insert_of_ne {table : Table κ α} {key other : κ} {value : α}
    (different : other ≠ key) : (table.insert key value).get? other = table.get? other := by
  simp [get?_insert, different]

theorem find?_filter_ne (entries : List (κ × α)) (key other : κ) :
    (entries.filter fun entry => entry.1 ≠ key).find? (fun entry => entry.1 = other) =
      if other = key then none else entries.find? fun entry => entry.1 = other := by
  induction entries with
  | nil => simp
  | cons entry rest ih =>
      by_cases removed : entry.1 = key <;> by_cases found : entry.1 = other <;>
        by_cases same : other = key <;> simp_all

theorem get?_erase (table : Table κ α) (key other : κ) :
    (table.erase key).get? other = if other = key then none else table.get? other := by
  simp only [get?, erase, find?_filter_ne]
  split <;> rfl

theorem get?_mapValues (table : Table κ α) (change : α → β) (key : κ) :
    (table.mapValues change).get? key = (table.get? key).map change := by
  simp only [get?, mapValues, List.find?_map, Option.map_map]
  rfl

end Table

end CacheFill
