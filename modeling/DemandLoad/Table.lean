/-!
Tables keyed by name. Rows stay in the order in which their keys first arrived, since listings, bulk requests
and inspected texts all show that order.
-/

namespace DemandLoad

structure Table (α : Type) where
  entries : List (String × α)
  distinct : (entries.map Prod.fst).Nodup
  deriving DecidableEq, Repr

namespace Table

variable {α : Type}

def empty : Table α := ⟨[], List.nodup_nil⟩

def keys (table : Table α) : List String := table.entries.map Prod.fst

def values (table : Table α) : List α := table.entries.map Prod.snd

def get? (table : Table α) (key : String) : Option α := table.entries.lookup key

def contains (table : Table α) (key : String) : Bool := (table.get? key).isSome

def size (table : Table α) : Nat := table.entries.length

/-- A known key keeps its row; a new one opens a row at the end. -/
def put (key : String) (value : α) : List (String × α) → List (String × α)
  | [] => [(key, value)]
  | (name, held) :: rows =>
    if name = key then (key, value) :: rows else (name, held) :: put key value rows

theorem map_fst_put (key : String) (value : α) (rows : List (String × α)) :
    (put key value rows).map Prod.fst =
      if key ∈ rows.map Prod.fst then rows.map Prod.fst else rows.map Prod.fst ++ [key] := by
  induction rows with
  | nil => rfl
  | cons row rows ih =>
      obtain ⟨name, held⟩ := row
      by_cases same : name = key
      · simp [put, same]
      · have apart : key ≠ name := fun equal => same equal.symm
        simp only [put, same, if_false, List.map_cons, List.mem_cons, apart, false_or, ih]
        split <;> rfl

theorem nodup_put (key : String) (value : α) (rows : List (String × α))
    (distinct : (rows.map Prod.fst).Nodup) : ((put key value rows).map Prod.fst).Nodup := by
  rw [map_fst_put]
  split
  case isTrue => exact distinct
  case isFalse absent =>
    refine List.nodup_append.mpr ⟨distinct, by simp, ?_⟩
    intro name member arrival arrived equal
    exact absent (List.mem_singleton.mp arrived ▸ equal ▸ member)

def insert (table : Table α) (key : String) (value : α) : Table α :=
  ⟨put key value table.entries, nodup_put key value table.entries table.distinct⟩

def erase (table : Table α) (key : String) : Table α :=
  ⟨table.entries.filter (fun row => row.1 ≠ key),
    table.distinct.sublist (List.filter_sublist.map Prod.fst)⟩

theorem lookup_row (key name : String) (held : α) (rows : List (String × α)) :
    List.lookup key ((name, held) :: rows) = if key = name then some held else rows.lookup key := by
  by_cases same : key = name <;> simp [List.lookup_cons, same, beq_eq_false_iff_ne.mpr]

theorem lookup_eq_none (key : String) (rows : List (String × α)) :
    rows.lookup key = none ↔ key ∉ rows.map Prod.fst := by
  induction rows with
  | nil => simp
  | cons row rows ih =>
      obtain ⟨name, held⟩ := row
      rw [lookup_row]
      by_cases same : key = name <;> simp [same, ih]

theorem get?_eq_none (table : Table α) (key : String) :
    table.get? key = none ↔ key ∉ table.keys :=
  lookup_eq_none key table.entries

theorem contains_iff (table : Table α) (key : String) :
    table.contains key = true ↔ key ∈ table.keys := by
  have absent := table.get?_eq_none key
  cases found : table.get? key <;> simp_all [contains]

@[simp] theorem get?_empty (key : String) : (empty : Table α).get? key = none := rfl

@[simp] theorem keys_empty : (empty : Table α).keys = [] := rfl

theorem keys_insert (table : Table α) (key : String) (value : α) :
    (table.insert key value).keys =
      if key ∈ table.keys then table.keys else table.keys ++ [key] :=
  map_fst_put key value table.entries

theorem lookup_put (key other : String) (value : α) (rows : List (String × α)) :
    (put key value rows).lookup other =
      if other = key then some value else rows.lookup other := by
  induction rows with
  | nil => simp [put, lookup_row]
  | cons row rows ih =>
      obtain ⟨name, held⟩ := row
      by_cases same : name = key
      · subst same
        simp only [put, if_true, lookup_row]
        split <;> rfl
      · have apart : key ≠ name := fun equal => same equal.symm
        simp only [put, same, if_false, lookup_row, ih]
        by_cases asked : other = key <;> simp [asked, apart]

theorem get?_insert (table : Table α) (key other : String) (value : α) :
    (table.insert key value).get? other = if other = key then some value else table.get? other :=
  lookup_put key other value table.entries

theorem lookup_filter (key other : String) (rows : List (String × α)) :
    (rows.filter (fun row => row.1 ≠ key)).lookup other =
      if other = key then none else rows.lookup other := by
  induction rows with
  | nil => simp
  | cons row rows ih =>
      obtain ⟨name, held⟩ := row
      by_cases same : name = key
      · rw [List.filter_cons_of_neg (by simp [same]), ih, lookup_row, same]
        split <;> rfl
      · have apart : key ≠ name := fun equal => same equal.symm
        rw [List.filter_cons_of_pos (by simp [same]), lookup_row, lookup_row, ih]
        by_cases asked : other = key <;> simp [asked, apart]

theorem get?_erase (table : Table α) (key other : String) :
    (table.erase key).get? other = if other = key then none else table.get? other :=
  lookup_filter key other table.entries

theorem size_erase_lt (table : Table α) (key : String) (value : α)
    (found : table.get? key = some value) : (table.erase key).size < table.size := by
  have present : key ∈ table.keys := by
    have absent := table.get?_eq_none key
    simp_all
  obtain ⟨row, member, same⟩ := List.mem_map.mp present
  exact List.length_filter_lt_length_iff_exists.mpr ⟨row, member, by simp [same]⟩

end Table

end DemandLoad
