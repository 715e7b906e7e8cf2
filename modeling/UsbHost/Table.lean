/-!
# Tables

A `Table` holds at most one value for each key. Looking up after `put` and `erase` is described by
`get?_put` and `get?_erase`.
-/

namespace UsbHost

/-- A finite map. -/
structure Table (κ ν : Type) where
  entries : List (κ × ν) := []
  /-- No key has two values. -/
  distinct : (entries.map (·.1)).Nodup := by exact .nil

namespace Table

variable {κ ν : Type}

/-- The table without entries. -/
def empty : Table κ ν := {}

instance : Inhabited (Table κ ν) := ⟨empty⟩

/-- The keys, each once. -/
def keys (t : Table κ ν) : List κ := t.entries.map (·.1)

/-- The values, in the order of their keys. -/
def values (t : Table κ ν) : List ν := t.entries.map (·.2)

variable [DecidableEq κ]

/-- The value of a key. -/
def get? (t : Table κ ν) (k : κ) : Option ν := (t.entries.find? (·.1 = k)).map (·.2)

/-- Whether a key has a value. -/
def contains (t : Table κ ν) (k : κ) : Bool := (t.get? k).isSome

/-- The table without a key. -/
def erase (t : Table κ ν) (k : κ) : Table κ ν where
  entries := t.entries.filter (·.1 ≠ k)
  distinct := t.distinct.sublist (List.filter_sublist.map _)

/-- The table with `v` as the value of `k`. -/
def put (t : Table κ ν) (k : κ) (v : ν) : Table κ ν where
  entries := (k, v) :: (t.erase k).entries
  distinct := by
    refine List.nodup_cons.2 ⟨?_, (t.erase k).distinct⟩
    simp [erase]

/-- The table of the entries that `keep` accepts. -/
def filter (t : Table κ ν) (keep : κ → ν → Bool) : Table κ ν where
  entries := t.entries.filter fun e => keep e.1 e.2
  distinct := t.distinct.sublist (List.filter_sublist.map _)

/-- Looking up finds exactly the entries. -/
theorem get?_eq_some_iff (t : Table κ ν) (k : κ) (v : ν) :
    t.get? k = some v ↔ (k, v) ∈ t.entries := by
  obtain ⟨entries, distinct⟩ := t
  unfold get?
  dsimp only
  induction entries with
  | nil => simp
  | cons e entries ih =>
    obtain ⟨l, u⟩ := e
    obtain ⟨hfresh, distinct⟩ := List.nodup_cons.mp distinct
    rw [List.find?_cons, List.mem_cons]
    by_cases h : l = k
    · subst h
      have hnot : (l, v) ∉ entries := fun hmem => hfresh (List.mem_map.mpr ⟨(l, v), hmem, rfl⟩)
      simp [hnot, eq_comm]
    · simp [h, Ne.symm h, ih distinct]

theorem mem_values_iff (t : Table κ ν) (v : ν) : v ∈ t.values ↔ ∃ k, t.get? k = some v := by
  simp [values, get?_eq_some_iff]

@[simp] theorem get?_empty (k : κ) : (empty : Table κ ν).get? k = none := rfl

theorem get?_erase (t : Table κ ν) (k l : κ) :
    (t.erase k).get? l = if l = k then none else t.get? l := by
  unfold get? erase
  rw [List.find?_filter]
  split
  · subst l
    simp
  · congr 2
    funext e
    by_cases h : e.1 = l <;> simp_all

@[simp] theorem get?_erase_self (t : Table κ ν) (k : κ) : (t.erase k).get? k = none := by
  simp [get?_erase]

theorem get?_put (t : Table κ ν) (k l : κ) (v : ν) :
    (t.put k v).get? l = if l = k then some v else t.get? l := by
  by_cases h : l = k
  · simp [get?, put, h]
  · have : (t.put k v).get? l = (t.erase k).get? l := by simp [get?, put, Ne.symm h]
    simp [this, get?_erase, h]

@[simp] theorem get?_put_self (t : Table κ ν) (k : κ) (v : ν) : (t.put k v).get? k = some v := by
  simp [get?_put]

theorem get?_filter (t : Table κ ν) (keep : κ → ν → Bool) (k : κ) :
    (t.filter keep).get? k = (t.get? k).filter (keep k) := by
  ext v
  rw [get?_eq_some_iff, Option.filter_eq_some_iff, get?_eq_some_iff]
  exact List.mem_filter

end Table

end UsbHost
