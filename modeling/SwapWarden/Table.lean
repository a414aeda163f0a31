/-!
# Tables in order of insertion

A table holds one value per key.  A new key comes last, and a value put under
a key that is there already takes its place.
-/

namespace SwapWarden

/-- A finite table in order of insertion. -/
structure Table (κ α : Type) where
  entries : List (κ × α) := []
  deriving Repr

namespace Table

variable {κ α : Type} [DecidableEq κ]

def empty : Table κ α := ⟨[]⟩

instance : Inhabited (Table κ α) := ⟨empty⟩

/-- The value under a key in a list of entries. -/
def getIn (key : κ) : List (κ × α) → Option α
  | [] => none
  | entry :: rest => if entry.1 = key then some entry.2 else getIn key rest

/-- The entries with a value put under a key. -/
def putIn (key : κ) (value : α) : List (κ × α) → List (κ × α)
  | [] => [(key, value)]
  | entry :: rest =>
      if entry.1 = key then (key, value) :: rest
      else entry :: putIn key value rest

/-- The value under a key. -/
def get? (table : Table κ α) (key : κ) : Option α :=
  getIn key table.entries

/-- The table with a value under a key. -/
def put (table : Table κ α) (key : κ) (value : α) : Table κ α :=
  ⟨putIn key value table.entries⟩

/-- The table without a key. -/
def erase (table : Table κ α) (key : κ) : Table κ α :=
  ⟨table.entries.filter (fun entry => decide (entry.1 ≠ key))⟩

def keys (table : Table κ α) : List κ := table.entries.map (·.1)

def values (table : Table κ α) : List α := table.entries.map (·.2)

def size (table : Table κ α) : Nat := table.entries.length

/-- Entries put one after another, so the last value of a key stays. -/
def ofList (entries : List (κ × α)) : Table κ α :=
  entries.foldl (fun table entry => table.put entry.1 entry.2) empty

theorem getIn_putIn (key other : κ) (value : α) (entries : List (κ × α)) :
    getIn other (putIn key value entries) =
      if key = other then some value else getIn other entries := by
  induction entries with
  | nil => simp [putIn, getIn]
  | cons entry rest induction => grind [putIn, getIn]

theorem get?_put (table : Table κ α) (key other : κ) (value : α) :
    (table.put key value).get? other =
      if key = other then some value else table.get? other :=
  getIn_putIn key other value table.entries

theorem getIn_filter (key other : κ) (entries : List (κ × α)) :
    getIn other (entries.filter (fun entry => decide (entry.1 ≠ key))) =
      if key = other then none else getIn other entries := by
  induction entries with
  | nil => simp [getIn]
  | cons entry rest induction => grind [getIn]

theorem get?_erase (table : Table κ α) (key other : κ) :
    (table.erase key).get? other =
      if key = other then none else table.get? other :=
  getIn_filter key other table.entries

/-! ## Tables made of entries -/

theorem getIn_append (key : κ) (first second : List (κ × α)) :
    getIn key (first ++ second) =
      (getIn key first).or (getIn key second) := by
  induction first with
  | nil => rfl
  | cons entry rest induction =>
      by_cases same : entry.1 = key
      · simp [getIn, same]
      · simp [getIn, same, induction]

theorem get?_foldl_put (key : κ) (entries : List (κ × α))
    (table : Table κ α) :
    (entries.foldl (fun table entry => table.put entry.1 entry.2)
        table).get? key =
      (getIn key entries.reverse).or (table.get? key) := by
  induction entries generalizing table with
  | nil => rfl
  | cons entry rest induction =>
      rw [List.foldl_cons, induction, get?_put, List.reverse_cons,
        getIn_append, Option.or_assoc]
      by_cases same : entry.1 = key
      · simp [getIn, same]
      · simp [getIn, same]

/-- Of several entries of one key the last one stays. -/
theorem get?_ofList (key : κ) (entries : List (κ × α)) :
    (ofList entries).get? key = getIn key entries.reverse := by
  rw [ofList, get?_foldl_put]
  exact Option.or_none

theorem getIn_eq_head? (key : κ) (entries : List (κ × α)) :
    getIn key entries = (entries.filterMap fun entry =>
      if entry.1 = key then some entry.2 else none).head? := by
  induction entries with
  | nil => rfl
  | cons entry rest induction =>
      by_cases same : entry.1 = key
      · simp [getIn, same]
      · simp [getIn, same, induction]

theorem get?_ofList_eq_getLast? (key : κ) (entries : List (κ × α)) :
    (ofList entries).get? key = (entries.filterMap fun entry =>
      if entry.1 = key then some entry.2 else none).getLast? := by
  rw [get?_ofList, getIn_eq_head?, List.filterMap_reverse, List.head?_reverse]

theorem mem_of_getIn {key : κ} {value : α} {entries : List (κ × α)}
    (found : getIn key entries = some value) : (key, value) ∈ entries := by
  induction entries with
  | nil => cases found
  | cons entry rest induction =>
      by_cases same : entry.1 = key
      · rw [getIn, if_pos same] at found
        obtain rfl := Option.some.inj found
        obtain rfl := same
        exact List.mem_cons_self
      · rw [getIn, if_neg same] at found
        exact List.mem_cons_of_mem entry (induction found)

theorem getIn_of_mem {key : κ} {value : α} {entries : List (κ × α)}
    (distinct : (entries.map Prod.fst).Nodup)
    (member : (key, value) ∈ entries) : getIn key entries = some value := by
  induction entries with
  | nil => cases member
  | cons entry rest induction =>
      obtain ⟨fresh, others⟩ := List.nodup_cons.mp distinct
      rcases List.mem_cons.mp member with rfl | later
      · exact if_pos rfl
      · have different : entry.1 ≠ key := by
          rintro rfl
          exact fresh (List.mem_map.mpr ⟨_, later, rfl⟩)
        rw [getIn, if_neg different]
        exact induction others later

theorem mem_keys_iff {table : Table κ α} {key : κ} :
    key ∈ table.keys ↔ (table.get? key).isSome := by
  obtain ⟨entries⟩ := table
  unfold keys get?
  induction entries with
  | nil => simp [getIn]
  | cons entry rest induction =>
      by_cases same : entry.1 = key
      · simp [getIn, same]
      · have different : key ≠ entry.1 := Ne.symm same
        simp only [List.map_cons, List.mem_cons, getIn, if_neg same,
          different, false_or]
        exact induction

theorem mem_entries_iff {table : Table κ α} {key : κ} {value : α}
    (distinct : table.keys.Nodup) :
    (key, value) ∈ table.entries ↔ table.get? key = some value :=
  ⟨getIn_of_mem distinct, mem_of_getIn⟩

theorem mem_keys_putIn {key other : κ} {value : α} {entries : List (κ × α)} :
    other ∈ (putIn key value entries).map Prod.fst ↔
      other = key ∨ other ∈ entries.map Prod.fst := by
  induction entries with
  | nil => simp [putIn]
  | cons entry rest induction =>
      by_cases same : entry.1 = key
      · simp [putIn, same]
      · simp only [putIn, if_neg same, List.map_cons, List.mem_cons,
          induction]
        exact or_left_comm

theorem nodup_putIn (key : κ) (value : α) {entries : List (κ × α)}
    (distinct : (entries.map Prod.fst).Nodup) :
    ((putIn key value entries).map Prod.fst).Nodup := by
  induction entries with
  | nil => simp [putIn]
  | cons entry rest induction =>
      obtain ⟨fresh, others⟩ := List.nodup_cons.mp distinct
      by_cases same : entry.1 = key
      · rw [putIn, if_pos same]
        exact List.nodup_cons.mpr ⟨same ▸ fresh, others⟩
      · rw [putIn, if_neg same]
        refine List.nodup_cons.mpr ⟨?_, induction others⟩
        intro member
        rcases mem_keys_putIn.mp member with equal | before
        · exact same equal
        · exact fresh before

theorem nodup_ofList (entries : List (κ × α)) :
    ((ofList entries).entries.map Prod.fst).Nodup := by
  have kept (table : Table κ α) (distinct : (table.entries.map Prod.fst).Nodup) :
      ((entries.foldl (fun table entry => table.put entry.1 entry.2)
        table).entries.map Prod.fst).Nodup := by
    induction entries generalizing table with
    | nil => exact distinct
    | cons entry rest induction =>
        exact induction _ (nodup_putIn entry.1 entry.2 distinct)
  exact kept empty List.nodup_nil

theorem get?_ofList_eq_some_iff {key : κ} {value : α}
    {entries : List (κ × α)} (distinct : (entries.map Prod.fst).Nodup) :
    (ofList entries).get? key = some value ↔ (key, value) ∈ entries := by
  have reversed : (entries.reverse.map Prod.fst).Nodup :=
    ((List.reverse_perm entries).map Prod.fst).nodup_iff.mpr distinct
  rw [get?_ofList, ← List.mem_reverse]
  exact ⟨mem_of_getIn, getIn_of_mem reversed⟩

end Table

end SwapWarden
