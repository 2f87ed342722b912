import TableDdl.Value.Key

/-!
# Maps by name

A map from names to items that keeps its entries in the order in which the names first came. An
item put under a name that is there already takes the place of the old one, and the entry keeps
the spelling that the name first had.
-/

namespace TableDdl

/-- An entry of a map by name: the key of the name, its first spelling, and the item. -/
structure NameMap.Entry (α : Type) where
  key : Key
  spelling : Value
  item : α
  deriving Repr

namespace NameMap

variable {α β : Type}

/-- Put an item under a name into a list of entries. -/
def insertEntry (key : Key) (spelling : Value) (item : α) : List (Entry α) → List (Entry α)
  | [] => [⟨key, spelling, item⟩]
  | entry :: rest =>
    if entry.key = key then { entry with item } :: rest
    else entry :: insertEntry key spelling item rest

theorem map_key_insertEntry (key : Key) (spelling : Value) (item : α) (entries : List (Entry α)) :
    (insertEntry key spelling item entries).map (·.key) =
      if key ∈ entries.map (·.key) then entries.map (·.key)
      else entries.map (·.key) ++ [key] := by
  induction entries with
  | nil => rfl
  | cons entry rest ih =>
    by_cases same : entry.key = key
    · simp [insertEntry, same]
    · simp only [insertEntry, same, if_false, List.map_cons, ih, List.mem_cons,
        Ne.symm (Ne.intro same), false_or]
      split <;> rfl

theorem nodup_insertEntry (key : Key) (spelling : Value) (item : α) {entries : List (Entry α)}
    (nodup : (entries.map (·.key)).Nodup) :
    ((insertEntry key spelling item entries).map (·.key)).Nodup := by
  rw [map_key_insertEntry]
  split
  · exact nodup
  · rename_i absent
    rw [List.nodup_append]
    refine ⟨nodup, by simp, ?_⟩
    intro a member b single
    simp only [List.mem_singleton] at single
    rintro rfl
    exact absent (single ▸ member)

end NameMap

/-- A map from names to items, in the order in which the names first came. -/
structure NameMap (α : Type) where
  entries : List (NameMap.Entry α)
  nodup : (entries.map (·.key)).Nodup

namespace NameMap

variable {α β : Type}

/-- The map without entries. -/
def empty : NameMap α := ⟨[], List.nodup_nil⟩

instance : Inhabited (NameMap α) := ⟨empty⟩

/-- Put an item under a name. -/
def insert (m : NameMap α) (key : Key) (spelling : Value) (item : α) : NameMap α :=
  ⟨insertEntry key spelling item m.entries, nodup_insertEntry key spelling item m.nodup⟩

/-- Take a name out. -/
def erase (m : NameMap α) (key : Key) : NameMap α :=
  ⟨m.entries.filter fun entry => entry.key ≠ key,
    m.nodup.sublist (List.filter_sublist.map _)⟩

/-- The item under a name. -/
def find? (m : NameMap α) (key : Key) : Option α :=
  (m.entries.find? fun entry => entry.key = key).map (·.item)

/-- Whether the name is there. -/
def contains (m : NameMap α) (key : Key) : Bool :=
  m.entries.any fun entry => entry.key = key

/-- The keys, in order. -/
def keys (m : NameMap α) : List Key :=
  m.entries.map (·.key)

/-- The names as they were first spelled, in order. -/
def spellings (m : NameMap α) : List Value :=
  m.entries.map (·.spelling)

/-- The items, in order. -/
def items (m : NameMap α) : List α :=
  m.entries.map (·.item)

/-- Change every item. -/
def map (f : α → β) (m : NameMap α) : NameMap β :=
  ⟨m.entries.map fun entry => ⟨entry.key, entry.spelling, f entry.item⟩, by
    simpa [Function.comp_def] using m.nodup⟩

theorem keys_erase (m : NameMap α) (key : Key) :
    (m.erase key).keys = m.keys.filter fun k => k ≠ key := by
  simp [keys, erase, List.filter_map, Function.comp_def]

@[simp] theorem keys_map (f : α → β) (m : NameMap α) : (m.map f).keys = m.keys := by
  simp [keys, map, Function.comp_def]

@[simp] theorem items_map (f : α → β) (m : NameMap α) : (m.map f).items = m.items.map f := by
  simp [items, map, Function.comp_def]

@[simp] theorem spellings_map (f : α → β) (m : NameMap α) :
    (m.map f).spellings = m.spellings := by
  simp [spellings, map, Function.comp_def]

/-- A name is there exactly if its key is listed. -/
theorem contains_iff (m : NameMap α) (key : Key) : m.contains key = true ↔ key ∈ m.keys := by
  simp [contains, keys]

theorem find?_insertEntry (key : Key) (spelling : Value) (item : α) (entries : List (Entry α))
    (k : Key) :
    ((insertEntry key spelling item entries).find? fun entry => entry.key = k).map (·.item) =
      if k = key then some item
      else (entries.find? fun entry => entry.key = k).map (·.item) := by
  induction entries with
  | nil =>
    by_cases asked : k = key
    · simp [insertEntry, asked]
    · simp [insertEntry, asked, Ne.symm asked]
  | cons entry rest ih =>
    by_cases same : entry.key = key
    · by_cases asked : k = key
      · simp [insertEntry, same, asked]
      · simp [insertEntry, same, asked, Ne.symm asked]
    · by_cases found : entry.key = k
      · have asked : k ≠ key := found ▸ same
        simp [insertEntry, found, asked]
      · simpa [insertEntry, same, found] using ih

/-- The item that was put under a name last is found there. -/
theorem find?_insert (m : NameMap α) (key : Key) (spelling : Value) (item : α) (k : Key) :
    (m.insert key spelling item).find? k = if k = key then some item else m.find? k :=
  find?_insertEntry key spelling item m.entries k

end NameMap

end TableDdl
