import TableDdl.Proofs.Names
import TableDdl.Schema.NameMap
import Mathlib.Data.List.Induction
import Mathlib.Data.List.Nodup

/-!
# The latest item under a name

Items are put under texts one after the other. The names then stand in the order in which they first
came, each of them once, and under each of them stands the item that came with it last.
-/

namespace TableDdl.NameMap

variable {α β : Type}

theorem eq_of_entries {m n : NameMap α} (same : m.entries = n.entries) : m = n := by
  obtain ⟨entries, nodup⟩ := m
  cases same
  rfl

theorem insertEntry_map (f : α → β) (key : Key) (spelling : Value) (item : α)
    (entries : List (Entry α)) :
    (insertEntry key spelling item entries).map (fun e => ⟨e.key, e.spelling, f e.item⟩) =
      insertEntry key spelling (f item) (entries.map fun e => ⟨e.key, e.spelling, f e.item⟩) := by
  induction entries with
  | nil => rfl
  | cons entry rest ih =>
    by_cases same : entry.key = key
    · simp [insertEntry, same]
    · simp [insertEntry, same, ih]

theorem map_insert (f : α → β) (m : NameMap α) (key : Key) (spelling : Value) (item : α) :
    (m.insert key spelling item).map f = (m.map f).insert key spelling (f item) :=
  eq_of_entries (insertEntry_map f key spelling item m.entries)

theorem map_congr {f g : α → β} {m : NameMap α} (agree : ∀ e ∈ m.entries, f e.item = g e.item) :
    m.map f = m.map g := by
  apply eq_of_entries
  refine List.map_congr_left fun e member => ?_
  rw [agree e member]

/-- Taking out a name that is not there changes nothing. -/
theorem erase_of_not_contains {m : NameMap α} {key : Key} (absent : m.contains key = false) :
    m.erase key = m := by
  apply eq_of_entries
  apply List.filter_eq_self.mpr
  intro e member
  have other : e.key ≠ key := by
    intro same
    have listed : key ∈ m.keys := List.mem_map.mpr ⟨e, member, same⟩
    rw [← contains_iff, absent] at listed
    exact Bool.false_ne_true listed
  simpa using other

theorem contains_eq_isSome_find? (m : NameMap α) (key : Key) :
    m.contains key = (m.find? key).isSome := by
  rw [contains, find?, Option.isSome_map, Bool.eq_iff_iff, List.any_eq_true, List.find?_isSome]

theorem contains_map (f : α → β) (m : NameMap α) (key : Key) :
    (m.map f).contains key = m.contains key := by
  rw [Bool.eq_iff_iff, contains_iff, contains_iff, keys_map]

/-- What is taken out is not found any more, and all else is. -/
theorem find?_erase (m : NameMap α) (key k : Key) :
    (m.erase key).find? k = if k = key then none else m.find? k := by
  unfold find? erase
  rw [List.find?_filter]
  by_cases same : k = key
  · rw [if_pos same, Option.map_eq_none_iff, List.find?_eq_none]
    intro e _
    simp [same]
  · rw [if_neg same]
    congr 2
    funext e
    by_cases asked : e.key = k
    · simp [asked, same]
    · simp [asked]

theorem contains_erase (m : NameMap α) (key k : Key) :
    (m.erase key).contains k = (m.contains k && decide (k ≠ key)) := by
  rw [Bool.eq_iff_iff, Bool.and_eq_true, contains_iff, contains_iff, keys_erase, List.mem_filter]

theorem insertEntry_of_not_mem {key : Key} {spelling : Value} {item : α} {entries : List (Entry α)}
    (absent : key ∉ entries.map (·.key)) :
    insertEntry key spelling item entries = entries ++ [⟨key, spelling, item⟩] := by
  induction entries with
  | nil => rfl
  | cons entry rest ih =>
    rw [List.map_cons, List.mem_cons, not_or] at absent
    rw [insertEntry, if_neg (Ne.symm absent.1), ih absent.2, List.cons_append]

/-- An item under a new name comes last. -/
theorem items_insert {m : NameMap α} {key : Key} (absent : m.contains key = false)
    (spelling : Value) (item : α) : (m.insert key spelling item).items = m.items ++ [item] := by
  have new : key ∉ m.entries.map (·.key) := by
    intro listed
    rw [← Bool.not_eq_true, contains_iff] at absent
    exact absent listed
  show (insertEntry key spelling item m.entries).map (·.item) = _
  rw [insertEntry_of_not_mem new, List.map_append]
  rfl

theorem contains_insert (m : NameMap α) (key k : Key) (spelling : Value) (item : α) :
    (m.insert key spelling item).contains k = (decide (k = key) || m.contains k) := by
  rw [contains_eq_isSome_find?, contains_eq_isSome_find?, find?_insert]
  by_cases same : k = key <;> simp [same]

theorem map_erase (f : α → β) (m : NameMap α) (key : Key) :
    (m.erase key).map f = (m.map f).erase key := by
  apply eq_of_entries
  show (m.entries.filter _).map _ = (m.entries.map _).filter _
  rw [List.filter_map]
  rfl

/-- The keys with their first spellings, in order. -/
def heads (m : NameMap α) : List (Key × Value) :=
  m.entries.map fun e => (e.key, e.spelling)

theorem keys_eq_heads (m : NameMap α) : m.keys = m.heads.map Prod.fst := by
  simp [keys, heads]

theorem spellings_eq_heads (m : NameMap α) : m.spellings = m.heads.map Prod.snd := by
  simp [spellings, heads]

theorem heads_insertEntry (key : Key) (spelling : Value) (item : α) (entries : List (Entry α)) :
    (insertEntry key spelling item entries).map (fun e => (e.key, e.spelling)) =
      if key ∈ entries.map (·.key) then entries.map fun e => (e.key, e.spelling)
      else (entries.map fun e => (e.key, e.spelling)) ++ [(key, spelling)] := by
  induction entries with
  | nil => rfl
  | cons entry rest ih =>
    by_cases same : entry.key = key
    · simp [insertEntry, same]
    · simp only [insertEntry, same, if_false, List.map_cons, ih, List.mem_cons,
        Ne.symm (Ne.intro same), false_or]
      split <;> rfl

theorem heads_insert (m : NameMap α) (key : Key) (spelling : Value) (item : α) :
    (m.insert key spelling item).heads =
      if key ∈ m.keys then m.heads else m.heads ++ [(key, spelling)] :=
  heads_insertEntry key spelling item m.entries

theorem find?_of_mem {m : NameMap α} {e : Entry α} (member : e ∈ m.entries) :
    m.find? e.key = some e.item := by
  rw [find?, Names.find?_of_nodup m.nodup member]
  rfl

theorem exists_mem_of_find? {m : NameMap α} {key : Key} {item : α}
    (found : m.find? key = some item) : ∃ e ∈ m.entries, e.key = key ∧ e.item = item := by
  obtain ⟨e, first, same⟩ := Option.map_eq_some_iff.mp found
  have called : e.key = key := by simpa using List.find?_some first
  exact ⟨e, List.mem_of_find?_eq_some first, called, same⟩

/-- The items are what is found under the keys. -/
theorem map_find?_keys (m : NameMap α) : m.keys.map m.find? = m.items.map some := by
  unfold keys items
  rw [List.map_map, List.map_map]
  exact List.map_congr_left fun e member => find?_of_mem member

section InsertAll

variable (name : β → String) (item : β → α)

/-- Put an item under a text. -/
def put (m : NameMap α) (x : β) : NameMap α :=
  m.insert (.text (name x)) (.str (name x)) (item x)

/-- The map in which items are put under texts, one after the other. -/
def ofList (xs : List β) : NameMap α :=
  xs.foldl (put name item) empty

theorem ofList_concat (xs : List β) (x : β) :
    ofList name item (xs ++ [x]) = put name item (ofList name item xs) x := by
  simp [ofList]

theorem eraseDups_concat {γ : Type} [DecidableEq γ] (xs : List γ) (x : γ) :
    (xs ++ [x]).eraseDups = if x ∈ xs then xs.eraseDups else xs.eraseDups ++ [x] := by
  rw [List.eraseDups_append]
  by_cases old : x ∈ xs
  · simp [List.removeAll, old]
  · simp [List.removeAll, old, List.eraseDups_cons]

theorem heads_ofList (xs : List β) :
    (ofList name item xs).heads = (xs.map name).eraseDups.map fun s => (.text s, .str s) := by
  induction xs using List.reverseRecOn with
  | nil => rfl
  | append_singleton xs x ih =>
    have listed : Key.text (name x) ∈ (ofList name item xs).keys ↔ name x ∈ xs.map name := by
      rw [keys_eq_heads, ih]
      simp
    rw [ofList_concat, put, heads_insert, ih, List.map_append, List.map_singleton, eraseDups_concat]
    simp only [listed]
    split
    · rfl
    · rw [List.map_append, List.map_singleton]

/-- The names stand in the order in which they first came, each of them once. -/
theorem keys_ofList (xs : List β) :
    (ofList name item xs).keys = (xs.map name).eraseDups.map .text := by
  simp [keys_eq_heads, heads_ofList]

theorem spellings_ofList (xs : List β) :
    (ofList name item xs).spellings = (xs.map name).eraseDups.map .str := by
  simp [spellings_eq_heads, heads_ofList]

/-- What stands under a name is what came with it last. -/
theorem find?_ofList (xs : List β) (s : String) :
    (ofList name item xs).find? (.text s) =
      (xs.reverse.find? fun x => name x = s).map item := by
  induction xs using List.reverseRecOn with
  | nil => rfl
  | append_singleton xs x ih =>
    rw [ofList_concat, put, find?_insert, ih, List.reverse_append]
    by_cases same : name x = s
    · simp [same]
    · simp [same, Ne.symm same]

/-- Of all items that came with one name, the last stands where the first was. -/
theorem items_ofList (xs : List β) :
    (ofList name item xs).items.map some =
      (xs.map name).eraseDups.map fun s => (xs.reverse.find? fun x => name x = s).map item := by
  rw [← map_find?_keys, keys_ofList, List.map_map]
  exact List.map_congr_left fun s _ => find?_ofList name item xs s

end InsertAll

end TableDdl.NameMap
