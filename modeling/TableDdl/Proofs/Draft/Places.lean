import TableDdl.Proofs.Draft.History
import TableDdl.Proofs.Draft.Streams

/-!
# Columns and entries at their places

Whoever has declared a column can edit it at its place from then on. As long as the column stands
under its name, an edit changes that one column of the schema and nothing else. Once its name was
declared again or taken out, no edit at its place can be seen in the schema any more, whatever else
is requested. An index entry and a foreign key stay in the schema, each at the place that was free
when it was added, and are changed by the edits at that place alone.
-/

namespace TableDdl.Draft

/-- The edit of the index entry at a place that a request is for, if it is for one. -/
def Request.editIndexAt? (place : Nat) : Request → Option IndexEdit
  | .editIndex other edit => if other = place then some edit else none
  | _ => none

/-- The edit of the foreign key at a place that a request is for, if it is for one. -/
def Request.editForeignKeyAt? (place : Nat) : Request → Option ForeignKeyEdit
  | .editForeignKey other edit => if other = place then some edit else none
  | _ => none

/-- The column at a place was replaced or taken out: after it was declared, its name was declared
again or taken out. -/
def IsStale (start : Draft) (requests : List Request) (place : Nat) : Prop :=
  ∃ before name after made, requests = before ++ .declare name :: after ∧
    (start.serveAll before).declare name = .ok (made, place) ∧
    ∃ later ∈ after, later.declares name = true ∨ later.removes name = true

variable {d e start : Draft} {requests : List Request} {v w : Value} {place : Nat}

section Places

variable {before : List Request} {name : Value} {made : Draft}

theorem place_lt_of_declared
    (declared : (start.serveAll before).declare name = .ok (made, place)) (after : List Request) :
    place < (start.serveAll (before ++ .declare name :: after)).columns.length :=
  (List.getElem?_eq_some_iff.mp (columns_of_declared declared)).1

/-- A place is given to one request only. -/
theorem eq_of_declared {before' after after' : List Request} {name' : Value} {made' : Draft}
    (split : before ++ .declare name :: after = before' ++ .declare name' :: after')
    (declared : (start.serveAll before).declare name = .ok (made, place))
    (declared' : (start.serveAll before').declare name' = .ok (made', place)) :
    before = before' ∧ name = name' ∧ after = after' := by
  have length := place_of_declare declared
  have length' := place_of_declare declared'
  -- Of two requests the later one finds more columns than the place that the earlier one was given.
  rcases List.append_eq_append_iff.mp split with ⟨middle, rfl, rest⟩ | ⟨middle, rfl, rest⟩
  · cases middle with
    | nil => simpa using rest
    | cons r middle =>
      obtain ⟨rfl, -⟩ := List.cons.inj rest
      have earlier := place_lt_of_declared declared middle
      omega
  · cases middle with
    | nil => simpa [eq_comm] using rest
    | cons r middle =>
      obtain ⟨rfl, -⟩ := List.cons.inj rest
      have earlier := place_lt_of_declared declared' middle
      omega

end Places

/-- The names that a column stands under are one name. -/
theorem StandsAt.isSameName (first : StandsAt start requests v place)
    (second : StandsAt start requests w place) : v.isSameName w = true := by
  obtain ⟨before, name, after, made, rfl, same, -, declared⟩ := first
  obtain ⟨before', name', after', made', split, same', -, declared'⟩ := second
  obtain ⟨rfl, rfl, rfl⟩ := eq_of_declared split declared declared'
  rw [Value.isSameName_comm] at same
  exact Value.isSameName_trans same same'

theorem declares_of_isSameName {r : Request} {name : Value} (same : name.isSameName v = true)
    (declared : r.declares name = true) : r.declares v = true := by
  cases r with
  | declare other => exact Value.isSameName_trans declared same
  | _ => cases declared

theorem removes_of_isSameName {r : Request} {name : Value} (same : name.isSameName v = true)
    (removed : r.removes name = true) : r.removes v = true := by
  cases r with
  | remove other => exact Value.isSameName_trans removed same
  | _ => cases removed

/-- A column that was replaced or taken out does not stand under any name. -/
theorem IsStale.not_standsAt (stale : IsStale start requests place) :
    ¬ StandsAt start requests v place := by
  rintro ⟨before, name, after, made, rfl, same, quiet, declared⟩
  obtain ⟨before', name', after', made', split, declared', later, member, ended⟩ := stale
  obtain ⟨rfl, rfl, rfl⟩ := eq_of_declared split declared declared'
  obtain ⟨undeclared, unremoved⟩ := quiet later member
  rcases ended with again | out
  · rw [declares_of_isSameName same again] at undeclared
    cases undeclared
  · rw [removes_of_isSameName same out] at unremoved
    cases unremoved

/-- No two names lead to one place. -/
theorem items_nodup (fresh : start.names = NameMap.empty)
    (named : (start.serveAll requests).WellNamed) :
    (start.serveAll requests).names.items.Nodup := by
  rw [List.Nodup, NameMap.items, List.pairwise_map]
  refine (List.pairwise_map.mp (start.serveAll requests).names.nodup).imp_of_mem ?_
  intro e other member there different shared
  have first := standsAt_of_mem_entries fresh named member
  have second := standsAt_of_mem_entries fresh named there
  rw [← shared] at second
  have same := first.isSameName second
  rw [Value.isSameName_iff_of_key (named.named other there).1, (named.named e member).1,
    Except.ok.injEq] at same
  exact different same

section Stale

theorem modify_set_self {α : Type} (items : List α) (place : Nat) (x : α) (f : α → α) :
    (items.set place x).modify place f = (items.modify place f).set place (f x) := by
  apply List.ext_getElem?
  intro i
  rw [List.getElem?_modify, List.getElem?_set, List.getElem?_set, List.getElem?_modify,
    List.length_modify]
  by_cases same : place = i
  · simp [same]
  · simp [same]

theorem modify_set_of_ne {α : Type} {place other : Nat} (different : other ≠ place)
    (items : List α) (x : α) (f : α → α) :
    (items.set place x).modify other f = (items.modify other f).set place x := by
  apply List.ext_getElem?
  intro i
  rw [List.getElem?_modify, List.getElem?_set, List.getElem?_set, List.getElem?_modify,
    List.length_modify]
  by_cases same : place = i
  · have apart : other ≠ i := same ▸ different
    simp [same, apart]
  · simp [same]

/-- Two drafts are alike but for the column at a place, and no name leads there. -/
structure AlikeBut (place : Nat) (d e : Draft) : Prop where
  made : place < d.columns.length
  unnamed : ∀ entry ∈ d.names.entries, entry.item ≠ place
  same : ∃ c, e = { d with columns := d.columns.set place c }

/-- No request makes a name lead to a place that was given before and that no name leads to. -/
theorem unnamed_serve (made : place < d.columns.length)
    (unnamed : ∀ entry ∈ d.names.entries, entry.item ≠ place) (r : Request) :
    ∀ entry ∈ (d.serve r).names.entries, entry.item ≠ place := by
  intro entry member
  rcases columns_serve_cases d r with ⟨name, key, rfl, -, -, names⟩ |
    ⟨name, key, rfl, -, -, names⟩ | ⟨other, edit, rfl, -, names⟩ | ⟨-, -, -, -, names⟩
  · rw [names] at member
    rcases NameMap.mem_insertEntry member with old | rfl | ⟨old, -, -, rfl⟩
    · exact unnamed entry old
    · exact made.ne'
    · exact made.ne'
  · rw [names] at member
    exact unnamed entry (List.mem_of_mem_filter member)
  · exact unnamed entry (names ▸ member)
  · exact unnamed entry (names ▸ member)

namespace AlikeBut

theorem serve (alike : AlikeBut place d e) (r : Request) :
    AlikeBut place (d.serve r) (e.serve r) := by
  obtain ⟨made, unnamed, c, rfl⟩ := alike
  refine ⟨lt_of_lt_of_le made (columns_length_serve d r), unnamed_serve made unnamed r, ?_⟩
  cases r with
  | declare name =>
    rw [serve_declare, serve_declare]
    cases name.key with
    | ok key => exact ⟨c, by simp [List.set_append_left _ _ made]⟩
    | error _ => exact ⟨c, rfl⟩
  | remove name =>
    rw [serve_remove, serve_remove]
    cases name.key <;> exact ⟨c, rfl⟩
  | find name =>
    rw [serve_find, serve_find]
    exact ⟨c, rfl⟩
  | editColumn other edit =>
    by_cases own : other = place
    · -- The two drafts go on with different columns at the place.
      refine ⟨c.edit edit, ?_⟩
      rw [serve_editColumn, serve_editColumn, own, editColumn, modify_set_self]
      rfl
    · refine ⟨c, ?_⟩
      rw [serve_editColumn, serve_editColumn, editColumn, modify_set_of_ne own]
      rfl
  | addIndex column keyName =>
    rw [serve_addIndex, serve_addIndex]
    cases Index.of column keyName <;> exact ⟨c, rfl⟩
  | addForeignKey column keyName =>
    rw [serve_addForeignKey, serve_addForeignKey]
    cases ForeignKey.of column keyName <;> exact ⟨c, rfl⟩
  | setPrefix _ | editIndex _ _ | editForeignKey _ _ => exact ⟨c, rfl⟩

theorem serveAll (alike : AlikeBut place d e) (requests : List Request) :
    AlikeBut place (d.serveAll requests) (e.serveAll requests) := by
  induction requests generalizing d e with
  | nil => exact alike
  | cons r rest ih => exact ih (alike.serve r)

/-- The column at the place is not part of the schema. -/
theorem schema_eq (alike : AlikeBut place d e) : e.schema = d.schema := by
  obtain ⟨-, unnamed, c, rfl⟩ := alike
  have columns : NameMap.map (columnAt { d with columns := d.columns.set place c }) d.names =
      d.names.map d.columnAt := by
    apply NameMap.map_congr
    intro entry member
    rw [columnAt, columnAt, List.getElem?_set_ne (unnamed entry member).symm]
  exact congrArg (fun columns => { d.schema with columns }) columns

theorem find_eq (alike : AlikeBut place d e) (v : Value) : e.find v = d.find v := by
  obtain ⟨-, -, c, rfl⟩ := alike
  rfl

end AlikeBut

/-- An edit of a column that was replaced or taken out leaves the draft alike but for that
column. -/
theorem IsStale.alikeBut (fresh : start.names = NameMap.empty)
    (named : (start.serveAll requests).WellNamed) (stale : IsStale start requests place)
    (edit : ColumnEdit) :
    AlikeBut place (start.serveAll requests) ((start.serveAll requests).editColumn place edit) := by
  have made : place < (start.serveAll requests).columns.length := by
    obtain ⟨before, name, after, made, rfl, declared, -⟩ := stale
    exact place_lt_of_declared declared after
  refine ⟨made, ?_, _, congrArg (fun columns => { start.serveAll requests with columns })
    (List.modify_eq_set_get _ made)⟩
  intro entry member same
  exact stale.not_standsAt (same ▸ standsAt_of_mem_entries fresh named member)

end Stale

section Live

theorem map_ite_eq_modify {α : Type} {items : List Nat} {i : Nat} (nodup : items.Nodup)
    (found : items[i]? = some place) (f : Nat → α) (g : α → α) :
    (items.map fun p => if p = place then g (f p) else f p) = (items.map f).modify i g := by
  apply List.ext_getElem?
  intro j
  rw [List.getElem?_map, List.getElem?_modify, List.getElem?_map]
  by_cases same : i = j
  · subst same
    simp [found]
  · cases there : items[j]? with
    | none => rfl
    | some p =>
      have other : p ≠ place := by
        intro shared
        obtain ⟨within, -⟩ := List.getElem?_eq_some_iff.mp found
        rw [shared, ← found] at there
        exact same ((List.getElem?_inj within nodup).mp there.symm)
      simp [same, other]

theorem columnAt_editColumn (there : place < d.columns.length) (edit : ColumnEdit) (other : Nat) :
    (d.editColumn place edit).columnAt other =
      if other = place then (d.columnAt other).edit edit else d.columnAt other := by
  rw [columnAt, columnAt, editColumn, List.getElem?_modify]
  by_cases same : other = place
  · rw [if_pos same, same, List.getElem?_eq_getElem there]
    simp
  · simp [same, Ne.symm same]

/-- An edit of a column that stands under a name changes the one column of the schema that the name
has. -/
theorem columnList_editColumn (fresh : start.names = NameMap.empty)
    (named : (start.serveAll requests).WellNamed) (standing : StandsAt start requests v place)
    (edit : ColumnEdit) :
    ∃ i w, (start.serveAll requests).schema.columnNames[i]? = some w ∧ w.isSameName v = true ∧
      (start.serveAll requests).schema.columnList[i]? = (start.serveAll requests).columns[place]? ∧
      ((start.serveAll requests).editColumn place edit).schema.columnList =
        (start.serveAll requests).schema.columnList.modify i (·.edit edit) := by
  have ⟨key, called⟩ := standing.nameable
  have led := (find?_serveAll_iff fresh called).mpr standing
  obtain ⟨e, member, spelled, rfl⟩ := NameMap.exists_mem_of_find? led
  obtain ⟨i, at_i⟩ := List.mem_iff_getElem?.mp member
  have there := named.placed e member
  have item : (start.serveAll requests).names.items[i]? = some e.item := by
    rw [NameMap.items, List.getElem?_map, at_i]
    rfl
  refine ⟨i, e.spelling, ?_, ?_, ?_, ?_⟩
  · rw [columnNames_schema, NameMap.spellings, List.getElem?_map, at_i]
    rfl
  · rw [Value.isSameName_iff_of_key called, ← spelled]
    exact (named.named e member).1
  · rw [columnList_schema, List.getElem?_map, item, getElem?_columns there]
    rfl
  · have kept : ((start.serveAll requests).editColumn e.item edit).names.items =
        (start.serveAll requests).names.items := rfl
    have one := map_ite_eq_modify (items_nodup fresh named) item
      (start.serveAll requests).columnAt fun c => c.edit edit
    rw [columnList_schema, columnList_schema, kept, ← one]
    exact List.map_congr_left fun other _ => columnAt_editColumn there edit other

end Live

section Entries

variable {before : List Request} {column keyName : Value} {made : Draft}

/-- An index entry is changed by the edits at its place, and by nothing else. -/
theorem indexes_editedInPlace : EditedInPlace indexes Index.edit Request.editIndexAt? := by
  intro d r place i there
  by_cases about : r.stream = .indexes
  · cases r with
    | addIndex column keyName =>
      rw [serve_addIndex]
      cases Index.of column keyName with
      | ok _ => exact getElem?_append_of_some there _
      | error _ => exact there
    | editIndex other edit =>
      refine (getElem?_modify_of_some there other _).trans ?_
      rw [Request.editIndexAt?]
      by_cases same : other = place <;> simp [same]
    | _ => cases about
  · have part := congrArg indexes (part_serve_of_ne d about)
    have kept : (d.serve r).indexes = d.indexes := part
    have unedited : r.editIndexAt? place = none := by
      cases r with
      | editIndex other edit => exact absurd rfl about
      | _ => rfl
    rw [kept, unedited]
    exact there

/-- A foreign key is changed by the edits at its place, and by nothing else. -/
theorem foreignKeys_editedInPlace :
    EditedInPlace foreignKeys ForeignKey.edit Request.editForeignKeyAt? := by
  intro d r place fk there
  by_cases about : r.stream = .foreignKeys
  · cases r with
    | addForeignKey column keyName =>
      rw [serve_addForeignKey]
      cases ForeignKey.of column keyName with
      | ok _ => exact getElem?_append_of_some there _
      | error _ => exact there
    | editForeignKey other edit =>
      refine (getElem?_modify_of_some there other _).trans ?_
      rw [Request.editForeignKeyAt?]
      by_cases same : other = place <;> simp [same]
    | _ => cases about
  · have part := congrArg foreignKeys (part_serve_of_ne d about)
    have kept : (d.serve r).foreignKeys = d.foreignKeys := part
    have unedited : r.editForeignKeyAt? place = none := by
      cases r with
      | editForeignKey other edit => exact absurd rfl about
      | _ => rfl
    rw [kept, unedited]
    exact there

/-- An index entry is added at the end, and is what the edits at its place have made of it. -/
theorem indexes_of_added
    (added : (start.serveAll before).addIndex column keyName = .ok (made, place))
    (after : List Request) :
    ∃ i, Index.of column keyName = .ok i ∧
      made.schema = { (start.serveAll before).schema with
        indexes := (start.serveAll before).schema.indexes ++ [i] } ∧
      place = (start.serveAll before).schema.indexes.length ∧
      (start.serveAll (before ++ .addIndex column keyName :: after)).schema.indexes[place]? =
        some (i.editAll (after.filterMap (·.editIndexAt? place))) := by
  obtain ⟨i, built, rest⟩ := Result.bind_eq_ok_iff.mp added
  cases rest
  have first : ((start.serveAll before).serve (.addIndex column keyName)).indexes =
      (start.serveAll before).indexes ++ [i] := by
    rw [serve_addIndex, built]
  refine ⟨i, built, rfl, rfl, ?_⟩
  rw [serveAll_append]
  refine indexes_editedInPlace.serveAll ?_ after
  rw [first, List.getElem?_concat_length]

/-- A foreign key is added at the end, and is what the edits at its place have made of it. -/
theorem foreignKeys_of_added
    (added : (start.serveAll before).addForeignKey column keyName = .ok (made, place))
    (after : List Request) :
    ∃ fk, ForeignKey.of column keyName = .ok fk ∧
      made.schema = { (start.serveAll before).schema with
        foreignKeys := (start.serveAll before).schema.foreignKeys ++ [fk] } ∧
      place = (start.serveAll before).schema.foreignKeys.length ∧
      (start.serveAll
          (before ++ .addForeignKey column keyName :: after)).schema.foreignKeys[place]? =
        some (fk.editAll (after.filterMap (·.editForeignKeyAt? place))) := by
  obtain ⟨fk, built, rest⟩ := Result.bind_eq_ok_iff.mp added
  cases rest
  have first : ((start.serveAll before).serve (.addForeignKey column keyName)).foreignKeys =
      (start.serveAll before).foreignKeys ++ [fk] := by
    rw [serve_addForeignKey, built]
  refine ⟨fk, built, rfl, rfl, ?_⟩
  rw [serveAll_append]
  refine foreignKeys_editedInPlace.serveAll ?_ after
  rw [first, List.getElem?_concat_length]

end Entries

/-- In a draft after requests, what was declared is linked to the schema by its place. -/
structure LinkedPlaces (start : Draft) (requests : List Request) (d : Draft) : Prop where
  /-- The columns of the schema are those that stand under its names. -/
  listed : List.Forall₂
    (fun v c => ∃ place, StandsAt start requests v place ∧ d.columns[place]? = some c)
    d.schema.columnNames d.schema.columnList
  /-- A column is what the edits at its place have made of it, whether or not it still stands. -/
  own : ∀ before v after made place, requests = before ++ .declare v :: after →
    (start.serveAll before).declare v = .ok (made, place) →
    d.columns[place]? = some (Column.editAll { name := v } (after.filterMap (·.editAt? place)))
  /-- An index entry is the last of the schema when it is added, and from then on what the edits at
  its place have made of it. -/
  ownIndex : ∀ before column keyName after made place,
    requests = before ++ .addIndex column keyName :: after →
    (start.serveAll before).addIndex column keyName = .ok (made, place) →
    ∃ i, Index.of column keyName = .ok i ∧
      made.schema = { (start.serveAll before).schema with
        indexes := (start.serveAll before).schema.indexes ++ [i] } ∧
      place = (start.serveAll before).schema.indexes.length ∧
      d.schema.indexes[place]? = some (i.editAll (after.filterMap (·.editIndexAt? place)))
  /-- A foreign key is the last of the schema when it is added, and from then on what the edits at
  its place have made of it. -/
  ownForeignKey : ∀ before column keyName after made place,
    requests = before ++ .addForeignKey column keyName :: after →
    (start.serveAll before).addForeignKey column keyName = .ok (made, place) →
    ∃ fk, ForeignKey.of column keyName = .ok fk ∧
      made.schema = { (start.serveAll before).schema with
        foreignKeys := (start.serveAll before).schema.foreignKeys ++ [fk] } ∧
      place = (start.serveAll before).schema.foreignKeys.length ∧
      d.schema.foreignKeys[place]? =
        some (fk.editAll (after.filterMap (·.editForeignKeyAt? place)))
  /-- To ask for a column gives the place where the column stands. -/
  found : ∀ v place, d.find v = .ok place ↔ StandsAt start requests v place
  /-- An edit of a column that stands changes the one column of the schema that has its name. -/
  live : ∀ v place edit, StandsAt start requests v place →
    ∃ i w, d.schema.columnNames[i]? = some w ∧ w.isSameName v = true ∧
      d.schema.columnList[i]? = d.columns[place]? ∧
      (d.serve (.editColumn place edit)).schema.columnList =
        d.schema.columnList.modify i (·.edit edit)
  /-- An edit of a column changes nothing but columns, and leaves their names as they are. -/
  columnEdit : ∀ place edit,
    (d.serve (.editColumn place edit)).schema.columnNames = d.schema.columnNames ∧
      (d.serve (.editColumn place edit)).schema.indexes = d.schema.indexes ∧
      (d.serve (.editColumn place edit)).schema.foreignKeys = d.schema.foreignKeys ∧
      (d.serve (.editColumn place edit)).schema.tableName = d.schema.tableName
  /-- An edit of an index entry changes that entry of the schema, and nothing else. -/
  indexEdit : ∀ place edit, (d.serve (.editIndex place edit)).schema =
    { d.schema with indexes := d.schema.indexes.modify place (·.edit edit) }
  /-- An edit of a foreign key changes that foreign key of the schema, and nothing else. -/
  foreignKeyEdit : ∀ place edit, (d.serve (.editForeignKey place edit)).schema =
    { d.schema with foreignKeys := d.schema.foreignKeys.modify place (·.edit edit) }
  /-- An edit of a column that was replaced or taken out is not seen in the schema, nor in what is
  found, whatever is requested later. -/
  stale : ∀ place edit later, IsStale start requests place →
    (d.serveAll (.editColumn place edit :: later)).schema = (d.serveAll later).schema ∧
      (d.serveAll (.editColumn place edit :: later)).schema.issues =
        (d.serveAll later).schema.issues ∧
      (d.serveAll (.editColumn place edit :: later)).schema.clauses =
        (d.serveAll later).schema.clauses ∧
      ∀ v, (d.serveAll (.editColumn place edit :: later)).find v = (d.serveAll later).find v

/-- What was declared stays linked to the schema by its place after any requests. -/
theorem linkedPlaces_serveAll (name : Value) (requests : List Request) :
    LinkedPlaces { baseName := name } requests (serveAll { baseName := name } requests) := by
  have fresh : Draft.names { baseName := name } = NameMap.empty := rfl
  have named : (serveAll { baseName := name } requests).WellNamed :=
    (WellNamed.of_no_names fresh).serveAll requests
  constructor
  case listed => exact columnList_serveAll fresh named
  case own =>
    rintro before v after made place rfl declared
    exact columns_of_declared declared
  case ownIndex =>
    rintro before column keyName after made place rfl added
    exact indexes_of_added added after
  case ownForeignKey =>
    rintro before column keyName after made place rfl added
    exact foreignKeys_of_added added after
  case found => exact fun v place => find_serveAll_iff fresh
  case live => exact fun v place edit standing => columnList_editColumn fresh named standing edit
  case columnEdit =>
    intro place edit
    exact ⟨by rw [serve_editColumn, columnNames_schema, columnNames_schema]; rfl, rfl, rfl, rfl⟩
  case indexEdit => exact fun place edit => rfl
  case foreignKeyEdit => exact fun place edit => rfl
  case stale =>
    intro place edit later stale
    have alike := (stale.alikeBut fresh named edit).serveAll later
    have same : ((serveAll { baseName := name } requests).serveAll
        (.editColumn place edit :: later)).schema = _ := alike.schema_eq
    rw [same]
    exact ⟨rfl, rfl, rfl, alike.find_eq⟩

end TableDdl.Draft
