import TableDdl.Proofs.Draft.Served

/-!
# The history of a draft

What stands under a name after requests can be read off the requests: it is the column that the last
of them to declare the name has made, unless the name was taken out since. What has become of that
column can be read off the requests, too: it was declared without anything but its name, and then
edited at its place.
-/

namespace TableDdl.Draft

/-- Whether a request is to declare a column of a name. -/
def Request.declares (v : Value) : Request → Bool
  | .declare name => name.isSameName v
  | _ => false

/-- Whether a request is to take out the column of a name. -/
def Request.removes (v : Value) : Request → Bool
  | .remove name => name.isSameName v
  | _ => false

/-- The edit of the column at a place that a request is for, if it is for one. -/
def Request.editAt? (place : Nat) : Request → Option ColumnEdit
  | .editColumn other edit => if other = place then some edit else none
  | _ => none

/-- Whether a name stands after requests: one of them declares it, and none after it takes it
out. -/
def stands (v : Value) : List Request → Bool
  | [] => false
  | r :: later => (r.declares v && !later.any (·.removes v)) || stands v later

variable {d : Draft} {r : Request} {v : Value} {key : Key}

/-- What a request can do to the columns and to their names. -/
theorem columns_serve_cases (d : Draft) (r : Request) :
    (∃ name key, r = .declare name ∧ name.key = .ok key ∧
      (d.serve r).columns = d.columns ++ [{ name := name }] ∧
      (d.serve r).names = d.names.insert key name d.columns.length) ∨
    (∃ name key, r = .remove name ∧ name.key = .ok key ∧
      (d.serve r).columns = d.columns ∧ (d.serve r).names = d.names.erase key) ∨
    (∃ place edit, r = .editColumn place edit ∧
      (d.serve r).columns = d.columns.modify place (·.edit edit) ∧ (d.serve r).names = d.names) ∨
    ((∀ v, r.declares v = false) ∧ (∀ v, r.removes v = false) ∧ (∀ place, r.editAt? place = none) ∧
      (d.serve r).columns = d.columns ∧ (d.serve r).names = d.names) := by
  cases r with
  | declare name =>
    rw [serve_declare]
    cases called : name.key with
    | ok key => exact .inl ⟨name, key, rfl, called, rfl, rfl⟩
    | error f =>
      have nameless := Value.isSameName_of_key_eq_error called
      exact .inr (.inr (.inr ⟨nameless, fun _ => rfl, fun _ => rfl, rfl, rfl⟩))
  | remove name =>
    rw [serve_remove]
    cases called : name.key with
    | ok key => exact .inr (.inl ⟨name, key, rfl, called, rfl, rfl⟩)
    | error f =>
      have nameless := Value.isSameName_of_key_eq_error called
      exact .inr (.inr (.inr ⟨fun _ => rfl, nameless, fun _ => rfl, rfl, rfl⟩))
  | editColumn place edit => exact .inr (.inr (.inl ⟨place, edit, rfl, rfl, rfl⟩))
  | find name =>
    rw [serve_find]
    exact .inr (.inr (.inr ⟨fun _ => rfl, fun _ => rfl, fun _ => rfl, rfl, rfl⟩))
  | addIndex column keyName =>
    rw [serve_addIndex]
    refine .inr (.inr (.inr ⟨fun _ => rfl, fun _ => rfl, fun _ => rfl, ?_, ?_⟩)) <;>
      cases Index.of column keyName <;> rfl
  | addForeignKey column keyName =>
    rw [serve_addForeignKey]
    refine .inr (.inr (.inr ⟨fun _ => rfl, fun _ => rfl, fun _ => rfl, ?_, ?_⟩)) <;>
      cases ForeignKey.of column keyName <;> rfl
  | setPrefix _ | editIndex _ _ | editForeignKey _ _ =>
    exact .inr (.inr (.inr ⟨fun _ => rfl, fun _ => rfl, fun _ => rfl, rfl, rfl⟩))

/-- A declaration puts a new place under its name, and to take a name out leaves none. -/
theorem find?_names_serve (d : Draft) (r : Request) (called : v.key = .ok key) :
    (d.serve r).names.find? key =
      if r.declares v then some d.columns.length
      else if r.removes v then none
      else d.names.find? key := by
  rcases columns_serve_cases d r with ⟨name, own, rfl, named, -, names⟩ |
    ⟨name, own, rfl, named, -, names⟩ | ⟨place, edit, rfl, -, names⟩ |
    ⟨undeclared, unremoved, -, -, names⟩
  · have same : Request.declares v (.declare name) = decide (key = own) := by
      rw [Request.declares, Bool.eq_iff_iff, Value.isSameName_iff_of_key called, named]
      simp [eq_comm]
    rw [names, NameMap.find?_insert, same]
    by_cases asked : key = own <;> simp [asked, Request.removes]
  · have same : Request.removes v (.remove name) = decide (key = own) := by
      rw [Request.removes, Bool.eq_iff_iff, Value.isSameName_iff_of_key called, named]
      simp [eq_comm]
    rw [names, NameMap.find?_erase, same]
    by_cases asked : key = own <;> simp [asked, Request.declares]
  · rw [names]
    simp [Request.declares, Request.removes]
  · rw [names]
    simp [undeclared, unremoved]

section InPlace

variable {α ε : Type} {part : Draft → List α} {edit : α → ε → α}
  {edit? : Nat → Request → Option ε} {place : Nat} {x : α}

/-- What is in a list of a draft keeps its place there whatever is requested, and is changed by the
edits at its place, and by nothing else. -/
def EditedInPlace (part : Draft → List α) (edit : α → ε → α)
    (edit? : Nat → Request → Option ε) : Prop :=
  ∀ d r place x, (part d)[place]? = some x →
    (part (d.serve r))[place]? = some ((edit? place r).elim x (edit x))

theorem EditedInPlace.serveAll (inPlace : EditedInPlace part edit edit?)
    (there : (part d)[place]? = some x) (requests : List Request) :
    (part (d.serveAll requests))[place]? =
      some ((requests.filterMap (edit? place)).foldl edit x) := by
  induction requests generalizing d x with
  | nil => exact there
  | cons r rest ih =>
    refine (ih (inPlace d r place x there)).trans (congrArg some ?_)
    rw [List.filterMap_cons]
    cases edit? place r <;> rfl

theorem getElem?_append_of_some {items : List α} (there : items[place]? = some x)
    (more : List α) : (items ++ more)[place]? = some x := by
  rw [List.getElem?_append_left (List.getElem?_eq_some_iff.mp there).1, there]

theorem getElem?_modify_of_some {items : List α} (there : items[place]? = some x) (other : Nat)
    (f : α → α) : (items.modify other f)[place]? = some (if other = place then f x else x) := by
  rw [List.getElem?_modify, there]
  by_cases same : other = place <;> simp [same]

end InPlace

/-- A column that was declared is changed by the edits at its place, and by nothing else. -/
theorem columns_editedInPlace : EditedInPlace columns Column.edit Request.editAt? := by
  intro d r place c there
  rcases columns_serve_cases d r with ⟨name, own, rfl, -, columns, -⟩ |
    ⟨name, own, rfl, -, columns, -⟩ | ⟨other, edit, rfl, columns, -⟩ | ⟨-, -, unedited, columns, -⟩
  · rw [columns]
    exact getElem?_append_of_some there _
  · rw [columns]
    exact there
  · rw [columns, getElem?_modify_of_some there, Request.editAt?]
    by_cases same : other = place <;> simp [same]
  · rw [columns, unedited]
    exact there

theorem columns_length_serve (d : Draft) (r : Request) :
    d.columns.length ≤ (d.serve r).columns.length := by
  rcases columns_serve_cases d r with ⟨_, _, rfl, -, columns, -⟩ | ⟨_, _, rfl, -, columns, -⟩ |
    ⟨_, _, rfl, columns, -⟩ | ⟨-, -, -, columns, -⟩
  · simp [columns]
  · simp [columns]
  · rw [columns, List.length_modify]
  · simp [columns]

/-- A name stands after one more request exactly if that request declares it, or it stood before and
is not taken out. -/
theorem stands_concat (v : Value) (requests : List Request) (r : Request) :
    stands v (requests ++ [r]) = (r.declares v || (stands v requests && !r.removes v)) := by
  induction requests with
  | nil => simp [stands]
  | cons first rest ih =>
    rw [List.cons_append, stands, ih, stands, List.any_append, List.any_cons, List.any_nil,
      Bool.or_false]
    cases first.declares v <;> cases r.declares v <;> cases r.removes v <;>
      cases rest.any (·.removes v) <;> cases stands v rest <;> simp

/-- The column that was made at a place stands under a name after requests: the request that made it
is the last to declare the name, and the name is not taken out after it. -/
def StandsAt (start : Draft) (requests : List Request) (v : Value) (place : Nat) : Prop :=
  ∃ before name after made, requests = before ++ .declare name :: after ∧
    name.isSameName v = true ∧
    (∀ later ∈ after, later.declares v = false ∧ later.removes v = false) ∧
    (start.serveAll before).declare name = .ok (made, place)

theorem place_of_declare {name : Value} {made : Draft} {place : Nat}
    (declared : d.declare name = .ok (made, place)) : place = d.columns.length := by
  obtain ⟨_, _, rest⟩ := Result.bind_eq_ok_iff.mp declared
  cases rest
  rfl

theorem declare_of_key {name : Value} (called : name.key = .ok key) :
    d.declare name =
      .ok ({ d with columns := d.columns ++ [{ name }]
                    names := d.names.insert key name d.columns.length }, d.columns.length) := by
  rw [declare, called]
  rfl

variable {start : Draft} {requests : List Request} {place : Nat}

namespace StandsAt

/-- The column of the last request stands under the name that it declares. -/
theorem last (declared : r.declares v = true) :
    StandsAt start (requests ++ [r]) v (start.serveAll requests).columns.length := by
  cases r with
  | declare name =>
    obtain ⟨key, called, -⟩ := Value.isSameName_iff.mp declared
    exact ⟨requests, name, [], _, rfl, declared, by simp, declare_of_key called⟩
  | _ => cases declared

theorem concat (standing : StandsAt start requests v place) (undeclared : r.declares v = false)
    (unremoved : r.removes v = false) : StandsAt start (requests ++ [r]) v place := by
  obtain ⟨before, name, after, made, rfl, same, quiet, declared⟩ := standing
  refine ⟨before, name, after ++ [r], made, by simp, same, ?_, declared⟩
  intro later member
  rcases List.mem_append.mp member with old | new
  · exact quiet later old
  · cases List.mem_singleton.mp new
    exact ⟨undeclared, unremoved⟩

theorem of_concat (standing : StandsAt start (requests ++ [r]) v place) :
    (r.declares v = true ∧ place = (start.serveAll requests).columns.length) ∨
      (r.declares v = false ∧ r.removes v = false ∧ StandsAt start requests v place) := by
  obtain ⟨before, name, after, made, split, same, quiet, declared⟩ := standing
  rcases List.eq_nil_or_concat after with rfl | ⟨middle, other, rfl⟩
  · obtain ⟨rfl, last⟩ := List.append_inj' split rfl
    cases last
    exact .inl ⟨same, place_of_declare declared⟩
  · rw [List.concat_eq_append, ← List.cons_append, ← List.append_assoc] at split
    obtain ⟨rfl, last⟩ := List.append_inj' split rfl
    cases last
    obtain ⟨undeclared, unremoved⟩ := quiet r (by simp)
    refine .inr ⟨undeclared, unremoved, before, name, middle, made, rfl, same, ?_, declared⟩
    intro later member
    exact quiet later (by simp [member])

end StandsAt

theorem standsAt_concat_iff :
    StandsAt start (requests ++ [r]) v place ↔
      (r.declares v = true ∧ place = (start.serveAll requests).columns.length) ∨
        (r.declares v = false ∧ r.removes v = false ∧ StandsAt start requests v place) := by
  constructor
  · exact StandsAt.of_concat
  · rintro (⟨declared, rfl⟩ | ⟨undeclared, unremoved, standing⟩)
    · exact .last declared
    · exact standing.concat undeclared unremoved

theorem StandsAt.nameable (standing : StandsAt start requests v place) : v.Nameable := by
  obtain ⟨before, name, after, made, -, same, -⟩ := standing
  obtain ⟨key, -, called⟩ := Value.isSameName_iff.mp same
  exact ⟨key, called⟩

/-- A name leads to the place whose column stands under it. -/
theorem find?_serveAll_iff (fresh : start.names = NameMap.empty) (called : v.key = .ok key) :
    (start.serveAll requests).names.find? key = some place ↔ StandsAt start requests v place := by
  induction requests using List.reverseRecOn with
  | nil =>
    constructor
    · intro found
      rw [serveAll, List.foldl_nil, fresh] at found
      cases found
    · rintro ⟨before, name, after, made, split, -⟩
      simp at split
  | append_singleton requests r ih =>
    rw [serveAll_concat, find?_names_serve _ r called, standsAt_concat_iff]
    cases r.declares v with
    | true => simpa using eq_comm
    | false =>
      cases r.removes v with
      | true => simp
      | false => simpa using ih

/-- To ask for a column gives the place whose column stands under the name. -/
theorem find_serveAll_iff (fresh : start.names = NameMap.empty) :
    (start.serveAll requests).find v = .ok place ↔ StandsAt start requests v place := by
  rw [find_eq_ok_iff]
  constructor
  · rintro ⟨key, called, led⟩
    exact (find?_serveAll_iff fresh called).mp led
  · intro standing
    obtain ⟨key, called⟩ := standing.nameable
    exact ⟨key, called, (find?_serveAll_iff fresh called).mpr standing⟩

/-- A name is there exactly if it stands. -/
theorem contains_serveAll (fresh : start.names = NameMap.empty) (called : v.key = .ok key) :
    (start.serveAll requests).names.contains key = stands v requests := by
  rw [NameMap.contains_eq_isSome_find?]
  induction requests using List.reverseRecOn with
  | nil =>
    rw [serveAll, List.foldl_nil, fresh]
    rfl
  | append_singleton requests r ih =>
    rw [serveAll_concat, find?_names_serve _ r called, stands_concat, ← ih]
    cases r.declares v with
    | true => rfl
    | false => cases r.removes v <;> simp

/-- The column that a declaration has made is what the edits at its place have made of a column with
nothing but a name. -/
theorem columns_of_declared {before after : List Request} {name : Value} {made : Draft}
    (declared : (start.serveAll before).declare name = .ok (made, place)) :
    (start.serveAll (before ++ .declare name :: after)).columns[place]? =
      some (Column.editAll { name } (after.filterMap (·.editAt? place))) := by
  obtain ⟨key, called, -⟩ := Result.bind_eq_ok_iff.mp declared
  cases place_of_declare declared
  have first : ((start.serveAll before).serve (.declare name)).columns =
      (start.serveAll before).columns ++ [{ name := name }] := by
    rw [serve_declare, called]
  rw [serveAll_append]
  refine columns_editedInPlace.serveAll ?_ after
  rw [first, List.getElem?_concat_length]

/-- Every entry leads to the column that stands under its name. -/
theorem standsAt_of_mem_entries (fresh : start.names = NameMap.empty)
    (named : (start.serveAll requests).WellNamed) {e : NameMap.Entry Nat}
    (member : e ∈ (start.serveAll requests).names.entries) :
    StandsAt start requests e.spelling e.item :=
  (find?_serveAll_iff fresh (named.named e member).1).mp (NameMap.find?_of_mem member)

/-- The columns of the schema are those that stand under its names, in the order of the names. -/
theorem columnList_serveAll (fresh : start.names = NameMap.empty)
    (named : (start.serveAll requests).WellNamed) :
    List.Forall₂
      (fun v c => ∃ place, StandsAt start requests v place ∧
        (start.serveAll requests).columns[place]? = some c)
      (start.serveAll requests).schema.columnNames
      (start.serveAll requests).schema.columnList := by
  rw [columnNames_schema, columnList_schema, NameMap.spellings, NameMap.items, List.map_map,
    List.forall₂_map_left_iff, List.forall₂_map_right_iff, List.forall₂_same]
  intro e member
  exact ⟨e.item, standsAt_of_mem_entries fresh named member,
    getElem?_columns (named.placed e member)⟩

end TableDdl.Draft
