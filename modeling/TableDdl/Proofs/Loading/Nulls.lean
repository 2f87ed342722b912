import TableDdl.Proofs.Loading.Alike

/-!
# Nulls

To give a field of a description the value null is to leave the field out, for every field but the
kind of an index entry. The kind is read as a text without a look at whether it is null, and the
text of null is the name of no kind. So an index entry with a null for its kind is refused wherever
the reading comes to the kind, in particular where the same entry without a kind is accepted.
-/

namespace TableDdl.Loading

section Changes

/-- Give a field a value: in its place, or behind all others if it is not there. -/
def give (name : String) (v : Value) : List (Value × Value) → List (Value × Value)
  | [] => [(.str name, v)]
  | entry :: rest =>
    if entry.1 = .str name then (entry.1, v) :: rest else entry :: give name v rest

/-- Leave a field out. -/
def leaveOut (name : String) (entries : List (Value × Value)) : List (Value × Value) :=
  entries.filter fun entry => entry.1 ≠ .str name

/-- Change what a field holds. -/
def changeField (name : String) (change : Value → Value) (entries : List (Value × Value)) :
    List (Value × Value) :=
  entries.map fun entry => if entry.1 = .str name then (entry.1, change entry.2) else entry

/-- Change a mapping. -/
def changeMapping (change : List (Value × Value) → List (Value × Value)) : Value → Value
  | .map entries => .map (change entries)
  | v => v

/-- Change the mapping at a place in a list. -/
def changeListed (number : Nat) (change : List (Value × Value) → List (Value × Value)) :
    Value → Value
  | .list items => .list (items.modify number (changeMapping change))
  | v => v

end Changes

/-- One of the descriptions that the description of a table consists of: its own, or that of a part
at a place in the list of these parts. -/
inductive Owner where
  | table
  | listed (part : Part) (number : Nat)

/-- What an owner describes. -/
def Owner.part : Owner → Part
  | .table => .table
  | .listed part _ => part

/-- Change the description of an owner in the description of a table. -/
def Owner.change (change : List (Value × Value) → List (Value × Value)) :
    Owner → List (Value × Value) → List (Value × Value)
  | .table, entries => change entries
  | .listed part number, entries => changeField part.listField (changeListed number change) entries

/-- To give the field of an owner the value null is to leave it out: the same schema is read from
the description of the table, or the same error is reported. -/
def NullIsAbsent (owner : Owner) (name : String) (entries : List (Value × Value)) : Prop :=
  table (.map (owner.change (give name .null) entries)) =
    table (.map (owner.change (leaveOut name) entries))

variable {alike : Part → Value → Value → Prop} {owner : Owner} {part : Part} {number : Nat}
  {name other : String} {v column : Value} {entries described : List (Value × Value)}
  {change change' : List (Value × Value) → List (Value × Value)}

section Lookup

@[grind =] theorem leaveOut_cons (entry : Value × Value) (rest : List (Value × Value)) :
    leaveOut name (entry :: rest) =
      if entry.1 = .str name then leaveOut name rest else entry :: leaveOut name rest := by
  by_cases here : entry.1 = .str name <;> simp [leaveOut, here]

@[grind =] theorem changeField_cons {change : Value → Value} (entry : Value × Value)
    (rest : List (Value × Value)) :
    changeField name change (entry :: rest) =
      (if entry.1 = .str name then (entry.1, change entry.2) else entry) ::
        changeField name change rest :=
  rfl

theorem field?_give :
    Value.field? (give name v entries) other =
      if other = name then some v else Value.field? entries other := by
  induction entries with
  | nil => grind [give, Value.field?_cons, Value.field?]
  | cons entry rest ih => grind [give, Value.field?_cons]

theorem field?_leaveOut :
    Value.field? (leaveOut name entries) other =
      if other = name then none else Value.field? entries other := by
  induction entries with
  | nil => simp [leaveOut, Value.field?]
  | cons entry rest ih => grind [Value.field?_cons]

theorem field_leaveOut_of_ne (differ : other ≠ name) :
    Value.field (leaveOut name entries) other = Value.field entries other := by
  rw [Value.field, field?_leaveOut, if_neg differ, Value.field]

theorem field?_changeField {change : Value → Value} :
    Value.field? (changeField name change entries) other =
      if other = name then (Value.field? entries other).map change
      else Value.field? entries other := by
  induction entries with
  | nil => simp [changeField, Value.field?]
  | cons entry rest ih => grind [Value.field?_cons]

theorem keys_changeField (name : String) (change : Value → Value)
    (entries : List (Value × Value)) :
    (changeField name change entries).map Prod.fst = entries.map Prod.fst := by
  induction entries with
  | nil => rfl
  | cons entry rest ih => grind

theorem leaveOut_changeField (name : String) (change : Value → Value)
    (entries : List (Value × Value)) :
    leaveOut name (changeField name change entries) = leaveOut name entries := by
  induction entries with
  | nil => rfl
  | cons entry rest ih => grind

/-- A known field makes no difference to the unknown ones. -/
theorem unknownNames_give (known : name ∈ part.fields) :
    unknownNames part ((give name v entries).map Prod.fst) =
      unknownNames part (entries.map Prod.fst) := by
  unfold unknownNames
  induction entries with
  | nil => simp [give, known]
  | cons entry rest ih =>
    by_cases here : entry.1 = .str name
    · simp [give, here]
    · simp only [give, here, if_false, List.map_cons, List.filter_cons, ih]

theorem unknownNames_leaveOut (known : name ∈ part.fields) :
    unknownNames part ((leaveOut name entries).map Prod.fst) =
      unknownNames part (entries.map Prod.fst) := by
  unfold unknownNames
  induction entries with
  | nil => rfl
  | cons entry rest ih =>
    by_cases here : entry.1 = .str name
    · simpa [leaveOut_cons, here, known] using ih
    · simp only [leaveOut_cons, here, if_false, List.map_cons, List.filter_cons, ih]

end Lookup

section Alike

/-- With the value null, a field other than the kind of an index entry is read as if it was left
out. -/
theorem readAlike_give_null (known : name ∈ part.fields)
    (other : part = .index → name ≠ "kind") :
    ReadAlike alike part (give name .null entries) (leaveOut name entries) where
  unknown := by rw [unknownNames_give known, unknownNames_leaveOut known]
  fields field _ := by
    have same : Value.field (give name .null entries) field =
        Value.field (leaveOut name entries) field := by
      by_cases here : field = name <;> simp [Value.field, field?_give, field?_leaveOut, here]
    rw [same]
    exact .same _
  kind index := by
    have differ : "kind" ≠ name := (other index).symm
    rw [kindOf, kindOf, field?_give, field?_leaveOut, if_neg differ, if_neg differ]

theorem forall₂_modify {α : Type} {related : α → α → Prop} (refl : ∀ a, related a a) {f g : α → α}
    {items : List α} {number : Nat} (there : ∀ a, items[number]? = some a → related (f a) (g a)) :
    List.Forall₂ related (items.modify number f) (items.modify number g) := by
  induction items generalizing number with
  | nil => simp
  | cons item rest ih =>
    cases number with
    | zero => exact .cons (there item rfl) (List.forall₂_same.mpr fun a _ => refl a)
    | succ number => exact .cons (refl item) (ih there)

/-- The description of a table is read alike after two changes to a part of it that is read alike
after them. -/
theorem tableAlike_listed (each : ∀ items described,
      Value.field entries part.listField = .list items →
        items[number]? = some (.map described) →
          PartAlike part (.map (change described)) (.map (change' described))) :
    TableAlike (.map ((Owner.listed part number).change change entries))
      (.map ((Owner.listed part number).change change' entries)) := by
  refine .mapping ⟨?_, fun field _ => ?_, nofun⟩
  · simp only [Owner.change, keys_changeField]
  · simp only [Owner.change, Value.field, field?_changeField]
    by_cases here : field = part.listField
    · subst here
      rw [if_pos rfl, if_pos rfl]
      cases held : Value.field? entries part.listField with
      | none => exact .same .null
      | some v =>
        cases v with
        | list items =>
          have listed : Value.field entries part.listField = .list items := by
            rw [Value.field, held]
            rfl
          refine .parts part rfl (forall₂_modify .same fun item there => ?_)
          cases item with
          | map described => exact each items described listed there
          | _ => exact .same _
        | _ => exact .same _
    · rw [if_neg here, if_neg here]
      exact .same _

/-- Any field but the kind of an index entry can be given the value null instead of being left
out. -/
theorem nullIsAbsent_of_ne_kind (known : name ∈ owner.part.fields)
    (other : owner.part = .index → name ≠ "kind") : NullIsAbsent owner name entries := by
  refine table_congr ?_
  cases owner with
  | table => exact .mapping (readAlike_give_null known other)
  | listed part number =>
    exact tableAlike_listed fun _ _ _ _ => .mapping (readAlike_give_null known other)

end Alike

section Kind

/-- What comes of an index entry on a column that gives null for its kind. -/
def nullKind (column : Value) : Attempt LoadError Schema := do
  refuse (.unknownKind "none" (← column.text))

/-- A mapping at a place in the list of the index entries of a table. -/
def IndexAt (entries : List (Value × Value)) (number : Nat) (described : List (Value × Value)) :
    Prop :=
  ∃ items, Value.field entries "indexes" = .list items ∧ items[number]? = some (.map described)

/-- The description of a table without its keys. -/
def withoutKeys (entries : List (Value × Value)) : List (Value × Value) :=
  leaveOut "foreign_keys" (leaveOut "indexes" entries)

/-- The reading of a table comes to the kind of an index entry: the table is accepted without its
keys, the entries before are added, and the entry has no unknown fields and is on a column. -/
inductive ComesToKind (entries : List (Value × Value)) (number : Nat) (column : Value) : Prop
  | intro {items : List Value} {described : List (Value × Value)} {s t : Schema}
    (listed : Value.field entries "indexes" = .list items)
    (there : items[number]? = some (.map described))
    (accepted : table (.map (withoutKeys entries)) = .ok s)
    (added : (items.take number).foldlM addIndex s = .ok t)
    (known : ∀ entry ∈ described, IsField .index entry.1)
    (given : (Value.field described "column").given? = some column)

variable {items : List Value} {s : Schema}

theorem nullKind_ne_ok (column : Value) (s : Schema) : nullKind column ≠ .ok s := by
  unfold nullKind
  cases column.text <;> exact nofun

theorem nullKind_bind (column : Value) (f : Schema → Attempt LoadError Schema) :
    (nullKind column >>= f) = nullKind column := by
  unfold nullKind
  cases column.text <;> rfl

/-- The keys of a table are added to what it is without them. -/
theorem table_eq_addKeys (entries : List (Value × Value)) :
    table (.map entries) =
      (table (.map (withoutKeys entries)) >>= fun s =>
        addParts addIndex s (Value.field entries "indexes") >>= fun s =>
          addParts addForeignKey s (Value.field entries "foreign_keys")) := by
  have unknown : unknownNames .table ((withoutKeys entries).map Prod.fst) =
      unknownNames .table (entries.map Prod.fst) := by
    rw [withoutKeys, unknownNames_leaveOut (by decide), unknownNames_leaveOut (by decide)]
  have same (field : String) (notIndex : field ≠ "indexes") (notForeign : field ≠ "foreign_keys") :
      Value.field (withoutKeys entries) field = Value.field entries field := by
    rw [withoutKeys, field_leaveOut_of_ne notForeign, field_leaveOut_of_ne notIndex]
  have noIndexes : Value.field (withoutKeys entries) "indexes" = .null := by
    simp [withoutKeys, Value.field, field?_leaveOut]
  have noForeignKeys : Value.field (withoutKeys entries) "foreign_keys" = .null := by
    simp [withoutKeys, Value.field, field?_leaveOut]
  have nothing (add : Schema → Value → Attempt LoadError Schema) (s : Schema) :
      addParts add s .null = .ok s := rfl
  unfold table
  rw [bind_assoc]
  refine description_bind_congr (by rw [unknown]) fun _ => ?_
  rw [same "table" (by decide) (by decide), same "prefix" (by decide) (by decide),
    same "columns" (by decide) (by decide), noIndexes, noForeignKeys]
  cases (Value.field entries "table").given? with
  | none => rfl
  | some name => simp [nothing, bind_assoc]

/-- A change to an index entry comes to be seen when the entries before it are added. -/
theorem table_change_index (listed : Value.field entries "indexes" = .list items)
    (there : items[number]? = some (.map described))
    (change : List (Value × Value) → List (Value × Value)) :
    table (.map ((Owner.listed .index number).change change entries)) =
      (table (.map (withoutKeys entries)) >>= fun s =>
        (items.take number).foldlM addIndex s >>= fun s =>
          addIndex s (.map (change described)) >>= fun s =>
            (items.drop (number + 1)).foldlM addIndex s >>= fun s =>
              addParts addForeignKey s (Value.field entries "foreign_keys")) := by
  obtain ⟨inside, found⟩ := List.getElem?_eq_some_iff.mp there
  have found? : Value.field? entries "indexes" = some (.list items) := by
    unfold Value.field at listed
    cases held : Value.field? entries "indexes" with
    | none => simp [held] at listed
    | some v => simpa [held] using listed
  have changed : Value.field ((Owner.listed .index number).change change entries) "indexes" =
      .list (items.take number ++ .map (change described) :: items.drop (number + 1)) := by
    simp [Owner.change, Part.listField, Value.field, field?_changeField, found?, changeListed,
      List.modify_eq_take_cons_drop inside, found, changeMapping]
  have untouched : Value.field ((Owner.listed .index number).change change entries)
      "foreign_keys" = Value.field entries "foreign_keys" := by
    simp [Owner.change, Part.listField, Value.field, field?_changeField]
  have bare : withoutKeys ((Owner.listed .index number).change change entries) =
      withoutKeys entries := by
    rw [withoutKeys, Owner.change, Part.listField, leaveOut_changeField, withoutKeys]
  rw [table_eq_addKeys, changed, untouched, bare]
  simp [addParts, elements_list, List.foldlM_append, bind_assoc]

theorem known_give_iff (name : String) (v : Value) (known : name ∈ part.fields) :
    (∀ entry ∈ give name v described, IsField part entry.1) ↔
      ∀ entry ∈ described, IsField part entry.1 := by
  rw [← List.forall_mem_map, ← unknownNames_eq_nil_iff, unknownNames_give known,
    unknownNames_eq_nil_iff, List.forall_mem_map]

theorem addIndex_give_nullKind (known : ∀ entry ∈ described, IsField .index entry.1)
    (given : (Value.field described "column").given? = some column) (s : Schema) :
    addIndex s (.map (give "kind" .null described)) = nullKind column := by
  have read : description .index (.map (give "kind" .null described)) =
      .ok (give "kind" .null described) :=
    description_eq_ok_iff.mpr ⟨rfl, (known_give_iff "kind" .null (by decide)).mpr known⟩
  have held : Value.field (give "kind" .null described) "column" =
      Value.field described "column" := by
    simp [Value.field, field?_give]
  have word : ((Value.field? (give "kind" .null described) "kind").getD (.str "plain")).text =
      .ok "None" := by
    rw [field?_give, if_pos rfl]
    rfl
  rw [addIndex, read, Result.ok_bind, held, given]
  simp only [word]
  rfl

/-- Where the reading of an index entry does not come to its kind, a null makes no difference. -/
theorem addIndex_give_null_of_not
    (short : ¬ ((∀ entry ∈ described, IsField .index entry.1) ∧
      ∃ column, (Value.field described "column").given? = some column)) (s : Schema) :
    addIndex s (.map (give "kind" .null described)) =
      addIndex s (.map (leaveOut "kind" described)) := by
  have unknown : unknownNames .index ((give "kind" .null described).map Prod.fst) =
      unknownNames .index ((leaveOut "kind" described).map Prod.fst) := by
    rw [unknownNames_give (by decide), unknownNames_leaveOut (by decide)]
  refine description_bind_congr (by rw [unknown]) fun none => ?_
  rw [unknownNames_give (by decide), unknownNames_eq_nil_iff, List.forall_mem_map] at none
  have missing : (Value.field described "column").given? = Option.none := by
    rw [Option.eq_none_iff_forall_ne_some]
    exact fun column given => short ⟨none, column, given⟩
  simp only [Value.field, field?_give, field?_leaveOut] at missing ⊢
  simp [missing]

/-- Where the reading comes to the kind of an index entry, a null for it is refused. -/
theorem table_of_comesToKind (comes : ComesToKind entries number column) :
    table (.map ((Owner.listed .index number).change (give "kind" .null) entries)) =
      nullKind column := by
  obtain ⟨listed, there, accepted, added, known, given⟩ := comes
  rw [table_change_index listed there, accepted, Result.ok_bind, added, Result.ok_bind,
    addIndex_give_nullKind known given, nullKind_bind]

/-- Where the reading does not come to the kind of an index entry, it makes no difference. -/
theorem nullIsAbsent_of_not_comesToKind (short : ∀ column, ¬ ComesToKind entries number column) :
    NullIsAbsent (.listed .index number) "kind" entries := by
  unfold NullIsAbsent
  by_cases is : ∃ described, IndexAt entries number described
  · obtain ⟨described, items, listed, there⟩ := is
    rw [table_change_index listed there, table_change_index listed there]
    cases accepted : table (.map (withoutKeys entries)) with
    | error e => rfl
    | ok s =>
      rw [Result.ok_bind, Result.ok_bind]
      cases added : (items.take number).foldlM addIndex s with
      | error e => rfl
      | ok t =>
        rw [Result.ok_bind, Result.ok_bind, addIndex_give_null_of_not]
        rintro ⟨known, column, given⟩
        exact short column ⟨listed, there, accepted, added, known, given⟩
  · -- There is no such entry, so nothing is changed by leaving its kind out or by giving it.
    refine table_congr (tableAlike_listed fun items described listed there => ?_)
    exact absurd ⟨described, items, listed, there⟩ is

/-- The reading of a table that is accepted comes to the kinds of all its index entries. -/
theorem exists_comesToKind_of_accepted (is : IndexAt entries number described)
    (accepted : table (.map ((Owner.listed .index number).change (leaveOut "kind") entries)) =
      .ok s) :
    ∃ column, ComesToKind entries number column := by
  obtain ⟨items, listed, there⟩ := is
  rw [table_change_index listed there] at accepted
  obtain ⟨s, without, accepted⟩ := Result.bind_eq_ok_iff.mp accepted
  obtain ⟨t, added, accepted⟩ := Result.bind_eq_ok_iff.mp accepted
  obtain ⟨u, entered, -⟩ := Result.bind_eq_ok_iff.mp accepted
  obtain ⟨fields, read, entered⟩ := Result.bind_eq_ok_iff.mp entered
  obtain ⟨same, known⟩ := description_eq_ok_iff.mp read
  cases same
  rw [← List.forall_mem_map, ← unknownNames_eq_nil_iff, unknownNames_leaveOut (by decide),
    unknownNames_eq_nil_iff, List.forall_mem_map] at known
  rw [field_leaveOut_of_ne (by decide)] at entered
  cases given : (Value.field described "column").given? with
  | none =>
    simp only [given] at entered
    obtain ⟨name, -, refused⟩ := Result.bind_eq_ok_iff.mp entered
    cases refused
  | some column => exact ⟨column, listed, there, without, added, known, given⟩

end Kind

/-- To give a field the value null is to leave it out exactly if the field is not the kind of an
index entry to which the reading comes, or if the table is refused without the kind as it is with
the null: because of a kind with the name of none. A null for a kind to which the reading comes is
always refused so, even where the table is accepted without the kind. -/
theorem nullIsAbsent_iff (entries : List (Value × Value)) (owner : Owner) (name : String)
    (known : name ∈ owner.part.fields) :
    (NullIsAbsent owner name entries ↔
      ∀ number column, owner = .listed .index number → name = "kind" →
        ComesToKind entries number column →
          table (.map (owner.change (leaveOut name) entries)) = nullKind column) ∧
      (∀ number column, ComesToKind entries number column →
        table (.map ((Owner.listed .index number).change (give "kind" .null) entries)) =
          nullKind column) ∧
      ∀ number described s, IndexAt entries number described →
        table (.map ((Owner.listed .index number).change (leaveOut "kind") entries)) = .ok s →
          ¬ NullIsAbsent (.listed .index number) "kind" entries := by
  refine ⟨⟨?_, fun refused => ?_⟩, fun number column => table_of_comesToKind, ?_⟩
  · rintro absent number column rfl rfl comes
    exact absent.symm.trans (table_of_comesToKind comes)
  · by_cases kind : owner.part = .index ∧ name = "kind"
    · obtain ⟨index, rfl⟩ := kind
      cases owner with
      | table => cases index
      | listed part number =>
        obtain rfl : part = .index := index
        by_cases comes : ∃ column, ComesToKind entries number column
        · obtain ⟨column, comes⟩ := comes
          exact (table_of_comesToKind comes).trans (refused number column rfl rfl comes).symm
        · exact nullIsAbsent_of_not_comesToKind (not_exists.mp comes)
    · exact nullIsAbsent_of_ne_kind known fun index => mt (And.intro index) kind
  · intro number described s is accepted absent
    obtain ⟨column, comes⟩ := exists_comesToKind_of_accepted is accepted
    have same := (table_of_comesToKind comes).symm.trans (absent.trans accepted)
    exact nullKind_ne_ok column s same

/-- A table with an index entry that gives no kind. -/
def plainIndex : List (Value × Value) :=
  [(.str "table", .str "t"),
    (.str "columns", .list [.map [(.str "name", .str "a"), (.str "type", .str "int")]]),
    (.str "indexes", .list [.map [(.str "column", .str "a")]])]

theorem exists_table_plainIndex :
    ∃ s, table (.map ((Owner.listed .index 0).change (leaveOut "kind") plainIndex)) = .ok s := by
  decide

theorem nullIsAbsent_iff_plainIndex :
    "kind" ∈ (Owner.listed .index 0).part.fields ∧
      (∃ s, table (.map ((Owner.listed .index 0).change (leaveOut "kind") plainIndex)) = .ok s) ∧
      ¬ NullIsAbsent (.listed .index 0) "kind" plainIndex := by
  have known : "kind" ∈ (Owner.listed .index 0).part.fields := by decide
  obtain ⟨s, accepted⟩ := exists_table_plainIndex
  obtain ⟨-, -, refused⟩ := nullIsAbsent_iff plainIndex (.listed .index 0) "kind" known
  exact ⟨known, ⟨s, accepted⟩, refused 0 _ s ⟨_, rfl, rfl⟩ accepted⟩

/-- With a null for the kind of its index entry, the table is not read as without the kind. -/
theorem not_nullIsAbsent_plainIndex :
    "kind" ∈ (Owner.listed .index 0).part.fields ∧
      ¬ NullIsAbsent (.listed .index 0) "kind" plainIndex := by
  have refused : table (.map ((Owner.listed .index 0).change (give "kind" .null) plainIndex)) =
      refuse (.unknownKind "none" "a") := by
    decide
  obtain ⟨s, accepted⟩ := exists_table_plainIndex
  refine ⟨by decide, fun absent => ?_⟩
  cases refused.symm.trans (absent.trans accepted)

end TableDdl.Loading
