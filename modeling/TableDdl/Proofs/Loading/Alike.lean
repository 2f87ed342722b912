import TableDdl.Proofs.Loading.Typed

/-!
# Descriptions that read alike

All that is read from a description is the list of its unknown fields, sorted, and what its fields
hold. So two descriptions that agree in this are read alike: with the same result or the same
failure, wherever else they differ. For the description of a table it is enough that the parts that
it lists are read alike one by one.
-/

namespace TableDdl

namespace Result

variable {ε α β : Type} {alike : α → α → Prop} {xs ys : List α}

theorem mapM_congr {f : α → Except ε β} (step : ∀ x y, alike x y → f x = f y)
    (each : List.Forall₂ alike xs ys) : xs.mapM f = ys.mapM f := by
  induction each with
  | nil => rfl
  | cons head _ ih => rw [List.mapM_cons, List.mapM_cons, step _ _ head, ih]

theorem foldlM_congr {f : β → α → Except ε β} (step : ∀ b x y, alike x y → f b x = f b y)
    (each : List.Forall₂ alike xs ys) (b : β) : xs.foldlM f b = ys.foldlM f b := by
  induction each generalizing b with
  | nil => rfl
  | cons head _ ih =>
    rw [List.foldlM_cons, List.foldlM_cons, step b _ _ head]
    exact bind_congr ih

/-- What goes on from two results alike where they agree in what is looked at goes on alike. -/
theorem ofFault_bind_congr {γ : Type} {x y : Except Fault α} {g : α → γ} {f : α → Attempt ε β}
    (agree : x.map g = y.map g) (next : ∀ a b, g a = g b → f a = f b) :
    (Attempt.ofFault x >>= f) = (Attempt.ofFault y >>= f) := by
  cases x with
  | error e =>
    cases y with
    | error e' =>
      cases agree
      rfl
    | ok b => cases agree
  | ok a =>
    cases y with
    | error e => cases agree
    | ok b => exact next a b (Except.ok.inj agree)

end Result

theorem Part.listField_injective {part part' : Part} (same : part.listField = part'.listField) :
    part = part' := by
  cases part <;> cases part' <;> first | rfl | exact absurd same (by decide)

namespace Loading

/-- Two values are the same, or they are mappings whose entries are related. -/
inductive MappingAlike (related : List (Value × Value) → List (Value × Value) → Prop) :
    Value → Value → Prop
  | same (v : Value) : MappingAlike related v v
  | mapping {entries entries' : List (Value × Value)} (each : related entries entries') :
    MappingAlike related (.map entries) (.map entries')

/-- What two mappings hold under a name is the same, or it is two lists under the name under which
the parts of a sort are listed, and these are alike one by one. -/
inductive HeldAlike (alike : Part → Value → Value → Prop) (name : String) : Value → Value → Prop
  | same (v : Value) : HeldAlike alike name v v
  | parts {items items' : List Value} (part : Part) (listed : name = part.listField)
    (each : List.Forall₂ (alike part) items items') :
    HeldAlike alike name (.list items) (.list items')

/-- Two mappings name the same unknown fields of a part, hold the same in its fields, or lists of
parts that are alike, and give the kind of an index by the same word. -/
structure ReadAlike (alike : Part → Value → Value → Prop) (part : Part)
    (entries entries' : List (Value × Value)) : Prop where
  unknown : sortNames (unknownNames part (entries.map Prod.fst)) =
    sortNames (unknownNames part (entries'.map Prod.fst))
  fields : ∀ name ∈ part.fields,
    HeldAlike alike name (Value.field entries name) (Value.field entries' name)
  kind : part = .index →
    (kindOf entries).text.map Text.lower = (kindOf entries').text.map Text.lower

/-- Two values describe parts that are read alike. -/
def PartAlike (part : Part) : Value → Value → Prop :=
  MappingAlike (ReadAlike (fun _ => Eq) part)

/-- Two values describe tables that are read alike. -/
def TableAlike : Value → Value → Prop :=
  MappingAlike (ReadAlike PartAlike .table)

variable {alike alike' : Part → Value → Value → Prop} {part : Part} {name : String} {v w : Value}
  {entries entries' : List (Value × Value)} {s : Schema}

theorem MappingAlike.imp {related related' : List (Value × Value) → List (Value × Value) → Prop}
    (each : ∀ entries entries', related entries entries' → related' entries entries')
    (h : MappingAlike related v w) : MappingAlike related' v w := by
  cases h with
  | same v => exact .same v
  | mapping h => exact .mapping (each _ _ h)

theorem HeldAlike.imp
    (each : ∀ part : Part, name = part.listField → ∀ v w, alike part v w → alike' part v w)
    (h : HeldAlike alike name v w) : HeldAlike alike' name v w := by
  cases h with
  | same v => exact .same v
  | parts part listed items => exact .parts part listed (items.imp (each part listed))

/-- Where no parts are listed, the same is held. -/
theorem HeldAlike.eq_of_ne (h : HeldAlike alike name v w)
    (other : ∀ part : Part, name ≠ part.listField) : v = w := by
  cases h with
  | same v => rfl
  | parts part listed items => exact absurd listed (other part)

theorem HeldAlike.eq (h : HeldAlike (fun _ => Eq) name v w) : v = w := by
  cases h with
  | same v => rfl
  | parts part listed items =>
    rw [List.forall₂_eq_eq_eq] at items
    rw [items]

section Readers

theorem sortNames_eq_nil_iff {names : List Value} : sortNames names = .ok [] ↔ names = [] := by
  constructor
  · intro sorted
    exact (perm_of_sortNames sorted).nil_eq.symm
  · rintro rfl
    simp [sortNames]

/-- Descriptions with the same unknown fields are refused alike, or both are gone on with. -/
theorem description_bind_congr {α : Type} {f f' : List (Value × Value) → Attempt LoadError α}
    (unknown : sortNames (unknownNames part (entries.map Prod.fst)) =
      sortNames (unknownNames part (entries'.map Prod.fst)))
    (same : unknownNames part (entries.map Prod.fst) = [] → f entries = f' entries') :
    (description part (.map entries) >>= f) = (description part (.map entries') >>= f') := by
  have both : unknownNames part (entries.map Prod.fst) = [] ↔
      unknownNames part (entries'.map Prod.fst) = [] := by
    rw [← sortNames_eq_nil_iff, unknown, sortNames_eq_nil_iff]
  simp only [description]
  cases here : unknownNames part (entries.map Prod.fst) with
  | nil =>
    rw [both.mp here]
    exact same here
  | cons first rest =>
    cases there : unknownNames part (entries'.map Prod.fst) with
    | nil => cases here.symm.trans (both.mpr there)
    | cons first' rest' =>
      rw [here, there] at unknown
      simp only [unknown]
      cases sortNames (first' :: rest') with
      | error f => rfl
      | ok sorted =>
        simp only [Result.liftM_eq_ofFault, Result.ofFault_ok, Result.ok_bind]
        cases namesAsTexts 0 sorted <;> rfl

theorem ReadAlike.field_eq (h : ReadAlike (fun _ => Eq) part entries entries') (name : String)
    (known : name ∈ part.fields) : Value.field entries name = Value.field entries' name :=
  (h.fields name known).eq

theorem columnNamed_congr (h : ReadAlike (fun _ => Eq) .column entries entries') (name : Value) :
    columnNamed entries name = columnNamed entries' name := by
  simp only [columnNamed, size?, flag, SizeField.label, h.field_eq "type" (by decide),
    h.field_eq "length" (by decide), h.field_eq "precision" (by decide),
    h.field_eq "default" (by decide), h.field_eq "nullable" (by decide),
    h.field_eq "unsigned" (by decide), h.field_eq "auto_increment" (by decide)]

theorem addColumn_congr (s : Schema) (h : PartAlike .column v w) :
    addColumn s v = addColumn s w := by
  cases h with
  | same v => rfl
  | mapping h =>
    refine description_bind_congr h.unknown fun _ => ?_
    simp only [h.field_eq "name" (by decide), columnNamed_congr h]

theorem addIndex_congr (s : Schema) (h : PartAlike .index v w) : addIndex s v = addIndex s w := by
  cases h with
  | same v => rfl
  | @mapping entries entries' h =>
    refine description_bind_congr h.unknown fun _ => ?_
    simp only [h.field_eq "column" (by decide), h.field_eq "key_name" (by decide)]
    cases (Value.field entries' "column").given? with
    | none => rfl
    | some column =>
      refine Result.ofFault_bind_congr (h.kind rfl) fun word word' same => ?_
      simp only [same]

theorem addForeignKey_congr (s : Schema) (h : PartAlike .foreignKey v w) :
    addForeignKey s v = addForeignKey s w := by
  cases h with
  | same v => rfl
  | mapping h =>
    refine description_bind_congr h.unknown fun _ => ?_
    simp only [h.field_eq "column" (by decide), h.field_eq "key_name" (by decide),
      h.field_eq "reference_table" (by decide), h.field_eq "reference_column" (by decide),
      h.field_eq "on_update" (by decide), h.field_eq "on_delete" (by decide)]

theorem elements_list (items : List Value) : elements (.list items) = .ok items := by
  cases items <;> rfl

/-- Lists of parts that are alike one by one are added alike, if alike parts are. -/
theorem addParts_congr {add : Schema → Value → Attempt LoadError Schema}
    (step : ∀ s v w, alike part v w → add s v = add s w)
    (h : HeldAlike alike part.listField v w) (s : Schema) :
    addParts add s v = addParts add s w := by
  cases h with
  | same v => rfl
  | parts part' listed items =>
    cases Part.listField_injective listed
    simp only [addParts, elements_list, Result.liftM_eq_ofFault, Result.ofFault_ok, Result.ok_bind]
    exact Result.foldlM_congr step items s

/-- Descriptions of tables that are read alike give the same schema, or the same failure. -/
theorem table_congr (h : TableAlike v w) : table v = table w := by
  cases h with
  | same v => rfl
  | @mapping entries entries' h =>
    refine description_bind_congr h.unknown fun _ => ?_
    have name : Value.field entries "table" = Value.field entries' "table" :=
      (h.fields "table" (by decide)).eq_of_ne fun part => by cases part <;> decide
    have front : Value.field entries "prefix" = Value.field entries' "prefix" :=
      (h.fields "prefix" (by decide)).eq_of_ne fun part => by cases part <;> decide
    have columns (s : Schema) : addParts addColumn s (Value.field entries "columns") =
        addParts addColumn s (Value.field entries' "columns") :=
      addParts_congr (fun s _ _ => addColumn_congr s) (h.fields "columns" (by decide)) s
    have indexes (s : Schema) : addParts addIndex s (Value.field entries "indexes") =
        addParts addIndex s (Value.field entries' "indexes") :=
      addParts_congr (fun s _ _ => addIndex_congr s) (h.fields "indexes" (by decide)) s
    have foreignKeys (s : Schema) : addParts addForeignKey s (Value.field entries "foreign_keys") =
        addParts addForeignKey s (Value.field entries' "foreign_keys") :=
      addParts_congr (fun s _ _ => addForeignKey_congr s) (h.fields "foreign_keys" (by decide)) s
    simp only [name, front, columns, indexes, foreignKeys]

end Readers

end Loading

end TableDdl
