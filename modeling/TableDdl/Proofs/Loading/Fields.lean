import TableDdl.Loading.Fields
import TableDdl.Proofs.Demand
import TableDdl.Proofs.Names

/-!
# What fields demand

The demands of the fields of a description: that it is a mapping with fields of its part only, that
a list of parts can be gone through, that a size is a whole number. The names of unknown fields are
sorted and put together before they are reported, so they are reported only if all of them are
texts.
-/

namespace TableDdl

namespace Value

/-- The entries of a mapping; none of anything else. -/
def entries : Value → List (Value × Value)
  | .map entries => entries
  | _ => []

theorem field?_cons (entry : Value × Value) (rest : List (Value × Value)) (name : String) :
    field? (entry :: rest) name =
      if entry.1 = .str name then some entry.2 else field? rest name := by
  obtain ⟨key, held⟩ := entry
  cases key with
  | str s => by_cases same : s = name <;> simp [field?, same]
  | _ => simp [field?]

/-- Whether the value can be gone through one by one. -/
def isCollection : Value → Bool
  | .list _ | .str _ | .bytes _ | .map _ => true
  | _ => false

/-- Whether the value is an infinite number. -/
def isInfinite : Value → Bool
  | .float (.infinite _) => true
  | _ => false

/-- A value has a literal text exactly if it has a plain one. -/
theorem exists_literal_iff {v : Value} : (∃ text, v.literal = .ok text) ↔ v.Writable := by
  cases v <;> simp [Writable, text, literal]

end Value

namespace Loading

/-- The name is that of a field of the part. -/
def IsField (part : Part) (name : Value) : Prop :=
  ∃ s ∈ part.fields, name = .str s

section Description

variable {part : Part} {v : Value} {names sorted : List Value}

theorem mem_unknownNames {name : Value} :
    name ∈ unknownNames part names ↔ name ∈ names ∧ ¬ IsField part name := by
  rw [unknownNames, List.mem_filter]
  refine and_congr_right fun _ => ?_
  cases name <;> simp [IsField]

theorem unknownNames_eq_nil_iff :
    unknownNames part names = [] ↔ ∀ name ∈ names, IsField part name := by
  rw [List.eq_nil_iff_forall_not_mem]
  simp only [mem_unknownNames, not_and, not_not]

theorem mapM_textual?_eq_some_iff {texts : List String} :
    names.mapM textual? = some texts ↔ names = texts.map .str := by
  induction names generalizing texts with
  | nil => cases texts <;> simp
  | cons name rest ih =>
    cases name with
    | str s => cases texts <;> simp [textual?, Option.bind_eq_some_iff, ih, and_comm]
    | _ => cases texts <;> simp [textual?]

theorem map_snd_of_mapM_numeric? {pairs : List (Binary64 × Value)}
    (all : (names.mapM fun v => (numeric? v).map fun x => (x, v)) = some pairs) :
    pairs.map Prod.snd = names := by
  induction names generalizing pairs with
  | nil =>
    cases all
    rfl
  | cons name rest ih =>
    simp only [List.mapM_cons, Option.bind_eq_bind, Option.bind_eq_some_iff, Option.map_eq_some_iff,
      Option.pure_def, Option.some.injEq] at all
    obtain ⟨_, ⟨x, -, rfl⟩, others, later, rfl⟩ := all
    rw [List.map_cons, ih later]

/-- Sorting names neither adds nor loses any. -/
theorem perm_of_sortNames (ok : sortNames names = .ok sorted) : sorted.Perm names := by
  unfold sortNames at ok
  split at ok
  · rename_i texts all
    cases ok
    rw [mapM_textual?_eq_some_iff.mp all]
    exact (List.mergeSort_perm texts _).map _
  · split at ok
    · rename_i pairs all
      cases ok
      rw [← map_snd_of_mapM_numeric? all]
      exact (List.mergeSort_perm pairs _).map _
    · split at ok
      · cases ok
        rfl
      · cases ok

theorem exists_sortNames_of_texts (texts : ∀ name ∈ names, name.isText = true) :
    ∃ sorted, sortNames names = .ok sorted := by
  obtain ⟨strings, rfl⟩ := Value.forall_isText_iff.mp texts
  unfold sortNames
  rw [mapM_textual?_eq_some_iff.mpr rfl]
  exact ⟨_, rfl⟩

theorem exists_namesAsTexts_iff {position : Nat} :
    (∃ texts, namesAsTexts position names = .ok texts) ↔ ∀ name ∈ names, name.isText = true := by
  induction names generalizing position with
  | nil => simp [namesAsTexts]
  | cons name rest ih =>
    rw [List.forall_mem_cons]
    cases name with
    | str s =>
      rw [← @ih (position + 1)]
      have step : namesAsTexts position (.str s :: rest) =
          (s :: ·) <$> namesAsTexts (position + 1) rest := rfl
      simp [step, Result.map_eq_ok_iff, Value.isText]
    | _ => simp [namesAsTexts, Value.isText]

/-- A value is to be a mapping with the fields of a part. Unknown fields are reported by their
names, and any other value by its literal text. -/
def describes (part : Part) (v : Value) : Demand where
  met := ∃ entries, v = .map entries ∧ ∀ entry ∈ entries, IsField part entry.1
  reported :=
    match v with
    | .map entries => ∀ entry ∈ entries, entry.1.isText = true
    | v => v.Writable

theorem description_eq_ok_iff {entries : List (Value × Value)} :
    description part v = .ok entries ↔
      v = .map entries ∧ ∀ entry ∈ entries, IsField part entry.1 := by
  cases v with
  | map given =>
    have known : unknownNames part (given.map Prod.fst) = [] ↔
        ∀ entry ∈ given, IsField part entry.1 := by
      rw [unknownNames_eq_nil_iff, List.forall_mem_map]
    simp only [description, Value.map.injEq]
    split
    · rename_i none
      simp only [Except.ok.injEq]
      constructor
      · rintro rfl
        exact ⟨rfl, known.mp none⟩
      · exact And.left
    · rename_i some
      refine iff_of_false (by simp [Result.bind_eq_ok_iff]) ?_
      rintro ⟨rfl, all⟩
      exact some (known.mpr all)
  | _ => simp [description, Result.bind_eq_ok_iff]

/-- Unknown fields are reported if all of them are texts. -/
theorem reports_unknownNames {entries : List (Value × Value)} :
    Reports (∀ entry ∈ entries, entry.1.isText = true)
      (Attempt.ofFault (sortNames (unknownNames part (entries.map Prod.fst))) >>= fun sorted =>
        Attempt.ofFault (namesAsTexts 0 sorted) >>= fun names =>
          (refuse (.unknownFields part names) : Attempt LoadError (List (Value × Value)))) := by
  have texts : (∀ entry ∈ entries, entry.1.isText = true) ↔
      ∀ name ∈ unknownNames part (entries.map Prod.fst), name.isText = true := by
    simp only [mem_unknownNames, and_imp, List.forall_mem_map]
    refine forall₂_congr fun entry _ => ⟨fun text _ => text, fun text => ?_⟩
    by_cases field : IsField part entry.1
    · obtain ⟨s, -, same⟩ := field
      rw [same]
      rfl
    · exact text field
  rw [texts]
  refine (Reports.lift_bind Iff.rfl fun sorted ok => ?_).congr
    (and_iff_right_of_imp exists_sortNames_of_texts)
  have same : (∀ name ∈ sorted, name.isText = true) ↔
      ∀ name ∈ unknownNames part (entries.map Prod.fst), name.isText = true := by
    simp only [(perm_of_sortNames ok).mem_iff]
  rw [← same]
  exact (Reports.lift_bind exists_namesAsTexts_iff fun names _ => .refuse _).congr
    (and_iff_left trivial)

theorem description_decides (part : Part) (v : Value) :
    Decides [describes part v] (description part v) := by
  refine .cons ?_ ?_
  · rintro ⟨entries, same, fields⟩
    rw [description_eq_ok_iff.mpr ⟨same, fields⟩]
    exact .granted entries
  · intro unmet
    cases v with
    | map entries =>
      rw [description]
      split
      · rename_i none
        rw [unknownNames_eq_nil_iff, List.forall_mem_map] at none
        exact absurd ⟨entries, rfl, none⟩ unmet
      · exact reports_unknownNames
    | _ =>
      exact (Reports.lift_bind Value.exists_literal_iff fun text _ => .refuse _).congr
        (and_iff_left trivial)

end Description

theorem exists_elements_iff {v : Value} :
    (∃ items, elements v = .ok items) ↔ (v.isTruthy = true → v.isCollection = true) := by
  cases given : v.isTruthy with
  | false => simp [elements, given]
  | true =>
    cases v <;> simp [elements, given, Value.isCollection]

/-- The things that a value goes through; none if it cannot be gone through. -/
def parts (v : Value) : List Value :=
  (elements v).toOption.getD []

theorem parts_of_ok {v : Value} {items : List Value} (ok : elements v = .ok items) :
    parts v = items := by
  rw [parts, ok]
  rfl

section Size

variable {entries : List (Value × Value)} {field : SizeField} {column : Value}

theorem exists_wholeNumber_iff {v : Value} :
    (∃ n, wholeNumber v = .ok n) ↔ v.isInfinite = false := by
  cases v with
  | float x => cases x <;> simp [wholeNumber, Value.isInfinite]
  | bytes b =>
    simp only [wholeNumber, Value.isInfinite]
    split <;> simp
  | _ => simp [wholeNumber, Value.isInfinite]

/-- A size is to be null or a whole number. Any other size is reported together with the column,
unless it is infinite. -/
def sizeDemand (column size : Value) : Demand where
  met := size.isNull = true ∨ ∃ n, wholeNumber size = .ok (some n)
  reported := size.isInfinite = false ∧ size.Writable ∧ column.Writable

theorem size?_of_isNull (null : (Value.field entries field.label).isNull = true) :
    size? entries field column = .ok none := by
  rw [size?, Value.nonNull?, null]
  rfl

theorem size?_of_given (given : (Value.field entries field.label).isNull = false) :
    size? entries field column =
      (Attempt.ofFault (wholeNumber (Value.field entries field.label)) >>= fun number =>
        match number with
        | some n => .ok (some n)
        | none =>
          Attempt.ofFault (Value.field entries field.label).text >>= fun found =>
            Attempt.ofFault column.text >>= fun name =>
              refuse (.invalidSize field found name)) := by
  rw [size?, Value.nonNull?, given]
  rfl

theorem size?_decides (entries : List (Value × Value)) (field : SizeField) (column : Value) :
    Decides [sizeDemand column (Value.field entries field.label)]
      (size? entries field column) := by
  cases null : (Value.field entries field.label).isNull with
  | true =>
    rw [size?_of_isNull null]
    exact .goesOn (.inl null) (.granted none)
  | false =>
    rw [size?_of_given null]
    refine .cons ?_ fun unmet => ?_
    · rintro (absent | ⟨n, whole⟩)
      · cases null.symm.trans absent
      · rw [whole]
        exact .granted (some n)
    · refine (Reports.lift_bind exists_wholeNumber_iff fun number read => ?_)
      cases number with
      | some n => exact absurd (.inr ⟨n, read⟩) unmet
      | none =>
        exact Reports.lift_bind Iff.rfl fun found _ =>
          (Reports.lift_bind Iff.rfl fun name _ => .refuse _).congr (and_iff_left trivial)

end Size

end Loading

end TableDdl
