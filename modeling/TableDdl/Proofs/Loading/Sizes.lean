import TableDdl.Proofs.Loading.Demands
import Mathlib.Data.Rat.Floor
import Mathlib.Tactic.Linarith
import Mathlib.Tactic.Positivity

/-!
# Sizes

A size is to be a whole number: one that is given as such, one that is the same number in another
form, or one that a text denotes. A number that is not whole is no size, but it is taken for the
whole number next to it on the way to zero. The main statement says what is stored for a size that
is given, and when it is a number that was meant.
-/

namespace TableDdl

/-- The whole number next to a number on the way to zero. -/
def towardZero (q : ℚ) : ℤ :=
  if q < 0 then ⌈q⌉ else ⌊q⌋

@[simp] theorem towardZero_intCast (n : ℤ) : towardZero n = n := by
  simp [towardZero]

theorem towardZero_neg (q : ℚ) : towardZero (-q) = -towardZero q := by
  unfold towardZero
  rcases lt_trichotomy q 0 with below | rfl | above
  · simp [below, not_lt.mpr below.le, Int.floor_neg]
  · simp
  · simp [above, not_lt.mpr above.le, Int.ceil_neg]

namespace Binary64

/-- The number that a finite number of the format is. -/
def number? : Binary64 → Option ℚ
  | .finite negative m e => some (if negative then -(m * 2 ^ e) else m * 2 ^ e)
  | _ => none

theorem magnitude_eq (m : Nat) (e : Int) :
    ((magnitude m e).1 : ℚ) / (magnitude m e).2 = m * 2 ^ e := by
  unfold magnitude
  split
  · rename_i whole
    obtain ⟨k, rfl⟩ := Int.eq_ofNat_of_zero_le whole
    simp
  · rename_i below
    obtain ⟨k, opposite⟩ := Int.eq_ofNat_of_zero_le (by omega : 0 ≤ -e)
    obtain rfl : e = -k := by omega
    simp [div_eq_mul_inv, Nat.pow_eq]

/-- The whole part of a number is next to it on the way to zero. -/
theorem truncate?_eq (x : Binary64) : x.truncate? = x.number?.map towardZero := by
  cases x with
  | finite negative m e =>
    have whole : towardZero (m * 2 ^ e) = ((magnitude m e).1 / (magnitude m e).2 : Nat) := by
      rw [← magnitude_eq, towardZero, if_neg (not_lt.mpr (by positivity)),
        Rat.floor_natCast_div_natCast]
      rfl
    cases negative <;> simp [truncate?, number?, signed, whole, towardZero_neg]
  | infinite negative => rfl
  | nan mark => rfl

end Binary64

namespace Value

/-- The number that a value is, if it is one. -/
def number? : Value → Option ℚ
  | .bool b => some (if b then 1 else 0)
  | .int n => some n
  | .float x => x.number?
  | _ => none

/-- The whole number that a text denotes, if it denotes one. Bytes denote what they spell. -/
def denoted? : Value → Option Int
  | .str s => (Number.integerOfText s).toOption
  | .bytes b =>
    if b.all (· < 127) then
      (Number.readInteger 10 (b.map fun byte => Char.ofNat byte.toNat)).toOption
    else none
  | _ => none

/-- The value is the whole number, in whatever form, or denotes it. -/
def Gives (v : Value) (n : Int) : Prop :=
  v.number? = some (n : ℚ) ∨ v.denoted? = some n

/-- The value is a number, but not a whole one. -/
def HasFraction (v : Value) : Prop :=
  ∃ q, v.number? = some q ∧ ∀ n : ℤ, q ≠ n

theorem Gives.not_hasFraction {v : Value} {n : Int} (gives : v.Gives n) : ¬ v.HasFraction := by
  rintro ⟨q, number, fraction⟩
  rcases gives with same | denotes
  · rw [number] at same
    exact fraction n (Option.some.inj same)
  · cases v <;> simp [number?, denoted?] at number denotes

end Value

namespace Loading

variable {s t : Schema} {v : Value} {entries : List (Value × Value)} {field : SizeField}
  {name : Value} {c : Column} {n : Int}

/-- A value is read as the whole number that it denotes, or as the one next to the number that it
is. -/
theorem wholeNumber_eq_ok_some_iff :
    wholeNumber v = .ok (some n) ↔ v.number?.map towardZero = some n ∨ v.denoted? = some n := by
  cases v with
  | bool b => cases b <;> simp [wholeNumber, Value.number?, Value.denoted?, towardZero]
  | int m => simp [wholeNumber, Value.number?, Value.denoted?]
  | float x =>
    cases x with
    | finite negative m e =>
      simp [wholeNumber, Value.number?, Value.denoted?, Binary64.truncate?_eq]
    | infinite negative => simp [wholeNumber, Value.number?, Value.denoted?, Binary64.number?]
    | nan mark =>
      simp [wholeNumber, Value.number?, Value.denoted?, Binary64.number?, Binary64.truncate?_eq]
  | bytes b =>
    simp only [wholeNumber, Value.number?, Value.denoted?]
    split <;> simp
  | _ => simp [wholeNumber, Value.number?, Value.denoted?]

/-- What a value is read as is what it gives, unless it has a fraction. -/
theorem gives_iff_of_wholeNumber (read : wholeNumber v = .ok (some n)) :
    v.Gives n ↔ ¬ v.HasFraction := by
  refine ⟨Value.Gives.not_hasFraction, fun whole => ?_⟩
  rcases wholeNumber_eq_ok_some_iff.mp read with next | denotes
  · obtain ⟨q, number, rfl⟩ := Option.map_eq_some_iff.mp next
    by_contra other
    refine whole ⟨q, number, fun m same => other (.inl ?_)⟩
    rw [number, same, towardZero_intCast]
  · exact .inr denotes

theorem size?_eq_ok_of_given (given : (Value.field entries field.label).isNull = false)
    {size : Option Int} (read : size? entries field name = .ok size) :
    ∃ n, size = some n ∧ wholeNumber (Value.field entries field.label) = .ok (some n) := by
  rw [size?_of_given given] at read
  obtain ⟨number, whole, read⟩ := Result.bind_eq_ok_iff.mp read
  cases number with
  | none => simp [Result.bind_eq_ok_iff] at read
  | some n =>
    cases read
    exact ⟨n, rfl, Result.ofFault_eq_ok_iff.mp whole⟩

end Loading

/-- The size of a column that a field gives. -/
def Column.size (c : Column) : SizeField → Option Int
  | .length => c.length
  | .precision => c.precision

namespace Loading

variable {s t : Schema} {v : Value} {entries : List (Value × Value)} {field : SizeField}
  {name : Value} {c : Column} {n : Int}

/-- The sizes of a column are those that the fields of its description give. -/
theorem size?_of_columnNamed (read : columnNamed entries name = .ok c) (field : SizeField) :
    size? entries field name = .ok (c.size field) := by
  simp only [columnNamed, Result.bind_eq_ok_iff, Result.pure_eq_ok, Except.ok.injEq] at read
  obtain ⟨-, -, length, first, precision, second, -, -, rfl⟩ := read
  cases field with
  | length => exact first
  | precision => exact second

/-- The column that was put under a name is found there. -/
theorem column_of_addColumn (added : addColumn s (.map entries) = .ok t) :
    ∃ c, t.column (Value.field entries "name") = .ok c ∧
      columnNamed entries (Value.field entries "name") = .ok c := by
  obtain ⟨known, name, key, c, described, given, called, read, rfl⟩ := addColumn_eq_ok added
  obtain ⟨same, -⟩ := description_eq_ok_iff.mp described
  cases same
  obtain ⟨-, rfl⟩ := given?_eq_some_iff.mp given
  refine ⟨c, ?_, read⟩
  simp [Schema.column, called, NameMap.find?_insert]

/-- Reading the description of a column stores the whole number that a field gives as a size, or
refuses the description for a reason. -/
def TakesSize (s : Schema) (entries : List (Value × Value)) (field : SizeField) : Prop :=
  (∃ t c n, addColumn s (.map entries) = .ok t ∧
    t.column (Value.field entries "name") = .ok c ∧ c.size field = some n ∧
      (Value.field entries field.label).Gives n) ∨
    ∃ reason, addColumn s (.map entries) = refuse reason

theorem exists_size_of_addColumn (given : (Value.field entries field.label).isNull = false)
    (added : addColumn s (.map entries) = .ok t) :
    ∃ c n, t.column (Value.field entries "name") = .ok c ∧ c.size field = some n ∧
      wholeNumber (Value.field entries field.label) = .ok (some n) := by
  obtain ⟨c, found, read⟩ := column_of_addColumn added
  obtain ⟨n, stored, whole⟩ := size?_eq_ok_of_given given (size?_of_columnNamed read field)
  exact ⟨c, n, found, stored, whole⟩

/-- A size with a fraction that is accepted is not stored as what it is. -/
theorem takesSize_iff_of_addColumn (given : (Value.field entries field.label).isNull = false)
    (added : addColumn s (.map entries) = .ok t) :
    TakesSize s entries field ↔ ¬ (Value.field entries field.label).HasFraction := by
  obtain ⟨c, n, found, stored, whole⟩ := exists_size_of_addColumn given added
  rw [← gives_iff_of_wholeNumber whole]
  constructor
  · rintro (⟨t', c', n', added', found', stored', gives⟩ | ⟨reason, refused⟩)
    · cases added.symm.trans added'
      cases found.symm.trans found'
      cases stored.symm.trans stored'
      exact gives
    · rw [refused] at added
      exact absurd added (Result.refuse_ne_ok reason t)
  · intro gives
    exact .inl ⟨t, c, n, added, found, stored, gives⟩

/-- A size that is given is stored, if its column is accepted: as the whole number that it gives or,
if it is a number with a fraction, as the whole number next to it on the way to zero. So what is
stored is what was given, unless a size with a fraction is accepted; and a column that is not
accepted is refused for a reason exactly if the first of its demands that is not met is a reported
one. -/
theorem takesSize_iff (given : (Value.field entries field.label).isNull = false) :
    (∀ t, addColumn s (.map entries) = .ok t →
      ∃ c n, t.column (Value.field entries "name") = .ok c ∧ c.size field = some n ∧
        ((Value.field entries field.label).Gives n ∨
          (Value.field entries field.label).HasFraction ∧
            (Value.field entries field.label).number?.map towardZero = some n)) ∧
      (TakesSize s entries field ↔
        (∀ d, FirstUnmet (columnDemands s.IsNamed (.map entries)) d → d.reported) ∧
          ((∃ t, addColumn s (.map entries) = .ok t) →
            ¬ (Value.field entries field.label).HasFraction)) := by
  constructor
  · intro t added
    obtain ⟨c, n, found, stored, whole⟩ := exists_size_of_addColumn given added
    refine ⟨c, n, found, stored, ?_⟩
    rw [gives_iff_of_wholeNumber whole]
    by_cases fraction : (Value.field entries field.label).HasFraction
    · refine .inr ⟨fraction, ?_⟩
      rcases wholeNumber_eq_ok_some_iff.mp whole with next | denotes
      · exact next
      · exact absurd fraction (Value.Gives.not_hasFraction (.inr denotes))
    · exact .inl fraction
  · rw [← (addColumn_decides s (.map entries)).documented_iff]
    constructor
    · intro takes
      refine ⟨?_, fun ⟨t, added⟩ => (takesSize_iff_of_addColumn given added).mp takes⟩
      rcases takes with ⟨t, -, -, added, -⟩ | refused
      · exact .inl ⟨t, added⟩
      · exact .inr refused
    · rintro ⟨⟨t, added⟩ | refused, whole⟩
      · exact (takesSize_iff_of_addColumn given added).mpr (whole ⟨t, added⟩)
      · exact .inr refused

/-- A column of a length between one and two. -/
def fractionalLength : List (Value × Value) :=
  [(.str "name", .str "a"), (.str "type", .str "int"),
    (.str "length", .float (.ofRatio false 3 2))]

theorem hasFraction_fractionalLength :
    (Value.field fractionalLength SizeField.length.label).HasFraction := by
  have written : Binary64.ofRatio false 3 2 = .finite false 6755399441055744 (-52) := by
    decide
  have number : (Value.field fractionalLength SizeField.length.label).number? = some (3 / 2) := by
    have held : Value.field fractionalLength SizeField.length.label =
        .float (.ofRatio false 3 2) := rfl
    rw [held, written, Value.number?, Binary64.number?]
    norm_num
  refine ⟨3 / 2, number, fun n same => ?_⟩
  have doubled : (3 : ℚ) = 2 * n := by linarith
  norm_cast at doubled
  omega

theorem takesSize_iff_fractionalLength :
    (Value.field fractionalLength SizeField.length.label).isNull = false ∧
      (TakesSize { baseName := .str "t" } fractionalLength .length ↔
        (∀ d, FirstUnmet (columnDemands (Schema.IsNamed { baseName := .str "t" })
            (.map fractionalLength)) d → d.reported) ∧
          ((∃ t, addColumn { baseName := .str "t" } (.map fractionalLength) = .ok t) →
            ¬ (Value.field fractionalLength SizeField.length.label).HasFraction)) := by
  have given : (Value.field fractionalLength SizeField.length.label).isNull = false := rfl
  exact ⟨given, (takesSize_iff given).2⟩

/-- The column is accepted, and its length is stored as one. -/
theorem not_takesSize_fractionalLength :
    (∃ t, addColumn { baseName := .str "t" } (.map fractionalLength) = .ok t ∧
      t.columnList.map Column.length = [some 1]) ∧
      ¬ TakesSize { baseName := .str "t" } fractionalLength .length := by
  have added : ∃ t, addColumn { baseName := .str "t" } (.map fractionalLength) = .ok t ∧
      t.columnList.map Column.length = [some 1] := by
    decide
  refine ⟨added, ?_⟩
  obtain ⟨t, added, -⟩ := added
  rw [takesSize_iff_of_addColumn rfl added, not_not]
  exact hasFraction_fractionalLength

end Loading

end TableDdl
