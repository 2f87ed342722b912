import TableDdl.Number.Binary64
import TableDdl.Value.Calendar

/-!
# Loose values

The values that a table description is read from: scalars, lists, and mappings that keep the
order of their entries. A description may hold any of them anywhere, so every reader decides for
itself which of them it accepts.
-/

namespace TableDdl

/-- A value of a table description. -/
inductive Value where
  | null
  | bool (b : Bool)
  | int (n : Int)
  | float (x : Binary64)
  | str (s : String)
  | bytes (b : List UInt8)
  | date (d : Date)
  | moment (t : Moment)
  | list (items : List Value)
  | map (entries : List (Value × Value))
  deriving Repr, Inhabited

namespace Value

mutual

/-- Whether two values are the same, with the entries of mappings in the same order. -/
def isSame : Value → Value → Bool
  | .null, .null => true
  | .bool b, .bool c => b = c
  | .int m, .int n => m = n
  | .float x, .float y => x = y
  | .str s, .str t => s = t
  | .bytes b, .bytes c => b = c
  | .date d, .date e => d = e
  | .moment t, .moment u => t = u
  | .list items, .list others => areSameItems items others
  | .map entries, .map others => areSameEntries entries others
  | _, _ => false

/-- Whether two lists hold the same items. -/
def areSameItems : List Value → List Value → Bool
  | [], [] => true
  | v :: rest, w :: others => isSame v w && areSameItems rest others
  | _, _ => false

/-- Whether two lists hold the same entries. -/
def areSameEntries : List (Value × Value) → List (Value × Value) → Bool
  | [], [] => true
  | (k, v) :: rest, (l, w) :: others => isSame k l && isSame v w && areSameEntries rest others
  | _, _ => false

end

mutual

theorem isSame_iff : (v w : Value) → (isSame v w = true ↔ v = w)
  | .list items, w => by cases w <;> simp [isSame, areSameItems_iff items]
  | .map entries, w => by cases w <;> simp [isSame, areSameEntries_iff entries]
  | .null, w | .bool _, w | .int _, w | .float _, w | .str _, w | .bytes _, w | .date _, w
  | .moment _, w => by cases w <;> simp [isSame]

theorem areSameItems_iff : (items others : List Value) →
    (areSameItems items others = true ↔ items = others)
  | [], others => by cases others <;> simp [areSameItems]
  | v :: rest, others => by
    cases others <;> simp [areSameItems, isSame_iff v, areSameItems_iff rest]

theorem areSameEntries_iff : (entries others : List (Value × Value)) →
    (areSameEntries entries others = true ↔ entries = others)
  | [], others => by cases others <;> simp [areSameEntries]
  | (k, v) :: rest, others => by
    cases others <;>
      simp [areSameEntries, isSame_iff k, isSame_iff v, areSameEntries_iff rest, Prod.ext_iff]

end

instance : DecidableEq Value := fun v w => decidable_of_iff (isSame v w = true) (isSame_iff v w)

/-- Whether the value counts as given: neither null, false, zero nor empty. -/
def isTruthy : Value → Bool
  | .null => false
  | .bool b => b
  | .int n => n != 0
  | .float x => !x.isZero
  | .str s => s != ""
  | .bytes b => !b.isEmpty
  | .date _ => true
  | .moment _ => true
  | .list items => !items.isEmpty
  | .map entries => !entries.isEmpty

/-- The value if it counts as given. -/
def given? (v : Value) : Option Value :=
  if v.isTruthy then some v else none

/-- The value, or a default for it if it does not count as given. -/
def orElse (v fallback : Value) : Value :=
  if v.isTruthy then v else fallback

/-- Whether the value is null. -/
def isNull : Value → Bool
  | .null => true
  | _ => false

/-- The value unless it is null. -/
def nonNull? (v : Value) : Option Value :=
  if v.isNull then none else some v

/-- The name by which error messages call the kind of the value. -/
def kindName : Value → String
  | .null => "NoneType"
  | .bool _ => "bool"
  | .int _ => "int"
  | .float _ => "float"
  | .str _ => "str"
  | .bytes _ => "bytes"
  | .date _ => "datetime.date"
  | .moment _ => "datetime.datetime"
  | .list _ => "list"
  | .map _ => "dict"

/-- The entry of a mapping under a text, if there is one. -/
def field? (entries : List (Value × Value)) (name : String) : Option Value :=
  entries.findSome? fun entry =>
    match entry.1 with
    | .str s => if s = name then some entry.2 else none
    | _ => none

/-- The entry of a mapping under a text, null if there is none. -/
def field (entries : List (Value × Value)) (name : String) : Value :=
  (field? entries name).getD .null

@[simp] theorem isTruthy_null : isTruthy .null = false := rfl

@[simp] theorem isTruthy_str (s : String) : (Value.str s).isTruthy = (s != "") := rfl

/-- A null does not count as given. -/
theorem isTruthy_of_isNull {v : Value} (h : v.isNull = true) : v.isTruthy = false := by
  cases v <;> simp_all [isNull, isTruthy]

end Value

end TableDdl
