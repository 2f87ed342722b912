import TableDdl.Fault
import TableDdl.Value.Basic

/-!
# Names

Two values are one name if they are equal as names: truth values and numbers by what they
amount to, texts as texts, moments by the point in time if their offset is known. Lists and
mappings cannot be names. Every name has one `Key`, and equality of names is equality of keys.
-/

namespace TableDdl

/-- What a name amounts to. -/
inductive Key where
  | null
  | whole (n : Int)
  | real (x : Binary64)
  | text (s : String)
  | bytes (b : List UInt8)
  | day (d : Date)
  | clock (t : Moment)
  | instant (microseconds : Int)
  deriving DecidableEq, Repr

/-- The key of a value, or the fault that it cannot be a name. -/
def Value.key : Value → Except Fault Key
  | .null => .ok .null
  | .bool b => .ok (.whole (if b then 1 else 0))
  | .int n => .ok (.whole n)
  | .float x =>
    match x.toInt? with
    | some n => .ok (.whole n)
    | none => .ok (.real x)
  | .str s => .ok (.text s)
  | .bytes b => .ok (.bytes b)
  | .date d => .ok (.day d)
  | .moment t =>
    match t.instant? with
    | some point => .ok (.instant point)
    | none => .ok (.clock t)
  | .list items => .error (.notHashable (Value.list items).kindName)
  | .map entries => .error (.notHashable (Value.map entries).kindName)

namespace Value

/-- Whether two values are one name. -/
def isSameName (v w : Value) : Bool :=
  match v.key, w.key with
  | .ok k, .ok l => k = l
  | _, _ => false

mutual

/-- Whether two values are equal. Scalars are equal if they are one name; the order of the entries
of a mapping does not matter. -/
def equal : Value → Value → Bool
  | .list items, .list others => itemsEqual items others
  | .map entries, .map others => entries.length == others.length && entriesEqual entries others
  | v, w => v.isSameName w

/-- Whether two lists have equal items at every place. -/
def itemsEqual : List Value → List Value → Bool
  | [], [] => true
  | v :: rest, w :: others => equal v w && itemsEqual rest others
  | _, _ => false

/-- Whether every entry has an equal one among others. -/
def entriesEqual : List (Value × Value) → List (Value × Value) → Bool
  | [], _ => true
  | (k, v) :: rest, others =>
    (match others.find? fun entry => entry.1.isSameName k with
      | some (_, w) => equal v w
      | none => false) && entriesEqual rest others

end

@[simp] theorem key_str (s : String) : (Value.str s).key = .ok (.text s) := rfl

/-- Only lists and mappings are refused as names. -/
theorem key_ok_or (v : Value) :
    (∃ k, v.key = .ok k) ∨ (∃ items, v = .list items) ∨ ∃ entries, v = .map entries := by
  cases v with
  | float x =>
    left
    cases h : x.toInt? with
    | none => exact ⟨.real x, by simp [key, h]⟩
    | some n => exact ⟨.whole n, by simp [key, h]⟩
  | moment t =>
    left
    cases h : t.instant? with
    | none => exact ⟨.clock t, by simp [key, h]⟩
    | some point => exact ⟨.instant point, by simp [key, h]⟩
  | list items => exact .inr (.inl ⟨items, rfl⟩)
  | map entries => exact .inr (.inr ⟨entries, rfl⟩)
  | null => exact .inl ⟨.null, rfl⟩
  | bool b => exact .inl ⟨.whole (if b then 1 else 0), rfl⟩
  | int n => exact .inl ⟨.whole n, rfl⟩
  | str s => exact .inl ⟨.text s, rfl⟩
  | bytes b => exact .inl ⟨.bytes b, rfl⟩
  | date d => exact .inl ⟨.day d, rfl⟩

end Value

end TableDdl
