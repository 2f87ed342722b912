import TableDdl.Loading.Error
import TableDdl.Number.Integer
import TableDdl.Value.Text

/-!
# Fields of a description

How the fields of a description are looked at: the mapping itself, with its unknown fields
refused; the things that a value goes through one by one; and the whole number that a size is
given as.
-/

namespace TableDdl.Loading

/-- The things that a value goes through: the items of a list, the characters of a text, the
bytes of a string of bytes, the names of a mapping. What does not count as given goes through
nothing. -/
def elements (v : Value) : Except Fault (List Value) :=
  if !v.isTruthy then .ok []
  else
    match v with
    | .list items => .ok items
    | .str s => .ok (s.toList.map fun c => .str (String.singleton c))
    | .bytes b => .ok (b.map fun byte => .int byte.toNat)
    | .map entries => .ok (entries.map Prod.fst)
    | v => .error (.notIterable v.kindName)

/-- The names among the given ones that are no fields of the part. -/
def unknownNames (part : Part) (names : List Value) : List Value :=
  names.filter fun name =>
    match name with
    | .str s => !part.fields.contains s
    | _ => true

/-- The exact number that a name is, if it is one; a whole number need not fit the format. -/
def numeric? : Value → Option Binary64
  | .bool b => some (.finite false (if b then 1 else 0) 0)
  | .int n => some (.finite (n < 0) n.natAbs 0)
  | .float x => some x
  | _ => none

/-- The text of a name, if it is one. -/
def textual? : Value → Option String
  | .str s => some s
  | _ => none

/-- The two sorts of time that a name may be. -/
inductive TimeSort where
  | day
  /-- A moment, with a known distance from universal time or without. -/
  | moment (placed : Bool)
  deriving DecidableEq

/-- Which sort of time a name is, if it is one. -/
def timeSort? : Value → Option TimeSort
  | .date _ => some .day
  | .moment t => some (.moment t.offset.isSome)
  | _ => none

/-- Why two sorts of time have no order. -/
def TimeSort.disorder : TimeSort → TimeSort → Fault
  | .moment _, .moment _ => .mixedOffsets
  | _, _ => .dayAndMoment

/-- Why two names of different kinds or sorts have no order. -/
def disorderOf (name other : Value) : Fault :=
  match timeSort? name, timeSort? other with
  | some s, some t => s.disorder t
  | _, _ => .notOrdered other.kindName name.kindName

/-- Why names other than numbers have no order: the first of them differs from a later one in
kind or sort. There is an order if none does. -/
def disorder? : List Value → Option Fault
  | [] => none
  | name :: rest =>
    (rest.find? fun other =>
      other.kindName ≠ name.kindName ∨ timeSort? other ≠ timeSort? name).map (disorderOf name)

/-- Names in ascending order: texts by their code points, numbers by what they amount to. Names of
another kind are left in their order. -/
def sortNames (names : List Value) : Except Fault (List Value) :=
  match names.mapM textual? with
  | some texts => .ok ((texts.mergeSort Text.noLaterThan).map .str)
  | none =>
    match names.mapM fun v => (numeric? v).map fun x => (x, v) with
    | some pairs => .ok ((pairs.mergeSort fun a b => !b.1.lt a.1).map Prod.snd)
    | none =>
      match disorder? names with
      | none => .ok names
      | some f => .error f

/-- The texts among the names, up to the first that is none. -/
def namesAsTexts (position : Nat) : List Value → Except Fault (List String)
  | [] => .ok []
  | .str s :: rest => (namesAsTexts (position + 1) rest).map (s :: ·)
  | v :: _ => .error (.notText position v.kindName)

/-- The entries of a description of a part: a mapping with known fields only. -/
def description (part : Part) (v : Value) : Attempt LoadError (List (Value × Value)) :=
  match v with
  | .map entries =>
    match unknownNames part (entries.map Prod.fst) with
    | [] => .ok entries
    | unknown => do
      let sorted ← sortNames unknown
      let names ← namesAsTexts 0 sorted
      refuse (.unknownFields part names)
  | v => do refuse (.notDescription part (← v.literal))

/-- The whole number that a value is or is written as; a fraction is cut off. `none` if the value
is nothing of the kind. -/
def wholeNumber (v : Value) : Except Fault (Option Int) :=
  match v with
  | .bool b => .ok (some (if b then 1 else 0))
  | .int n => .ok (some n)
  | .float (.infinite _) => .error .infiniteInteger
  | .float x => .ok x.truncate?
  | .str s => .ok (Number.integerOfText s).toOption
  | .bytes b =>
    if b.all (· < 127) then
      .ok (Number.readInteger 10 (b.map fun byte => Char.ofNat byte.toNat)).toOption
    else .ok none
  | _ => .ok none

/-- The size of a column that is given in a field, if one is given. -/
def size? (entries : List (Value × Value)) (field : SizeField) (column : Value) :
    Attempt LoadError (Option Int) :=
  match (Value.field entries field.label).nonNull? with
  | none => .ok none
  | some found => do
    match ← wholeNumber found with
    | some n => return some n
    | none => refuse (.invalidSize field (← found.text) (← column.text))

end TableDdl.Loading
