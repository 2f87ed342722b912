import TableDdl.Proofs.Result
import TableDdl.Value.Key
import TableDdl.Value.Text
import Mathlib.Data.List.Nodup
import Mathlib.Data.Set.List

/-!
# Names and texts

Which values can be names, which can be written, and which are texts. A text is always both, and
it is the only value that is one name with itself.
-/

namespace TableDdl.Value

/-- The value can be a name. -/
def Nameable (v : Value) : Prop :=
  ∃ key, v.key = .ok key

/-- The value can be written. -/
def Writable (v : Value) : Prop :=
  ∃ text, v.text = .ok text

instance (v : Value) : Decidable v.Writable :=
  inferInstanceAs (Decidable (∃ text, v.text = .ok text))

/-- Whether the value is a text. -/
def isText : Value → Bool
  | .str _ => true
  | _ => false

/-- Whether the value is a text or null. -/
def isOptionalText (v : Value) : Bool :=
  v.isNull || v.isText

theorem isText_iff {v : Value} : v.isText = true ↔ ∃ s, v = .str s := by
  cases v <;> simp [isText]

/-- The characters of a text; none of anything else. -/
def string : Value → String
  | .str s => s
  | _ => ""

theorem eq_str_string {v : Value} (text : v.isText = true) : v = .str v.string := by
  obtain ⟨s, rfl⟩ := isText_iff.mp text
  rfl

/-- The values of a list are texts exactly if the list is one of texts. -/
theorem forall_isText_iff {values : List Value} :
    (∀ v ∈ values, v.isText = true) ↔ ∃ names : List String, values = names.map .str := by
  constructor
  · intro texts
    have ranged : values ∈ Set.range (List.map Value.str) := by
      rw [Set.range_list_map]
      intro v member
      obtain ⟨s, rfl⟩ := isText_iff.mp (texts v member)
      exact ⟨s, rfl⟩
    obtain ⟨names, rfl⟩ := ranged
    exact ⟨names, rfl⟩
  · rintro ⟨names, rfl⟩ v member
    obtain ⟨s, -, rfl⟩ := List.mem_map.mp member
    rfl

theorem isOptionalText_iff {v : Value} : v.isOptionalText = true ↔ v = .null ∨ ∃ s, v = .str s := by
  rw [isOptionalText, Bool.or_eq_true, isText_iff]
  cases v <;> simp [isNull]

theorem isText_of_isOptionalText {v : Value} (text : v.isOptionalText = true)
    (given : v.isTruthy = true) : v.isText = true := by
  rcases isOptionalText_iff.mp text with rfl | ⟨s, rfl⟩
  · cases given
  · rfl

theorem nameable_str (s : String) : (Value.str s).Nameable :=
  ⟨.text s, rfl⟩

theorem writable_str (s : String) : (Value.str s).Writable :=
  ⟨s, rfl⟩

theorem writable_of_isText {v : Value} (text : v.isText = true) : v.Writable := by
  obtain ⟨s, rfl⟩ := isText_iff.mp text
  exact writable_str s

theorem nameable_of_isText {v : Value} (text : v.isText = true) : v.Nameable := by
  obtain ⟨s, rfl⟩ := isText_iff.mp text
  exact nameable_str s

theorem writable_of_isOptionalText {v : Value} (text : v.isOptionalText = true) : v.Writable := by
  rcases isOptionalText_iff.mp text with rfl | ⟨s, rfl⟩
  · exact ⟨_, rfl⟩
  · exact writable_str s

theorem exists_wholeText_iff {n : Int} :
    (∃ text, wholeText n = .ok text) ↔ n.natAbs < Nat.pow 10 Number.maxDigits := by
  unfold wholeText Number.decimalText?
  by_cases short : n.natAbs < Nat.pow 10 Number.maxDigits
  · simp only [short, iff_true]
    exact ⟨_, rfl⟩
  · simp only [short, iff_false]
    rintro ⟨text, written⟩
    cases written

theorem writable_int_iff {n : Int} :
    (Value.int n).Writable ↔ n.natAbs < Nat.pow 10 Number.maxDigits := by
  have same : (Value.int n).text = wholeText n := rfl
  rw [Writable, same]
  exact exists_wholeText_iff

/-- What does not count as given can be written. -/
theorem writable_of_not_given {v : Value} (absent : v.isTruthy = false) : v.Writable := by
  cases v with
  | int n =>
    have zero : n = 0 := by simpa [isTruthy] using absent
    rw [zero, writable_int_iff]
    apply Nat.pow_pos
    decide
  | list items =>
    cases items with
    | nil => exact ⟨_, rfl⟩
    | cons v rest => cases absent
  | map entries =>
    cases entries with
    | nil => exact ⟨_, rfl⟩
    | cons entry rest => cases absent
  | _ => exact ⟨_, rfl⟩

theorem exists_given_text_iff {v : Value} :
    (∃ text, v.given?.mapM Value.text = .ok text) ↔ v.Writable := by
  cases given : v.isTruthy with
  | true => simp [given?, given, Writable, Result.map_eq_ok_iff]
  | false => simp [given?, given, writable_of_not_given given]

theorem exists_nonNull_text_iff {v : Value} :
    (∃ text, v.nonNull?.mapM Value.text = .ok text) ↔ v.Writable := by
  cases absent : v.isNull with
  | true => simp [nonNull?, absent, writable_of_not_given (isTruthy_of_isNull absent)]
  | false => simp [nonNull?, absent, Writable, Result.map_eq_ok_iff]

/-- Two values are one name exactly if they are called the same. -/
theorem isSameName_iff {v w : Value} :
    v.isSameName w = true ↔ ∃ key, v.key = .ok key ∧ w.key = .ok key := by
  unfold isSameName
  cases first : v.key with
  | error _ => simp
  | ok key =>
    cases second : w.key with
    | error _ => simp
    | ok other => simp [eq_comm]

theorem isSameName_iff_of_key {v w : Value} {key : Key} (called : w.key = .ok key) :
    v.isSameName w = true ↔ v.key = .ok key := by
  rw [isSameName_iff]
  constructor
  · rintro ⟨other, first, second⟩
    rw [called] at second
    cases second
    exact first
  · intro first
    exact ⟨key, first, called⟩

/-- What cannot be a name has no name in common with anything. -/
theorem isSameName_of_key_eq_error {v : Value} {f : Fault} (failed : v.key = .error f) (w : Value) :
    v.isSameName w = false := by
  rw [isSameName, failed]

theorem isSameName_comm (v w : Value) : v.isSameName w = w.isSameName v := by
  rw [Bool.eq_iff_iff, isSameName_iff, isSameName_iff]
  exact exists_congr fun key => and_comm

theorem isSameName_trans {u v w : Value} (first : u.isSameName v = true)
    (second : v.isSameName w = true) : u.isSameName w = true := by
  obtain ⟨key, called, called'⟩ := isSameName_iff.mp second
  exact isSameName_iff.mpr ⟨key, (isSameName_iff_of_key called).mp first, called'⟩

/-- One as a whole number, one as a real number and truth are one name, and the text is another. -/
example :
    (Value.int 1).isSameName (.float (.ofInt 1)) = true ∧
      (Value.int 1).isSameName (.bool true) = true ∧
      (Value.int 1).isSameName (.str "1") = false := by
  decide

/-- Whether the value is a plain name: a text, a whole number, a truth value or a finite number. -/
def isPlainName : Value → Bool
  | .str _ | .int _ | .bool _ | .float (.finite _ _ _) => true
  | _ => false

theorem nameable_of_isPlainName {v : Value} (plain : v.isPlainName = true) : v.Nameable := by
  rcases key_ok_or v with called | ⟨items, rfl⟩ | ⟨entries, rfl⟩
  · exact called
  · cases plain
  · cases plain

/-- A plain name can be written unless it is a whole number of too many digits. -/
theorem writable_iff_of_isPlainName {v : Value} (plain : v.isPlainName = true) :
    v.Writable ↔ ∀ n, v = .int n → n.natAbs < Nat.pow 10 Number.maxDigits := by
  cases v with
  | int n => simp [writable_int_iff]
  | str s => simp [writable_str]
  | bool b => simp [Writable, text, literal]
  | float x => simp [Writable, text, literal]
  | _ => cases plain

/-- Only a text is called what a text is called. -/
theorem eq_str_of_key_eq_text {v : Value} {s : String} (called : v.key = .ok (.text s)) :
    v = .str s := by
  cases v with
  | str t =>
    cases called
    rfl
  | float x =>
    simp only [key] at called
    split at called <;> cases called
  | moment t =>
    simp only [key] at called
    split at called <;> cases called
  | _ => cases called

/-- Only a text has the same name as a text, and it is that text. -/
theorem isSameName_str_iff {v : Value} {n : String} :
    v.isSameName (.str n) = true ↔ v = .str n := by
  rw [isSameName_iff_of_key (key_str n)]
  constructor
  · exact eq_str_of_key_eq_text
  · rintro rfl
    exact key_str n

end TableDdl.Value

namespace TableDdl.Names

variable {α ν : Type} [DecidableEq ν] {name : α → ν} {xs : List α} {x : α}

/-- Where no two have the same name, each is found by its own. -/
theorem find?_of_nodup (distinct : (xs.map name).Nodup) (member : x ∈ xs) :
    xs.find? (fun y => name y = name x) = some x := by
  have found : (xs.find? fun y => name y = name x).isSome = true := by
    rw [List.find?_isSome]
    exact ⟨x, member, by simp⟩
  obtain ⟨other, same⟩ := Option.isSome_iff_exists.mp found
  have called : name other = name x := by simpa using List.find?_some same
  rw [same, List.inj_on_of_nodup_map distinct (List.mem_of_find?_eq_some same) member called]

end TableDdl.Names
