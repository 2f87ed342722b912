import TableDdl.Proofs.Ddl.Literal

/-!
# What the clause of a column tells

The clause of a column is put together from up to seven parts, most of which may be missing. Each
part ends before a character that cannot belong to it, or begins with a word that no other
continuation of the clause begins with. So two equal clauses can be taken apart side by side, part
by part from the front, and have the same parts. The default comes last and may hold anything.
-/

namespace TableDdl

open Ddl

namespace Ddl

section Cutting

variable {u v w w' x y : List Char}

/-- Two words are the same if they end where the same class of characters ends. -/
theorem cut_word {p : Char → Bool} (inside : ∀ c ∈ u, p c = true) (inside' : ∀ c ∈ v, p c = true)
    (ends : ∀ c ∈ x.head?, p c = false) (ends' : ∀ c ∈ y.head?, p c = false)
    (same : u ++ x = v ++ y) : u = v ∧ x = y := by
  have stops {rest : List Char} (ends : ∀ c ∈ rest.head?, p c = false) : rest.takeWhile p = [] := by
    cases rest with
    | nil => rfl
    | cons c rest => simp [ends c rfl]
  have words := congrArg (List.takeWhile p) same
  rw [List.takeWhile_append_of_pos inside, List.takeWhile_append_of_pos inside', stops ends,
    stops ends', List.append_nil, List.append_nil] at words
  subst words
  exact ⟨rfl, List.append_cancel_left same⟩

/-- One of two words was written in both lists, if neither list could have been begun by the other
word. -/
theorem cut_choice {b b' : Bool} (apart : w ++ x ≠ w' ++ y) (apart' : w' ++ x ≠ w ++ y)
    (same : (if b then w else w') ++ x = (if b' then w else w') ++ y) : b = b' ∧ x = y := by
  cases b <;> cases b'
  · exact ⟨rfl, List.append_cancel_left same⟩
  · exact absurd same apart'
  · exact absurd same apart
  · exact ⟨rfl, List.append_cancel_left same⟩

end Cutting

/-- The characters of a whole number: digits and the sign. -/
def isNumberChar (c : Char) : Bool :=
  c.isDigit || c == '-'

theorem isDigit_of_mem_repr {n : Nat} {c : Char} (member : c ∈ n.repr.toList) :
    c.isDigit = true := by
  rw [Nat.toList_repr] at member
  exact Nat.isDigit_of_mem_toDigits (by decide) (by decide) member

theorem toList_toString_negSucc (n : Nat) :
    (toString (Int.negSucc n)).toList = '-' :: n.succ.repr.toList := by
  simp [toString, Int.repr]

theorem isNumberChar_of_mem_toString {n : Int} {c : Char} (member : c ∈ (toString n).toList) :
    isNumberChar c = true := by
  cases n with
  | ofNat m => simp [isNumberChar, isDigit_of_mem_repr member]
  | negSucc m =>
    rw [toList_toString_negSucc] at member
    rcases List.mem_cons.mp member with rfl | later
    · rfl
    · simp [isNumberChar, isDigit_of_mem_repr later]

theorem eq_of_toList_repr {m n : Nat} (same : m.repr.toList = n.repr.toList) : m = n := by
  rw [Nat.toList_repr, Nat.toList_repr] at same
  have read := congrArg (Nat.ofDigitChars 10 · 0) same
  simpa only [Nat.ofDigitChars_ten_toDigits] using read

/-- The digits of a number do not start with a sign. -/
theorem toList_repr_ne_sign {n : Nat} (rest : List Char) : n.repr.toList ≠ '-' :: rest := by
  intro same
  have digit : '-'.isDigit = true := isDigit_of_mem_repr (same ▸ List.mem_cons_self)
  cases digit

theorem eq_of_toList_toString {m n : Int} (same : (toString m).toList = (toString n).toList) :
    m = n := by
  cases m with
  | ofNat m =>
    cases n with
    | ofNat n => exact congrArg Int.ofNat (eq_of_toList_repr same)
    | negSucc n =>
      rw [toList_toString_negSucc] at same
      exact absurd same (toList_repr_ne_sign _)
  | negSucc m =>
    rw [toList_toString_negSucc] at same
    cases n with
    | ofNat n => exact absurd same.symm (toList_repr_ne_sign _)
    | negSucc n =>
      rw [toList_toString_negSucc] at same
      have digits := eq_of_toList_repr (List.cons.inj same).2
      exact congrArg Int.negSucc (Nat.succ.inj digits)

theorem cut_number {m n : Int} {x y : List Char} (ends : ∀ c ∈ x.head?, isNumberChar c = false)
    (ends' : ∀ c ∈ y.head?, isNumberChar c = false)
    (same : (toString m).toList ++ x = (toString n).toList ++ y) : m = n ∧ x = y := by
  obtain ⟨digits, rest⟩ := cut_word (fun _ => isNumberChar_of_mem_toString)
    (fun _ => isNumberChar_of_mem_toString) ends ends' same
  exact ⟨eq_of_toList_toString digits, rest⟩

theorem eq_toString_of_wholeText {n : Int} {text : String} (written : wholeText n = .ok text) :
    text = toString n := by
  unfold wholeText Number.decimalText? at written
  by_cases short : n.natAbs < Nat.pow 10 Number.maxDigits
  · rw [if_pos short] at written
    exact (Except.ok.inj written).symm
  · rw [if_neg short] at written
    cases written

/-- What follows a length: a precision, if there is one, and the closing parenthesis. -/
def afterLength : Option Int → List Char
  | none => [')']
  | some p => ',' :: ((toString p).toList ++ [')'])

/-- The sizes behind a type. -/
def sizes (precision : Option Int) : Option Int → List Char
  | none => []
  | some n => '(' :: ((toString n).toList ++ afterLength precision)

theorem afterLength_ends (precision : Option Int) (x : List Char) :
    ∀ c ∈ (afterLength precision ++ x).head?, isNumberChar c = false := by
  cases precision <;> simp [afterLength, isNumberChar]

theorem cut_afterLength {precision precision' : Option Int} {x y : List Char}
    (same : afterLength precision ++ x = afterLength precision' ++ y) :
    precision = precision' ∧ x = y := by
  cases precision with
  | none =>
    cases precision' with
    | none => exact ⟨rfl, (List.cons.inj same).2⟩
    | some q => simp [afterLength] at same
  | some p =>
    cases precision' with
    | none => simp [afterLength] at same
    | some q =>
      simp only [afterLength, List.cons_append, List.append_assoc, List.cons.injEq,
        true_and] at same
      obtain ⟨rfl, closed⟩ :=
        cut_number (by simp [isNumberChar]) (by simp [isNumberChar]) same
      exact ⟨rfl, by simpa using closed⟩

/-- Sizes are told apart from what follows them, which begins with a space. -/
theorem cut_sizes {length length' precision precision' : Option Int} {x y : List Char}
    (beside : length = none → precision = none) (beside' : length' = none → precision' = none)
    (ends : x.head? = some ' ') (ends' : y.head? = some ' ')
    (same : sizes precision length ++ x = sizes precision' length' ++ y) :
    length = length' ∧ precision = precision' ∧ x = y := by
  cases length with
  | none =>
    cases length' with
    | none => exact ⟨rfl, (beside rfl).trans (beside' rfl).symm, same⟩
    | some n =>
      have clash : x = '(' :: _ := same
      simp [clash] at ends
  | some m =>
    cases length' with
    | none =>
      have clash : '(' :: _ = y := same
      simp [← clash] at ends'
    | some n =>
      simp only [sizes, List.cons_append, List.append_assoc, List.cons.injEq, true_and] at same
      obtain ⟨rfl, behind⟩ := cut_number (afterLength_ends _ x) (afterLength_ends _ y) same
      obtain ⟨rfl, rest⟩ := cut_afterLength behind
      exact ⟨rfl, rfl, rest⟩

/-- The type is one that may have a length, or it is made up of letters. -/
def IsTypeName (type : String) : Prop :=
  type ∈ sizedTypes ∨ ∀ c ∈ type.toList, c.isAlpha = true

/-- All but one of the types that may have a length are made up of letters. -/
theorem IsTypeName.cases {type : String} (named : IsTypeName type) :
    (∀ c ∈ type.toList, c.isAlpha = true) ∨ type = "DOUBLE PRECISION" := by
  rcases named with sized | letters
  · have each : ∀ type ∈ sizedTypes,
        type.toList.all Char.isAlpha = true ∨ type = "DOUBLE PRECISION" := by
      decide
    exact (each type sized).imp_left List.all_eq_true.mp
  · exact .inl letters

/-- What may follow a type: neither a letter nor the second word of a type. -/
def FollowsType (x : List Char) : Prop :=
  (∀ c ∈ x.head?, c.isAlpha = false) ∧ ¬ " PRECISION".toList <+: x

/-- Types are told apart from what follows them. -/
theorem cut_type {type type' : String} {x y : List Char} (named : IsTypeName type)
    (named' : IsTypeName type') (ends : FollowsType x) (ends' : FollowsType y)
    (same : type.toList ++ x = type'.toList ++ y) : type = type' ∧ x = y := by
  have letters : ∀ c ∈ "DOUBLE".toList, c.isAlpha = true := by simp
  have split (x : List Char) :
      "DOUBLE PRECISION".toList ++ x = "DOUBLE".toList ++ (" PRECISION".toList ++ x) := rfl
  have second (x : List Char) : ∀ c ∈ (" PRECISION".toList ++ x).head?, c.isAlpha = false := by
    simp
  -- A word beside the type of two words could only be its first one, with the second behind it.
  rcases named.cases with word | rfl <;> rcases named'.cases with word' | rfl
  · obtain ⟨words, rest⟩ := cut_word word word' ends.1 ends'.1 same
    exact ⟨String.toList_inj.mp words, rest⟩
  · rw [split] at same
    obtain ⟨-, rest⟩ := cut_word word letters ends.1 (second y) same
    exact absurd ⟨y, rest.symm⟩ ends.2
  · rw [split] at same
    obtain ⟨-, rest⟩ := cut_word letters word' (second x) ends'.1 same
    exact absurd ⟨x, rest⟩ ends'.2
  · exact ⟨rfl, List.append_cancel_left same⟩

/-- Of columns of one type, different defaults are written differently. -/
theorem defaultText_injective (type : String) : Function.Injective (Ddl.defaultText type) := by
  have given (d : String) : (Ddl.defaultText type (some d)).toList ≠ [] := by
    simp [Ddl.defaultText]
  intro d d' same
  cases d with
  | none =>
    cases d' with
    | none => rfl
    | some t => exact absurd (congrArg String.toList same.symm) (given t)
  | some s =>
    cases d' with
    | none => exact absurd (congrArg String.toList same) (given s)
    | some t =>
      have written := (String.append_right_inj _).mp same
      by_cases string : type ∈ stringTypes
      · rw [if_pos string, if_pos string] at written
        exact congrArg some (Literal.quote_injective written)
      · rw [if_neg string, if_neg string] at written
        exact congrArg some written

namespace ColumnOutline

variable (o : ColumnOutline)

/-- The characters of the clause from the default on. -/
def fromDefault : List Char :=
  (Ddl.defaultText o.type o.defaultText).toList

/-- The characters of the clause from the counting on. -/
def fromIncrement : List Char :=
  (if o.autoIncrement then " AUTO_INCREMENT".toList else []) ++ o.fromDefault

/-- The characters of the clause from the word for nulls on. -/
def fromNull : List Char :=
  (if o.nullable then " NULL".toList else " NOT NULL".toList) ++ o.fromIncrement

/-- The characters of the clause behind the type and its sizes. -/
def fromSign : List Char :=
  (if o.isUnsigned then " UNSIGNED".toList else []) ++ o.fromNull

/-- The characters of the clause behind the type. -/
def fromSizes : List Char :=
  sizes o.precision o.length ++ o.fromSign

/-- The characters of the clause. -/
def characters : List Char :=
  o.name.toList ++ ' ' :: (o.type.toList ++ o.fromSizes)

theorem head?_fromSign : o.fromSign.head? = some ' ' := by
  cases signed : o.isUnsigned <;> cases null : o.nullable <;>
    simp [fromSign, fromNull, signed, null]

theorem fromSizes_followsType : FollowsType o.fromSizes := by
  cases sized : o.length with
  | none =>
    have behind : o.fromSizes = o.fromSign := by simp [fromSizes, sized, sizes]
    rw [behind, FollowsType, head?_fromSign]
    cases signed : o.isUnsigned <;> cases null : o.nullable <;>
      simp [fromSign, fromNull, signed, null]
  | some n => simp [FollowsType, fromSizes, sized, sizes]

/-- The outline is that of a column whose name has no spaces and whose type is a sized one or a
word. Sizes stand in it if they are written. -/
structure IsPlain : Prop where
  name : ' ' ∉ o.name.toList
  type : IsTypeName o.type
  length : writtenLength o.type o.length = o.length
  precision : writtenPrecision o.type o.length o.precision = o.precision

variable {o}

theorem IsPlain.beside (plain : o.IsPlain) (unsized : o.length = none) : o.precision = none := by
  rw [← plain.precision, unsized]
  simp [writtenPrecision, writtenLength]

theorem cut_isUnsigned {o o' : ColumnOutline} (same : o.fromSign = o'.fromSign) :
    o.isUnsigned = o'.isUnsigned ∧ o.fromNull = o'.fromNull := by
  have apart (o : ColumnOutline) (x : List Char) :
      " UNSIGNED".toList ++ x ≠ [] ++ o.fromNull := by
    cases null : o.nullable <;> simp [fromNull, null]
  rw [fromSign, fromSign] at same
  exact cut_choice (apart o' _) (apart o _).symm same

theorem cut_nullable {o o' : ColumnOutline} (same : o.fromNull = o'.fromNull) :
    o.nullable = o'.nullable ∧ o.fromIncrement = o'.fromIncrement := by
  have apart (x y : List Char) : " NULL".toList ++ x ≠ " NOT NULL".toList ++ y := by
    simp
  rw [fromNull, fromNull] at same
  exact cut_choice (apart _ _) (apart _ _).symm same

theorem cut_autoIncrement {o o' : ColumnOutline} (same : o.fromIncrement = o'.fromIncrement) :
    o.autoIncrement = o'.autoIncrement ∧ o.fromDefault = o'.fromDefault := by
  have apart (o : ColumnOutline) (x : List Char) :
      " AUTO_INCREMENT".toList ++ x ≠ [] ++ o.fromDefault := by
    cases d : o.defaultText <;> simp [fromDefault, Ddl.defaultText, d]
  rw [fromIncrement, fromIncrement] at same
  exact cut_choice (apart o' _) (apart o _).symm same

theorem cut_name {o o' : ColumnOutline} (plain : ' ' ∉ o.name.toList)
    (plain' : ' ' ∉ o'.name.toList) (same : o.characters = o'.characters) :
    o.name = o'.name ∧ o.type.toList ++ o.fromSizes = o'.type.toList ++ o'.fromSizes := by
  have space {name : String} (plain : ' ' ∉ name.toList) :
      ∀ c ∈ name.toList, (c != ' ') = true := by
    intro c member
    rw [bne_iff_ne]
    rintro rfl
    exact plain member
  obtain ⟨names, rest⟩ := cut_word (space plain) (space plain') (by simp) (by simp) same
  exact ⟨String.toList_inj.mp names, (List.cons.inj rest).2⟩

/-- The characters of a clause determine what it says. -/
theorem eq_of_characters {o o' : ColumnOutline} (plain : o.IsPlain) (plain' : o'.IsPlain)
    (same : o.characters = o'.characters) : o = o' := by
  obtain ⟨name, fromType⟩ := cut_name plain.name plain'.name same
  obtain ⟨type, fromSizes⟩ := cut_type plain.type plain'.type o.fromSizes_followsType
    o'.fromSizes_followsType fromType
  obtain ⟨length, precision, fromSign⟩ := cut_sizes plain.beside plain'.beside o.head?_fromSign
    o'.head?_fromSign fromSizes
  obtain ⟨isUnsigned, fromNull⟩ := cut_isUnsigned fromSign
  obtain ⟨nullable, fromIncrement⟩ := cut_nullable fromNull
  obtain ⟨autoIncrement, fromDefault⟩ := cut_autoIncrement fromIncrement
  have defaults : o.defaultText = o'.defaultText := by
    apply defaultText_injective o.type
    rw [ColumnOutline.fromDefault, ColumnOutline.fromDefault, ← type] at fromDefault
    exact String.toList_inj.mp fromDefault
  cases o
  cases o'
  simp_all

theorem IsPlain.sized (plain : o.IsPlain) {n : Int} (given : o.length = some n) :
    o.type ∈ sizedTypes := by
  have kept := plain.length
  rw [given, writtenLength, Option.filter_eq_some_iff] at kept
  simpa using kept.2

theorem IsPlain.precise (plain : o.IsPlain) {p : Int} (given : o.precision = some p) :
    o.type ∈ precisionTypes := by
  have kept := plain.precision
  rw [given, writtenPrecision, Option.filter_eq_some_iff] at kept
  simp only [decide_eq_true_eq] at kept
  exact kept.2.2

theorem toList_of_typeText {text : String} (plain : o.IsPlain)
    (written : typeText o.type o.length o.precision = .ok text) :
    text.toList = o.type.toList ++ sizes o.precision o.length := by
  cases length : o.length with
  | none =>
    rw [length] at written
    cases written
    simp [sizes]
  | some n =>
    cases precision : o.precision with
    | none =>
      have asked : typeText o.type (some n) none =
          wholeText n >>= fun n => .ok (o.type ++ "(" ++ n ++ ")") := by
        simp [typeText, plain.sized length]
      rw [length, precision, asked] at written
      obtain ⟨digits, whole, same⟩ := Result.bind_eq_ok_iff.mp written
      obtain rfl := eq_toString_of_wholeText whole
      cases same
      simp [sizes, afterLength]
    | some p =>
      have asked : typeText o.type (some n) (some p) =
          wholeText n >>= fun n => wholeText p >>= fun p =>
            .ok (o.type ++ "(" ++ n ++ "," ++ p ++ ")") := by
        simp [typeText, plain.sized length, plain.precise precision, Option.filter_some]
      rw [length, precision, asked] at written
      obtain ⟨digits, whole, written⟩ := Result.bind_eq_ok_iff.mp written
      obtain ⟨digits', whole', same⟩ := Result.bind_eq_ok_iff.mp written
      obtain rfl := eq_toString_of_wholeText whole
      obtain rfl := eq_toString_of_wholeText whole'
      cases same
      simp [sizes, afterLength]

/-- A clause that is written has the characters of what it says. -/
theorem toList_of_clause {text : String} (plain : o.IsPlain) (written : o.clause = .ok text) :
    text.toList = o.characters := by
  obtain ⟨sized, withSizes, written⟩ := Result.bind_eq_ok_iff.mp written
  cases written
  have space : " ".toList = [' '] := rfl
  have nothing : "".toList = [] := rfl
  simp only [String.toList_append, toList_of_typeText plain withSizes, characters, fromSizes,
    fromSign, fromNull, fromIncrement, fromDefault, apply_ite String.toList, space, nothing,
    List.append_assoc, List.cons_append, List.nil_append]

/-- A clause is the clause of one plain outline. -/
theorem eq_of_clause {o o' : ColumnOutline} {text : String} (plain : o.IsPlain)
    (plain' : o'.IsPlain) (written : o.clause = .ok text) (written' : o'.clause = .ok text) :
    o = o' := by
  apply eq_of_characters plain plain'
  rw [← toList_of_clause plain written, ← toList_of_clause plain' written']

end ColumnOutline

end Ddl

namespace Column

/-- The name of the column is a text without spaces, and its type is one that may have a length or
a word of letters. -/
structure IsPlain (c : Column) : Prop where
  name : ∃ name : String, c.name = .str name ∧ ' ' ∉ name.toList
  type : IsTypeName c.normalizedType

theorem IsPlain.outline {c : Column} {o : ColumnOutline} (plain : c.IsPlain)
    (outlined : c.outline = .ok o) : c.name = .str o.name ∧ o.IsPlain := by
  obtain ⟨name, called, spaceless⟩ := plain.name
  obtain ⟨text, named, rfl⟩ := outline_eq_ok_iff.mp outlined
  rw [called, Value.text_str] at named
  cases named
  refine ⟨called, spaceless, plain.type, ?_, ?_⟩
  · simp [writtenLength, Option.filter_filter]
  · simp [writtenPrecision, writtenLength, Option.filter_filter]

/-- Two columns agree in everything that is written. Of the lengths that is what a sized type has,
of the precisions what stands beside such a length. -/
structure WrittenAlike (c c' : Column) : Prop where
  name : c.name = c'.name
  type : c.normalizedType = c'.normalizedType
  isUnsigned : c.isUnsigned = c'.isUnsigned
  nullable : c.nullable = c'.nullable
  autoIncrement : c.autoIncrement = c'.autoIncrement
  defaultText : c.defaultText = c'.defaultText
  length : writtenLength c.normalizedType c.length = writtenLength c'.normalizedType c'.length
  precision : writtenPrecision c.normalizedType c.length c.precision =
    writtenPrecision c'.normalizedType c'.length c'.precision

theorem WrittenAlike.outline_eq {c c' : Column} (alike : c.WrittenAlike c') :
    c.outline = c'.outline := by
  rw [outline, outline, alike.precision, alike.length, alike.name, alike.type, alike.isUnsigned,
    alike.nullable, alike.autoIncrement, alike.defaultText]

theorem IsPlain.writtenAlike {c c' : Column} {o : ColumnOutline} (plain : c.IsPlain)
    (plain' : c'.IsPlain) (outlined : c.outline = .ok o) (outlined' : c'.outline = .ok o) :
    c.WrittenAlike c' := by
  have name := (plain.outline outlined).1.trans (plain'.outline outlined').1.symm
  obtain ⟨_, -, same⟩ := outline_eq_ok_iff.mp outlined
  obtain ⟨_, -, same'⟩ := outline_eq_ok_iff.mp outlined'
  obtain ⟨-, type, length, precision, isUnsigned, nullable, autoIncrement, default⟩ :=
    ColumnOutline.mk.inj (same.symm.trans same')
  exact ⟨name, type, isUnsigned, nullable, autoIncrement, default, length, precision⟩

/-- The clause of a plain column tells its name, its normalized type, its three marks, its default,
and its length and its precision as far as they are written: another plain column has the same
clause exactly if it agrees in all of them. -/
theorem clause_eq_iff_writtenAlike {c c' : Column} {text : String} (plain : c.IsPlain)
    (plain' : c'.IsPlain) (written : c.clause = .ok text) :
    c'.clause = .ok text ↔ c'.WrittenAlike c := by
  constructor
  · intro written'
    rw [clause_eq] at written written'
    obtain ⟨o, outlined, written⟩ := Result.bind_eq_ok_iff.mp written
    obtain ⟨o', outlined', written'⟩ := Result.bind_eq_ok_iff.mp written'
    obtain rfl := ColumnOutline.eq_of_clause (plain.outline outlined).2
      (plain'.outline outlined').2 written written'
    exact plain'.writtenAlike plain outlined' outlined
  · intro alike
    rw [clause_eq, alike.outline_eq, ← clause_eq, written]

/-- A column with a precision beside no length, and with a default that ends like a mark. -/
def unsizedDouble : Column :=
  { name := .str "d", type := some " Double Precision", precision := some 4,
    defaultText := some "1 AUTO_INCREMENT" }

/-- The same column without its precision, and with its type spelled differently. -/
def bareDouble : Column :=
  { unsizedDouble with type := some "DOUBLE PRECISION", precision := none }

theorem clause_eq_iff_writtenAlike_double :
    unsizedDouble.IsPlain ∧ bareDouble.IsPlain ∧
      unsizedDouble.clause = .ok "d DOUBLE PRECISION NOT NULL DEFAULT 1 AUTO_INCREMENT" ∧
      bareDouble.clause = .ok "d DOUBLE PRECISION NOT NULL DEFAULT 1 AUTO_INCREMENT" ∧
      bareDouble.WrittenAlike unsizedDouble := by
  have name : ∃ name : String, Value.str "d" = .str name ∧ ' ' ∉ name.toList :=
    ⟨"d", rfl, by simp⟩
  have plain : unsizedDouble.IsPlain := ⟨name, .inl (by decide +kernel)⟩
  have plain' : bareDouble.IsPlain := ⟨name, .inl (by decide +kernel)⟩
  have written : unsizedDouble.clause =
      .ok "d DOUBLE PRECISION NOT NULL DEFAULT 1 AUTO_INCREMENT" := by decide +kernel
  have written' : bareDouble.clause =
      .ok "d DOUBLE PRECISION NOT NULL DEFAULT 1 AUTO_INCREMENT" := by decide +kernel
  exact ⟨plain, plain', written, written',
    (clause_eq_iff_writtenAlike plain plain' written).mp written'⟩

end Column

end TableDdl
