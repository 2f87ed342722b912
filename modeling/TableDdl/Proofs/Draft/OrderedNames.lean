import TableDdl.Proofs.Draft.History
import TableDdl.Proofs.Draft.Streams
import Mathlib.Algebra.Group.Int.Defs

/-!
# The columns of a draft as an ordered map

After any requests, the names of the columns stand in the order in which they came to stay: each was
declared while it did not stand, and was not taken out afterwards. Whether a name is there, whether
its column can be asked for and whether it can be taken out is all one, and the column under it is
the one that was declared last.
-/

namespace TableDdl.Draft

/-- The name that comes to stay by a request between others, if one does: it is declared while it
does not stand, and none of the later requests takes it out. -/
def Request.settled (before after : List Request) : Request → List Value
  | .declare name =>
    if name.isSameName name && !stands name before && !after.any (·.removes name) then [name]
    else []
  | _ => []

/-- The names that come to stay by requests after others, in order. -/
def settledNames (before : List Request) : List Request → List Value
  | [] => []
  | r :: after => r.settled before after ++ settledNames (before ++ [r]) after

variable {d start : Draft} {r : Request} {requests : List Request}

theorem settled_of_not_declares {before after : List Request}
    (undeclared : ∀ v, r.declares v = false) : r.settled before after = [] := by
  cases r with
  | declare name =>
    have nameless : name.isSameName name = false := undeclared name
    simp [Request.settled, nameless]
  | _ => rfl

/-- What comes to stay does not stay if a further request takes it out. -/
theorem settled_concat (before after : List Request) (last : Request) :
    r.settled before (after ++ [last]) =
      (r.settled before after).filter fun v => !last.removes v := by
  cases r with
  | declare name =>
    have either : (after ++ [last]).any (·.removes name) =
        (after.any (·.removes name) || last.removes name) := by simp
    simp only [Request.settled, either]
    cases name.isSameName name && !stands name before with
    | false => rfl
    | true =>
      cases after.any (·.removes name) with
      | true => rfl
      | false => cases removed : last.removes name <;> simp [removed]
  | _ => rfl

theorem settledNames_concat (before requests : List Request) (last : Request) :
    settledNames before (requests ++ [last]) =
      (settledNames before requests).filter (fun v => !last.removes v) ++
        last.settled (before ++ requests) [] := by
  induction requests generalizing before with
  | nil => simp [settledNames]
  | cons r rest ih =>
    have later := ih (before ++ [r])
    rw [List.append_assoc, List.singleton_append] at later
    rw [List.cons_append, settledNames, settledNames, later, settled_concat, List.filter_append,
      List.append_assoc]

theorem filter_removes_of_quiet {last : Request} (quiet : ∀ v, last.removes v = false)
    (names : List Value) : names.filter (fun v => !last.removes v) = names := by
  apply List.filter_eq_self.mpr
  intro v _
  simp [quiet]

/-- The names of the columns are those that came to stay, in order. -/
theorem spellings_serveAll (fresh : start.names = NameMap.empty)
    (named : ∀ requests, (start.serveAll requests).WellNamed) (requests : List Request) :
    (start.serveAll requests).names.spellings = settledNames [] requests := by
  -- The last request takes names out of those that came to stay before it, or adds its own.
  induction requests using List.reverseRecOn with
  | nil =>
    rw [serveAll, List.foldl_nil, fresh]
    rfl
  | append_singleton requests r ih =>
    rw [serveAll_concat, settledNames_concat, ← ih, List.nil_append]
    rcases columns_serve_cases (start.serveAll requests) r with ⟨name, key, rfl, called, -, names⟩ |
      ⟨name, key, rfl, called, -, names⟩ | ⟨place, edit, rfl, -, names⟩ |
      ⟨undeclared, unremoved, -, -, names⟩
    · have quiet : ∀ v, Request.removes v (.declare name) = false := fun _ => rfl
      have itself : name.isSameName name = true := Value.isSameName_iff.mpr ⟨key, called, called⟩
      have there : (start.serveAll requests).names.contains key = stands name requests :=
        contains_serveAll fresh called
      rw [filter_removes_of_quiet quiet, names, NameMap.spellings_eq_heads, NameMap.heads_insert,
        NameMap.spellings_eq_heads]
      cases standing : stands name requests with
      | true =>
        rw [standing, NameMap.contains_iff] at there
        simp [there, Request.settled, standing]
      | false =>
        rw [standing, ← Bool.not_eq_true, NameMap.contains_iff] at there
        simp [there, Request.settled, standing, itself]
    · rw [names, (named requests).named.spellings_erase called]
      exact (List.append_nil _).symm
    · have quiet : ∀ v, Request.removes v (.editColumn place edit) = false := fun _ => rfl
      rw [names, filter_removes_of_quiet quiet]
      exact (List.append_nil _).symm
    · rw [names, filter_removes_of_quiet unremoved, settled_of_not_declares undeclared,
        List.append_nil]

/-- A column was made by the request that was the last to declare a name, which gave it nothing but
the name as it is spelled there, and was edited by later requests. -/
def IsLatest (start : Draft) (requests : List Request) (v : Value) (c : Column) : Prop :=
  ∃ before name after made place, requests = before ++ .declare name :: after ∧
    name.isSameName v = true ∧
    (∀ later ∈ after, later.declares v = false ∧ later.removes v = false) ∧
    (start.serveAll before).declare name = .ok (made, place) ∧
    c = Column.editAll { name } (after.filterMap (·.editAt? place))

theorem StandsAt.isLatest {v : Value} {place : Nat} {c : Column}
    (standing : StandsAt start requests v place)
    (found : (start.serveAll requests).columns[place]? = some c) :
    IsLatest start requests v c := by
  obtain ⟨before, name, after, made, rfl, same, quiet, declared⟩ := standing
  rw [columns_of_declared declared] at found
  cases found
  exact ⟨before, name, after, made, place, rfl, same, quiet, declared, rfl⟩

theorem IsLatest.isSameName {v : Value} {c : Column} (latest : IsLatest start requests v c) :
    v.isSameName c.name = true := by
  obtain ⟨before, name, after, made, place, -, same, -, -, rfl⟩ := latest
  rw [Column.name_editAll, Value.isSameName_comm]
  exact same

/-- A draft refuses a name, and says which: with code 301 where its column is asked for, and with
code 1 where it is to be taken out. -/
structure Refuses (d : Draft) (v : Value) : Prop where
  find : ∃ e text, v.text = .ok text ∧ d.find v = .error (.refused e) ∧ e.code = 301 ∧
    e.message = "Column with name '" ++ text ++ "' is not currently defined"
  remove : ∃ e text tableName, v.text = .ok text ∧ d.tableName = .ok tableName ∧
    d.remove v = .error (.refused e) ∧ e.code = 1 ∧
    e.message = "Column '" ++ text ++ "' cannot be removed from '" ++ tableName ++
      "', it is not defined"

/-- What a draft says of a name that is there or not: it is listed, has a column, which can be asked
for, and can be taken out exactly if it is there. If it is not, a request for the column or to take
it out changes nothing, and it is refused exactly if the refusal can be written. A name that cannot
be written is met with the fault that it gives. -/
structure Answers (d : Draft) (v : Value) (there : Bool) : Prop where
  listed : (∃ w ∈ d.schema.columnNames, w.isSameName v = true) ↔ there = true
  hasColumn : d.schema.hasColumn v = .ok there
  found : (∃ place, d.find v = .ok place) ↔ there = true
  removable : (∃ e, d.remove v = .ok e) ↔ there = true
  unchanged : there = false → d.serve (.find v) = d ∧ d.serve (.remove v) = d
  refused : there = false → (d.Refuses v ↔ v.Writable ∧ ∃ tableName, d.tableName = .ok tableName)
  unwritten : there = false → ∀ f, v.text = .error f →
    d.find v = .error (.fault f) ∧ d.remove v = .error (.fault f)

section Absent

variable {v : Value} {key : Key}

theorem find_of_absent (called : v.key = .ok key) (absent : d.names.find? key = none) :
    d.find v = Attempt.ofFault v.text >>= fun text => refuse (.notDefined text) := by
  simp [find, called, absent]

theorem remove_of_absent (called : v.key = .ok key) (absent : d.names.contains key = false) :
    d.remove v = Attempt.ofFault v.text >>= fun text =>
      Attempt.ofFault d.tableName >>= fun tableName => refuse (.notRemovable tableName text) := by
  simp [remove, called, absent]

/-- A name that is not there is refused exactly if the refusal can be written. -/
theorem refuses_iff (called : v.key = .ok key) (absent : d.names.contains key = false) :
    d.Refuses v ↔ v.Writable ∧ ∃ tableName, d.tableName = .ok tableName := by
  constructor
  · rintro ⟨-, e, text, tableName, spelled, titled, -⟩
    exact ⟨⟨text, spelled⟩, tableName, titled⟩
  · rintro ⟨⟨text, spelled⟩, tableName, titled⟩
    have lost : d.names.find? key = none := by
      rwa [NameMap.contains_eq_isSome_find?, Option.isSome_eq_false_iff,
        Option.isNone_iff_eq_none] at absent
    constructor
    · refine ⟨.notDefined text, text, spelled, ?_, rfl, rfl⟩
      rw [find_of_absent called lost, spelled]
      rfl
    · refine ⟨.notRemovable tableName text, text, tableName, spelled, titled, ?_, rfl, rfl⟩
      rw [remove_of_absent called absent, spelled, titled]
      rfl

end Absent

/-- A draft in which every name leads to its column says the same of a name wherever it is asked. -/
theorem WellNamed.answers (named : d.WellNamed) {v : Value} {key : Key} (called : v.key = .ok key) :
    d.Answers v (d.names.contains key) := by
  have led : d.names.contains key = (d.names.find? key).isSome :=
    d.names.contains_eq_isSome_find? key
  constructor
  · rw [columnNames_schema]
    exact (named.named.contains_iff_spelled called).symm
  · rw [Schema.hasColumn, called, columns_schema, Result.ok_bind, NameMap.contains_map]
    rfl
  · rw [led, Option.isSome_iff_exists]
    simp [find_eq_ok_iff, called]
  · constructor
    · rintro ⟨e, removed⟩
      obtain ⟨other, called', present, -⟩ := answer_remove_eq_ok_iff.mp removed
      cases called.symm.trans called'
      exact present
    · intro present
      exact ⟨_, answer_remove_eq_ok_iff.mpr ⟨key, called, present, rfl⟩⟩
  · intro absent
    refine ⟨serve_find v, ?_⟩
    rw [serve_remove, called]
    dsimp only
    rw [NameMap.erase_of_not_contains absent]
  · exact refuses_iff called
  · intro absent f unwritten
    have lost : d.names.find? key = none := by
      rwa [led, Option.isSome_eq_false_iff, Option.isNone_iff_eq_none] at absent
    constructor
    · rw [find_of_absent called lost, unwritten]
      rfl
    · rw [remove_of_absent called absent, unwritten]
      rfl

/-- Requests about the columns leave the table the name that it has. -/
theorem tableName_of_columns {t : String} (about : ∀ r ∈ requests, r.stream = .columns) :
    (serveAll { baseName := .str t } requests).tableName = .ok t := by
  have none : restrict .tablePrefix requests = [] := by
    apply List.filter_eq_nil_iff.mpr
    intro r member
    simp [about r member]
  have front := part_serveAll { baseName := .str t } .tablePrefix requests
  rw [none] at front
  have unprefixed : (serveAll { baseName := .str t } requests).tablePrefix = .null :=
    congrArg Draft.tablePrefix front
  have named : (serveAll { baseName := .str t } requests).baseName = .str t :=
    baseName_serveAll { baseName := .str t } requests
  simp [tableName, schema, Schema.tableName, Schema.hasPrefix, unprefixed, named, Value.isTruthy]

/-- The columns of a draft are an ordered map, after any requests. The names are those that came to
stay, in the order in which they did, and no two of them are one name; under each of them is the
column that was declared last. What is listed, what has a column, what can be asked for and what
can be taken out are the names that stand, and a request about any other name changes nothing. In a
table that is called by a text, as long as only columns are asked for, such a request is refused
with the code for it, unless the name is a whole number of too many digits. -/
theorem written_orderedNames (name : Value) (requests : List Request) :
    (written name requests).columnNames = settledNames [] requests ∧
      (written name requests).columnNames.Pairwise (fun v w => v.isSameName w = false) ∧
      List.Forall₂
        (fun v c => v.isSameName c.name = true ∧ IsLatest { baseName := name } requests v c)
        (written name requests).columnNames (written name requests).columnList ∧
      (∀ v, v.Nameable →
        (serveAll { baseName := name } requests).Answers v (stands v requests)) ∧
      (∀ v : Value, v.isPlainName = true → v.Nameable) ∧
      (∀ t, name = .str t → (∀ r ∈ requests, r.stream = .columns) →
        (serveAll { baseName := name } requests).tableName = .ok t ∧
          ∀ v : Value, v.isPlainName = true → stands v requests = false →
            ((serveAll { baseName := name } requests).Refuses v ↔
              ∀ n, v = .int n → n.natAbs < Nat.pow 10 Number.maxDigits)) := by
  have fresh : Draft.names { baseName := name } = NameMap.empty := rfl
  have named : ∀ requests, (serveAll { baseName := name } requests).WellNamed :=
    (WellNamed.of_no_names fresh).serveAll
  have answers : ∀ v, v.Nameable →
      (serveAll { baseName := name } requests).Answers v (stands v requests) := by
    rintro v ⟨key, called⟩
    rw [← contains_serveAll fresh called]
    exact (named requests).answers called
  refine ⟨?_, ?_, ?_, answers, fun v plain => Value.nameable_of_isPlainName plain, ?_⟩
  · exact (columnNames_schema _).trans (spellings_serveAll fresh named requests)
  · exact (written_wellNamed name requests).spellings_distinct
  · refine (columnList_serveAll fresh (named requests)).imp ?_
    rintro v c ⟨place, standing, found⟩
    have latest := standing.isLatest found
    exact ⟨latest.isSameName, latest⟩
  · rintro t rfl about
    have titled := tableName_of_columns (t := t) about
    refine ⟨titled, fun v plain absent => ?_⟩
    have refused := (answers v (Value.nameable_of_isPlainName plain)).refused absent
    rw [refused, Value.writable_iff_of_isPlainName plain]
    exact and_iff_left ⟨t, titled⟩

/-- A name that is a number with too many digits. -/
def numberedName : Value :=
  .int (16 ^ 3600 - 1)

/-- A new table has no column of that name, and asking for it ends with a fault. -/
theorem not_refuses_numberedName :
    numberedName.isPlainName = true ∧ stands numberedName [] = false ∧
      ¬ (serveAll { baseName := .str "t" } []).Refuses numberedName ∧
      (serveAll { baseName := .str "t" } []).find numberedName =
        .error (.fault .integerUnwritable) ∧
      (serveAll { baseName := .str "t" } []).remove numberedName =
        .error (.fault .integerUnwritable) := by
  have unwritten : numberedName.text = .error .integerUnwritable := by decide +kernel
  refine ⟨rfl, rfl, ?_, ?_, ?_⟩
  · rintro ⟨⟨e, text, spelled, -⟩, -⟩
    rw [unwritten] at spelled
    cases spelled
  · rw [find_of_absent rfl rfl, unwritten]
    rfl
  · rw [remove_of_absent rfl rfl, unwritten]
    rfl

/-- A name that is declared again keeps its place and its first spelling, and one that was taken out
and comes back stands last. -/
example : settledNames [] [.declare (.bool true), .declare (.str "id"), .declare (.str "1"),
    .declare (.int 1), .remove (.str "id"), .declare (.str "id")] =
      [.bool true, .str "1", .str "id"] := rfl

end TableDdl.Draft
