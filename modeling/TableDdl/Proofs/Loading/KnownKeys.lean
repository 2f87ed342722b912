import TableDdl.Files.Tree
import TableDdl.Proofs.Loading.FileDemands
import TableDdl.Proofs.Loading.Typed

/-!
# Known keys

A key that is not looked at is lost without a word. The description of a table, and those of its
columns, index entries and foreign keys, are refused if one of their keys is no field of theirs, so
none of their keys is lost in a file that is loaded. The keys beside a list of tables are another
matter: nobody looks at them. The main statement says exactly what is known of the keys of a file
that is loaded, and when a file with an unknown key is refused.
-/

namespace TableDdl.Loading

/-- Every key in the description of a table, and in those of its parts, is a field there. -/
structure IsKnownTable (v : Value) : Prop where
  own : ∀ entry ∈ v.entries, IsField .table entry.1
  parts : ∀ part : Part, part ≠ .table → ∀ described ∈ mappings part v.entries,
    ∀ entry ∈ described, IsField part entry.1

section File

variable (entries : List (Value × Value))

/-- The descriptions of tables in a file: those of its list or, without a list, the file itself. -/
def tablesOf : List Value :=
  match Value.field? entries "tables" with
  | none => [.map entries]
  | some tables => parts tables

/-- Beside a list of tables there is no other key. -/
def ListStandsAlone : Prop :=
  (Value.field? entries "tables").isSome = true → ∀ entry ∈ entries, entry.1 = .str "tables"

/-- Every key in a file is a field there: either all are fields of a table, or there is the list of
tables alone. -/
structure IsKnownFile : Prop where
  alone : ListStandsAlone entries
  tables : ∀ t ∈ tablesOf entries, IsKnownTable t

/-- A file is loaded only if every key in it is known, and refused for a reason otherwise. -/
def IgnoresNothing (r : Attempt LoadError (List Schema)) : Prop :=
  (∀ schemas, r = .ok schemas → IsKnownFile entries) ∧
    (¬ IsKnownFile entries → ∃ reason, r = refuse reason)

end File

variable {path : Path} {bytes : List UInt8} {entries : List (Value × Value)} {v : Value}

theorem mem_partsDemands {each : Value → List Demand} {d : Demand} {item : Value}
    (listed : item ∈ parts v) (demanded : d ∈ each item) : d ∈ partsDemands each v :=
  List.mem_cons_of_mem _ (List.mem_flatMap.mpr ⟨item, listed, demanded⟩)

theorem field_of_met {part : Part} (met : (describes part v).met) :
    ∀ entry ∈ v.entries, IsField part entry.1 := by
  obtain ⟨entries, rfl, fields⟩ := met
  exact fields

/-- The description of a table demands that its parts have fields of theirs only. -/
theorem describes_mem_tableDemands {part : Part} (other : part ≠ .table) {item : Value}
    (listed : item ∈ parts (Value.field v.entries part.listField)) :
    describes part item ∈ tableDemands v := by
  simp only [tableDemands, List.mem_cons, List.mem_append]
  refine .inr (.inr ?_)
  cases part with
  | table => exact absurd rfl other
  | column => exact .inl (mem_partsDemands listed List.mem_cons_self)
  | index => exact .inr (.inl (mem_partsDemands listed List.mem_cons_self))
  | foreignKey => exact .inr (.inr (mem_partsDemands listed List.mem_cons_self))

/-- A description of a table of which all demands are met has fields only. -/
theorem isKnownTable_of_met (met : ∀ d ∈ tableDemands v, d.met) : IsKnownTable v := by
  refine ⟨field_of_met (met _ List.mem_cons_self), ?_⟩
  intro part other described member
  obtain ⟨item, listed, rfl⟩ := List.mem_map.mp member
  exact field_of_met (met _ (describes_mem_tableDemands other listed))

/-- The tables of a file of which all demands are met have fields only. -/
theorem isKnownTable_of_mem_tablesOf (met : ∀ d ∈ fileDemands (.map entries), d.met) :
    ∀ t ∈ tablesOf entries, IsKnownTable t := by
  intro t member
  unfold tablesOf at member
  unfold fileDemands at met
  cases found : Value.field? entries "tables" with
  | none =>
    simp only [found] at member met
    obtain rfl := List.mem_singleton.mp member
    exact isKnownTable_of_met met
  | some tables =>
    simp only [found] at member met
    refine isKnownTable_of_met fun d demanded => met d ?_
    exact List.mem_append_left _ (mem_partsDemands member demanded)

/-- Of a file with a list of tables, nothing but the list is looked at. -/
theorem file_eq_of_tables {bytes' : List UInt8} {entries' : List (Value × Value)}
    {tables : Value} (read : fileValue path bytes = .ok (.map entries))
    (read' : fileValue path bytes' = .ok (.map entries'))
    (found : Value.field? entries "tables" = some tables)
    (found' : Value.field? entries' "tables" = some tables) :
    file path bytes' = file path bytes := by
  rw [file, file, read, read', Result.ok_bind, Result.ok_bind]
  simp only [found, found']

/-- In a file that is loaded, all keys of the tables and of their parts are known, and so are all
keys of the file unless there are others beside a list of tables. Whatever these are, the same is
loaded without them. A file with an unknown key is refused for a reason exactly if the first of its
demands that is not met is a reported one. -/
theorem file_ignores_nothing_iff (read : fileValue path bytes = .ok (.map entries)) :
    (∀ schemas, file path bytes = .ok schemas →
      (∀ t ∈ tablesOf entries, IsKnownTable t) ∧
        (IsKnownFile entries ↔ ListStandsAlone entries)) ∧
      (∀ tables bytes' entries', Value.field? entries "tables" = some tables →
        Value.field? entries' "tables" = some tables →
        fileValue path bytes' = .ok (.map entries') → file path bytes' = file path bytes) ∧
      (IgnoresNothing entries (file path bytes) ↔
        IsKnownFile entries ∨ ∃ d, FirstUnmet (fileDemands (.map entries)) d ∧ d.reported) := by
  have decides := file_decides read
  refine ⟨?_, ?_, ?_⟩
  · intro schemas loaded
    have known := isKnownTable_of_mem_tablesOf (decides.exists_ok_iff.mp ⟨schemas, loaded⟩)
    exact ⟨known, IsKnownFile.alone, fun alone => ⟨alone, known⟩⟩
  · intro tables bytes' entries' found found' read'
    exact file_eq_of_tables read read' found found'
  · rw [← decides.exists_refuse_iff]
    constructor
    · rintro ⟨-, refused⟩
      by_cases known : IsKnownFile entries
      · exact .inl known
      · exact .inr (refused known)
    · rintro (known | ⟨reason, refused⟩)
      · exact ⟨fun _ _ => known, fun unknown => absurd known unknown⟩
      · refine ⟨fun schemas loaded => ?_, fun _ => ⟨reason, refused⟩⟩
        rw [refused] at loaded
        exact absurd loaded (Result.refuse_ne_ok reason schemas)

/-- The bytes of a file with a prefix beside its list of tables. -/
def strayPrefix : List UInt8 :=
  "prefix: x\ntables:\n- table: a\n".toUTF8.toList

theorem exists_fileValue_strayPrefix :
    ∃ entries, fileValue (Path.ofText "t.yaml") strayPrefix = .ok (.map entries) ∧
      ¬ ListStandsAlone entries := by
  have known : ∃ v, fileValue (Path.ofText "t.yaml") strayPrefix = .ok v ∧
      (Value.field? v.entries "tables").isSome = true ∧
      ∃ entry ∈ v.entries, entry.1.string ≠ "tables" := by
    decide +kernel
  obtain ⟨v, read, listed, entry, member, other⟩ := known
  cases v with
  | map entries =>
    refine ⟨entries, read, fun alone => other ?_⟩
    rw [alone listed entry member]
    rfl
  | _ => cases member

theorem exists_file_strayPrefix :
    ∃ schemas, file (Path.ofText "t.yaml") strayPrefix = .ok schemas := by
  decide +kernel

theorem file_ignores_nothing_iff_strayPrefix :
    ∃ entries, fileValue (Path.ofText "t.yaml") strayPrefix = .ok (.map entries) ∧
      (∃ schemas, file (Path.ofText "t.yaml") strayPrefix = .ok schemas) ∧
      (∀ t ∈ tablesOf entries, IsKnownTable t) ∧ ¬ IsKnownFile entries := by
  obtain ⟨entries, read, stray⟩ := exists_fileValue_strayPrefix
  obtain ⟨schemas, loaded⟩ := exists_file_strayPrefix
  obtain ⟨known, -, -⟩ := file_ignores_nothing_iff read
  obtain ⟨tables, known_iff⟩ := known schemas loaded
  exact ⟨entries, read, ⟨schemas, loaded⟩, tables, mt known_iff.mp stray⟩

/-- The file is loaded although a key in it is not known. -/
theorem not_ignoresNothing_strayPrefix :
    ∃ entries, fileValue (Path.ofText "t.yaml") strayPrefix = .ok (.map entries) ∧
      ¬ IgnoresNothing entries (file (Path.ofText "t.yaml") strayPrefix) := by
  obtain ⟨entries, read, stray⟩ := exists_fileValue_strayPrefix
  obtain ⟨schemas, loaded⟩ := exists_file_strayPrefix
  refine ⟨entries, read, ?_⟩
  rintro ⟨known, -⟩
  exact stray (known schemas loaded).alone

end TableDdl.Loading
