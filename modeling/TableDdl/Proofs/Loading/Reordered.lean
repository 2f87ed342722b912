import TableDdl.Proofs.Loading.Alike
import TableDdl.Proofs.Loading.FileDemands
import Mathlib.Data.List.Perm.Basic

/-!
# Reordered files

The fields of a mapping are looked up by their names, and names that are no fields are sorted before
they are reported. So it does not matter in which order the keys of a mapping stand, as long as they
are texts: neither to the tables that are loaded nor to the error that is reported. This holds for
all mappings that are descriptions. Other mappings are left as they are: a mapping that stands for a
default, for one, is written with its entries in their order.
-/

namespace TableDdl.Loading

section Relations

/-- Two entries have one key, and related values under it. -/
def EntryAlike (related : String → Value → Value → Prop) (entry entry' : Value × Value) : Prop :=
  entry.1 = entry'.1 ∧ related entry.1.string entry.2 entry'.2

/-- The keys of a mapping are different texts. They are those of another mapping too, in any order,
with related values under them. -/
structure Reordered (related : String → Value → Value → Prop)
    (entries entries' : List (Value × Value)) : Prop where
  texts : ∀ entry ∈ entries, entry.1.isText = true
  distinct : (entries.map Prod.fst).Nodup
  shuffled : ∃ changed, List.Forall₂ (EntryAlike related) entries changed ∧ changed.Perm entries'

/-- The description of a column, an index entry or a foreign key, with its keys in any order. -/
def ReorderedPart : Value → Value → Prop :=
  MappingAlike (Reordered fun _ => Eq)

/-- The description of a table, with its keys and those of its parts in any order. -/
def ReorderedTable : Value → Value → Prop :=
  MappingAlike (Reordered (HeldAlike fun _ => ReorderedPart))

/-- The description of a part, with its keys and those of parts in it in any order. -/
def ReorderedDescription : Part → Value → Value → Prop
  | .table => ReorderedTable
  | _ => ReorderedPart

/-- The value of a file, with its keys and those of all descriptions in it in any order. -/
def ReorderedFile : Value → Value → Prop :=
  MappingAlike (Reordered (HeldAlike ReorderedDescription))

/-- The same stands in two places, or files with the same mappings in which the keys stand in any
order. -/
inductive ReorderedEntry : Entry → Entry → Prop
  | same (e : Entry) : ReorderedEntry e e
  | file {bytes bytes' : List UInt8} {v v' : Value} (read : Yaml.read bytes = .ok v)
    (read' : Yaml.read bytes' = .ok v') (reordered : ReorderedFile v v') :
    ReorderedEntry (.file bytes) (.file bytes')

end Relations

section Lookup

variable {related related' : String → Value → Value → Prop} {name : String}
  {entries entries' changed : List (Value × Value)} {names names' : List Value}

theorem Reordered.imp (each : ∀ name v w, related name v w → related' name v w)
    (h : Reordered related entries entries') : Reordered related' entries entries' := by
  obtain ⟨changed, alike, same⟩ := h.shuffled
  exact ⟨h.texts, h.distinct, changed, alike.imp fun _ _ => And.imp_right (each _ _ _), same⟩

theorem keys_eq_of_forall₂ (alike : List.Forall₂ (EntryAlike related) entries changed) :
    entries.map Prod.fst = changed.map Prod.fst := by
  induction alike with
  | nil => rfl
  | cons head _ ih => rw [List.map_cons, List.map_cons, head.1, ih]

theorem Reordered.keys_perm (h : Reordered related entries entries') :
    (entries.map Prod.fst).Perm (entries'.map Prod.fst) := by
  obtain ⟨changed, alike, same⟩ := h.shuffled
  rw [keys_eq_of_forall₂ alike]
  exact same.map Prod.fst

/-- Where the keys are different, the value under a name is that of the only entry there is. -/
theorem field?_eq_some_iff (distinct : (entries.map Prod.fst).Nodup) {v : Value} :
    Value.field? entries name = some v ↔ (.str name, v) ∈ entries := by
  induction entries with
  | nil => simp [Value.field?]
  | cons entry rest ih =>
    obtain ⟨key, held⟩ := entry
    obtain ⟨fresh, distinct⟩ := List.nodup_cons.mp distinct
    by_cases here : key = .str name
    · subst here
      have absent : (.str name, v) ∉ rest := fun member => fresh (List.mem_map.mpr ⟨_, member, rfl⟩)
      simp [Value.field?_cons, absent, eq_comm]
    · simp [Value.field?_cons, here, ih distinct, Ne.symm here]

theorem field?_perm (distinct : (entries.map Prod.fst).Nodup) (same : entries.Perm entries')
    (name : String) : Value.field? entries name = Value.field? entries' name := by
  have distinct' : (entries'.map Prod.fst).Nodup := (same.map Prod.fst).nodup_iff.mp distinct
  ext v
  rw [field?_eq_some_iff distinct, field?_eq_some_iff distinct', same.mem_iff]

/-- Mappings with related values under the same keys hold related values under a name, or both hold
none. -/
theorem field?_of_forall₂ (alike : List.Forall₂ (EntryAlike related) entries changed)
    (name : String) :
    (Value.field? entries name = none ∧ Value.field? changed name = none) ∨
      ∃ v w, Value.field? entries name = some v ∧ Value.field? changed name = some w ∧
        related name v w := by
  induction alike with
  | nil => exact .inl ⟨rfl, rfl⟩
  | @cons entry entry' _ _ head _ ih =>
    obtain ⟨key, held⟩ := entry
    obtain ⟨key', held'⟩ := entry'
    obtain ⟨rfl, both⟩ := head
    simp only [Value.field?_cons]
    by_cases here : key = .str name
    · subst here
      exact .inr ⟨held, held', if_pos rfl, if_pos rfl, both⟩
    · simpa only [if_neg here] using ih

theorem Reordered.field?_cases (h : Reordered related entries entries') (name : String) :
    (Value.field? entries name = none ∧ Value.field? entries' name = none) ∨
      ∃ v w, Value.field? entries name = some v ∧ Value.field? entries' name = some w ∧
        related name v w := by
  obtain ⟨changed, alike, same⟩ := h.shuffled
  have distinct : (changed.map Prod.fst).Nodup := keys_eq_of_forall₂ alike ▸ h.distinct
  rw [← field?_perm distinct same]
  exact field?_of_forall₂ alike name

/-- Texts are sorted alike in whatever order they are given. -/
theorem sortNames_congr (texts : ∀ name ∈ names, name.isText = true) (same : names.Perm names') :
    sortNames names = sortNames names' := by
  have texts' : ∀ name ∈ names', name.isText = true := fun name member =>
    texts name (same.mem_iff.mpr member)
  obtain ⟨strings, rfl⟩ := Value.forall_isText_iff.mp texts
  obtain ⟨strings', rfl⟩ := Value.forall_isText_iff.mp texts'
  have injective : Function.Injective Value.str := fun _ _ => Value.str.inj
  have shuffled : strings.Perm strings' := (List.map_perm_map_iff injective).mp same
  unfold sortNames
  rw [mapM_textual?_eq_some_iff.mpr rfl, mapM_textual?_eq_some_iff.mpr rfl]
  simp only [Text.mergeSort_congr shuffled]

end Lookup

section Descriptions

variable {alike alike' : Part → Value → Value → Prop} {part : Part} {v w : Value}
  {entries entries' : List (Value × Value)}

theorem Reordered.unknown_eq {related : String → Value → Value → Prop}
    (h : Reordered related entries entries') (part : Part) :
    sortNames (unknownNames part (entries.map Prod.fst)) =
      sortNames (unknownNames part (entries'.map Prod.fst)) := by
  refine sortNames_congr (fun name member => ?_) (h.keys_perm.filter _)
  obtain ⟨entry, listed, rfl⟩ := List.mem_map.mp (mem_unknownNames.mp member).1
  exact h.texts entry listed

theorem Reordered.heldAlike (h : Reordered (HeldAlike alike) entries entries') (name : String) :
    HeldAlike alike name (Value.field entries name) (Value.field entries' name) := by
  unfold Value.field
  rcases h.field?_cases name with ⟨here, there⟩ | ⟨v, w, here, there, held⟩
  · rw [here, there]
    exact .same .null
  · rw [here, there]
    exact held

theorem Reordered.kindOf_eq (h : Reordered (HeldAlike alike) entries entries') :
    kindOf entries = kindOf entries' := by
  unfold kindOf
  rcases h.field?_cases "kind" with ⟨here, there⟩ | ⟨v, w, here, there, held⟩
  · rw [here, there]
  · rw [here, there]
    exact held.eq_of_ne fun part => by cases part <;> decide

/-- Reordered descriptions are read alike. -/
theorem Reordered.readAlike (h : Reordered (HeldAlike alike) entries entries') (part : Part) :
    ReadAlike alike part entries entries' where
  unknown := h.unknown_eq part
  fields name _ := h.heldAlike name
  kind _ := by rw [h.kindOf_eq]

theorem ReorderedPart.partAlike (h : ReorderedPart v w) (part : Part) : PartAlike part v w := by
  refine h.imp fun entries entries' reordered => ?_
  refine Reordered.readAlike (reordered.imp ?_) part
  rintro name v _ rfl
  exact .same v

theorem ReorderedTable.tableAlike (h : ReorderedTable v w) : TableAlike v w := by
  refine h.imp fun entries entries' reordered => Reordered.readAlike (reordered.imp ?_) .table
  exact fun name v w held => held.imp fun part _ v w both => both.partAlike part

/-- A reordered file with one table only is a reordered description of it: there is no list of
tables among the fields of a table. -/
theorem tableAlike_of_file (h : Reordered (HeldAlike ReorderedDescription) entries entries') :
    TableAlike (.map entries) (.map entries') := by
  have read := h.readAlike .table
  refine .mapping ⟨read.unknown, fun name known => ?_, read.kind⟩
  refine (read.fields name known).imp fun part listed v w both => ?_
  cases part with
  | table =>
    subst listed
    exact absurd known (by decide)
  | column => exact both.partAlike .column
  | index => exact both.partAlike .index
  | foreignKey => exact both.partAlike .foreignKey

/-- The tables of a reordered file are described alike, one by one. -/
theorem mapM_table_eq_of_heldAlike {tables tables' : Value}
    (h : HeldAlike ReorderedDescription "tables" tables tables') :
    (elements tables).map (·.mapM table) = (elements tables').map (·.mapM table) := by
  cases h with
  | same => rfl
  | parts part listed each =>
    obtain rfl : Part.table = part := Part.listField_injective listed
    simp only [elements_list, Except.map]
    rw [Result.mapM_congr (fun v w same => table_congr same) (each.imp fun v w => ?_)]
    exact ReorderedTable.tableAlike

end Descriptions

section Files

variable {path : Path} {bytes bytes' : List UInt8} {v v' : Value} {files files' : Files}

theorem fileValue_of_read (read : Yaml.read bytes = .ok v) (path : Path) :
    fileValue path bytes = .ok v := by
  rw [fileValue, read]
  rfl

/-- Files with the same mappings, in which the keys stand in any order, are loaded alike. -/
theorem file_congr (read : Yaml.read bytes = .ok v) (read' : Yaml.read bytes' = .ok v')
    (reordered : ReorderedFile v v') : file path bytes = file path bytes' := by
  rw [file, file, fileValue_of_read read, fileValue_of_read read', Result.ok_bind, Result.ok_bind]
  cases reordered with
  | same => rfl
  | @mapping entries entries' h =>
    rcases h.field?_cases "tables" with ⟨here, there⟩ | ⟨tables, tables', here, there, held⟩
    · simp only [here, there, table_congr (tableAlike_of_file h)]
    · simp only [here, there, Result.liftM_eq_ofFault]
      refine Result.ofFault_bind_congr (mapM_table_eq_of_heldAlike held) ?_
      intro items items' same
      simp only [same]

theorem member_congr (alike : ReorderedEntry (files path) (files' path)) :
    member files path = member files' path := by
  unfold member
  generalize files path = stands, files' path = stands' at alike
  cases alike with
  | same => rfl
  | file read read' reordered => exact file_congr read read' reordered

/-- The order in which the keys of a file and of the descriptions in it stand does not matter:
whatever is loaded, the same tables are loaded, or the same error is reported. -/
theorem load_reordered (files files' : Files)
    (alike : ∀ path, ReorderedEntry (files path) (files' path)) (path : Path)
    (tablePrefix : Option String) : load files' path tablePrefix = load files path tablePrefix := by
  have members : member files = member files' := funext fun path => member_congr (alike path)
  have stands := alike path
  simp only [load, directory, members]
  generalize files path = entry, files' path = entry' at stands
  cases stands with
  | same => rfl
  | file read read' reordered => simp only [file_congr read read' reordered]

/-- A file and nothing else. -/
def fileAlone (bytes : List UInt8) : Files := fun path =>
  if path = Path.ofText "t.yaml" then .file bytes else .missing

/-- A table with a column that has no name and an index entry that has no column. -/
def unnamedParts : List (Value × Value) :=
  [(.str "table", .str "t"), (.str "columns", .list [.map [(.str "type", .str "int")]]),
    (.str "indexes", .list [.map [(.str "kind", .str "unique"), (.str "key_name", .str "k")]])]

/-- The same table, described the other way round. -/
def unnamedPartsReversed : List (Value × Value) :=
  [(.str "indexes", .list [.map [(.str "key_name", .str "k"), (.str "kind", .str "unique")]]),
    (.str "columns", .list [.map [(.str "type", .str "int")]]), (.str "table", .str "t")]

/-- A file that holds the table. -/
def columnsFirst : List UInt8 :=
  "table: t\ncolumns:\n- type: int\nindexes:\n- kind: unique\n  key_name: k\n".toUTF8.toList

/-- A file that holds the table the other way round. -/
def indexesFirst : List UInt8 :=
  "indexes:\n- key_name: k\n  kind: unique\ncolumns:\n- type: int\ntable: t\n".toUTF8.toList

theorem read_columnsFirst : Yaml.read columnsFirst = .ok (.map unnamedParts) := by
  decide +kernel

theorem read_indexesFirst : Yaml.read indexesFirst = .ok (.map unnamedPartsReversed) := by
  decide +kernel

theorem reorderedFile_unnamedParts :
    ReorderedFile (.map unnamedParts) (.map unnamedPartsReversed) := by
  have index : ReorderedPart (.map [(.str "kind", .str "unique"), (.str "key_name", .str "k")])
      (.map [(.str "key_name", .str "k"), (.str "kind", .str "unique")]) :=
    .mapping ⟨by decide, by decide, _, .cons ⟨rfl, rfl⟩ (.cons ⟨rfl, rfl⟩ .nil), by decide⟩
  refine .mapping ⟨by decide, by decide, _, ?_, List.reverse_perm _⟩
  exact .cons ⟨rfl, .same _⟩ (.cons ⟨rfl, .same _⟩
    (.cons ⟨rfl, .parts .index rfl (.cons index .nil)⟩ .nil))

theorem reorderedEntry_fileAlone (path : Path) :
    ReorderedEntry (fileAlone columnsFirst path) (fileAlone indexesFirst path) := by
  unfold fileAlone
  split
  · exact .file read_columnsFirst read_indexesFirst reorderedFile_unnamedParts
  · exact .same .missing

theorem load_reordered_columnsFirst :
    (∀ path, ReorderedEntry (fileAlone columnsFirst path) (fileAlone indexesFirst path)) ∧
      load (fileAlone columnsFirst) (Path.ofText "t.yaml") none = refuse (.missingName "t") ∧
      load (fileAlone indexesFirst) (Path.ofText "t.yaml") none = refuse (.missingName "t") := by
  have parsed : table (.map unnamedParts) = refuse (.missingName "t") := by decide
  have alone : file (Path.ofText "t.yaml") columnsFirst = refuse (.missingName "t") := by
    rw [file_of_no_tables (fileValue_of_read read_columnsFirst _) rfl, parsed]
    rfl
  have missing : load (fileAlone columnsFirst) (Path.ofText "t.yaml") none =
      refuse (.missingName "t") := by
    rw [load, fileAlone, if_pos rfl]
    simp only [alone]
    rfl
  have same := load_reordered _ _ reorderedEntry_fileAlone (Path.ofText "t.yaml") none
  exact ⟨reorderedEntry_fileAlone, missing, same.trans missing⟩

end Files

end TableDdl.Loading
