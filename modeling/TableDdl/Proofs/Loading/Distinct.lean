import TableDdl.Files.Tree
import TableDdl.Proofs.Loading.Described
import TableDdl.Proofs.Loading.FinalNames

/-!
# Tables of one name

When two tables that are loaded together are refused because of their names. Names are compared as
the descriptions write them, before a prefix for all tables is put in front of those that have
none; so the tables that are refused are those with one declared name, and these need not be those
with one final name. The main statement says exactly when the two agree.
-/

namespace TableDdl.Loading

/-- An attempt is refused because two tables have one name. -/
def RaisesDuplicate {α : Type} (r : Attempt LoadError α) : Prop :=
  ∃ name place, r = refuse (.duplicateTable name place)

/-- An attempt gives a result unless something clashes, and refuses a duplicate if it does. -/
def RefusesOn {α : Type} (clash : Prop) (a : α) (r : Attempt LoadError α) : Prop :=
  (¬ clash ∧ r = .ok a) ∨ (clash ∧ RaisesDuplicate r)

/-- What is loaded from a path, with a prefix for all tables, is refused because of a duplicate
exactly if two tables have one final name; so no two tables that are loaded have one name. -/
def RefusesFinalClashes (files : Files) (path : Path) (tablePrefix : Option String)
    (tables : List Schema) : Prop :=
  (RaisesDuplicate (load files path tablePrefix) ↔ Clash (tablePrefix.getD "") tables) ∧
    ∀ loaded, load files path tablePrefix = .ok loaded →
      loaded.Pairwise fun s t => s.tableName ≠ t.tableName

namespace RefusesOn

variable {α β : Type} {clash other : Prop} {a : α} {b : β} {r : Attempt LoadError α}

theorem congr (h : RefusesOn clash a r) (same : clash ↔ other) : RefusesOn other a r := by
  rwa [← propext same]

theorem bind {f : α → Attempt LoadError β} (first : RefusesOn clash a r)
    (second : RefusesOn other b (f a)) : RefusesOn (clash ∨ other) b (r >>= f) := by
  rcases first with ⟨clear, rfl⟩ | ⟨met, name, place, rfl⟩
  · rcases second with ⟨clear', later⟩ | ⟨met, raised⟩
    · exact .inl ⟨not_or.mpr ⟨clear, clear'⟩, later⟩
    · exact .inr ⟨.inr met, raised⟩
  · exact .inr ⟨.inl met, name, place, rfl⟩

theorem ok (a : α) : RefusesOn False a (.ok a) :=
  .inl ⟨not_false, rfl⟩

theorem map (h : RefusesOn clash a r) (g : α → β) :
    RefusesOn clash (g a) (r >>= fun x => .ok (g x)) :=
  (h.bind (.ok (g a))).congr (by simp)

theorem raises_iff (h : RefusesOn clash a r) : RaisesDuplicate r ↔ clash := by
  rcases h with ⟨clear, rfl⟩ | ⟨met, raised⟩
  · refine ⟨?_, fun met => absurd met clear⟩
    rintro ⟨name, place, refused⟩
    cases refused
  · exact ⟨fun _ => met, fun _ => raised⟩

theorem eq_of_ok {a' : α} (h : RefusesOn clash a r) (given : r = .ok a') : ¬ clash ∧ a' = a := by
  rcases h with ⟨clear, rfl⟩ | ⟨_, name, place, rfl⟩
  · cases given
    exact ⟨clear, rfl⟩
  · cases given

end RefusesOn

/-- The first of the names that was met before, those that were met already included. -/
def firstRepeated (met : List String) : List String → Option String
  | [] => none
  | name :: rest => if name ∈ met then some name else firstRepeated (name :: met) rest

theorem firstRepeated_eq_none_iff {met names : List String} :
    firstRepeated met names = none ↔ names.Nodup ∧ ∀ name ∈ names, name ∉ met := by
  induction names generalizing met with
  | nil => simp [firstRepeated]
  | cons name rest ih =>
    by_cases seen : name ∈ met
    · simp [firstRepeated, seen]
    · simp only [firstRepeated, seen, if_false, ih, List.nodup_cons, List.mem_cons, not_or]
      constructor
      · rintro ⟨distinct, fresh⟩
        refine ⟨⟨fun again => (fresh name again).1 rfl, distinct⟩, ?_⟩
        rintro other (rfl | later)
        · exact seen
        · exact (fresh other later).2
      · rintro ⟨⟨once, distinct⟩, fresh⟩
        refine ⟨distinct, fun other later => ⟨?_, fresh other (.inr later)⟩⟩
        rintro rfl
        exact once later

/-- Looking for two tables of one name finds the first name that was met before. -/
theorem checkDistinct_go_eq {place : Place} {tables : List Schema} {names : List String}
    (named : tables.map Schema.tableName = names.map .ok) (met : List String) :
    checkDistinct.go place met tables =
      match firstRepeated met names with
      | none => .ok ()
      | some name => refuse (.duplicateTable name place) := by
  induction tables generalizing names met with
  | nil =>
    obtain rfl : names = [] := by simpa using named.symm
    rfl
  | cons s rest ih =>
    cases names with
    | nil => cases named
    | cons name others =>
      obtain ⟨head, tail⟩ := List.cons.inj named
      by_cases seen : name ∈ met
      · simp [checkDistinct.go, firstRepeated, head, seen]
      · simpa [checkDistinct.go, firstRepeated, head, seen] using ih tail (name :: met)

theorem exists_names {tables : List Schema} (named : ∀ s ∈ tables, s.IsNamed) :
    ∃ names : List String, tables.map Schema.tableName = names.map .ok := by
  obtain ⟨names, ok⟩ := Result.exists_mapM_eq_ok_iff.mpr named
  exact ⟨names, Result.mapM_eq_ok_iff_map.mp ok⟩

theorem not_clash_iff_nodup {tables : List Schema} {names : List String}
    (named : tables.map Schema.tableName = names.map .ok) :
    ¬ Clash "" tables ↔ names.Nodup := by
  have distinct : ¬ Clash "" tables ↔ (tables.map Schema.tableName).Pairwise (· ≠ ·) := by
    simp [Clash, List.pairwise_map]
  rw [distinct, named, List.pairwise_map]
  simp [List.Nodup]

theorem checkDistinct_refusesOn (place : Place) {tables : List Schema}
    (named : ∀ s ∈ tables, s.IsNamed) :
    RefusesOn (Clash "" tables) () (checkDistinct place tables) := by
  obtain ⟨names, written⟩ := exists_names named
  rw [checkDistinct, checkDistinct_go_eq written]
  have none_iff : firstRepeated [] names = none ↔ ¬ Clash "" tables := by
    rw [firstRepeated_eq_none_iff, not_clash_iff_nodup written]
    simp
  cases found : firstRepeated [] names with
  | none => exact .inl ⟨none_iff.mp found, rfl⟩
  | some name =>
    refine .inr ⟨?_, name, place, rfl⟩
    by_contra clear
    rw [none_iff.mpr clear] at found
    cases found

/-- Reading tables and then looking for two of one name refuses those of one name. -/
theorem checked_refusesOn (place : Place) {tables : List Schema}
    (named : ∀ s ∈ tables, s.IsNamed) :
    RefusesOn (Clash "" tables) tables (checkDistinct place tables >>= fun _ => .ok tables) :=
  (checkDistinct_refusesOn place named).map fun _ => tables

theorem file_refusesOn {path : Path} {bytes : List UInt8} {tables : List Schema}
    (described : fileTables path bytes = .ok tables) (named : ∀ s ∈ tables, s.IsNamed) :
    RefusesOn (Clash "" tables) tables (file path bytes) := by
  rw [file_eq_checked described named]
  exact checked_refusesOn _ named

theorem member_refusesOn {files : Files} {path : Path} {tables : List Schema}
    (described : memberTables files path = .ok tables) (named : ∀ s ∈ tables, s.IsNamed) :
    RefusesOn (Clash "" tables) tables (member files path) := by
  unfold memberTables at described
  unfold member
  cases found : files path with
  | file bytes =>
    rw [found] at described
    exact file_refusesOn described named
  | _ => rw [found] at described; cases described

/-- The files of a directory are refused if one of them is, and loaded otherwise. -/
theorem members_refusesOn {files : Files} {path : Path} {listed : List String}
    {groups : List (List Schema)}
    (described : List.Forall₂ (fun name group => memberTables files (path.join name) = .ok group)
      listed groups)
    (named : ∀ group ∈ groups, ∀ s ∈ group, s.IsNamed) :
    RefusesOn (∃ group ∈ groups, Clash "" group) groups
      (listed.mapM fun name => member files (path.join name)) := by
  induction described with
  | nil => exact (RefusesOn.ok []).congr (by simp)
  | @cons name group _ rest head _ ih =>
    rw [List.mapM_cons]
    have first := member_refusesOn head (named group (List.mem_cons_self ..))
    have others := ih fun later member => named later (List.mem_cons_of_mem group member)
    refine (first.bind (others.bind (.ok (group :: rest)))).congr ?_
    simp

/-- Tables of one name in a file of a directory are tables of one name in the directory. -/
theorem clash_flatten_of_mem {groups : List (List Schema)} {group : List Schema}
    (member : group ∈ groups) (clash : Clash "" group) : Clash "" groups.flatten := by
  intro distinct
  exact clash (distinct.sublist (List.sublist_flatten_of_mem member))

theorem directory_refusesOn {files : Files} {path : Path} {names : List String}
    {groups : List (List Schema)}
    (described : (yamlNames names).mapM (fun name => memberTables files (path.join name)) =
      .ok groups)
    (named : ∀ s ∈ groups.flatten, s.IsNamed) :
    RefusesOn (Clash "" groups.flatten) groups.flatten (directory files path names) := by
  have each : ∀ group ∈ groups, ∀ s ∈ group, s.IsNamed := fun group member s inside =>
    named s (List.mem_flatten_of_mem member inside)
  have inFiles := members_refusesOn (Result.mapM_eq_ok_iff.mp described) each
  have across := checked_refusesOn (.directory path.text) named
  refine (inFiles.bind across).congr ?_
  refine or_iff_right_of_imp ?_
  rintro ⟨group, member, clash⟩
  exact clash_flatten_of_mem member clash

/-- What stands at a path is refused because of a duplicate exactly if two of its tables have one
declared name; otherwise its tables are loaded, behind the prefix for all tables. -/
theorem load_refusesOn {files : Files} {path : Path} {tables : List Schema}
    (tablePrefix : Option String) (described : tablesAt files path = .ok tables)
    (named : ∀ s ∈ tables, s.IsNamed) :
    RefusesOn (Clash "" tables) (tables.map (·.withDefaultPrefix (tablePrefix.getD "")))
      (load files path tablePrefix) := by
  unfold tablesAt at described
  unfold load
  cases found : files path with
  | file bytes =>
    rw [found] at described
    exact (file_refusesOn described named).map (List.map _)
  | directory names =>
    rw [found] at described
    obtain ⟨groups, each, rfl⟩ := Result.map_eq_ok_iff.mp described
    exact (directory_refusesOn each named).map (List.map _)
  | missing => rw [found] at described; cases described
  | nameTooLong => rw [found] at described; cases described

/-- Loading refuses the tables of one final name exactly if these are the tables of one declared
name. -/
theorem refusesFinalClashes_iff_clash_iff {files : Files} {path : Path} {tables : List Schema}
    (tablePrefix : Option String) (described : tablesAt files path = .ok tables)
    (named : ∀ s ∈ tables, s.IsNamed) :
    RefusesFinalClashes files path tablePrefix tables ↔
      (Clash "" tables ↔ Clash (tablePrefix.getD "") tables) := by
  have refuses := load_refusesOn tablePrefix described named
  rw [RefusesFinalClashes, refuses.raises_iff]
  refine and_iff_left_of_imp ?_
  intro agree loaded given
  obtain ⟨clear, rfl⟩ := refuses.eq_of_ok given
  rw [agree, Clash, not_not] at clear
  simpa [List.pairwise_map, Schema.tableName_withDefaultPrefix_eq_finalName] using clear

/-- Whatever the prefix for all tables is, it is two tables of one declared name that are refused.
These are the tables of one final name exactly if the prefix is neutral. -/
theorem duplicate_iff_declared_clash {files : Files} {path : Path} {tables : List Schema}
    (tablePrefix : Option String) (described : tablesAt files path = .ok tables)
    (named : ∀ s ∈ tables, s.IsNamed) :
    (RaisesDuplicate (load files path tablePrefix) ↔ Clash "" tables) ∧
      (RefusesFinalClashes files path tablePrefix tables ↔
        PrefixNeutral (tablePrefix.getD "") tables) := by
  constructor
  · exact (load_refusesOn tablePrefix described named).raises_iff
  · rw [refusesFinalClashes_iff_clash_iff tablePrefix described named]
    exact clash_iff_clash_iff_prefixNeutral (tablePrefix.getD "") tables

/-- Tables that are known by their names are named. -/
theorem exists_named_of_names (r : Attempt LoadError (List Schema)) (names : List String)
    (known : r.toOption.map (·.map fun s => s.tableName.toOption) = some (names.map some)) :
    ∃ tables, r = .ok tables ∧ tables.map Schema.tableName = names.map .ok := by
  cases r with
  | error e => cases known
  | ok tables =>
    refine ⟨tables, rfl, ?_⟩
    have same : tables.map (fun s => s.tableName.toOption) = names.map some :=
      Option.some.inj known
    rw [← List.forall₂_eq_eq_eq, List.forall₂_map_left_iff, List.forall₂_map_right_iff] at same ⊢
    refine same.imp fun s name written => ?_
    cases found : s.tableName with
    | error e => rw [found] at written; cases written
    | ok other =>
      rw [found] at written
      cases written
      rfl

/-- A file with two tables of one base name, the first of them behind a prefix of its own. -/
def prefixedAndBare : FileTree :=
  { files := [(["t.yaml"], "tables:\n- table: b\n  prefix: a\n- table: b\n".toUTF8.toList)] }

theorem exists_tablesAt_prefixedAndBare :
    ∃ tables, tablesAt prefixedAndBare.lookup (Path.ofText "t.yaml") = .ok tables ∧
      tables.map Schema.tableName = ["ab", "b"].map .ok := by
  apply exists_named_of_names
  decide +kernel

theorem duplicate_iff_declared_clash_prefixedAndBare :
    ∃ tables, tablesAt prefixedAndBare.lookup (Path.ofText "t.yaml") = .ok tables ∧
      (∀ s ∈ tables, s.IsNamed) ∧
      (RaisesDuplicate (load prefixedAndBare.lookup (Path.ofText "t.yaml") (some "a")) ↔
        Clash "" tables) ∧
      (RefusesFinalClashes prefixedAndBare.lookup (Path.ofText "t.yaml") (some "a") tables ↔
        PrefixNeutral "a" tables) := by
  obtain ⟨tables, described, names⟩ := exists_tablesAt_prefixedAndBare
  have named : ∀ s ∈ tables, s.IsNamed :=
    Result.exists_mapM_eq_ok_iff.mp ⟨_, Result.mapM_eq_ok_iff_map.mpr names⟩
  exact ⟨tables, described, named, duplicate_iff_declared_clash (some "a") described named⟩

/-- The prefix for all tables brings the two tables together after they were compared, and both
are loaded under one name. -/
theorem not_refusesFinalClashes_prefixedAndBare :
    ∃ tables, tablesAt prefixedAndBare.lookup (Path.ofText "t.yaml") = .ok tables ∧
      ¬ RefusesFinalClashes prefixedAndBare.lookup (Path.ofText "t.yaml") (some "a") tables := by
  obtain ⟨tables, described, -⟩ := exists_tablesAt_prefixedAndBare
  have known : ∃ loaded,
      load prefixedAndBare.lookup (Path.ofText "t.yaml") (some "a") = .ok loaded ∧
      loaded.map Schema.tableName = ["ab", "ab"].map .ok := by
    apply exists_named_of_names
    decide +kernel
  obtain ⟨loaded, given, names⟩ := known
  refine ⟨tables, described, ?_⟩
  rintro ⟨-, distinct⟩
  have apart : (loaded.map Schema.tableName).Pairwise (· ≠ ·) :=
    List.pairwise_map.mpr (distinct loaded given)
  rw [names] at apart
  simp at apart

end TableDdl.Loading
