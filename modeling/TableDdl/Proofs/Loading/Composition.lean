import TableDdl.Files.Tree
import TableDdl.Proofs.Loading.FileDemands
import Mathlib.Algebra.Group.Int.Defs
import Mathlib.Data.List.Induction

/-!
# Directories as compositions of files

Loading a directory is loading its YAML files one after the other, in the code point order of their
names, and then looking for two tables of one name among all that were found. Every file is loaded
as it is when it is loaded alone, so the first file that cannot be loaded decides, and what its
tables have in common with those of other files matters only if there is none. Two things get in the
way, and the main statement says exactly when: a single table whose name cannot be written is
loaded alone, but its name cannot be compared; and an entry of the directory is opened as a file
even if it is a directory itself or nothing stands behind its name, which ends the loading by a
fault.
-/

namespace TableDdl

/-- Both tables have names, and these are one name. -/
def Schema.SameName (s t : Schema) : Prop :=
  ∃ name, s.tableName = .ok name ∧ t.tableName = .ok name

namespace Loading

variable {files : Files} {path : Path} {place : Place} {names listed : List String}
  {tables : List Schema}

/-- What comes of the entries of a directory when each of them is loaded alone, without a prefix. -/
def eachAlone (files : Files) (path : Path) (names : List String) :
    List (Attempt LoadError (List Schema)) :=
  names.map fun name => load files (path.join name) none

/-- The loading of a directory comes to an entry, with others behind it: those before it are files,
and each of them can be loaded alone. -/
def ComesTo (files : Files) (path : Path) (listed : List String) (name : String)
    (after : List String) : Prop :=
  ∃ (before : List String) (groups : List (List Schema)), listed = before ++ name :: after ∧
    (∀ m ∈ before, ∃ bytes, files (path.join m) = .file bytes) ∧
    eachAlone files path before = groups.map .ok

/-- No two of the tables have one name. -/
def AreDistinct (tables : List Schema) : Prop :=
  tables.Pairwise fun s t => ¬ s.SameName t

/-- The first of the tables whose name was there before has this name. -/
def Repeats (name : String) (tables : List Schema) : Prop :=
  ∃ before s after, tables = before ++ s :: after ∧ AreDistinct before ∧
    s.tableName = .ok name ∧ ∃ t ∈ before, t.tableName = .ok name

/-- What comes of several files together, by what comes of each of them alone. -/
inductive IsComposition (place : Place) (results : List (Attempt LoadError (List Schema))) :
    Attempt LoadError (List Schema) → Prop
  /-- The first file that cannot be loaded decides. -/
  | failed {groups : List (List Schema)} {e later}
      (first : results = groups.map .ok ++ .error e :: later) :
      IsComposition place results (.error e)
  /-- Tables of different names are put one after the other. -/
  | distinct {groups : List (List Schema)} (each : results = groups.map .ok)
      (different : AreDistinct groups.flatten) :
      IsComposition place results (.ok groups.flatten)
  /-- The first table of a name that was there before is refused. -/
  | repeated {groups : List (List Schema)} {name} (each : results = groups.map .ok)
      (again : Repeats name groups.flatten) :
      IsComposition place results (refuse (.duplicateTable name place))

theorem AreDistinct.not_met {before after : List Schema} {s : Schema} {name : String}
    (different : AreDistinct (before ++ s :: after)) (written : s.tableName = .ok name) :
    ¬ ∃ t ∈ before, t.tableName = .ok name := by
  rintro ⟨t, member, same⟩
  obtain ⟨-, -, across⟩ := List.pairwise_append.mp different
  exact across t member s List.mem_cons_self ⟨name, same, written⟩

theorem Repeats.not_areDistinct {name : String} (again : Repeats name tables) :
    ¬ AreDistinct tables := by
  obtain ⟨before, s, after, rfl, -, written, met⟩ := again
  intro different
  exact different.not_met written met

/-- Only one name is the first that was there before. -/
theorem Repeats.unique {name name' : String} (again : Repeats name tables)
    (again' : Repeats name' tables) : name = name' := by
  obtain ⟨before, s, after, rfl, different, written, met⟩ := again
  obtain ⟨before', s', after', split, different', written', met'⟩ := again'
  -- If one table came first, it would be among those before the other, which are distinct.
  rcases List.append_eq_append_iff.mp split with ⟨between, rfl, rest⟩ | ⟨between, rfl, rest⟩
  · cases between with
    | nil =>
      obtain ⟨rfl, -⟩ := List.cons.inj rest
      exact Except.ok.inj (written.symm.trans written')
    | cons t between =>
      obtain ⟨rfl, -⟩ := List.cons.inj rest
      exact absurd met (different'.not_met written)
  · cases between with
    | nil =>
      obtain ⟨rfl, -⟩ := List.cons.inj rest
      exact Except.ok.inj (written.symm.trans written')
    | cons t between =>
      obtain ⟨rfl, -⟩ := List.cons.inj rest
      exact absurd met' (different.not_met written')

section Unique

variable {results : List (Attempt LoadError (List Schema))} {groups : List (List Schema)}
  {r r' : Attempt LoadError (List Schema)}

theorem isComposition_iff_of_error {e : Failure LoadError}
    (collected : results.mapM id = .error e) : IsComposition place results r ↔ r = .error e := by
  constructor
  · intro composed
    cases composed with
    | failed first =>
      rw [Result.mapM_id_eq_error_iff.mpr ⟨_, _, first⟩] at collected
      rw [Except.error.inj collected]
    | distinct each => simp [Result.mapM_id_eq_ok_iff.mpr each] at collected
    | repeated each => simp [Result.mapM_id_eq_ok_iff.mpr each] at collected
  · rintro rfl
    obtain ⟨groups, later, first⟩ := Result.mapM_id_eq_error_iff.mp collected
    exact .failed first

theorem isComposition_iff_of_ok (collected : results.mapM id = .ok groups) :
    IsComposition place results r ↔
      (AreDistinct groups.flatten ∧ r = .ok groups.flatten) ∨
        ∃ name, Repeats name groups.flatten ∧ r = refuse (.duplicateTable name place) := by
  constructor
  · intro composed
    cases composed with
    | failed first => simp [Result.mapM_id_eq_error_iff.mpr ⟨_, _, first⟩] at collected
    | distinct each different =>
      rw [Result.mapM_id_eq_ok_iff.mpr each] at collected
      obtain rfl := Except.ok.inj collected
      exact .inl ⟨different, rfl⟩
    | repeated each again =>
      rw [Result.mapM_id_eq_ok_iff.mpr each] at collected
      obtain rfl := Except.ok.inj collected
      exact .inr ⟨_, again, rfl⟩
  · have each := Result.mapM_id_eq_ok_iff.mp collected
    rintro (⟨different, rfl⟩ | ⟨name, again, rfl⟩)
    · exact .distinct each different
    · exact .repeated each again

/-- What comes of each file alone determines what comes of them together. -/
theorem IsComposition.unique (composed : IsComposition place results r)
    (composed' : IsComposition place results r') : r = r' := by
  cases collected : results.mapM id with
  | error e =>
    rw [isComposition_iff_of_error collected] at composed composed'
    rw [composed, composed']
  | ok groups =>
    rw [isComposition_iff_of_ok collected] at composed composed'
    rcases composed with ⟨different, rfl⟩ | ⟨name, again, rfl⟩ <;>
      rcases composed' with ⟨different', rfl⟩ | ⟨name', again', rfl⟩
    · rfl
    · exact absurd different again'.not_areDistinct
    · exact absurd different' again.not_areDistinct
    · rw [again.unique again']

/-- Of several results, this failure is the first. -/
def FailsFirst (e : Failure LoadError) (results : List (Attempt LoadError (List Schema))) : Prop :=
  ∃ (groups : List (List Schema)) (later : List (Attempt LoadError (List Schema))),
    results = groups.map .ok ++ .error e :: later

/-- Where all files can be loaded, no fault passes through the composition of them. -/
theorem not_isComposition_fault (f : Fault) :
    ¬ IsComposition place (groups.map .ok) (.error (.fault f)) := by
  rw [isComposition_iff_of_ok (Result.mapM_id_eq_ok_iff.mpr rfl)]
  rintro (⟨-, ended⟩ | ⟨name, -, ended⟩) <;> cases ended

end Unique

/-- The search for two tables of one name comes to a table whose name cannot be written: those
before it have names, all of them different. -/
def StopsAt (f : Fault) (tables : List Schema) : Prop :=
  ∃ before s after, tables = before ++ s :: after ∧ (∀ t ∈ before, t.IsNamed) ∧
    AreDistinct before ∧ s.tableName = .error f

/-- Tables of different names are gone through, and their names are those seen from then on. -/
theorem checkDistinct_go_append (place : Place) {seen : List String} {before : List Schema}
    (named : ∀ t ∈ before, t.IsNamed) (different : AreDistinct before)
    (fresh : ∀ t ∈ before, ∀ name ∈ seen, t.tableName ≠ .ok name) :
    ∃ seen', (∀ name, name ∈ seen' ↔ name ∈ seen ∨ ∃ t ∈ before, t.tableName = .ok name) ∧
      ∀ rest, checkDistinct.go place seen (before ++ rest) = checkDistinct.go place seen' rest := by
  induction before generalizing seen with
  | nil => exact ⟨seen, by simp, fun rest => rfl⟩
  | cons t before ih =>
    obtain ⟨⟨name, written⟩, named⟩ := List.forall_mem_cons.mp named
    obtain ⟨apart, different⟩ := List.pairwise_cons.mp different
    have unseen : name ∉ seen := fun member => fresh t List.mem_cons_self name member written
    have stillFresh : ∀ u ∈ before, ∀ other ∈ name :: seen, u.tableName ≠ .ok other := by
      intro u member other known same
      rcases List.mem_cons.mp known with rfl | known
      · exact apart u member ⟨other, written, same⟩
      · exact fresh u (List.mem_cons_of_mem t member) other known same
    obtain ⟨seen', known, onward⟩ := ih named different stillFresh
    refine ⟨seen', fun other => ?_, fun rest => ?_⟩
    · have head : t.tableName = .ok other ↔ other = name := by
        rw [written, Except.ok.injEq, eq_comm]
      simp only [known, List.mem_cons, exists_eq_or_imp, head]
      tauto
    · rw [← onward rest]
      simp [checkDistinct.go, written, unseen]

/-- How the search for two tables of one name ends, by the tables before the first that has no name
or a name that was there before. -/
inductive Searched (place : Place) (tables : List Schema) : Attempt LoadError Unit → Prop
  | clear (named : ∀ t ∈ tables, t.IsNamed) (different : AreDistinct tables) :
      Searched place tables (.ok ())
  | repeated {before s after name} (split : tables = before ++ s :: after)
      (named : ∀ t ∈ before, t.IsNamed) (different : AreDistinct before)
      (written : s.tableName = .ok name) (again : ∃ t ∈ before, t.tableName = .ok name) :
      Searched place tables (refuse (.duplicateTable name place))
  | stopped {f} (stops : StopsAt f tables) : Searched place tables (.error (.fault f))

theorem Searched.eq {result : Attempt LoadError Unit} (ended : Searched place tables result) :
    checkDistinct place tables = result := by
  have start : ∀ before : List Schema, ∀ t ∈ before, ∀ name ∈ [], t.tableName ≠ .ok name := by
    simp
  cases ended with
  | clear named different =>
    obtain ⟨seen, -, onward⟩ := checkDistinct_go_append place named different (start _)
    rw [← List.append_nil tables, checkDistinct, onward]
    rfl
  | repeated split named different written again =>
    obtain ⟨seen, known, onward⟩ := checkDistinct_go_append place named different (start _)
    have met := (known _).mpr (.inr again)
    rw [split, checkDistinct, onward]
    simp [checkDistinct.go, written, met]
  | stopped stops =>
    obtain ⟨before, s, after, rfl, named, different, unwritable⟩ := stops
    obtain ⟨seen, -, onward⟩ := checkDistinct_go_append place named different (start _)
    rw [checkDistinct, onward]
    simp [checkDistinct.go, unwritable, Attempt.ofFault]

theorem exists_searched (place : Place) (tables : List Schema) :
    ∃ result, Searched place tables result := by
  -- From the end: only if nothing was found before does the last table matter.
  induction tables using List.reverseRecOn with
  | nil => exact ⟨_, .clear (by simp) .nil⟩
  | append_singleton before s ih =>
    obtain ⟨result, searched⟩ := ih
    cases searched with
    | repeated split named different written again =>
      exact ⟨_, .repeated (by rw [split, List.append_assoc]; rfl) named different written again⟩
    | stopped stops =>
      obtain ⟨front, stop, after, rfl, rest⟩ := stops
      exact ⟨_, .stopped ⟨front, stop, after ++ [s], by simp, rest⟩⟩
    | clear named different =>
      cases written : s.tableName with
      | error f => exact ⟨_, .stopped ⟨before, s, [], rfl, named, different, written⟩⟩
      | ok name =>
        by_cases again : ∃ t ∈ before, t.tableName = .ok name
        · exact ⟨_, .repeated rfl named different written again⟩
        · have last : s.IsNamed := ⟨name, written⟩
          have fresh : ∀ t ∈ before, ¬ t.SameName s := by
            rintro t member ⟨other, ofT, ofS⟩
            rw [written] at ofS
            cases ofS
            exact again ⟨t, member, ofT⟩
          refine ⟨_, .clear ?_ ?_⟩
          · simpa [or_imp, forall_and, last] using named
          · simpa [AreDistinct, List.pairwise_append] using ⟨different, fresh⟩

theorem checkDistinct_searched (place : Place) (tables : List Schema) :
    Searched place tables (checkDistinct place tables) := by
  obtain ⟨result, searched⟩ := exists_searched place tables
  rwa [searched.eq]

/-- Without a prefix for all tables, they are loaded as they are read. -/
theorem load_none (files : Files) (path : Path) :
    load files path none =
      match files path with
      | .directory names => directory files path names
      | .missing => refuse (.noSuchPath path.text)
      | _ => member files path := by
  have untouched : ∀ r : Attempt LoadError (List Schema),
      (r >>= fun tables => pure (tables.map fun s => s.withDefaultPrefix "")) = r := by
    intro r
    cases r <;> simp [Schema.withDefaultPrefix]
  unfold load member
  cases files path with
  | file bytes => exact untouched (file path bytes)
  | directory names => exact untouched (directory files path names)
  | missing => rfl
  | nameTooLong => rfl

/-- An entry of a directory is read if it is a file that can be loaded alone. -/
theorem member_eq_ok_iff :
    member files path = .ok tables ↔
      (∃ bytes, files path = .file bytes) ∧ load files path none = .ok tables := by
  rw [load_none]
  cases found : files path with
  | file bytes => simp [member, found]
  | _ => simp [member, found]

/-- An entry of a directory cannot be read if it is missing or a directory, or cannot be loaded
alone. -/
theorem member_error_cases {e : Failure LoadError} (failed : member files path = .error e) :
    (files path = .missing ∧ e = .fault (.noSuchFile path.text)) ∨
      (∃ inner, files path = .directory inner ∧ e = .fault (.isDirectory path.text)) ∨
        load files path none = .error e := by
  rw [load_none]
  cases found : files path with
  | missing =>
    rw [member, found] at failed
    cases failed
    exact .inl ⟨rfl, rfl⟩
  | directory inner =>
    rw [member, found] at failed
    cases failed
    exact .inr (.inl ⟨inner, rfl, rfl⟩)
  | file _ | nameTooLong => exact .inr (.inr failed)

/-- A directory is loaded by going through its YAML files, and comparing all of their tables. -/
theorem load_directory (stands : files path = .directory names) :
    load files path none =
      (do
        let groups ← (yamlNames names).mapM fun name => member files (path.join name)
        checkDistinct (.directory path.text) groups.flatten
        return groups.flatten) := by
  rw [load_none, stands]
  rfl

/-- The entries of a directory can be read if they are files, and each of them can be loaded
alone. -/
theorem members_eq_ok_iff {groups : List (List Schema)} :
    (listed.mapM fun name => member files (path.join name)) = .ok groups ↔
      (∀ name ∈ listed, ∃ bytes, files (path.join name) = .file bytes) ∧
        eachAlone files path listed = groups.map .ok := by
  rw [eachAlone, ← Result.mapM_eq_ok_iff_map, Result.mapM_eq_ok_iff, Result.mapM_eq_ok_iff]
  simp only [member_eq_ok_iff]
  exact List.forall₂_and_left listed groups

section Order

theorem yamlNames_perm (names : List String) :
    (yamlNames names).Perm (names.filter isYamlName) :=
  List.mergeSort_perm _ _

theorem yamlNames_ordered (names : List String) :
    (yamlNames names).Pairwise fun m n => Text.noLaterThan m n = true :=
  Text.pairwise_mergeSort _

/-- There is only one order in which the names of the YAML files of a directory can stand. -/
theorem eq_yamlNames (same : listed.Perm (names.filter isYamlName))
    (ordered : listed.Pairwise fun m n => Text.noLaterThan m n = true) :
    listed = yamlNames names :=
  Text.eq_mergeSort same ordered

end Order

section Obstacles

variable {name : String} {after : List String} {groups : List (List Schema)} {f : Fault}
  {e : Failure LoadError}

/-- All entries of a directory can be read, or the loading comes to one that cannot. -/
theorem members_cases (files : Files) (path : Path) (listed : List String) :
    (∃ groups, (listed.mapM fun name => member files (path.join name)) = .ok groups) ∨
      ∃ name after e, ComesTo files path listed name after ∧
        member files (path.join name) = .error e := by
  cases collected : listed.mapM fun name => member files (path.join name) with
  | ok groups => exact .inl ⟨groups, rfl⟩
  | error e =>
    obtain ⟨before, name, after, split, fine, failed⟩ := Result.mapM_eq_error_iff.mp collected
    obtain ⟨groups, read⟩ := Result.exists_mapM_eq_ok_iff.mpr fine
    obtain ⟨plain, each⟩ := members_eq_ok_iff.mp read
    exact .inr ⟨name, after, e, ⟨before, groups, split, plain, each⟩, failed⟩

/-- An entry that the loading comes to and that cannot be read ends it. -/
theorem load_directory_of_comesTo (stands : files path = .directory names)
    (comes : ComesTo files path (yamlNames names) name after)
    (failed : member files (path.join name) = .error e) : load files path none = .error e := by
  obtain ⟨before, groups, split, plain, each⟩ := comes
  have fine := Result.exists_mapM_eq_ok_iff.mp ⟨groups, members_eq_ok_iff.mpr ⟨plain, each⟩⟩
  rw [load_directory stands,
    Result.mapM_eq_error_iff.mpr ⟨before, name, after, split, fine, failed⟩]
  rfl

/-- Results that begin with those of files that can be loaded alone fail first where the others
do. -/
theorem ComesTo.failsFirst_iff (comes : ComesTo files path listed name after) :
    FailsFirst e (eachAlone files path listed) ↔
      FailsFirst e (eachAlone files path (name :: after)) := by
  obtain ⟨before, groups, split, -, each⟩ := comes
  have collected : (eachAlone files path before).mapM id = .ok groups :=
    Result.mapM_id_eq_ok_iff.mpr each
  have whole : eachAlone files path listed =
      eachAlone files path before ++ eachAlone files path (name :: after) := by
    rw [split, eachAlone, List.map_append]
    rfl
  rw [FailsFirst, FailsFirst, ← Result.mapM_id_eq_error_iff, ← Result.mapM_id_eq_error_iff, whole,
    List.mapM_append, collected, Result.ok_bind]
  cases (eachAlone files path (name :: after)).mapM id <;> simp

theorem FailsFirst.unique {e' : Failure LoadError}
    {results : List (Attempt LoadError (List Schema))} (first : FailsFirst e results) (first' : FailsFirst e' results) : e = e' :=
  Except.error.inj
    ((Result.mapM_id_eq_error_iff.mpr first).symm.trans (Result.mapM_id_eq_error_iff.mpr first'))

theorem FailsFirst.isComposition {results : List (Attempt LoadError (List Schema))}
    (first : FailsFirst e results) : IsComposition place results (.error e) := by
  obtain ⟨groups, later, split⟩ := first
  exact .failed split

theorem failsFirst_of_load_error (after : List String)
    (failed : load files (path.join name) none = .error e) :
    FailsFirst e (eachAlone files path (name :: after)) :=
  ⟨[], eachAlone files path after, by rw [← failed]; rfl⟩

/-- A composition of results that fails by a fault fails by that of the first that fails. -/
theorem failsFirst_of_isComposition_fault {results : List (Attempt LoadError (List Schema))}
    (composed : IsComposition place results (.error (.fault f))) :
    FailsFirst (.fault f) results := by
  generalize ended : (.error (.fault f) : Attempt LoadError (List Schema)) = result at composed
  cases composed with
  | failed first =>
    cases ended
    exact ⟨_, _, first⟩
  | distinct | repeated => cases ended

/-- Where all entries can be read, the search for two tables of one name decides. -/
theorem load_directory_of_members (stands : files path = .directory names)
    (read : ((yamlNames names).mapM fun name => member files (path.join name)) = .ok groups) :
    load files path none =
      (checkDistinct (.directory path.text) groups.flatten >>= fun _ => .ok groups.flatten) := by
  rw [load_directory stands, read]
  rfl

theorem load_directory_of_stopsAt (stands : files path = .directory names)
    (plain : ∀ name ∈ yamlNames names, ∃ bytes, files (path.join name) = .file bytes)
    (each : eachAlone files path (yamlNames names) = groups.map .ok)
    (stops : StopsAt f groups.flatten) : load files path none = .error (.fault f) := by
  rw [load_directory_of_members stands (members_eq_ok_iff.mpr ⟨plain, each⟩),
    (Searched.stopped stops).eq]
  rfl

/-- Where all entries can be loaded alone, and the search for two tables of one name would stop, the
loading ends by a fault: by that of the search, or by that of opening a directory. -/
theorem exists_fault_of_stopsAt (stands : files path = .directory names)
    (each : eachAlone files path (yamlNames names) = groups.map .ok)
    (stops : StopsAt f groups.flatten) : ∃ f', load files path none = .error (.fault f') := by
  rcases members_cases files path (yamlNames names) with ⟨groups', read⟩ |
    ⟨name, after, e, comes, failed⟩
  · exact ⟨f, load_directory_of_stopsAt stands (members_eq_ok_iff.mp read).1 each stops⟩
  · rw [load_directory_of_comesTo stands comes failed]
    rcases member_error_cases failed with ⟨-, rfl⟩ | ⟨inner, -, rfl⟩ | alone
    · exact ⟨_, rfl⟩
    · exact ⟨_, rfl⟩
    · have first := comes.failsFirst_iff.mpr (failsFirst_of_load_error after alone)
      rw [FailsFirst, ← Result.mapM_id_eq_error_iff, Result.mapM_id_eq_ok_iff.mpr each] at first
      cases first

/-- Where all entries can be read, and the search for two tables of one name does not stop, their
tables are put together. -/
theorem isComposition_of_members (stands : files path = .directory names)
    (read : ((yamlNames names).mapM fun name => member files (path.join name)) = .ok groups)
    (nameless : ¬ ∃ (groups : List (List Schema)) (f : Fault),
      eachAlone files path (yamlNames names) = groups.map .ok ∧ StopsAt f groups.flatten) :
    IsComposition (.directory path.text) (eachAlone files path (yamlNames names))
      (load files path none) := by
  obtain ⟨-, each⟩ := members_eq_ok_iff.mp read
  rw [load_directory_of_members stands read]
  have searched := checkDistinct_searched (.directory path.text) groups.flatten
  generalize checkDistinct (.directory path.text) groups.flatten = result at searched ⊢
  cases searched with
  | clear _ different => exact .distinct each different
  | repeated split _ different written again =>
    exact .repeated each ⟨_, _, _, split, different, written, again⟩
  | stopped stops => exact absurd ⟨groups, _, each, stops⟩ nameless

theorem load_directory_of_missing (stands : files path = .directory names)
    (comes : ComesTo files path (yamlNames names) name after)
    (missing : files (path.join name) = .missing) :
    load files path none = .error (.fault (.noSuchFile (path.join name).text)) :=
  load_directory_of_comesTo stands comes (by rw [member, missing])

theorem load_directory_of_inner {inner : List String} (stands : files path = .directory names)
    (comes : ComesTo files path (yamlNames names) name after)
    (nested : files (path.join name) = .directory inner) :
    load files path none = .error (.fault (.isDirectory (path.join name).text)) :=
  load_directory_of_comesTo stands comes (by rw [member, nested])

end Obstacles

/-- A directory is loaded alike wherever it has the same YAML files. -/
theorem load_directory_congr {files' : Files} {names' : List String}
    (stands : files path = .directory names) (stands' : files' path = .directory names')
    (same : (names'.filter isYamlName).Perm (names.filter isYamlName))
    (agree : ∀ name ∈ yamlNames names, files' (path.join name) = files (path.join name)) :
    load files' path none = load files path none := by
  have order : yamlNames names' = yamlNames names :=
    eq_yamlNames ((yamlNames_perm names').trans same) (yamlNames_ordered names')
  have each : (yamlNames names).map (fun name => member files' (path.join name)) =
      (yamlNames names).map fun name => member files (path.join name) :=
    List.map_congr_left fun name inside => by rw [member, member, agree name inside]
  have collected (files : Files) :
      ((yamlNames names).mapM fun name => member files (path.join name)) =
        ((yamlNames names).map fun name => member files (path.join name)).mapM id := by
    rw [List.mapM_map]
    rfl
  rw [load_directory stands, load_directory stands', order, collected, collected, each]

/-- The entries of a directory whose names are those of YAML files, in the code point order of
their names, are loaded one after the other as each of them is loaded alone: the first that fails
decides, and otherwise their tables are put one after the other, or the first of a name that was
there before is refused. This is so exactly if the search for such a table does not stop at one
whose name cannot be written, and if no entry that the loading comes to is missing or a directory,
unless what is loaded from there on fails by the very fault of opening that directory. What decides
otherwise is said for each of the three. Neither the order in which a directory lists its entries
nor any other entry matters. -/
theorem load_directory_isComposition_iff (stands : files path = .directory names)
    (same : listed.Perm (names.filter isYamlName))
    (ordered : listed.Pairwise fun m n => Text.noLaterThan m n = true) :
    (IsComposition (.directory path.text) (eachAlone files path listed) (load files path none) ↔
        (¬ ∃ (groups : List (List Schema)) (f : Fault),
          eachAlone files path listed = groups.map .ok ∧ StopsAt f groups.flatten) ∧
        ∀ name after, ComesTo files path listed name after →
          files (path.join name) ≠ .missing ∧
            ∀ inner, files (path.join name) = .directory inner →
              FailsFirst (.fault (.isDirectory (path.join name).text))
                (eachAlone files path (name :: after))) ∧
      (∀ (groups : List (List Schema)) (f : Fault),
        (∀ name ∈ listed, ∃ bytes, files (path.join name) = .file bytes) →
          eachAlone files path listed = groups.map .ok → StopsAt f groups.flatten →
            load files path none = .error (.fault f)) ∧
      (∀ name after, ComesTo files path listed name after →
        (files (path.join name) = .missing →
          load files path none = .error (.fault (.noSuchFile (path.join name).text))) ∧
        ∀ inner, files (path.join name) = .directory inner →
          load files path none = .error (.fault (.isDirectory (path.join name).text))) ∧
      ∀ (files' : Files) (names' : List String), files' path = .directory names' →
        listed.Perm (names'.filter isYamlName) →
          (∀ name ∈ listed, files' (path.join name) = files (path.join name)) →
            load files' path none = load files path none := by
  obtain rfl := eq_yamlNames same ordered
  refine ⟨⟨?composed, ?free⟩, ?stopped, ?opened, ?alike⟩
  case composed =>
    intro composed
    refine ⟨?_, fun name after comes => ⟨fun missing => ?_, fun inner nested => ?_⟩⟩
    · rintro ⟨groups, f, each, stops⟩
      obtain ⟨f', faulted⟩ := exists_fault_of_stopsAt stands each stops
      rw [faulted, each] at composed
      exact not_isComposition_fault f' composed
    · rw [load_directory_of_missing stands comes missing] at composed
      have first := comes.failsFirst_iff.mp (failsFirst_of_isComposition_fault composed)
      have alone : load files (path.join name) none =
          refuse (.noSuchPath (path.join name).text) := by
        rw [load_none, missing]
      cases first.unique (failsFirst_of_load_error _ alone)
    · rw [load_directory_of_inner stands comes nested] at composed
      exact comes.failsFirst_iff.mp (failsFirst_of_isComposition_fault composed)
  case free =>
    rintro ⟨nameless, unobstructed⟩
    rcases members_cases files path (yamlNames names) with ⟨groups, read⟩ |
      ⟨name, after, e, comes, failed⟩
    · exact isComposition_of_members stands read nameless
    · rw [load_directory_of_comesTo stands comes failed]
      obtain ⟨there, plain⟩ := unobstructed name after comes
      rcases member_error_cases failed with ⟨missing, -⟩ | ⟨inner, nested, rfl⟩ | alone
      · exact absurd missing there
      · exact (comes.failsFirst_iff.mpr (plain inner nested)).isComposition
      · exact (comes.failsFirst_iff.mpr (failsFirst_of_load_error _ alone)).isComposition
  case stopped =>
    intro groups f plain each stops
    exact load_directory_of_stopsAt stands plain each stops
  case opened =>
    intro name after comes
    exact ⟨load_directory_of_missing stands comes,
      fun inner => load_directory_of_inner stands comes⟩
  case alike =>
    intro files' names' stands' same' agree
    exact load_directory_congr stands stands' (same'.symm.trans same) agree

/-- A directory whose files do not stand in the order of their names, beside something else. Two of
its tables have one name. -/
def unorderedDirectory : FileTree :=
  { files :=
      [(["d", "b.yaml"], "table: x\n".toUTF8.toList),
        (["d", "notes.txt"], "table: x\n".toUTF8.toList),
        (["d", "a.yaml"], "tables:\n- table: y\n- table: x\n".toUTF8.toList)] }

theorem file_unorderedDirectory : ∀ name ∈ ["a.yaml", "b.yaml"],
    ∃ bytes, unorderedDirectory.lookup ((Path.ofText "d").join name) = .file bytes := by
  intro name inside
  rcases List.mem_pair.mp inside with rfl | rfl
  · exact ⟨"tables:\n- table: y\n- table: x\n".toUTF8.toList, by decide +kernel⟩
  · exact ⟨"table: x\n".toUTF8.toList, by decide +kernel⟩

theorem load_directory_isComposition_iff_unorderedDirectory :
    unorderedDirectory.lookup (Path.ofText "d") =
        .directory ["b.yaml", "notes.txt", "a.yaml"] ∧
      ["a.yaml", "b.yaml"].Perm (["b.yaml", "notes.txt", "a.yaml"].filter isYamlName) ∧
      ["a.yaml", "b.yaml"].Pairwise (fun m n => Text.noLaterThan m n = true) ∧
      IsComposition (.directory "d")
        (eachAlone unorderedDirectory.lookup (Path.ofText "d") ["a.yaml", "b.yaml"])
        (refuse (.duplicateTable "x" (.directory "d"))) := by
  have stands : unorderedDirectory.lookup (Path.ofText "d") =
      .directory ["b.yaml", "notes.txt", "a.yaml"] := by
    decide +kernel
  have same : ["a.yaml", "b.yaml"].Perm (["b.yaml", "notes.txt", "a.yaml"].filter isYamlName) := by
    decide +kernel
  have ordered : ["a.yaml", "b.yaml"].Pairwise (fun m n => Text.noLaterThan m n = true) := by
    decide +kernel
  have refused : load unorderedDirectory.lookup (Path.ofText "d") none =
      refuse (.duplicateTable "x" (.directory "d")) := by
    rw [load_directory stands, ← eq_yamlNames same ordered]
    decide +kernel
  obtain ⟨composed, stopped, opened, -⟩ := load_directory_isComposition_iff stands same ordered
  refine ⟨stands, same, ordered, ?_⟩
  rw [← refused]
  have no_fault (f : Fault) :
      load unorderedDirectory.lookup (Path.ofText "d") none ≠ .error (.fault f) := by
    rw [refused]
    simp [refuse]
  refine composed.mpr ⟨?_, fun name after comes => ⟨fun missing => ?_, fun inner nested => ?_⟩⟩
  · rintro ⟨groups, f, each, stops⟩
    exact no_fault f (stopped groups f file_unorderedDirectory each stops)
  · exact absurd ((opened name after comes).1 missing) (no_fault _)
  · exact absurd ((opened name after comes).2 inner nested) (no_fault _)

/-- A table whose name is a number with too many digits. -/
def numberedTable : Value :=
  .map [(.str "table", .int (16 ^ 3600 - 1))]

/-- A table of a plain name. -/
def plainTable : Value :=
  .map [(.str "table", .str "x")]

theorem exists_table_numberedTable :
    ∃ s, table numberedTable = .ok s ∧ s.tableName = .error .integerUnwritable := by
  decide +kernel

theorem exists_table_plainTable :
    ∃ s, table plainTable = .ok s ∧ s.tableName = .ok "x" := by
  decide

/-- A file that holds the value stands at the path. -/
def Holds (files : Files) (path : Path) (v : Value) : Prop :=
  ∃ bytes, files path = .file bytes ∧ fileValue path bytes = .ok v

theorem Holds.load_eq {entries : List (Value × Value)} {s : Schema}
    (holds : Holds files path (.map entries)) (single : Value.field? entries "tables" = none)
    (parsed : table (.map entries) = .ok s) : load files path none = .ok [s] := by
  obtain ⟨bytes, stands, read⟩ := holds
  rw [load_none, stands]
  dsimp only
  rw [member, stands]
  dsimp only
  rw [file_of_no_tables read single, parsed]
  rfl

/-- A directory in which only a directory has the name of a YAML file. -/
def nestedDirectory : FileTree :=
  { files := [(["d", "s.yaml", "t.yaml"], "table: x\n".toUTF8.toList)] }

theorem exists_load_nestedDirectory :
    ∃ tables, load nestedDirectory.lookup ((Path.ofText "d").join "s.yaml") none = .ok tables := by
  have stands : nestedDirectory.lookup ((Path.ofText "d").join "s.yaml") =
      .directory ["t.yaml"] := by
    decide +kernel
  have listed : ["t.yaml"] = yamlNames ["t.yaml"] := eq_yamlNames (by decide) (by decide)
  rw [load_directory stands, ← listed]
  decide +kernel

theorem load_nestedDirectory :
    load nestedDirectory.lookup (Path.ofText "d") none =
      .error (.fault (.isDirectory "d/s.yaml")) := by
  have stands : nestedDirectory.lookup (Path.ofText "d") = .directory ["s.yaml"] := by
    decide +kernel
  have listed : ["s.yaml"] = yamlNames ["s.yaml"] := eq_yamlNames (by decide) (by decide)
  rw [load_directory stands, ← listed]
  decide +kernel

/-- A directory that lists a name behind which nothing stands. -/
def danglingName : Files := fun path =>
  if path = Path.ofText "d" then .directory ["x.yaml"] else .missing

theorem load_danglingName :
    load danglingName (Path.ofText "d") none = .error (.fault (.noSuchFile "d/x.yaml")) ∧
      load danglingName ((Path.ofText "d").join "x.yaml") none =
        refuse (.noSuchPath "d/x.yaml") := by
  have stands : danglingName (Path.ofText "d") = .directory ["x.yaml"] := by
    decide +kernel
  have listed : ["x.yaml"] = yamlNames ["x.yaml"] := eq_yamlNames (by decide) (by decide)
  constructor
  · rw [load_directory stands, ← listed]
    decide +kernel
  · decide +kernel

/-- A directory with a numbered table before two tables of one name is not loaded as the
composition of its files, which refuses the second of the two. A directory with a directory in it
is not even if each can be loaded, because the inner one is opened like a file; nor is one that
lists a name behind which nothing stands, which is opened as well. -/
theorem not_isComposition_numberedTable_nestedDirectory :
    (∀ (files : Files) (path : Path), files path = .directory ["a.yaml", "b.yaml", "c.yaml"] →
      Holds files (path.join "a.yaml") numberedTable →
        Holds files (path.join "b.yaml") plainTable → Holds files (path.join "c.yaml") plainTable →
          IsComposition (.directory path.text)
              (eachAlone files path ["a.yaml", "b.yaml", "c.yaml"])
              (refuse (.duplicateTable "x" (.directory path.text))) ∧
            ¬ IsComposition (.directory path.text)
              (eachAlone files path ["a.yaml", "b.yaml", "c.yaml"]) (load files path none)) ∧
      ¬ IsComposition (.directory "d")
        [load nestedDirectory.lookup ((Path.ofText "d").join "s.yaml") none]
        (load nestedDirectory.lookup (Path.ofText "d") none) ∧
      ¬ IsComposition (.directory "d")
        [load danglingName ((Path.ofText "d").join "x.yaml") none]
        (load danglingName (Path.ofText "d") none) := by
  refine ⟨?numbered, ?nested, ?dangling⟩
  case numbered =>
    intro files path stands first second third
    obtain ⟨s, parsed, unwritable⟩ := exists_table_numberedTable
    obtain ⟨t, parsed', written⟩ := exists_table_plainTable
    have each : eachAlone files path ["a.yaml", "b.yaml", "c.yaml"] =
        [[s], [t], [t]].map .ok := by
      simp only [eachAlone, List.map_cons, List.map_nil, first.load_eq (by decide) parsed,
        second.load_eq (by decide) parsed', third.load_eq (by decide) parsed']
    have ordered : ["a.yaml", "b.yaml", "c.yaml"] = yamlNames ["a.yaml", "b.yaml", "c.yaml"] :=
      eq_yamlNames (by decide) (by decide)
    constructor
    · have apart : AreDistinct [s, t] := by
        simp [AreDistinct, Schema.SameName, unwritable]
      refine .repeated each ⟨[s, t], t, [], rfl, apart, written, t, ?_, written⟩
      simp
    · have stops : StopsAt .integerUnwritable ([[s], [t], [t]] : List (List Schema)).flatten :=
        ⟨[], s, [t, t], rfl, by simp, .nil, unwritable⟩
      rw [ordered] at each ⊢
      obtain ⟨f, faulted⟩ := exists_fault_of_stopsAt stands each stops
      rw [faulted, each]
      exact not_isComposition_fault f
  case nested =>
    obtain ⟨tables, loaded⟩ := exists_load_nestedDirectory
    rw [load_nestedDirectory, loaded]
    show ¬ IsComposition _ ([tables].map .ok) _
    exact not_isComposition_fault _
  case dangling =>
    obtain ⟨faulted, refused⟩ := load_danglingName
    rw [faulted, refused]
    intro composed
    have alone : FailsFirst (.refused (.noSuchPath "d/x.yaml"))
        [(refuse (.noSuchPath "d/x.yaml") : Attempt LoadError (List Schema))] := ⟨[], [], rfl⟩
    cases (failsFirst_of_isComposition_fault composed).unique alone

end Loading

end TableDdl
