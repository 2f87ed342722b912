import TableDdl.Cli.Run
import TableDdl.Files.Tree
import TableDdl.Proofs.Names
import TableDdl.Proofs.Settings.Expansion
import TableDdl.Proofs.Settings.Sections

/-!
# Malformed settings files

A settings file is refused if it is not well-formed or does not have the section that is read. The
values of the options are put together only after that, and a value that cannot be put together is
not refused: a fault passes through, and through every command as well. The main statement says
when that is so, and what comes of the file otherwise.
-/

namespace TableDdl.Settings

/-- The file is well-formed and has the section that is read. -/
structure Holds (path : Path) (text : FileText) (sections : List IniSection) (own : IniSection) :
    Prop where
  read : readIni path text = .ok sections
  listed : own ∈ sections
  named : own.name = sectionName

/-- What the value of an option is put together from. -/
def substitutionFor (options : List (String × String)) (option raw : String) : Substitution :=
  { sectionName, option, raw, get? := fun name => options.lookup name }

/-- The values of all options can be put together. -/
def AllCompose (options : List (String × String)) : Prop :=
  ∀ option raw, (option, raw) ∈ options →
    (substitutionFor options option raw).Composes maxSubstitutionDepth raw

section Options

variable {options found : List (String × String)} {sections : List IniSection} {own : IniSection}

/-- The value of an option, or the fault that it ends in. -/
def settled (options : List (String × String)) (given : String × String) :
    Except Fault (String × String) :=
  match (substitutionFor options given.1 given.2).value with
  | .ok value => .ok (given.1, Text.strip value)
  | .error e => .error (.substitution e)

theorem expandedOptions_eq_mapM (options : List (String × String)) :
    expandedOptions options = options.mapM (settled options) := rfl

theorem exists_settled_iff {given : String × String} :
    (∃ value, settled options given = .ok value) ↔
      (substitutionFor options given.1 given.2).Composes maxSubstitutionDepth given.2 := by
  rw [← Substitution.exists_expand_iff]
  have same : (substitutionFor options given.1 given.2).expand maxSubstitutionDepth given.2 =
      (substitutionFor options given.1 given.2).value := rfl
  rw [settled, same]
  cases (substitutionFor options given.1 given.2).value <;> simp

theorem exists_expandedOptions_iff :
    (∃ found, expandedOptions options = .ok found) ↔ AllCompose options := by
  rw [expandedOptions_eq_mapM, Result.exists_mapM_eq_ok_iff, AllCompose, Prod.forall]
  simp only [exists_settled_iff]

/-- Nothing but a value that cannot be put together is in the way. -/
theorem eq_substitution_of_expandedOptions {f : Fault}
    (failed : expandedOptions options = .error f) : ∃ e, f = .substitution e := by
  rw [expandedOptions_eq_mapM, Result.mapM_eq_error_iff] at failed
  obtain ⟨-, given, -, -, -, stop⟩ := failed
  unfold settled at stop
  split at stop
  · cases stop
  · rename_i e _
    cases stop
    exact ⟨e, rfl⟩

theorem map_fst_of_expandedOptions (expanded : expandedOptions options = .ok found) :
    options.map Prod.fst = found.map Prod.fst := by
  rw [expandedOptions_eq_mapM, Result.mapM_eq_ok_iff] at expanded
  rw [← List.forall₂_eq_eq_eq, List.forall₂_map_left_iff, List.forall₂_map_right_iff]
  refine expanded.imp fun given value came => ?_
  rw [settled] at came
  split at came
  · cases came
    rfl
  · cases came

/-- The options of the section for all others. -/
def commonOptions (sections : List IniSection) : List (String × List String) :=
  ((sections.find? (·.name = defaultSection)).map (·.options)).getD []

theorem mem_commonOptions_iff (distinct : AreDistinct sections) {option : String} :
    option ∈ (commonOptions sections).map Prod.fst ↔
      ∃ common ∈ sections, common.name = defaultSection ∧ option ∈ common.options.map Prod.fst := by
  constructor
  · intro listed
    cases found : sections.find? (·.name = defaultSection) with
    | none => simp [commonOptions, found] at listed
    | some common =>
      rw [commonOptions, found] at listed
      have named : common.name = defaultSection := by simpa using List.find?_some found
      exact ⟨common, List.mem_of_find?_eq_some found, named, listed⟩
  · rintro ⟨common, member, named, listed⟩
    rw [commonOptions, ← named, Names.find?_of_nodup distinct.names member]
    exact listed

theorem map_fst_effectiveOptions (sections : List IniSection) (own : IniSection) :
    (effectiveOptions sections own).map Prod.fst =
      own.options.map Prod.fst ++
        ((commonOptions sections).map Prod.fst).filter fun name =>
          !own.options.any (·.1 = name) := by
  unfold effectiveOptions
  rw [List.map_map, List.filter_map, ← List.map_append]
  rfl

theorem mem_effectiveOptions_iff (distinct : AreDistinct sections) {option : String} :
    option ∈ (effectiveOptions sections own).map Prod.fst ↔
      option ∈ own.options.map Prod.fst ∨
        ∃ common ∈ sections, common.name = defaultSection ∧
          option ∈ common.options.map Prod.fst := by
  rw [map_fst_effectiveOptions, List.mem_append, List.mem_filter, mem_commonOptions_iff distinct]
  by_cases given : option ∈ own.options.map Prod.fst
  · simp only [given, true_or]
  · have missing : own.options.any (·.1 = option) = false := by
      rw [List.any_eq_false]
      intro other listed
      rw [decide_eq_true_eq]
      rintro rfl
      exact given (List.mem_map_of_mem listed)
    simp [missing]

theorem nodup_effectiveOptions (distinct : AreDistinct sections) (member : own ∈ sections) :
    ((effectiveOptions sections own).map Prod.fst).Nodup := by
  have common : ((commonOptions sections).map Prod.fst).Nodup := by
    unfold commonOptions
    cases found : sections.find? (·.name = defaultSection) with
    | none => exact List.nodup_nil
    | some common => exact distinct.options common (List.mem_of_find?_eq_some found)
  rw [map_fst_effectiveOptions, List.nodup_append']
  refine ⟨distinct.options own member, common.filter _, ?_⟩
  intro option there inherited
  obtain ⟨given, listed, rfl⟩ := List.mem_map.mp there
  have missing := (List.mem_filter.mp inherited).2
  rw [Bool.not_eq_true', List.any_eq_false] at missing
  exact missing given listed (by simp)

end Options

section File

variable {path : Path} {text : FileText} {sections : List IniSection} {own : IniSection}

theorem Holds.sectionOptions_eq (holds : Holds path text sections own) :
    sectionOptions path text =
      Attempt.ofFault (expandedOptions (effectiveOptions sections own)) := by
  have found : sections.find? (·.name = sectionName) = some own := by
    rw [← holds.named]
    exact Names.find?_of_nodup (areDistinct_of_readIni holds.read).names holds.listed
  rw [sectionOptions, holds.read]
  simp only [Except.mapError, Result.ok_bind, found]
  rfl

/-- A file that is not well-formed, or does not have the section, is refused. -/
theorem refused_of_not_holds (readable : text.fault = none)
    (not : ∀ sections own, ¬ Holds path text sections own) :
    ∃ e, sectionOptions path text = refuse e := by
  have decided : Documented (readIni path text) := documented_readIni readable
  rcases decided with ⟨sections, read⟩ | ⟨e, read⟩
  · have missing : sections.find? (·.name = sectionName) = none := by
      rw [List.find?_eq_none]
      intro own listed
      rw [decide_eq_true_eq]
      intro named
      exact not sections own ⟨read, listed, named⟩
    refine ⟨.noSection path, ?_⟩
    rw [sectionOptions, read]
    simp only [Except.mapError, Result.ok_bind, missing]
  · refine ⟨.invalid path e, ?_⟩
    rw [sectionOptions, read]
    rfl

/-- A file that is text is read or refused exactly if the values of all options of the section can
be put together, where there is such a section. -/
theorem documented_sectionOptions_iff (readable : text.fault = none) :
    Documented (sectionOptions path text) ↔
      ∀ sections own, Holds path text sections own →
        AllCompose (effectiveOptions sections own) := by
  constructor
  · intro documented sections own holds
    rw [holds.sectionOptions_eq] at documented
    rw [← exists_expandedOptions_iff]
    rcases documented with ⟨found, expanded⟩ | ⟨e, refused⟩
    · exact ⟨found, Result.ofFault_eq_ok_iff.mp expanded⟩
    · exact absurd refused (Result.ofFault_ne_refused _ e)
  · intro all
    by_cases there : ∃ sections own, Holds path text sections own
    · obtain ⟨sections, own, holds⟩ := there
      obtain ⟨found, expanded⟩ := exists_expandedOptions_iff.mpr (all sections own holds)
      exact .inl ⟨found, by rw [holds.sectionOptions_eq, expanded]; rfl⟩
    · push Not at there
      exact .inr (refused_of_not_holds readable there)

/-- A file with an option that refers to itself, directly or through other options, ends in a
fault. -/
theorem not_documented_of_cycle (readable : text.fault = none)
    (holds : Holds path text sections own) {option raw : String} {n : Nat}
    (listed : (option, raw) ∈ effectiveOptions sections own)
    (cycle : (substitutionFor (effectiveOptions sections own) option raw).Leads (n + 1) raw raw) :
    ¬ Documented (sectionOptions path text) := by
  rw [documented_sectionOptions_iff readable]
  intro all
  exact Substitution.not_composes_of_cycle cycle _ (all sections own holds option raw listed)

end File

section Choice

variable {files : Files} {env : Environment} {choice : FileChoice} {path : Path} {asked : Bool}
  {bytes : List UInt8} {found : List (String × String)}

theorem fileOptions_of_file (chosen : filePath env choice = (path, asked))
    (stands : files path = .file bytes) :
    fileOptions files env choice = sectionOptions path (FileText.ofLines bytes) := by
  simp only [fileOptions, chosen, stands]

/-- The options that come of a file are those of the section and those for all sections, each of
them once. -/
theorem options_of_sectionOptions {text : FileText} (readable : text.fault = none)
    (read : sectionOptions path text = .ok found) :
    (found.map Prod.fst).Nodup ∧
      ∃ sections own, Holds path text sections own ∧
        ∀ option, option ∈ found.map Prod.fst ↔
          option ∈ own.options.map Prod.fst ∨
            ∃ common ∈ sections, common.name = defaultSection ∧
              option ∈ common.options.map Prod.fst := by
  by_cases there : ∃ sections own, Holds path text sections own
  · obtain ⟨sections, own, holds⟩ := there
    have distinct := areDistinct_of_readIni holds.read
    rw [holds.sectionOptions_eq] at read
    have expanded : expandedOptions (effectiveOptions sections own) = .ok found :=
      Result.ofFault_eq_ok_iff.mp read
    have same := map_fst_of_expandedOptions expanded
    refine ⟨same ▸ nodup_effectiveOptions distinct holds.listed, sections, own, holds, ?_⟩
    intro option
    rw [← same]
    exact mem_effectiveOptions_iff distinct
  · push Not at there
    obtain ⟨e, refused⟩ := refused_of_not_holds readable there
    rw [refused] at read
    cases read

/-- Nothing but a value that cannot be put together ends the reading of a text in a fault. -/
theorem eq_substitution_of_sectionOptions {text : FileText} {f : Fault}
    (readable : text.fault = none) (faulted : sectionOptions path text = .error (.fault f)) :
    ∃ e, f = .substitution e := by
  by_cases there : ∃ sections own, Holds path text sections own
  · obtain ⟨sections, own, holds⟩ := there
    rw [holds.sectionOptions_eq, Result.ofFault_eq_fault_iff] at faulted
    exact eq_substitution_of_expandedOptions faulted
  · push Not at there
    obtain ⟨e, refused⟩ := refused_of_not_holds readable there
    rw [refused] at faulted
    cases faulted

end Choice

end TableDdl.Settings

namespace TableDdl.Cli

open Settings (AllCompose Holds defaultSection effectiveOptions fileOptions filePath)

variable {out : Stdout} {files : Files} {env : Environment} {i : Invocation}
  {arguments : List String}

/-- Settings that are refused are reported by every command, with status two. -/
theorem run_of_refused (given : readArguments arguments = .run i) {e : SettingsError}
    (refused : fileOptions files env i.config = refuse e) :
    run out files env arguments = .ended 2 "" (complaint "Configuration error" e.message) := by
  have known : Settings.load files env i.overrides = refuse e := by
    rw [Settings.load, Invocation.overrides, refused]
    rfl
  rw [run, given]
  simp only [Invocation.run, known]
  rfl

/-- A fault passes from the settings through every command. -/
theorem run_of_fault (given : readArguments arguments = .run i) {f : Fault}
    (faulted : fileOptions files env i.config = .error (.fault f)) :
    run out files env arguments = .faulted f "" "" := by
  have known : Settings.load files env i.overrides = .error (.fault f) := by
    rw [Settings.load, Invocation.overrides, faulted]
    rfl
  rw [run, given]
  simp only [Invocation.run, known]

/-- A settings file that is text is read or refused exactly if, in case it is well-formed and has
the section that is read, the values of all options can be put together. What is read are the
options of the section and those for all sections, each once. A file that is refused is reported
by every command line with status two; otherwise the value that cannot be put together is a fault
that passes through. -/
theorem settingsFile_documented_iff {choice : FileChoice} {path : Path} {asked : Bool}
    {bytes : List UInt8} (chosen : filePath env choice = (path, asked))
    (stands : files path = .file bytes) (readable : (FileText.ofLines bytes).fault = none) :
    (Documented (fileOptions files env choice) ↔
      ∀ sections own, Holds path (FileText.ofLines bytes) sections own →
        AllCompose (effectiveOptions sections own)) ∧
    (∀ found, fileOptions files env choice = .ok found →
      (found.map Prod.fst).Nodup ∧
        ∃ sections own, Holds path (FileText.ofLines bytes) sections own ∧
          ∀ option, option ∈ found.map Prod.fst ↔
            option ∈ own.options.map Prod.fst ∨
              ∃ common ∈ sections, common.name = defaultSection ∧
                option ∈ common.options.map Prod.fst) ∧
    (∀ f, fileOptions files env choice = .error (.fault f) → ∃ e, f = .substitution e) ∧
    ∀ out arguments i, readArguments arguments = .run i → i.config = choice →
      (∀ e, fileOptions files env choice = refuse e →
        run out files env arguments = .ended 2 "" (complaint "Configuration error" e.message)) ∧
      ∀ f, fileOptions files env choice = .error (.fault f) →
        run out files env arguments = .faulted f "" "" := by
  have same := Settings.fileOptions_of_file chosen stands
  refine ⟨?documented, ?options, ?fault, ?commands⟩
  case documented =>
    rw [same]
    exact Settings.documented_sectionOptions_iff readable
  case options =>
    intro found read
    exact Settings.options_of_sectionOptions readable (same ▸ read)
  case fault =>
    intro f faulted
    exact Settings.eq_substitution_of_sectionOptions readable (same ▸ faulted)
  case commands =>
    rintro out arguments i given rfl
    exact ⟨fun e refused => run_of_refused given refused,
      fun f faulted => run_of_fault given faulted⟩

/-- The bytes of a settings file with a percent sign that stands alone. -/
def strayPercent : List UInt8 :=
  "[tablebuilder]\nprefix = 50%\n".toUTF8.toList

/-- The directory with this file. -/
def strayPercentFiles : Files :=
  FileTree.lookup { files := [(["tablebuilder.cfg"], strayPercent)] }

theorem strayPercentFiles_file : strayPercentFiles Settings.defaultFile = .file strayPercent := by
  decide +kernel

theorem fault_strayPercent : (FileText.ofLines strayPercent).fault = none := by
  decide +kernel

theorem settingsFile_documented_iff_strayPercent :
    strayPercentFiles Settings.defaultFile = .file strayPercent ∧
      (FileText.ofLines strayPercent).fault = none ∧
      (Documented (fileOptions strayPercentFiles (fun _ => none) .usual) ↔
        ∀ sections own,
          Holds Settings.defaultFile (FileText.ofLines strayPercent) sections own →
            AllCompose (effectiveOptions sections own)) := by
  have chosen : filePath (fun _ => none) .usual = (Settings.defaultFile, false) := rfl
  obtain ⟨documented, -⟩ :=
    settingsFile_documented_iff chosen strayPercentFiles_file fault_strayPercent
  exact ⟨strayPercentFiles_file, fault_strayPercent, documented⟩

/-- The percent sign is not reported as an error of the file: a fault passes through the reading
of the settings and through the command. -/
theorem not_documented_strayPercent :
    ¬ Documented (fileOptions strayPercentFiles (fun _ => none) .usual) ∧
      run .utf8 strayPercentFiles (fun _ => none) ["validate"] =
        .faulted (.substitution (.strayPercent "%")) "" "" := by
  have faulted : fileOptions strayPercentFiles (fun _ => none) .usual =
      .error (.fault (.substitution (.strayPercent "%"))) := by
    decide +kernel
  exact ⟨not_documented_of_fault faulted,
    run_of_fault (i := { command := .validate }) (by decide) faulted⟩

end TableDdl.Cli
