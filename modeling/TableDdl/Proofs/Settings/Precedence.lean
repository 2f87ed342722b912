import TableDdl.Files.Tree
import TableDdl.Proofs.Result
import TableDdl.Settings.Basic

/-!
# The precedence of settings

One settings file is read, whatever else is given, and nothing but this file can make the settings
fail. Every setting on its own is then taken from the first place that has it. What the places
behind that one hold makes no difference.
-/

namespace TableDdl.Settings

section Reading

variable {files : Files} {env : Environment} {choice : FileChoice} {path : Path}
  {r : Attempt SettingsError (List (String × String))}

/-- The options of the settings file at a path, which has to be there. -/
def optionsAt (files : Files) (path : Path) : Attempt SettingsError (List (String × String)) :=
  match files path with
  | .missing => refuse (.notFound path)
  | .nameTooLong => .error (.fault (.nameTooLong path.text))
  | .directory _ => sectionOptions path (FileText.ofLines [])
  | .file bytes => sectionOptions path (FileText.ofLines bytes)

/-- What comes of reading the settings file. -/
inductive Reads (files : Files) (env : Environment) :
    FileChoice → Attempt SettingsError (List (String × String)) → Prop
  /-- The file that is asked for by its path. -/
  | named (path : Path) : Reads files env (.named path) (optionsAt files path)
  /-- Otherwise the file that the environment names. -/
  | fromVariable {choice : FileChoice} {text : String} (unnamed : choice.path? = none)
      (set : env fileVariable = some text) :
      Reads files env choice (optionsAt files (Path.ofText text))
  /-- Otherwise the usual file. -/
  | usual {choice : FileChoice} (unnamed : choice.path? = none) (unset : env fileVariable = none)
      (there : files defaultFile ≠ .missing ∨ choice.isAsked = true) :
      Reads files env choice (optionsAt files defaultFile)
  /-- There are no options if the usual file is missing and was not asked for. -/
  | absent {choice : FileChoice} (unasked : choice.isAsked = false)
      (unset : env fileVariable = none) (missing : files defaultFile = .missing) :
      Reads files env choice (.ok [])

theorem fileOptions_of_asked {asked : Bool} (chosen : filePath env choice = (path, asked))
    (there : files path ≠ .missing ∨ asked = true) :
    fileOptions files env choice = optionsAt files path := by
  simp only [fileOptions, chosen, optionsAt]
  cases stands : files path with
  | missing =>
    have known : asked = true := there.resolve_left fun missing => missing stands
    simp only [known, if_true]
  | _ => rfl

theorem fileOptions_of_absent (chosen : filePath env choice = (path, false))
    (missing : files path = .missing) : fileOptions files env choice = .ok [] := by
  simp only [fileOptions, chosen, missing]
  rfl

theorem Reads.eq_fileOptions (reads : Reads files env choice r) :
    r = fileOptions files env choice := by
  symm
  cases reads with
  | named path => exact fileOptions_of_asked rfl (.inr rfl)
  | fromVariable unnamed set =>
    exact fileOptions_of_asked (by simp only [filePath, unnamed, set]) (.inr rfl)
  | usual unnamed unset there =>
    exact fileOptions_of_asked (by simp only [filePath, unnamed, unset]) there
  | absent unasked unset missing =>
    have unnamed : choice.path? = none := by
      cases named : choice.path? with
      | none => rfl
      | some path => cases unasked.symm.trans (FileChoice.isAsked_of_path? named)
    exact fileOptions_of_absent (by simp only [filePath, unnamed, unset, unasked]) missing

theorem reads_fileOptions (files : Files) (env : Environment) (choice : FileChoice) :
    Reads files env choice (fileOptions files env choice) := by
  have found : ∃ r, Reads files env choice r := by
    cases unnamed : choice.path? with
    | some path =>
      cases choice with
      | named path => exact ⟨_, .named path⟩
      | _ => cases unnamed
    | none =>
      cases set : env fileVariable with
      | some text => exact ⟨_, .fromVariable unnamed set⟩
      | none =>
        by_cases there : files defaultFile ≠ .missing ∨ choice.isAsked = true
        · exact ⟨_, .usual unnamed set there⟩
        · rw [not_or, not_not, Bool.not_eq_true] at there
          exact ⟨_, .absent there.2 set there.1⟩
  obtain ⟨r, reads⟩ := found
  rwa [← reads.eq_fileOptions]

end Reading

/-- The settings that can be given. -/
inductive Setting where
  | tablePrefix
  | collation
  | schemaPath
  deriving DecidableEq, Repr

namespace Setting

/-- What is asked for explicitly. -/
def asked (o : Overrides) : Setting → Option String
  | .tablePrefix => o.tablePrefix
  | .collation => o.collation
  | .schemaPath => o.schemaPath

/-- The variable for the setting. -/
def variableName : Setting → String
  | .tablePrefix => "TABLEBUILDER_PREFIX"
  | .collation => "TABLEBUILDER_COLLATE"
  | .schemaPath => "TABLEBUILDER_SCHEMA_PATH"

/-- The option for the setting in the file. -/
def optionName : Setting → String
  | .tablePrefix => "prefix"
  | .collation => "collate"
  | .schemaPath => "schema_path"

/-- What the places hold for the setting, in the order of their precedence. -/
def places (s : Setting) (o : Overrides) (env : Environment) (options : List (String × String)) :
    List (Option String) :=
  [s.asked o, env s.variableName, options.lookup s.optionName]

/-- What is in force if the first place that has the setting holds `found`: there always is a path
of descriptions. -/
def settle : Setting → Option String → Option String
  | .tablePrefix, found => found
  | .collation, found => found
  | .schemaPath, some text => some (if text = "" then "schema" else text)
  | .schemaPath, none => some "schema"

theorem settle_schemaPath (found : Option String) :
    settle .schemaPath found = some ((found.filter (· ≠ "")).getD "schema") := by
  cases found with
  | none => rfl
  | some text => by_cases empty : text = "" <;> simp [settle, Option.filter, empty]

/-- The setting that is in force. -/
def inForce (settings : Settings) : Setting → Option String
  | .tablePrefix => settings.tablePrefix
  | .collation => settings.collation
  | .schemaPath => some settings.schemaPath

end Setting

/-- What the first place holds that holds something; a text counts even if it is empty. -/
inductive FirstPresent : List (Option String) → Option String → Prop
  | here {before after : List (Option String)} (text : String)
      (absent : ∀ place ∈ before, place = none) :
      FirstPresent (before ++ some text :: after) (some text)
  | nowhere {places : List (Option String)} (absent : ∀ place ∈ places, place = none) :
      FirstPresent places none

namespace FirstPresent

variable {places others : List (Option String)} {found found' : Option String}

theorem iff_findSome? : FirstPresent places found ↔ places.findSome? id = found := by
  constructor
  · intro first
    cases first with
    | here text absent =>
      have none_before : List.findSome? id _ = none := List.findSome?_eq_none_iff.mpr absent
      rw [List.findSome?_append, none_before]
      rfl
    | nowhere absent => exact List.findSome?_eq_none_iff.mpr absent
  · intro same
    cases found with
    | none => exact .nowhere (List.findSome?_eq_none_iff.mp same)
    | some text =>
      obtain ⟨before, place, after, rfl, holds, absent⟩ := List.findSome?_eq_some_iff.mp same
      obtain rfl : place = some text := holds
      exact .here text absent

theorem findSome?_take {xs : List (Option String)} {n : Nat}
    (present : ∃ text, some text ∈ xs.take n) : (xs.take n).findSome? id = xs.findSome? id := by
  obtain ⟨text, member⟩ := present
  have there : ((xs.take n).findSome? id).isSome = true := by
    rw [List.findSome?_isSome_iff]
    exact ⟨some text, member, rfl⟩
  obtain ⟨found, same⟩ := Option.isSome_iff_exists.mp there
  conv_rhs => rw [← List.take_append_drop n xs, List.findSome?_append, same]
  rw [same]
  rfl

/-- What lies behind a place that holds something makes no difference. -/
theorem eq_of_take_eq {n : Nat} (first : FirstPresent places found)
    (other : FirstPresent others found') (alike : others.take n = places.take n)
    (present : ∃ text, some text ∈ places.take n) : found' = found := by
  rw [iff_findSome?] at first other
  rw [← first, ← other, ← findSome?_take present, ← findSome?_take (alike ▸ present), alike]

end FirstPresent

section Loading

variable {files : Files} {env : Environment} {o : Overrides} {options : List (String × String)}
  {settings : Settings}

theorem resolve_eq_findSome? (s : Setting) :
    resolve options env (s.asked o) s.variableName s.optionName =
      (s.places o env options).findSome? id := by
  unfold resolve Setting.places
  cases s.asked o with
  | some text => rfl
  | none =>
    cases env s.variableName with
    | some text => rfl
    | none => cases options.lookup s.optionName <;> rfl

/-- Where the file is read, every setting comes from the first place that has it. -/
theorem exists_load_eq_ok (read : fileOptions files env o.file = .ok options) :
    ∃ settings, load files env o = .ok settings ∧
      ∀ s : Setting, s.inForce settings = s.settle ((s.places o env options).findSome? id) := by
  refine ⟨_, by rw [load, read]; rfl, fun s => ?_⟩
  rw [← resolve_eq_findSome?]
  cases s with
  | tablePrefix => rfl
  | collation => rfl
  | schemaPath => exact (Setting.settle_schemaPath _).symm

/-- Nothing but the file makes the settings fail. -/
theorem load_eq_error_iff {failure : Failure SettingsError} :
    load files env o = .error failure ↔ fileOptions files env o.file = .error failure := by
  cases read : fileOptions files env o.file with
  | ok options =>
    obtain ⟨settings, loaded, -⟩ := exists_load_eq_ok read
    rw [loaded]
    exact ⟨nofun, nofun⟩
  | error other =>
    have failed : load files env o = .error other := by
      rw [load, read]
      rfl
    rw [failed]
    exact ⟨fun same => by cases same; rfl, fun same => by cases same; rfl⟩

/-- The settings fail exactly if reading the one settings file that is chosen fails, whatever is
given besides. Otherwise every setting is what the first place holds that has it. The setting is
the same in any two loads whose places agree up to one that holds something. -/
theorem load_takes_first (files : Files) (env : Environment) (o : Overrides) :
    ∃ r, Reads files env o.file r ∧
      (∀ failure, load files env o = .error failure ↔ r = .error failure) ∧
      ∀ options, r = .ok options →
        ∃ settings, load files env o = .ok settings ∧
          (∀ s : Setting, ∃ found,
            FirstPresent (s.places o env options) found ∧ s.inForce settings = s.settle found) ∧
          ∀ (files' : Files) (env' : Environment) (o' : Overrides)
            (options' : List (String × String)) (settings' : Settings),
            Reads files' env' o'.file (.ok options') → load files' env' o' = .ok settings' →
            ∀ (s : Setting) (n : Nat),
              (s.places o' env' options').take n = (s.places o env options).take n →
              (∃ text, some text ∈ (s.places o env options).take n) →
              s.inForce settings' = s.inForce settings := by
  refine ⟨_, reads_fileOptions files env o.file, fun failure => load_eq_error_iff, ?_⟩
  intro options read
  obtain ⟨settings, loaded, inForce⟩ := exists_load_eq_ok read
  refine ⟨settings, loaded, ?first, ?same⟩
  case first =>
    intro s
    exact ⟨_, FirstPresent.iff_findSome?.mpr rfl, inForce s⟩
  case same =>
    intro files' env' o' options' settings' reads loaded' s n alike present
    obtain ⟨settings'', again, inForce'⟩ := exists_load_eq_ok reads.eq_fileOptions.symm
    obtain rfl : settings' = settings'' := Except.ok.inj (loaded'.symm.trans again)
    have first := FirstPresent.iff_findSome?.mpr (Eq.refl ((s.places o env options).findSome? id))
    have other :=
      FirstPresent.iff_findSome?.mpr (Eq.refl ((s.places o' env' options').findSome? id))
    rw [inForce s, inForce' s, first.eq_of_take_eq other alike present]

end Loading

/-- The directory with a settings file for a prefix and a collation. -/
def prefixAndCollation : Files :=
  FileTree.lookup
    { files := [(["tablebuilder.cfg"],
        "[tablebuilder]\nprefix = f_\ncollate = c\n".toUTF8.toList)] }

/-- The environment with an empty prefix. -/
def emptyPrefix : Environment := fun name =>
  if name = prefixVariable then some "" else none

theorem fileOptions_prefixAndCollation :
    fileOptions prefixAndCollation emptyPrefix .usual =
      .ok [("prefix", "f_"), ("collate", "c")] := by
  decide +kernel

/-- The empty prefix hides the one in the file, which may as well be missing. -/
theorem load_takes_first_emptyPrefix :
    ∃ settings, load prefixAndCollation emptyPrefix {} = .ok settings ∧
      FirstPresent [none, some "", some "f_"] settings.tablePrefix ∧
      FirstPresent [none, none, some "c"] settings.collation ∧
      settings.schemaPath = "schema" ∧
      ∀ settings', load (fun _ => .missing) emptyPrefix {} = .ok settings' →
        settings'.tablePrefix = settings.tablePrefix := by
  obtain ⟨r, reads, -, result⟩ := load_takes_first prefixAndCollation emptyPrefix {}
  have known : r = .ok [("prefix", "f_"), ("collate", "c")] :=
    reads.eq_fileOptions.trans fileOptions_prefixAndCollation
  obtain ⟨settings, loaded, first, same⟩ := result _ known
  obtain ⟨_, ofPrefix, rfl⟩ := first .tablePrefix
  obtain ⟨_, ofCollation, rfl⟩ := first .collation
  obtain ⟨_, ofPath, path⟩ := first .schemaPath
  refine ⟨settings, loaded, ofPrefix, ofCollation, ?_, fun settings' other => ?_⟩
  · rw [← FirstPresent.iff_findSome?.mp ofPath] at path
    exact Option.some.inj path
  · exact same _ emptyPrefix {} [] settings' (.absent rfl rfl rfl) other .tablePrefix 2 rfl
      ⟨"", by decide⟩

end TableDdl.Settings
