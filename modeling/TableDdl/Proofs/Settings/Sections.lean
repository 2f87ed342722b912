import TableDdl.Proofs.Demand
import TableDdl.Settings.Ini
import Mathlib.Data.List.Nodup

/-!
# Sections of settings files

A settings file is read line by line, and each line does one of few things to the sections that
were read before it. So no two sections of a file have one name, and no section has an option
twice. Apart from what cannot be read as text, nothing but a refusal ends the reading.
-/

namespace TableDdl.Settings

/-- No two sections have one name, and no section has an option twice. -/
structure AreDistinct (sections : List IniSection) : Prop where
  names : (sections.map (·.name)).Nodup
  options : ∀ s ∈ sections, (s.options.map Prod.fst).Nodup

/-- Change the section of a name, if there is one. -/
def changeIn (current : Option String) (f : IniSection → IniSection) (sections : List IniSection) :
    List IniSection :=
  sections.map fun s => if some s.name = current then f s else s

/-- What a line may make of the sections that were read before it: they stay, the value of an
option goes on, a section begins under a new name, or the current section has a new option. -/
inductive Effect (sections : List IniSection) (current : Option String) : List IniSection → Prop
  | same : Effect sections current sections
  | continued (option line : String) :
    Effect sections current (changeIn current (fun s =>
      { s with options := s.options.map fun (name, lines) =>
          if name = option then (name, lines ++ [line]) else (name, lines) }) sections)
  | opened {name : String} (fresh : name ∉ sections.map (·.name)) :
    Effect sections current (sections ++ [⟨name, []⟩])
  | added {option : String} (lines : List String)
    (fresh : ∀ s ∈ sections, some s.name = current → option ∉ s.options.map Prod.fst) :
    Effect sections current
      (changeIn current (fun s => { s with options := s.options ++ [(option, lines)] }) sections)

/-- A line has an effect, or it is refused. -/
inductive Takes (sections : List IniSection) (current : Option String) :
    Attempt IniError IniReader → Prop
  | read {later : IniReader} (effect : Effect sections current later.sections) :
    Takes sections current (.ok later)
  | refused (e : IniError) : Takes sections current (refuse e)

namespace IniReader

variable {r : IniReader} {path : Path} {number : Nat}

theorem sections_inCurrent (r : IniReader) (f : IniSection → IniSection) :
    (r.inCurrent f).sections = changeIn r.current f r.sections := rfl

theorem takes_openSection (name : String) :
    Takes r.sections r.current (r.openSection path number name) := by
  unfold openSection
  by_cases known : r.sections.any (·.name = name) = true
  · rw [if_pos known]
    split
    · exact .read .same
    · exact .refused _
  · rw [if_neg known]
    have fresh : name ∉ r.sections.map (·.name) := by simpa using known
    exact .read (.opened fresh)

theorem takes_addOption {sectionName : String} (current : r.current = some sectionName)
    (line : String) (text : List Char) :
    Takes r.sections r.current (r.addOption path number sectionName line text) := by
  unfold addOption
  split
  · exact .read .same
  · dsimp only
    split
    · exact .refused _
    · rename_i unknown
      refine .read ?_
      rw [sections_inCurrent]
      refine .added _ fun s member named listed => unknown ?_
      rw [current, Option.some.injEq] at named
      obtain ⟨option, there, same⟩ := List.mem_map.mp listed
      have twice : s.options.any (·.1 = Text.lower _) = true :=
        List.any_eq_true.mpr ⟨option, there, decide_eq_true same⟩
      exact List.any_eq_true.mpr ⟨s, member, decide_eq_true ⟨named, twice⟩⟩

theorem takes_begin (indent : Nat) (line : String) (text : List Char) :
    Takes r.sections r.current (addText.begin r path number indent line text) := by
  unfold addText.begin
  dsimp only
  split
  · exact takes_openSection (r := { r with indent }) _
  · split
    · exact .refused _
    · rename_i current
      exact takes_addOption (r := { r with indent }) current line text

theorem takes_addLine (line : List Char) :
    Takes r.sections r.current (r.addLine path number line) := by
  unfold addLine
  dsimp only
  split
  · split
    · exact .read (.continued _ _)
    · exact .read .same
  · split
    · exact .read .same
    · unfold addText
      split
      · split
        · exact .read (.continued _ _)
        · exact takes_begin _ _ _
      · exact takes_begin _ _ _

end IniReader

section Distinct

variable {sections later : List IniSection} {current : Option String}

theorem map_name_changeIn {f : IniSection → IniSection} (kept : ∀ s, (f s).name = s.name) :
    (changeIn current f sections).map (·.name) = sections.map (·.name) := by
  unfold changeIn
  rw [List.map_map]
  refine List.map_congr_left fun s _ => ?_
  dsimp only [Function.comp_apply]
  split
  · exact kept s
  · rfl

theorem AreDistinct.changeIn {f : IniSection → IniSection} (distinct : AreDistinct sections)
    (kept : ∀ s, (f s).name = s.name)
    (options : ∀ s ∈ sections, some s.name = current → ((f s).options.map Prod.fst).Nodup) :
    AreDistinct (changeIn current f sections) := by
  constructor
  · rw [map_name_changeIn kept]
    exact distinct.names
  · intro s member
    obtain ⟨old, there, rfl⟩ := List.mem_map.mp member
    split
    · rename_i named
      exact options old there named
    · exact distinct.options old there

/-- What a line makes of distinct sections is distinct. -/
theorem Effect.areDistinct (effect : Effect sections current later)
    (distinct : AreDistinct sections) : AreDistinct later := by
  cases effect with
  | same => exact distinct
  | continued option line =>
    refine distinct.changeIn (fun _ => rfl) fun s member _ => ?_
    have names : (s.options.map fun (name, lines) =>
        if name = option then (name, lines ++ [line]) else (name, lines)).map Prod.fst =
          s.options.map Prod.fst := by
      rw [List.map_map]
      refine List.map_congr_left fun o _ => ?_
      dsimp only [Function.comp_apply]
      split <;> rfl
    rw [names]
    exact distinct.options s member
  | opened fresh =>
    constructor
    · rw [List.map_append, List.map_singleton, ← List.concat_eq_append, List.nodup_concat]
      exact ⟨fresh, distinct.names⟩
    · intro s member
      rcases List.mem_append.mp member with old | new
      · exact distinct.options s old
      · obtain rfl := List.mem_singleton.mp new
        exact List.nodup_nil
  | added lines fresh =>
    refine distinct.changeIn (fun _ => rfl) fun s member named => ?_
    rw [List.map_append, List.map_singleton, ← List.concat_eq_append, List.nodup_concat]
    exact ⟨fresh s member named, distinct.options s member⟩

/-- Lines make distinct sections of distinct ones, or one of them is refused. -/
theorem addLines_cases {r : IniReader} (distinct : AreDistinct r.sections) (path : Path)
    (number : Nat) (lines : List (List Char)) :
    (∃ later, r.addLines path number lines = .ok later ∧ AreDistinct later.sections) ∨
      ∃ e, r.addLines path number lines = refuse e := by
  induction lines generalizing r number with
  | nil => exact .inl ⟨r, rfl, distinct⟩
  | cons line rest ih =>
    rw [IniReader.addLines]
    have taken : Takes r.sections r.current (r.addLine path number line) :=
      IniReader.takes_addLine line
    revert taken
    generalize r.addLine path number line = attempt
    intro taken
    cases taken with
    | read effect => exact ih (effect.areDistinct distinct) (number + 1)
    | refused e => exact .inr ⟨e, rfl⟩

end Distinct

section Files

variable {path : Path} {text : FileText} {sections : List IniSection}

theorem areDistinct_of_readIni (read : readIni path text = .ok sections) :
    AreDistinct sections := by
  have start : AreDistinct ({} : IniReader).sections := ⟨List.nodup_nil, by simp⟩
  rcases addLines_cases start path 1 (fileLines text) with
    ⟨later, lines, distinct⟩ | ⟨e, lines⟩
  · rw [readIni, lines, Result.ok_bind] at read
    split at read
    · cases read
    · split at read
      · cases read
        exact distinct
      · cases read
  · rw [readIni, lines] at read
    cases read

/-- A settings file that is text is read or refused. -/
theorem documented_readIni (readable : text.fault = none) : Documented (readIni path text) := by
  have start : AreDistinct ({} : IniReader).sections := ⟨List.nodup_nil, by simp⟩
  rcases addLines_cases start path 1 (fileLines text) with
    ⟨later, lines, -⟩ | ⟨e, lines⟩
  · rw [readIni, lines, Result.ok_bind, readable]
    dsimp only
    split
    · exact .inl ⟨_, rfl⟩
    · exact .inr ⟨_, rfl⟩
  · exact .inr ⟨e, by rw [readIni, lines]; rfl⟩

end Files

end TableDdl.Settings
