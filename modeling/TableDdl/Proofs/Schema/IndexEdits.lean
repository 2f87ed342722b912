import TableDdl.Proofs.Result
import TableDdl.Schema.Index
import Mathlib.Data.List.Induction

/-!
# Edits of an index entry

The kind of an index entry depends on the whole history of its edits. What counts is the last edit
that enables a kind, and whether this very kind was disabled later. The edits that disable another
kind can be left out.
-/

namespace TableDdl

namespace IndexEdit

/-- The kind that an edit enables, whatever the kind was before. -/
def enabled? : IndexEdit → Option IndexKind
  | .kind k => some k
  | .primary true => some .primary
  | .unique true => some .unique
  | .fulltext true => some .fulltext
  | .primary false | .unique false | .fulltext false => none

/-- The kind that an edit disables. -/
def disabled? : IndexEdit → Option IndexKind
  | .primary false => some .primary
  | .unique false => some .unique
  | .fulltext false => some .fulltext
  | .kind _ | .primary true | .unique true | .fulltext true => none

/-- There is no edit that disables plain entries. -/
theorem disabled?_ne_plain (e : IndexEdit) : e.disabled? ≠ some .plain := by
  cases e with
  | kind k => simp [disabled?]
  | primary enabled | unique enabled | fulltext enabled => cases enabled <;> simp [disabled?]

theorem enabled?_of_disabled? {e : IndexEdit} {k : IndexKind} (disables : e.disabled? = some k) :
    e.enabled? = none := by
  cases e with
  | kind _ => cases disables
  | primary enabled | unique enabled | fulltext enabled =>
    cases enabled with
    | true => cases disables
    | false => rfl

end IndexEdit

namespace Index

/-- The last of the edits that enable a kind enables this one, and others come after it. -/
structure LastEnables (edits : List IndexEdit) (k : IndexKind) (after : List IndexEdit) : Prop where
  split : ∃ before e, edits = before ++ e :: after ∧ e.enabled? = some k
  quiet : ∀ later ∈ after, later.enabled? = none

/-- The kind that the edits of a new entry lead to. -/
inductive Settles (edits : List IndexEdit) : IndexKind → Prop
  /-- No edit enables a kind. -/
  | untouched (unenabled : ∀ e ∈ edits, e.enabled? = none) : Settles edits .plain
  /-- The kind that was enabled last was disabled later. -/
  | disabled {k : IndexKind} {after : List IndexEdit} (last : LastEnables edits k after)
      (disables : ∃ later ∈ after, later.disabled? = some k) : Settles edits .plain
  /-- The kind that was enabled last was not disabled later. -/
  | enabled {k : IndexKind} {after : List IndexEdit} (last : LastEnables edits k after)
      (kept : ∀ later ∈ after, later.disabled? ≠ some k) : Settles edits k

namespace LastEnables

variable {edits after : List IndexEdit} {k : IndexKind}

theorem concat (edits : List IndexEdit) {e : IndexEdit} (enables : e.enabled? = some k) :
    LastEnables (edits ++ [e]) k [] :=
  ⟨⟨edits, e, rfl, enables⟩, by simp⟩

theorem append {more : List IndexEdit} (last : LastEnables edits k after)
    (quiet : ∀ later ∈ more, later.enabled? = none) :
    LastEnables (edits ++ more) k (after ++ more) := by
  obtain ⟨⟨before, e, rfl, enables⟩, since⟩ := last
  have longer : before ++ e :: after ++ more = before ++ e :: (after ++ more) := by
    rw [List.append_assoc, List.cons_append]
  exact ⟨⟨before, e, longer, enables⟩, List.forall_mem_append.mpr ⟨since, quiet⟩⟩

end LastEnables

variable {i j : Index} {e : IndexEdit} {edits : List IndexEdit} {k : IndexKind}

/-- To switch a kind off makes an entry of this kind plain, and leaves any other as it is. -/
theorem kind_toggle_false (i : Index) (k : IndexKind) :
    (i.toggle k false).kind = if some k = some i.kind then .plain else i.kind := by
  by_cases current : i.kind = k
  · simp [toggle, current]
  · have other : some k ≠ some i.kind := fun same => current (Option.some.inj same).symm
    rw [if_neg other]
    simp [toggle, current]

/-- An edit sets the kind that it enables, takes away the one that it disables, and does nothing
else to the kind. -/
theorem kind_edit (i : Index) (e : IndexEdit) :
    (i.edit e).kind = e.enabled?.getD (if e.disabled? = some i.kind then .plain else i.kind) := by
  cases e with
  | kind k => rfl
  | primary enabled | unique enabled | fulltext enabled =>
    cases enabled with
    | true => rfl
    | false => exact kind_toggle_false i _

theorem kind_edit_of_enabled (enables : e.enabled? = some k) : (i.edit e).kind = k := by
  rw [kind_edit, enables]
  rfl

theorem kind_edit_of_disabled (disables : e.disabled? = some i.kind) :
    (i.edit e).kind = .plain := by
  rw [kind_edit, IndexEdit.enabled?_of_disabled? disables, Option.getD_none, if_pos disables]

theorem kind_edit_of_kept (unenabled : e.enabled? = none) (kept : e.disabled? ≠ some i.kind) :
    (i.edit e).kind = i.kind := by
  rw [kind_edit, unenabled, Option.getD_none, if_neg kept]

theorem eq_of_parts (keyName : i.keyName = j.keyName) (column : i.column = j.column)
    (kind : i.kind = j.kind) : i = j := by
  cases i
  cases j
  rw [mk.injEq]
  exact ⟨keyName, column, kind⟩

theorem editAll_append (i : Index) (first second : List IndexEdit) :
    i.editAll (first ++ second) = (i.editAll first).editAll second :=
  List.foldl_append

/-- A kind stays if no edit enables another one and no edit disables it. -/
theorem kind_editAll_of_kept (quiet : ∀ e ∈ edits, e.enabled? = none)
    (kept : ∀ e ∈ edits, e.disabled? ≠ some i.kind) : (i.editAll edits).kind = i.kind := by
  induction edits generalizing i with
  | nil => rfl
  | cons e rest ih =>
    obtain ⟨quietFirst, quietRest⟩ := List.forall_mem_cons.mp quiet
    obtain ⟨keptFirst, keptRest⟩ := List.forall_mem_cons.mp kept
    have first : (i.edit e).kind = i.kind := kind_edit_of_kept quietFirst keptFirst
    have later : ((i.edit e).editAll rest).kind = (i.edit e).kind := by
      rw [← first] at keptRest
      exact ih quietRest keptRest
    exact later.trans first

/-- A plain entry stays plain until an edit enables a kind. -/
theorem kind_editAll_of_plain (plain : i.kind = .plain) (quiet : ∀ e ∈ edits, e.enabled? = none) :
    (i.editAll edits).kind = .plain := by
  have kept : ∀ e ∈ edits, e.disabled? ≠ some i.kind := by
    intro e _
    rw [plain]
    exact e.disabled?_ne_plain
  exact (kind_editAll_of_kept quiet kept).trans plain

/-- A kind that is disabled is gone until an edit enables one. -/
theorem kind_editAll_of_disabled (quiet : ∀ e ∈ edits, e.enabled? = none)
    (disables : ∃ e ∈ edits, e.disabled? = some i.kind) : (i.editAll edits).kind = .plain := by
  induction edits generalizing i with
  | nil =>
    obtain ⟨e, member, -⟩ := disables
    cases member
  | cons e rest ih =>
    obtain ⟨quietFirst, quietRest⟩ := List.forall_mem_cons.mp quiet
    by_cases now : e.disabled? = some i.kind
    · have gone : (i.edit e).kind = .plain := kind_edit_of_disabled now
      have later : ((i.edit e).editAll rest).kind = .plain := kind_editAll_of_plain gone quietRest
      exact later
    · have first : (i.edit e).kind = i.kind := kind_edit_of_kept quietFirst now
      have later : ∃ other ∈ rest, other.disabled? = some (i.edit e).kind := by
        obtain ⟨other, member, same⟩ := disables
        rcases List.mem_cons.mp member with rfl | behind
        · exact absurd same now
        · exact ⟨other, behind, first ▸ same⟩
      exact ih quietRest later

theorem kind_editAll_of_settles (plain : i.kind = .plain) (settles : Settles edits k) :
    (i.editAll edits).kind = k := by
  have cut {before after : List IndexEdit} {e : IndexEdit} :
      i.editAll (before ++ e :: after) = ((i.editAll before).edit e).editAll after :=
    editAll_append i before (e :: after)
  cases settles with
  | untouched unenabled => exact kind_editAll_of_plain plain unenabled
  | @disabled k after last disables =>
    obtain ⟨⟨before, e, rfl, enables⟩, quiet⟩ := last
    have set : ((i.editAll before).edit e).kind = k := kind_edit_of_enabled enables
    rw [cut]
    exact kind_editAll_of_disabled quiet (set ▸ disables)
  | @enabled _ after last kept =>
    obtain ⟨⟨before, e, rfl, enables⟩, quiet⟩ := last
    have set : ((i.editAll before).edit e).kind = k := kind_edit_of_enabled enables
    rw [cut]
    exact (kind_editAll_of_kept quiet (set ▸ kept)).trans set

/-- One more edit enables a kind anew, or takes away the kind that the others lead to if it disables
this very kind. -/
theorem Settles.concat (settles : Settles edits k) (e : IndexEdit) :
    Settles (edits ++ [e]) (e.enabled?.getD (if e.disabled? = some k then .plain else k)) := by
  cases enables : e.enabled? with
  | some new => exact .enabled (.concat edits enables) (by simp)
  | none =>
    have quiet : ∀ later ∈ [e], later.enabled? = none := List.forall_mem_singleton.mpr enables
    rw [Option.getD_none]
    cases settles with
    | untouched unenabled =>
      rw [if_neg e.disabled?_ne_plain]
      exact .untouched (List.forall_mem_append.mpr ⟨unenabled, quiet⟩)
    | @disabled k after last disables =>
      obtain ⟨later, member, same⟩ := disables
      rw [if_neg e.disabled?_ne_plain]
      exact .disabled (last.append quiet) ⟨later, List.mem_append_left [e] member, same⟩
    | @enabled _ after last kept =>
      by_cases now : e.disabled? = some k
      · have there : e ∈ after ++ [e] := List.mem_append_right after List.mem_cons_self
        rw [if_pos now]
        exact .disabled (last.append quiet) ⟨e, there, now⟩
      · have keptStill : ∀ later ∈ after ++ [e], later.disabled? ≠ some k :=
          List.forall_mem_append.mpr ⟨kept, List.forall_mem_singleton.mpr now⟩
        rw [if_neg now]
        exact .enabled (last.append quiet) keptStill

theorem settles_editAll (plain : i.kind = .plain) (edits : List IndexEdit) :
    Settles edits (i.editAll edits).kind := by
  induction edits using List.reverseRecOn with
  | nil =>
    have new : (i.editAll []).kind = .plain := plain
    rw [new]
    exact .untouched (by simp)
  | append_singleton edits e ih =>
    have step : i.editAll (edits ++ [e]) = (i.editAll edits).edit e := editAll_append i edits [e]
    rw [step, kind_edit]
    exact ih.concat e

/-- An entry is plain, or it has the kind that was enabled last. -/
theorem plain_or_lastEnables (plain : i.kind = .plain) (edits : List IndexEdit) :
    (i.editAll edits).kind = .plain ∨ ∃ after, LastEnables edits (i.editAll edits).kind after := by
  have settles := settles_editAll plain edits
  generalize (i.editAll edits).kind = k at settles
  cases settles with
  | untouched _ => exact .inl rfl
  | disabled _ _ => exact .inl rfl
  | enabled last _ => exact .inr ⟨_, last⟩

/-- What kind edits lead to depends on nothing but the kind from before. -/
theorem kind_editAll_congr (same : i.kind = j.kind) (edits : List IndexEdit) :
    (i.editAll edits).kind = (j.editAll edits).kind := by
  induction edits generalizing i j with
  | nil => exact same
  | cons e rest ih =>
    have first : (i.edit e).kind = (j.edit e).kind := by
      rw [kind_edit, kind_edit, same]
    exact ih first

/-- Once a kind is enabled, it makes no difference what the kind was before. -/
theorem kind_editAll_of_enabled (enables : ∃ e ∈ edits, e.enabled? ≠ none) (i j : Index) :
    (i.editAll edits).kind = (j.editAll edits).kind := by
  obtain ⟨e, member, enabling⟩ := enables
  obtain ⟨k, enabled⟩ := Option.ne_none_iff_exists'.mp enabling
  obtain ⟨before, after, rfl⟩ := List.append_of_mem member
  have first : ((i.editAll before).edit e).kind = ((j.editAll before).edit e).kind :=
    (kind_edit_of_enabled enabled).trans (kind_edit_of_enabled enabled).symm
  rw [editAll_append, editAll_append]
  exact kind_editAll_congr first after

/-- An edit that disables another kind than the one that was enabled last does not disable the kind
of the entry. -/
theorem disabled?_ne_of_not_lastEnables (plain : i.kind = .plain) (disables : e.disabled? = some k)
    (other : ∀ after, ¬ LastEnables edits k after) : e.disabled? ≠ some (i.editAll edits).kind := by
  intro current
  rcases plain_or_lastEnables plain edits with still | ⟨after, last⟩
  · rw [still] at current
    exact e.disabled?_ne_plain current
  · have same : (i.editAll edits).kind = k := Option.some.inj (current.symm.trans disables)
    rw [same] at last
    exact other after last

/-- An edit that disables another kind than the one that is enabled last can be left out. -/
theorem kind_editAll_leaveOut {before after : List IndexEdit} (plain : i.kind = .plain)
    (disables : e.disabled? = some k)
    (other : ∀ since, ¬ LastEnables (before ++ e :: after) k since) :
    (i.editAll (before ++ e :: after)).kind = (i.editAll (before ++ after)).kind := by
  rw [editAll_append, editAll_append]
  by_cases enables : ∃ later ∈ after, later.enabled? ≠ none
  · exact kind_editAll_of_enabled enables _ _
  · -- Nothing is enabled after this edit, so what was enabled last was enabled before it.
    have unenabled : e.enabled? = none := IndexEdit.enabled?_of_disabled? disables
    have unenabledLater : ∀ later ∈ after, later.enabled? = none := by
      intro later member
      by_contra enabling
      exact enables ⟨later, member, enabling⟩
    have quiet : ∀ later ∈ e :: after, later.enabled? = none :=
      List.forall_mem_cons.mpr ⟨unenabled, unenabledLater⟩
    have kept : e.disabled? ≠ some (i.editAll before).kind :=
      disabled?_ne_of_not_lastEnables plain disables fun since last => other _ (last.append quiet)
    exact kind_editAll_congr (kind_edit_of_kept unenabled kept) after

theorem new_of_made {column keyName : Value} (made : of column keyName = .ok i) :
    i.kind = .plain ∧ i.column = column := by
  unfold of at made
  split at made
  · cases made
    exact ⟨rfl, rfl⟩
  · obtain ⟨text, -, rest⟩ := Result.bind_eq_ok_iff.mp made
    cases rest
    exact ⟨rfl, rfl⟩

/-- The kind of a new index entry after any edits is the one that was enabled last, unless an edit
after that disables this very kind; then, and if no kind was enabled, the entry is plain. An edit
that disables another kind than the one that is enabled last can be left out. The name of the index
and the column stay as they are. -/
theorem editAll_settles {column keyName : Value} (made : of column keyName = .ok i)
    (edits : List IndexEdit) :
    (∀ k, (i.editAll edits).kind = k ↔ Settles edits k) ∧
      (∀ before e after k, edits = before ++ e :: after → e.disabled? = some k →
        (∀ since, ¬ LastEnables edits k since) → i.editAll edits = i.editAll (before ++ after)) ∧
      (i.editAll edits).keyName = i.keyName ∧ (i.editAll edits).column = column := by
  obtain ⟨plain, on⟩ := new_of_made made
  refine ⟨?kind, ?leaveOut, keyName_editAll i edits, (column_editAll i edits).trans on⟩
  case kind =>
    intro k
    constructor
    · rintro rfl
      exact settles_editAll plain edits
    · exact kind_editAll_of_settles plain
  case leaveOut =>
    rintro before e after k rfl disables other
    apply eq_of_parts
    · rw [keyName_editAll, keyName_editAll]
    · rw [column_editAll, column_editAll]
    · exact kind_editAll_leaveOut plain disables other

/-- Edits that make an entry unique, then disable this kind, and enable it again. -/
def uniqueAgain : List IndexEdit :=
  [.unique true, .primary false, .unique false, .unique true, .fulltext false]

/-- The kind that was enabled again stays, and the last edit can be left out. -/
theorem editAll_settles_uniqueAgain :
    of (.str "a") .null = .ok { keyName := .str "ix_a", column := .str "a" } ∧
      Settles uniqueAgain .unique ∧
      (∀ since, ¬ LastEnables uniqueAgain .fulltext since) ∧
      Index.editAll { keyName := .str "ix_a", column := .str "a" } uniqueAgain =
        Index.editAll { keyName := .str "ix_a", column := .str "a" }
          [.unique true, .primary false, .unique false, .unique true] := by
  have made : of (.str "a") .null = .ok { keyName := .str "ix_a", column := .str "a" } := rfl
  obtain ⟨kind, leaveOut, -, -⟩ := editAll_settles made uniqueAgain
  have other : ∀ since, ¬ LastEnables uniqueAgain .fulltext since := by
    intro since last
    obtain ⟨⟨before, e, split, enables⟩, -⟩ := last
    have member : e ∈ uniqueAgain := by
      rw [split]
      exact List.mem_append_right before List.mem_cons_self
    have never : ∀ e ∈ uniqueAgain, e.enabled? ≠ some .fulltext := by decide
    exact never e member enables
  refine ⟨made, (kind .unique).mp rfl, other, ?_⟩
  exact leaveOut [.unique true, .primary false, .unique false, .unique true] (.fulltext false) []
    .fulltext rfl rfl other

end Index

end TableDdl
