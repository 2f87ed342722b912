import TableDdl.Proofs.Loading.Demands

/-!
# What a file demands

A file with one table makes the demands of its description. A file with a list of tables makes the
demands of all of them, and then demands of one after the other that its name can be written and is
not that of a table before. Any other file is refused for what it is.
-/

namespace TableDdl.Loading

open Demand (silent)

/-- The name that a table gives itself, if it can be written. -/
def writtenName? (v : Value) : Option String :=
  (declaredName v.entries).toOption

/-- What tables demand behind tables of the given names: that their names can be told apart. -/
def distinctDemands (seen : List String) : List Value → List Demand
  | [] => []
  | v :: rest =>
    silent (IsNamed v.entries) :: ⟨∀ name ∈ writtenName? v, name ∉ seen, True⟩ ::
      distinctDemands ((writtenName? v).toList ++ seen) rest

/-- What a file with a value demands. -/
def fileDemands (v : Value) : List Demand :=
  match v with
  | .map entries =>
    match Value.field? entries "tables" with
    | none => tableDemands v
    | some tables => partsDemands tableDemands tables ++ distinctDemands [] (parts tables)
  | _ => [⟨False, True⟩]

theorem checkDistinct_go_decides (place : Place) {tables : List Value} {schemas : List Schema}
    (read : List.Forall₂ (fun v s => table v = .ok s) tables schemas) (seen : List String) :
    Decides (distinctDemands seen tables) (checkDistinct.go place seen schemas) := by
  induction read generalizing seen with
  | nil => exact .granted ()
  | @cons v s tables schemas head _ ih =>
    have called := tableName_of_table head
    have possible : (∃ name, s.tableName = .ok name) ↔ IsNamed v.entries := by
      rw [called]
      exact isNamed_iff
    refine .lift_bind (x := s.tableName) possible fun name written => ?_
    have known : writtenName? v = some name := by
      rw [writtenName?, ← called, written]
      rfl
    rw [known]
    refine .cons (fun fresh => ?_) fun old => ?_
    · rw [if_neg (mt List.contains_iff_mem.mp (fresh name rfl))]
      exact ih (name :: seen)
    · have there : name ∈ seen := by simpa using old
      rw [if_pos (List.contains_iff_mem.mpr there)]
      exact .refuse _

theorem file_of_no_tables {path : Path} {bytes : List UInt8} {entries : List (Value × Value)}
    (read : fileValue path bytes = .ok (.map entries))
    (none : Value.field? entries "tables" = none) :
    file path bytes = (fun s => [s]) <$> table (.map entries) := by
  rw [file, read, Result.ok_bind]
  simp only [none]
  rfl

/-- Loading a file ends as the demands of its value say. -/
theorem file_decides {path : Path} {bytes : List UInt8} {v : Value}
    (read : fileValue path bytes = .ok v) : Decides (fileDemands v) (file path bytes) := by
  rw [file, read, Result.ok_bind]
  cases v with
  | map entries =>
    unfold fileDemands
    cases listed : Value.field? entries "tables" with
    | none =>
      simp only [listed]
      exact (table_decides (.map entries)).bind_ok fun s => [s]
    | some tables =>
      simp only [listed]
      refine .lift_bind exists_elements_iff fun items gone => ?_
      rw [parts_of_ok gone]
      refine (Decides.mapM table_decides items).bind fun schemas each => ?_
      exact (checkDistinct_go_decides _ (Result.mapM_eq_ok_iff.mp each) []).bind_ok fun _ => schemas
  | _ => exact .ends not_false (.refuse _)

end TableDdl.Loading
