import TableDdl.Cli.Run
import TableDdl.Proofs.Result

/-!
# Commands

Where nothing can be loaded from a path, all commands end alike: with what loading says, and before
anything is printed.
-/

namespace TableDdl.Cli

variable {files : Files} {path : Path} {settings : Settings}

/-- Where the descriptions are refused, every command says why, prints nothing else and ends with
status one. -/
theorem perform_of_refused {e : LoadError}
    (refused : Loading.load files path settings.tablePrefix = refuse e) (c : Command)
    (out : Stdout) :
    ∃ kind, perform c out files path settings = .ended 1 "" (complaint kind e.message) := by
  cases c with
  | validate => exact ⟨"Validation error", by rw [perform, validate, refused]; rfl⟩
  | create | drop => exact ⟨"Error", by rw [perform, render, refused]; rfl⟩

/-- Where a fault passes through loading, it passes through every command. -/
theorem perform_of_fault {f : Fault}
    (faulted : Loading.load files path settings.tablePrefix = .error (.fault f)) (c : Command)
    (out : Stdout) : perform c out files path settings = .faulted f "" "" := by
  cases c <;> simp only [perform, validate, render, faulted]

end TableDdl.Cli
