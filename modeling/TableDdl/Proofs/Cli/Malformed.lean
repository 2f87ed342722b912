import TableDdl.Files.Tree
import TableDdl.Proofs.Cli.Commands
import TableDdl.Proofs.Loading.FileDemands

/-!
# Malformed descriptions

A malformed description is refused for a reason, and a command that meets one ends with status one,
as long as the first demand that is not met is a reported one. Otherwise a fault passes through.
-/

namespace TableDdl.Cli

open Loading (fileValue fileDemands tableDemands)

variable {files : Files} {path : Path} {bytes : List UInt8} {settings : Settings}

theorem load_file (stands : files path = .file bytes) (tablePrefix : Option String) :
    Loading.load files path tablePrefix =
      (List.map (·.withDefaultPrefix (tablePrefix.getD "")) <$> Loading.file path bytes) := by
  rw [Loading.load, stands]
  rfl

/-- A command on a file ends as the first unmet demand says: with status one if it is reported, and
otherwise by a fault. Nothing is printed on either way. -/
theorem perform_of_firstUnmet {v : Value} (stands : files path = .file bytes)
    (read : fileValue path bytes = .ok v) {d : Demand} (first : FirstUnmet (fileDemands v) d)
    (settings : Settings) (c : Command) (out : Stdout) :
    (perform c out files path settings).output = "" ∧
      (d.reported → (perform c out files path settings).status = .ok 1) ∧
      (¬ d.reported → ∃ f, (perform c out files path settings).status = .error f) := by
  cases (Loading.file_decides read).reports_of_firstUnmet first with
  | refused reason holds same =>
    have refused : Loading.load files path settings.tablePrefix = refuse reason := by
      rw [load_file stands, same]
      rfl
    obtain ⟨kind, ended⟩ := perform_of_refused refused c out
    rw [ended]
    exact ⟨rfl, fun _ => rfl, fun fails => absurd holds fails⟩
  | faulted f fails same =>
    have faulted : Loading.load files path settings.tablePrefix = .error (.fault f) := by
      rw [load_file stands, same]
      rfl
    rw [perform_of_fault faulted c out]
    exact ⟨rfl, fun holds => absurd holds fails, fun _ => ⟨f, rfl⟩⟩

/-- The description of a table, and a file that holds it, are read if all demands are met. They
are refused for a reason exactly if the first demand that is not met is a reported one, and exactly
then every command ends with status one. Nothing else than a refusal or a fault comes of a demand
that is not met, and no command prints anything then. -/
theorem malformed_documented_iff (v : Value) :
    ((∃ s, Loading.table v = .ok s) ↔ ∀ d ∈ tableDemands v, d.met) ∧
      (Documented (Loading.table v) ↔ ∀ d, FirstUnmet (tableDemands v) d → d.reported) ∧
      ∀ (files : Files) (path : Path) (bytes : List UInt8) (settings : Settings),
        files path = .file bytes → fileValue path bytes = .ok v →
          ((∃ schemas, Loading.file path bytes = .ok schemas) ↔ ∀ d ∈ fileDemands v, d.met) ∧
            (Documented (Loading.file path bytes) ↔
              ∀ d, FirstUnmet (fileDemands v) d → d.reported) ∧
            ∀ (c : Command) (out : Stdout) (d : Demand), FirstUnmet (fileDemands v) d →
              (perform c out files path settings).output = "" ∧
                (d.reported → (perform c out files path settings).status = .ok 1) ∧
                (¬ d.reported → ∃ f, (perform c out files path settings).status = .error f) := by
  refine ⟨(Loading.table_decides v).exists_ok_iff, (Loading.table_decides v).documented_iff, ?_⟩
  intro files path bytes settings stands read
  exact ⟨(Loading.file_decides read).exists_ok_iff, (Loading.file_decides read).documented_iff,
    fun c out d first => perform_of_firstUnmet stands read first settings c out⟩

/-- The bytes of a file with a column of infinite length. -/
def infiniteLength : List UInt8 :=
  "table: t\ncolumns:\n- name: a\n  type: int\n  length: .inf\n".toUTF8.toList

/-- The directory with this file. -/
def infiniteLengthFiles : Files :=
  FileTree.lookup { files := [(["t.yaml"], infiniteLength)] }

theorem infiniteLengthFiles_file :
    infiniteLengthFiles (Path.ofText "t.yaml") = .file infiniteLength := by
  decide +kernel

theorem exists_fileValue_infiniteLength :
    ∃ v, fileValue (Path.ofText "t.yaml") infiniteLength = .ok v ∧
      Loading.table v = .error (.fault .infiniteInteger) := by
  decide +kernel

theorem malformed_documented_iff_infiniteLength :
    infiniteLengthFiles (Path.ofText "t.yaml") = .file infiniteLength ∧
      ∃ v, fileValue (Path.ofText "t.yaml") infiniteLength = .ok v ∧
        (Documented (Loading.table v) ↔ ∀ d, FirstUnmet (tableDemands v) d → d.reported) ∧
        (Documented (Loading.file (Path.ofText "t.yaml") infiniteLength) ↔
          ∀ d, FirstUnmet (fileDemands v) d → d.reported) := by
  obtain ⟨v, read, -⟩ := exists_fileValue_infiniteLength
  obtain ⟨-, table, file⟩ := malformed_documented_iff v
  obtain ⟨-, documented, -⟩ := file _ _ _ {} infiniteLengthFiles_file read
  exact ⟨infiniteLengthFiles_file, v, read, table, documented⟩

/-- The infinite length is not reported as one that is no whole number: a fault passes through the
reading of the table, the loading of the file, and every command. -/
theorem not_documented_infiniteLength :
    ∃ v, fileValue (Path.ofText "t.yaml") infiniteLength = .ok v ∧
      ¬ Documented (Loading.table v) ∧
      ¬ Documented (Loading.file (Path.ofText "t.yaml") infiniteLength) ∧
      ∀ c out, (perform c out infiniteLengthFiles (Path.ofText "t.yaml") {}).status =
        .error .infiniteInteger := by
  obtain ⟨v, read, ofTable⟩ := exists_fileValue_infiniteLength
  have ofFile : Loading.file (Path.ofText "t.yaml") infiniteLength =
      .error (.fault .infiniteInteger) := by
    decide +kernel
  refine ⟨v, read, not_documented_of_fault ofTable, not_documented_of_fault ofFile, fun c out => ?_⟩
  have loaded : Loading.load infiniteLengthFiles (Path.ofText "t.yaml") none =
      .error (.fault .infiniteInteger) := by
    rw [load_file infiniteLengthFiles_file, ofFile]
    rfl
  rw [perform_of_fault loaded]
  rfl

end TableDdl.Cli
