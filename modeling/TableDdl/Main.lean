import TableDdl.Cli.Run

/-!
# The program

Looks up what a command line can make use of (the variables of the environment, the settings file
and the descriptions), hands it to the library, and prints what comes of it.
-/

namespace TableDdl.Main

/-- The code by which a lookup reports that a name is too long. -/
def nameTooLongCode : UInt32 := 36

/-- What stands at a path. -/
def entryAt (path : Path) : IO Entry := do
  let place := (← IO.currentDir) / path.text
  match ← place.metadata.toBaseIO with
  | .error (.invalidArgument _ code _) =>
    return if code = nameTooLongCode then .nameTooLong else .missing
  | .error _ => return .missing
  | .ok found =>
    if found.type == .dir then return .directory ((← place.readDir).toList.map (·.fileName))
    else return .file (← IO.FS.readBinFile place).toList

/-- What is known of the files. -/
abbrev Known := List (Path × Entry)

/-- The lookup in what is known. -/
def Known.files (known : Known) : Files := fun path =>
  (known.lookup path).getD .missing

/-- Look up a path. -/
def Known.add (known : Known) (path : Path) : IO Known :=
  return (path, ← entryAt path) :: known

/-- The variables of the environment. -/
def environment : IO Environment := do
  let values ← Settings.variableNames.mapM fun name => return (name, ← IO.getEnv name)
  return fun name => (values.lookup name).join

/-- Look up the files that an invocation reads. -/
def survey (env : Environment) (i : Cli.Invocation) : IO Known := do
  let known ← Known.add [] (Settings.filePath env i.config).1
  match Settings.load known.files env i.overrides with
  | .error _ => return known
  | .ok settings =>
    let path := i.descriptions settings
    let known ← known.add path
    match known.files path with
    | .directory names =>
      (names.filter Loading.isYamlName).foldlM (fun known name => known.add (path.join name)) known
    | _ => return known

end TableDdl.Main

/-- Run the command line. A fault is printed as it is, and counts as a failure. -/
def main (arguments : List String) : IO UInt32 := do
  let env ← TableDdl.Main.environment
  let known ←
    match TableDdl.Cli.readArguments arguments with
    | .run i => TableDdl.Main.survey env i
    | _ => pure []
  let outcome := TableDdl.Cli.run .utf8 known.files env arguments
  IO.print outcome.output
  IO.eprint outcome.errors
  match outcome.status with
  | .ok status => return status.toUInt32
  | .error fault =>
    IO.eprintln fault.message
    return 1
