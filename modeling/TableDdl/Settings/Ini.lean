import TableDdl.Failure
import TableDdl.Files.Basic
import TableDdl.Files.Intake
import TableDdl.Text.Blank
import TableDdl.Text.Casing

/-!
# Settings files

A settings file has sections under headers in square brackets, and options with an equals sign
or a colon before their values. A line that is indented more deeply than the option before it
continues the value. Names of options have no case. A section or an option that comes twice ends
the reading at once; lines that are neither headers nor options are collected and refused
together at the end.
-/

namespace TableDdl.Settings

/-- A section of a settings file: its options in order, each with the lines of its value. -/
structure IniSection where
  name : String
  options : List (String × List String) := []
  deriving DecidableEq, Repr

/-- The section whose options hold for all others as well. -/
def defaultSection : String := "DEFAULT"

/-- Why a settings file is refused. -/
inductive IniError where
  /-- An option stands before the first header. -/
  | noHeader (path : Path) (number : Nat) (line : String)
  | duplicateSection (path : Path) (name : String) (number : Nat)
  | duplicateOption (path : Path) (sectionName option : String) (number : Nat)
  /-- Lines are neither headers nor options with a name. -/
  | malformedLines (path : Path) (lines : List (Nat × String))
  deriving DecidableEq, Repr

/-- A path as it is shown in errors. -/
def shownPath (path : Path) : String :=
  "PosixPath(" ++ Text.quoted path.text ++ ")"

/-- The mark of a line, at least two places wide. -/
def lineMark (number : Nat) : String :=
  "[line " ++ (if number < 10 then " " else "") ++ toString number ++ "]"

/-- The text of the error. -/
def IniError.message : IniError → String
  | .noHeader path number line =>
    "File contains no section headers.\nfile: " ++ shownPath path ++ ", line: " ++
      toString number ++ "\n" ++ Text.quoted line
  | .duplicateSection path name number =>
    "While reading from " ++ shownPath path ++ " " ++ lineMark number ++ ": section " ++
      Text.quoted name ++ " already exists"
  | .duplicateOption path sectionName option number =>
    "While reading from " ++ shownPath path ++ " " ++ lineMark number ++ ": option " ++
      Text.quoted option ++ " in section " ++ Text.quoted sectionName ++ " already exists"
  | .malformedLines path lines =>
    "Source contains parsing errors: " ++ shownPath path ++
      String.join (lines.map fun (number, line) =>
        "\n\t" ++ lineMark number ++ ": " ++ Text.quoted line)

/-- How far a file is read: its sections, the name of the current one, the current option if
lines can continue its value, its indentation, and the malformed lines, the latest first. -/
structure IniReader where
  sections : List IniSection := []
  current : Option String := none
  option : Option String := none
  indent : Nat := 0
  malformed : List (Nat × String) := []

namespace IniReader

/-- Change the current section. -/
def inCurrent (r : IniReader) (f : IniSection → IniSection) : IniReader :=
  { r with sections := r.sections.map fun s => if some s.name = r.current then f s else s }

/-- Add a line to the value of an option. -/
def continueOption (r : IniReader) (option line : String) : IniReader :=
  r.inCurrent fun s =>
    { s with options := s.options.map fun (name, lines) =>
        if name = option then (name, lines ++ [line]) else (name, lines) }

/-- The name in the header that a line begins with, if it is not empty: it reaches up to the last
closing bracket. -/
def header? (line : List Char) : Option String :=
  match line with
  | '[' :: rest =>
    match (rest.reverse.dropWhile (· ≠ ']')).tail.reverse with
    | [] => none
    | name => some (String.ofList name)
  | _ => none

/-- Begin a section, or go on with the one for all. -/
def openSection (r : IniReader) (path : Path) (number : Nat) (name : String) :
    Attempt IniError IniReader :=
  if r.sections.any (·.name = name) then
    if name = defaultSection then .ok { r with current := some name, option := none }
    else refuse (.duplicateSection path name number)
  else
    .ok { r with sections := r.sections ++ [⟨name, []⟩], current := some name, option := none }

/-- Whether the character stands between the name of an option and its value. -/
def isDelimiter (c : Char) : Bool :=
  c == '=' || c == ':'

/-- Read the line of an option of the current section. -/
def addOption (r : IniReader) (path : Path) (number : Nat) (sectionName line : String)
    (text : List Char) : Attempt IniError IniReader :=
  match text.dropWhile (!isDelimiter ·) with
  | [] => .ok { r with malformed := (number, line) :: r.malformed }
  | _ :: value =>
    let name := Text.lower (Text.stripEnd (String.ofList (text.takeWhile (!isDelimiter ·))))
    let known := r.sections.any fun s => s.name = sectionName ∧ s.options.any (·.1 = name)
    if known then refuse (.duplicateOption path sectionName name number)
    else
      let malformed := if name = "" then (number, line) :: r.malformed else r.malformed
      let r := { r with malformed, option := if name = "" then none else some name }
      .ok (r.inCurrent fun s =>
        { s with options := s.options ++ [(name, [Text.strip (String.ofList value)])] })

/-- Read a line that is neither empty nor a comment; `text` is the line without the blanks around
it. -/
def addText (r : IniReader) (path : Path) (number indent : Nat) (line : String)
    (text : List Char) : Attempt IniError IniReader :=
  match r.option with
  | some option =>
    if indent > r.indent then .ok (r.continueOption option (String.ofList text))
    else begin
  | none => begin
where
  /-- Read a line that begins something new. -/
  begin : Attempt IniError IniReader :=
    let r := { r with indent }
    match header? text with
    | some name => r.openSection path number name
    | none =>
      match r.current with
      | none => refuse (.noHeader path number line)
      | some sectionName => r.addOption path number sectionName line text

/-- Whether a line without the blanks around it is a comment. -/
def isComment : List Char → Bool
  | c :: _ => c == '#' || c == ';'
  | [] => false

/-- Read a line. An empty one belongs to the value before it, and a comment to nothing. -/
def addLine (r : IniReader) (path : Path) (number : Nat) (line : List Char) :
    Attempt IniError IniReader :=
  let text := Text.dropBlankEnd (line.dropWhile Text.isBlank)
  if text.isEmpty then
    match r.option with
    | some option => .ok (r.continueOption option "")
    | none => .ok r
  else if isComment text then .ok r
  else r.addText path number (line.takeWhile Text.isBlank).length (String.ofList line) text

/-- Read lines, which are counted from `number` on. -/
def addLines (r : IniReader) (path : Path) (number : Nat) :
    List (List Char) → Attempt IniError IniReader
  | [] => .ok r
  | line :: rest => do
    let r ← r.addLine path number line
    r.addLines path (number + 1) rest

end IniReader

/-- The lines of a file, with their ends; what follows the last line end counts if the file is
read to its end. -/
def fileLines (text : FileText) : List (List Char) :=
  let (lines, last) := Text.splitLines text.chars
  lines.map (· ++ ['\n']) ++ (if last.isEmpty || text.fault.isSome then [] else [last])

/-- The sections of a settings file. -/
def readIni (path : Path) (text : FileText) : Attempt IniError (List IniSection) := do
  let r ← IniReader.addLines {} path 1 (fileLines text)
  match text.fault with
  | some f => .error (.fault f)
  | none =>
    if r.malformed.isEmpty then return r.sections
    else refuse (.malformedLines path r.malformed.reverse)

end TableDdl.Settings
