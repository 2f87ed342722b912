import TableDdl.Text.CaseTable

/-!
# Upper and lower case

Case conversion of whole texts. A letter may grow into several characters, and a capital sigma
becomes the final form exactly when it ends a word.
-/

namespace TableDdl.Text

/-- The characters that a table of runs and a table of expansions give for one character. -/
def convertCase (runs : Array CaseRun) (expansions : Array (Nat × List Nat)) (c : Char) :
    List Char :=
  match expansions.find? fun entry => entry.1 == c.toNat with
  | some entry => entry.2.map Char.ofNat
  | none => [((runs.findSome? fun run => run.partner? c.toNat).map Char.ofNat).getD c]

/-- The upper-case form of a character. -/
def upperChar (c : Char) : List Char :=
  if c.toNat < 128 then [c.toUpper] else convertCase upperRuns upperExpansions c

/-- The lower-case form of a character, apart from its place in a word. -/
def lowerChar (c : Char) : List Char :=
  if c.toNat < 128 then [c.toLower] else convertCase lowerRuns lowerExpansions c

/-- Whether the first character that is not skipped has a case. -/
def meetsCased (cs : List Char) : Bool :=
  match cs.dropWhile (CodeRange.holds caseIgnorableRanges) with
  | [] => false
  | c :: _ => CodeRange.holds casedRanges c

/-- Lower case of the rest of a text, `before` being what precedes it in reverse. -/
def lowerFrom (before : List Char) : List Char → List Char
  | [] => []
  | c :: rest =>
    let lowered :=
      if c = 'Σ' then
        if meetsCased before && !meetsCased rest then ['ς'] else ['σ']
      else
        lowerChar c
    lowered ++ lowerFrom (c :: before) rest

/-- A text in upper case. -/
def upper (s : String) : String :=
  String.ofList (s.toList.flatMap upperChar)

/-- A text in lower case. -/
def lower (s : String) : String :=
  String.ofList (lowerFrom [] s.toList)

end TableDdl.Text
