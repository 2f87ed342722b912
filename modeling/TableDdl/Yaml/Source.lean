import TableDdl.Files.Intake
import TableDdl.Yaml.Cursor

/-!
# Sources

A document is read portion by portion, and a portion is not used before it was read as a whole and
has none but characters that may stand in a document. What comes before the first portion that
fails can be divided into tokens; the failure counts as soon as more is needed.
-/

namespace TableDdl.Yaml

/-- How many characters are read at a time. -/
def readSize : Nat := 4096

/-- How many characters the first portion has. The later ones have as many as are read at a
time. -/
def firstPortion : Nat := 2 * readSize

/-- A text as far as it can be used. One that can be used to its end has the end mark behind it;
any other text ends by a failure. -/
structure Source where
  chars : List Char
  ending : Option (Failure Problem)

namespace Source

/-- Use the characters of a file, portion by portion: the next portion has the given size, and at
most `bound` of them follow. -/
def ofPortions (fault : Option Fault) : Nat → Nat → List Char → Source
  | 0, _, _ => ⟨[endMark], none⟩
  | bound + 1, size, cs =>
    let portion := cs.take size
    let isLast := portion.length < size
    match fault.filter fun _ => isLast with
    | some f => ⟨[], some (.fault f)⟩
    | none =>
      match portion.find? (!isAllowed ·) with
      | some c => ⟨[], some (.refused (.character c.toNat))⟩
      | none =>
        if isLast then ⟨portion ++ [endMark], none⟩
        else
          let later := ofPortions fault bound readSize (cs.drop size)
          { later with chars := portion ++ later.chars }

/-- The source of the bytes of a file. -/
def ofBytes (bytes : List UInt8) : Source :=
  let text := FileText.ofReads readSize bytes
  ofPortions text.fault (text.chars.length + 1) firstPortion text.chars

/-- What is met where the characters end. -/
def failure (s : Source) : Failure Problem :=
  s.ending.getD (.refused .cutOff)

end Source

end TableDdl.Yaml
