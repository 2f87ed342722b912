import TableDdl.Fault
import TableDdl.Number.Binary64
import TableDdl.Text.Lines
import TableDdl.Text.Utf8

/-!
# Taking in a file

A file arrives in chunks of bytes, which are read as UTF-8 text with unified line ends. A character
that a chunk cuts off is completed by the next chunk, and so is the pair of a carriage return and
a line feed. A chunk with bytes that are no text is a fault and delivers nothing, and the places
in the fault are counted from the first byte that was not used up before.
-/

namespace TableDdl

/-- Bytes that are not text, as a fault. -/
def Text.Utf8.Error.fault : Text.Utf8.Error → Fault
  | .invalidStart byte place => .undecodable byte place place "invalid start byte"
  | .invalidContinuation byte place seen =>
    .undecodable byte place (place + seen - 1) "invalid continuation byte"
  | .truncated byte seen => .undecodable byte 0 (seen - 1) "unexpected end of data"

/-- What can be read of a file: its characters, and the fault that ends it early. -/
structure FileText where
  chars : List Char
  fault : Option Fault

/-- Put characters in front of what can be read of the rest of a file. -/
def FileText.prepend (chars : List Char) (text : FileText) : FileText :=
  { text with chars := chars ++ text.chars }

/-- The least number of bytes that are asked for at a time. -/
def leastChunk : Nat := 8192

/-- How far a file has arrived: the bytes that are still to come, those of a character that is not
complete yet, whether a carriage return waits for what follows it, and how many bytes and
characters the last chunk had. -/
structure Intake where
  left : List UInt8
  carry : List UInt8 := []
  heldReturn : Bool := false
  lastBytes : Nat := 0
  lastChars : Nat := 0

namespace Intake

/-- Whether nothing is left to come. -/
def isOver (i : Intake) : Bool :=
  i.left.isEmpty

/-- How many bytes are asked for when so many characters are wanted: as many as the last chunk
took for that many, if it took more than one byte for a character. -/
def chunkSize (i : Intake) (wanted : Nat) : Nat :=
  let ratio := Binary64.ofRatio false i.lastBytes (max 1 i.lastChars)
  let factor := if i.lastChars ≤ i.lastBytes ∧ 0 < i.lastChars then ratio else .ofInt 1
  max leastChunk (((factor.mul (.ofInt wanted)).truncate?.getD 0).toNat)

/-- Deliver the characters of the next `size` bytes, of which `carry` are left over. A carriage
return at the end is held back unless nothing was left to come. -/
def deliver (i : Intake) (size : Nat) (chars : List Char) (carry : List UInt8) :
    List Char × Intake :=
  let released := i.heldReturn && (!chars.isEmpty || i.isOver)
  let chars := if released then '\r' :: chars else chars
  let holds := chars.getLast? == some '\r' && !i.isOver
  let shown := Text.unifyLineEnds (if holds then chars.dropLast else chars)
  (shown, {
    left := i.left.drop size
    carry
    heldReturn := holds || (i.heldReturn && !released)
    lastBytes := min size i.left.length
    lastChars := shown.length })

/-- Take in the next `size` bytes, or find that nothing is left to come. -/
def next (i : Intake) (size : Nat) : Except Fault (List Char × Intake) :=
  let bytes := i.carry ++ i.left.take size
  let decoding := Text.Utf8.decode bytes
  match decoding.failure with
  | none => .ok (i.deliver size decoding.chars [])
  | some (.truncated byte seen) =>
    if i.isOver then .error (Text.Utf8.Error.fault (.truncated byte seen))
    else .ok (i.deliver size decoding.chars (bytes.drop (bytes.length - seen)))
  | some e => .error e.fault

/-- Take in all that is left, in at most `bound` chunks. -/
def takeAll : Nat → Intake → FileText
  | 0, _ => ⟨[], none⟩
  | bound + 1, i =>
    match i.next leastChunk with
    | .error f => ⟨[], some f⟩
    | .ok (chars, later) =>
      if i.isOver then ⟨chars, none⟩ else (takeAll bound later).prepend chars

/-- Read `wanted` characters, fewer only at the end of the file, when some are unread already: the
characters, those behind them that are unread then, and how far the file has arrived. At most
`bound` chunks are taken in. -/
def readChars : Nat → Nat → List Char → Intake → Except Fault (List Char × List Char × Intake)
  | 0, _, unread, i => .ok (unread, [], i)
  | bound + 1, wanted, unread, i =>
    if wanted ≤ unread.length then .ok (unread.take wanted, unread.drop wanted, i)
    else do
      let missing := wanted - unread.length
      let (chars, later) ← i.next (i.chunkSize missing)
      if i.isOver && chars.isEmpty then return (unread, [], later)
      else
        let (more, unread', later) ← readChars bound missing chars later
        return (unread ++ more, unread', later)

/-- Read all that is left by so many characters at a time; a fault ends the text before the
characters that were asked for when it was found. -/
def readAll (wanted bound : Nat) : Nat → List Char → Intake → FileText
  | 0, _, _ => ⟨[], none⟩
  | reads + 1, unread, i =>
    match i.readChars bound wanted unread with
    | .error f => ⟨[], some f⟩
    | .ok (chars, unread, later) =>
      if chars.length < wanted then ⟨chars, none⟩
      else (readAll wanted bound reads unread later).prepend chars

end Intake

namespace FileText

/-- The text of a file that is read line by line, so chunk by chunk. -/
def ofLines (bytes : List UInt8) : FileText :=
  Intake.takeAll (bytes.length + 1) { left := bytes }

/-- The text of a file that is read by so many characters at a time. -/
def ofReads (wanted : Nat) (bytes : List UInt8) : FileText :=
  let bound := bytes.length + 2
  Intake.readAll wanted bound bound [] { left := bytes }

end FileText

end TableDdl
