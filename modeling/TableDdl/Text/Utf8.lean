/-!
# UTF-8

Decoding of bytes into characters, one byte at a time. The bytes of a character are announced by
the first of them, which also limits the second one, so that overlong forms, surrogates and
numbers beyond the last character have no place. A failure names the longest run of bytes that
could still have begun a character.
-/

namespace TableDdl.Text.Utf8

/-- What the first byte of a character says: how many bytes follow, the limits of the next of
them, and the bits that it contributes. -/
structure Lead where
  following : Nat
  low : Nat := 0x80
  high : Nat := 0xBF
  bits : Nat
  deriving DecidableEq, Repr

/-- What a byte says as the first byte of a character, if it can be one. -/
def lead? (b : Nat) : Option Lead :=
  if b ≤ 0x7F then some { following := 0, bits := b }
  else if 0xC2 ≤ b ∧ b ≤ 0xDF then some { following := 1, bits := b - 0xC0 }
  else if b = 0xE0 then some { following := 2, low := 0xA0, bits := 0 }
  else if b = 0xED then some { following := 2, high := 0x9F, bits := 0xD }
  else if 0xE1 ≤ b ∧ b ≤ 0xEF then some { following := 2, bits := b - 0xE0 }
  else if b = 0xF0 then some { following := 3, low := 0x90, bits := 0 }
  else if b = 0xF4 then some { following := 3, high := 0x8F, bits := 4 }
  else if 0xF1 ≤ b ∧ b ≤ 0xF3 then some { following := 3, bits := b - 0xF0 }
  else none

/-- A character of which not all bytes were seen: its first byte and the place of it, how many
bytes were seen, how many are to follow, the limits of the next one, and the bits so far. -/
structure Pending where
  firstByte : Nat
  place : Nat
  seen : Nat
  following : Nat
  low : Nat
  high : Nat
  bits : Nat

/-- Why bytes are not text. Every case has the first byte of the character in question. -/
inductive Error where
  | invalidStart (byte place : Nat)
  /-- The byte after the first `seen` bytes does not continue the character. -/
  | invalidContinuation (byte place seen : Nat)
  /-- The bytes end after the first `seen` bytes of a character. -/
  | truncated (byte seen : Nat)
  deriving DecidableEq, Repr

/-- The characters before the first failure, and the failure. -/
structure Decoding where
  chars : List Char
  failure : Option Error

/-- Decode bytes that start at a place, in the midst of a character or between two. -/
def decodeFrom (place : Nat) : Option Pending → List UInt8 → Decoding
  | none, [] => ⟨[], none⟩
  | some p, [] => ⟨[], some (.truncated p.firstByte p.seen)⟩
  | none, byte :: rest =>
    let b := byte.toNat
    match lead? b with
    | none => ⟨[], some (.invalidStart b place)⟩
    | some lead =>
      if lead.following = 0 then
        let later := decodeFrom (place + 1) none rest
        { later with chars := Char.ofNat lead.bits :: later.chars }
      else
        let p : Pending := { lead with firstByte := b, place, seen := 1 }
        decodeFrom (place + 1) (some p) rest
  | some p, byte :: rest =>
    let b := byte.toNat
    let bits := p.bits * 64 + b % 64
    if b < p.low ∨ p.high < b then
      ⟨[], some (.invalidContinuation p.firstByte p.place p.seen)⟩
    else if p.following = 1 then
      let later := decodeFrom (place + 1) none rest
      { later with chars := Char.ofNat bits :: later.chars }
    else
      let p : Pending :=
        { p with seen := p.seen + 1, following := p.following - 1, low := 0x80, high := 0xBF, bits }
      decodeFrom (place + 1) (some p) rest

/-- Decode the bytes of a file. -/
def decode (bytes : List UInt8) : Decoding :=
  decodeFrom 0 none bytes

end TableDdl.Text.Utf8
