/-!
# Base 64

Four characters of an alphabet of sixty-four stand for three bytes. Characters outside the
alphabet are skipped, and padding that completes a group ends the text.
-/

namespace TableDdl.Text.Base64

/-- The value of a character of the alphabet. -/
def value? (c : Char) : Option Nat :=
  if 'A' ≤ c ∧ c ≤ 'Z' then some (c.toNat - 'A'.toNat)
  else if 'a' ≤ c ∧ c ≤ 'z' then some (c.toNat - 'a'.toNat + 26)
  else if '0' ≤ c ∧ c ≤ '9' then some (c.toNat - '0'.toNat + 52)
  else if c = '+' then some 62
  else if c = '/' then some 63
  else none

/-- Read on within a group of which `count` characters were seen: `left` is what the last of them
leaves over, and `pads` counts the padding since. The result is `none` if the text ends inside a
group. -/
def decodeFrom : Nat → Nat → Nat → List Char → Option (List UInt8)
  | count, _, _, [] => if count = 0 then some [] else none
  | count, left, pads, c :: rest =>
    if c = '=' then
      if count < 2 then decodeFrom count left pads rest
      else if count + pads + 1 ≥ 4 then some []
      else decodeFrom count left (pads + 1) rest
    else
      match value? c with
      | none => decodeFrom count left pads rest
      | some v =>
        match count with
        | 0 => decodeFrom 1 v 0 rest
        | 1 => (decodeFrom 2 (v % 16) 0 rest).map (UInt8.ofNat (left * 4 + v / 16) :: ·)
        | 2 => (decodeFrom 3 (v % 4) 0 rest).map (UInt8.ofNat (left * 16 + v / 4) :: ·)
        | _ => (decodeFrom 0 0 0 rest).map (UInt8.ofNat (left * 64 + v) :: ·)

/-- The bytes that a text stands for, if it does not end inside a group. -/
def decode (cs : List Char) : Option (List UInt8) :=
  decodeFrom 0 0 0 cs

end TableDdl.Text.Base64
