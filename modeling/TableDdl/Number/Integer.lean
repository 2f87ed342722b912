import TableDdl.Text.Blank
import TableDdl.Text.Digit

/-!
# Whole numbers as text

A whole number may stand between blanks, carry a sign, use the decimal digits of any script and
separate digits by single underscores. Very long decimal numbers are neither read nor written.
-/

namespace TableDdl.Number

/-- Why a text is not read as a whole number. -/
inductive IntegerError where
  | malformed
  | tooLong (digits : Nat)
  deriving DecidableEq, Repr

/-- Blanks that may surround a number: all of them but the information separators. -/
def isNumberBlank (c : Char) : Bool :=
  if c.toNat < 127 then c == ' ' || (9 ≤ c.toNat && c.toNat ≤ 13) else Text.isBlank c

/-- The value of a digit: a decimal digit of any script, or a letter from ten upwards. -/
def anyDigit? (c : Char) : Option Nat :=
  match Text.digitValue? c with
  | some n => some n
  | none =>
    if 'a' ≤ c ∧ c ≤ 'z' then some (c.toNat - 'a'.toNat + 10)
    else if 'A' ≤ c ∧ c ≤ 'Z' then some (c.toNat - 'A'.toNat + 10)
    else none

/-- The value of a digit in a base. -/
def baseDigit? (base : Nat) (c : Char) : Option Nat :=
  (anyDigit? c).filter (· < base)

/-- The number that a list of digits stands for, the most significant digit first. -/
def ofDigits (base : Nat) (digits : List Nat) : Nat :=
  digits.foldl (fun n d => n * base + d) 0

/-- The digits of a run that single underscores may divide, given whether the previous character
was a digit; `none` if an underscore leads, trails or is doubled. -/
def dividedDigits (base : Nat) : Bool → List Char → Option (List Nat)
  | afterDigit, [] => if afterDigit then some [] else none
  | afterDigit, c :: rest =>
    if c = '_' then
      if afterDigit then dividedDigits base false rest else none
    else
      match baseDigit? base c with
      | some d => (dividedDigits base true rest).map (d :: ·)
      | none => none

/-- The longest decimal number that is read or written. -/
def maxDigits : Nat := 4300

/-- Split a sign off. -/
def splitSign : List Char → Bool × List Char
  | '-' :: rest => (true, rest)
  | '+' :: rest => (false, rest)
  | rest => (false, rest)

/-- Skip the mark of a base, such as `0x`, and an underscore after it. -/
def skipBaseMark (base : Nat) : List Char → List Char
  | '0' :: mark :: rest =>
    let fits := (base == 16 && (mark == 'x' || mark == 'X')) ||
      (base == 8 && (mark == 'o' || mark == 'O')) || (base == 2 && (mark == 'b' || mark == 'B'))
    if fits then
      match rest with
      | '_' :: rest => rest
      | rest => rest
    else
      '0' :: mark :: rest
  | cs => cs

/-- The whole number that a text stands for in a base. -/
def readInteger (base : Nat) (cs : List Char) : Except IntegerError Int :=
  let (negative, body) := splitSign (cs.dropWhile isNumberBlank)
  let body := skipBaseMark base body
  let run := body.takeWhile fun c => c == '_' || (baseDigit? base c).isSome
  let rest := body.dropWhile fun c => c == '_' || (baseDigit? base c).isSome
  match dividedDigits base false run with
  | none => .error .malformed
  | some digits =>
    if base = 10 ∧ digits.length > maxDigits then .error (.tooLong digits.length)
    else if rest.all isNumberBlank then
      let n : Int := ofDigits base digits
      .ok (if negative then -n else n)
    else .error .malformed

/-- The decimal text of a whole number, unless it has too many digits. -/
def decimalText? (n : Int) : Option String :=
  if n.natAbs < Nat.pow 10 maxDigits then some (toString n) else none

/-- The decimal whole number that a text stands for. -/
def integerOfText (s : String) : Except IntegerError Int :=
  readInteger 10 s.toList

end TableDdl.Number
