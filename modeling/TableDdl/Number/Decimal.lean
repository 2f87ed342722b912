import TableDdl.Number.Integer
import TableDdl.Number.Binary64

/-!
# Reading decimal numbers

A decimal number has a whole part or a fraction or both, and may have an exponent; the words for
infinity and for what is not a number are read as well.
-/

namespace TableDdl.Number

/-- The decimal digits at the start of a text, and what follows them. -/
def leadingDigits (cs : List Char) : List Nat × List Char :=
  ((cs.takeWhile fun c => (Text.digitValue? c).isSome).filterMap Text.digitValue?,
    cs.dropWhile fun c => (Text.digitValue? c).isSome)

/-- The exponent at the start of a text, zero if none is written. -/
def exponentPart (cs : List Char) : Option (Int × List Char) :=
  match cs with
  | mark :: rest =>
    if mark = 'e' ∨ mark = 'E' then
      let (negative, body) := splitSign rest
      match leadingDigits body with
      | ([], _) => none
      | (digits, rest) =>
        let n : Int := ofDigits 10 digits
        some (if negative then -n else n, rest)
    else some (0, cs)
  | [] => some (0, [])

/-- The number that digits with a point and an exponent stand for. -/
def unsignedDecimal? (negative : Bool) (cs : List Char) : Option Binary64 := do
  let (whole, rest) := leadingDigits cs
  let (fraction, rest) :=
    match rest with
    | '.' :: rest => leadingDigits rest
    | rest => ([], rest)
  if whole.isEmpty && fraction.isEmpty then none
  else
    let (exponent, rest) ← exponentPart rest
    if rest.all isNumberBlank then
      some (.ofDecimal negative (ofDigits 10 (whole ++ fraction)) (exponent - fraction.length))
    else none

/-- The floating-point number that a text stands for. -/
def decimal? (cs : List Char) : Option Binary64 :=
  let (negative, body) := splitSign (cs.dropWhile isNumberBlank)
  let word := (body.reverse.dropWhile isNumberBlank).reverse.map Char.toLower
  if word = ['i', 'n', 'f'] ∨ word = ['i', 'n', 'f', 'i', 'n', 'i', 't', 'y'] then
    some (.infinite negative)
  else if word = ['n', 'a', 'n'] then some (.nan 0)
  else unsignedDecimal? negative body

end TableDdl.Number
