import TableDdl.Text.Printable
import TableDdl.Text.Surrogate

/-!
# Quoted text

A text between quotes, in which the quote, the backslash and every character that is not
printable are escaped. Double quotes are used only where they save an escape.
-/

namespace TableDdl.Text

/-- The quote to put around a text. -/
def quoteFor (cs : List Char) : Char :=
  if cs.contains '\'' && !cs.contains '"' then '"' else '\''

/-- A number in lower-case hexadecimal digits, at least `width` of them. -/
def hexText (width n : Nat) : List Char :=
  let digits := Nat.toDigits 16 n
  List.replicate (width - digits.length) '0' ++ digits

/-- The escape of a character by its number, in the shortest of the three widths. -/
def numberEscape (n : Nat) : List Char :=
  if n < 256 then '\\' :: 'x' :: hexText 2 n
  else if n < 65536 then '\\' :: 'u' :: hexText 4 n
  else '\\' :: 'U' :: hexText 8 n

/-- The escape by which the line end, the carriage return and the tab are shown. -/
def layoutEscape? (c : Char) : Option (List Char) :=
  match c with
  | '\n' => some ['\\', 'n']
  | '\r' => some ['\\', 'r']
  | '\t' => some ['\\', 't']
  | _ => none

/-- A character as it stands inside the given quotes. -/
def quotedChar (quote c : Char) : List Char :=
  if c = quote ∨ c = '\\' then ['\\', c]
  else
    match layoutEscape? c with
    | some escape => escape
    | none => if isPrintable c then [c] else numberEscape (codePoint c)

/-- A text between quotes. -/
def quoted (s : String) : String :=
  let quote := quoteFor s.toList
  String.ofList (quote :: (s.toList.flatMap (quotedChar quote) ++ [quote]))

/-- A byte as it stands inside the given quotes; only printable ASCII is shown as it is. -/
def quotedByte (quote : Char) (b : UInt8) : List Char :=
  let c := Char.ofNat b.toNat
  if c = quote ∨ c = '\\' then ['\\', c]
  else
    match layoutEscape? c with
    | some escape => escape
    | none => if 32 ≤ b.toNat ∧ b.toNat < 127 then [c] else numberEscape b.toNat

/-- A string of bytes between quotes, marked as such by a letter in front. -/
def quotedBytes (bytes : List UInt8) : String :=
  let quote := quoteFor (bytes.map fun b => Char.ofNat b.toNat)
  String.ofList ('b' :: quote :: (bytes.flatMap (quotedByte quote) ++ [quote]))

end TableDdl.Text
