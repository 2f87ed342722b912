import TableDdl.Settings.SubstitutionError
import TableDdl.Text.Quoted
import TableDdl.Value.Calendar

/-!
# Faults

The failures that no part of the library answers for: a value of a kind that an operation has no
use for, a number out of range, a file that cannot be read as text. They pass through every
caller unchanged.
-/

namespace TableDdl

/-- A failure that passes through every caller. -/
inductive Fault where
  /-- A value of this kind holds nothing to go through. -/
  | notIterable (kind : String)
  /-- A value of this kind cannot be a name. -/
  | notHashable (kind : String)
  /-- The item at this position of a list of texts is of another kind. -/
  | notText (position : Nat) (kind : String)
  /-- Values of these two kinds have no order. -/
  | notOrdered (left right : String)
  /-- Dates and moments have no order between them. -/
  | dayAndMoment
  /-- Moments with a known distance from universal time and moments without one have no order
  between them. -/
  | mixedOffsets
  /-- An infinite number has no whole part. -/
  | infiniteInteger
  /-- A whole number is too large for a number of the binary format. -/
  | beyondReals
  /-- A scalar that is marked as a whole number is not one in this base. -/
  | integerScalar (base : Nat) (text : String)
  /-- A scalar that is marked as a whole number has too many digits. -/
  | integerTooLong (digits : Nat)
  /-- A whole number has too many digits to be written. -/
  | integerUnwritable
  /-- A scalar that is marked as a number is empty. -/
  | emptyNumber
  /-- A scalar that is marked as a number is not one. -/
  | floatScalar (text : String)
  /-- A scalar that is marked as a truth value is not one. -/
  | truthScalar (text : String)
  /-- A scalar that is marked as a date or a moment is not one. -/
  | momentScalar
  /-- A value of this kind stands where the text of a date or a moment is looked for. -/
  | momentKind (kind : String)
  /-- A date or a time has a part out of range. -/
  | calendar (error : CalendarError)
  /-- An escape names a number beyond the last character. -/
  | beyondCharacters
  /-- An escape names a number that does not fit a signed word. -/
  | beyondWords
  /-- A setting cannot be put together from others. -/
  | substitution (error : SubstitutionError)
  /-- A path, or one of its segments, is longer than any that may be looked up. -/
  | nameTooLong (path : String)
  /-- A directory stands where a file is read. -/
  | isDirectory (path : String)
  /-- Nothing stands where a file is read. -/
  | noSuchFile (path : String)
  /-- The bytes `first` to `last` of a file are not text, for the given reason; a single byte is
  shown. -/
  | undecodable (byte : Nat) (first last : Nat) (reason : String)
  /-- A stream cannot hold the characters `first` to `last` of a text, for the given reason; a
  single character is shown. -/
  | unencodable (codec : String) (codePoint : Nat) (first last : Nat) (reason : String)
  /-- The checks or the clauses that an engine was given raise an exception of this kind. -/
  | collaborator (kind text : String)
  deriving DecidableEq, Repr

/-- The text of a fault. -/
def Fault.message : Fault → String
  | .notIterable kind => "'" ++ kind ++ "' object is not iterable"
  | .notHashable kind => "unhashable type: '" ++ kind ++ "'"
  | .notText position kind =>
    "sequence item " ++ toString position ++ ": expected str instance, " ++ kind ++ " found"
  | .notOrdered left right =>
    "'<' not supported between instances of '" ++ left ++ "' and '" ++ right ++ "'"
  | .dayAndMoment => "can't compare datetime.datetime to datetime.date"
  | .mixedOffsets => "can't compare offset-naive and offset-aware datetimes"
  | .infiniteInteger => "cannot convert float infinity to integer"
  | .beyondReals => "int too large to convert to float"
  | .integerScalar base text =>
    "invalid literal for int() with base " ++ toString base ++ ": " ++
      String.ofList ((Text.quoted text).toList.take 200)
  | .integerTooLong digits =>
    "Exceeds the limit (4300 digits) for integer string conversion: value has " ++
      toString digits ++ " digits; use sys.set_int_max_str_digits() to increase the limit"
  | .integerUnwritable =>
    "Exceeds the limit (4300 digits) for integer string conversion; " ++
      "use sys.set_int_max_str_digits() to increase the limit"
  | .emptyNumber => "string index out of range"
  | .floatScalar text => "could not convert string to float: " ++ Text.quoted text
  | .truthScalar text => Text.quoted text
  | .momentScalar => "'NoneType' object has no attribute 'groupdict'"
  | .momentKind kind => "expected string or bytes-like object, got '" ++ kind ++ "'"
  | .calendar error => error.message
  | .beyondCharacters => "chr() arg not in range(0x110000)"
  | .beyondWords => "Python int too large to convert to C int"
  | .substitution error => error.message
  | .nameTooLong path => "[Errno 36] File name too long: " ++ Text.quoted path
  | .isDirectory path => "[Errno 21] Is a directory: " ++ Text.quoted path
  | .noSuchFile path => "[Errno 2] No such file or directory: " ++ Text.quoted path
  | .undecodable byte first last reason =>
    if first = last then
      "'utf-8' codec can't decode byte 0x" ++ String.ofList (Text.hexText 2 byte) ++
        " in position " ++ toString first ++ ": " ++ reason
    else
      "'utf-8' codec can't decode bytes in position " ++ toString first ++ "-" ++
        toString last ++ ": " ++ reason
  | .unencodable codec codePoint first last reason =>
    if first = last then
      "'" ++ codec ++ "' codec can't encode character '" ++
        String.ofList (Text.numberEscape codePoint) ++ "' in position " ++ toString first ++ ": " ++
        reason
    else
      "'" ++ codec ++ "' codec can't encode characters in position " ++ toString first ++ "-" ++
        toString last ++ ": " ++ reason
  | .collaborator _ text => text

end TableDdl
