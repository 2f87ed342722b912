import TableDdl.Fault

/-!
# The output stream

What a command prints is encoded by the stream that it goes to. Every stream encodes the ASCII
characters, and nothing is known of the others: a text with a character that has no encoding is
refused as a whole, which ends the command, and the texts before it are written all the same.
-/

namespace TableDdl.Cli

/-- A stream for what a command prints: the name of its encoding, the characters that have one,
and why the others have none. -/
structure Stdout where
  codec : String
  encodes : Char → Bool
  reason : String
  encodes_ascii : ∀ c : Char, c.toNat < 128 → encodes c = true

namespace Stdout

/-- A stream that keeps texts without encoding them. -/
def memory : Stdout where
  codec := "utf-8"
  encodes _ := true
  reason := ""
  encodes_ascii _ _ := rfl

/-- A stream of UTF-8, which has no encoding for surrogates. -/
def utf8 : Stdout where
  codec := "utf-8"
  encodes c := !Text.isCarrier c
  reason := "surrogates not allowed"
  encodes_ascii _ ascii := congrArg not (Text.isCarrier_of_ascii ascii)

/-- Whether a text is written as it is handed over. -/
def takes (out : Stdout) (text : String) : Bool :=
  text.toList.all out.encodes

/-- Why a text is refused, if it is: the first characters in it, one next to the other, that have
no encoding. -/
def refusal? (out : Stdout) (text : String) : Option Fault :=
  match text.toList.dropWhile out.encodes with
  | [] => none
  | c :: rest =>
    let first := (text.toList.takeWhile out.encodes).length
    let last := first + (rest.takeWhile fun c => !out.encodes c).length
    some (.unencodable out.codec (Text.codePoint c) first last out.reason)

/-- Write texts one after the other, up to the first that is refused: what is written, and why
the others are not. -/
def write (out : Stdout) : List String → String × Option Fault
  | [] => ("", none)
  | text :: rest =>
    match out.refusal? text with
    | some f => ("", some f)
    | none =>
      let (written, stop) := out.write rest
      (text ++ written, stop)

end Stdout

end TableDdl.Cli
