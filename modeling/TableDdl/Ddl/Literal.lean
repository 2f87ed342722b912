/-!
# String literals

A string literal stands between single quotes, and a quote inside it is written twice. Two
scanners read literals: the standard one, for which a doubled quote is the only way to write a
quote, and one for which a backslash takes the next character as it is.
-/

namespace TableDdl.Ddl.Literal

/-- The characters of a literal between its quotes. -/
def body : List Char → List Char
  | [] => []
  | '\'' :: rest => '\'' :: '\'' :: body rest
  | c :: rest => c :: body rest

/-- The literal of a text. -/
def quote (s : String) : String :=
  String.ofList ('\'' :: (body s.toList ++ ['\'']))

/-- Read a literal from behind its opening quote: its text, and what follows its closing quote. -/
def scan : List Char → Option (List Char × List Char)
  | [] => none
  | '\'' :: '\'' :: rest => (scan rest).map fun (text, after) => ('\'' :: text, after)
  | '\'' :: rest => some ([], rest)
  | c :: rest => (scan rest).map fun (text, after) => (c :: text, after)

/-- Read a literal in which a backslash takes the next character as it is. -/
def scanEscaped : List Char → Option (List Char × List Char)
  | [] => none
  | '\\' :: c :: rest => (scanEscaped rest).map fun (text, after) => (c :: text, after)
  | '\\' :: [] => none
  | '\'' :: '\'' :: rest => (scanEscaped rest).map fun (text, after) => ('\'' :: text, after)
  | '\'' :: rest => some ([], rest)
  | c :: rest => (scanEscaped rest).map fun (text, after) => (c :: text, after)

@[simp] theorem body_nil : body [] = [] := rfl

@[simp] theorem body_quote (rest : List Char) : body ('\'' :: rest) = '\'' :: '\'' :: body rest :=
  rfl

theorem body_cons_of_ne {c : Char} (h : c ≠ '\'') (rest : List Char) :
    body (c :: rest) = c :: body rest := by
  simp [body]

theorem scan_quotes (rest : List Char) :
    scan ('\'' :: '\'' :: rest) =
      (scan rest).map fun (text, after) => ('\'' :: text, after) := by
  rw [scan]

theorem scan_closing {rest : List Char} (apart : rest.head? ≠ some '\'') :
    scan ('\'' :: rest) = some ([], rest) := by
  cases rest with
  | nil => rfl
  | cons c rest =>
    have other : c ≠ '\'' := by simpa using apart
    simp [scan, other]

theorem scan_cons_of_ne {c : Char} (other : c ≠ '\'') (rest : List Char) :
    scan (c :: rest) = (scan rest).map fun (text, after) => (c :: text, after) := by
  simp [scan, other]

theorem scanEscaped_backslash (c : Char) (rest : List Char) :
    scanEscaped ('\\' :: c :: rest) =
      (scanEscaped rest).map fun (text, after) => (c :: text, after) := by
  rw [scanEscaped]

theorem scanEscaped_quotes (rest : List Char) :
    scanEscaped ('\'' :: '\'' :: rest) =
      (scanEscaped rest).map fun (text, after) => ('\'' :: text, after) := by
  rw [scanEscaped]

theorem scanEscaped_closing {rest : List Char} (apart : rest.head? ≠ some '\'') :
    scanEscaped ('\'' :: rest) = some ([], rest) := by
  cases rest with
  | nil => rfl
  | cons c rest =>
    have other : c ≠ '\'' := by simpa using apart
    simp [scanEscaped, other]

theorem scanEscaped_cons_of_ne {c : Char} (plain : c ≠ '\\') (other : c ≠ '\'')
    (rest : List Char) :
    scanEscaped (c :: rest) = (scanEscaped rest).map fun (text, after) => (c :: text, after) := by
  simp [scanEscaped, plain, other]

end TableDdl.Ddl.Literal
