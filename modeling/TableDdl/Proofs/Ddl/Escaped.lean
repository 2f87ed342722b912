import TableDdl.Proofs.Ddl.Literal

/-!
# Defaults with backslashes

A scanner may let a backslash take the next character as it is. Literals are written without regard
to such scanners, so one of them does not read the default of a column but what the backslashes of
the default stand for. If a backslash takes a quote or the end of the default, it takes away one of
the quotes that the literal was written with: the others no longer pair up, and the scanner does not
end where the clause ends. It reads the default itself exactly if there is no backslash in it.
-/

namespace TableDdl

namespace Ddl.Literal

/-- What the backslashes of a text stand for. A backslash must not take a quote, nor be the last
character. -/
def unescape : List Char → Option (List Char)
  | [] => some []
  | '\\' :: c :: rest => if c = '\'' then none else (unescape rest).map (c :: ·)
  | '\\' :: [] => none
  | c :: rest => (unescape rest).map (c :: ·)

theorem unescape_cons_of_ne {c : Char} (plain : c ≠ '\\') (rest : List Char) :
    unescape (c :: rest) = (unescape rest).map (c :: ·) := by
  simp [unescape, plain]

/-- What is left when a list of characters neither begins with a backslash that takes a character
nor is a backslash alone. -/
theorem ne_backslash {c : Char} {rest : List Char}
    (taking : ∀ (taken : Char) (later : List Char), c = '\\' → rest = taken :: later → False)
    (last : c = '\\' → rest = [] → False) : c ≠ '\\' := by
  rintro rfl
  cases rest with
  | nil => exact last rfl rfl
  | cons taken later => exact taking taken later rfl rfl

/-- A literal that is entered one quote too early does not end at its closing quote. -/
theorem scanEscaped_quote_body_ne (text read : List Char) :
    scanEscaped ('\'' :: (body text ++ ['\''])) ≠ some (read, []) := by
  induction text generalizing read with
  | nil =>
    rw [body_nil, List.nil_append, scanEscaped_quotes]
    simp [scanEscaped]
  | cons c text ih =>
    by_cases isQuote : c = '\''
    · subst isQuote
      rw [body_quote, List.cons_append, List.cons_append, scanEscaped_quotes]
      intro same
      obtain ⟨⟨text, after⟩, scanned, parts⟩ := Option.map_eq_some_iff.mp same
      cases parts
      exact ih text scanned
    · have apart : (body (c :: text) ++ ['\'']).head? ≠ some '\'' := by
        simpa [body_cons_of_ne isQuote] using isQuote
      rw [scanEscaped_closing apart, body_cons_of_ne isQuote]
      simp

/-- A step that adds a character on both sides keeps what is read the same as what is stood for. -/
theorem map_cons_eq_some_iff {c : Char} {read : List Char}
    {scanned : Option (List Char × List Char)} {stood : Option (List Char)}
    (agree : ∀ text, scanned = some (text, []) ↔ stood = some text) :
    (scanned.map fun (text, after) => (c :: text, after)) = some (read, []) ↔
      stood.map (c :: ·) = some read := by
  rw [Option.map_eq_some_iff, Option.map_eq_some_iff]
  constructor
  · rintro ⟨⟨text, after⟩, same, parts⟩
    cases parts
    exact ⟨text, (agree text).mp same, rfl⟩
  · rintro ⟨text, same, rfl⟩
    exact ⟨(text, []), (agree text).mpr same, rfl⟩

/-- A scanner that knows backslashes reads from the literal of a text what the backslashes of the
text stand for, if they stand for something, and otherwise it does not end at the closing quote. -/
theorem scanEscaped_body_iff {text read : List Char} :
    scanEscaped (body text ++ ['\'']) = some (read, []) ↔ unescape text = some read := by
  fun_induction unescape text generalizing read with
  | case1 =>
    rw [body_nil, List.nil_append, scanEscaped_closing (by simp)]
    simp
  | case2 rest =>
    -- The backslash takes one quote of the pair, and the other one pairs up with what follows.
    have opened : body ('\\' :: '\'' :: rest) ++ ['\''] =
        '\\' :: '\'' :: '\'' :: (body rest ++ ['\'']) := rfl
    rw [opened, scanEscaped_backslash]
    simp [scanEscaped_quote_body_ne]
  | case3 c rest taken ih =>
    rw [body_cons_of_ne (by decide), body_cons_of_ne taken, List.cons_append, List.cons_append,
      scanEscaped_backslash]
    exact map_cons_eq_some_iff fun _ => ih
  | case4 => simp [body, scanEscaped]
  | case5 c rest taking last ih =>
    have plain : c ≠ '\\' := ne_backslash taking last
    by_cases isQuote : c = '\''
    · subst isQuote
      rw [body_quote, List.cons_append, List.cons_append, scanEscaped_quotes]
      exact map_cons_eq_some_iff fun _ => ih
    · rw [body_cons_of_ne isQuote, List.cons_append, scanEscaped_cons_of_ne plain isQuote]
      exact map_cons_eq_some_iff fun _ => ih

/-- Backslashes make what they stand for shorter than the text. -/
theorem length_of_unescape {text read : List Char} (stood : unescape text = some read) :
    read.length ≤ text.length ∧ ('\\' ∈ text → read.length < text.length) := by
  fun_induction unescape text generalizing read with
  | case1 =>
    cases stood
    simp
  | case2 => cases stood
  | case3 c rest taken ih =>
    obtain ⟨tail, later, rfl⟩ := Option.map_eq_some_iff.mp stood
    have shorter := (ih later).1
    simp only [List.length_cons]
    omega
  | case4 => cases stood
  | case5 c rest taking last ih =>
    obtain ⟨tail, later, rfl⟩ := Option.map_eq_some_iff.mp stood
    obtain ⟨bounded, shorter⟩ := ih later
    refine ⟨Nat.succ_le_succ bounded, fun listed => ?_⟩
    have inRest : '\\' ∈ rest :=
      (List.mem_cons.mp listed).resolve_left fun same => ne_backslash taking last same.symm
    exact Nat.succ_lt_succ (shorter inRest)

/-- A text stands for itself exactly if there is no backslash in it. -/
theorem unescape_eq_self_iff {text : List Char} : unescape text = some text ↔ '\\' ∉ text := by
  constructor
  · intro same listed
    exact Nat.lt_irrefl _ ((length_of_unescape same).2 listed)
  · intro plain
    induction text with
    | nil => rfl
    | cons c rest ih =>
      obtain ⟨here, later⟩ := not_or.mp (mt List.mem_cons.mpr plain)
      rw [unescape_cons_of_ne (Ne.symm here), ih later]
      rfl

end Ddl.Literal

namespace Column

open Ddl

/-- A scanner that knows backslashes, started behind the opening quote of the default, reads the
given text and comes to the end of the clause. -/
def DefaultReadAs (c : Column) (read : String) : Prop :=
  ∃ bare inside, { c with defaultText := none }.clause = .ok bare ∧
    c.clause = .ok (bare ++ " DEFAULT " ++ String.ofList ('\'' :: inside)) ∧
    Literal.scanEscaped inside = some (read.toList, [])

/-- The literal of the default is what a clause that can be written ends with. -/
theorem defaultReadAs_iff_scanned {c : Column} {d text read : String}
    (string : c.normalizedType ∈ stringTypes) (given : c.defaultText = some d)
    (written : c.clause = .ok text) :
    c.DefaultReadAs read ↔
      Literal.scanEscaped (Literal.body d.toList ++ ['\'']) = some (read.toList, []) := by
  have whole := clause_eq_literal string given
  rw [written] at whole
  obtain ⟨bare, unquoted, same⟩ := Result.map_eq_ok_iff.mp whole.symm
  constructor
  · rintro ⟨bare', inside, unquoted', ends, scanned⟩
    obtain rfl : bare' = bare := Except.ok.inj (unquoted'.symm.trans unquoted)
    have literal : Literal.quote d = String.ofList ('\'' :: inside) := by
      have both := same.trans (Except.ok.inj (written.symm.trans ends))
      exact (String.append_right_inj _).mp both
    have characters := congrArg String.toList literal
    simp only [Literal.quote, String.toList_ofList, List.cons.injEq, true_and] at characters
    rw [characters]
    exact scanned
  · intro scanned
    exact ⟨bare, _, unquoted, by rw [written, ← same]; rfl, scanned⟩

/-- A scanner that knows backslashes reads from the clause of a column of a string type what the
backslashes of the default stand for. So it reads the default and comes to the end of the clause
exactly if the default has no backslash, and it comes to the end of the clause with some text or
other exactly if no backslash of the default takes a quote or is its last character. -/
theorem defaultReadAs_iff_unescape {c : Column} {d text : String}
    (string : c.normalizedType ∈ stringTypes) (given : c.defaultText = some d)
    (written : c.clause = .ok text) :
    (c.DefaultReadAs d ↔ '\\' ∉ d.toList) ∧
      ∀ read, c.DefaultReadAs read ↔ Literal.unescape d.toList = some read.toList := by
  have stood (read : String) :
      c.DefaultReadAs read ↔ Literal.unescape d.toList = some read.toList :=
    (defaultReadAs_iff_scanned string given written).trans Literal.scanEscaped_body_iff
  exact ⟨(stood d).trans Literal.unescape_eq_self_iff, stood⟩

/-- A column whose default has backslashes in front of letters, and a quote. -/
def pathDefault : Column :=
  { name := .str "dir", type := some "varchar", length := some 40,
    defaultText := some "C:\\temp\\it's" }

theorem defaultReadAs_pathDefault :
    pathDefault.normalizedType ∈ stringTypes ∧
      pathDefault.clause = .ok "dir VARCHAR(40) NOT NULL DEFAULT 'C:\\temp\\it''s'" ∧
      ¬ pathDefault.DefaultReadAs "C:\\temp\\it's" ∧ pathDefault.DefaultReadAs "C:tempit's" := by
  have string : pathDefault.normalizedType ∈ stringTypes := by decide +kernel
  have written :
      pathDefault.clause = .ok "dir VARCHAR(40) NOT NULL DEFAULT 'C:\\temp\\it''s'" := by
    decide +kernel
  obtain ⟨itself, stood⟩ := defaultReadAs_iff_unescape string rfl written
  refine ⟨string, written, ?_, ?_⟩
  · rw [itself]
    decide +kernel
  · rw [stood]
    decide +kernel

/-- A column whose default is a backslash. -/
def backslashDefault : Column :=
  { name := .str "c", type := some "varchar", defaultText := some "\\" }

/-- The clause does not close the literal that it opens: the backslash takes the closing quote. -/
theorem not_defaultReadAs_backslashDefault :
    backslashDefault.normalizedType ∈ stringTypes ∧
      backslashDefault.clause = .ok "c VARCHAR NOT NULL DEFAULT '\\'" ∧
      ∀ read, ¬ backslashDefault.DefaultReadAs read := by
  have string : backslashDefault.normalizedType ∈ stringTypes := by decide +kernel
  have written : backslashDefault.clause = .ok "c VARCHAR NOT NULL DEFAULT '\\'" := by
    decide +kernel
  refine ⟨string, written, fun read => ?_⟩
  have unclosed : Literal.scanEscaped (Literal.body "\\".toList ++ ['\'']) = none := by
    decide +kernel
  rw [defaultReadAs_iff_scanned string rfl written, unclosed]
  exact nofun

end Column

end TableDdl
