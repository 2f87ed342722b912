import TableDdl.Proofs.Ddl.Rendering

/-!
# Literals of defaults

The default of a column of a string type is written as a literal at the end of its clause. Whatever
the default holds, a scanner that is started at the opening quote reads the default and comes to the
end of the clause. The quotes of the default decide this: each of them is written twice, so the
scanner sees a pair where the default has a quote and a single one only where the literal ends.
-/

namespace TableDdl

namespace Ddl.Literal

/-- A scanner reads a text back from its literal and stops behind the closing quote, as long as no
other quote follows there. -/
theorem scan_body (text : List Char) {rest : List Char} (apart : rest.head? ≠ some '\'') :
    scan (body text ++ '\'' :: rest) = some (text, rest) := by
  induction text with
  | nil => exact scan_closing apart
  | cons c text ih =>
    by_cases isQuote : c = '\''
    · subst isQuote
      rw [body_quote, List.cons_append, List.cons_append, scan_quotes, ih]
      rfl
    · rw [body_cons_of_ne isQuote, List.cons_append, scan_cons_of_ne isQuote, ih]
      rfl

theorem scan_literal (text : String) : scan (body text.toList ++ ['\'']) = some (text.toList, []) :=
  scan_body text.toList (by simp)

/-- Different texts have different literals. -/
theorem quote_injective : Function.Injective quote := by
  intro s t same
  have characters := congrArg String.toList same
  simp only [quote, String.toList_ofList, List.cons.injEq, true_and] at characters
  have read := scan_literal s
  rw [characters, scan_literal t, Option.some.injEq, Prod.mk.injEq] at read
  exact String.toList_inj.mp read.1.symm

end Ddl.Literal

namespace Column

open Ddl

/-- The default stands at the end of the clause, behind what the clause is without it. -/
theorem clause_eq_bare (c : Column) :
    c.clause =
      (· ++ Ddl.defaultText c.normalizedType c.defaultText) <$>
        { c with defaultText := none }.clause := by
  have sameType : { c with defaultText := none }.normalizedType = c.normalizedType := rfl
  have nothing : Ddl.defaultText c.normalizedType none = "" := rfl
  simp only [clause, sameType, nothing, map_eq_pure_bind, bind_assoc, pure_bind,
    String.append_empty]

/-- The default of a column of a string type is written as a literal. -/
theorem clause_eq_literal {c : Column} {d : String} (string : c.normalizedType ∈ stringTypes)
    (given : c.defaultText = some d) :
    c.clause =
      (fun bare => bare ++ " DEFAULT " ++ Literal.quote d) <$>
        { c with defaultText := none }.clause := by
  rw [clause_eq_bare, given]
  simp only [Ddl.defaultText, if_pos string, String.append_assoc]

/-- The clause of a column can be written if its name and its sizes can. -/
theorem exists_clause_iff_writable {c : Column} :
    (∃ text, c.clause = .ok text) ↔ c.name.Writable ∧ c.WritableSizes := by
  rw [clause_eq]
  constructor
  · rintro ⟨text, written⟩
    obtain ⟨o, outlined, written⟩ := Result.bind_eq_ok_iff.mp written
    obtain ⟨name, called, -⟩ := outline_eq_ok_iff.mp outlined
    exact ⟨⟨name, called⟩, (exists_clause_iff outlined).mp ⟨text, written⟩⟩
  · rintro ⟨⟨name, called⟩, sized⟩
    have outlined := outline_eq_ok_iff.mpr ⟨name, called, rfl⟩
    obtain ⟨text, written⟩ := (exists_clause_iff outlined).mpr sized
    exact ⟨text, Result.bind_eq_ok_iff.mpr ⟨_, outlined, written⟩⟩

/-- The clause of a column of a string type with a default is the clause without the default, the
word in front of the default, and a literal. A scanner that is started at the opening quote of the
literal reads the default and ends with the clause. So the clause can be written whatever the
default is, if it can be written at all, and no other default is written the same. -/
theorem clause_default_scanned {c : Column} {d : String}
    (string : c.normalizedType ∈ stringTypes) (given : c.defaultText = some d) :
    ∃ inside : List Char,
      c.clause =
        (fun bare => bare ++ " DEFAULT " ++ String.ofList ('\'' :: inside)) <$>
          { c with defaultText := none }.clause ∧
      Literal.scan inside = some (d.toList, []) ∧
      ((∃ text, c.clause = .ok text) ↔ c.name.Writable ∧ c.WritableSizes) ∧
      ∀ other text, c.clause = .ok text → { c with defaultText := some other }.clause = .ok text →
        other = d := by
  refine ⟨Literal.body d.toList ++ ['\''], clause_eq_literal string given,
    Literal.scan_literal d, exists_clause_iff_writable, ?_⟩
  intro other text first second
  have changed := clause_eq_literal (c := { c with defaultText := some other }) string rfl
  rw [clause_eq_literal string given] at first
  rw [changed] at second
  obtain ⟨bare, unquoted, rfl⟩ := Result.map_eq_ok_iff.mp first
  obtain ⟨bare', unquoted', same⟩ := Result.map_eq_ok_iff.mp second
  obtain rfl : bare' = bare := Except.ok.inj (unquoted'.symm.trans unquoted)
  exact Literal.quote_injective ((String.append_right_inj _).mp same)

/-- A column whose default begins and ends with quotes. -/
def quotedDefault : Column :=
  { name := .str "c", type := some " VarChar", length := some 20, defaultText := some "''it's'" }

theorem clause_quotedDefault :
    quotedDefault.normalizedType ∈ stringTypes ∧
      quotedDefault.clause = .ok "c VARCHAR(20) NOT NULL DEFAULT '''''it''s'''" ∧
      ∃ inside, Literal.scan inside = some ("''it's'".toList, []) ∧
        quotedDefault.clause =
          .ok ("c VARCHAR(20) NOT NULL DEFAULT " ++ String.ofList ('\'' :: inside)) := by
  have string : quotedDefault.normalizedType ∈ stringTypes := by decide +kernel
  have plain : { quotedDefault with defaultText := none }.clause =
      .ok "c VARCHAR(20) NOT NULL" := by
    decide +kernel
  obtain ⟨inside, written, read, -, -⟩ := clause_default_scanned string rfl
  refine ⟨string, by decide +kernel, inside, read, ?_⟩
  rw [written, plain]
  rfl

end Column

end TableDdl
