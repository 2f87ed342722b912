import TableDdl.Cli.Run
import Mathlib.Data.List.TakeWhile

/-!
# What a stream takes

A text is taken if each of its characters is encoded, and refused otherwise. So a text that is put
together from others is taken exactly if all of them are, and texts are written one after the other
up to the first that is refused.
-/

namespace TableDdl.Cli

namespace Stdout

variable {out : Stdout} {text : String} {texts : List String}

@[simp] theorem takes_append (first later : String) :
    out.takes (first ++ later) = (out.takes first && out.takes later) := by
  simp [takes]

theorem takes_of_ascii (ascii : text.toList.all fun c => c.toNat < 128) :
    out.takes text = true := by
  simp only [List.all_eq_true, decide_eq_true_eq] at ascii
  simpa [takes] using fun c member => out.encodes_ascii c (ascii c member)

@[simp] theorem takes_repr (n : Nat) : out.takes n.repr = true := by
  apply takes_of_ascii
  simp only [List.all_eq_true, decide_eq_true_eq, Nat.toList_repr]
  intro c member
  have digit : c.isDigit = true := Nat.isDigit_of_mem_toDigits (by decide) (by decide) member
  have below : c.toNat ≤ '9'.toNat := (Char.isDigit_iff_toNat.mp digit).2
  exact Nat.lt_of_le_of_lt below (by decide)

/-- A stream that takes every text. -/
def TakesAll (out : Stdout) : Prop :=
  ∀ text, out.takes text = true

theorem takesAll_memory : memory.TakesAll := by
  simp [TakesAll, takes, memory]

/-- A text that is not taken has a first character without an encoding. -/
theorem exists_first_unencoded (untaken : out.takes text = false) :
    ∃ held c rest, text.toList = held ++ c :: rest ∧ (∀ d ∈ held, out.encodes d = true) ∧
      out.encodes c = false := by
  obtain ⟨d, member, bad⟩ := List.all_eq_false.mp untaken
  have some : (text.toList.find? fun d => !out.encodes d).isSome :=
    List.find?_isSome.mpr ⟨d, member, by simpa using bad⟩
  obtain ⟨c, found⟩ := Option.isSome_iff_exists.mp some
  obtain ⟨first, held, rest, split, fine⟩ := List.find?_eq_some_iff_append.mp found
  exact ⟨held, c, rest, split, by simpa using fine, by simpa using first⟩

theorem refusal?_of_takes (taken : out.takes text = true) : out.refusal? text = none := by
  have none : text.toList.dropWhile out.encodes = [] :=
    List.dropWhile_eq_nil_iff.mpr (List.all_eq_true.mp taken)
  rw [refusal?, none]

/-- A text that is not taken is refused by a fault that shows where. -/
theorem exists_refusal (untaken : out.takes text = false) :
    ∃ codePoint first last,
      out.refusal? text = some (.unencodable out.codec codePoint first last out.reason) := by
  obtain ⟨held, c, rest, split, fine, bad⟩ := exists_first_unencoded untaken
  have stops : text.toList.dropWhile out.encodes = c :: rest := by
    rw [split, List.dropWhile_append_of_pos fine, List.dropWhile_cons, bad]
    rfl
  rw [refusal?, stops]
  exact ⟨_, _, _, rfl⟩

/-- A run of characters of one kind ends in front of a text of the other kind. -/
theorem takeWhile_append_of_neg {p : Char → Bool} {tail : List Char}
    (outside : ∀ c ∈ tail, p c = false) (cs : List Char) :
    (cs ++ tail).takeWhile p = cs.takeWhile p := by
  have none : tail.takeWhile p = [] := by
    cases tail with
    | nil => rfl
    | cons c rest => simp [outside c List.mem_cons_self]
  rw [List.takeWhile_append, none, List.append_nil]
  split
  · next whole => exact ((List.takeWhile_prefix p).eq_of_length whole).symm
  · rfl

/-- What is taken behind a text that is refused makes no difference to the refusal. -/
theorem refusal?_append (untaken : out.takes text = false) {tail : String}
    (taken : out.takes tail = true) : out.refusal? (text ++ tail) = out.refusal? text := by
  have encoded : ∀ c ∈ tail.toList, out.encodes c = true := List.all_eq_true.mp taken
  obtain ⟨held, c, rest, split, fine, bad⟩ := exists_first_unencoded untaken
  have run : (rest ++ tail.toList).takeWhile (fun d => !out.encodes d) =
      rest.takeWhile fun d => !out.encodes d :=
    takeWhile_append_of_neg (fun d member => by simp [encoded d member]) rest
  simp only [refusal?, String.toList_append, split, List.append_assoc, List.cons_append,
    List.dropWhile_append_of_pos fine, List.takeWhile_append_of_pos fine]
  simp [bad, run]

theorem write_of_takes (all : ∀ t ∈ texts, out.takes t = true) :
    out.write texts = (String.join texts, none) := by
  induction texts with
  | nil => rfl
  | cons t rest ih =>
    rw [List.forall_mem_cons] at all
    simp [write, refusal?_of_takes all.1, ih all.2]

/-- The texts before the first that is refused are written. -/
theorem write_of_refused {before after : List String} {f : Fault}
    (all : ∀ t ∈ before, out.takes t = true) (refused : out.refusal? text = some f) :
    out.write (before ++ text :: after) = (String.join before, some f) := by
  induction before with
  | nil => simp [write, refused]
  | cons t rest ih =>
    rw [List.forall_mem_cons] at all
    simp [write, refusal?_of_takes all.1, ih all.2]

/-- All texts are taken, or there is a first that is not. -/
theorem takes_all_or_first (out : Stdout) (texts : List String) :
    (∀ t ∈ texts, out.takes t = true) ∨
      ∃ before t after, texts = before ++ t :: after ∧ (∀ t ∈ before, out.takes t = true) ∧
        out.takes t = false := by
  induction texts with
  | nil => simp
  | cons t rest ih =>
    cases taken : out.takes t with
    | false => exact .inr ⟨[], t, rest, rfl, by simp, taken⟩
    | true =>
      rcases ih with all | ⟨before, u, after, rfl, all, untaken⟩
      · exact .inl (by simpa [taken] using all)
      · exact .inr ⟨t :: before, u, after, rfl, by simpa [taken] using all, untaken⟩

end Stdout

variable {out : Stdout} {output errors : String} {next : String → Outcome}

theorem print_of_takes {texts : List String} (all : ∀ t ∈ texts, out.takes t = true) :
    out.print texts output errors next = next (output ++ String.join texts) := by
  rw [Stdout.print, Stdout.write_of_takes all]

theorem print_of_refused {before after : List String} {text : String} {f : Fault}
    (all : ∀ t ∈ before, out.takes t = true) (refused : out.refusal? text = some f) :
    out.print (before ++ text :: after) output errors next =
      .faulted f (output ++ String.join before) errors := by
  rw [Stdout.print, Stdout.write_of_refused all refused]

@[simp] theorem takes_printed (sql : String) : out.takes (printed sql) = out.takes sql := by
  have semicolon : out.takes ";" = true := Stdout.takes_of_ascii (by decide)
  have lines : out.takes "\n\n" = true := Stdout.takes_of_ascii (by decide)
  rw [printed]
  split <;> simp [semicolon, lines]

/-- A statement is printed as it is, with something behind it that every stream takes. -/
theorem printed_eq_append (sql : String) :
    ∃ tail, printed sql = sql ++ tail ∧ ∀ out : Stdout, out.takes tail = true := by
  by_cases ends : ";".toList.isSuffixOf sql.toList = true
  · exact ⟨"\n\n", by rw [printed, if_pos ends], fun out => Stdout.takes_of_ascii (by decide)⟩
  · refine ⟨";" ++ "\n\n", by rw [printed, if_neg ends, String.append_assoc], fun out => ?_⟩
    exact Stdout.takes_of_ascii (by decide)

end TableDdl.Cli
