import TableDdl.Failure
import Mathlib.Data.List.Forall2

/-!
# Results

When a computation that may fail succeeds: step by step, and over a list item by item. A fault
that is lifted into a larger computation is still the same fault, so success can be followed
through both kinds of results by the same lemmas.
-/

namespace TableDdl.Result

variable {ε α β γ : Type}

theorem bind_eq_ok_iff {x : Except ε α} {f : α → Except ε β} {b : β} :
    (x >>= f) = .ok b ↔ ∃ a, x = .ok a ∧ f a = .ok b := by
  cases x with
  | error e => simp [bind, Except.bind]
  | ok a => simp [bind, Except.bind]

theorem bind_eq_error_iff {x : Except ε α} {f : α → Except ε β} {e : ε} :
    (x >>= f) = .error e ↔ x = .error e ∨ ∃ a, x = .ok a ∧ f a = .error e := by
  cases x with
  | error e => simp [bind, Except.bind]
  | ok a => simp [bind, Except.bind]

theorem map_eq_ok_iff {x : Except ε α} {f : α → β} {b : β} :
    f <$> x = .ok b ↔ ∃ a, x = .ok a ∧ f a = b := by
  cases x with
  | error e => simp [Functor.map, Except.map]
  | ok a => simp [Functor.map, Except.map]

@[simp] theorem ok_bind (a : α) (f : α → Except ε β) : (Except.ok a >>= f) = f a := rfl

@[simp] theorem error_bind (e : ε) (f : α → Except ε β) :
    ((Except.error e : Except ε α) >>= f) = .error e := rfl

@[simp] theorem pure_eq_ok (a : α) : (pure a : Except ε α) = .ok a := rfl

theorem exists_bind_pure_iff {x : Except ε α} {g : α → β} :
    (∃ b, (x >>= fun a => pure (g a)) = .ok b) ↔ ∃ a, x = .ok a := by
  cases x <;> simp

/-- A list is gone through with success exactly if every item is, and the results stand in the
order of the items. -/
theorem mapM_eq_ok_iff {f : α → Except ε β} {xs : List α} {ys : List β} :
    xs.mapM f = .ok ys ↔ List.Forall₂ (fun x y => f x = .ok y) xs ys := by
  induction xs generalizing ys with
  | nil => simp [eq_comm]
  | cons x rest ih =>
    rw [List.mapM_cons, bind_eq_ok_iff]
    constructor
    · rintro ⟨y, head, tail⟩
      obtain ⟨others, rest_ok, same⟩ := bind_eq_ok_iff.mp tail
      cases same
      exact .cons head (ih.mp rest_ok)
    · intro related
      cases related with
      | cons head tail =>
        refine ⟨_, head, ?_⟩
        rw [ih.mpr tail]
        rfl

/-- Going through a list ends by the failure of the first item that fails. -/
theorem mapM_eq_error_iff {f : α → Except ε β} {xs : List α} {e : ε} :
    xs.mapM f = .error e ↔
      ∃ before x after, xs = before ++ x :: after ∧ (∀ y ∈ before, ∃ b, f y = .ok b) ∧
        f x = .error e := by
  induction xs with
  | nil => simp
  | cons x rest ih =>
    rw [List.mapM_cons, bind_eq_error_iff]
    constructor
    · rintro (head | ⟨b, head, tail⟩)
      · exact ⟨[], x, rest, rfl, by simp, head⟩
      · rcases bind_eq_error_iff.mp tail with later | ⟨bs, -, impossible⟩
        · obtain ⟨before, y, after, rfl, fine, failed⟩ := ih.mp later
          exact ⟨x :: before, y, after, rfl, List.forall_mem_cons.mpr ⟨⟨b, head⟩, fine⟩, failed⟩
        · cases impossible
    · rintro ⟨before, y, after, split, fine, failed⟩
      cases before with
      | nil =>
        obtain ⟨rfl, -⟩ := List.cons.inj split
        exact .inl failed
      | cons z before =>
        obtain ⟨rfl, rfl⟩ := List.cons.inj split
        obtain ⟨⟨b, head⟩, fine⟩ := List.forall_mem_cons.mp fine
        refine .inr ⟨b, head, ?_⟩
        rw [ih.mpr ⟨before, y, after, rfl, fine, failed⟩]
        rfl

theorem mapM_eq_ok_nil_iff {f : α → Except ε β} {xs : List α} : xs.mapM f = .ok [] ↔ xs = [] := by
  rw [mapM_eq_ok_iff, List.forall₂_nil_right_iff]

theorem mapM_eq_ok_iff_map {f : α → Except ε β} {xs : List α} {ys : List β} :
    xs.mapM f = .ok ys ↔ xs.map f = ys.map .ok := by
  rw [mapM_eq_ok_iff, ← List.forall₂_eq_eq_eq, List.forall₂_map_left_iff,
    List.forall₂_map_right_iff]

theorem mem_iff_of_mapM {f : α → Except ε β} {xs : List α} {ys : List β}
    (each : xs.mapM f = .ok ys) {y : β} : y ∈ ys ↔ ∃ x ∈ xs, f x = .ok y := by
  rw [← List.mem_map, mapM_eq_ok_iff_map.mp each, List.mem_map_of_injective]
  intro y z same
  exact Except.ok.inj same

theorem exists_mapM_eq_ok_iff {f : α → Except ε β} {xs : List α} :
    (∃ ys, xs.mapM f = .ok ys) ↔ ∀ x ∈ xs, ∃ y, f x = .ok y := by
  induction xs with
  | nil => simp
  | cons x rest ih =>
    rw [List.forall_mem_cons, ← ih]
    constructor
    · rintro ⟨ys, ok⟩
      cases mapM_eq_ok_iff.mp ok with
      | cons head tail => exact ⟨⟨_, head⟩, _, mapM_eq_ok_iff.mpr tail⟩
    · rintro ⟨⟨y, head⟩, ys, tail⟩
      exact ⟨y :: ys, mapM_eq_ok_iff.mpr (.cons head (mapM_eq_ok_iff.mp tail))⟩

/-- A list can be gone through with results of a kind exactly if every item has such a result. -/
theorem exists_mapM_forall_iff {f : α → Except ε β} {xs : List α} {p : β → Prop} :
    (∃ ys, xs.mapM f = .ok ys ∧ ∀ y ∈ ys, p y) ↔ ∀ x ∈ xs, ∃ y, f x = .ok y ∧ p y := by
  constructor
  · rintro ⟨ys, each, holds⟩ x member
    obtain ⟨y, result⟩ := exists_mapM_eq_ok_iff.mp ⟨ys, each⟩ x member
    exact ⟨y, result, holds y ((mem_iff_of_mapM each).mpr ⟨x, member, result⟩)⟩
  · intro each
    obtain ⟨ys, collected⟩ := exists_mapM_eq_ok_iff.mpr fun x member =>
      (each x member).imp fun _ => And.left
    refine ⟨ys, collected, fun y member => ?_⟩
    obtain ⟨x, there, result⟩ := (mem_iff_of_mapM collected).mp member
    obtain ⟨y', result', holds⟩ := each x there
    cases result.symm.trans result'
    exact holds

/-- Results that are there already are collected if all of them succeed. -/
theorem mapM_id_eq_ok_iff {xs : List (Except ε β)} {ys : List β} :
    xs.mapM id = .ok ys ↔ xs = ys.map .ok := by
  rw [mapM_eq_ok_iff_map, List.map_id]

/-- Results that are there already are not collected if one of them, the first, is a failure. -/
theorem mapM_id_eq_error_iff {xs : List (Except ε β)} {e : ε} :
    xs.mapM id = .error e ↔
      ∃ (ys : List β) (later : List (Except ε β)), xs = ys.map .ok ++ .error e :: later := by
  rw [mapM_eq_error_iff]
  constructor
  · rintro ⟨before, x, after, rfl, fine, stop⟩
    obtain ⟨ys, each⟩ := exists_mapM_eq_ok_iff.mpr fine
    exact ⟨ys, after, by rw [mapM_id_eq_ok_iff.mp each, ← stop, id]⟩
  · rintro ⟨ys, later, rfl⟩
    exact ⟨ys.map .ok, .error e, later, rfl, by simp, rfl⟩

/-- What holds of all items holds of all results, if it agrees item by item. -/
theorem forall_mem_iff_of_mapM {f : α → Except ε β} {xs : List α} {ys : List β} {p : α → Prop}
    {q : β → Prop} (each : xs.mapM f = .ok ys)
    (agree : ∀ x ∈ xs, ∀ y, f x = .ok y → (p x ↔ q y)) : (∀ x ∈ xs, p x) ↔ ∀ y ∈ ys, q y := by
  constructor
  · intro holds y member
    obtain ⟨x, there, result⟩ := (mem_iff_of_mapM each).mp member
    exact (agree x there y result).mp (holds x there)
  · intro holds x member
    obtain ⟨y, result⟩ := exists_mapM_eq_ok_iff.mp ⟨ys, each⟩ x member
    exact (agree x member y result).mpr (holds y ((mem_iff_of_mapM each).mpr ⟨x, member, result⟩))

/-- What holds of all items holds of all items with their results, if it agrees item by item. -/
theorem forall_mem_iff_forall₂_of_mapM {f : α → Except ε β} {xs : List α} {ys : List β}
    {p : α → Prop} {q : α → β → Prop} (each : xs.mapM f = .ok ys)
    (agree : ∀ x ∈ xs, ∀ y, f x = .ok y → (p x ↔ q x y)) :
    (∀ x ∈ xs, p x) ↔ List.Forall₂ q xs ys := by
  rw [mapM_eq_ok_iff] at each
  induction each with
  | nil => simp
  | @cons x y xs ys first rest ih =>
    have later := ih fun z member => agree z (List.mem_cons_of_mem _ member)
    rw [List.forall_mem_cons, List.forall₂_cons, later, agree x List.mem_cons_self y first]

/-- To go through some of the items gives some of the results, if these can be told apart like the
items. -/
theorem mapM_filter {f : α → Except ε β} {xs : List α} {ys : List β} {p : α → Bool} {q : β → Bool}
    (each : xs.mapM f = .ok ys) (agree : ∀ x y, f x = .ok y → q y = p x) :
    (xs.filter p).mapM f = .ok (ys.filter q) := by
  rw [mapM_eq_ok_iff] at each ⊢
  induction each with
  | nil => exact .nil
  | @cons x y _ _ head _ ih =>
    rw [List.filter_cons, List.filter_cons, agree x y head]
    cases p x with
    | true => exact .cons head ih
    | false => exact ih

theorem mapM_eq_ok_map {f : α → Except ε β} {g : α → β} {xs : List α}
    (each : ∀ x ∈ xs, f x = .ok (g x)) : xs.mapM f = .ok (xs.map g) := by
  rw [mapM_eq_ok_iff, List.forall₂_map_right_iff, List.forall₂_same]
  exact each

/-- Where the first of two steps succeeds for every item, going through a list by both steps is
going through the results of the first. -/
theorem mapM_bind_of_ok {f : α → Except ε β} {xs : List α} {ys : List β}
    (firsts : xs.mapM f = .ok ys) (g : β → Except ε γ) :
    (xs.mapM fun x => f x >>= g) = ys.mapM g := by
  have related := mapM_eq_ok_iff.mp firsts
  clear firsts
  induction related with
  | nil => rfl
  | cons head _ ih => rw [List.mapM_cons, List.mapM_cons, head, ok_bind, ih]

/-- To change every result is to change the results. -/
theorem mapM_map (f : α → Except ε β) (g : β → γ) (xs : List α) :
    (xs.mapM fun x => g <$> f x) = List.map g <$> xs.mapM f := by
  induction xs with
  | nil => rfl
  | cons x rest ih =>
    rw [List.mapM_cons, List.mapM_cons, ih]
    cases f x with
    | error e => rfl
    | ok y => cases rest.mapM f <;> rfl

theorem mapM_map_of_ok {f : α → Except ε β} {xs : List α} {ys : List β}
    (firsts : xs.mapM f = .ok ys) (g : β → γ) :
    (xs.mapM fun x => g <$> f x) = .ok (ys.map g) := by
  rw [mapM_map, firsts]
  rfl

/-- A list that can be gone through by two steps can be gone through by the first of them. -/
theorem exists_mapM_of_bind {f : α → Except ε β} {g : β → Except ε γ} {xs : List α} {zs : List γ}
    (both : (xs.mapM fun x => f x >>= g) = .ok zs) : ∃ ys, xs.mapM f = .ok ys := by
  refine exists_mapM_eq_ok_iff.mpr fun x member => ?_
  obtain ⟨z, ok⟩ := exists_mapM_eq_ok_iff.mp ⟨zs, both⟩ x member
  obtain ⟨y, first, -⟩ := bind_eq_ok_iff.mp ok
  exact ⟨y, first⟩

/-- What every step keeps, a run that succeeds keeps. -/
theorem foldlM_keeps {f : β → α → Except ε β} {P : β → Prop}
    (step : ∀ b a b', P b → f b a = .ok b' → P b') {xs : List α} {b b' : β} (start : P b)
    (run : xs.foldlM f b = .ok b') : P b' := by
  induction xs generalizing b with
  | nil =>
    cases run
    exact start
  | cons x rest ih =>
    rw [List.foldlM_cons, bind_eq_ok_iff] at run
    obtain ⟨middle, first, run⟩ := run
    exact ih (step b x middle start first) run

/-- Where every step succeeds whatever went before, a run is a fold. -/
theorem foldlM_eq_ok_foldl {f : β → α → Except ε β} {g : β → α → β} {xs : List α}
    (step : ∀ x ∈ xs, ∀ b, f b x = .ok (g b x)) (b : β) : xs.foldlM f b = .ok (xs.foldl g b) := by
  induction xs generalizing b with
  | nil => rfl
  | cons x rest ih =>
    rw [List.foldlM_cons, step x List.mem_cons_self, ok_bind, List.foldl_cons]
    exact ih (fun y member => step y (List.mem_cons_of_mem _ member)) (g b x)

/-- A lifted result succeeds exactly if the result does. -/
theorem ofFault_eq_ok_iff {x : Except Fault α} {a : α} :
    (Attempt.ofFault x : Attempt ε α) = .ok a ↔ x = .ok a := by
  cases x <;> simp [Attempt.ofFault]

/-- A lifted result fails exactly by the fault of the result. -/
theorem ofFault_eq_fault_iff {x : Except Fault α} {f : Fault} :
    (Attempt.ofFault x : Attempt ε α) = .error (.fault f) ↔ x = .error f := by
  cases x <;> simp [Attempt.ofFault]

@[simp] theorem liftM_eq_ofFault (x : Except Fault α) :
    (liftM x : Attempt ε α) = Attempt.ofFault x := rfl

@[simp] theorem ofFault_ok (a : α) : (Attempt.ofFault (.ok a) : Attempt ε α) = .ok a := rfl

@[simp] theorem ofFault_ne_refused (x : Except Fault α) (e : ε) :
    (Attempt.ofFault x : Attempt ε α) ≠ .error (.refused e) := by
  cases x <;> simp [Attempt.ofFault]

@[simp] theorem refuse_ne_ok (e : ε) (a : α) : (refuse e : Attempt ε α) ≠ .ok a := by
  simp [refuse]

section Decidable

/-! A result can be computed, so it can be decided how it ends. -/

instance decidableExistsOk (r : Except ε α) : Decidable (∃ a, r = .ok a) :=
  match r with
  | .ok a => .isTrue ⟨a, rfl⟩
  | .error _ => .isFalse fun ⟨_, same⟩ => nomatch same

instance decidableExistsOkAnd (r : Except ε α) (p : α → Prop) [DecidablePred p] :
    Decidable (∃ a, r = .ok a ∧ p a) :=
  match r with
  | .ok a => decidable_of_iff (p a) (by simp)
  | .error _ => .isFalse fun ⟨_, same, _⟩ => nomatch same

instance decidableEqOk [DecidableEq α] (r : Except ε α) (a : α) : Decidable (r = .ok a) :=
  match r with
  | .ok b => decidable_of_iff (b = a) (by simp)
  | .error _ => .isFalse fun same => nomatch same

instance decidableEqOkNil (r : Except ε (List α)) : Decidable (r = .ok []) :=
  match r with
  | .ok [] => .isTrue rfl
  | .ok (_ :: _) | .error _ => .isFalse fun same => nomatch same

instance decidableEqFault (r : Attempt ε α) (f : Fault) : Decidable (r = .error (.fault f)) :=
  match r with
  | .error (.fault other) => decidable_of_iff (other = f) (by simp)
  | .error (.refused _) | .ok _ => .isFalse fun same => nomatch same

instance decidableEqRefuse [DecidableEq ε] (r : Attempt ε α) (e : ε) : Decidable (r = refuse e) :=
  match r with
  | .error (.refused other) => decidable_of_iff (other = e) (by simp [refuse])
  | .error (.fault _) | .ok _ => .isFalse fun same => nomatch same

end Decidable

end TableDdl.Result
