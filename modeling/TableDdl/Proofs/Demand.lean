import TableDdl.Proofs.Result

/-!
# Demands

Whatever is read makes demands, one after the other, and the first demand that is not met decides
how the reading ends. Some demands are reported if they are not met: the input is then refused for
a reason. Others are not, and a fault passes through. So a reading is described by the list of its
demands: it succeeds if all of them are met, and otherwise it ends as the first unmet one says.
-/

namespace TableDdl

/-- What is demanded, and the condition under which it is reported when it is not met. -/
structure Demand where
  met : Prop
  reported : Prop

/-- A demand that is never reported. -/
def Demand.silent (met : Prop) : Demand := ⟨met, False⟩

/-- The first of the demands that is not met. -/
def FirstUnmet (demands : List Demand) (d : Demand) : Prop :=
  ∃ before after, demands = before ++ d :: after ∧ (∀ b ∈ before, b.met) ∧ ¬ d.met

theorem firstUnmet_cons_of_met {d first : Demand} {rest : List Demand} (met : first.met) :
    FirstUnmet (first :: rest) d ↔ FirstUnmet rest d := by
  constructor
  · rintro ⟨before, after, split, all, unmet⟩
    cases before with
    | nil =>
      obtain ⟨rfl, -⟩ := List.cons.inj split
      exact absurd met unmet
    | cons b before =>
      obtain ⟨-, tail⟩ := List.cons.inj split
      exact ⟨before, after, tail, fun b member => all b (List.mem_cons_of_mem _ member), unmet⟩
  · rintro ⟨before, after, rfl, all, unmet⟩
    exact ⟨first :: before, after, rfl, List.forall_mem_cons.mpr ⟨met, all⟩, unmet⟩

theorem firstUnmet_cons_of_unmet {d first : Demand} {rest : List Demand} (unmet : ¬ first.met) :
    FirstUnmet (first :: rest) d ↔ d = first := by
  constructor
  · rintro ⟨before, after, split, all, -⟩
    cases before with
    | nil => exact (List.cons.inj split).1.symm
    | cons b before =>
      obtain ⟨rfl, -⟩ := List.cons.inj split
      exact absurd (all _ List.mem_cons_self) unmet
  · rintro rfl
    exact ⟨[], rest, rfl, fun _ member => absurd member List.not_mem_nil, unmet⟩

variable {ε α β : Type}

/-- An attempt ends by a refusal under a condition, and by a fault otherwise. -/
inductive Reports (reported : Prop) (r : Attempt ε α) : Prop
  | refused (reason : ε) (holds : reported) (same : r = refuse reason)
  | faulted (f : Fault) (fails : ¬ reported) (same : r = .error (.fault f))

namespace Reports

variable {p q : Prop} {r : Attempt ε α}

theorem refuse (reason : ε) : Reports True (TableDdl.refuse reason : Attempt ε α) :=
  .refused reason trivial rfl

theorem fault (f : Fault) : Reports False (.error (.fault f) : Attempt ε α) :=
  .faulted f not_false rfl

theorem congr (h : Reports p r) (same : p ↔ q) : Reports q r := by
  rwa [← propext same]

/-- What is needed to report something is looked at first. -/
theorem lift_bind {x : Except Fault β} {f : β → Attempt ε α} (sayable : (∃ b, x = .ok b) ↔ q)
    (later : ∀ b, x = .ok b → Reports p (f b)) : Reports (q ∧ p) (Attempt.ofFault x >>= f) := by
  rw [← sayable]
  cases x with
  | error e => exact .faulted e (by simp) rfl
  | ok b => exact (later b rfl).congr (by simp)

end Reports

/-- An attempt ends as a list of demands says. -/
inductive Decides : List Demand → Attempt ε α → Prop
  | granted (a : α) : Decides [] (.ok a)
  | goesOn {d : Demand} {rest : List Demand} {r : Attempt ε α} (met : d.met)
      (later : Decides rest r) : Decides (d :: rest) r
  | ends {d : Demand} {rest : List Demand} {r : Attempt ε α} (unmet : ¬ d.met)
      (last : Reports d.reported r) : Decides (d :: rest) r

namespace Decides

variable {demands others : List Demand} {r : Attempt ε α}

/-- An attempt ends as the first demand says if it does so whether or not the demand is met. -/
theorem cons {d : Demand} (goesOn : d.met → Decides demands r)
    (ends : ¬ d.met → Reports d.reported r) : Decides (d :: demands) r := by
  by_cases met : d.met
  · exact .goesOn met (goesOn met)
  · exact .ends met (ends met)

/-- The demands of what is done next come after those of what is done first. -/
theorem bind {x : Attempt ε α} {f : α → Attempt ε β} (first : Decides demands x)
    (next : ∀ a, x = .ok a → Decides others (f a)) : Decides (demands ++ others) (x >>= f) := by
  induction first with
  | granted a => exact next a rfl
  | goesOn met _ ih => exact .goesOn met (ih next)
  | ends unmet last =>
    refine .ends unmet ?_
    cases last with
    | refused reason holds same => exact .refused reason holds (by rw [same]; rfl)
    | faulted f fails same => exact .faulted f fails (by rw [same]; rfl)

/-- What only changes the result makes no demands. -/
theorem bind_ok {x : Attempt ε α} (first : Decides demands x) (g : α → β) :
    Decides demands (x >>= fun a => .ok (g a)) := by
  have both := first.bind (f := fun a => .ok (g a)) fun a _ => .granted (g a)
  rwa [List.append_nil] at both

/-- A step that only a fault can end makes one demand, which is never reported. -/
theorem lift_bind {p : Prop} {x : Except Fault β} {f : β → Attempt ε α}
    (possible : (∃ b, x = .ok b) ↔ p) (next : ∀ b, x = .ok b → Decides demands (f b)) :
    Decides (.silent p :: demands) (Attempt.ofFault x >>= f) := by
  rw [← possible]
  cases x with
  | error e =>
    refine .ends ?_ (Reports.fault e)
    rintro ⟨b, other⟩
    cases other
  | ok b => exact .goesOn ⟨b, rfl⟩ (next b rfl)

/-- Going through a list item by item makes the demands of the items. -/
theorem mapM {f : β → Attempt ε α} {each : β → List Demand} (step : ∀ b, Decides (each b) (f b))
    (items : List β) : Decides (items.flatMap each) (items.mapM f) := by
  induction items with
  | nil => exact .granted []
  | cons item rest ih =>
    rw [List.mapM_cons, List.flatMap_cons]
    exact (step item).bind fun a _ => ih.bind_ok (a :: ·)

/-- Going through a list with a state makes the demands of the items, if these do not depend on
more of the state than every step keeps. -/
theorem foldlM {step : α → β → Attempt ε α} {each : β → List Demand} {P : α → Prop}
    (decided : ∀ a b, P a → Decides (each b) (step a b))
    (keeps : ∀ a b a', P a → step a b = .ok a' → P a') (items : List β) {a : α} (start : P a) :
    Decides (items.flatMap each) (items.foldlM step a) := by
  induction items generalizing a with
  | nil => exact .granted a
  | cons item rest ih =>
    rw [List.foldlM_cons, List.flatMap_cons]
    exact (decided a item start).bind fun a' taken => ih (keeps a item a' start taken)

theorem exists_ok_iff (decides : Decides demands r) :
    (∃ a, r = .ok a) ↔ ∀ d ∈ demands, d.met := by
  induction decides with
  | granted a => simp
  | goesOn met _ ih => simp [ih, met]
  | ends unmet last =>
    constructor
    · rintro ⟨a, rfl⟩
      cases last <;> rename_i same <;> cases same
    · intro all
      exact absurd (all _ List.mem_cons_self) unmet

/-- An attempt that does not succeed ends as its first unmet demand says. -/
theorem reports_of_firstUnmet (decides : Decides demands r) {d : Demand}
    (first : FirstUnmet demands d) : Reports d.reported r := by
  induction decides with
  | granted a =>
    obtain ⟨before, after, split, -⟩ := first
    simp at split
  | goesOn met _ ih => exact ih ((firstUnmet_cons_of_met met).mp first)
  | ends unmet last =>
    obtain rfl := (firstUnmet_cons_of_unmet unmet).mp first
    exact last

theorem exists_ok_or_firstUnmet (decides : Decides demands r) :
    (∃ a, r = .ok a) ∨ ∃ d, FirstUnmet demands d := by
  induction decides with
  | granted a => exact .inl ⟨a, rfl⟩
  | goesOn met _ ih =>
    rcases ih with ok | ⟨d, first⟩
    · exact .inl ok
    · exact .inr ⟨d, (firstUnmet_cons_of_met met).mpr first⟩
  | @ends d _ _ unmet _ => exact .inr ⟨d, (firstUnmet_cons_of_unmet unmet).mpr rfl⟩

end Decides

/-- An attempt succeeds or is refused; no fault passes through. -/
def Documented (r : Attempt ε α) : Prop :=
  (∃ a, r = .ok a) ∨ ∃ reason, r = refuse reason

theorem not_documented_of_fault {r : Attempt ε α} {f : Fault} (passed : r = .error (.fault f)) :
    ¬ Documented r := by
  rw [passed]
  rintro (⟨a, other⟩ | ⟨reason, other⟩) <;> cases other

theorem Reports.documented_iff {reported : Prop} {r : Attempt ε α} (h : Reports reported r) :
    Documented r ↔ reported := by
  cases h with
  | refused reason holds same => exact iff_of_true (.inr ⟨reason, same⟩) holds
  | faulted f fails same => exact iff_of_false (not_documented_of_fault same) fails

/-- No fault passes through exactly if the first unmet demand is a reported one. -/
theorem Decides.documented_iff {demands : List Demand} {r : Attempt ε α}
    (decides : Decides demands r) :
    Documented r ↔ ∀ d, FirstUnmet demands d → d.reported := by
  constructor
  · intro documented d first
    exact (decides.reports_of_firstUnmet first).documented_iff.mp documented
  · intro reported
    rcases decides.exists_ok_or_firstUnmet with ok | ⟨d, first⟩
    · exact .inl ok
    · exact (decides.reports_of_firstUnmet first).documented_iff.mpr (reported d first)

/-- An attempt is refused exactly if there is a first unmet demand and it is a reported one. -/
theorem Decides.exists_refuse_iff {demands : List Demand} {r : Attempt ε α}
    (decides : Decides demands r) :
    (∃ reason, r = refuse reason) ↔ ∃ d, FirstUnmet demands d ∧ d.reported := by
  constructor
  · rintro ⟨reason, rfl⟩
    rcases decides.exists_ok_or_firstUnmet with ⟨a, impossible⟩ | ⟨d, first⟩
    · exact absurd impossible (Result.refuse_ne_ok reason a)
    · exact ⟨d, first,
        (decides.reports_of_firstUnmet first).documented_iff.mp (.inr ⟨reason, rfl⟩)⟩
  · rintro ⟨d, first, reported⟩
    cases decides.reports_of_firstUnmet first with
    | refused reason holds same => exact ⟨reason, same⟩
    | faulted f fails same => exact absurd reported fails

/-- No fault passes through if every demand is met or reported. -/
theorem Decides.documented_of_forall {demands : List Demand} {r : Attempt ε α}
    (decides : Decides demands r) (all : ∀ d ∈ demands, d.met ∨ d.reported) : Documented r := by
  rw [decides.documented_iff]
  rintro d ⟨before, after, rfl, -, unmet⟩
  exact (all d (by simp)).resolve_left unmet

end TableDdl
