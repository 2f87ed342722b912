import TableDdl.Fault

/-!
# Failures

An operation of the library fails in one of two ways: it refuses its input for a reason of its
own, or a fault passes through it.
-/

namespace TableDdl

/-- A failure: a refusal for a reason of type `ε`, or a fault. -/
inductive Failure (ε : Type) where
  | refused (reason : ε)
  | fault (f : Fault)
  deriving Repr

/-- Results of an operation that refuses for reasons of type `ε`. -/
abbrev Attempt (ε α : Type) := Except (Failure ε) α

/-- A fault passes through every operation. -/
def Attempt.ofFault {ε α : Type} : Except Fault α → Attempt ε α
  | .ok a => .ok a
  | .error f => .error (.fault f)

instance {ε : Type} : MonadLift (Except Fault) (Except (Failure ε)) where
  monadLift := Attempt.ofFault

/-- Refuse an input. -/
def refuse {ε α : Type} (reason : ε) : Attempt ε α :=
  .error (.refused reason)

/-- Change the reasons of an operation. -/
def Failure.mapReason {ε δ : Type} (g : ε → δ) : Failure ε → Failure δ
  | .refused reason => .refused (g reason)
  | .fault f => .fault f

end TableDdl
