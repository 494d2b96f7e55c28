import PcmPlayback.Error

/-!
# Outcomes

An operation ends in one of three ways. It gives a value; it is refused for a cause that the
caller is told; or it faults, because a number left its word or a caller broke a rule. What a
faulting operation changed before the fault stays changed, so operations return the state they
reached beside their outcome.
-/

set_option autoImplicit false

namespace PcmPlayback

/-- How an operation ended. -/
inductive Outcome (α : Type) where
  | done (value : α)
  | rejected (cause : Error)
  | fault
  deriving Repr, DecidableEq

namespace Outcome

def isDone {α : Type} : Outcome α → Bool
  | .done _ => true
  | .rejected _ => false
  | .fault => false

def map {α β : Type} (f : α → β) : Outcome α → Outcome β
  | .done value => .done (f value)
  | .rejected cause => .rejected cause
  | .fault => .fault

/-- The outcome of an operation whose value is missing exactly when it faults. -/
def ofOption {α : Type} : Option α → Outcome α
  | some value => .done value
  | none => .fault

end Outcome

end PcmPlayback
