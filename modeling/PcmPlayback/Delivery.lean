import PcmPlayback.Outcome
import PcmPlayback.Word

/-!
# Delivery of completed periods

Each notification raises an edge and adds the completed periods to a total. A waiter remembers
the last edge it saw, so it wakes once for all that arrived since, and waiters do not disturb one
another.
-/

set_option autoImplicit false

namespace PcmPlayback

/-- What has been delivered so far: the notifications and the periods they covered. -/
structure Delivery where
  edges : Nat := 0
  periods : Nat := 0
  deriving Repr, DecidableEq

namespace Delivery

/-- Counts a notification. Both counters are words; a counter that would leave its word is a fault
and keeps its number, and the edges are counted before the periods. -/
def raise (delivery : Delivery) (count : Nat) : Delivery × Outcome Unit :=
  if wordLimit ≤ delivery.edges + 1 then (delivery, .fault)
  else
    let raised := { delivery with edges := delivery.edges + 1 }
    if wordLimit ≤ delivery.periods + count then (raised, .fault)
    else ({ raised with periods := delivery.periods + count }, .done ())

end Delivery

/-- A consumer that wakes on new edges. -/
structure Waiter where
  seen : Nat
  deriving Repr, DecidableEq

namespace Waiter

/-- A waiter for the edges to come. -/
def join (delivery : Delivery) : Waiter := ⟨delivery.edges⟩

/-- Whether an edge has come since the waiter last woke. -/
def isDue (waiter : Waiter) (delivery : Delivery) : Bool := waiter.seen != delivery.edges

/-- Wakes if an edge has come, and then has seen all there are. -/
def wake (waiter : Waiter) (delivery : Delivery) : Bool × Waiter :=
  if waiter.isDue delivery then (true, ⟨delivery.edges⟩) else (false, waiter)

/-- What a sleeper finds delivered when it gets up: after the first millisecond that brings an
edge, or when the time left is over. What has been delivered after each millisecond is given. -/
def sleep (waiter : Waiter) (delivered : Nat → Delivery) (slept : Nat) : Nat → Delivery
  | 0 => delivered slept
  | left + 1 =>
      if waiter.isDue (delivered slept) then delivered slept
      else waiter.sleep delivered (slept + 1) left

/-- Waits for an edge, but no longer than some milliseconds. A waiter that has missed an edge does
not sleep; any other looks again when it gets up. -/
def waitFor (waiter : Waiter) (delivered : Nat → Delivery) (milliseconds : Nat) : Bool × Waiter :=
  let found :=
    if waiter.isDue (delivered 0) then delivered 0
    else waiter.sleep delivered 0 milliseconds
  if waiter.isDue found then (true, ⟨found.edges⟩) else (false, waiter)

theorem sleep_still (waiter : Waiter) (delivery : Delivery) (slept left : Nat) :
    waiter.sleep (fun _ => delivery) slept left = delivery := by
  induction left generalizing slept with
  | zero => rfl
  | succ left ih => rw [sleep, ih, ite_self]

/-- While nothing is delivered, a wait with a limit comes to the same as an attempt. -/
theorem waitFor_still (waiter : Waiter) (delivery : Delivery) (milliseconds : Nat) :
    waiter.waitFor (fun _ => delivery) milliseconds = waiter.wake delivery := by
  rw [waitFor, sleep_still, ite_self]
  rfl

end Waiter

end PcmPlayback
