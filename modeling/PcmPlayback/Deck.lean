import PcmPlayback.Device.Timer

/-!
# Decks

A deck is a device together with the waiters that follow it. This module gives the steps that can
be taken on a deck while its clock stands still, and what an observer sees after each.
-/

set_option autoImplicit false

namespace PcmPlayback

/-- A device and its waiters, numbered in the order they joined. -/
structure Deck where
  device : Device
  waiters : List Waiter := []

namespace Deck

/-- One step on a deck. A poll makes the timer compare its expiry with the clock. -/
inductive Step where
  | call (call : Call)
  | poll
  | join
  | tryWait (waiter : Nat)
  | waitFor (waiter : Nat) (milliseconds : Nat)
  | wait (waiter : Nat)
  | total (waiter : Nat)

inductive Reply where
  | answered (reply : PcmPlayback.Reply)
  | polled
  | joined (waiter : Nat)
  | woke (arrived : Bool)
  | wouldBlock
  | total (periods : Nat)
  | noSuchWaiter
  deriving Repr, DecidableEq

/-- What an observer sees once a step is over and the timer is at rest. The waits are the ticks
for which the timer went to sleep during the step. -/
structure View where
  stage : Stage
  active : Bool
  periods : Nat
  runs : List CallbackRun
  waits : List Nat
  deriving Repr, DecidableEq

/-- The view of a deck, with what happened during the step. -/
def view (deck : Deck) (runs : List CallbackRun) (waits : List Nat) : View where
  stage := deck.device.stage
  active := deck.device.active
  periods := deck.device.delivery.periods
  runs := runs
  waits := waits

/-- Lets a waiter wake if it can. -/
def wake (deck : Deck) (waiter : Nat) : Option (Bool × Deck) :=
  deck.waiters[waiter]?.map fun found =>
    let (arrived, next) := found.wake deck.device.delivery
    (arrived, { deck with waiters := deck.waiters.set waiter next })

/-- Lets a waiter wait with a limit. The timer rests meanwhile, so nothing is delivered. -/
def waitFor (deck : Deck) (waiter milliseconds : Nat) : Option (Bool × Deck) :=
  deck.waiters[waiter]?.map fun found =>
    let (arrived, next) := found.waitFor (fun _ => deck.device.delivery) milliseconds
    (arrived, { deck with waiters := deck.waiters.set waiter next })

theorem waitFor_eq_wake (deck : Deck) (waiter milliseconds : Nat) :
    deck.waitFor waiter milliseconds = deck.wake waiter := by
  simp only [waitFor, wake, Waiter.waitFor_still]

/-- Makes a call on the device. A timer that the call has armed goes to sleep. -/
def call (deck : Deck) (now : Tick) (call : Call) : Deck × PcmPlayback.Reply × View :=
  let (device, reply) := deck.device.answer now call
  let next := { deck with device := device }
  let waits := if deck.device.expiry.isNone then (device.wait? now).toList else []
  (next, reply, next.view [] waits)

/-- Polls the timer, which goes to sleep again if it is still armed. -/
def poll (deck : Deck) (now : Tick) : Deck × View :=
  let (device, run) := deck.device.poll now
  let next := { deck with device := device }
  (next, next.view run.toList (device.wait? now).toList)

def step (deck : Deck) (now : Tick) : Step → Deck × Reply × View
  | .call call =>
      let (next, reply, view) := deck.call now call
      (next, .answered reply, view)
  | .poll =>
      let (next, view) := deck.poll now
      (next, .polled, view)
  | .join =>
      let next :=
        { deck with waiters := deck.waiters ++ [Waiter.join deck.device.delivery] }
      (next, .joined deck.waiters.length, next.view [] [])
  | .tryWait waiter =>
      match deck.wake waiter with
      | some (arrived, next) => (next, .woke arrived, next.view [] [])
      | none => (deck, .noSuchWaiter, deck.view [] [])
  | .waitFor waiter milliseconds =>
      match deck.waitFor waiter milliseconds with
      | some (arrived, next) => (next, .woke arrived, next.view [] [])
      | none => (deck, .noSuchWaiter, deck.view [] [])
  | .wait waiter =>
      match deck.wake waiter with
      | some (true, next) => (next, .woke true, next.view [] [])
      | some (false, next) => (next, .wouldBlock, next.view [] [])
      | none => (deck, .noSuchWaiter, deck.view [] [])
  | .total waiter =>
      match deck.waiters[waiter]? with
      | some _ => (deck, .total deck.device.delivery.periods, deck.view [] [])
      | none => (deck, .noSuchWaiter, deck.view [] [])

def free (deck : Deck) : Deck := { deck with device := deck.device.free }

end Deck

end PcmPlayback
