import PcmPlayback.Deck

/-!
# Sessions

A session is a deck on a manual clock. Steps on the deck take no time, and moving the clock
touches nothing else: the timer notices a move only when it is polled.
-/

set_option autoImplicit false

namespace PcmPlayback

structure Session where
  clock : ManualClock
  deck : Deck

namespace Session

/-- A step of a session: a move of the clock or a step on the deck. -/
inductive Step where
  | clock (move : ManualClock.Move)
  | deck (step : Deck.Step)

/-- What a step shows: the new reading of the clock, or the reply and the view of the deck. -/
inductive Entry where
  | clock (now : Tick)
  | deck (reply : Deck.Reply) (view : Deck.View)
  deriving Repr, DecidableEq

def begin (template : Template) (clock : ManualClock) : Except Error Session :=
  match template.build clock.ticksPerSecond with
  | .ok device => .ok ⟨clock, { device := device }⟩
  | .error cause => .error cause

def step (session : Session) : Step → Session × Entry
  | .clock move =>
      let clock := session.clock.move move
      ({ session with clock := clock }, .clock clock.now)
  | .deck step =>
      let (deck, reply, view) := session.deck.step session.clock.now step
      ({ session with deck := deck }, .deck reply view)

def run (session : Session) : List Step → Session × List Entry
  | [] => (session, [])
  | step :: rest =>
      let (next, entry) := session.step step
      let (last, entries) := next.run rest
      (last, entry :: entries)

end Session

end PcmPlayback
