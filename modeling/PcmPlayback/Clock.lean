import PcmPlayback.Tick

/-!
# Clocks

A clock has a tick rate and a reading. A manual clock moves only when it is told to, so there is
no time to sleep until it gets anywhere. A steady clock follows real time, and reports how long
to sleep for a number of ticks: the least time that never wakes early, whatever the phase.
-/

set_option autoImplicit false

namespace PcmPlayback

def nanosPerSecond : Nat := 1000000000

/-- A clock that moves when told to. -/
structure ManualClock where
  ticksPerSecond : UInt64
  now : Tick
  deriving Repr, DecidableEq

namespace ManualClock

/-- A clock at tick zero. A clock has to tick. -/
def ofRate? (ticksPerSecond : UInt64) : Option ManualClock :=
  if ticksPerSecond = 0 then none else some ⟨ticksPerSecond, 0⟩

/-- Moves forward by a number of ticks; the counter wraps. -/
def forward (clock : ManualClock) (ticks : UInt64) : ManualClock :=
  { clock with now := clock.now + ticks }

/-- Moves forward to a tick. An earlier tick is ignored. -/
def moveTo (clock : ManualClock) (tick : Tick) : ManualClock :=
  { clock with now := max clock.now tick }

inductive Move where
  | forward (ticks : UInt64)
  | moveTo (tick : Tick)
  deriving Repr, DecidableEq

def move (clock : ManualClock) : Move → ManualClock
  | .forward ticks => clock.forward ticks
  | .moveTo tick => clock.moveTo tick

/-- Time to sleep for a number of ticks: none, since the clock does not move by itself. -/
def sleep? (_clock : ManualClock) (_ticks : UInt64) : Option Nat := none

end ManualClock

/-- A clock that follows real time. -/
structure SteadyClock where
  ticksPerSecond : UInt64
  deriving Repr, DecidableEq

namespace SteadyClock

/-- A clock of the given rate. A clock has to tick. -/
def ofRate? (ticksPerSecond : UInt64) : Option SteadyClock :=
  if ticksPerSecond = 0 then none else some ⟨ticksPerSecond⟩

/-- The coarse clock of a system: a thousand ticks in a second. -/
def coarse : SteadyClock := ⟨1000⟩

/-- The fine clock of a system: a tick in a nanosecond. -/
def fine : SteadyClock := ⟨1000000000⟩

/-- The reading a number of nanoseconds after the clock was made. -/
def reading (clock : SteadyClock) (nanoseconds : Nat) : Tick :=
  UInt64.ofNat (nanoseconds * clock.ticksPerSecond.toNat / nanosPerSecond)

/-- Nanoseconds to sleep for a number of ticks, rounded up and at most a word. -/
def sleep? (clock : SteadyClock) (ticks : UInt64) : Option Nat :=
  some (min (divUp (ticks.toNat * nanosPerSecond) clock.ticksPerSecond.toNat) (wordLimit - 1))

end SteadyClock

end PcmPlayback
