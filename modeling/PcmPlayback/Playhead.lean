import PcmPlayback.Outcome
import PcmPlayback.Setup
import PcmPlayback.Tick

/-!
# Playheads

A playhead turns clock ticks into a position in the ring buffer and a count of completed periods.
Positions are kept in frames times ticks per second: one tick moves the playhead by the frame
rate, one frame is as long as the tick rate, and nothing is ever rounded. A late or irregular
update is therefore as exact as a timely one.
-/

set_option autoImplicit false

namespace PcmPlayback

/-- A stream setup measured against a clock of the given tick rate. -/
structure Timing where
  setup : StreamSetup
  ticksPerSecond : UInt64
  deriving Repr, DecidableEq

namespace Timing

/-- Length of the buffer, in frames times ticks per second. -/
def bufferSpan (timing : Timing) : Nat :=
  timing.setup.bufferFrames.toNat * timing.ticksPerSecond.toNat

/-- Length of a period, in frames times ticks per second. -/
def periodSpan (timing : Timing) : Nat :=
  timing.setup.periodFrames.toNat * timing.ticksPerSecond.toNat

/-- Distance covered in one tick. -/
def speed (timing : Timing) : Nat := timing.setup.rate.toNat

/-- Whole ticks that cover a distance, at least one and at most a word. -/
def ticksFor (timing : Timing) (distance : Nat) : Nat :=
  min (max 1 (divUp distance timing.speed)) (wordLimit - 1)

/-- Whole ticks that cover a period. -/
def periodTicks (timing : Timing) : Nat := timing.ticksFor timing.periodSpan

end Timing

/-- How far playback has come since it was last rewound: the offset in the buffer, the rest of
the present period, and the completed periods that nobody has been told about. -/
structure Progress where
  timing : Timing
  offset : Nat
  rest : Nat
  pending : Nat
  deriving Repr, DecidableEq

namespace Progress

/-- The start of the buffer, with the whole first period ahead. -/
def start (timing : Timing) : Progress where
  timing := timing
  offset := 0
  rest := timing.periodSpan
  pending := 0

/-- Moves on by a distance. Every boundary at or before the new place counts, however many there
are; the count to be added is cut to a word and the sum stays at the largest word. Sums that leave
a double word fault: the first before anything changes, the second after the offset and the count
have changed. -/
def move (progress : Progress) (distance : Nat) : Progress × Outcome Unit :=
  if wideLimit ≤ progress.offset + distance then (progress, .fault)
  else
    let offset := (progress.offset + distance) % progress.timing.bufferSpan
    if progress.rest ≤ distance then
      let crossed := (distance - progress.rest) / progress.timing.periodSpan + 1
      let pending := min (progress.pending + crossed % wordLimit) (wordLimit - 1)
      let reach := progress.rest + crossed * progress.timing.periodSpan
      if wideLimit ≤ reach then
        ({ progress with offset := offset, pending := pending }, .fault)
      else
        ({ progress with offset := offset, pending := pending, rest := reach - distance }, .done ())
    else
      ({ progress with offset := offset, rest := progress.rest - distance }, .done ())

def frame (progress : Progress) : Nat :=
  progress.offset / progress.timing.ticksPerSecond.toNat

/-- Ticks until the next period boundary, rounded up. -/
def delay (progress : Progress) : Nat := progress.timing.ticksFor progress.rest

end Progress

/-- A playhead: the tick of its last update and, once it is configured, its progress. -/
structure Playhead where
  base : Tick
  progress : Option Progress
  deriving Repr, DecidableEq

namespace Playhead

def unconfigured : Playhead := ⟨0, none⟩

def isConfigured (head : Playhead) : Bool := head.progress.isSome

/-- Rewinds to the start of a buffer. Sizes that are zero and a period that does not fit into the
buffer are refused and change nothing; a clock that does not tick is a fault. The tick of the last
update stays. -/
def configure (head : Playhead) (setup : StreamSetup) (ticksPerSecond : UInt64) :
    Playhead × Outcome Unit :=
  if setup.rate = 0 then (head, .rejected .zeroRate)
  else if setup.bufferFrames = 0 then (head, .rejected .zeroBuffer)
  else if setup.periodFrames = 0 then (head, .rejected .zeroPeriod)
  else if setup.periodFrames > setup.bufferFrames then
    (head, .rejected
      (.periodExceedsBuffer setup.periodFrames.toNat setup.bufferFrames.toNat))
  else if ticksPerSecond = 0 then (head, .fault)
  else ({ head with progress := some (.start ⟨setup, ticksPerSecond⟩) }, .done ())

/-- Measures time from the given tick on. -/
def rebase (head : Playhead) (now : Tick) : Playhead := { head with base := now }

/-- Accounts for all time up to the given tick. A second update at the same tick changes nothing,
and a playhead without setup cannot move. -/
def advance (head : Playhead) (now : Tick) : Playhead × Outcome Unit :=
  let elapsed := now.since head.base
  if elapsed = 0 then (head, .done ())
  else
    match head.progress with
    | none => (head, .fault)
    | some progress =>
        let (moved, outcome) := progress.move (elapsed * progress.timing.speed)
        ({ base := now, progress := some moved }, outcome)

/-- The frame under the playhead as of the last update. -/
def frame (head : Playhead) : Nat :=
  match head.progress with
  | none => 0
  | some progress => progress.frame

/-- Ticks from the last update to the next period boundary, rounded up. -/
def delay? (head : Playhead) : Option Nat := head.progress.map Progress.delay

/-- Completed periods that nobody has been told about. -/
def pending (head : Playhead) : Nat :=
  match head.progress with
  | none => 0
  | some progress => progress.pending

/-- Hands out the pending periods and forgets them. -/
def takePending (head : Playhead) : Nat × Playhead :=
  (head.pending,
    { head with progress := head.progress.map fun progress => { progress with pending := 0 } })

/-- The setup and tick rate of the last configuration. -/
def timing? (head : Playhead) : Option Timing := head.progress.map Progress.timing

end Playhead

end PcmPlayback
