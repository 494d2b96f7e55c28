import PcmPlayback.Capabilities
import PcmPlayback.Clock
import PcmPlayback.Delivery
import PcmPlayback.LoopedSource
import PcmPlayback.Playhead
import PcmPlayback.Ring

/-!
# Playback devices

A device plays into a ring buffer without hardware. A one-shot timer stands for the interrupts of
a sound card: each time it expires, the device accounts for the elapsed time, arms the timer
again, refills the ring from its source and reports the periods that were completed.

This module holds the state of a device, the calls that a client can make on it, and the template
from which devices are built.
-/

set_option autoImplicit false

namespace PcmPlayback

/-- How the timer is armed. On the boundary schedule it aims at the next period boundary. On the
grid schedule it keeps to a grid of whole periods, counted in ticks from the start. -/
inductive Schedule where
  | boundary
  | grid
  deriving Repr, DecidableEq

/-- The steady clock that goes with a schedule: boundaries are awaited on the coarse clock, the
grid is laid on the fine one. -/
def Schedule.steadyClock : Schedule → SteadyClock
  | .boundary => .coarse
  | .grid => .fine

/-- A routine makes calls one after another, whatever becomes of each, and may fail at the end.
Its name tells it from other routines in the records of what was called. -/
structure Routine (κ : Type) where
  name : String
  calls : List κ
  fails : Bool := false
  deriving Repr

/-- What a client can ask of a device, from outside or from within a period callback. -/
inductive Call where
  | prepare (setup : StreamSetup)
  | start
  | stop
  | trigger (command : Command)
  | pointer
  | status
  | describe
  | copyOut (frame : UInt64) (destination : Array UInt8)
  | register (routine : Routine Call)
  | unregister
  | free

/-- A period callback: the routine that the device runs when periods have been completed. -/
abbrev Callback := Routine Call

/-- What does not change in the life of a device. Its memory is the largest ring that the host
grants. -/
structure Profile where
  schedule : Schedule
  ticksPerSecond : UInt64
  capabilities : Capabilities
  frameBytes : Nat
  memory : Nat
  deriving Repr, DecidableEq

/-- A playback device. Beside its stage it keeps a flag that is lowered as the first act of every
stop, so that an expiry under way notices. The timer is armed while it has an expiry. The setup of
the last successful preparation is kept, and with it the length of a period in whole ticks. -/
structure Device where
  profile : Profile
  stage : Stage
  active : Bool
  setup? : Option StreamSetup
  periodTicks : Nat
  expiry : Option Tick
  gridTick : Tick
  playhead : Playhead
  ring : Ring
  source : Option LoopedSource
  callback : Option Callback
  delivery : Delivery

namespace Device

/-- Ticks for which the timer sleeps while it is armed. -/
def wait? (device : Device) (now : Tick) : Option Nat :=
  device.expiry.map fun tick => tick.toNat - now.toNat

/-- Whether the timer is armed and its expiry has been reached. -/
def isDue (device : Device) (now : Tick) : Bool :=
  match device.expiry with
  | none => false
  | some tick => decide (tick ≤ now)

theorem isDue_iff {device : Device} {now : Tick} :
    device.isDue now = true ↔ ∃ tick, device.expiry = some tick ∧ tick ≤ now := by
  rw [isDue]
  cases device.expiry with
  | none => simp
  | some tick => simp

end Device

/-- What the public face of a device shows: its setup, its profile and nothing that moves. -/
structure Description where
  setup : Option StreamSetup
  profile : Profile
  deriving Repr, DecidableEq

inductive Reply where
  | ended (outcome : Outcome Unit)
  | position (outcome : Outcome Nat)
  | status (stage : Stage) (active : Bool)
  | described (description : Description)
  | copied (count : Nat) (destination : Array UInt8)
  | silent
  deriving Repr, DecidableEq

/-- A record of one run of a callback: which callback it was, the number of periods it was told,
and the replies to the calls it made. -/
structure CallbackRun where
  name : String
  periods : Nat
  replies : List Reply
  deriving Repr, DecidableEq

/-- From what a device is built. Left alone, it gives an unsigned stereo device without source. -/
structure Template where
  schedule : Schedule := .boundary
  capabilities : Capabilities := .standard
  format : SampleFormat := .u8
  channels : UInt32 := 2
  source : Option (Array UInt8) := none
  memory : Nat := hostMemory
  deriving Repr, DecidableEq

namespace Template

def frameBytes (template : Template) : Nat := template.format.bytes * template.channels.toNat

/-- The profile of the devices built for a clock of the given rate. -/
def profile (template : Template) (ticksPerSecond : UInt64) : Profile where
  schedule := template.schedule
  ticksPerSecond := ticksPerSecond
  capabilities := template.capabilities
  frameBytes := template.frameBytes
  memory := template.memory

/-- An idle device that reads from the given source. -/
def idleDevice (template : Template) (ticksPerSecond : UInt64)
    (source : Option LoopedSource) : Device where
  profile := template.profile ticksPerSecond
  stage := .idle
  active := false
  setup? := none
  periodTicks := 0
  expiry := none
  gridTick := 0
  playhead := .unconfigured
  ring := .empty
  source := source
  callback := none
  delivery := {}

/-- Builds an idle device. The frame layout has to be one that the device can play, and a source
has to have something to read. -/
def build (template : Template) (ticksPerSecond : UInt64) : Except Error Device :=
  match template.capabilities.layoutDefect? template.format template.channels with
  | some cause => .error cause
  | none =>
      match template.source with
      | none => .ok (template.idleDevice ticksPerSecond none)
      | some bytes =>
          match LoopedSource.ofBytes? bytes with
          | none => .error .emptySource
          | some source => .ok (template.idleDevice ticksPerSecond (some source))

end Template

end PcmPlayback
