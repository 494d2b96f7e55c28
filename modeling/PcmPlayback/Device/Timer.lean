import PcmPlayback.Device.Calls

/-!
# The timer of a device

What happens when the timer expires. The device first does its own part: it accounts for the
elapsed time, arms the timer again and refills the ring. If periods were completed, it then
notifies its waiters and runs the period callback, which may make calls on the device itself. A
consumer that fails stops the device as a client would.
-/

set_option autoImplicit false

namespace PcmPlayback

namespace Device

/-- The least point of a grid after the given tick. A grid point that is already later stays, and a
grid whose points do not lie apart has no later one. -/
def gridPoint? (gridTick now : Tick) (period : Nat) : Option Tick :=
  if gridTick ≤ now then
    if period = 0 then none
    else gridTick.after? (((now.toNat - gridTick.toNat) / period + 1) * period)
  else some gridTick

/-- The next expiry of a running device whose playhead is up to date. -/
def nextExpiry? (device : Device) (now : Tick) : Option Tick :=
  match device.profile.schedule with
  | .boundary => device.playhead.delay?.bind now.after?
  | .grid => gridPoint? device.gridTick now device.periodTicks

/-- Overwrites the whole ring with what the source holds next. -/
def refill (device : Device) : Device :=
  match device.source with
  | none => device
  | some source =>
      let (ring, source) := source.read device.ring.size
      { device with ring := ring, source := some source }

/-- The device's own part of an expiry. Gives the number of periods to report, or nothing if it
faults: without a next expiry in the clock's word the elapsed time is accounted for and nothing
else is done. -/
def tend (device : Device) (now : Tick) : Device × Option Nat :=
  let (playhead, outcome) := device.playhead.advance now
  let current := { device with playhead := playhead }
  if outcome.isDone then
    match current.nextExpiry? now with
    | none => (current, none)
    | some tick =>
        let (periods, drained) := playhead.takePending
        ({ current.arm tick with playhead := drained }.refill, some periods)
  else (current, none)

/-- Runs the present callback with a number of periods, and stops the device if it fails. The
callback may replace itself; the present run goes on with the old one. -/
def runCallback (device : Device) (now : Tick) (periods : Nat) :
    Device × Option CallbackRun :=
  match device.callback with
  | none => (device, none)
  | some callback =>
      let (next, replies) := device.answerAll now callback.calls
      let run : CallbackRun := ⟨callback.name, periods, replies⟩
      if callback.fails then ((next.stop now).1, some run) else (next, some run)

/-- Tells the consumers about completed periods. If they can no longer be counted, the callback
does not run and the device stops. -/
def notify (device : Device) (now : Tick) (periods : Nat) : Device × Option CallbackRun :=
  let (delivery, outcome) := device.delivery.raise periods
  let told := { device with delivery := delivery }
  if outcome.isDone then told.runCallback now periods else ((told.stop now).1, none)

/-- Handles an expiry of the timer. A device whose flag has been lowered leaves it at that, and a
fault leaves the timer disarmed. -/
def expire (device : Device) (now : Tick) : Device × Option CallbackRun :=
  let fired := device.disarm
  if fired.active ∧ fired.stage = .running then
    match fired.tend now with
    | (tended, some periods) =>
        if 0 < periods then tended.notify now periods else (tended, none)
    | (tended, none) => (tended.disarm, none)
  else (fired, none)

/-- Compares the timer with the clock, and handles the expiry if it has been reached. -/
def poll (device : Device) (now : Tick) : Device × Option CallbackRun :=
  if device.isDue now then device.expire now else (device, none)

end Device

end PcmPlayback
