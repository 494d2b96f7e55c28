import PcmPlayback.Device.Timer

/-!
# Trials

A trial plays a stream on a steady clock with a callback that takes its time. It waits for a
number of wakeups, stops the device in the middle of the next callback, and looks at what is left.
Time is counted in ticks of the clock: the timer wakes at its expiry, or when the callback under
way returns if that is later.
-/

set_option autoImplicit false

namespace PcmPlayback

/-- A trial under way: the tick of the last expiry, the tick at which the timer is free again, the
device, and the period counts that the callback has been given, the last one first. -/
structure Trial where
  now : Tick
  ready : Tick
  device : Device
  counts : List Nat

namespace Trial

/-- What a trial finds out. -/
structure Report where
  stage : Stage
  active : Bool
  finished : Bool
  enough : Bool
  counted : Bool
  inBuffer : Bool
  frozen : Bool
  silent : Bool
  deriving Repr, DecidableEq

/-- The callback of a trial, which only takes note of its count. -/
def listener : Callback where
  name := "listener"
  calls := []

/-- Milliseconds that the callback takes. -/
def busyMilliseconds : UInt64 := 2

/-- Lets the timer expire, at its expiry or as soon as it is free. -/
def expire (busy : Tick) (trial : Trial) : Trial :=
  let now := match trial.device.expiry with
    | some tick => max trial.ready tick
    | none => trial.ready
  let (device, run) := trial.device.poll now
  { now := now
    ready := now + busy
    device := device
    counts := (run.map CallbackRun.periods).toList ++ trial.counts }

def expireTimes (busy : Tick) : Nat → Trial → Trial
  | 0, trial => trial
  | rounds + 1, trial => expireTimes busy rounds (expire busy trial)

/-- Stops the device halfway through a callback, which the stop waits for, and looks at the device
when it has returned and long after. -/
def conclude (trial : Trial) (edges : Nat) (busy : Tick) : Report :=
  let returned := trial.ready
  let requested := trial.now + busy / 2
  let stopped := (trial.device.stop requested).1
  let stopReturned := max requested returned
  let (atRest, early) := stopped.pointer stopReturned
  let (left, run) := atRest.poll (stopReturned + 50 * busy)
  let (last, late) := left.pointer (stopReturned + 50 * busy)
  { stage := last.stage
    active := last.active
    finished := decide (returned ≤ stopReturned)
    enough := decide (edges ≤ trial.counts.length)
    counted := trial.counts.foldl (· + ·) 0 == last.delivery.periods
    inBuffer := match early, last.setup? with
      | .done frame, some setup => decide (frame < setup.bufferFrames.toNat)
      | _, _ => false
    frozen := early == late
    silent := run.isNone }

/-- Runs a trial. A template or a setup that is refused ends it at once. -/
def run (template : Template) (setup : StreamSetup) (edges : Nat) : Outcome Report :=
  let clock := template.schedule.steadyClock
  let busy := busyMilliseconds * clock.ticksPerSecond / 1000
  match template.build clock.ticksPerSecond with
  | .error cause => .rejected cause
  | .ok device =>
      match ({ device with callback := some listener } : Device).prepare setup with
      | (_, .rejected cause) => .rejected cause
      | (_, .fault) => .fault
      | (prepared, .done ()) =>
          match prepared.start 0 with
          | (_, .rejected cause) => .rejected cause
          | (_, .fault) => .fault
          | (started, .done ()) =>
              let trial := expireTimes busy (edges + 1) ⟨0, 0, started, []⟩
              .done (trial.conclude edges busy)

end Trial

end PcmPlayback
