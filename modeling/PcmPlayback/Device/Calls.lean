import PcmPlayback.Device.Basic

/-!
# Calls on a device

Preparing, starting, stopping and freeing a device, and reading its position and its ring. Every
call gives the device it leaves behind and how it ended. A refused call leaves the device as it
was; a call that faults keeps what it had done before.
-/

set_option autoImplicit false

namespace PcmPlayback

/-- Whether a ring of the given size can be had: an allocation has to be able to hold it, and the
host has to grant it. -/
def Profile.grants (profile : Profile) (size : Nat) : Bool :=
  decide (size ≤ allocationLimit ∧ size ≤ profile.memory)

namespace Device

/-- Sets the device up for a stream and rewinds it, with a silent ring. The source, the callback
and the deliveries so far are left alone. -/
def prepare (device : Device) (setup : StreamSetup) : Device × Outcome Unit :=
  match device.profile.capabilities.check setup device.profile.frameBytes with
  | .done () =>
      if device.stage.mayPrepare then
        match Playhead.unconfigured.configure setup device.profile.ticksPerSecond with
        | (playhead, .done ()) =>
            let size := setup.bufferFrames.toNat * device.profile.frameBytes
            if device.profile.grants size then
              ({ device with
                  stage := .prepared
                  setup? := some setup
                  periodTicks := Timing.periodTicks ⟨setup, device.profile.ticksPerSecond⟩
                  playhead := playhead
                  ring := .silent size },
                .done ())
            else (device, .rejected .outOfMemory)
        | (_, refusal) => (device, refusal)
      else (device, .rejected (.wrongStage "prepare" device.stage))
  | refusal => (device, refusal)

/-- Arms the timer. On the grid schedule the expiry is also the grid point to go on from. -/
def arm (device : Device) (tick : Tick) : Device :=
  match device.profile.schedule with
  | .boundary => { device with expiry := some tick }
  | .grid => { device with expiry := some tick, gridTick := tick }

def disarm (device : Device) : Device := { device with expiry := none }

/-- The first expiry after a start: the next boundary, or one whole period on the grid. There is
none if it leaves the clock's word. -/
def firstExpiry? (device : Device) (now : Tick) : Option Tick :=
  match device.profile.schedule with
  | .boundary => device.playhead.delay?.bind now.after?
  | .grid => now.after? device.periodTicks

/-- Starts playback, or goes on after a stop: the position carries on, the source begins anew. An
expiry beyond the clock's word is a fault, which finds the time base and the source already
set. -/
def start (device : Device) (now : Tick) : Device × Outcome Unit :=
  if device.stage.mayStart then
    let rewound :=
      { device with
        playhead := device.playhead.rebase now
        source := device.source.map LoopedSource.rewind }
    match rewound.firstExpiry? now with
    | none => (rewound, .fault)
    | some tick => ({ rewound.arm tick with active := true, stage := .running }, .done ())
  else (device, .rejected (.wrongStage "start" device.stage))

/-- Stops playback and freezes the position at the present tick. A position that cannot be brought
up to date is a fault, which finds the flag lowered and the timer disarmed. -/
def stop (device : Device) (now : Tick) : Device × Outcome Unit :=
  let lowered := { device with active := false }
  if device.stage = .running then
    let (playhead, outcome) := device.playhead.advance now
    let frozen := { lowered.disarm with playhead := playhead }
    if outcome.isDone then ({ frozen with stage := .stopped }, outcome) else (frozen, outcome)
  else (lowered, .rejected (.wrongStage "stop" device.stage))

def obey (device : Device) (command : Command) (now : Tick) : Device × Outcome Unit :=
  match command with
  | .start | .resume => device.start now
  | .stop | .suspend => device.stop now

/-- The frame under the playhead. While running, the playhead is brought up to the present
tick first; a device without setup is at the first frame. -/
def pointer (device : Device) (now : Tick) : Device × Outcome Nat :=
  if device.playhead.isConfigured ∧ device.stage = .running then
    let (playhead, outcome) := device.playhead.advance now
    ({ device with playhead := playhead }, outcome.map fun _ => playhead.frame)
  else (device, .done device.playhead.frame)

/-- Ends the life of the device. What it has played so far can still be read. -/
def free (device : Device) : Device :=
  { device with active := false, expiry := none, stage := .freed }

def copyOut (device : Device) (frame : UInt64) (destination : Array UInt8) :
    Nat × Array UInt8 :=
  Ring.copyTo device.ring device.profile.frameBytes frame destination

def description (device : Device) : Description := ⟨device.setup?, device.profile⟩

def answer (device : Device) (now : Tick) : Call → Device × Reply
  | .prepare setup =>
      let (next, outcome) := device.prepare setup
      (next, .ended outcome)
  | .start =>
      let (next, outcome) := device.start now
      (next, .ended outcome)
  | .stop =>
      let (next, outcome) := device.stop now
      (next, .ended outcome)
  | .trigger command =>
      let (next, outcome) := device.obey command now
      (next, .ended outcome)
  | .pointer =>
      let (next, outcome) := device.pointer now
      (next, .position outcome)
  | .status => (device, .status device.stage device.active)
  | .describe => (device, .described device.description)
  | .copyOut frame destination =>
      let (count, filled) := device.copyOut frame destination
      (device, .copied count filled)
  | .register routine => ({ device with callback := some routine }, .ended (.done ()))
  | .unregister => ({ device with callback := none }, .silent)
  | .free => (device.free, .silent)

/-- Answers calls one after another at the same tick. -/
def answerAll (device : Device) (now : Tick) : List Call → Device × List Reply
  | [] => (device, [])
  | call :: rest =>
      let (next, reply) := device.answer now call
      let (last, replies) := next.answerAll now rest
      (last, reply :: replies)

end Device

end PcmPlayback
