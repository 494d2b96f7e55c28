import PcmPlayback.Proofs.Consistency

/-!
# The life of a device

How the stage of a device can change, and what goes with it. Only successful calls change the stage,
from a client or from a callback, the stop of a consumer that failed among them. A freed device
stays freed: it refuses all control, its timer never fires again, and nobody is told anything.
-/

set_option autoImplicit false

namespace PcmPlayback

namespace Call

def prepares : Call → Bool
  | .prepare _ => true
  | .start | .stop | .trigger _ | .pointer | .status | .describe => false
  | .copyOut _ _ | .register _ | .unregister | .free => false

def starts : Call → Bool
  | .start | .trigger .start | .trigger .resume => true
  | .prepare _ | .stop | .trigger .stop | .trigger .suspend | .pointer | .status => false
  | .describe | .copyOut _ _ | .register _ | .unregister | .free => false

def stops : Call → Bool
  | .stop | .trigger .stop | .trigger .suspend => true
  | .prepare _ | .start | .trigger .start | .trigger .resume | .pointer | .status => false
  | .describe | .copyOut _ _ | .register _ | .unregister | .free => false

end Call

/-- The changes of stage that an act can make. The timer itself makes none: a consumer that fails
stops the device by a call. -/
inductive Stage.Change : Act → Stage → Stage → Prop where
  | prepare (setup : StreamSetup) (stage : Stage)
      (resting : stage = .idle ∨ stage = .prepared ∨ stage = .stopped) :
      Change (.call (.prepare setup)) stage .prepared
  | start (call : Call) (stage : Stage) (starts : call.starts = true)
      (ready : stage = .prepared ∨ stage = .stopped) : Change (.call call) stage .running
  | stop (call : Call) (stops : call.stops = true) : Change (.call call) .running .stopped
  | free (stage : Stage) : Change (.call .free) stage .freed

theorem Stage.resting_of_mayPrepare {stage : Stage} (allowed : stage.mayPrepare = true) :
    stage = .idle ∨ stage = .prepared ∨ stage = .stopped := by
  cases stage <;> simp_all [mayPrepare]

namespace Device

theorem stage_start (device : Device) (now : Tick) :
    (device.start now).1.stage = device.stage ∨
      device.stage.mayStart = true ∧ (device.start now).1.stage = .running := by
  by_cases allowed : device.stage.mayStart = true
  · rw [start_eq now allowed]
    cases (device.rewound now).firstExpiry? now with
    | none => exact .inl rfl
    | some tick => exact .inr ⟨allowed, rfl⟩
  · rw [start, if_neg allowed]
    exact .inl rfl

theorem stage_stop (device : Device) (now : Tick) :
    (device.stop now).1.stage = device.stage ∨
      device.stage = .running ∧ (device.stop now).1.stage = .stopped := by
  by_cases running : device.stage = .running
  · cases moved : (device.playhead.advance now).2.isDone with
    | true => exact .inr ⟨running, by simp [stop, running, moved]⟩
    | false => exact .inl (by simp [stop, running, moved, disarm])
  · rw [stop, if_neg running]
    exact .inl rfl

theorem answer_starting {call : Call} (starts : call.starts = true) (device : Device) (now : Tick) :
    device.answer now call = ((device.start now).1, .ended (device.start now).2) := by
  cases call with
  | start => rfl
  | trigger command =>
      cases command with
      | start | resume => rfl
      | stop | suspend => cases starts
  | prepare | stop | pointer | status | describe => cases starts
  | copyOut | register | unregister | free => cases starts

theorem stage_answer (device : Device) (now : Tick) (call : Call) :
    (device.answer now call).1.stage = device.stage ∨
      Stage.Change (.call call) device.stage (device.answer now call).1.stage := by
  have started (call : Call) (starts : call.starts = true) :
      (device.start now).1.stage = device.stage ∨
        Stage.Change (.call call) device.stage (device.start now).1.stage := by
    rcases device.stage_start now with same | ⟨allowed, running⟩
    · exact .inl same
    · rw [running]
      exact .inr (.start call _ starts (Stage.mayStart_iff.mp allowed))
  have stopped (call : Call) (stops : call.stops = true) :
      (device.stop now).1.stage = device.stage ∨
        Stage.Change (.call call) device.stage (device.stop now).1.stage := by
    rcases device.stage_stop now with same | ⟨running, rests⟩
    · exact .inl same
    · rw [running, rests]
      exact .inr (.stop call stops)
  cases call with
  | prepare setup =>
      rcases device.prepare_cases setup with ⟨allowed, _, done⟩ | ⟨same, _⟩
      · simp only [answer, done]
        exact .inr (.prepare setup _ (Stage.resting_of_mayPrepare allowed))
      · exact .inl (congrArg Device.stage same)
  | start => exact started .start rfl
  | stop => exact stopped .stop rfl
  | trigger command =>
      cases command with
      | start => exact started (.trigger .start) rfl
      | resume => exact started (.trigger .resume) rfl
      | stop => exact stopped (.trigger .stop) rfl
      | suspend => exact stopped (.trigger .suspend) rfl
  | pointer =>
      left
      simp only [answer, pointer]
      split <;> rfl
  | status | describe | copyOut | register | unregister => exact .inl rfl
  | free => exact .inr (.free _)

theorem Struck.stage_eq {device next : Device} {now : Tick} {strike : Strike}
    (struck : device.Struck now next strike) : next.stage = device.stage := by
  cases struck <;> rfl

theorem poll_of_disarmed {device : Device} (disarmed : device.expiry = none) (now : Tick) :
    device.poll now = (device, none) := by
  rw [poll, isDue, disarmed]
  rfl

theorem refused_of_freed {device : Device} (freed : device.stage = .freed) (now : Tick)
    (call : Call) (controls : call.prepares = true ∨ call.starts = true ∨ call.stops = true) :
    (device.answer now call).2 ≠ .ended (.done ()) := by
  have unstarted : (device.start now).2 ≠ .done () := by
    simp [start, freed, Stage.mayStart]
  have unstopped : (device.stop now).2 ≠ .done () := by
    simp [stop, freed]
  cases call with
  | prepare setup =>
      rcases device.prepare_cases setup with ⟨allowed, _, _⟩ | ⟨_, refused⟩
      · rw [freed] at allowed
        cases allowed
      · simpa [answer] using refused
  | start => simpa [answer] using unstarted
  | stop => simpa [answer] using unstopped
  | trigger command =>
      cases command with
      | start | resume => simpa [answer, obey] using unstarted
      | stop | suspend => simpa [answer, obey] using unstopped
  | pointer | status | describe | copyOut | register | unregister | free =>
      simp [Call.prepares, Call.starts, Call.stops] at controls

theorem Effect.of_freed {device next : Device} {now : Tick} {event : Option Event}
    (effect : device.Effect now next event) (freed : device.stage = .freed)
    (disarmed : device.expiry = none) :
    next.stage = .freed ∧ next.expiry = none ∧ event = none := by
  cases effect with
  | unchanged | rerouted | lowered => exact ⟨freed, disarmed, rfl⟩
  | prepared _ _ allowed => simp [freed, Stage.mayPrepare] at allowed
  | misstarted allowed => simp [freed, Stage.mayStart] at allowed
  | started _ _ allowed => simp [freed, Stage.mayStart] at allowed
  | stopped running | jammed running | read running => simp [freed] at running
  | freed => exact ⟨rfl, rfl, rfl⟩

theorem Struck.of_freed {device next : Device} {now : Tick} {strike : Strike}
    (struck : device.Struck now next strike) (freed : device.stage = .freed)
    (disarmed : device.expiry = none) :
    next.stage = .freed ∧ next.expiry = none ∧ strike = .quiet := by
  cases struck with
  | early => exact ⟨freed, disarmed, rfl⟩
  | asleep => exact ⟨freed, rfl, rfl⟩
  | faulted _ running | fired _ running | told _ running => simp [freed] at running

end Device

namespace Scene

theorem stage_act (scene : Scene) (act : Act) :
    (scene.act act).device.stage = scene.device.stage ∨
      Stage.Change act scene.device.stage (scene.act act).device.stage := by
  cases act with
  | pass tick => exact .inl rfl
  | call call => exact scene.device.stage_answer scene.now call
  | poll => exact .inl (scene.device.strike_struck scene.now).stage_eq

/-- A scene at whose device nothing has happened since an earlier one but the passing of time: the
device is freed, and its timer is off. -/
structure Over (first scene : Scene) : Prop where
  freed : scene.device.stage = .freed
  disarmed : scene.device.expiry = none
  past : ∃ passes, scene.journal = passes ++ first.journal ∧
    ∀ event ∈ passes, ∃ start finish, event = .passed start finish .freed

namespace Over

theorem act {first scene : Scene} (ended : Over first scene) (act : Act) :
    Over first (scene.act act) := by
  obtain ⟨freed, disarmed, passes, grown, silent⟩ := ended
  cases act with
  | pass tick =>
      refine ⟨freed, disarmed, .passed scene.now tick scene.device.stage :: passes, ?_, ?_⟩
      · exact congrArg _ grown
      · intro event member
        rcases List.mem_cons.mp member with here | before
        · exact ⟨scene.now, tick, freed ▸ here⟩
        · exact silent event before
  | call call =>
      obtain ⟨stays, off, none⟩ :=
        (scene.device.answer_effect scene.now call).of_freed freed disarmed
      refine ⟨stays, off, passes, ?_, silent⟩
      simp only [Scene.act, none]
      exact grown
  | poll =>
      obtain ⟨stays, off, quiet⟩ := (scene.device.strike_struck scene.now).of_freed freed disarmed
      refine ⟨stays, off, passes, ?_, silent⟩
      simp only [Scene.act, quiet]
      exact grown

theorem run {scene : Scene} (freed : scene.device.stage = .freed)
    (disarmed : scene.device.expiry = none) (acts : List Act) : Over scene (scene.run acts) := by
  refine @run_invariant (fun _ => True) _ (fun _ _ _ => trivial) ?_ scene ?_ acts trivial
  · intro later act ended _
    exact ended.act act
  · exact ⟨freed, disarmed, [], rfl, nofun⟩

end Over

/-- The pieces of a device that a preparation fixes, all of one preparation: the setup it shows,
the timing of its playhead, the length of its period in ticks and the size of its ring. -/
structure Furnished (scene : Scene) (ticksPerSecond : UInt64) (frameBytes : Nat) : Prop where
  setup : scene.device.setup? = scene.journal.timing?.map Timing.setup
  timing : scene.device.playhead.timing? = scene.journal.timing?
  clock : ∀ timing, scene.journal.timing? = some timing → timing.ticksPerSecond = ticksPerSecond
  period : scene.device.periodTicks = (scene.journal.timing?.map Timing.periodTicks).getD 0
  ring : scene.device.ring.size = scene.journal.ringBytes frameBytes

namespace Consistent

variable {scene : Scene}

theorem furnished (consistent : scene.Consistent) {profile : Profile}
    (profiled : scene.Profiled profile) :
    scene.Furnished profile.ticksPerSecond profile.frameBytes := by
  have timing := consistent.timing
  refine ⟨?_, timing, profiled.clocked, ?_, ?_⟩
  · rw [consistent.orderly.setup, timing]
  · rw [consistent.orderly.period, timing]
  · rw [consistent.sized, profiled.same]

theorem overflows (consistent : scene.Consistent) (roomy : scene.journal.Roomy)
    (faulted : (scene.device.strike scene.now).2 = .faulted) :
    (scene.device.updated scene.now).nextExpiry? scene.now = none := by
  have struck := scene.device.strike_struck scene.now
  rw [faulted] at struck
  generalize (scene.device.strike scene.now).1 = next at struck
  cases struck with
  | faulted due running fault =>
      rcases fault with stuck | none
      · simp [(consistent.advance roomy running).2] at stuck
      · exact none

theorem disarmed (consistent : scene.Consistent) (resting : scene.device.stage ≠ .running) :
    scene.device.expiry = none := by
  apply Classical.byContradiction
  intro armed
  exact resting (consistent.orderly.armed armed)

theorem lowered (consistent : scene.Consistent) (resting : scene.device.stage ≠ .running) :
    scene.device.active = false := by
  rw [← Bool.not_eq_true, consistent.orderly.flag]
  exact resting

end Consistent

end Scene

namespace Session

variable {template : Template} {clock : ManualClock} {session : Session}

/-- The life of a device in every run whose buffers leave room, whichever way its clock is moved:
after each step, and also between the calls of a callback. -/
theorem lifecycle_kept (opened : Session.begin template clock = .ok session) (steps : List Step)
    (roomy : (session.journal steps).Roomy) (scene : Scene) (shown : session.Shows steps scene) :
    ((scene.device.active = true ↔ scene.device.stage = .running) ∧
      (scene.device.expiry ≠ none → scene.device.stage = .running) ∧
      (scene.device.stage = .running → scene.device.expiry = none → scene.journal.Broken) ∧
      ((scene.device.strike scene.now).2 = .faulted →
        (scene.device.updated scene.now).nextExpiry? scene.now = none)) ∧
    scene.Furnished clock.ticksPerSecond template.frameBytes ∧
    (∀ act, (scene.act act).device.stage = scene.device.stage ∨
      Stage.Change act scene.device.stage (scene.act act).device.stage) ∧
    (scene.device.stage = .freed → ∀ acts,
      scene.Over (scene.run acts) ∧
        (∀ now, (scene.run acts).device.poll now = ((scene.run acts).device, none)) ∧
        ∀ now call, call.prepares = true ∨ call.starts = true ∨ call.stops = true →
          ((scene.run acts).device.answer now call).2 ≠ .ended (.done ())) := by
  have room := shown.roomy roomy
  have consistent := shown.consistent opened room
  refine ⟨⟨?_, ?_, consistent.broken, consistent.overflows room⟩, ?_, scene.stage_act, ?_⟩
  · exact consistent.orderly.flag
  · exact consistent.orderly.armed
  · exact consistent.furnished (shown.profiled opened)
  · intro freed acts
    have ended := Scene.Over.run freed (consistent.disarmed (by simp [freed])) acts
    refine ⟨ended, ?_, ?_⟩
    · exact Device.poll_of_disarmed ended.disarmed
    · exact Device.refused_of_freed ended.freed

/-- A life at its limits: close to the end of the clock's word an expiry finds no later one. The
device still runs then, without a timer, and after it was freed a start is refused. -/
theorem lifecycle_kept_overflowing :
    ∃ (session : Session) (steps : List Step) (scene : Scene),
      Session.begin {} ⟨1000, 18446744073709551516⟩ = .ok session ∧
        (session.journal steps).Roomy ∧ session.Shows steps scene ∧
        scene.device.active = true ∧ scene.device.expiry = none ∧ scene.journal.Broken ∧
        scene.device.ring.size = 6000 ∧
        ((scene.act (.call .free)).device.answer 0 .start).2 ≠ .ended (.done ()) := by
  let session : Session :=
    ⟨⟨1000, 18446744073709551516⟩, ⟨({} : Template).idleDevice 1000 none, []⟩⟩
  let steps : List Step :=
    [.deck (.call (.prepare ⟨11025, 3000, 700⟩)), .deck (.call .start), .clock (.forward 80),
      .deck .poll]
  let last := (session.run steps).1.scene (session.journal steps)
  let freed := (session.run (steps ++ [.deck (.call .free)])).1.scene
    (session.journal (steps ++ [.deck (.call .free)]))
  have opened : Session.begin {} ⟨1000, 18446744073709551516⟩ = .ok session := rfl
  have roomy : (session.journal steps).Roomy := by decide +kernel
  have shown : session.Shows steps last := session.shows_last steps
  have running : last.device.stage = .running := by decide +kernel
  have expires : last.device.expiry = none := by decide +kernel
  have bytes : last.journal.ringBytes 2 = 6000 := by decide +kernel
  obtain ⟨⟨flag, _, broken, _⟩, furnished, _, _⟩ := lifecycle_kept opened steps roomy last shown
  have ended := (lifecycle_kept opened _ (by decide +kernel) freed (session.shows_last _)).2.2.2
    (by decide +kernel) []
  exact ⟨session, steps, last, opened, roomy, shown, flag.mpr running, expires,
    broken running expires, furnished.ring.trans bytes, ended.2.2 0 .start (.inr (.inl rfl))⟩

end Session

end PcmPlayback
