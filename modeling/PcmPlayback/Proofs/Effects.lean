import PcmPlayback.Device.Timer
import PcmPlayback.Proofs.Journal
import PcmPlayback.Proofs.Motion

/-!
# Effects of calls and polls

What a call or a poll can do to a device, said once and in full. A call has one of a few effects
whatever arguments it has, and a poll is the device's own part, up to the count of a notification,
followed by calls: those of the callback, and a stop where a consumer fails. Properties of runs
go by cases on these effects and do not open the calls again.
-/

set_option autoImplicit false

namespace PcmPlayback

namespace Device

/-- The device with its playhead at the present tick. -/
def updated (device : Device) (now : Tick) : Device :=
  { device with playhead := (device.playhead.advance now).1 }

/-- The device as a start finds it once the time base and the source are set. -/
def rewound (device : Device) (now : Tick) : Device :=
  { device with
    playhead := device.playhead.rebase now
    source := device.source.map LoopedSource.rewind }

/-- What a call does to a device at a tick, and the event that it leaves in a journal. -/
inductive Effect (device : Device) (now : Tick) : Device → Option Event → Prop where
  | unchanged : Effect device now device none
  | rerouted (callback : Option Callback) :
      Effect device now { device with callback := callback } none
  | prepared (setup : StreamSetup) (size : Nat)
      (allowed : device.stage.mayPrepare = true)
      (sound : (⟨setup, device.profile.ticksPerSecond⟩ : Timing).Sound)
      (sized : size = setup.bufferFrames.toNat * device.profile.frameBytes)
      (granted : device.profile.grants size = true) :
      Effect device now
        { device with
          stage := .prepared
          setup? := some setup
          periodTicks := Timing.periodTicks ⟨setup, device.profile.ticksPerSecond⟩
          playhead := ⟨0, some (.start ⟨setup, device.profile.ticksPerSecond⟩)⟩
          ring := .silent size }
        (some (.prepared ⟨setup, device.profile.ticksPerSecond⟩))
  | misstarted (allowed : device.stage.mayStart = true) :
      Effect device now (device.rewound now) none
  | started (tick gridTick : Tick)
      (allowed : device.stage.mayStart = true)
      (first : (device.rewound now).firstExpiry? now = some tick)
      (grid : device.profile.schedule = .grid → gridTick = tick) :
      Effect device now
        { device.rewound now with
          expiry := some tick, gridTick := gridTick, active := true, stage := .running }
        (some (.started now))
  | lowered (idle : device.stage ≠ .running) :
      Effect device now { device with active := false } none
  | stopped (running : device.stage = .running)
      (moved : (device.playhead.advance now).2.isDone = true) :
      Effect device now
        { device.updated now with active := false, expiry := none, stage := .stopped } none
  | jammed (running : device.stage = .running)
      (stuck : (device.playhead.advance now).2.isDone = false) :
      Effect device now { device.updated now with active := false, expiry := none } none
  | read (running : device.stage = .running) : Effect device now (device.updated now) none
  | freed : Effect device now device.free none

/-- The event that a successful call leaves in a journal: a preparation or a start. -/
def eventOf? (device : Device) (now : Tick) : Call → Option Event
  | .prepare setup => some (.prepared ⟨setup, device.profile.ticksPerSecond⟩)
  | .start | .trigger .start | .trigger .resume => some (.started now)
  | .stop | .trigger .stop | .trigger .suspend | .pointer | .status | .describe => none
  | .copyOut _ _ | .register _ | .unregister | .free => none

/-- The event that a call leaves in a journal. A call that does not succeed leaves none. -/
def event? (device : Device) (now : Tick) (call : Call) : Option Event :=
  if (device.answer now call).2 = .ended (.done ()) then device.eventOf? now call else none

theorem arm_eq (device : Device) (tick : Tick) :
    ∃ gridTick, (device.profile.schedule = .grid → gridTick = tick) ∧
      device.arm tick = { device with expiry := some tick, gridTick := gridTick } := by
  cases schedule : device.profile.schedule with
  | boundary => exact ⟨device.gridTick, by simp, by rw [arm, schedule]⟩
  | grid => exact ⟨tick, fun _ => rfl, by rw [arm, schedule]⟩

/-- What a firing leaves in the ring, and the source behind it. -/
def replenished (device : Device) : Ring × Option LoopedSource :=
  match device.source with
  | none => (device.ring, none)
  | some source => ((source.read device.ring.size).1, some (source.read device.ring.size).2)

theorem refill_eq (device : Device) :
    device.refill =
      { device with ring := device.replenished.1, source := device.replenished.2 } := by
  cases sounds : device.source with
  | none =>
      simp only [refill, replenished, sounds]
      rw [← sounds]
  | some source => simp only [refill, replenished, sounds]

theorem size_replenished {device : Device} {ring : Ring} {source : Option LoopedSource}
    (fed : (ring, source) = device.replenished) : ring.size = device.ring.size := by
  have filled := congrArg Prod.fst fed
  simp only [replenished] at filled
  split at filled
  · rw [filled]
  · rw [filled, LoopedSource.size_read]

theorem prepare_cases (device : Device) (setup : StreamSetup) :
    (device.stage.mayPrepare = true ∧
        (⟨setup, device.profile.ticksPerSecond⟩ : Timing).Sound ∧
        device.prepare setup =
          ({ device with
              stage := .prepared
              setup? := some setup
              periodTicks := Timing.periodTicks ⟨setup, device.profile.ticksPerSecond⟩
              playhead := ⟨0, some (.start ⟨setup, device.profile.ticksPerSecond⟩)⟩
              ring := .silent (setup.bufferFrames.toNat * device.profile.frameBytes) },
            .done ())) ∨
      (device.prepare setup).1 = device ∧ (device.prepare setup).2 ≠ .done () := by
  cases checked : device.profile.capabilities.check setup device.profile.frameBytes with
  | rejected cause => exact .inr (by simp [prepare, checked])
  | fault => exact .inr (by simp [prepare, checked])
  | done value =>
      cases allowed : device.stage.mayPrepare with
      | false => exact .inr (by simp [prepare, checked, allowed])
      | true =>
          cases accepted : setup.defect? with
          | some cause =>
              exact .inr (by simp [prepare, checked, allowed, Playhead.configure_eq, accepted])
          | none =>
              by_cases ticks : device.profile.ticksPerSecond = 0
              · exact .inr
                  (by simp [prepare, checked, allowed, Playhead.configure_eq, accepted, ticks])
              · have sound := Timing.sound_of_defect?_eq_none accepted ticks
                have configured := Playhead.unconfigured.configure_of_defect?_eq_none accepted ticks
                by_cases granted : device.profile.grants
                    (setup.bufferFrames.toNat * device.profile.frameBytes) = true
                · refine .inl ⟨rfl, sound, ?_⟩
                  simp only [prepare, checked, allowed, configured, granted, if_true]
                  rfl
                · exact .inr (by simp [prepare, checked, allowed, configured, granted])

theorem prepare_granted {device : Device} {setup : StreamSetup}
    (done : (device.prepare setup).2 = .done ()) :
    device.profile.grants (setup.bufferFrames.toNat * device.profile.frameBytes) = true := by
  apply Classical.byContradiction
  intro refused
  cases checked : device.profile.capabilities.check setup device.profile.frameBytes with
  | rejected cause => simp [prepare, checked] at done
  | fault => simp [prepare, checked] at done
  | done value =>
      simp only [prepare, checked, refused] at done
      generalize Playhead.unconfigured.configure setup device.profile.ticksPerSecond = configured
        at done
      rcases configured with ⟨playhead, _ | cause | _⟩
      all_goals
        split at done
        all_goals cases done

theorem start_eq {device : Device} (now : Tick) (allowed : device.stage.mayStart = true) :
    device.start now =
      match (device.rewound now).firstExpiry? now with
      | none => (device.rewound now, .fault)
      | some tick =>
          ({ (device.rewound now).arm tick with active := true, stage := .running },
            .done ()) := by
  rw [start, if_pos allowed]
  rfl

theorem start_effect (device : Device) (now : Tick) :
    Effect device now (device.start now).1
      (if (device.start now).2 = .done () then some (.started now) else none) := by
  by_cases allowed : device.stage.mayStart = true
  · cases first : (device.rewound now).firstExpiry? now with
    | none =>
        simp only [start_eq now allowed, first, reduceCtorEq, if_false]
        exact .misstarted allowed
    | some tick =>
        obtain ⟨gridTick, grid, armed⟩ := arm_eq (device.rewound now) tick
        simp only [start_eq now allowed, first, armed, if_true]
        exact .started tick gridTick allowed first grid
  · rw [start, if_neg allowed]
    exact .unchanged

theorem stop_effect (device : Device) (now : Tick) :
    Effect device now (device.stop now).1 none := by
  by_cases running : device.stage = .running
  · cases moved : (device.playhead.advance now).2.isDone with
    | true =>
        have stops : (device.stop now).1 =
            { device.updated now with active := false, expiry := none, stage := .stopped } := by
          simp [stop, running, moved, updated, disarm]
        rw [stops]
        exact .stopped running moved
    | false =>
        have stays : (device.stop now).1 =
            { device.updated now with active := false, expiry := none } := by
          simp [stop, running, moved, updated, disarm]
        rw [stays]
        exact .jammed running moved
  · rw [stop, if_neg running]
    exact .lowered running

theorem pointer_effect (device : Device) (now : Tick) :
    Effect device now (device.pointer now).1 none := by
  unfold pointer
  split
  · next reads => exact .read reads.2
  · exact .unchanged

theorem answer_effect (device : Device) (now : Tick) (call : Call) :
    Effect device now (device.answer now call).1 (device.event? now call) := by
  cases call with
  | prepare setup =>
      rcases prepare_cases device setup with ⟨allowed, sound, done⟩ | ⟨same, refused⟩
      · simp only [event?, answer, done, eventOf?, if_true]
        exact .prepared setup _ allowed sound rfl (prepare_granted (congrArg Prod.snd done))
      · have silent : device.event? now (.prepare setup) = none := by
          simp [event?, answer, refused]
        rw [silent, answer, same]
        exact .unchanged
  | start =>
      have starts := start_effect device now
      simpa [event?, answer, eventOf?] using starts
  | stop =>
      have stops := stop_effect device now
      simpa [event?, answer, eventOf?] using stops
  | trigger command =>
      have starts := start_effect device now
      have stops := stop_effect device now
      cases command with
      | start | resume => simpa [event?, answer, obey, eventOf?] using starts
      | stop | suspend => simpa [event?, answer, obey, eventOf?] using stops
  | pointer =>
      have reads := pointer_effect device now
      simpa [event?, answer, eventOf?] using reads
  | status | describe => simpa [event?, answer, eventOf?] using Effect.unchanged
  | copyOut frame destination => simpa [event?, answer, eventOf?] using Effect.unchanged
  | register routine =>
      simpa [event?, answer, eventOf?] using Effect.rerouted (some routine)
  | unregister => simpa [event?, answer, eventOf?] using Effect.rerouted none
  | free => simpa [event?, answer, eventOf?] using Effect.freed

/-- How the device's own part of a poll ends: without a firing, in a fault, with nothing to tell,
or with periods told, which are counted unless a counter would leave its word. -/
inductive Strike where
  | quiet
  | faulted
  | fired
  | told (periods : Nat) (counted : Bool)
  deriving Repr, DecidableEq

/-- The events that the device's own part of a poll leaves in a journal, the latest first. -/
def Strike.events (now : Tick) : Strike → List Event
  | .quiet => []
  | .faulted => [.faulted now]
  | .fired => [.fired now]
  | .told periods _ => [.told periods, .fired now]

/-- The calls that follow the device's own part: those of the callback, and a stop if it fails or
if the periods could not be counted. -/
def Strike.calls (callback : Option Callback) : Strike → List Call
  | .told _ true =>
      match callback with
      | none => []
      | some callback => callback.calls ++ if callback.fails then [.stop] else []
  | .told _ false => [.stop]
  | .quiet | .faulted | .fired => []

/-- The device after a notification has been counted, as far as it could be. -/
def counted (device : Device) (periods : Nat) : Device :=
  { device with delivery := (device.delivery.raise periods).1 }

def strike (device : Device) (now : Tick) : Device × Strike :=
  if device.isDue now ∧ device.active ∧ device.stage = .running then
    match device.disarm.tend now with
    | (tended, none) => (tended.disarm, .faulted)
    | (tended, some periods) =>
        if 0 < periods then
          (tended.counted periods, .told periods (tended.delivery.raise periods).2.isDone)
        else (tended, .fired)
  else (if device.isDue now then device.disarm else device, .quiet)

def aftermath (device : Device) (now : Tick) : List Call :=
  (device.strike now).2.calls (device.strike now).1.callback

theorem aftermath_of_told {device : Device} {now : Tick} {periods : Nat} {callback : Callback}
    (told : (device.strike now).2 = .told periods true)
    (present : (device.strike now).1.callback = some callback) :
    device.aftermath now = callback.calls ++ if callback.fails then [.stop] else [] := by
  rw [aftermath, told, present]
  rfl

theorem answerAll_append (device : Device) (now : Tick) (first second : List Call) :
    (device.answerAll now (first ++ second)).1 =
      ((device.answerAll now first).1.answerAll now second).1 := by
  induction first generalizing device with
  | nil => rfl
  | cons call rest ih => exact ih (device.answer now call).1

theorem runCallback_eq_answerAll (device : Device) (now : Tick) (periods : Nat) :
    (device.runCallback now periods).1 =
      (device.answerAll now ((Strike.told periods true).calls device.callback)).1 := by
  unfold runCallback
  cases present : device.callback with
  | none => rfl
  | some callback =>
      cases fails : callback.fails with
      | false => simp [Strike.calls, fails]
      | true => simp [Strike.calls, fails, answerAll_append, answerAll, answer]

theorem notify_eq_answerAll (device : Device) (now : Tick) (periods : Nat) :
    (device.notify now periods).1 =
      ((device.counted periods).answerAll now
        ((Strike.told periods (device.delivery.raise periods).2.isDone).calls
          (device.counted periods).callback)).1 := by
  cases counts : (device.delivery.raise periods).2.isDone with
  | false => simp [notify, counts, counted, Strike.calls, answerAll, answer]
  | true =>
      have runs := runCallback_eq_answerAll (device.counted periods) now periods
      simpa [notify, counts, counted] using runs

theorem poll_eq_answerAll (device : Device) (now : Tick) :
    (device.poll now).1 = ((device.strike now).1.answerAll now (device.aftermath now)).1 := by
  by_cases due : device.isDue now = true
  · by_cases awake : device.active = true ∧ device.stage = .running
    · have fires : device.disarm.active = true ∧ device.disarm.stage = .running := awake
      rw [poll, if_pos due, expire, if_pos fires, aftermath, strike, if_pos ⟨due, awake⟩]
      rcases device.disarm.tend now with ⟨tended, _ | periods⟩
      · rfl
      · by_cases some : 0 < periods
        · simpa [some] using notify_eq_answerAll tended now periods
        · simp [some, Strike.calls, answerAll]
    · have rests : ¬ (device.disarm.active = true ∧ device.disarm.stage = .running) := awake
      rw [poll, if_pos due, expire, if_neg rests, aftermath, strike,
        if_neg fun fires => awake fires.2, if_pos due]
      rfl
  · rw [poll, if_neg due, aftermath, strike, if_neg fun fires => due fires.1, if_neg due]
    rfl

/-- The device once it has fired: armed again, with its pending periods handed out and its ring
refilled. -/
def drained (device : Device) (now tick gridTick : Tick) (ring : Ring)
    (source : Option LoopedSource) : Device :=
  { device with
    expiry := some tick
    gridTick := gridTick
    playhead := (device.playhead.advance now).1.takePending.2
    ring := ring
    source := source }

theorem tend_eq {device : Device} {now : Tick}
    (moved : (device.playhead.advance now).2.isDone = true) :
    device.tend now =
      match (device.updated now).nextExpiry? now with
      | none => (device.updated now, none)
      | some tick =>
          ({ (device.updated now).arm tick with
              playhead := (device.playhead.advance now).1.takePending.2 }.refill,
            some (device.playhead.advance now).1.pending) := by
  simp only [tend, moved, if_true]
  rfl

theorem tend_eq_none_iff {device : Device} {now : Tick}
    (moved : (device.playhead.advance now).2.isDone = true) :
    (device.tend now).2 = none ↔ (device.updated now).nextExpiry? now = none := by
  rw [tend_eq moved]
  cases (device.updated now).nextExpiry? now with
  | none => simp
  | some tick => simp

theorem tend_cases (device : Device) (now : Tick) :
    ((device.playhead.advance now).2.isDone = false ∨
        (device.updated now).nextExpiry? now = none) ∧
      device.tend now = (device.updated now, none) ∨
    ∃ tick gridTick ring source,
      (device.playhead.advance now).2.isDone = true ∧
        (device.updated now).nextExpiry? now = some tick ∧
        (device.profile.schedule = .grid → gridTick = tick) ∧
        (ring, source) = device.replenished ∧
        device.tend now =
          (device.drained now tick gridTick ring source,
            some (device.playhead.advance now).1.pending) := by
  cases moved : (device.playhead.advance now).2.isDone with
  | false => exact .inl ⟨.inl rfl, by simp [tend, moved, updated]⟩
  | true =>
      cases next : (device.updated now).nextExpiry? now with
      | none => exact .inl ⟨.inr rfl, by rw [tend_eq moved, next]⟩
      | some tick =>
          obtain ⟨gridTick, grid, armed⟩ := arm_eq (device.updated now) tick
          have refilled := refill_eq (device.drained now tick gridTick device.ring device.source)
          refine .inr ⟨tick, gridTick, _, _, rfl, rfl, grid, rfl, ?_⟩
          rw [tend_eq moved, next]
          simp only [armed]
          exact congrArg (·, some (device.playhead.advance now).1.pending) refilled

/-- What the device's own part of a poll does to it, and how it ends. -/
inductive Struck (device : Device) (now : Tick) : Device → Strike → Prop where
  | early (early : device.isDue now = false) : Struck device now device .quiet
  | asleep (due : device.isDue now = true)
      (asleep : ¬ (device.active = true ∧ device.stage = .running)) :
      Struck device now { device with expiry := none } .quiet
  | faulted (due : device.isDue now = true) (running : device.stage = .running)
      (fault : (device.playhead.advance now).2.isDone = false ∨
        (device.updated now).nextExpiry? now = none) :
      Struck device now { device.updated now with expiry := none } .faulted
  | fired (due : device.isDue now = true) (running : device.stage = .running)
      (moved : (device.playhead.advance now).2.isDone = true)
      (tick gridTick : Tick) (ring : Ring) (source : Option LoopedSource)
      (next : (device.updated now).nextExpiry? now = some tick)
      (grid : device.profile.schedule = .grid → gridTick = tick)
      (none : (device.playhead.advance now).1.pending = 0)
      (fed : (ring, source) = device.replenished) :
      Struck device now (device.drained now tick gridTick ring source) .fired
  | told (due : device.isDue now = true) (running : device.stage = .running)
      (moved : (device.playhead.advance now).2.isDone = true)
      (tick gridTick : Tick) (ring : Ring) (source : Option LoopedSource)
      (next : (device.updated now).nextExpiry? now = some tick)
      (grid : device.profile.schedule = .grid → gridTick = tick)
      (some : 0 < (device.playhead.advance now).1.pending)
      (fed : (ring, source) = device.replenished) :
      Struck device now
        ((device.drained now tick gridTick ring source).counted
          (device.playhead.advance now).1.pending)
        (.told (device.playhead.advance now).1.pending
          (device.delivery.raise (device.playhead.advance now).1.pending).2.isDone)

theorem strike_struck (device : Device) (now : Tick) :
    Struck device now (device.strike now).1 (device.strike now).2 := by
  by_cases due : device.isDue now = true
  · by_cases awake : device.active = true ∧ device.stage = .running
    · rw [strike, if_pos ⟨due, awake⟩]
      rcases tend_cases device.disarm now with
        ⟨fault, tended⟩ | ⟨tick, gridTick, ring, source, moved, next, grid, fed, tended⟩
      · rw [tended]
        exact .faulted due awake.2 fault
      · rw [tended]
        by_cases some : 0 < (device.playhead.advance now).1.pending
        · simp only [disarm, some, if_true]
          exact .told due awake.2 moved tick gridTick ring source next grid some fed
        · simp only [disarm, some, if_false]
          exact .fired due awake.2 moved tick gridTick ring source next grid (by omega) fed
    · rw [strike, if_neg fun fires => awake fires.2, if_pos due]
      exact .asleep due awake
  · rw [strike, if_neg fun fires => due fires.1, if_neg due]
    exact .early (by simpa using due)

theorem Effect.profile_eq {device next : Device} {now : Tick} {event : Option Event}
    (effect : device.Effect now next event) : next.profile = device.profile := by
  cases effect <;> rfl

theorem Struck.profile_eq {device next : Device} {now : Tick} {strike : Strike}
    (struck : device.Struck now next strike) : next.profile = device.profile := by
  cases struck <;> rfl

/-! ## What reaches the consumers -/

theorem Effect.delivery_eq {device next : Device} {now : Tick} {event : Option Event}
    (effect : device.Effect now next event) : next.delivery = device.delivery := by
  cases effect <;> rfl

theorem delivery_answerAll (device : Device) (now : Tick) (calls : List Call) :
    (device.answerAll now calls).1.delivery = device.delivery := by
  induction calls generalizing device with
  | nil => rfl
  | cons call rest ih =>
      exact (ih (device.answer now call).1).trans (device.answer_effect now call).delivery_eq

theorem poll_delivery (device : Device) (now : Tick) :
    (device.poll now).1.delivery = (device.strike now).1.delivery := by
  rw [poll_eq_answerAll, delivery_answerAll]

/-- If a notification is counted, the callback in place runs, and its calls are made on the device
that was left behind. -/
theorem notify_run (device : Device) (now : Tick) (periods : Nat) :
    (device.notify now periods).2 =
      if (device.delivery.raise periods).2.isDone then
        device.callback.map fun callback =>
          ⟨callback.name, periods, ((device.counted periods).answerAll now callback.calls).2⟩
      else none := by
  cases counts : (device.delivery.raise periods).2.isDone with
  | false => simp [notify, counts]
  | true =>
      cases present : device.callback with
      | none => simp [notify, counts, runCallback, present]
      | some callback =>
          cases fails : callback.fails <;>
            simp [notify, counts, runCallback, present, fails, counted]

theorem poll_run (device : Device) (now : Tick) :
    (device.poll now).2 =
      match (device.strike now).2 with
      | .told periods true =>
          (device.strike now).1.callback.map fun callback =>
            ⟨callback.name, periods,
              ((device.strike now).1.answerAll now callback.calls).2⟩
      | .told _ false | .quiet | .faulted | .fired => none := by
  by_cases due : device.isDue now = true
  · by_cases awake : device.active = true ∧ device.stage = .running
    · have fires : device.disarm.active = true ∧ device.disarm.stage = .running := awake
      rw [poll, if_pos due, expire, if_pos fires, strike, if_pos ⟨due, awake⟩]
      generalize device.disarm.tend now = tending
      obtain ⟨tended, _ | periods⟩ := tending
      · rfl
      · by_cases some : 0 < periods
        · have told := notify_run tended now periods
          cases counts : (tended.delivery.raise periods).2.isDone with
          | false => simpa [some, counts] using told
          | true => simpa [some, counts, counted] using told
        · simp [some]
    · have rests : ¬ (device.disarm.active = true ∧ device.disarm.stage = .running) := awake
      rw [poll, if_pos due, expire, if_neg rests, strike, if_neg fun fires => awake fires.2]
  · rw [poll, if_neg due, strike, if_neg fun fires => due fires.1]

theorem Struck.callback_eq {device next : Device} {now : Tick} {strike : Strike}
    (struck : device.Struck now next strike) : next.callback = device.callback := by
  cases struck <;> rfl

/-- The callback in place is run if periods were counted, and it is told exactly these. -/
theorem poll_run_periods (device : Device) (now : Tick) :
    (device.poll now).2.map CallbackRun.periods =
      match (device.strike now).2 with
      | .told periods true => device.callback.map fun _ => periods
      | .told _ false | .quiet | .faulted | .fired => none := by
  rw [poll_run, (device.strike_struck now).callback_eq]
  cases (device.strike now).2 with
  | quiet | faulted | fired => rfl
  | told periods counted =>
      cases counted with
      | false => rfl
      | true => exact Option.map_map _ _ _

end Device

end PcmPlayback
