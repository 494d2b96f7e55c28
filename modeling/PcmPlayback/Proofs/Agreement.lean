import PcmPlayback.Proofs.Alarm
import PcmPlayback.Proofs.Twins

/-!
# Agreement of the two schedules

On the boundary schedule the next expiry is computed from what is left of the present period, on the
grid schedule from the expiry before it. If every period lasts a whole number of ticks, and playback
always begins at the start of a buffer, then the boundaries are the points of the grid, and nobody
can tell the two schedules apart.
-/

set_option autoImplicit false

namespace PcmPlayback

/-- A timing whose periods last a whole number of ticks. -/
def Timing.Even (timing : Timing) : Prop := timing.speed ∣ timing.periodSpan

instance : DecidablePred Timing.Even :=
  fun timing => inferInstanceAs (Decidable (timing.speed ∣ timing.periodSpan))

/-- Whether the periods of all preparations last a whole number of ticks. -/
def Journal.Even (journal : Journal) : Prop := ∀ timing ∈ journal.timings, timing.Even

instance (journal : Journal) : Decidable journal.Even :=
  inferInstanceAs (Decidable (∀ timing ∈ journal.timings, timing.Even))

theorem Journal.Even.of_append {events journal : Journal} (even : Even (events ++ journal)) :
    Even journal := by
  intro timing member
  apply even timing
  rw [timings_append]
  exact List.mem_append_right _ member

theorem Tick.after?_congr {first second : Tick} {delay other : Nat}
    (same : first.toNat + delay = second.toNat + other) :
    first.after? delay = second.after? other := by
  rw [after?, after?, same]

namespace Timing

theorem ticksFor_mul {timing : Timing} (sound : timing.Sound) {count : Nat} (positive : 0 < count) :
    timing.ticksFor (timing.speed * count) = min count (wordLimit - 1) := by
  have exact : divUp (timing.speed * count) timing.speed = count := by
    apply Nat.le_antisymm
    · exact (divUp_le_iff sound.speed_pos).mpr (Nat.le_of_eq (Nat.mul_comm _ _))
    · have covers := (divUp_le_iff sound.speed_pos).mp
        (Nat.le_refl (divUp (timing.speed * count) timing.speed))
      rw [Nat.mul_comm _ timing.speed] at covers
      exact Nat.le_of_mul_le_mul_left covers sound.speed_pos
  rw [ticksFor, exact, Nat.max_eq_right positive]

theorem ticksFor_left {timing : Timing} (sound : timing.Sound) {period : Nat}
    (whole : timing.periodSpan = timing.speed * period) (positive : 0 < period) (elapsed : Nat) :
    timing.ticksFor (timing.periodSpan - timing.speed * elapsed % timing.periodSpan) =
      min (period - elapsed % period) (wordLimit - 1) := by
  have within := Nat.mod_lt elapsed positive
  have left : timing.periodSpan - timing.speed * elapsed % timing.periodSpan =
      timing.speed * (period - elapsed % period) := by
    rw [whole, Nat.mul_mod_mul_left, Nat.mul_sub]
  rw [left, ticksFor_mul sound (by omega)]

theorem next_point_eq {started point now count period : Nat} (positive : 0 < period)
    (place : point = started + count * period) (due : point ≤ now) :
    point + ((now - point) / period + 1) * period = now + (period - (now - started) % period) := by
  have passed : now - started = now - point + period * count := by
    rw [Nat.mul_comm period]
    omega
  have quotient := Nat.div_add_mod' (now - point) period
  have within := Nat.mod_lt (now - point) positive
  rw [passed, Nat.add_mul_mod_self_left, Nat.add_mul]
  omega

/-- The boundary after a tick is the grid point after it, if the grid began at the start of a
buffer and its points are whole periods apart. -/
theorem gridPoint?_eq {timing : Timing} (sound : timing.Sound) (even : timing.Even)
    {started point now : Tick} {count : Nat} (ahead : started.toNat < point.toNat)
    (place : point.toNat = started.toNat + count * timing.periodTicks) (due : point ≤ now) :
    Device.gridPoint? point now timing.periodTicks =
      now.after? (timing.ticksFor
        (timing.periodSpan - timing.speed * (now.toNat - started.toNat) % timing.periodSpan)) := by
  obtain ⟨period, whole⟩ := even
  have positive : 0 < period := by
    apply Nat.pos_of_ne_zero
    rintro rfl
    exact absurd whole (Nat.ne_of_gt sound.period_pos)
  have ordered := UInt64.le_iff_toNat_le.mp due
  have ticks : timing.periodTicks = min period (wordLimit - 1) := by
    rw [periodTicks, whole, ticksFor_mul sound positive]
  rw [ticks] at place
  have apart : ¬ min period (wordLimit - 1) = 0 :=
    Nat.pos_iff_ne_zero.mp (Nat.lt_min.mpr ⟨positive, by decide⟩)
  rw [ticksFor_left sound whole positive, Device.gridPoint?, if_pos due, ticks, if_neg apart]
  by_cases fits : period < wordLimit
  · rw [Nat.min_eq_left (by omega)] at place ⊢
    rw [Nat.min_eq_left (by omega)]
    exact Tick.after?_congr (next_point_eq positive place ordered)
  · -- the period is cut to a word, so the point is the end of the clock's word, and so is the clock
    have counted : 0 < count := by
      apply Nat.pos_of_ne_zero
      rintro rfl
      omega
    have far := Nat.le_mul_of_pos_left (min period (wordLimit - 1)) counted
    have none (tick : Tick) (later : point ≤ tick) (delay : Nat) (positive : 0 < delay) :
        tick.after? delay = none := by
      have ordered := UInt64.le_iff_toNat_le.mp later
      rw [Tick.after?_eq_none_iff]
      omega
    have within := Nat.mod_lt (now.toNat - started.toNat) positive
    rw [none point (UInt64.le_refl point), none now due]
    · exact Nat.lt_min.mpr ⟨by omega, by decide⟩
    · exact Nat.mul_pos (Nat.succ_pos _) (Nat.lt_min.mpr ⟨positive, by decide⟩)

end Timing

theorem Device.starts_of_event? {device : Device} {now tick : Tick} {call : Call}
    (started : device.event? now call = some (.started tick)) : call.starts = true := by
  rw [event?] at started
  split at started
  · cases call with
    | start => rfl
    | trigger command =>
        cases command with
        | start | resume => rfl
        | stop | suspend => cases started
    | prepare | stop | pointer | status | describe => cases started
    | copyOut | register | unregister | free => cases started
  · cases started

namespace Scene

def twin (scene : Scene) (gridTick : Tick) : Scene :=
  { scene with device := scene.device.twin gridTick }

/-- Whether no act of a list starts a device that is stopped, or tries to. -/
def StartsFresh (scene : Scene) : List Act → Prop
  | [] => True
  | .call call :: rest =>
      (call.starts = true → scene.device.stage ≠ .stopped) ∧
        (scene.act (.call call)).StartsFresh rest
  | .pass tick :: rest => (scene.act (.pass tick)).StartsFresh rest
  | .poll :: rest => (scene.act .poll).StartsFresh rest

def decideStartsFresh : (scene : Scene) → (acts : List Act) → Decidable (scene.StartsFresh acts)
  | _, [] => .isTrue trivial
  | scene, .call call :: rest =>
      have := decideStartsFresh (scene.act (.call call)) rest
      inferInstanceAs (Decidable (_ ∧ _))
  | scene, .pass tick :: rest => decideStartsFresh (scene.act (.pass tick)) rest
  | scene, .poll :: rest => decideStartsFresh (scene.act .poll) rest

instance (scene : Scene) (acts : List Act) : Decidable (scene.StartsFresh acts) :=
  decideStartsFresh scene acts

theorem startsFresh_append {scene : Scene} {first second : List Act} :
    scene.StartsFresh (first ++ second) ↔
      scene.StartsFresh first ∧ (scene.run first).StartsFresh second := by
  induction first generalizing scene with
  | nil => simp [StartsFresh, run]
  | cons act rest ih =>
      cases act with
      | call call => simp only [List.cons_append, StartsFresh, run, ih, and_assoc]
      | pass tick => exact ih
      | poll => exact ih

theorem forward_of_run {scene : Scene} (acts : List Act)
    (forward : (scene.run acts).journal.Forward) : scene.journal.Forward := by
  obtain ⟨events, grown⟩ := scene.journal_run acts
  rw [grown] at forward
  exact forward.of_append

theorem even_of_run {scene : Scene} (acts : List Act) (even : (scene.run acts).journal.Even) :
    scene.journal.Even := by
  obtain ⟨events, grown⟩ := scene.journal_run acts
  rw [grown] at even
  exact even.of_append

/-- Playback has been going on since the start of a buffer. -/
structure Unbroken (scene : Scene) : Prop where
  prepared : scene.device.stage = .prepared → scene.journal.played = 0
  running : scene.device.stage = .running → ∀ started,
    scene.journal.startedAt? = some started → scene.journal.playedBy started.toNat = 0

namespace Unbroken

variable {scene : Scene}

theorem call (unbroken : scene.Unbroken) {next : Device} {event : Option Event}
    (effect : scene.device.Effect scene.now next event)
    (fresh : event = some (.started scene.now) → scene.device.stage ≠ .stopped) :
    Unbroken ⟨scene.now, next, event.toList ++ scene.journal⟩ := by
  obtain ⟨prepared, running⟩ := unbroken
  cases effect with
  | unchanged | rerouted | misstarted | lowered | jammed | read => exact ⟨prepared, running⟩
  | prepared => exact ⟨fun _ => rfl, nofun⟩
  | started tick gridTick allowed first grid =>
      refine ⟨nofun, fun _ started startedAt => ?_⟩
      cases startedAt
      rcases Stage.mayStart_iff.mp allowed with ready | stopped
      · exact Nat.le_zero.mp (prepared ready ▸ Journal.playedBy_le_played _ scene.journal)
      · exact absurd stopped (fresh rfl)
  | stopped | freed => exact ⟨nofun, nofun⟩

theorem poll (unbroken : scene.Unbroken) {next : Device} {strike : Device.Strike}
    (struck : scene.device.Struck scene.now next strike) :
    Unbroken ⟨scene.now, next, strike.events scene.now ++ scene.journal⟩ := by
  obtain ⟨_, played, playedBy, startedAt⟩ :=
    Journal.SameTimes.events scene.now strike scene.journal
  have stage := struck.stage_eq
  constructor
  · intro ready
    rw [played]
    exact unbroken.prepared (stage.symm.trans ready)
  · intro runs started begun
    rw [playedBy]
    exact unbroken.running (stage.symm.trans runs) started (startedAt.symm.trans begun)

theorem pass (unbroken : scene.Unbroken) (accounts : scene.Accounts) (tick : Tick) :
    Unbroken (scene.act (.pass tick)) := by
  constructor
  · intro ready
    have idle : scene.device.stage = .prepared := ready
    simp only [Scene.act, Journal.played, idle]
    exact unbroken.prepared idle
  · intro runs started begun
    obtain ⟨first, same, startedLe, baseLe, _⟩ := accounts.running runs
    cases Option.some.inj (same.symm.trans begun)
    rw [playedBy_pass fun _ => Nat.le_trans startedLe baseLe]
    exact unbroken.running runs started begun

theorem act (unbroken : scene.Unbroken) (accounts : scene.Accounts) (act : Act)
    (fresh : scene.StartsFresh [act]) : (scene.act act).Unbroken := by
  cases act with
  | pass tick => exact unbroken.pass accounts tick
  | call call =>
      apply unbroken.call (scene.device.answer_effect scene.now call)
      intro started
      exact fresh.1 (Device.starts_of_event? started)
  | poll => exact unbroken.poll (scene.device.strike_struck scene.now)

end Unbroken

theorem profile_act (scene : Scene) (act : Act) :
    (scene.act act).device.profile = scene.device.profile := by
  cases act with
  | pass tick => rfl
  | call call => exact (scene.device.answer_effect scene.now call).profile_eq
  | poll => exact (scene.device.strike_struck scene.now).profile_eq

/-- A scene on the boundary schedule whose twin is armed for the same ticks: its periods last whole
numbers of ticks, and playback has been going on since the start of a buffer. -/
structure Paced (scene : Scene) (gridTick : Tick) : Prop where
  accounts : scene.Accounts
  alarm : (scene.twin gridTick).Alarm
  schedule : scene.device.profile.schedule = .boundary
  even : scene.journal.Even
  unbroken : scene.Unbroken

theorem Accounts.twin {scene : Scene} (accounts : scene.Accounts) (gridTick : Tick) :
    (scene.twin gridTick).Accounts := by
  obtain ⟨⟨⟨configured, setup, period⟩, flag, armed⟩, unset, exact, past, bounded, running,
    resting⟩ := accounts
  exact ⟨⟨⟨configured, setup, period⟩, flag, armed⟩, unset, exact, past, bounded, running, resting⟩

namespace Paced

variable {scene : Scene} {gridTick : Tick}

theorem sameFirst (paced : scene.Paced gridTick) (allowed : scene.device.stage.mayStart = true)
    (fresh : scene.device.stage ≠ .stopped) : scene.device.SameFirst scene.now := by
  have ready : scene.device.stage = .prepared :=
    (Stage.mayStart_iff.mp allowed).resolve_right fresh
  have accounts := paced.accounts
  have boundary : (scene.device.rewound scene.now).profile.schedule = .boundary := paced.schedule
  obtain ⟨timing, present⟩ := accounts.timing_of_configured
    (accounts.orderly.configured (.inl ready))
  -- nothing is covered yet, so the next boundary is one whole period ahead
  have progress : (scene.device.rewound scene.now).playhead.progress =
      some (.after timing 0 scene.device.playhead.pending) := by
    obtain ⟨resting, live⟩ := Stage.resting_of_mayStart allowed
    obtain ⟨_, exact⟩ := accounts.exact timing present
    rw [accounts.resting resting live, paced.unbroken.prepared ready, Nat.mul_zero] at exact
    exact exact
  simp only [Device.SameFirst, Device.firstExpiry?, boundary, accounts.periodTicks_eq present,
    Playhead.delay?_after progress, Nat.zero_mod, Nat.sub_zero]
  rfl

theorem sameNext (paced : scene.Paced gridTick) (due : scene.device.isDue scene.now = true)
    (running : scene.device.stage = .running) :
    scene.device.SameNext gridTick scene.now := by
  have accounts := paced.accounts
  have boundary : (scene.device.updated scene.now).profile.schedule = .boundary := paced.schedule
  obtain ⟨timing, present⟩ := accounts.timing_of_running running
  have progress : (scene.device.updated scene.now).playhead.progress = _ :=
    accounts.progress_updated running timing present
  obtain ⟨started, startedAt, startedLe, baseLe, continuous⟩ := accounts.running running
  have played : scene.journal.played = scene.now.toNat - started.toNat := by
    have whole := continuous started.toNat (Nat.le_refl _) (Nat.le_trans startedLe baseLe)
    rw [paced.unbroken.running running started startedAt, Nat.zero_add] at whole
    exact whole.symm
  -- the point that is due is where the twin was armed for on its grid
  obtain ⟨expiry, armedFor, late⟩ := Device.isDue_iff.mp due
  obtain ⟨first, armed, begun, armedAt, ordered, _⟩ := paced.alarm.ordered running
  cases Option.some.inj (begun.symm.trans startedAt)
  obtain ⟨point, ⟨count, place⟩, ahead, _⟩ :=
    paced.alarm.grid rfl running timing started armed expiry present startedAt armedAt armedFor
  have here : gridTick = expiry := point
  subst here
  have same := Timing.gridPoint?_eq (accounts.exact timing present).1
    (paced.even timing (Journal.mem_timings_of_timing? present))
    (Nat.lt_of_le_of_lt ordered ahead) place late
  simp only [Device.SameNext, Device.nextExpiry?, boundary, accounts.periodTicks_eq present,
    Playhead.delay?_after progress, Option.bind_some, played, same]

theorem twin_act (paced : scene.Paced gridTick) (act : Act) (fresh : scene.StartsFresh [act]) :
    ∃ point, (scene.twin gridTick).act act = (scene.act act).twin point := by
  cases act with
  | pass tick => exact ⟨gridTick, rfl⟩
  | call call =>
      have same (starts : call.starts = true) (allowed : scene.device.stage.mayStart = true) :
          scene.device.SameFirst scene.now := paced.sameFirst allowed (fresh.1 starts)
      obtain ⟨point, answers⟩ := Device.answer_twin gridTick call same
      refine ⟨point, ?_⟩
      simp only [Scene.act, twin, answers, Device.event?_twin gridTick call same]
  | poll =>
      obtain ⟨point, strikes⟩ := Device.strike_twin paced.sameNext
      refine ⟨point, ?_⟩
      simp only [Scene.act, twin, strikes]

/-- The twin of a scene takes every act along, as long as playback begins anew each time. -/
theorem act (paced : scene.Paced gridTick) (act : Act) (fresh : scene.StartsFresh [act])
    (forward : (scene.act act).journal.Forward) (even : (scene.act act).journal.Even) :
    ∃ point, (scene.twin gridTick).act act = (scene.act act).twin point ∧
      (scene.act act).Paced point := by
  obtain ⟨point, same⟩ := paced.twin_act act fresh
  have alarm := paced.alarm.act (paced.accounts.twin gridTick) act (same ▸ forward)
  refine ⟨point, same, ?_, same ▸ alarm, ?_, even, ?_⟩
  · exact paced.accounts.act act forward
  · rw [profile_act]
    exact paced.schedule
  · exact paced.unbroken.act paced.accounts act fresh

theorem run (paced : scene.Paced gridTick) (acts : List Act) (fresh : scene.StartsFresh acts)
    (forward : (scene.run acts).journal.Forward) (even : (scene.run acts).journal.Even) :
    ∃ point, (scene.twin gridTick).run acts = (scene.run acts).twin point ∧
      (scene.run acts).Paced point := by
  induction acts generalizing scene gridTick with
  | nil => exact ⟨gridTick, rfl, paced⟩
  | cons act rest ih =>
      have split : scene.StartsFresh ([act] ++ rest) := fresh
      obtain ⟨first, later⟩ := startsFresh_append.mp split
      obtain ⟨point, same, paces⟩ := paced.act act first (forward_of_run rest forward)
        (even_of_run rest even)
      obtain ⟨last, ran, paced⟩ := ih paces later forward even
      refine ⟨last, ?_, paced⟩
      rw [Scene.run, same, ran]
      rfl

theorem replies (paced : scene.Paced gridTick) (calls : List Call) {after : List Call}
    (fresh : scene.StartsFresh ((calls ++ after).map .call))
    (forward : (scene.run ((calls ++ after).map .call)).journal.Forward)
    (even : (scene.run ((calls ++ after).map .call)).journal.Even) :
    ((scene.device.twin gridTick).answerAll scene.now calls).2 =
      (scene.device.answerAll scene.now calls).2.map Reply.twin := by
  induction calls generalizing scene gridTick with
  | nil => rfl
  | cons call rest ih =>
      obtain ⟨first, later⟩ := fresh
      obtain ⟨point, answers⟩ := Device.answer_twin gridTick call fun starts allowed =>
        paced.sameFirst allowed (first starts)
      obtain ⟨next, same, paces⟩ := paced.act (.call call) ⟨first, trivial⟩
        (forward_of_run ((rest ++ after).map .call) forward)
        (even_of_run ((rest ++ after).map .call) even)
      have twin : ((scene.device.twin gridTick).answer scene.now call).1 =
          (scene.act (.call call)).device.twin next := congrArg Scene.device same
      have rests := ih paces later forward even
      simp only [Device.answerAll, twin, List.map_cons]
      rw [answers]
      exact congrArg _ rests

theorem poll (paced : scene.Paced gridTick)
    (fresh : scene.StartsFresh (.poll :: (scene.device.aftermath scene.now).map .call))
    (forward :
      (scene.run (.poll :: (scene.device.aftermath scene.now).map .call)).journal.Forward)
    (even : (scene.run (.poll :: (scene.device.aftermath scene.now).map .call)).journal.Even) :
    ∃ point, (scene.device.twin gridTick).poll scene.now =
      ((scene.device.poll scene.now).1.twin point,
        (scene.device.poll scene.now).2.map CallbackRun.twin) := by
  have calls : (scene.act .poll).StartsFresh ((scene.device.aftermath scene.now).map .call) := fresh
  obtain ⟨between, acted, paces⟩ := paced.act .poll trivial
    (forward_of_run ((scene.device.aftermath scene.now).map .call) forward)
    (even_of_run ((scene.device.aftermath scene.now).map .call) even)
  obtain ⟨point, ran, _⟩ := paces.run _ calls forward even
  have struck : (scene.device.twin gridTick).strike scene.now =
      ((scene.device.strike scene.now).1.twin between, (scene.device.strike scene.now).2) := by
    obtain ⟨other, strikes⟩ := Device.strike_twin paced.sameNext
    have same : (scene.device.strike scene.now).1.twin other = _ :=
      (congrArg Prod.fst strikes).symm.trans (congrArg Scene.device acted)
    rw [strikes, same]
    rfl
  refine ⟨point, Prod.ext ?_ ?_⟩
  · obtain ⟨mine, _⟩ := (scene.act .poll).device_run_calls (scene.device.aftermath scene.now)
    obtain ⟨other, _⟩ := ((scene.act .poll).twin between).device_run_calls
      (scene.device.aftermath scene.now)
    rw [Device.poll_eq_answerAll, Device.aftermath_twin paced.sameNext, struck,
      Device.poll_eq_answerAll]
    exact other.symm.trans ((congrArg Scene.device ran).trans (congrArg (·.twin point) mine))
  · -- the calls of the callback come first in the aftermath, so they are still paced
    apply Device.poll_run_twin struck
    intro periods callback counted present
    rw [Device.aftermath_of_told counted present] at calls forward even
    exact paces.replies callback.calls calls forward even

end Paced

end Scene

namespace Session

section

variable {session : Session} {journal : Journal} {gridTick : Tick}

theorem actsOf_twin (paced : (session.scene journal).Paced gridTick) (step : Step) :
    (session.twin gridTick).actsOf step = session.actsOf step := by
  cases step with
  | clock move => rfl
  | deck step =>
      cases step with
      | poll =>
          have same : (session.twin gridTick).deck.device.aftermath session.clock.now = _ :=
            Device.aftermath_twin paced.sameNext
          exact congrArg (fun calls => Act.poll :: calls.map .call) same
      | call | join | tryWait | waitFor | wait | total => rfl

theorem step_twin (paced : (session.scene journal).Paced gridTick) (step : Step)
    (fresh : (session.scene journal).StartsFresh (session.actsOf step))
    (forward : ((session.scene journal).run (session.actsOf step)).journal.Forward)
    (even : ((session.scene journal).run (session.actsOf step)).journal.Even) :
    ∃ point, (session.twin gridTick).step step =
        ((session.step step).1.twin point, (session.step step).2.twin) ∧
      ((session.scene journal).run (session.actsOf step)).Paced point := by
  have same : ∃ point, (session.twin gridTick).step step =
      ((session.step step).1.twin point, (session.step step).2.twin) := by
    cases step with
    | clock move => exact ⟨gridTick, rfl⟩
    | deck step =>
        have answers (call : Call) (calls : step = .call call) : ∃ point,
            (session.deck.device.twin gridTick).answer session.clock.now call =
              ((session.deck.device.answer session.clock.now call).1.twin point,
                (session.deck.device.answer session.clock.now call).2.twin) := by
          subst calls
          exact Device.answer_twin gridTick call fun starts allowed =>
            paced.sameFirst allowed (fresh.1 starts)
        have polls (polls : step = .poll) : ∃ point,
            (session.deck.device.twin gridTick).poll session.clock.now =
              ((session.deck.device.poll session.clock.now).1.twin point,
                (session.deck.device.poll session.clock.now).2.map CallbackRun.twin) := by
          subst polls
          exact paced.poll fresh forward even
        obtain ⟨point, stepped⟩ := Deck.step_twin answers polls
        have steps : (session.twin gridTick).deck.step (session.twin gridTick).clock.now step = _ :=
          stepped
        refine ⟨point, ?_⟩
        simp only [Session.step, steps]
        rfl
  obtain ⟨point, stepped⟩ := same
  obtain ⟨other, ran, paces⟩ := paced.run _ fresh forward even
  -- both are the grid point of the device after the step
  obtain ⟨after, reached⟩ := (session.twin gridTick).run_actsOf journal step
  rw [actsOf_twin paced, stepped] at reached
  have unique : other = point :=
    congrArg (fun scene => scene.device.gridTick) (ran.symm.trans reached)
  exact ⟨point, stepped, unique ▸ paces⟩

theorem run_twin (paced : (session.scene journal).Paced gridTick) (steps : List Step)
    (fresh : (session.scene journal).StartsFresh (session.acts steps))
    (forward : ((session.scene journal).run (session.acts steps)).journal.Forward)
    (even : ((session.scene journal).run (session.acts steps)).journal.Even) :
    (session.twin gridTick).acts steps = session.acts steps ∧
      ((session.twin gridTick).run steps).2 = (session.run steps).2.map Entry.twin ∧
      ∀ before, before <+: steps →
        ∃ point, ((session.twin gridTick).run before).1 = (session.run before).1.twin point := by
  induction steps generalizing session journal gridTick with
  | nil =>
      refine ⟨rfl, rfl, fun before within => ⟨gridTick, ?_⟩⟩
      rw [List.prefix_nil.mp within]
      rfl
  | cons step rest ih =>
      obtain ⟨now, later⟩ := Scene.startsFresh_append.mp fresh
      rw [acts, Scene.run_append] at forward even
      obtain ⟨point, stepped, paces⟩ := step_twin paced step now
        (Scene.forward_of_run _ forward) (Scene.even_of_run _ even)
      obtain ⟨after, reached⟩ := session.run_actsOf journal step
      rw [reached] at later forward even paces
      obtain ⟨acting, entries, states⟩ := ih paces later forward even
      refine ⟨?_, ?_, ?_⟩
      · simp only [acts, actsOf_twin paced, stepped, acting]
      · simp only [run, stepped, entries, List.map_cons]
      · intro before within
        cases before with
        | nil => exact ⟨gridTick, rfl⟩
        | cons first between =>
            obtain ⟨rfl, inside⟩ := List.cons_prefix_cons.mp within
            simp only [run, stepped]
            exact states between inside

end

theorem paced_opening {template : Template} {clock : ManualClock} {session : Session}
    (opened : Session.begin { template with schedule := .boundary } clock = .ok session) :
    (session.scene []).Paced 0 := by
  obtain ⟨source, _, _, idle⟩ := begin_eq_ok opened
  have device : (session.scene []).device = _ := idle
  have resting : ((session.scene []).twin 0).device.stage ≠ .running := by
    simp [Scene.twin, device, Device.twin, Template.idleDevice]
  refine ⟨accounts_opening opened, .of_resting resting, ?_, ?_, ⟨?_, ?_⟩⟩
  · rw [device]
    rfl
  · intro timing member
    cases member
  · exact fun _ => rfl
  · exact fun running => absurd running resting

/-- The two schedules agree in every run with a clock that never goes back, if every preparation has
periods of whole ticks and a stopped device is not started, in a step or in a callback. The two
sessions show the same at every step, and the same happens in them. After every step the devices
differ in nothing but the schedule and its grid, and every call but a start has the same reply. -/
theorem schedules_agree {template : Template} {clock : ManualClock} {first second : Session}
    (boundary : Session.begin { template with schedule := .boundary } clock = .ok first)
    (grid : Session.begin { template with schedule := .grid } clock = .ok second)
    (steps : List Step) (forward : (first.journal steps).Forward)
    (even : (first.journal steps).Even)
    (fresh : (first.scene []).StartsFresh (first.acts steps)) :
    (second.run steps).2 = (first.run steps).2.map Entry.twin ∧
    second.journal steps = first.journal steps ∧
    ∀ before, before <+: steps →
      (∃ gridTick, (second.run before).1 = (first.run before).1.twin gridTick) ∧
      ∀ now call, call.starts = false →
        ((second.run before).1.deck.device.answer now call).2 =
          ((first.run before).1.deck.device.answer now call).2.twin := by
  rw [begin_twin, boundary] at grid
  cases grid
  have paced := paced_opening boundary
  obtain ⟨acting, entries, states⟩ := run_twin paced steps fresh forward even
  obtain ⟨_, ran, _⟩ := paced.run _ fresh forward even
  refine ⟨entries, ?_, fun before within => ?_⟩
  · rw [journal, acting]
    change (((first.scene []).twin 0).run _).journal = _
    rw [ran]
    rfl
  · obtain ⟨gridTick, same⟩ := states before within
    refine ⟨⟨gridTick, same⟩, fun now call unstarting => ?_⟩
    obtain ⟨_, answers⟩ := @Device.answer_twin (first.run before).1.deck.device now gridTick call
      fun starts => by simp [unstarting] at starts
    rw [same]
    exact congrArg Prod.snd answers

/-- Agreement at work: the timer is polled early, late by many periods and just in time, the
callback reads its position and stops the device, which is prepared and started again, and at last
no expiry is left in the clock's word. The second session has fired all along on its grid. -/
theorem schedules_agree_overflowing :
    ∃ (first second : Session) (steps : List Step),
      Session.begin { ({} : Template) with schedule := .boundary } ⟨1000, 7⟩ = .ok first ∧
        Session.begin { ({} : Template) with schedule := .grid } ⟨1000, 7⟩ = .ok second ∧
        (first.journal steps).Forward ∧ (first.journal steps).Even ∧
        (first.scene []).StartsFresh (first.acts steps) ∧
        (second.run steps).2 = (first.run steps).2.map Entry.twin ∧
        second.journal steps = first.journal steps ∧
        ((second.run steps).1.deck.device.answer 18446744073709551600 .pointer).2 =
          ((first.run steps).1.deck.device.answer 18446744073709551600 .pointer).2.twin ∧
        first.deck.device.profile.schedule = .boundary ∧
        second.deck.device.profile.schedule = .grid ∧
        (first.run steps).1.deck.device.delivery.edges = 3 ∧
        (first.run steps).1.deck.device.expiry = none := by
  let first : Session := ⟨⟨1000, 7⟩, ⟨({} : Template).idleDevice 1000 none, []⟩⟩
  let second : Session := first.twin 0
  let steps : List Step :=
    [.deck .join, .deck (.call (.register ⟨"reader", [.pointer, .status], false⟩)),
      .deck (.call (.prepare ⟨8000, 3000, 1000⟩)), .deck (.call .start), .clock (.forward 20),
      .deck .poll, .clock (.forward 1000), .deck .poll, .clock (.moveTo 1132), .deck .poll,
      .deck (.tryWait 0), .deck (.call (.register ⟨"closer", [.stop], true⟩)),
      .clock (.forward 130), .deck .poll, .deck (.call (.prepare ⟨8000, 3000, 1000⟩)),
      .deck (.call .start), .clock (.moveTo 18446744073709551600), .deck .poll]
  have boundary : Session.begin { ({} : Template) with schedule := .boundary } ⟨1000, 7⟩ =
      .ok first := rfl
  have grid : Session.begin { ({} : Template) with schedule := .grid } ⟨1000, 7⟩ = .ok second :=
    rfl
  have forward : (first.journal steps).Forward := by decide +kernel
  have even : (first.journal steps).Even := by decide +kernel
  have fresh : (first.scene []).StartsFresh (first.acts steps) := by decide +kernel
  have told : (first.run steps).1.deck.device.delivery.edges = 3 := by decide +kernel
  have overflown : (first.run steps).1.deck.device.expiry = none := by decide +kernel
  obtain ⟨same, happened, states⟩ := schedules_agree boundary grid steps forward even fresh
  obtain ⟨_, replies⟩ := states steps (List.prefix_refl steps)
  exact ⟨first, second, steps, boundary, grid, forward, even, fresh, same, happened,
    replies _ .pointer rfl, rfl, rfl, told, overflown⟩

end Session

end PcmPlayback
