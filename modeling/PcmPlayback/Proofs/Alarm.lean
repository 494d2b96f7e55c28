import PcmPlayback.Proofs.Accounts

/-!
# Alarms

When the timer of a running device goes off. On the boundary schedule this is fixed by the place
of the playhead at the last start or firing, on the grid schedule by the tick of the last start.
Neither is changed by reading the position, by late polls or by the passing of time, and no poll
leaves an alarm behind that is already due.
-/

set_option autoImplicit false

namespace PcmPlayback

namespace Timing

theorem ticksFor_pos (timing : Timing) (distance : Nat) : 0 < timing.ticksFor distance := by
  unfold ticksFor wordLimit
  omega

theorem divUp_pos {timing : Timing} (sound : timing.Sound) {distance : Nat}
    (positive : 0 < distance) : 0 < divUp distance timing.speed := by
  apply Nat.pos_of_ne_zero
  intro zero
  have covered := (divUp_le_iff sound.speed_pos).mp (Nat.le_of_eq zero)
  omega

theorem ticksFor_le {timing : Timing} (sound : timing.Sound) {distance count : Nat}
    (positive : 0 < distance) (covers : distance ≤ timing.speed * count) :
    timing.ticksFor distance ≤ count := by
  have lower := divUp_pos sound positive
  rw [Nat.mul_comm, ← divUp_le_iff sound.speed_pos] at covers
  unfold ticksFor
  omega

theorem covers_of_ticksFor_le {timing : Timing} (sound : timing.Sound) {distance count : Nat}
    (small : count + 1 < wordLimit) (counted : timing.ticksFor distance ≤ count) :
    distance ≤ timing.speed * count := by
  rw [Nat.mul_comm, ← divUp_le_iff sound.speed_pos]
  unfold ticksFor at counted
  omega

/-- The number of ticks is not cut if some word is large enough. -/
theorem ticksFor_eq {timing : Timing} (sound : timing.Sound) {distance count : Nat}
    (positive : 0 < distance) (fits : count < wordLimit)
    (covers : distance ≤ timing.speed * count) :
    timing.ticksFor distance = divUp distance timing.speed := by
  have lower := divUp_pos sound positive
  rw [Nat.mul_comm, ← divUp_le_iff sound.speed_pos] at covers
  unfold ticksFor
  omega

theorem ticksFor_eq_divUp {timing : Timing} (sound : timing.Sound) {distance : Nat}
    (positive : 0 < distance) (fits : divUp distance timing.speed < wordLimit) :
    timing.ticksFor distance = divUp distance timing.speed := by
  apply ticksFor_eq sound positive fits
  rw [Nat.mul_comm]
  exact le_divUp_mul distance sound.speed_pos

end Timing

/-- Ticks from a given one until the playhead of a running device reaches its next boundary, as a
timer counts them. -/
def Journal.delayAt (journal : Journal) (timing : Timing) (tick : Nat) : Nat :=
  timing.ticksFor (timing.periodSpan - timing.speed * journal.playedBy tick % timing.periodSpan)

namespace Playhead

variable {head : Playhead} {timing : Timing} {covered pending : Nat}

theorem delay?_after (progress : head.progress = some (.after timing covered pending)) :
    head.delay? = some (timing.ticksFor (timing.periodSpan - covered % timing.periodSpan)) := by
  rw [delay?, progress]
  rfl

/-- A timer that is armed for the next boundary counts from now. -/
theorem toNat_of_delay? {now tick : Tick}
    (progress : head.progress = some (.after timing covered pending))
    (waits : head.delay?.bind now.after? = some tick) :
    tick.toNat = now.toNat +
      timing.ticksFor (timing.periodSpan - covered % timing.periodSpan) := by
  rw [delay?_after progress, Option.bind_some, Tick.after?_eq_some_iff] at waits
  exact waits

theorem delay?_pos {delay : Nat} (found : head.delay? = some delay) : 0 < delay := by
  obtain ⟨progress, _, same⟩ := Option.map_eq_some_iff.mp found
  rw [← same]
  exact Timing.ticksFor_pos _ _

end Playhead

namespace Device

/-- Once a device was prepared, its periods take time. -/
theorem Equipped.periodTicks_pos {device : Device} (equipped : device.Equipped)
    (configured : device.playhead.isConfigured = true) : 0 < device.periodTicks := by
  rw [Playhead.isConfigured_eq] at configured
  obtain ⟨timing, timed⟩ := Option.isSome_iff_exists.mp configured
  rw [equipped.periodTicks_eq timed]
  exact timing.ticksFor_pos _

/-- The next point of a grid is whole periods after one that is due, and at most a period ahead. -/
theorem gridPoint?_eq_after {gridTick now : Tick} {period : Nat} (positive : 0 < period)
    (due : gridTick ≤ now) :
    ∃ count, gridPoint? gridTick now period = gridTick.after? (count * period) ∧
      now.toNat < gridTick.toNat + count * period ∧
      gridTick.toNat + count * period ≤ now.toNat + period := by
  have ordered := UInt64.le_iff_toNat_le.mp due
  have whole := Nat.div_add_mod' (now.toNat - gridTick.toNat) period
  have within := Nat.mod_lt (now.toNat - gridTick.toNat) positive
  refine ⟨(now.toNat - gridTick.toNat) / period + 1, ?_, ?_, ?_⟩
  · rw [gridPoint?, if_pos due, if_neg (Nat.pos_iff_ne_zero.mp positive)]
  · rw [Nat.add_mul]
    omega
  · rw [Nat.add_mul]
    omega

theorem gridPoint?_later {gridTick now tick : Tick} {period : Nat}
    (point : gridPoint? gridTick now period = some tick) : now.toNat < tick.toNat := by
  by_cases due : gridTick ≤ now
  · have apart : period ≠ 0 := by
      intro none
      rw [gridPoint?, if_pos due, if_pos none] at point
      cases point
    obtain ⟨count, after, ahead, _⟩ := gridPoint?_eq_after (Nat.pos_iff_ne_zero.mpr apart) due
    rw [after, Tick.after?_eq_some_iff] at point
    rw [point]
    exact ahead
  · rw [gridPoint?, if_neg due] at point
    cases point
    exact Nat.lt_of_not_le fun late => due (UInt64.le_iff_toNat_le.mpr late)

theorem firstExpiry?_later {device : Device} {now tick : Tick}
    (apart : 0 < device.periodTicks) (first : device.firstExpiry? now = some tick) :
    now.toNat < tick.toNat := by
  unfold firstExpiry? at first
  split at first
  · obtain ⟨delay, found, after⟩ := Option.bind_eq_some_iff.mp first
    have positive := Playhead.delay?_pos found
    rw [Tick.after?_eq_some_iff] at after
    omega
  · rw [Tick.after?_eq_some_iff] at first
    omega

theorem nextExpiry?_later {device : Device} {now tick : Tick}
    (next : device.nextExpiry? now = some tick) : now.toNat < tick.toNat := by
  unfold nextExpiry? at next
  split at next
  · obtain ⟨delay, found, after⟩ := Option.bind_eq_some_iff.mp next
    have positive := Playhead.delay?_pos found
    rw [Tick.after?_eq_some_iff] at after
    omega
  · exact gridPoint?_later next

def Ahead (device : Device) (now : Tick) : Prop :=
  ∀ expiry, device.expiry = some expiry → now.toNat < expiry.toNat

theorem Ahead.effect {device next : Device} {now : Tick} {event : Option Event}
    (ahead : device.Ahead now) (equipped : device.Equipped)
    (effect : device.Effect now next event) : next.Ahead now := by
  cases effect with
  | unchanged | rerouted | prepared | misstarted | lowered | read => exact ahead
  | started tick gridTick allowed first grid =>
      intro expiry found
      cases found
      have configured := equipped.configured ((Stage.mayStart_iff.mp allowed).imp_right .inr)
      exact firstExpiry?_later (equipped.periodTicks_pos configured) first
  | stopped | jammed | freed => exact nofun

theorem Ahead.answerAll {device : Device} {now : Tick} (ahead : device.Ahead now)
    (equipped : device.Equipped) (calls : List Call) :
    (device.answerAll now calls).1.Ahead now := by
  induction calls generalizing device with
  | nil => exact ahead
  | cons call rest ih =>
      have answered := device.answer_effect now call
      exact ih (ahead.effect equipped answered) (equipped.effect answered)

theorem Struck.ahead {device next : Device} {now : Tick} {strike : Strike}
    (struck : device.Struck now next strike) : next.Ahead now := by
  cases struck with
  | early early =>
      intro expiry found
      apply Nat.lt_of_not_le
      intro late
      have due := isDue_iff.mpr ⟨expiry, found, UInt64.le_iff_toNat_le.mpr late⟩
      rw [early] at due
      cases due
  | asleep | faulted => exact nofun
  | fired due running moved tick gridTick ring source next =>
      intro expiry found
      cases found
      exact nextExpiry?_later next
  | told due running moved tick gridTick ring source next =>
      intro expiry found
      cases found
      exact nextExpiry?_later next

/-- After a poll no alarm is due. -/
theorem Equipped.ahead_poll {device : Device} (equipped : device.Equipped) (now : Tick) :
    (device.poll now).1.Ahead now := by
  have struck := device.strike_struck now
  rw [poll_eq_answerAll]
  exact struck.ahead.answerAll (equipped.struck struck) _

end Device

namespace Scene

/-- What the journal of a scene says about the alarm of a running device. -/
structure Alarm (scene : Scene) : Prop where
  ordered : scene.device.stage = .running → ∃ started armed,
    scene.journal.startedAt? = some started ∧ scene.journal.armedAt? = some armed ∧
      started.toNat ≤ armed.toNat ∧ armed.toNat ≤ scene.now.toNat
  boundary : scene.device.profile.schedule = .boundary → scene.device.stage = .running →
    ∀ timing armed expiry, scene.journal.timing? = some timing →
      scene.journal.armedAt? = some armed → scene.device.expiry = some expiry →
        expiry.toNat = armed.toNat + scene.journal.delayAt timing armed.toNat
  grid : scene.device.profile.schedule = .grid → scene.device.stage = .running →
    ∀ timing started armed expiry, scene.journal.timing? = some timing →
      scene.journal.startedAt? = some started → scene.journal.armedAt? = some armed →
      scene.device.expiry = some expiry → scene.device.gridTick = expiry ∧
        (∃ count, expiry.toNat = started.toNat + count * timing.periodTicks) ∧
        armed.toNat < expiry.toNat ∧ expiry.toNat ≤ armed.toNat + timing.periodTicks

namespace Alarm

variable {scene : Scene}

theorem of_resting (resting : scene.device.stage ≠ .running) : scene.Alarm :=
  ⟨fun running => absurd running resting, fun _ running => absurd running resting,
    fun _ running => absurd running resting⟩

theorem of_disarmed (ordered : scene.device.stage = .running → ∃ started armed,
      scene.journal.startedAt? = some started ∧ scene.journal.armedAt? = some armed ∧
        started.toNat ≤ armed.toNat ∧ armed.toNat ≤ scene.now.toNat)
    (disarmed : scene.device.expiry = none) : scene.Alarm := by
  refine ⟨ordered, ?_, ?_⟩
  · intro _ _ timing armed expiry _ _ found
    exact absurd (disarmed.symm.trans found) nofun
  · intro _ _ timing started armed expiry _ _ _ found
    exact absurd (disarmed.symm.trans found) nofun

/-- A start arms the timer for the boundary that is next, or for the first point of a new grid. -/
theorem started (accounts : scene.Accounts) {tick gridTick : Tick}
    (allowed : scene.device.stage.mayStart = true)
    (first : (scene.device.rewound scene.now).firstExpiry? scene.now = some tick)
    (grid : scene.device.profile.schedule = .grid → gridTick = tick) :
    Alarm ⟨scene.now,
      { scene.device.rewound scene.now with
        expiry := some tick, gridTick := gridTick, active := true, stage := .running },
      .started scene.now :: scene.journal⟩ := by
  have progress (timing : Timing) (present : scene.journal.timing? = some timing) :
      (scene.device.rewound scene.now).playhead.progress = some (.after timing
        (timing.speed * scene.journal.playedBy scene.now.toNat)
        scene.device.playhead.pending) := by
    rw [← accounts.playedBy_rebase allowed]
    exact (accounts.exact timing present).2
  unfold Device.firstExpiry? at first
  refine ⟨fun _ => ⟨scene.now, scene.now, rfl, rfl, Nat.le_refl _, Nat.le_refl _⟩, ?_, ?_⟩
  · intro schedule _ timing armed expiry present armedAt found
    cases armedAt
    cases found
    have boundary : (scene.device.rewound scene.now).profile.schedule = .boundary := schedule
    rw [boundary] at first
    exact Playhead.toNat_of_delay? (progress timing present) first
  · intro schedule _ timing began armed expiry present startedAt armedAt found
    cases startedAt
    cases armedAt
    cases found
    have lattice : (scene.device.rewound scene.now).profile.schedule = .grid := schedule
    have period : (scene.device.rewound scene.now).periodTicks = timing.periodTicks :=
      accounts.periodTicks_eq present
    simp only [lattice, period, Tick.after?_eq_some_iff] at first
    have positive : 0 < timing.periodTicks := timing.ticksFor_pos timing.periodSpan
    refine ⟨grid schedule, ⟨1, ?_⟩, ?_, ?_⟩
    · rw [Nat.one_mul]
      exact first
    · rw [first]
      exact Nat.lt_add_of_pos_right positive
    · exact Nat.le_of_eq first

/-- A firing arms the timer for the boundary that is next now, or for the next point of the same
grid, however late it is. -/
theorem refired (accounts : scene.Accounts) (alarm : scene.Alarm)
    (due : scene.device.isDue scene.now = true) (running : scene.device.stage = .running)
    {tick gridTick : Tick}
    (next : (scene.device.updated scene.now).nextExpiry? scene.now = some tick)
    (grid : scene.device.profile.schedule = .grid → gridTick = tick)
    {device : Device} (profile : device.profile = scene.device.profile)
    (expiry : device.expiry = some tick) (point : device.gridTick = gridTick)
    {journal : Journal} (same : journal.SameTimes scene.journal)
    (armed : journal.armedAt? = some scene.now) : Alarm ⟨scene.now, device, journal⟩ := by
  obtain ⟨started, before, startedAt, armedBefore, ordered, past⟩ := alarm.ordered running
  have progress (timing : Timing) (present : scene.journal.timing? = some timing) :
      (scene.device.updated scene.now).playhead.progress = some (.after timing
        (timing.speed * scene.journal.playedBy scene.now.toNat)
        (scene.device.playhead.advance scene.now).1.pending) := by
    rw [accounts.playedBy_now]
    exact accounts.progress_updated running timing present
  unfold Device.nextExpiry? at next
  refine ⟨fun _ => ⟨started, scene.now, same.startedAt.trans startedAt, armed,
    Nat.le_trans ordered past, Nat.le_refl _⟩, ?_, ?_⟩
  · intro schedule _ timing now found present armedAt expires
    have boundary : (scene.device.updated scene.now).profile.schedule = .boundary :=
      (congrArg Profile.schedule profile).symm.trans schedule
    rw [boundary] at next
    cases Option.some.inj (armed.symm.trans armedAt)
    cases Option.some.inj (expiry.symm.trans expires)
    rw [Journal.delayAt, same.playedBy]
    exact Playhead.toNat_of_delay? (progress timing (same.timing.symm.trans present)) next
  · intro schedule _ timing began now found present startedNow armedAt expires
    have timed := same.timing.symm.trans present
    have lattice : scene.device.profile.schedule = .grid :=
      (congrArg Profile.schedule profile).symm.trans schedule
    have current : (scene.device.updated scene.now).profile.schedule = .grid := lattice
    have period : (scene.device.updated scene.now).periodTicks = timing.periodTicks :=
      accounts.periodTicks_eq timed
    simp only [current, period] at next
    cases Option.some.inj (armed.symm.trans armedAt)
    cases Option.some.inj (expiry.symm.trans expires)
    -- the point that was due is on the grid, and the new one is whole periods later
    obtain ⟨old, armedFor, reached⟩ := Device.isDue_iff.mp due
    obtain ⟨onGrid, ⟨passed, place⟩, _, _⟩ := alarm.grid lattice running timing began before old
      timed (same.startedAt.symm.trans startedNow) armedBefore armedFor
    have positive : 0 < timing.periodTicks := timing.ticksFor_pos timing.periodSpan
    have due : scene.device.gridTick ≤ scene.now := onGrid ▸ reached
    obtain ⟨count, found, ahead, near⟩ := Device.gridPoint?_eq_after positive due
    have later := Tick.after?_eq_some_iff.mp (found.symm.trans next)
    rw [onGrid] at later ahead near
    rw [later]
    refine ⟨point.trans (grid lattice), ⟨passed + count, ?_⟩, ahead, near⟩
    rw [place, Nat.add_mul, Nat.add_assoc]

theorem call (alarm : scene.Alarm) (accounts : scene.Accounts) {next : Device}
    {event : Option Event} (effect : scene.device.Effect scene.now next event) :
    Alarm ⟨scene.now, next, event.toList ++ scene.journal⟩ := by
  cases effect with
  | unchanged => exact alarm
  | rerouted callback => exact { alarm with }
  | prepared setup size allowed sound => exact of_resting nofun
  | misstarted allowed => exact of_resting (Stage.resting_of_mayStart allowed).1
  | started tick gridTick allowed first grid => exact .started accounts allowed first grid
  | lowered idle => exact { alarm with }
  | stopped running moved => exact of_resting nofun
  | jammed running stuck => exact of_disarmed alarm.ordered rfl
  | read running => exact { alarm with }
  | freed => exact of_resting nofun

theorem poll (alarm : scene.Alarm) (accounts : scene.Accounts) {next : Device}
    {strike : Device.Strike} (struck : scene.device.Struck scene.now next strike) :
    Alarm ⟨scene.now, next, strike.events scene.now ++ scene.journal⟩ := by
  cases struck with
  | early early => exact alarm
  | asleep due asleep => exact of_disarmed alarm.ordered rfl
  | faulted due running fault => exact of_disarmed alarm.ordered rfl
  | fired due running moved tick gridTick ring source next grid none =>
      refine alarm.refired accounts due running next grid ?_ ?_ ?_ (.events _ .fired _) rfl
      all_goals rfl
  | told due running moved tick gridTick ring source next grid some =>
      refine alarm.refired accounts due running next grid ?_ ?_ ?_ (.events _ (.told _ _) _) rfl
      all_goals rfl

theorem pass (alarm : scene.Alarm) {tick : Tick} (forward : scene.now ≤ tick) :
    Alarm (scene.act (.pass tick)) := by
  have later := UInt64.le_iff_toNat_le.mp forward
  refine ⟨?_, ?_, alarm.grid⟩
  · intro running
    obtain ⟨started, armed, startedAt, armedAt, ordered, past⟩ := alarm.ordered running
    exact ⟨started, armed, startedAt, armedAt, ordered, Nat.le_trans past later⟩
  · intro schedule running timing armed expiry present armedAt found
    obtain ⟨_, same, _, armedFirst, _, past⟩ := alarm.ordered running
    cases Option.some.inj (armedFirst.symm.trans armedAt)
    rw [Journal.delayAt, playedBy_pass fun _ => past]
    exact alarm.boundary schedule running timing armed expiry present armedAt found

theorem act (alarm : scene.Alarm) (accounts : scene.Accounts) (act : Act)
    (forward : (scene.act act).journal.Forward) : Alarm (scene.act act) := by
  cases act with
  | pass tick => exact alarm.pass forward.le
  | call call => exact alarm.call accounts (scene.device.answer_effect scene.now call)
  | poll => exact alarm.poll accounts (scene.device.strike_struck scene.now)

end Alarm

/-- The timer of a running device waits: when it was started, when its timer was armed, and for
when. -/
structure Waiting (scene : Scene) (timing : Timing) (started armed expiry : Tick) : Prop where
  running : scene.device.stage = .running
  present : scene.journal.timing? = some timing
  startedAt : scene.journal.startedAt? = some started
  armedAt : scene.journal.armedAt? = some armed
  armedFor : scene.device.expiry = some expiry

namespace Waiting

variable {scene : Scene} {timing : Timing} {started armed expiry : Tick}

theorem of_expiry (accounts : scene.Accounts) (alarm : scene.Alarm)
    (armedFor : scene.device.expiry = some expiry) :
    ∃ timing started armed, scene.Waiting timing started armed expiry := by
  have running := accounts.orderly.armed (by simp [armedFor])
  obtain ⟨timing, present⟩ := accounts.timing_of_running running
  obtain ⟨started, armed, startedAt, armedAt, _, _⟩ := alarm.ordered running
  exact ⟨timing, started, armed, running, present, startedAt, armedAt, armedFor⟩

theorem ordered (waiting : scene.Waiting timing started armed expiry) (alarm : scene.Alarm) :
    started.toNat ≤ armed.toNat ∧ armed.toNat ≤ scene.now.toNat := by
  obtain ⟨first, last, startedAt, armedAt, ordered⟩ := alarm.ordered waiting.running
  cases Option.some.inj (startedAt.symm.trans waiting.startedAt)
  cases Option.some.inj (armedAt.symm.trans waiting.armedAt)
  exact ordered

theorem boundary (waiting : scene.Waiting timing started armed expiry) (alarm : scene.Alarm)
    (schedule : scene.device.profile.schedule = .boundary) :
    expiry.toNat = armed.toNat + scene.journal.delayAt timing armed.toNat :=
  alarm.boundary schedule waiting.running timing armed expiry waiting.present waiting.armedAt
    waiting.armedFor

theorem grid (waiting : scene.Waiting timing started armed expiry) (alarm : scene.Alarm)
    (schedule : scene.device.profile.schedule = .grid) :
    scene.device.gridTick = expiry ∧
      (∃ count, expiry.toNat = started.toNat + count * timing.periodTicks) ∧
      armed.toNat < expiry.toNat ∧ expiry.toNat ≤ armed.toNat + timing.periodTicks :=
  alarm.grid schedule waiting.running timing started armed expiry waiting.present
    waiting.startedAt waiting.armedAt waiting.armedFor

end Waiting

end Scene

theorem Session.Shows.alarm {template : Template} {clock : ManualClock} {session : Session}
    (opened : Session.begin template clock = .ok session) {steps : List Session.Step}
    {scene : Scene} (shown : session.Shows steps scene) (forward : scene.journal.Forward) :
    scene.Accounts ∧ scene.Alarm := by
  obtain ⟨source, _, _, idle⟩ := begin_eq_ok opened
  have resting : (session.scene []).device.stage ≠ .running := by
    rw [show (session.scene []).device = session.deck.device from rfl, idle]
    exact nofun
  obtain ⟨acts, _, reached⟩ := shown
  rw [← reached] at forward ⊢
  refine @Scene.run_invariant Journal.Forward (fun scene => scene.Accounts ∧ scene.Alarm) ?_ ?_ _
    ⟨accounts_opening opened, .of_resting resting⟩ acts forward
  · intro events journal
    exact Journal.Forward.of_append
  · intro scene act holds forward
    exact ⟨holds.1.act act forward, holds.2.act holds.1 act forward⟩

theorem Session.ahead_poll {template : Template} {clock : ManualClock} {session : Session}
    (opened : Session.begin template clock = .ok session) (before : List Session.Step) :
    (session.run (before ++ [.deck .poll])).1.deck.device.Ahead
      (session.run (before ++ [.deck .poll])).1.clock.now := by
  have equipped := (session.shows_last before).equipped opened
  rw [run_append]
  exact equipped.ahead_poll _

end PcmPlayback
