import PcmPlayback.Proofs.Scene

/-!
# Accounts

The stored pieces of a device agree with one another and with the journal of its scene. The
playhead stands where the ticks played up to its last update have brought it; a running device has
been running ever since its last start, and one at rest has nothing left to account for. As long
as the clock does not go back, every act keeps this true, and no update of the playhead faults.
-/

set_option autoImplicit false

namespace PcmPlayback

/-- Two journals that agree on the times of a device. -/
structure Journal.SameTimes (later earlier : Journal) : Prop where
  timing : later.timing? = earlier.timing?
  played : later.played = earlier.played
  playedBy : ∀ tick, later.playedBy tick = earlier.playedBy tick
  startedAt : later.startedAt? = earlier.startedAt?

theorem Journal.SameTimes.refl (journal : Journal) : journal.SameTimes journal :=
  ⟨rfl, rfl, fun _ => rfl, rfl⟩

theorem Journal.SameTimes.events (now : Tick) (strike : Device.Strike)
    (journal : Journal) :
    Journal.SameTimes (strike.events now ++ journal) journal := by
  cases strike <;> exact ⟨rfl, rfl, fun _ => rfl, rfl⟩

theorem Stage.resting_of_mayStart {stage : Stage} (allowed : stage.mayStart = true) :
    stage ≠ .running ∧ stage ≠ .freed := by
  rcases Stage.mayStart_iff.mp allowed with prepared | stopped
  · simp [prepared]
  · simp [stopped]

/-- What a device keeps of its last preparation is of one piece, and it is there from the first
preparation on: the setup and the length of a period are those of the playhead's timing. -/
structure Device.Equipped (device : Device) : Prop where
  configured : device.stage = .prepared ∨ device.stage = .running ∨ device.stage = .stopped →
    device.playhead.isConfigured = true
  setup : device.setup? = device.playhead.timing?.map Timing.setup
  period : device.periodTicks = (device.playhead.timing?.map Timing.periodTicks).getD 0

/-- The flag, the timer and the playhead of a device agree with its stage. -/
structure Device.Orderly (device : Device) : Prop extends device.Equipped where
  flag : device.active = true ↔ device.stage = .running
  armed : device.expiry ≠ none → device.stage = .running

theorem Playhead.isConfigured_eq (head : Playhead) : head.isConfigured = head.timing?.isSome := by
  rw [isConfigured, timing?, Option.isSome_map]

theorem Playhead.timing?_advance (head : Playhead) (now : Tick) :
    (head.advance now).1.timing? = head.timing? := by
  rw [advance]
  split
  · rfl
  · split
    · rfl
    · next progress present =>
        simp only [timing?, present, Option.map_some, Progress.move]
        split
        · rfl
        · split
          · split <;> rfl
          · rfl

theorem Playhead.timing?_takePending (head : Playhead) :
    head.takePending.2.timing? = head.timing? :=
  Option.map_map _ _ _

theorem Playhead.isConfigured_advance (head : Playhead) (now : Tick) :
    (head.advance now).1.isConfigured = head.isConfigured := by
  rw [isConfigured_eq, isConfigured_eq, timing?_advance]

@[simp] theorem Playhead.pending_takePending (head : Playhead) :
    head.takePending.2.pending = 0 := by
  cases present : head.progress with
  | none => simp [takePending, pending, present]
  | some progress => simp [takePending, pending, present]

theorem Playhead.isConfigured_takePending (head : Playhead) :
    head.takePending.2.isConfigured = head.isConfigured := by
  simp [takePending, isConfigured]

namespace Device

namespace Equipped

variable {device next : Device} {now : Tick}

/-- Another device with the same pieces is equipped as long as its playhead has the same timing. -/
theorem of_timing (equipped : device.Equipped) (setup : next.setup? = device.setup?)
    (period : next.periodTicks = device.periodTicks)
    (timing : next.playhead.timing? = device.playhead.timing?)
    (staged : next.stage = .prepared ∨ next.stage = .running ∨ next.stage = .stopped →
      device.stage = .prepared ∨ device.stage = .running ∨ device.stage = .stopped) :
    next.Equipped := by
  refine ⟨fun prepared => ?_, ?_, ?_⟩
  · rw [Playhead.isConfigured_eq, timing, ← Playhead.isConfigured_eq]
    exact equipped.configured (staged prepared)
  · rw [setup, timing]
    exact equipped.setup
  · rw [period, timing]
    exact equipped.period

theorem effect {event : Option Event} (equipped : device.Equipped)
    (effect : device.Effect now next event) : next.Equipped := by
  have advanced := device.playhead.timing?_advance now
  cases effect with
  | unchanged => exact equipped
  | rerouted | misstarted | lowered => exact equipped.of_timing rfl rfl rfl id
  | prepared setup size allowed sound => exact ⟨fun _ => rfl, rfl, rfl⟩
  | started tick gridTick allowed first grid =>
      exact equipped.of_timing rfl rfl rfl fun _ => (Stage.mayStart_iff.mp allowed).imp_right .inr
  | stopped running | jammed running | read running =>
      exact equipped.of_timing rfl rfl advanced fun _ => .inr (.inl running)
  | freed => exact equipped.of_timing rfl rfl rfl (by simp [free])

theorem struck {strike : Strike} (equipped : device.Equipped)
    (struck : device.Struck now next strike) : next.Equipped := by
  have advanced := device.playhead.timing?_advance now
  cases struck with
  | early => exact equipped
  | asleep => exact equipped.of_timing rfl rfl rfl id
  | faulted due running => exact equipped.of_timing rfl rfl advanced id
  | fired due running | told due running =>
      exact equipped.of_timing rfl rfl ((Playhead.timing?_takePending _).trans advanced) id

/-- The length of a period in ticks is that of the timing with which the playhead moves. -/
theorem periodTicks_eq (equipped : device.Equipped) {timing : Timing}
    (timed : device.playhead.timing? = some timing) :
    device.periodTicks = timing.periodTicks := by
  rw [equipped.period, timed]
  rfl

end Equipped

/-- A call keeps a device orderly, unless it has to stop a playhead that cannot be updated. -/
theorem Orderly.effect {device next : Device} {now : Tick} {event : Option Event}
    (orderly : device.Orderly) (effect : device.Effect now next event)
    (sure : device.stage = .running → (device.playhead.advance now).2.isDone = true) :
    next.Orderly := by
  have equipped := orderly.toEquipped.effect effect
  cases effect with
  | unchanged => exact orderly
  | rerouted callback => exact ⟨equipped, orderly.flag, orderly.armed⟩
  | prepared setup size allowed sound =>
      have resting := Stage.mayPrepare_iff.mp allowed
      have lowered : device.active ≠ true := fun active => resting.1 (orderly.flag.mp active)
      have disarmed : device.expiry = none :=
        Classical.byContradiction fun armed => resting.1 (orderly.armed armed)
      exact ⟨equipped, by simp [lowered], by simp [disarmed]⟩
  | misstarted allowed => exact ⟨equipped, orderly.flag, orderly.armed⟩
  | started tick gridTick allowed first grid => exact ⟨equipped, by simp, fun _ => rfl⟩
  | lowered idle => exact ⟨equipped, by simp [idle], orderly.armed⟩
  | stopped running moved => exact ⟨equipped, by simp, by simp⟩
  | jammed running stuck => simp [sure running] at stuck
  | read running => exact ⟨equipped, orderly.flag, orderly.armed⟩
  | freed => exact ⟨equipped, by simp [free], by simp [free]⟩

theorem Orderly.struck {device next : Device} {now : Tick} {strike : Strike}
    (orderly : device.Orderly) (struck : device.Struck now next strike) : next.Orderly := by
  have equipped := orderly.toEquipped.struck struck
  cases struck with
  | early early => exact orderly
  | asleep due asleep => exact ⟨equipped, orderly.flag, by simp⟩
  | faulted due running fault => exact ⟨equipped, orderly.flag, by simp⟩
  | fired due running moved tick gridTick ring source next grid none =>
      exact ⟨equipped, orderly.flag, fun _ => running⟩
  | told due running moved tick gridTick ring source next grid some =>
      exact ⟨equipped, orderly.flag, fun _ => running⟩

end Device

namespace Scene

/-- What the journal of a scene says about its device. While the device runs, every tick since the
last start was played; when it comes to rest, the playhead has accounted for all of them. -/
structure Accounts (scene : Scene) : Prop where
  orderly : scene.device.Orderly
  unset : scene.journal.timing? = none → scene.device.playhead.progress = none
  exact : ∀ timing, scene.journal.timing? = some timing → timing.Sound ∧
    scene.device.playhead.progress = some (.after timing
      (timing.speed * scene.journal.playedBy scene.device.playhead.base.toNat)
      scene.device.playhead.pending)
  past : ∀ tick, scene.now.toNat ≤ tick → scene.journal.playedBy tick = scene.journal.played
  bounded : scene.journal.played ≤ scene.now.toNat
  running : scene.device.stage = .running → ∃ started,
    scene.journal.startedAt? = some started ∧
      started.toNat ≤ scene.device.playhead.base.toNat ∧
      scene.device.playhead.base.toNat ≤ scene.now.toNat ∧
      ∀ tick, started.toNat ≤ tick → tick ≤ scene.now.toNat →
        scene.journal.playedBy tick + (scene.now.toNat - tick) = scene.journal.played
  resting : scene.device.stage ≠ .running → scene.device.stage ≠ .freed →
    scene.journal.playedBy scene.device.playhead.base.toNat = scene.journal.played

theorem device_pass (scene : Scene) (tick : Tick) :
    (scene.act (.pass tick)).device = scene.device := rfl

theorem playedBy_pass {scene : Scene} {tick : Tick} {mark : Nat}
    (early : scene.device.stage = .running → mark ≤ scene.now.toNat) :
    (scene.act (.pass tick)).journal.playedBy mark = scene.journal.playedBy mark := by
  by_cases running : scene.device.stage = .running
  · have early := early running
    simp only [act, Journal.playedBy, running, if_true]
    omega
  · simp [act, Journal.playedBy, running]

namespace Accounts

theorem base_le {scene : Scene} (accounts : scene.Accounts)
    (running : scene.device.stage = .running) :
    scene.device.playhead.base.toNat ≤ scene.now.toNat := by
  obtain ⟨_, _, _, baseLe, _⟩ := accounts.running running
  exact baseLe

theorem timing_of_configured {scene : Scene} (accounts : scene.Accounts)
    (configured : scene.device.playhead.isConfigured = true) :
    ∃ timing, scene.journal.timing? = some timing := by
  cases present : scene.journal.timing? with
  | none => simp [Playhead.isConfigured, accounts.unset present] at configured
  | some timing => exact ⟨timing, rfl⟩

theorem timing_of_running {scene : Scene} (accounts : scene.Accounts)
    (running : scene.device.stage = .running) :
    ∃ timing, scene.journal.timing? = some timing :=
  accounts.timing_of_configured (accounts.orderly.configured (.inr (.inl running)))

theorem timing_eq {scene : Scene} (accounts : scene.Accounts) {timing : Timing}
    (present : scene.journal.timing? = some timing) :
    scene.device.playhead.timing? = some timing :=
  congrArg (Option.map Progress.timing) (accounts.exact timing present).2

theorem periodTicks_eq {scene : Scene} (accounts : scene.Accounts) {timing : Timing}
    (present : scene.journal.timing? = some timing) :
    scene.device.periodTicks = timing.periodTicks :=
  accounts.orderly.periodTicks_eq (accounts.timing_eq present)

theorem playedBy_now {scene : Scene} (accounts : scene.Accounts) :
    scene.journal.playedBy scene.now.toNat = scene.journal.played :=
  accounts.past scene.now.toNat (Nat.le_refl _)

/-- While the device runs, its playhead can be updated, and the update accounts for every tick
played so far. -/
theorem advance_eq {scene : Scene} (accounts : scene.Accounts)
    (running : scene.device.stage = .running) {timing : Timing}
    (present : scene.journal.timing? = some timing) :
    scene.device.playhead.advance scene.now =
      (⟨scene.now, some (.after timing (timing.speed * scene.journal.played)
        (Progress.count scene.device.playhead.pending
          (timing.speed * scene.journal.played / timing.periodSpan -
            timing.speed * scene.journal.playedBy scene.device.playhead.base.toNat /
              timing.periodSpan)))⟩, .done ()) := by
  obtain ⟨sound, exact⟩ := accounts.exact timing present
  obtain ⟨started, _, startedLe, baseLe, continuous⟩ := accounts.running running
  have elapsed : scene.now.since scene.device.playhead.base =
      scene.now.toNat - scene.device.playhead.base.toNat :=
    Tick.since_eq_sub (UInt64.le_iff_toNat_le.mpr baseLe)
  have total : timing.speed * scene.journal.playedBy scene.device.playhead.base.toNat +
      scene.now.since scene.device.playhead.base * timing.speed =
        timing.speed * scene.journal.played := by
    rw [Nat.mul_comm (scene.now.since _), ← Nat.mul_add, elapsed, continuous _ startedLe baseLe]
  have counted : scene.journal.played < wordLimit :=
    Nat.lt_of_le_of_lt accounts.bounded scene.now.toNat_lt
  have room := timing.distance_lt counted
  have offset := Nat.mod_le
    (timing.speed * scene.journal.playedBy scene.device.playhead.base.toNat) timing.bufferSpan
  have within := Nat.mod_le
    (timing.speed * scene.journal.playedBy scene.device.playhead.base.toNat) timing.periodSpan
  have head : scene.device.playhead = ⟨scene.device.playhead.base, some (.after timing
      (timing.speed * scene.journal.playedBy scene.device.playhead.base.toNat)
      scene.device.playhead.pending)⟩ := by
    rw [← exact]
  simp only [wordLimit] at room
  rw [head, Playhead.advance_after sound, total]
  · simp only [crossings, total]
    rfl
  · simp only [wideLimit, wordLimit]
    omega
  · intro reached
    simp only [wideLimit, wordLimit]
    omega

theorem moved {scene : Scene} (accounts : scene.Accounts)
    (running : scene.device.stage = .running) :
    (scene.device.playhead.advance scene.now).2.isDone = true := by
  obtain ⟨timing, present⟩ := accounts.timing_of_running running
  rw [accounts.advance_eq running present]
  rfl

theorem base_updated {scene : Scene} (accounts : scene.Accounts)
    (running : scene.device.stage = .running) :
    (scene.device.playhead.advance scene.now).1.base = scene.now := by
  obtain ⟨timing, present⟩ := accounts.timing_of_running running
  rw [accounts.advance_eq running present]

theorem progress_updated {scene : Scene} (accounts : scene.Accounts)
    (running : scene.device.stage = .running) (timing : Timing)
    (present : scene.journal.timing? = some timing) :
    (scene.device.playhead.advance scene.now).1.progress =
      some (.after timing (timing.speed * scene.journal.played)
        (scene.device.playhead.advance scene.now).1.pending) := by
  rw [accounts.advance_eq running present]
  rfl

theorem progress_drained {scene : Scene} (accounts : scene.Accounts)
    (running : scene.device.stage = .running) (timing : Timing)
    (present : scene.journal.timing? = some timing) :
    (scene.device.playhead.advance scene.now).1.takePending.2.progress =
      some (.after timing (timing.speed * scene.journal.played)
        (scene.device.playhead.advance scene.now).1.takePending.2.pending) := by
  rw [Playhead.pending_takePending, accounts.advance_eq running present]
  rfl

/-- What the accounts of a scene say about its playhead when this has been brought to the present
tick, whatever has become of the pending periods. -/
theorem arrive {scene : Scene} (accounts : scene.Accounts)
    (running : scene.device.stage = .running) {device : Device} (orderly : device.Orderly)
    {journal : Journal} (same : journal.SameTimes scene.journal)
    (base : device.playhead.base = scene.now)
    (progress : ∀ timing, scene.journal.timing? = some timing →
      device.playhead.progress = some (.after timing
        (timing.speed * scene.journal.played) device.playhead.pending)) :
    Accounts ⟨scene.now, device, journal⟩ := by
  have present := accounts.playedBy_now
  obtain ⟨timing, found⟩ := accounts.timing_of_running running
  obtain ⟨started, began, startedLe, baseLe, continuous⟩ := accounts.running running
  refine ⟨orderly, ?_, ?_, ?_, ?_, fun _ => ⟨started, ?_, ?_, ?_, ?_⟩, fun _ _ => ?_⟩
  · simp [same.timing, found]
  · intro timing found
    rw [same.timing] at found
    rw [same.playedBy, base, present]
    exact ⟨(accounts.exact timing found).1, progress timing found⟩
  · intro tick later
    rw [same.playedBy, same.played]
    exact accounts.past tick later
  · rw [same.played]
    exact accounts.bounded
  · rw [same.startedAt]
    exact began
  · rw [base]
    exact Nat.le_trans startedLe baseLe
  · exact Nat.le_of_eq (congrArg UInt64.toNat base)
  · intro tick first last
    rw [same.playedBy, same.played]
    exact continuous tick first last
  · rw [same.playedBy, same.played, base]
    exact present

theorem playedBy_rebase {scene : Scene} (accounts : scene.Accounts)
    (allowed : scene.device.stage.mayStart = true) :
    scene.journal.playedBy scene.device.playhead.base.toNat =
      scene.journal.playedBy scene.now.toNat := by
  obtain ⟨resting, live⟩ := Stage.resting_of_mayStart allowed
  rw [accounts.resting resting live, accounts.playedBy_now]

theorem call {scene : Scene} (accounts : scene.Accounts) {next : Device} {event : Option Event}
    (effect : scene.device.Effect scene.now next event) :
    Accounts ⟨scene.now, next, event.toList ++ scene.journal⟩ := by
  have orderly := accounts.orderly.effect effect accounts.moved
  have present := accounts.playedBy_now
  cases effect with
  | unchanged => exact accounts
  | rerouted callback => exact { accounts with orderly := orderly }
  | prepared setup size allowed sound =>
      refine ⟨orderly, by simp [Journal.timing?], ?_, fun _ _ => rfl, Nat.zero_le _, by simp,
        fun _ _ => rfl⟩
      intro timing found
      cases found
      exact ⟨sound, congrArg some (Progress.start_eq_after _)⟩
  | misstarted allowed =>
      -- the start that faulted has moved the time base, but not the progress
      have settled := accounts.playedBy_rebase allowed
      refine { accounts with
        orderly := orderly
        exact := ?_
        running := fun running => absurd running (Stage.resting_of_mayStart allowed).1
        resting := fun _ _ => present }
      intro timing found
      obtain ⟨sound, exact⟩ := accounts.exact timing found
      rw [settled] at exact
      exact ⟨sound, exact⟩
  | started tick gridTick allowed first grid =>
      have settled := accounts.playedBy_rebase allowed
      refine ⟨orderly, accounts.unset, ?_, accounts.past, accounts.bounded, ?_, by simp⟩
      · intro timing found
        obtain ⟨sound, exact⟩ := accounts.exact timing found
        rw [settled] at exact
        exact ⟨sound, exact⟩
      · intro _
        refine ⟨scene.now, rfl, Nat.le_refl _, Nat.le_refl _, ?_⟩
        intro tick first last
        have same : tick = scene.now.toNat := Nat.le_antisymm last first
        rw [same, Nat.sub_self, Nat.add_zero]
        exact present
  | lowered idle => exact { accounts with orderly := orderly }
  | stopped running moved =>
      refine accounts.arrive running orderly (.refl _) ?_ ?_
      · exact accounts.base_updated running
      · exact accounts.progress_updated running
  | jammed running stuck => simp [accounts.moved running] at stuck
  | read running =>
      refine accounts.arrive running orderly (.refl _) ?_ ?_
      · exact accounts.base_updated running
      · exact accounts.progress_updated running
  | freed =>
      exact ⟨orderly, accounts.unset, accounts.exact, accounts.past, accounts.bounded,
        by simp [Device.free], by simp [Device.free]⟩

theorem poll {scene : Scene} (accounts : scene.Accounts) {next : Device}
    {strike : Device.Strike} (struck : scene.device.Struck scene.now next strike) :
    Accounts ⟨scene.now, next, strike.events scene.now ++ scene.journal⟩ := by
  have orderly := accounts.orderly.struck struck
  cases struck with
  | early early => exact accounts
  | asleep due asleep => exact { accounts with orderly := orderly }
  | faulted due running fault =>
      refine accounts.arrive running orderly (.events _ _ _) ?_ ?_
      · exact accounts.base_updated running
      · exact accounts.progress_updated running
  | fired due running moved tick gridTick ring source next grid none =>
      refine accounts.arrive running orderly (.events _ _ _) ?_ ?_
      · exact accounts.base_updated running
      · exact accounts.progress_drained running
  | told due running moved tick gridTick ring source next grid some =>
      refine accounts.arrive running orderly (.events _ _ _) ?_ ?_
      · exact accounts.base_updated running
      · exact accounts.progress_drained running

theorem pass {scene : Scene} (accounts : scene.Accounts) {tick : Tick}
    (forward : scene.now ≤ tick) : Accounts (scene.act (.pass tick)) := by
  have ordered := UInt64.le_iff_toNat_le.mp forward
  have bounded := accounts.bounded
  by_cases running : scene.device.stage = .running
  · obtain ⟨started, began, startedLe, baseLe, continuous⟩ := accounts.running running
    have playedBy (mark : Nat) : (scene.act (.pass tick)).journal.playedBy mark =
        scene.journal.playedBy mark + (min tick.toNat mark - min scene.now.toNat mark) := by
      simp [Scene.act, Journal.playedBy, running]
    have played : (scene.act (.pass tick)).journal.played =
        scene.journal.played + (tick.toNat - scene.now.toNat) := by
      simp [Scene.act, Journal.played, running]
    refine ⟨accounts.orderly, accounts.unset, ?_, ?_, ?_, fun _ => ⟨started, began, startedLe, ?_⟩,
      fun rests => absurd running rests⟩
    · intro timing found
      rw [device_pass, playedBy_pass accounts.base_le]
      exact accounts.exact timing found
    · intro mark later
      have before := accounts.past mark (Nat.le_trans ordered later)
      change tick.toNat ≤ mark at later
      rw [playedBy, played, before]
      omega
    · rw [played]
      change _ ≤ tick.toNat
      omega
    · refine ⟨Nat.le_trans baseLe ordered, ?_⟩
      intro mark first last
      change mark ≤ tick.toNat at last
      change _ + (tick.toNat - mark) = _
      -- up to the old reading nothing changes, and beyond it every tick is played
      rcases Nat.le_total mark scene.now.toNat with early | late
      · have before := continuous mark first early
        rw [playedBy_pass fun _ => early, played]
        omega
      · have before := accounts.past mark late
        rw [playedBy, played, before]
        omega
  · have playedBy (mark : Nat) : (scene.act (.pass tick)).journal.playedBy mark =
        scene.journal.playedBy mark :=
      playedBy_pass fun runs => absurd runs running
    have played : (scene.act (.pass tick)).journal.played = scene.journal.played := by
      simp [Scene.act, Journal.played, running]
    refine ⟨accounts.orderly, accounts.unset, ?_, ?_, ?_, fun runs => absurd runs running, ?_⟩
    · intro timing found
      rw [playedBy]
      exact accounts.exact timing found
    · intro mark later
      rw [playedBy, played]
      exact accounts.past mark (Nat.le_trans ordered later)
    · rw [played]
      exact Nat.le_trans bounded ordered
    · intro rests live
      rw [playedBy, played]
      exact accounts.resting rests live

theorem act {scene : Scene} (accounts : scene.Accounts) (act : Act)
    (forward : (scene.act act).journal.Forward) : Accounts (scene.act act) := by
  cases act with
  | pass tick => exact accounts.pass forward.le
  | call call => exact accounts.call (scene.device.answer_effect scene.now call)
  | poll => exact accounts.poll (scene.device.strike_struck scene.now)

end Accounts

/-- The profile of a scene stays, and its clock is the one that preparations are measured by. -/
structure Profiled (profile : Profile) (scene : Scene) : Prop where
  same : scene.device.profile = profile
  clocked : ∀ timing, scene.journal.timing? = some timing →
    timing.ticksPerSecond = profile.ticksPerSecond

namespace Profiled

variable {profile : Profile} {scene : Scene}

theorem call (profiled : scene.Profiled profile) {next : Device} {event : Option Event}
    (effect : scene.device.Effect scene.now next event) :
    Profiled profile ⟨scene.now, next, event.toList ++ scene.journal⟩ := by
  obtain ⟨same, clocked⟩ := profiled
  refine ⟨effect.profile_eq.trans same, ?_⟩
  cases effect with
  | prepared setup size allowed sound =>
      intro timing found
      cases found
      exact congrArg Profile.ticksPerSecond same
  | unchanged | rerouted | misstarted | started => exact clocked
  | lowered | stopped | jammed | read | freed => exact clocked

theorem poll (profiled : scene.Profiled profile) {next : Device} {strike : Device.Strike}
    (struck : scene.device.Struck scene.now next strike) :
    Profiled profile ⟨scene.now, next, strike.events scene.now ++ scene.journal⟩ := by
  obtain ⟨same, clocked⟩ := profiled
  refine ⟨struck.profile_eq.trans same, ?_⟩
  intro timing found
  obtain ⟨present, _, _, _⟩ := Journal.SameTimes.events scene.now strike scene.journal
  exact clocked timing (present.symm.trans found)

theorem act (profiled : scene.Profiled profile) (act : Act) :
    (scene.act act).Profiled profile := by
  cases act with
  | pass tick => exact ⟨profiled.same, profiled.clocked⟩
  | call call => exact profiled.call (scene.device.answer_effect scene.now call)
  | poll => exact profiled.poll (scene.device.strike_struck scene.now)

end Profiled

end Scene

theorem Template.build_eq_ok {template : Template} {ticksPerSecond : UInt64} {device : Device}
    (built : template.build ticksPerSecond = .ok device) :
    ∃ source, source.map LoopedSource.bytes = template.source ∧
      device = template.idleDevice ticksPerSecond source := by
  rw [build] at built
  split at built
  · cases built
  · cases given : template.source with
    | none =>
        simp only [given, Except.ok.injEq] at built
        exact ⟨none, rfl, built.symm⟩
    | some bytes =>
        simp only [given] at built
        by_cases nonempty : 0 < bytes.size
        · simp only [LoopedSource.ofBytes?, dif_pos nonempty, Except.ok.injEq] at built
          exact ⟨some ⟨bytes, 0, nonempty⟩, rfl, built.symm⟩
        · simp [LoopedSource.ofBytes?, nonempty] at built

theorem Template.idleDevice_equipped (template : Template) (ticksPerSecond : UInt64)
    (source : Option LoopedSource) : (template.idleDevice ticksPerSecond source).Equipped :=
  ⟨by simp [idleDevice], rfl, rfl⟩

namespace Session

variable {template : Template} {clock : ManualClock} {session : Session}

theorem begin_eq_ok (opened : Session.begin template clock = .ok session) :
    ∃ source, source.map LoopedSource.bytes = template.source ∧ session.clock = clock ∧
      session.deck.device = template.idleDevice clock.ticksPerSecond source := by
  rw [Session.begin] at opened
  cases built : template.build clock.ticksPerSecond with
  | error cause => simp [built] at opened
  | ok device =>
      obtain ⟨source, given, idle⟩ := Template.build_eq_ok built
      simp only [built, Except.ok.injEq] at opened
      subst opened
      exact ⟨source, given, rfl, idle⟩

theorem accounts_opening (opened : Session.begin template clock = .ok session) :
    (session.scene []).Accounts := by
  obtain ⟨source, _, _, idle⟩ := begin_eq_ok opened
  have device : (session.scene []).device = template.idleDevice clock.ticksPerSecond source := idle
  refine ⟨?_, ?_, ?_, fun _ _ => rfl, Nat.zero_le _, ?_, fun _ _ => rfl⟩
  · rw [device]
    exact ⟨template.idleDevice_equipped _ source, by simp [Template.idleDevice],
      by simp [Template.idleDevice]⟩
  · intro _
    rw [device]
    rfl
  · intro timing found
    cases found
  · rw [device]
    simp [Template.idleDevice]

theorem Shows.accounts (opened : Session.begin template clock = .ok session)
    {steps : List Step} {scene : Scene} (shown : session.Shows steps scene)
    (forward : scene.journal.Forward) : scene.Accounts := by
  obtain ⟨acts, _, reached⟩ := shown
  rw [← reached] at forward ⊢
  exact Scene.run_invariant (fun _ _ => Journal.Forward.of_append)
    (fun _ act accounts forward => accounts.act act forward) (accounts_opening opened) acts forward

theorem Shows.profiled (opened : Session.begin template clock = .ok session)
    {steps : List Step} {scene : Scene} (shown : session.Shows steps scene) :
    scene.Profiled (template.profile clock.ticksPerSecond) := by
  obtain ⟨source, _, _, idle⟩ := begin_eq_ok opened
  obtain ⟨acts, _, reached⟩ := shown
  have initial : (session.scene []).Profiled (template.profile clock.ticksPerSecond) :=
    ⟨congrArg Device.profile idle, fun timing found => by cases found⟩
  rw [← reached]
  exact @Scene.run_invariant (fun _ => True) _ (fun _ _ _ => trivial)
    (fun _ act profiled _ => profiled.act act) _ initial acts trivial

/-- What an idle device has, and keeps through every call and every strike of its timer, it has in
every scene of a run, whatever the clock did. -/
theorem Shows.invariant {Invariant : Device → Prop}
    (idle : ∀ source, Invariant (template.idleDevice clock.ticksPerSecond source))
    (effect : ∀ {device next : Device} {now : Tick} {event : Option Event},
      Invariant device → device.Effect now next event → Invariant next)
    (struck : ∀ {device next : Device} {now : Tick} {strike : Device.Strike},
      Invariant device → device.Struck now next strike → Invariant next)
    (opened : Session.begin template clock = .ok session) {steps : List Step} {scene : Scene}
    (shown : session.Shows steps scene) : Invariant scene.device := by
  obtain ⟨source, _, _, built⟩ := begin_eq_ok opened
  have initial : Invariant (session.scene []).device := by
    rw [show (session.scene []).device = session.deck.device from rfl, built]
    exact idle source
  obtain ⟨acts, _, reached⟩ := shown
  rw [← reached]
  refine @Scene.run_invariant (fun _ => True) (fun scene => Invariant scene.device)
    (fun _ _ _ => trivial) ?_ _ initial acts trivial
  intro scene act kept _
  cases act with
  | pass tick => exact kept
  | call call => exact effect kept (scene.device.answer_effect scene.now call)
  | poll => exact struck kept (scene.device.strike_struck scene.now)

theorem Shows.equipped (opened : Session.begin template clock = .ok session) {steps : List Step}
    {scene : Scene} (shown : session.Shows steps scene) : scene.device.Equipped :=
  shown.invariant (template.idleDevice_equipped _) Device.Equipped.effect Device.Equipped.struck
    opened

end Session

end PcmPlayback
