import Mathlib.Order.Bounds.Basic
import PcmPlayback.Proofs.Arrears

/-!
# The grid schedule

On the grid schedule the timer goes off at whole periods after the last start, a period being
rounded up to ticks. Late polls skip points of the grid and never move it, and a firing faults
only where the next point leaves the clock's word. A boundary lies between two points, so it is
told within a period of being reached.
-/

set_option autoImplicit false

namespace PcmPlayback

/-- Points of the grid of a start that come after a tick. -/
def Timing.gridAfter (timing : Timing) (started tick : Nat) : Set Nat :=
  {point | tick < point ∧ ∃ count, 1 ≤ count ∧ point = started + count * timing.periodTicks}

theorem Timing.isLeast_gridAfter {timing : Timing} {started tick point : Nat}
    (ordered : started ≤ tick) (place : ∃ count, point = started + count * timing.periodTicks)
    (ahead : tick < point) (near : point ≤ tick + timing.periodTicks) :
    IsLeast (timing.gridAfter started tick) point := by
  obtain ⟨count, same⟩ := place
  refine ⟨⟨ahead, count, ?_, same⟩, ?_⟩
  · apply Nat.pos_of_ne_zero
    intro zero
    rw [zero, Nat.zero_mul] at same
    omega
  · rintro other ⟨later, fewer, _, placed⟩
    apply Nat.le_of_not_lt
    intro before
    have ordered : fewer + 1 ≤ count := by
      apply Nat.lt_of_not_le
      intro more
      have spans := Nat.mul_le_mul_right timing.periodTicks more
      omega
    have spans := Nat.mul_le_mul_right timing.periodTicks ordered
    rw [Nat.add_mul] at spans
    omega

namespace Scene.Waiting

variable {scene : Scene} {timing : Timing} {started armed expiry : Tick}

/-- A firing faults exactly if the next point of the grid leaves the clock's word. -/
theorem faults_iff (waiting : scene.Waiting timing started armed expiry)
    (accounts : scene.Accounts) (alarm : scene.Alarm)
    (schedule : scene.device.profile.schedule = .grid)
    (due : scene.device.isDue scene.now = true) :
    ∃ next, IsLeast (timing.gridAfter started.toNat scene.now.toNat) next ∧
      ((scene.device.disarm.tend scene.now).2 = none ↔ wordLimit ≤ next) := by
  obtain ⟨ordered, past⟩ := waiting.ordered alarm
  obtain ⟨onGrid, ⟨passed, place⟩, _, _⟩ := waiting.grid alarm schedule
  obtain ⟨tick, armedFor, late⟩ := Device.isDue_iff.mp due
  cases Option.some.inj (armedFor.symm.trans waiting.armedFor)
  have positive : 0 < timing.periodTicks := timing.ticksFor_pos timing.periodSpan
  have reached : scene.device.gridTick ≤ scene.now := onGrid ▸ late
  obtain ⟨count, next, ahead, near⟩ := Device.gridPoint?_eq_after positive reached
  rw [onGrid] at next ahead near
  refine ⟨expiry.toNat + count * timing.periodTicks, ?_, ?_⟩
  · refine Timing.isLeast_gridAfter (Nat.le_trans ordered past) ⟨passed + count, ?_⟩ ahead near
    rw [place, Nat.add_mul, Nat.add_assoc]
  · have moved : (scene.device.disarm.playhead.advance scene.now).2.isDone = true :=
      accounts.moved waiting.running
    have period : (scene.device.disarm.updated scene.now).periodTicks = timing.periodTicks :=
      accounts.periodTicks_eq waiting.present
    have lattice : (scene.device.disarm.updated scene.now).profile.schedule = .grid := schedule
    have point : (scene.device.disarm.updated scene.now).gridTick = expiry := onGrid
    rw [Device.tend_eq_none_iff moved, Device.nextExpiry?, lattice]
    simp only [period, point, next, Tick.after?_eq_none_iff]

/-- While no alarm is due, whatever is owed was reached less than a period ago. -/
theorem recent_of_ahead (waiting : scene.Waiting timing started armed expiry)
    (accounts : scene.Accounts) (alarm : scene.Alarm) (arrears : scene.Arrears)
    (schedule : scene.device.profile.schedule = .grid) (ahead : scene.device.Ahead scene.now)
    {boundary tick : Nat} (owed : scene.journal.told < boundary)
    (fresh : ¬ scene.journal.Reached timing boundary started.toNat)
    (reached : scene.journal.Reached timing boundary tick) :
    scene.now.toNat < tick + timing.periodTicks := by
  have unreached := arrears.unreached accounts waiting owed fresh
  have later : armed.toNat < tick := by
    apply Nat.lt_of_not_le
    intro early
    exact unreached (reached.mono early)
  obtain ⟨_, _, _, near⟩ := waiting.grid alarm schedule
  have waits := ahead expiry waiting.armedFor
  omega

end Scene.Waiting

namespace Session

variable {template : Template} {clock : ManualClock} {session : Session}

/-- The grid schedule, in every run whose clock does not go back. An armed timer waits for the next
point, after the tick at which it was armed, of the grid that the last start laid out, and a firing
faults exactly if the next point after it leaves the clock's word. If moreover the boundaries passed
can be counted, then after a poll that leaves the timer armed whatever is owed of the time since
that start was reached less than a period ago. -/
theorem grid_kept (opened : Session.begin template clock = .ok session)
    (schedule : template.schedule = .grid) (steps : List Step)
    (forward : (session.journal steps).Forward) :
    (∀ scene, session.Shows steps scene → ∀ expiry, scene.device.expiry = some expiry →
      ∃ timing started armed, scene.Waiting timing started armed expiry ∧
        IsLeast (timing.gridAfter started.toNat armed.toNat) expiry.toNat ∧
        (scene.device.isDue scene.now = true →
          ∃ next, IsLeast (timing.gridAfter started.toNat scene.now.toNat) next ∧
            ((scene.device.disarm.tend scene.now).2 = none ↔ wordLimit ≤ next))) ∧
    ((session.journal steps).boundaries < wordLimit →
      ∀ before after, steps = before ++ .deck .poll :: after →
        ∀ scene, scene = (session.run (before ++ [.deck .poll])).1.scene
            (session.journal (before ++ [.deck .poll])) →
          ∀ expiry, scene.device.expiry = some expiry →
            ∃ timing started armed, scene.Waiting timing started armed expiry ∧
              ∀ boundary, scene.journal.told < boundary →
                ¬ scene.journal.Reached timing boundary started.toNat →
                ∀ tick, scene.journal.Reached timing boundary tick →
                  scene.now.toNat < tick + timing.periodTicks) := by
  have everywhere (scene : Scene) (shown : session.Shows steps scene) :
      scene.Accounts ∧ scene.Alarm ∧ scene.device.profile.schedule = .grid := by
    obtain ⟨accounts, alarm⟩ := shown.alarm opened (shown.forward forward)
    have same := congrArg Profile.schedule (shown.profiled opened).same
    exact ⟨accounts, alarm, same.trans schedule⟩
  constructor
  · intro scene shown expiry armedFor
    obtain ⟨accounts, alarm, scheduled⟩ := everywhere scene shown
    obtain ⟨timing, started, armed, waiting⟩ := Scene.Waiting.of_expiry accounts alarm armedFor
    obtain ⟨ordered, _⟩ := waiting.ordered alarm
    obtain ⟨_, place, ahead, near⟩ := waiting.grid alarm scheduled
    refine ⟨timing, started, armed, waiting, ?_, ?_⟩
    · exact Timing.isLeast_gridAfter ordered place ahead near
    · exact waiting.faults_iff accounts alarm scheduled
  · intro few before after split scene reached expiry armedFor
    obtain ⟨_, later⟩ := session.shows_step split
    have ahead := ahead_poll opened before
    obtain ⟨_, arrears⟩ := later.arrears opened (later.forward forward) (later.counted few)
    subst reached
    obtain ⟨accounts, alarm, scheduled⟩ := everywhere _ later
    obtain ⟨timing, started, armed, waiting⟩ := Scene.Waiting.of_expiry accounts alarm armedFor
    refine ⟨timing, started, armed, waiting, ?_⟩
    intro boundary owed fresh tick reached
    exact waiting.recent_of_ahead accounts alarm arrears scheduled ahead owed fresh reached

/-- The grid at work: started again at tick 97 in the middle of a period and polled late at tick
247, the timer waits for the third point of a grid of 64 ticks. At that poll the third boundary, if
reached, was reached less than a period before. -/
theorem grid_kept_resumed :
    ∃ (session : Session) (before : List Step) (scene : Scene) (timing : Timing),
      Session.begin { schedule := .grid } ⟨1000, 7⟩ = .ok session ∧
        (session.journal (before ++ [.deck .poll])).Forward ∧
        (session.journal (before ++ [.deck .poll])).boundaries < wordLimit ∧
        session.Shows (before ++ [.deck .poll]) scene ∧ timing.periodTicks = 64 ∧
        scene.now = 247 ∧ scene.device.expiry = some 289 ∧
        IsLeast (timing.gridAfter 97 247) 289 ∧
        ∀ tick, scene.journal.Reached timing 3 tick → 247 < tick + timing.periodTicks := by
  let timing : Timing := ⟨⟨11025, 3000, 700⟩, 1000⟩
  let session : Session :=
    ⟨⟨1000, 7⟩, ⟨({ schedule := .grid } : Template).idleDevice 1000 none, []⟩⟩
  let before : List Step :=
    [.deck (.call (.prepare timing.setup)), .deck (.call .start), .clock (.forward 40),
      .deck (.call .stop), .clock (.forward 50), .deck (.call .start), .clock (.forward 150),
      .deck (.call .pointer)]
  let steps := before ++ [.deck .poll]
  let last := (session.run steps).1.scene (session.journal steps)
  have opened : Session.begin { schedule := .grid } ⟨1000, 7⟩ = .ok session := rfl
  have forward : (session.journal steps).Forward := by decide +kernel
  have few : (session.journal steps).boundaries < wordLimit := by decide +kernel
  have shown : session.Shows steps last := session.shows_last steps
  have period : timing.periodTicks = 64 := by decide +kernel
  have now : last.now = 247 := by decide +kernel
  have expires : last.device.expiry = some 289 := by decide +kernel
  have prepared : last.journal.timing? = some timing := by decide +kernel
  have resumed : last.journal.startedAt? = some 97 := by decide +kernel
  have rearmed : last.journal.armedAt? = some 247 := by decide +kernel
  have told : last.journal.told < 3 := by decide +kernel
  have fresh : ¬ last.journal.Reached timing 3 (97 : Tick).toNat := by
    rw [Journal.Reached]
    decide +kernel
  obtain ⟨armed, owes⟩ := grid_kept opened rfl steps forward
  obtain ⟨_, _, _, waiting, least, _⟩ := armed last shown 289 expires
  cases Option.some.inj (prepared.symm.trans waiting.present)
  cases Option.some.inj (resumed.symm.trans waiting.startedAt)
  cases Option.some.inj (rearmed.symm.trans waiting.armedAt)
  obtain ⟨_, _, _, waiting, recent⟩ := owes few before [] rfl last rfl 289 expires
  cases Option.some.inj (prepared.symm.trans waiting.present)
  cases Option.some.inj (resumed.symm.trans waiting.startedAt)
  refine ⟨session, before, last, timing, opened, forward, few, shown, period, now, expires, least,
    ?_⟩
  intro tick reached
  have early := recent 3 told fresh tick reached
  rw [now] at early
  exact early

end Session

end PcmPlayback
