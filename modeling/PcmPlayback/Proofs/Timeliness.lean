import Mathlib.Order.Bounds.Basic
import PcmPlayback.Proofs.Arrears

/-!
# Timeliness on the boundary schedule

On the boundary schedule the timer goes off at the first tick by which the next boundary has been
reached. A poll therefore notifies exactly if a boundary has been reached since the timer was
armed, and after a poll nothing is owed of what was reached since the last start. Where in a
period the device was stopped or started does not matter.
-/

set_option autoImplicit false

namespace PcmPlayback

/-- Ticks by which a device has reached the boundary that was next at a given tick, if it goes on
running from there. -/
def Journal.arrivals (journal : Journal) (timing : Timing) (armed : Nat) : Set Nat :=
  {tick | armed ≤ tick ∧
    (timing.speed * journal.playedBy armed / timing.periodSpan + 1) * timing.periodSpan ≤
      timing.speed * (journal.playedBy armed + (tick - armed))}

/-- Whether the playhead reached a boundary after one tick and by another. -/
def Journal.ReachedSince (journal : Journal) (timing : Timing) (since tick : Nat) : Prop :=
  ∃ boundary, ¬ journal.Reached timing boundary since ∧ journal.Reached timing boundary tick

namespace Journal

variable {journal : Journal} {timing : Timing}

theorem mem_arrivals_iff (sound : timing.Sound) {armed tick : Nat} :
    tick ∈ journal.arrivals timing armed ↔ armed ≤ tick ∧
      timing.periodSpan - timing.speed * journal.playedBy armed % timing.periodSpan ≤
        timing.speed * (tick - armed) := by
  have whole := Nat.div_add_mod' (timing.speed * journal.playedBy armed) timing.periodSpan
  have within := Nat.mod_lt (timing.speed * journal.playedBy armed) sound.period_pos
  simp only [arrivals, Set.mem_ofPred_eq, Nat.mul_add, Nat.add_mul, Nat.one_mul]
  omega

/-- Among the ticks of a word, the first arrival is where the timer counts to. -/
theorem isLeast_arrivals (sound : timing.Sound) {armed tick : Nat} (fits : tick < wordLimit)
    (arrives : tick ∈ journal.arrivals timing armed) :
    IsLeast (journal.arrivals timing armed) (armed + journal.delayAt timing armed) := by
  have positive := sound.rest_pos (timing.speed * journal.playedBy armed)
  obtain ⟨_, covers⟩ := (mem_arrivals_iff sound).mp arrives
  have exact := Timing.ticksFor_eq sound positive (Nat.lt_of_le_of_lt (Nat.sub_le _ _) fits) covers
  constructor
  · rw [mem_arrivals_iff sound, Nat.add_sub_cancel_left, delayAt, exact]
    refine ⟨Nat.le_add_right _ _, ?_⟩
    rw [Nat.mul_comm timing.speed (divUp _ _)]
    exact (divUp_le_iff sound.speed_pos).mp (Nat.le_refl _)
  · intro other arrived
    obtain ⟨later, reaches⟩ := (mem_arrivals_iff sound).mp arrived
    have counted := Timing.ticksFor_le sound positive reaches
    unfold delayAt
    omega

end Journal

namespace Scene

variable {scene : Scene} {timing : Timing} {started armed expiry : Tick}

namespace Waiting

/-- A device whose timer was armed by a start or firing has been running ever since. -/
theorem elapsed (waiting : scene.Waiting timing started armed expiry) (accounts : scene.Accounts)
    (alarm : scene.Alarm) :
    scene.journal.playedBy armed.toNat + (scene.now.toNat - armed.toNat) =
      scene.journal.playedBy scene.now.toNat := by
  obtain ⟨ordered, past⟩ := waiting.ordered alarm
  obtain ⟨first, begun, _, _, continuous⟩ := accounts.running waiting.running
  cases Option.some.inj (begun.symm.trans waiting.startedAt)
  rw [accounts.playedBy_now]
  exact continuous armed.toNat ordered past

theorem arrived_iff (waiting : scene.Waiting timing started armed expiry)
    (accounts : scene.Accounts) (alarm : scene.Alarm) :
    scene.now.toNat ∈ scene.journal.arrivals timing armed.toNat ↔
      scene.journal.ReachedSince timing armed.toNat scene.now.toNat := by
  obtain ⟨_, past⟩ := waiting.ordered alarm
  have positive := (accounts.exact timing waiting.present).1.period_pos
  simp only [Journal.arrivals, Set.mem_ofPred_eq, waiting.elapsed accounts alarm]
  constructor
  · rintro ⟨_, arrived⟩
    refine ⟨_, ?_, arrived⟩
    rw [Journal.reached_iff positive]
    exact Nat.not_succ_le_self _
  · rintro ⟨boundary, fresh, reached⟩
    rw [Journal.reached_iff positive, Nat.not_le] at fresh
    exact ⟨past, Nat.le_trans (Nat.mul_le_mul_right _ fresh) reached⟩

theorem due_of_arrived (waiting : scene.Waiting timing started armed expiry)
    (accounts : scene.Accounts) (alarm : scene.Alarm)
    (schedule : scene.device.profile.schedule = .boundary)
    (arrived : scene.now.toNat ∈ scene.journal.arrivals timing armed.toNat) :
    expiry ≤ scene.now := by
  have sound := (accounts.exact timing waiting.present).1
  have place := waiting.boundary alarm schedule
  obtain ⟨past, covers⟩ := (Journal.mem_arrivals_iff sound).mp arrived
  have counted := Timing.ticksFor_le sound (sound.rest_pos _) covers
  rw [UInt64.le_iff_toNat_le, place, Journal.delayAt]
  omega

/-- Unless the clock is at the end of its word, the timer is not due before. -/
theorem arrived_of_due (waiting : scene.Waiting timing started armed expiry)
    (accounts : scene.Accounts) (alarm : scene.Alarm)
    (schedule : scene.device.profile.schedule = .boundary)
    (small : scene.now.toNat + 1 < wordLimit) (due : expiry ≤ scene.now) :
    scene.now.toNat ∈ scene.journal.arrivals timing armed.toNat := by
  have sound := (accounts.exact timing waiting.present).1
  have place := waiting.boundary alarm schedule
  have late := UInt64.le_iff_toNat_le.mp due
  rw [Journal.mem_arrivals_iff sound]
  refine ⟨by omega, Timing.covers_of_ticksFor_le sound (by omega) ?_⟩
  rw [place, Journal.delayAt] at late
  omega

/-- A firing that can arm the timer again notifies, if a boundary was reached since it was last
armed. -/
theorem edges_struck (waiting : scene.Waiting timing started armed expiry)
    (accounts : scene.Accounts) (reports : scene.Reports) (arrears : scene.Arrears)
    (few : scene.journal.boundaries < wordLimit) (due : scene.device.isDue scene.now = true)
    (room : (scene.device.updated scene.now).nextExpiry? scene.now ≠ none)
    (since : scene.journal.ReachedSince timing armed.toNat scene.now.toNat)
    {next : Device} {strike : Device.Strike}
    (struck : scene.device.Struck scene.now next strike) :
    next.delivery.edges = scene.device.delivery.edges + 1 := by
  cases struck with
  | early early => simp [early] at due
  | asleep _ asleep =>
      exact absurd ⟨accounts.orderly.flag.mpr waiting.running, waiting.running⟩ asleep
  | faulted _ running fault =>
      rcases fault with stuck | none
      · simp [accounts.moved running] at stuck
      · exact absurd none room
  | fired _ running moved tick gridTick ring source next grid none =>
      -- nothing pending would mean that the boundary was told before it was reached
      have positive := (accounts.exact timing waiting.present).1.period_pos
      have settled := reports.settle accounts few running
      have bounded := arrears.bounded timing armed waiting.present waiting.armedAt
      obtain ⟨boundary, fresh, reached⟩ := since
      rw [Journal.reached_iff positive] at fresh reached
      rw [none, Journal.crossed_eq waiting.present, ← accounts.playedBy_now] at settled
      omega
  | told _ running moved tick gridTick ring source next grid some =>
      simp only [Device.counted, Device.drained, reports.raise_eq accounts few running some]

/-- While no alarm is due, nothing is owed of what was reached since the last start. -/
theorem told_of_ahead (waiting : scene.Waiting timing started armed expiry)
    (accounts : scene.Accounts) (alarm : scene.Alarm) (arrears : scene.Arrears)
    (schedule : scene.device.profile.schedule = .boundary) (ahead : scene.device.Ahead scene.now)
    {boundary : Nat} (fresh : ¬ scene.journal.Reached timing boundary started.toNat)
    (reached : scene.journal.Reached timing boundary scene.now.toNat) :
    boundary ≤ scene.journal.told := by
  apply Nat.le_of_not_lt
  intro owed
  have unreached := arrears.unreached accounts waiting owed fresh
  have arrived := (waiting.arrived_iff accounts alarm).mpr ⟨boundary, unreached, reached⟩
  have due := waiting.due_of_arrived accounts alarm schedule arrived
  exact Nat.not_lt_of_le (UInt64.le_iff_toNat_le.mp due) (ahead expiry waiting.armedFor)

/-- Where the timer could be armed again, a poll notifies exactly if a boundary was reached since
it was armed, and otherwise does nothing. -/
theorem poll_timely (waiting : scene.Waiting timing started armed expiry)
    (accounts : scene.Accounts) (reports : scene.Reports) (alarm : scene.Alarm)
    (arrears : scene.Arrears) (few : scene.journal.boundaries < wordLimit)
    (schedule : scene.device.profile.schedule = .boundary)
    (room : ∀ delay, (scene.device.playhead.advance scene.now).1.delay? = some delay →
      scene.now.toNat + delay < wordLimit) :
    (scene.journal.ReachedSince timing armed.toNat scene.now.toNat ↔
        (scene.device.poll scene.now).1.delivery.edges = scene.device.delivery.edges + 1) ∧
      (¬ scene.journal.ReachedSince timing armed.toNat scene.now.toNat →
        scene.device.poll scene.now = (scene.device, none)) := by
  have counts := Playhead.delay?_after
    (accounts.progress_updated waiting.running timing waiting.present)
  have fits := room _ counts
  have positive := Playhead.delay?_pos counts
  have rearms : (scene.device.updated scene.now).nextExpiry? scene.now ≠ none := by
    have boundary : (scene.device.updated scene.now).profile.schedule = .boundary := schedule
    have waits : (scene.device.updated scene.now).playhead.delay? = _ := counts
    rw [Device.nextExpiry?, boundary]
    simp only [waits, Option.bind_some, ne_eq, Tick.after?_eq_none_iff]
    omega
  have silent (unreached : ¬ scene.journal.ReachedSince timing armed.toNat scene.now.toNat) :
      scene.device.poll scene.now = (scene.device, none) := by
    rw [Device.poll, if_neg]
    intro due
    obtain ⟨tick, armedFor, late⟩ := Device.isDue_iff.mp due
    cases Option.some.inj (armedFor.symm.trans waiting.armedFor)
    apply unreached
    rw [← waiting.arrived_iff accounts alarm]
    exact waiting.arrived_of_due accounts alarm schedule (by omega) late
  refine ⟨⟨?_, ?_⟩, silent⟩
  · intro since
    have arrived := (waiting.arrived_iff accounts alarm).mpr since
    have late := waiting.due_of_arrived accounts alarm schedule arrived
    have due := Device.isDue_iff.mpr ⟨expiry, waiting.armedFor, late⟩
    rw [Device.poll_delivery]
    exact waiting.edges_struck accounts reports arrears few due rearms since
      (scene.device.strike_struck scene.now)
  · intro raised
    apply Classical.byContradiction
    intro unreached
    rw [silent unreached] at raised
    exact Nat.succ_ne_self _ raised.symm

end Waiting

end Scene

namespace Session

variable {template : Template} {clock : ManualClock} {session : Session}

/-- Timeliness of the boundary schedule, in every run whose clock does not go back and in which
the boundaries passed can be counted. An armed timer waits for the first tick by which the boundary
that was next at the last start or firing has been reached, as long as a word holds that tick. A
poll that can arm the timer again notifies exactly if a boundary was reached since then, and does
nothing otherwise. After a poll that leaves the timer armed all boundaries reached since the last
start have been told. -/
theorem boundary_timely (opened : Session.begin template clock = .ok session)
    (schedule : template.schedule = .boundary) (steps : List Step)
    (forward : (session.journal steps).Forward)
    (few : (session.journal steps).boundaries < wordLimit) :
    (∀ scene, session.Shows steps scene → ∀ expiry, scene.device.expiry = some expiry →
      ∃ timing started armed, scene.Waiting timing started armed expiry ∧
        ((∃ tick, tick < wordLimit ∧ tick ∈ scene.journal.arrivals timing armed.toNat) →
          IsLeast (scene.journal.arrivals timing armed.toNat) expiry.toNat) ∧
        ((∀ delay, (scene.device.playhead.advance scene.now).1.delay? = some delay →
            scene.now.toNat + delay < wordLimit) →
          (scene.journal.ReachedSince timing armed.toNat scene.now.toNat ↔
            (scene.device.poll scene.now).1.delivery.edges = scene.device.delivery.edges + 1) ∧
          (¬ scene.journal.ReachedSince timing armed.toNat scene.now.toNat →
            scene.device.poll scene.now = (scene.device, none)))) ∧
    ∀ before after, steps = before ++ .deck .poll :: after →
      ∀ scene, scene = (session.run (before ++ [.deck .poll])).1.scene
          (session.journal (before ++ [.deck .poll])) →
        ∀ expiry, scene.device.expiry = some expiry →
          ∃ timing started armed, scene.Waiting timing started armed expiry ∧
            ∀ boundary, ¬ scene.journal.Reached timing boundary started.toNat →
              scene.journal.Reached timing boundary scene.now.toNat →
                boundary ≤ scene.journal.told := by
  have everywhere (scene : Scene) (shown : session.Shows steps scene) :
      scene.Accounts ∧ scene.Reports ∧ scene.Alarm ∧ scene.Arrears ∧
        scene.journal.boundaries < wordLimit ∧ scene.device.profile.schedule = .boundary := by
    have onward := shown.forward forward
    have fits := shown.counted few
    obtain ⟨accounts, alarm⟩ := shown.alarm opened onward
    obtain ⟨reports, arrears⟩ := shown.arrears opened onward fits
    have same := congrArg Profile.schedule (shown.profiled opened).same
    exact ⟨accounts, reports, alarm, arrears, fits, same.trans schedule⟩
  constructor
  · intro scene shown expiry armedFor
    obtain ⟨accounts, reports, alarm, arrears, fits, scheduled⟩ := everywhere scene shown
    obtain ⟨timing, started, armed, waiting⟩ := Scene.Waiting.of_expiry accounts alarm armedFor
    refine ⟨timing, started, armed, waiting, ?_, ?_⟩
    · rintro ⟨tick, counted, arrives⟩
      rw [waiting.boundary alarm scheduled]
      exact Journal.isLeast_arrivals (accounts.exact timing waiting.present).1 counted arrives
    · intro room
      exact waiting.poll_timely accounts reports alarm arrears fits scheduled room
  · intro before after split scene reached expiry armedFor
    obtain ⟨_, later⟩ := session.shows_step split
    have ahead := ahead_poll opened before
    subst reached
    obtain ⟨accounts, reports, alarm, arrears, _, scheduled⟩ := everywhere _ later
    obtain ⟨timing, started, armed, waiting⟩ := Scene.Waiting.of_expiry accounts alarm armedFor
    refine ⟨timing, started, armed, waiting, ?_⟩
    intro boundary fresh reached
    exact waiting.told_of_ahead accounts alarm arrears scheduled ahead fresh reached

/-- Timeliness at work: the device has been stopped after 40 of the 63.49 ticks of a period and
started again at tick 97. The timer waits for tick 121, and the poll at tick 127 notifies. -/
theorem boundary_timely_resumed :
    ∃ (session : Session) (steps : List Step) (scene : Scene) (timing : Timing),
      Session.begin {} ⟨1000, 7⟩ = .ok session ∧ (session.journal steps).Forward ∧
        (session.journal steps).boundaries < wordLimit ∧ session.Shows steps scene ∧
        scene.now = 127 ∧ scene.device.expiry = some 121 ∧
        IsLeast (scene.journal.arrivals timing 97) 121 ∧
        (scene.journal.ReachedSince timing 97 127 ↔
          (scene.device.poll scene.now).1.delivery.edges = scene.device.delivery.edges + 1) := by
  let timing : Timing := ⟨⟨11025, 3000, 700⟩, 1000⟩
  let session : Session := ⟨⟨1000, 7⟩, ⟨({} : Template).idleDevice 1000 none, []⟩⟩
  let steps : List Step :=
    [.deck (.call (.prepare timing.setup)), .deck (.call .start), .clock (.forward 40),
      .deck (.call .stop), .clock (.forward 50), .deck (.call .start), .clock (.forward 20),
      .deck (.call .pointer), .clock (.forward 10)]
  let last := (session.run steps).1.scene (session.journal steps)
  have opened : Session.begin {} ⟨1000, 7⟩ = .ok session := rfl
  have forward : (session.journal steps).Forward := by decide +kernel
  have few : (session.journal steps).boundaries < wordLimit := by decide +kernel
  have shown : session.Shows steps last := session.shows_last steps
  have now : last.now = 127 := by decide +kernel
  have expires : last.device.expiry = some 121 := by decide +kernel
  have prepared : last.journal.timing? = some timing := by decide +kernel
  have resumed : last.journal.armedAt? = some 97 := by decide +kernel
  have waits : (last.device.playhead.advance last.now).1.delay? = some 57 := by decide +kernel
  have arrives : 121 ∈ last.journal.arrivals timing (97 : Tick).toNat := by
    rw [Journal.arrivals, Set.mem_ofPred_eq]
    decide +kernel
  have law := boundary_timely opened rfl steps forward few
  obtain ⟨found, _, armed, waiting, least, polls⟩ := law.1 last shown 121 expires
  cases Option.some.inj (prepared.symm.trans waiting.present)
  cases Option.some.inj (resumed.symm.trans waiting.armedAt)
  refine ⟨session, steps, last, timing, opened, forward, few, shown, now, expires,
    least ⟨121, by decide +kernel, arrives⟩, ?_⟩
  have timely := (polls fun delay counts => ?_).1
  · rw [now] at timely ⊢
    exact timely
  · cases Option.some.inj (waits.symm.trans counts)
    decide +kernel

end Session

end PcmPlayback
