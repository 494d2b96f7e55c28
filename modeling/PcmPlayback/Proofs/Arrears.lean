import PcmPlayback.Proofs.Alarm
import PcmPlayback.Proofs.Reports

/-!
# Arrears

How the periods told compare with the boundaries reached when the timer was last armed. A start
tells nothing, and a firing tells all boundaries reached by then. So whatever is still owed was
reached after that, or before the last start.
-/

set_option autoImplicit false

namespace PcmPlayback

namespace Scene

/-- What the journal of a scene says about the periods told and the last arming of the timer. -/
structure Arrears (scene : Scene) : Prop where
  bounded : ∀ timing armed, scene.journal.timing? = some timing →
    scene.journal.armedAt? = some armed →
      scene.journal.told ≤ timing.speed * scene.journal.playedBy armed.toNat / timing.periodSpan
  squared : ∀ timing started armed, scene.journal.timing? = some timing →
    scene.journal.startedAt? = some started → scene.journal.armedAt? = some armed →
      armed = started ∨
        timing.speed * scene.journal.playedBy armed.toNat / timing.periodSpan ≤ scene.journal.told

namespace Arrears

variable {scene : Scene}

theorem call (arrears : scene.Arrears) (accounts : scene.Accounts) (reports : scene.Reports)
    {next : Device} {event : Option Event}
    (effect : scene.device.Effect scene.now next event) :
    Arrears ⟨scene.now, next, event.toList ++ scene.journal⟩ := by
  cases effect with
  | unchanged => exact arrears
  | prepared setup size allowed sound =>
      refine ⟨fun timing armed _ _ => Nat.zero_le _, fun timing started armed _ _ _ => .inr ?_⟩
      simp [Journal.playedBy, Journal.told]
  | started tick gridTick allowed first grid =>
      constructor
      · intro timing armed present armedAt
        cases armedAt
        have told := reports.told_le_crossed
        have found : scene.journal.timing? = some timing := present
        rw [Journal.crossed_eq found, ← accounts.playedBy_now] at told
        exact told
      · intro timing started armed _ startedAt armedAt
        cases startedAt
        cases armedAt
        exact .inl rfl
  | rerouted | misstarted | lowered => exact { arrears with }
  | stopped | jammed | read | freed => exact { arrears with }

theorem of_justFired (reports : scene.Reports) (fired : scene.journal.JustFired)
    (armed : scene.journal.armedAt? = some scene.now)
    (past : scene.journal.playedBy scene.now.toNat = scene.journal.played) : scene.Arrears := by
  have square (timing : Timing) (present : scene.journal.timing? = some timing) :
      scene.journal.told =
        timing.speed * scene.journal.playedBy scene.now.toNat / timing.periodSpan := by
    rw [reports.complete fired, Journal.crossed_eq present, past]
  constructor
  · intro timing tick present armedAt
    cases Option.some.inj (armed.symm.trans armedAt)
    exact Nat.le_of_eq (square timing present)
  · intro timing started tick present _ armedAt
    cases Option.some.inj (armed.symm.trans armedAt)
    exact .inr (Nat.le_of_eq (square timing present).symm)

theorem poll (arrears : scene.Arrears) (accounts : scene.Accounts) (reports : scene.Reports)
    (few : scene.journal.boundaries < wordLimit) {next : Device} {strike : Device.Strike}
    (struck : scene.device.Struck scene.now next strike) :
    Arrears ⟨scene.now, next, strike.events scene.now ++ scene.journal⟩ := by
  have reported := reports.poll accounts few struck
  have past := accounts.playedBy_now
  cases struck with
  | early early => exact arrears
  | asleep due asleep => exact { arrears with }
  | faulted due running fault => exact ⟨arrears.bounded, arrears.squared⟩
  | fired => exact of_justFired reported trivial rfl past
  | told => exact of_justFired reported trivial rfl past

theorem pass (arrears : scene.Arrears) (alarm : scene.Alarm) {tick : Tick} :
    Arrears (scene.act (.pass tick)) := by
  have unmoved (armed : Tick) (armedAt : scene.journal.armedAt? = some armed) :
      (scene.act (.pass tick)).journal.playedBy armed.toNat =
        scene.journal.playedBy armed.toNat := by
    apply playedBy_pass
    intro running
    obtain ⟨_, same, _, found, _, past⟩ := alarm.ordered running
    cases Option.some.inj (found.symm.trans armedAt)
    exact past
  constructor
  · intro timing armed present armedAt
    rw [unmoved armed armedAt]
    exact arrears.bounded timing armed present armedAt
  · intro timing started armed present startedAt armedAt
    rw [unmoved armed armedAt]
    exact arrears.squared timing started armed present startedAt armedAt

theorem act (arrears : scene.Arrears) (accounts : scene.Accounts) (alarm : scene.Alarm)
    (reports : scene.Reports) (act : Act)
    (few : (scene.act act).journal.boundaries < wordLimit) : Arrears (scene.act act) := by
  have fits := Nat.lt_of_le_of_lt (scene.boundaries_act act) few
  cases act with
  | pass tick => exact arrears.pass alarm
  | call call => exact arrears.call accounts reports (scene.device.answer_effect scene.now call)
  | poll => exact arrears.poll accounts reports fits (scene.device.strike_struck scene.now)

/-- What is owed and was not reached by the last start was not reached by the last arming. -/
theorem unreached (arrears : scene.Arrears) (accounts : scene.Accounts) {timing : Timing}
    {started armed expiry : Tick} (waiting : scene.Waiting timing started armed expiry)
    {boundary : Nat} (owed : scene.journal.told < boundary)
    (fresh : ¬ scene.journal.Reached timing boundary started.toNat) :
    ¬ scene.journal.Reached timing boundary armed.toNat := by
  have positive := (accounts.exact timing waiting.present).1.period_pos
  rcases arrears.squared timing started armed waiting.present waiting.startedAt waiting.armedAt
    with same | told
  · rw [same]
    exact fresh
  · rw [Journal.reached_iff positive]
    omega

end Arrears

end Scene

theorem Session.Shows.arrears {template : Template} {clock : ManualClock} {session : Session}
    (opened : Session.begin template clock = .ok session) {steps : List Session.Step}
    {scene : Scene} (shown : session.Shows steps scene) (forward : scene.journal.Forward)
    (few : scene.journal.boundaries < wordLimit) : scene.Reports ∧ scene.Arrears := by
  have opening : (session.scene []).Arrears := ⟨nofun, nofun⟩
  obtain ⟨_, alarm⟩ := (session.shows_first steps).alarm opened nofun
  obtain ⟨acts, _, reached⟩ := shown
  rw [← reached] at forward few ⊢
  have known := @Scene.run_invariant
    (fun journal => journal.Forward ∧ journal.boundaries < wordLimit)
    (fun scene => scene.Accounts ∧ scene.Reports ∧ scene.Alarm ∧ scene.Arrears) ?_ ?_ _
    ⟨accounts_opening opened, reports_opening opened, alarm, opening⟩ acts ⟨forward, few⟩
  · exact ⟨known.2.1, known.2.2.2⟩
  · intro events journal allowed
    exact ⟨allowed.1.of_append, Journal.counted_of_append allowed.2⟩
  · intro scene act holds allowed
    obtain ⟨accounts, reports, alarm, arrears⟩ := holds
    exact ⟨accounts.act act allowed.1, reports.act accounts act allowed.2,
      alarm.act accounts act allowed.1, arrears.act accounts alarm reports act allowed.2⟩

end PcmPlayback
