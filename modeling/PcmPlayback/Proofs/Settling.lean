import PcmPlayback.Proofs.Alarm

/-!
# Settling

A timer that was woken handles an expiry that has been reached and then looks at the clock again,
until it finds none and goes to sleep. One turn is always enough, since nothing that happens in it
leaves an alarm behind that is already due, and the sleep that follows is at most a period long.
-/

set_option autoImplicit false

namespace PcmPlayback

namespace Timing

variable {timing : Timing}

theorem ticksFor_mono (sound : timing.Sound) {short long : Nat} (ordered : short ≤ long) :
    timing.ticksFor short ≤ timing.ticksFor long := by
  have covered := le_divUp_mul long sound.speed_pos
  have fewer : divUp short timing.speed ≤ divUp long timing.speed :=
    (divUp_le_iff sound.speed_pos).mpr (Nat.le_trans ordered covered)
  unfold ticksFor
  omega

theorem periodTicks_eq_min (sound : timing.Sound) :
    timing.periodTicks = min (divUp timing.periodSpan timing.speed) (wordLimit - 1) := by
  have positive := divUp_pos sound sound.period_pos
  rw [periodTicks, ticksFor, Nat.max_eq_right positive]

end Timing

namespace Device

/-- The loop of a timer while its clock stands, with what came of each turn. -/
inductive Loops (now : Tick) : Device → List (Option CallbackRun) → Device → Prop where
  | sleep (device : Device) (early : device.isDue now = false) : Loops now device [] device
  | turn {device last : Device} {runs : List (Option CallbackRun)}
      (due : device.isDue now = true) (rest : Loops now (device.expire now).1 runs last) :
      Loops now device ((device.expire now).2 :: runs) last

variable {device : Device} {now : Tick}

theorem Ahead.isDue_eq (ahead : device.Ahead now) : device.isDue now = false := by
  rw [← Bool.not_eq_true, isDue_iff]
  rintro ⟨expiry, found, reached⟩
  exact Nat.not_lt_of_le (UInt64.le_iff_toNat_le.mp reached) (ahead expiry found)

theorem Equipped.ahead_expire (equipped : device.Equipped) (due : device.isDue now = true) :
    (device.expire now).1.Ahead now := by
  have ahead := equipped.ahead_poll now
  rwa [poll, if_pos due] at ahead

/-- The loop ends, and in one way only: a poll is all of it. -/
theorem Equipped.loops_iff (equipped : device.Equipped) {runs : List (Option CallbackRun)}
    {last : Device} :
    device.Loops now runs last ↔
      runs = (if device.isDue now then [(device.poll now).2] else []) ∧
        last = (device.poll now).1 := by
  constructor
  · intro loops
    cases loops with
    | sleep _ early => simp [poll, early]
    | turn due rest =>
        cases rest with
        | sleep _ early => simp [poll, due]
        | turn again _ =>
            rw [(equipped.ahead_expire due).isDue_eq] at again
            cases again
  · rintro ⟨rfl, rfl⟩
    by_cases due : device.isDue now = true
    · rw [poll, if_pos due, if_pos due]
      exact .turn due (.sleep _ (equipped.ahead_expire due).isDue_eq)
    · rw [poll, if_neg due, if_neg due]
      exact .sleep _ (by simpa using due)

/-- An orderly device does its part whenever its expiry has been reached. -/
theorem Orderly.strike_ne_quiet_iff (orderly : device.Orderly) :
    (device.strike now).2 ≠ .quiet ↔
      ∃ expiry, device.expiry = some expiry ∧ expiry ≤ now := by
  rw [← isDue_iff]
  constructor
  · intro fires
    apply Classical.byContradiction
    intro early
    rw [strike, if_neg fun strikes => early strikes.1] at fires
    exact fires rfl
  · intro due quiet
    obtain ⟨expiry, armed, _⟩ := isDue_iff.mp due
    have running := orderly.armed (by simp [armed])
    have struck := device.strike_struck now
    rw [quiet] at struck
    generalize (device.strike now).1 = next at struck
    cases struck with
    | early early => simp [due] at early
    | asleep _ asleep => exact asleep ⟨orderly.flag.mpr running, running⟩

end Device

/-- A wait that a step reports is that of the timer it leaves armed, for a later tick. -/
theorem Deck.wait?_of_mem_waits {deck : Deck} (equipped : deck.device.Equipped) {now : Tick}
    {step : Step} {wait : Nat} (member : wait ∈ (deck.step now step).2.2.waits) :
    (deck.step now step).1.device.Ahead now ∧
      (deck.step now step).1.device.wait? now = some wait := by
  have still := @Deck.step_of_waiter deck now step
  cases step with
  | call call =>
      simp only [Deck.step, Deck.call, Deck.view] at member ⊢
      split at member
      · next disarmed =>
          have ahead : deck.device.Ahead now := by
            simp [Device.Ahead, Option.isNone_iff_eq_none.mp disarmed]
          exact ⟨ahead.effect equipped (deck.device.answer_effect now call),
            Option.mem_toList.mp member⟩
      · cases member
  | poll => exact ⟨equipped.ahead_poll now, Option.mem_toList.mp member⟩
  | join | tryWait | waitFor | wait | total =>
      rw [(still (by simp) (by simp)).2] at member
      cases member

namespace Scene

variable {scene : Scene}

/-- An armed timer never waits for longer than a period. -/
theorem Waiting.wait_le {timing : Timing} {started armed expiry : Tick}
    (waiting : scene.Waiting timing started armed expiry) (accounts : scene.Accounts)
    (alarm : scene.Alarm) : expiry.toNat ≤ scene.now.toNat + timing.periodTicks := by
  obtain ⟨sound, _⟩ := accounts.exact timing waiting.present
  obtain ⟨_, past⟩ := waiting.ordered alarm
  cases schedule : scene.device.profile.schedule with
  | boundary =>
      have placed := waiting.boundary alarm schedule
      have short : scene.journal.delayAt timing armed.toNat ≤ timing.periodTicks :=
        Timing.ticksFor_mono sound (Nat.sub_le _ _)
      omega
  | grid =>
      obtain ⟨_, _, _, near⟩ := waiting.grid alarm schedule
      omega

end Scene

namespace Session

variable {template : Template} {clock : ManualClock} {session : Session}

/-- The timer settles, in every run whose clock does not go back. In each of its scenes the loop of
the timer ends after at most one turn, the one that a poll stands for, and that turn leaves no alarm
behind that is due, whatever the callback did. The turn is taken just if the timer is armed and its
expiry has been reached. The waits that steps report are at least a tick and at most a period. -/
theorem timer_settles (opened : Session.begin template clock = .ok session) (steps : List Step)
    (forward : (session.journal steps).Forward) :
    (∀ scene, session.Shows steps scene →
      (∀ runs last, scene.device.Loops scene.now runs last ↔
        runs = (if scene.device.isDue scene.now then [(scene.device.poll scene.now).2] else []) ∧
          last = (scene.device.poll scene.now).1) ∧
      (scene.device.isDue scene.now = true →
        (scene.device.expire scene.now).1.Ahead scene.now) ∧
      ((scene.device.strike scene.now).2 ≠ .quiet ↔
        ∃ expiry, scene.device.expiry = some expiry ∧ expiry ≤ scene.now)) ∧
    ∀ before step after, steps = before ++ step :: after → ∀ reply view,
      ((session.run before).1.step step).2 = .deck reply view → ∀ wait ∈ view.waits,
        ∃ timing,
          (session.run (before ++ [step])).1.deck.device.playhead.timing? = some timing ∧
            1 ≤ wait ∧ wait ≤ min (divUp timing.periodSpan timing.speed) (wordLimit - 1) := by
  constructor
  · intro scene shown
    have orderly := (shown.accounts opened (shown.forward forward)).orderly
    have equipped := orderly.toEquipped
    exact ⟨fun _ _ => equipped.loops_iff, equipped.ahead_expire, orderly.strike_ne_quiet_iff⟩
  · intro before step after split reply view shown wait member
    obtain ⟨earlier, later⟩ := session.shows_step split
    obtain ⟨accounts, alarm⟩ := later.alarm opened (later.forward forward)
    have stepped : (session.run (before ++ [step])).1 = ((session.run before).1.step step).1 :=
      session.run_append before [step]
    cases step with
    | clock move => cases shown
    | deck step =>
        rw [stepped] at accounts alarm ⊢
        cases shown
        obtain ⟨ahead, sleeps⟩ := Deck.wait?_of_mem_waits (earlier.equipped opened) member
        obtain ⟨expiry, armed, rfl⟩ := Option.map_eq_some_iff.mp sleeps
        obtain ⟨timing, _, _, waiting⟩ := Scene.Waiting.of_expiry accounts alarm armed
        obtain ⟨sound, progress⟩ := accounts.exact timing waiting.present
        have first := ahead expiry armed
        have near := waiting.wait_le accounts alarm
        rw [Timing.periodTicks_eq_min sound] at near
        refine ⟨timing, congrArg (Option.map Progress.timing) progress, ?_, ?_⟩
        · omega
        · exact Nat.sub_le_of_le_add (Nat.add_comm _ _ ▸ near)

/-- The timer at work: a device is polled more than ten periods late, and its callback stops it and
starts it again in the middle of a period. The loop takes one turn, and then the timer sleeps for
the rest of that period. -/
theorem timer_settles_restarted :
    ∃ (session : Session) (before : List Step) (scene : Scene) (view : Deck.View),
      Session.begin {} ⟨1000, 7⟩ = .ok session ∧
        session.Shows (before ++ [.deck .poll]) scene ∧
        (scene.device.strike scene.now).2 ≠ .quiet ∧
        scene.device.Loops scene.now
          [some ⟨"restart", 11, [.ended (.done ()), .ended (.done ())]⟩]
          (scene.device.poll scene.now).1 ∧
        ((session.run before).1.step (.deck .poll)).2 = .deck .polled view ∧
        view.waits = [15] ∧
        ∃ timing : Timing, timing.setup.periodFrames = 700 ∧
          15 ≤ min (divUp timing.periodSpan timing.speed) (wordLimit - 1) := by
  let session : Session := ⟨⟨1000, 7⟩, ⟨({} : Template).idleDevice 1000 none, []⟩⟩
  let before : List Step :=
    [.deck (.call (.prepare ⟨11025, 3000, 700⟩)),
      .deck (.call (.register ⟨"restart", [.stop, .start], false⟩)), .deck (.call .start),
      .clock (.forward 747)]
  let late := (session.run before).1.scene (session.journal before)
  let view : Deck.View :=
    ⟨.running, true, 11, [⟨"restart", 11, [.ended (.done ()), .ended (.done ())]⟩], [15]⟩
  let steps : List Step := before ++ [.deck .poll]
  have opened : Session.begin {} ⟨1000, 7⟩ = .ok session := rfl
  have forward : (session.journal steps).Forward := by decide +kernel
  have shown : session.Shows steps late :=
    (session.shows_last before).extend [.deck .poll]
  have due : late.device.isDue late.now = true := by decide +kernel
  have ran : (late.device.poll late.now).2 =
      some ⟨"restart", 11, [.ended (.done ()), .ended (.done ())]⟩ := by decide +kernel
  have polled : ((session.run before).1.step (.deck .poll)).2 = .deck .polled view := by
    decide +kernel
  have setup : (session.run steps).1.deck.device.playhead.timing?.map
      (·.setup.periodFrames) = some 700 := by decide +kernel
  obtain ⟨scenes, sleeps⟩ := timer_settles opened steps forward
  obtain ⟨loops, _, fires⟩ := scenes late shown
  obtain ⟨timing, present, _, bounded⟩ :=
    sleeps before (.deck .poll) [] rfl .polled view polled 15 (List.mem_singleton.mpr rfl)
  rw [present] at setup
  have turn := (loops [(late.device.poll late.now).2] (late.device.poll late.now).1).mpr
    ⟨(if_pos due).symm, rfl⟩
  rw [ran] at turn
  exact ⟨session, before, late, view, opened, shown, fires.mpr (Device.isDue_iff.mp due), turn,
    polled, rfl, timing, Option.some.inj setup, bounded⟩

end Session

end PcmPlayback
