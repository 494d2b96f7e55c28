import PcmPlayback.Proofs.Past
import PcmPlayback.Proofs.Refusal

/-!
# Observers do not interfere

Reading the position of a running device brings its playhead up to date, and so changes when the
boundaries are counted that it has passed. Nobody can tell: the next firing, stop or reading brings
every playhead to the same place with the same number of pending periods.
-/

set_option autoImplicit false

namespace PcmPlayback

/-- Whether a call only looks at a device. -/
def Call.observes : Call → Bool
  | .pointer | .status | .describe | .copyOut _ _ => true
  | .prepare _ | .start | .stop | .trigger _ | .register _ | .unregister | .free => false

namespace Playhead

theorem frame_of_unconfigured {head : Playhead} (unset : ¬ head.isConfigured = true) :
    head.frame = 0 := by
  cases present : head.progress with
  | none => simp only [frame, present]
  | some progress => simp [isConfigured, present] at unset

end Playhead

namespace Device

/-- The same device with another playhead. -/
def headed (device : Device) (head : Playhead) : Device := { device with playhead := head }

/-- A playhead that comes to the same place as that of a device. -/
structure Follows (device : Device) (head : Playhead) (now : Tick) : Prop where
  timing : head.timing? = device.playhead.timing?
  running : device.stage = .running → head.advance now = device.playhead.advance now
  resting : device.stage ≠ .running → head = device.playhead

/-- Two devices that differ at most in how far a running playhead was brought up to date. -/
structure Alike (other device : Device) : Prop where
  same : other = device.headed other.playhead
  resting : device.stage ≠ .running → other.playhead = device.playhead

namespace Alike

variable {device other third : Device}

theorem refl (device : Device) : device.Alike device := ⟨rfl, fun _ => rfl⟩

theorem stage_eq (alike : other.Alike device) : other.stage = device.stage :=
  (congrArg Device.stage alike.same).trans rfl

theorem symm (alike : other.Alike device) : device.Alike other := by
  constructor
  · rw [alike.same]
    rfl
  · intro resting
    exact (alike.resting (alike.stage_eq ▸ resting)).symm

theorem trans (first : third.Alike other) (second : other.Alike device) : third.Alike device := by
  constructor
  · have same := second.same ▸ first.same
    exact same
  · intro resting
    exact (first.resting (second.stage_eq ▸ resting)).trans (second.resting resting)

theorem resembles (alike : other.Alike device) : other.Resembles {} device := by
  rw [alike.same]
  exact ⟨rfl, rfl, rfl, (Delivery.after_nothing _).symm⟩

end Alike

section

variable {device : Device} {head : Playhead} {now : Tick}

theorem headed_alike (running : device.stage = .running) : (device.headed head).Alike device :=
  ⟨rfl, fun resting => absurd running resting⟩

theorem prepare_headed (running : device.stage = .running) (setup : StreamSetup) :
    (device.headed head).prepare setup = (device.headed head, (device.prepare setup).2) ∧
      (device.prepare setup).1 = device := by
  have profile : (device.headed head).profile = device.profile := rfl
  have runs : (device.headed head).stage = .running := running
  simp only [prepare, profile, running, runs, Stage.mayPrepare]
  split <;> exact ⟨rfl, rfl⟩

theorem stop_headed (running : device.stage = .running) (follows : device.Follows head now) :
    (device.headed head).stop now = device.stop now := by
  have runs : (device.headed head).stage = .running := running
  have moves : (device.headed head).playhead.advance now = device.playhead.advance now :=
    follows.running running
  simp only [stop, running, runs, moves, if_true]
  rfl

theorem pointer_headed (running : device.stage = .running) (follows : device.Follows head now) :
    ((device.headed head).pointer now).2 = (device.pointer now).2 ∧
      ((device.headed head).pointer now).1.Alike (device.pointer now).1 := by
  have runs : (device.headed head).stage = .running := running
  have moves : (device.headed head).playhead.advance now = device.playhead.advance now :=
    follows.running running
  have same : (device.headed head).playhead.isConfigured = device.playhead.isConfigured := by
    rw [Playhead.isConfigured_eq, Playhead.isConfigured_eq, ← follows.timing]
    rfl
  by_cases configured : device.playhead.isConfigured = true
  · simp only [pointer, running, runs, same, configured, moves, and_self, if_true]
    exact ⟨trivial, rfl, fun _ => rfl⟩
  · -- without a setup both are at the first frame
    have unset : ¬ (device.headed head).playhead.isConfigured = true :=
      fun set => configured (same ▸ set)
    rw [pointer, pointer, if_neg fun reads => unset reads.1, if_neg fun reads => configured reads.1,
      Playhead.frame_of_unconfigured unset, Playhead.frame_of_unconfigured configured]
    exact ⟨rfl, headed_alike running⟩

theorem start_headed (running : device.stage = .running) :
    (device.headed head).start now = (device.headed head, (device.start now).2) ∧
      (device.start now).1 = device := by
  have runs : (device.headed head).stage = .running := running
  simp only [start, running, runs, Stage.mayStart]
  exact ⟨rfl, rfl⟩

theorem answer_headed (follows : device.Follows head now) (call : Call)
    (spared : call = .free → device.stage ≠ .running) :
    ((device.headed head).answer now call).2 = (device.answer now call).2 ∧
      ((device.headed head).answer now call).1.Alike (device.answer now call).1 := by
  by_cases running : device.stage = .running
  · have runs : (device.headed head).stage = .running := running
    have alike : (device.headed head).Alike device := headed_alike running
    cases call with
    | prepare setup =>
        obtain ⟨refused, kept⟩ := @prepare_headed device head running setup
        simp only [answer, refused, kept]
        exact ⟨trivial, alike⟩
    | start =>
        obtain ⟨refused, kept⟩ := @start_headed device head now running
        simp only [answer, refused, kept]
        exact ⟨trivial, alike⟩
    | stop =>
        simp only [answer, stop_headed running follows]
        exact ⟨trivial, .refl _⟩
    | trigger command =>
        cases command with
        | start | resume =>
            obtain ⟨refused, kept⟩ := @start_headed device head now running
            simp only [answer, obey, refused, kept]
            exact ⟨trivial, alike⟩
        | stop | suspend =>
            simp only [answer, obey, stop_headed running follows]
            exact ⟨trivial, .refl _⟩
    | pointer =>
        obtain ⟨reads, still⟩ := pointer_headed running follows
        exact ⟨congrArg Reply.position reads, still⟩
    | status | describe | copyOut => exact ⟨rfl, alike⟩
    | register | unregister =>
        exact ⟨rfl, rfl, fun resting => absurd running resting⟩
    | free => exact absurd running (spared rfl)
  · have same : device.headed head = device := by
      rw [follows.resting running]
      rfl
    rw [same]
    exact ⟨rfl, .refl _⟩

theorem strike_headed (follows : device.Follows head now) :
    (device.headed head).strike now = device.strike now ∨
      ∃ next, next.stage = .running ∧ device.strike now = (next, .quiet) ∧
        (device.headed head).strike now = (next.headed head, .quiet) := by
  by_cases running : device.stage = .running
  · -- a firing brings both playheads to the same place, otherwise a poll does not look at them
    by_cases fires : device.isDue now = true ∧ device.active = true ∧ device.stage = .running
    · have alike : (device.headed head).isDue now = true ∧ (device.headed head).active = true ∧
          (device.headed head).stage = .running := fires
      have moves : (device.headed head).disarm.playhead.advance now =
          device.disarm.playhead.advance now := follows.running running
      have tends : (device.headed head).disarm.tend now = device.disarm.tend now := by
        simp only [tend, moves]
        rfl
      refine .inl ?_
      rw [strike, strike, if_pos fires, if_pos alike, tends]
    · have alike : ¬ ((device.headed head).isDue now = true ∧
          (device.headed head).active = true ∧ (device.headed head).stage = .running) := fires
      rw [strike, strike, if_neg fires, if_neg alike]
      refine .inr ⟨_, ?_, rfl, ?_⟩
      · split <;> exact running
      · by_cases due : device.isDue now = true
        · have late : (device.headed head).isDue now = true := due
          rw [if_pos due, if_pos late]
          rfl
        · have early : ¬ (device.headed head).isDue now = true := due
          rw [if_neg due, if_neg early]
  · have same : device.headed head = device := by
      rw [follows.resting running]
      rfl
    rw [same]
    exact .inl rfl

theorem poll_headed (follows : device.Follows head now) :
    ((device.headed head).poll now).2 = (device.poll now).2 ∧
      ((device.headed head).poll now).1.Alike (device.poll now).1 := by
  rw [poll_eq_answerAll, poll_eq_answerAll, poll_run, poll_run, aftermath, aftermath]
  rcases strike_headed follows with same | ⟨next, running, quiet, silent⟩
  · rw [same]
    exact ⟨rfl, .refl _⟩
  · rw [quiet, silent]
    exact ⟨rfl, headed_alike running⟩

theorem pointer_alike : (device.pointer now).1.Alike device := by
  rw [pointer]
  split
  · next reads => exact headed_alike reads.2
  · exact .refl device

theorem answer_observing {call : Call} (observes : call.observes = true) :
    (device.answer now call).1.Alike device ∧ device.event? now call = none := by
  cases call with
  | pointer => exact ⟨pointer_alike, ite_self _⟩
  | status | describe | copyOut => exact ⟨.refl device, ite_self _⟩
  | prepare | start | stop | trigger | register | unregister | free => cases observes

theorem event?_alike {other : Device} {call : Call} (alike : other.Alike device)
    (reply : (other.answer now call).2 = (device.answer now call).2) :
    other.event? now call = device.event? now call := by
  have profile : other.profile = device.profile := by
    rw [alike.same]
    rfl
  have eventOf : other.eventOf? now call = device.eventOf? now call := by
    cases call with
    | prepare => simp only [eventOf?, profile]
    | trigger command => cases command <;> rfl
    | start | stop | pointer | status | describe => rfl
    | copyOut | register | unregister | free => rfl
  simp only [event?, reply, eventOf]

end

end Device

/-- A journal whose clock never goes back and whose boundaries can be counted. -/
structure Journal.Tame (journal : Journal) : Prop where
  forward : journal.Forward
  few : journal.boundaries < wordLimit

theorem Journal.Tame.of_append {events journal : Journal} (tame : Tame (events ++ journal)) :
    Tame journal :=
  ⟨tame.forward.of_append, counted_of_append tame.few⟩

namespace Scene

theorem tame_of_run {scene : Scene} (acts : List Act) (tame : (scene.run acts).journal.Tame) :
    scene.journal.Tame :=
  of_run (fun _ _ => Journal.Tame.of_append) acts tame

/-- What accounts and reports say of a scene. -/
structure Audited (scene : Scene) : Prop where
  accounts : scene.Accounts
  reports : scene.Reports

namespace Audited

variable {scene : Scene}

theorem run (audited : scene.Audited) (acts : List Act)
    (tame : (scene.run acts).journal.Tame) : (scene.run acts).Audited :=
  @run_invariant Journal.Tame Audited (fun _ _ => Journal.Tame.of_append)
    (fun _ act audited tame => ⟨audited.accounts.act act tame.forward,
      audited.reports.act audited.accounts act tame.few⟩) _ audited acts tame

/-- The journal says where a running playhead comes to, and how much is pending then. -/
theorem advance_eq (audited : scene.Audited) (few : scene.journal.boundaries < wordLimit)
    (running : scene.device.stage = .running) {timing : Timing}
    (present : scene.journal.timing? = some timing) :
    scene.device.playhead.advance scene.now =
      (⟨scene.now, some (.after timing (timing.speed * scene.journal.played)
        (scene.journal.crossed - scene.journal.told))⟩, .done ()) := by
  have settled := audited.reports.settle audited.accounts few running
  have moved := audited.accounts.advance_eq running present
  have pending : (scene.device.playhead.advance scene.now).1.pending =
      scene.journal.crossed - scene.journal.told := by
    omega
  have progress := audited.accounts.progress_updated running timing present
  rw [pending, moved] at progress
  rw [moved]
  exact congrArg (fun progress => ((⟨scene.now, progress⟩ : Playhead), Outcome.done ())) progress

theorem follows (audited : scene.Audited) {other : Device} (alike : other.Alike scene.device)
    (others : Audited ⟨scene.now, other, scene.journal⟩)
    (few : scene.journal.boundaries < wordLimit) :
    scene.device.Follows other.playhead scene.now := by
  refine ⟨?_, fun running => ?_, alike.resting⟩
  · cases present : scene.journal.timing? with
    | none =>
        have unset : other.playhead.progress = none := others.accounts.unset present
        rw [Playhead.timing?, Playhead.timing?, unset, audited.accounts.unset present]
    | some timing =>
        obtain ⟨_, mine⟩ := audited.accounts.exact timing present
        obtain ⟨_, theirs⟩ := others.accounts.exact timing present
        have theirs : other.playhead.progress = _ := theirs
        rw [Playhead.timing?, Playhead.timing?, theirs, mine]
        rfl
  · have runs : other.stage = .running := alike.stage_eq.trans running
    obtain ⟨timing, present⟩ := audited.accounts.timing_of_running running
    exact (others.advance_eq few runs present).trans (audited.advance_eq few running present).symm

end Audited

end Scene

namespace Session

/-- Whether a step only looks at the device or at what was delivered. -/
def Step.observes : Step → Bool
  | .deck (.call call) => call.observes
  | .deck (.total _) => true
  | .deck .poll | .deck .join | .deck (.tryWait _) | .deck (.waitFor _ _) | .deck (.wait _) => false
  | .clock _ => false

def Step.frees : Step → Bool
  | .deck (.call .free) => true
  | _ => false

/-- Whether no step frees a device that is running. -/
def FreesAtRest (session : Session) : List Step → Prop
  | [] => True
  | step :: rest =>
      (step.frees = true → session.deck.device.stage ≠ .running) ∧
        (session.step step).1.FreesAtRest rest

def decideFreesAtRest : (session : Session) → (steps : List Step) →
    Decidable (session.FreesAtRest steps)
  | _, [] => .isTrue trivial
  | session, step :: rest =>
      have := decideFreesAtRest (session.step step).1 rest
      inferInstanceAs (Decidable (_ ∧ _))

instance (session : Session) (steps : List Step) : Decidable (session.FreesAtRest steps) :=
  decideFreesAtRest session steps

theorem freesAtRest_append {session : Session} {first second : List Step} :
    session.FreesAtRest (first ++ second) ↔
      session.FreesAtRest first ∧ (session.run first).1.FreesAtRest second := by
  induction first generalizing session with
  | nil => simp [FreesAtRest, run]
  | cons step rest ih =>
      simp only [List.cons_append, FreesAtRest, ih, and_assoc]
      rfl

/-- What the steps of a run show, without the observers among them. -/
def results (session : Session) : List Step → List Entry
  | [] => []
  | step :: rest =>
      if step.observes then (session.step step).1.results rest
      else (session.step step).2 :: (session.step step).1.results rest

/-- Two lists of steps that differ in observers alone. -/
inductive Observed : List Step → List Step → Prop where
  | none : Observed [] []
  | first {step : Step} {first second : List Step} (observes : step.observes = true)
      (rest : Observed first second) : Observed (step :: first) second
  | second {step : Step} {first second : List Step} (observes : step.observes = true)
      (rest : Observed first second) : Observed first (step :: second)
  | both (step : Step) {first second : List Step} (rest : Observed first second) :
      Observed (step :: first) (step :: second)

theorem Observed.of_filter {first second : List Step}
    (same : second.filter (!·.observes) = first.filter (!·.observes)) :
    Observed first second := by
  induction first generalizing second with
  | nil =>
      induction second with
      | nil => exact .none
      | cons step rest ih =>
          cases observes : step.observes with
          | true =>
              rw [List.filter_cons_of_neg (by simp [observes])] at same
              exact .second observes (ih same)
          | false =>
              rw [List.filter_cons_of_pos (by simp [observes])] at same
              cases same
  | cons step rest ih =>
      cases observes : step.observes with
      | true =>
          rw [List.filter_cons_of_neg (by simp [observes])] at same
          exact .first observes (ih same)
      | false =>
          rw [List.filter_cons_of_pos (by simp [observes])] at same
          induction second with
          | nil => cases same
          | cons other others inner =>
              cases looks : other.observes with
              | true =>
                  rw [List.filter_cons_of_neg (by simp [looks])] at same
                  exact .second looks (inner same)
              | false =>
                  rw [List.filter_cons_of_pos (by simp [looks])] at same
                  obtain ⟨here, later⟩ := List.cons_eq_cons.mp same
                  subst here
                  exact .both other (ih later)

section

variable {session : Session} {other : Device} {journal : Journal}

theorem step_observing {step : Step} (observes : step.observes = true) :
    (session.step step).1 = session.holding (session.step step).1.deck.device ∧
      (session.step step).1.deck.device.Alike session.deck.device ∧
      (session.scene journal).run (session.actsOf step) = (session.step step).1.scene journal := by
  cases step with
  | clock move => cases observes
  | deck step =>
      cases step with
      | call call =>
          obtain ⟨alike, silent⟩ :=
            @Device.answer_observing session.deck.device session.clock.now call observes
          refine ⟨rfl, alike, ?_⟩
          simp only [actsOf, Scene.run, Scene.act, scene, silent]
          rfl
      | total waiter =>
          simp only [step, Deck.step]
          cases session.deck.waiters[waiter]? with
          | none | some found => exact ⟨rfl, .refl _, rfl⟩
      | poll | join | tryWait | waitFor | wait => cases observes

theorem step_alike (alike : other.Alike session.deck.device)
    (follows : session.deck.device.Follows other.playhead session.clock.now) {step : Step}
    (spared : step.frees = true → session.deck.device.stage ≠ .running) :
    ∃ next, next.Alike (session.step step).1.deck.device ∧
      (session.holding other).step step =
        ((session.step step).1.holding next, (session.step step).2) := by
  apply step_holding (fun _ _ => Device.Alike.resembles) alike
  · rintro call rfl
    have answers := Device.answer_headed follows call (by rintro rfl; exact spared rfl)
    rwa [← alike.same] at answers
  · rintro rfl
    have polls := Device.poll_headed follows
    rwa [← alike.same] at polls

theorem journal_alike (alike : other.Alike session.deck.device)
    (follows : session.deck.device.Follows other.playhead session.clock.now) {step : Step}
    (spared : step.frees = true → session.deck.device.stage ≠ .running) :
    (((session.holding other).scene journal).run
        ((session.holding other).actsOf step)).journal =
      ((session.scene journal).run (session.actsOf step)).journal := by
  cases step with
  | clock move =>
      exact congrArg (fun stage => Event.passed session.clock.now _ stage :: journal) alike.stage_eq
  | deck step =>
      cases step with
      | call call =>
          have answers := Device.answer_headed follows call (by rintro rfl; exact spared rfl)
          rw [← alike.same] at answers
          exact congrArg (fun event => event.toList ++ journal)
            (Device.event?_alike alike answers.1)
      | poll =>
          have strikes := Device.strike_headed follows
          rw [← alike.same] at strikes
          have place : (session.holding other).deck.device = other := rfl
          have clock : (session.holding other).clock = session.clock := rfl
          simp only [actsOf, Scene.run, Scene.act, scene, Device.aftermath, place, clock]
          rcases strikes with same | ⟨next, _, quiet, silent⟩
          · rw [same]
          · rw [quiet, silent]
            rfl
      | join | tryWait | waitFor | wait | total => rfl

theorem run_cons (session : Session) (step : Step) (rest : List Step) :
    (session.run (step :: rest)).1 = ((session.step step).1.run rest).1 := rfl

theorem holding_holding (session : Session) (first second : Device) :
    (session.holding first).holding second = session.holding second := rfl

theorem run_observed {first second : List Step} (observed : Observed first second)
    (alike : other.Alike session.deck.device) (audited : (session.scene journal).Audited)
    (others : ((session.holding other).scene journal).Audited)
    (tame : ((session.scene journal).run (session.acts first)).journal.Tame)
    (rests : session.FreesAtRest first) :
    (∃ next, next.Alike (session.run first).1.deck.device ∧
      ((session.holding other).run second).1 = (session.run first).1.holding next) ∧
      (((session.holding other).scene journal).run
          ((session.holding other).acts second)).journal =
        ((session.scene journal).run (session.acts first)).journal ∧
      (session.holding other).results second = session.results first := by
  induction observed generalizing session other journal with
  | none => exact ⟨⟨other, alike, rfl⟩, rfl, rfl⟩
  | @first step _ _ observes rest ih =>
      -- the device of the first session is like itself before the step, and the other like both
      obtain ⟨same, still, silent⟩ := @step_observing session journal step observes
      have beside : (session.step step).1.holding other = session.holding other := by
        rw [same]
        rfl
      rw [acts, Scene.run_append, silent] at tame ⊢
      rw [results, if_pos observes]
      have audits := audited.run (session.actsOf step) (by
        rw [silent]
        exact Scene.tame_of_run _ tame)
      rw [silent] at audits
      rw [← beside] at others ⊢
      exact ih (alike.trans still.symm) audits others tame rests.2
  | @second step _ _ observes rest ih =>
      obtain ⟨same, still, silent⟩ := @step_observing (session.holding other) journal step observes
      have audits := others.run ((session.holding other).actsOf step) (by
        rw [silent]
        exact @Scene.tame_of_run (session.scene journal) _ tame)
      rw [silent, same, holding_holding] at audits
      rw [run_cons, acts, Scene.run_append, silent, results, if_pos observes, same,
        holding_holding]
      exact ih (still.trans alike) audited audits tame rests
  | @both step _ _ rest ih =>
      -- both journals are the same, so both playheads come to the same place in this step
      obtain ⟨spared, later⟩ := rests
      rw [acts, Scene.run_append] at tame
      have early := Scene.tame_of_run _ tame
      have follows := audited.follows alike others (Scene.tame_of_run _ early).few
      obtain ⟨next, relates, stepped⟩ := step_alike alike follows spared
      have happened := @journal_alike session other journal alike follows step spared
      have audits := audited.run _ early
      have theirs := others.run ((session.holding other).actsOf step) (happened ▸ early)
      obtain ⟨mine, reached⟩ := session.run_actsOf journal step
      obtain ⟨its, arrived⟩ := (session.holding other).run_actsOf journal step
      rw [reached, arrived] at happened
      have same : its = mine := happened
      subst same
      rw [reached] at audits tame
      rw [arrived, stepped] at theirs
      obtain ⟨states, happens, shown⟩ := ih relates audits theirs tame later
      rw [run_cons, run_cons, acts, acts, Scene.run_append, Scene.run_append, reached, arrived,
        stepped, results, results, stepped, shown]
      exact ⟨states, happens, rfl⟩

end

/-- What observers are told, in every scene of a run whose buffers leave room: the stage, with a
flag that is up just while the device runs; the setup of the last preparation that succeeded, beside
all that the template fixes; and as many bytes of the ring as the destination can hold. -/
theorem observers_told {template : Template} {clock : ManualClock} {session : Session}
    (opened : Session.begin template clock = .ok session) (steps : List Step)
    (roomy : (session.journal steps).Roomy) (scene : Scene) (shown : session.Shows steps scene) :
    scene.device.answer scene.now .status =
        (scene.device,
          .status scene.device.stage (decide (scene.device.stage = .running))) ∧
      scene.device.answer scene.now .describe =
        (scene.device,
          .described ⟨scene.journal.timing?.map Timing.setup,
            template.profile clock.ticksPerSecond⟩) ∧
      ∀ frame destination,
        scene.device.answer scene.now (.copyOut frame destination) =
          (scene.device,
            .copied (min destination.size scene.device.ring.size)
              (scene.device.ring.copyTo template.frameBytes frame destination).2) := by
  have orderly := (shown.consistent opened (shown.roomy roomy)).orderly
  have timing := (shown.consistent opened (shown.roomy roomy)).timing
  have profile := (shown.profiled opened).same
  have bytes : scene.device.profile.frameBytes = template.frameBytes :=
    congrArg Profile.frameBytes profile
  refine ⟨?_, ?_, fun frame destination => ?_⟩
  · have flag : scene.device.active = decide (scene.device.stage = .running) := by
      rw [Bool.eq_iff_iff, decide_eq_true_iff]
      exact orderly.flag
    rw [Device.answer, flag]
  · rw [Device.answer, Device.description, orderly.setup, timing, profile]
  · rw [Device.answer, Device.copyOut, bytes, ← Ring.copyTo_count]

/-- Observers do not interfere. Two runs whose steps differ in observers alone show the same at all
other steps, and an observer that is left in both shows the same, too. The same happens in both, and
the sessions they leave differ at most in how far a running playhead was brought up to date. The
clock must not go back, the boundaries passed must be countable, and no step may free a device that
is running, as its position would stay where it was last read. -/
theorem observers_harmless {template : Template} {clock : ManualClock} {session : Session}
    (opened : Session.begin template clock = .ok session) (first second : List Step)
    (same : second.filter (!·.observes) = first.filter (!·.observes))
    (forward : (session.journal first).Forward)
    (few : (session.journal first).boundaries < wordLimit) (rests : session.FreesAtRest first) :
    session.results second = session.results first ∧
    session.journal second = session.journal first ∧
    (∃ device, device.Alike (session.run first).1.deck.device ∧
      (session.run second).1 = (session.run first).1.holding device) ∧
    ∀ step before after others later, first = before ++ step :: after →
      second = others ++ step :: later →
      others.filter (!·.observes) = before.filter (!·.observes) →
        ((session.run others).1.step step).2 = ((session.run before).1.step step).2 := by
  have audited : (session.scene []).Audited :=
    ⟨accounts_opening opened, reports_opening opened⟩
  have alike : session.deck.device.Alike session.deck.device := .refl _
  obtain ⟨states, happened, shown⟩ :=
    run_observed (.of_filter same) alike audited audited ⟨forward, few⟩ rests
  refine ⟨shown, happened, states, ?_⟩
  rintro step before after others later rfl rfl pairs
  obtain ⟨early, spared, _⟩ := freesAtRest_append.mp rests
  have tame : (session.journal before).Tame := by
    have whole : (session.journal (before ++ step :: after)).Tame := ⟨forward, few⟩
    rw [journal, acts_append, Scene.run_append] at whole
    exact Scene.tame_of_run _ whole
  obtain ⟨⟨next, relates, ran⟩, happens, _⟩ :=
    run_observed (.of_filter pairs) alike audited audited tame early
  have reached : (session.run others).1 = (session.run before).1.holding next := ran
  have happens : session.journal others = session.journal before := happens
  have tames : (session.journal others).Tame := by
    rw [happens]
    exact tame
  have mine := audited.run (session.acts before) tame
  have theirs := audited.run (session.acts others) tames
  rw [scene_run] at mine theirs
  rw [reached, happens] at theirs
  obtain ⟨_, _, stepped⟩ := step_alike relates (mine.follows relates theirs tame.few) spared
  rw [reached, stepped]

/-- Observers at work: the position is read before and after boundaries that no firing has counted
yet, and the device is stopped late. Neither the periods told nor the last position differ from
those of a run without these readings. -/
theorem observers_harmless_late :
    ∃ (session : Session) (before others : List Step),
      Session.begin {} ⟨1000, 7⟩ = .ok session ∧ before.length + 6 = others.length ∧
        session.results (others ++ [.deck (.call .pointer)]) =
          session.results (before ++ [.deck (.call .pointer)]) ∧
        ((session.run others).1.step (.deck (.call .pointer))).2 =
          .deck (.answered (.position (.done 770))) ⟨.stopped, false, 3, [], []⟩ := by
  let session : Session := ⟨⟨1000, 7⟩, ⟨({} : Template).idleDevice 1000 none, []⟩⟩
  let look : Step := .deck (.call .pointer)
  let before : List Step :=
    [.deck .join, .deck (.call (.prepare ⟨11025, 3000, 700⟩)), .deck (.call .start),
      .clock (.forward 40), .clock (.forward 100), .clock (.forward 60), .deck .poll,
      .deck (.tryWait 0), .clock (.forward 142), .deck (.call .stop)]
  let others : List Step :=
    [.deck .join, look, .deck (.call (.prepare ⟨11025, 3000, 700⟩)), .deck (.call .start),
      .clock (.forward 40), look, .clock (.forward 100), look, .deck (.call .status),
      .clock (.forward 60), .deck .poll, .deck (.tryWait 0), .clock (.forward 142), look,
      .deck (.total 0), .deck (.call .stop)]
  have opened : Session.begin {} ⟨1000, 7⟩ = .ok session := rfl
  have pairs : others.filter (!·.observes) = before.filter (!·.observes) := rfl
  have same : (others ++ [look]).filter (!·.observes) =
      (before ++ [look]).filter (!·.observes) := rfl
  have forward : (session.journal (before ++ [look])).Forward := by decide +kernel
  have few : (session.journal (before ++ [look])).boundaries < wordLimit := by decide +kernel
  have rests : session.FreesAtRest (before ++ [look]) := by decide +kernel
  have last : ((session.run before).1.step look).2 =
      .deck (.answered (.position (.done 770))) ⟨.stopped, false, 3, [], []⟩ := by
    decide +kernel
  obtain ⟨results, _, _, entries⟩ :=
    observers_harmless opened (before ++ [look]) (others ++ [look]) same forward few rests
  have read := entries look before [] others [] rfl rfl pairs
  exact ⟨session, before, others, opened, rfl, results, read.trans last⟩

end Session

end PcmPlayback
