import PcmPlayback.Session
import PcmPlayback.Proofs.Effects

/-!
# Scenes

A scene is a device at a reading of its clock, with the journal of what happened to it so far. It
changes by single acts: the clock moves, the device is called, or its timer is polled and does the
device's own part. The steps of a session unfold into such acts, the polls among them into the
device's own part and the calls of the callback, so the scenes of a run show the device between
its steps and also in the middle of a callback.
-/

set_option autoImplicit false

namespace PcmPlayback

/-- A device, the reading of its clock, and what happened to it so far. -/
structure Scene where
  now : Tick
  device : Device
  journal : Journal

/-- What can happen to a scene. A call may come from a client or from a callback. -/
inductive Act where
  | pass (tick : Tick)
  | call (call : Call)
  | poll

namespace Scene

def act (scene : Scene) : Act → Scene
  | .pass tick =>
      { scene with
        now := tick
        journal := .passed scene.now tick scene.device.stage :: scene.journal }
  | .call call =>
      { scene with
        device := (scene.device.answer scene.now call).1
        journal := (scene.device.event? scene.now call).toList ++ scene.journal }
  | .poll =>
      { scene with
        device := (scene.device.strike scene.now).1
        journal := (scene.device.strike scene.now).2.events scene.now ++ scene.journal }

def run (scene : Scene) : List Act → Scene
  | [] => scene
  | act :: rest => (scene.act act).run rest

theorem run_append (scene : Scene) (first second : List Act) :
    scene.run (first ++ second) = (scene.run first).run second := by
  induction first generalizing scene with
  | nil => rfl
  | cons act rest ih => exact ih (scene.act act)

theorem journal_act (scene : Scene) (act : Act) :
    ∃ events, (scene.act act).journal = events ++ scene.journal := by
  cases act with
  | pass tick => exact ⟨[.passed scene.now tick scene.device.stage], rfl⟩
  | call call => exact ⟨_, rfl⟩
  | poll => exact ⟨_, rfl⟩

theorem boundaries_act (scene : Scene) (act : Act) :
    scene.journal.boundaries ≤ (scene.act act).journal.boundaries := by
  obtain ⟨events, grown⟩ := scene.journal_act act
  rw [grown]
  exact Journal.boundaries_append_le events scene.journal

theorem journal_run (scene : Scene) (acts : List Act) :
    ∃ events, (scene.run acts).journal = events ++ scene.journal := by
  induction acts generalizing scene with
  | nil => exact ⟨[], rfl⟩
  | cons act rest ih =>
      obtain ⟨first, acted⟩ := scene.journal_act act
      obtain ⟨later, ran⟩ := ih (scene.act act)
      exact ⟨later ++ first, by rw [run, ran, acted, List.append_assoc]⟩

/-- What one act preserves a run preserves. The acts may rely on a condition on the journal they
lead to, which must not be spoiled by looking at an earlier journal. -/
theorem run_invariant {Allowed : Journal → Prop} {Invariant : Scene → Prop}
    (closed : ∀ events journal, Allowed (events ++ journal) → Allowed journal)
    (preserved : ∀ scene act, Invariant scene → Allowed (scene.act act).journal →
      Invariant (scene.act act))
    {scene : Scene} (initial : Invariant scene) (acts : List Act)
    (allowed : Allowed (scene.run acts).journal) : Invariant (scene.run acts) := by
  induction acts generalizing scene with
  | nil => exact initial
  | cons act rest ih =>
      obtain ⟨events, ran⟩ := (scene.act act).journal_run rest
      have now : Allowed (scene.act act).journal := closed events _ (ran ▸ allowed)
      exact ih (preserved scene act initial now) allowed

/-- What may be said of a journal after a run, and is not spoiled by looking at an earlier one, may
be said of the journal before. -/
theorem of_run {Allowed : Journal → Prop}
    (closed : ∀ events journal, Allowed (events ++ journal) → Allowed journal) {scene : Scene}
    (acts : List Act) (allowed : Allowed (scene.run acts).journal) : Allowed scene.journal := by
  obtain ⟨events, grown⟩ := scene.journal_run acts
  rw [grown] at allowed
  exact closed events scene.journal allowed

/-- The same scene with a new journal. -/
def afresh (scene : Scene) : Scene := { scene with journal := [] }

theorem run_journal_append (scene : Scene) (journal : Journal) (acts : List Act) :
    { scene with journal := scene.journal ++ journal }.run acts =
      { scene.run acts with journal := (scene.run acts).journal ++ journal } := by
  induction acts generalizing scene with
  | nil => rfl
  | cons act rest ih =>
      rw [run, run, ← ih (scene.act act)]
      cases act with
      | pass tick => rfl
      | call call | poll => simp only [Scene.act, List.append_assoc]

/-- What happens does not depend on what happened before. -/
theorem run_eq_afresh (scene : Scene) (acts : List Act) :
    scene.run acts =
      { scene.afresh.run acts with
        journal := (scene.afresh.run acts).journal ++ scene.journal } :=
  run_journal_append scene.afresh scene.journal acts

theorem device_run_calls (scene : Scene) (calls : List Call) :
    (scene.run (calls.map .call)).device = (scene.device.answerAll scene.now calls).1 ∧
      (scene.run (calls.map .call)).now = scene.now := by
  induction calls generalizing scene with
  | nil => exact ⟨rfl, rfl⟩
  | cons call rest ih => exact ih (scene.act (.call call))

end Scene

namespace Deck

theorem device_wake {deck next : Deck} {waiter : Nat} {arrived : Bool}
    (woke : deck.wake waiter = some (arrived, next)) : next.device = deck.device := by
  rw [wake, Option.map_eq_some_iff] at woke
  obtain ⟨found, _, same⟩ := woke
  cases same
  rfl

/-- A step that is neither a call nor a poll belongs to a waiter. It leaves the device alone and
shows it as it is. -/
theorem step_of_waiter (deck : Deck) (now : Tick) {step : Step}
    (uncalled : ∀ call, step ≠ .call call) (unpolled : step ≠ .poll) :
    (deck.step now step).1.device = deck.device ∧
      (deck.step now step).2.2 = deck.view [] [] := by
  have shown {next : Deck} (same : next.device = deck.device) :
      next.device = deck.device ∧ next.view [] [] = deck.view [] [] :=
    ⟨same, by simp only [view, same]⟩
  cases step with
  | call call => exact absurd rfl (uncalled call)
  | poll => exact absurd rfl unpolled
  | join => exact ⟨rfl, rfl⟩
  | tryWait waiter | waitFor waiter milliseconds =>
      simp only [Deck.step, waitFor_eq_wake]
      cases woke : deck.wake waiter with
      | none => exact ⟨rfl, rfl⟩
      | some result => exact shown (device_wake woke)
  | wait waiter =>
      simp only [Deck.step]
      cases woke : deck.wake waiter with
      | none => exact ⟨rfl, rfl⟩
      | some result =>
          obtain ⟨arrived, next⟩ := result
          cases arrived <;> exact shown (device_wake woke)
  | total waiter =>
      simp only [Deck.step]
      cases deck.waiters[waiter]? <;> exact ⟨rfl, rfl⟩

end Deck

namespace Session

/-- The same session with another device on its deck. -/
def holding (session : Session) (device : Device) : Session :=
  { session with deck := { session.deck with device := device } }

/-- The scene of a session, with a journal of what happened before. -/
def scene (session : Session) (journal : Journal) : Scene :=
  ⟨session.clock.now, session.deck.device, journal⟩

/-- The acts of a step. What waiters do leaves the device alone. -/
def actsOf (session : Session) : Step → List Act
  | .clock move => [.pass (session.clock.move move).now]
  | .deck (.call call) => [.call call]
  | .deck .poll =>
      .poll :: (session.deck.device.aftermath session.clock.now).map .call
  | .deck .join | .deck (.tryWait _) | .deck (.waitFor _ _) | .deck (.wait _)
  | .deck (.total _) => []

def acts (session : Session) : List Step → List Act
  | [] => []
  | step :: rest => session.actsOf step ++ (session.step step).1.acts rest

/-- What happens in a run. -/
def journal (session : Session) (steps : List Step) : Journal :=
  ((session.scene []).run (session.acts steps)).journal

/-- A scene of a run: after one of its steps, or after some of the calls of a callback. -/
def Shows (session : Session) (steps : List Step) (scene : Scene) : Prop :=
  ∃ acts, acts <+: session.acts steps ∧ (session.scene []).run acts = scene

theorem scene_eq {session : Session} {scene : Scene}
    (device : scene.device = session.deck.device) (now : scene.now = session.clock.now) :
    scene = session.scene scene.journal := by
  cases scene
  cases device
  cases now
  rfl

/-- The acts of a step do to the device and its clock what the step does. -/
theorem run_actsOf (session : Session) (journal : Journal) (step : Step) :
    ∃ later, (session.scene journal).run (session.actsOf step) =
      (session.step step).1.scene later := by
  cases step with
  | clock move => exact ⟨_, rfl⟩
  | deck step =>
      have still := @Deck.step_of_waiter session.deck session.clock.now step
      cases step with
      | call call => exact ⟨_, rfl⟩
      | poll =>
          obtain ⟨device, now⟩ := ((session.scene journal).act .poll).device_run_calls
            (session.deck.device.aftermath session.clock.now)
          refine ⟨_, scene_eq (device.trans ?_) now⟩
          exact (session.deck.device.poll_eq_answerAll session.clock.now).symm
      | join | tryWait | waitFor | wait | total =>
          exact ⟨journal, scene_eq (still (by simp) (by simp)).1.symm rfl⟩

theorem run_acts (session : Session) (journal : Journal) (steps : List Step) :
    ∃ later, (session.scene journal).run (session.acts steps) =
      (session.run steps).1.scene later := by
  induction steps generalizing session journal with
  | nil => exact ⟨journal, rfl⟩
  | cons step rest ih =>
      obtain ⟨between, stepped⟩ := session.run_actsOf journal step
      obtain ⟨later, ran⟩ := ih (session.step step).1 between
      exact ⟨later, by rw [acts, Scene.run_append, stepped, ran]; rfl⟩

theorem scene_run (session : Session) (steps : List Step) :
    (session.scene []).run (session.acts steps) =
      (session.run steps).1.scene (session.journal steps) := by
  obtain ⟨later, ran⟩ := session.run_acts [] steps
  rw [journal, ran]
  rfl

theorem shows_first (session : Session) (steps : List Step) :
    session.Shows steps (session.scene []) :=
  ⟨[], List.nil_prefix, rfl⟩

theorem shows_last (session : Session) (steps : List Step) :
    session.Shows steps ((session.run steps).1.scene (session.journal steps)) :=
  ⟨session.acts steps, List.prefix_refl _, session.scene_run steps⟩

theorem Shows.journal_append {session : Session} {steps : List Step} {scene : Scene}
    (shown : session.Shows steps scene) :
    ∃ events, session.journal steps = events ++ scene.journal := by
  obtain ⟨acts, ⟨rest, whole⟩, reached⟩ := shown
  obtain ⟨events, ran⟩ := scene.journal_run rest
  refine ⟨events, ?_⟩
  rw [journal, ← whole, Scene.run_append, reached, ran]

theorem Shows.forward {session : Session} {steps : List Step} {scene : Scene}
    (shown : session.Shows steps scene) (forward : (session.journal steps).Forward) :
    scene.journal.Forward := by
  obtain ⟨events, whole⟩ := shown.journal_append
  rw [whole] at forward
  exact forward.of_append

theorem Shows.counted {session : Session} {steps : List Step} {scene : Scene}
    (shown : session.Shows steps scene) (few : (session.journal steps).boundaries < wordLimit) :
    scene.journal.boundaries < wordLimit := by
  obtain ⟨events, whole⟩ := shown.journal_append
  rw [whole] at few
  exact Journal.counted_of_append few

theorem run_append (session : Session) (first second : List Step) :
    (session.run (first ++ second)).1 = ((session.run first).1.run second).1 := by
  induction first generalizing session with
  | nil => rfl
  | cons step rest ih => exact ih (session.step step).1

/-- Every entry of a run is that of one of its steps. -/
theorem mem_run {session : Session} {steps : List Step} {entry : Entry}
    (member : entry ∈ (session.run steps).2) :
    ∃ before step after, steps = before ++ step :: after ∧
      entry = ((session.run before).1.step step).2 := by
  induction steps generalizing session with
  | nil => cases member
  | cons step rest ih =>
      rcases List.mem_cons.mp member with here | later
      · exact ⟨[], step, rest, rfl, here⟩
      · obtain ⟨before, found, after, split, same⟩ := ih later
        exact ⟨step :: before, found, after, congrArg (step :: ·) split, same⟩

theorem acts_append (session : Session) (first second : List Step) :
    session.acts (first ++ second) =
      session.acts first ++ (session.run first).1.acts second := by
  induction first generalizing session with
  | nil => rfl
  | cons step rest ih =>
      simp only [List.cons_append, acts, List.append_assoc, ih]
      rfl

theorem journal_append (session : Session) (first second : List Step) :
    session.journal (first ++ second) =
      (session.run first).1.journal second ++ session.journal first := by
  rw [journal, acts_append, Scene.run_append, scene_run, Scene.run_eq_afresh]
  rfl

theorem Shows.extend {session : Session} {first : List Step} {scene : Scene}
    (shown : session.Shows first scene) (second : List Step) :
    session.Shows (first ++ second) scene := by
  obtain ⟨acts, ⟨rest, whole⟩, reached⟩ := shown
  refine ⟨acts, ⟨rest ++ (session.run first).1.acts second, ?_⟩, reached⟩
  rw [acts_append, ← whole, List.append_assoc]

theorem shows_step (session : Session) {steps before after : List Step} {step : Step}
    (split : steps = before ++ step :: after) :
    session.Shows steps ((session.run before).1.scene (session.journal before)) ∧
      session.Shows steps
        ((session.run (before ++ [step])).1.scene (session.journal (before ++ [step]))) := by
  have earlier := (session.shows_last before).extend (step :: after)
  have later := (session.shows_last (before ++ [step])).extend after
  rw [List.append_assoc, List.cons_append, List.nil_append, ← split] at later
  rw [← split] at earlier
  exact ⟨earlier, later⟩

end Session

end PcmPlayback
