import PcmPlayback.Proofs.Content
import PcmPlayback.Proofs.Residue

/-!
# Preparation forgets

A session whose device is prepared successfully behaves from there on as a new one with the same
callback, prepared in the same way at the same tick. All that tells them apart is what was counted
before: the periods told, and the numbers of waiters. The counts have to fit into their words, past
and present together.
-/

set_option autoImplicit false

namespace PcmPlayback

namespace Journal

theorem toldEver_append_le (events journal : Journal) :
    journal.toldEver ≤ toldEver (events ++ journal) := by
  induction events with
  | nil => exact Nat.le_refl _
  | cons event events ih =>
      cases event with
      | told periods => exact Nat.le_trans ih (Nat.le_add_right _ _)
      | passed | prepared | started | fired | faulted => exact ih

theorem toldEver_of_append {events journal : Journal}
    (few : toldEver (events ++ journal) < wordLimit) : journal.toldEver < wordLimit :=
  Nat.lt_of_le_of_lt (toldEver_append_le events journal) few

end Journal

namespace Scene

theorem toldEver_of_run {scene : Scene} (acts : List Act)
    (few : (scene.run acts).journal.toldEver < wordLimit) :
    scene.journal.toldEver < wordLimit :=
  @of_run (fun journal => journal.toldEver < wordLimit)
    (fun _ _ => Journal.toldEver_of_append) _ acts few

/-- The counters of a device hold what its journal says was ever told. -/
structure Tallied (scene : Scene) : Prop where
  total : scene.device.delivery.periods = scene.journal.toldEver
  edges : scene.device.delivery.edges ≤ scene.journal.toldEver

namespace Tallied

variable {scene : Scene}

theorem call (tallied : scene.Tallied) {next : Device} {event : Option Event}
    (effect : scene.device.Effect scene.now next event) :
    Tallied ⟨scene.now, next, event.toList ++ scene.journal⟩ := by
  have same : Journal.toldEver (event.toList ++ scene.journal) = scene.journal.toldEver := by
    cases effect <;> rfl
  have delivered := effect.delivery_eq
  constructor
  · rw [delivered, same]
    exact tallied.total
  · rw [delivered, same]
    exact tallied.edges

theorem raise_eq (tallied : scene.Tallied) {periods : Nat} (some : 0 < periods)
    (few : scene.journal.toldEver + periods < wordLimit) :
    scene.device.delivery.raise periods =
      (⟨scene.device.delivery.edges + 1, scene.device.delivery.periods + periods⟩, .done ()) := by
  obtain ⟨total, edges⟩ := tallied
  exact Delivery.raise_eq (by omega) (by omega)

theorem poll (tallied : scene.Tallied) {next : Device} {strike : Device.Strike}
    (struck : scene.device.Struck scene.now next strike)
    (few : Journal.toldEver (strike.events scene.now ++ scene.journal) < wordLimit) :
    Tallied ⟨scene.now, next, strike.events scene.now ++ scene.journal⟩ ∧
      ∀ periods counted, strike = .told periods counted → counted = true := by
  cases struck with
  | early | asleep | faulted | fired => exact ⟨⟨tallied.total, tallied.edges⟩, nofun⟩
  | told due running moved tick gridTick ring source next grid some fed =>
      have raised := tallied.raise_eq some few
      obtain ⟨total, edges⟩ := tallied
      refine ⟨⟨?_, ?_⟩, ?_⟩
      · simp only [Device.counted, Device.drained, raised]
        exact congrArg (· + _) total
      · simp only [Device.counted, Device.drained, raised]
        exact Nat.add_le_add edges some
      · intro periods counted same
        cases same
        rw [raised]
        rfl

theorem act (tallied : scene.Tallied) (act : Act)
    (few : (scene.act act).journal.toldEver < wordLimit) : (scene.act act).Tallied := by
  cases act with
  | pass tick => exact ⟨tallied.total, tallied.edges⟩
  | call call => exact tallied.call (scene.device.answer_effect scene.now call)
  | poll => exact (tallied.poll (scene.device.strike_struck scene.now) few).1

theorem run (tallied : scene.Tallied) (acts : List Act)
    (few : (scene.run acts).journal.toldEver < wordLimit) : (scene.run acts).Tallied :=
  @run_invariant (fun journal => journal.toldEver < wordLimit) _
    (fun _ _ => Journal.toldEver_of_append) (fun _ act tallied few => tallied.act act few) _
    tallied acts few

end Tallied

/-- On the boundary schedule no grid is ever laid. -/
def Gridless (scene : Scene) : Prop :=
  scene.device.profile.schedule = .boundary → scene.device.gridTick = 0

theorem Gridless.act {scene : Scene} (gridless : scene.Gridless) (act : Act) :
    (scene.act act).Gridless := by
  intro boundary
  cases act with
  | pass tick => exact gridless boundary
  | call call =>
      have profile := (scene.device.answer_effect scene.now call).profile_eq
      have before : scene.device.profile.schedule = .boundary := profile ▸ boundary
      exact (Device.gridTick_answer before call).trans (gridless before)
  | poll =>
      have profile := (scene.device.strike_struck scene.now).profile_eq
      have before : scene.device.profile.schedule = .boundary := profile ▸ boundary
      exact (Device.gridTick_strike before).trans (gridless before)

end Scene

/-- The call that puts a callback in place, or clears the place. -/
def Call.placing : Option Callback → Call
  | some routine => .register routine
  | none => .unregister

/-- What a deck has gone through. -/
def Deck.past (deck : Deck) : Past where
  edges := deck.device.delivery.edges
  periods := deck.device.delivery.periods
  waiters := deck.waiters.length

namespace Session

section

variable {template : Template} {clock : ManualClock} {session : Session}

theorem Shows.gridless (opened : Session.begin template clock = .ok session) {steps : List Step}
    {scene : Scene} (shown : session.Shows steps scene) : scene.Gridless := by
  obtain ⟨source, _, _, idle⟩ := begin_eq_ok opened
  have initial : (session.scene []).Gridless := by
    intro _
    exact congrArg Device.gridTick idle
  obtain ⟨acts, _, reached⟩ := shown
  rw [← reached]
  exact @Scene.run_invariant (fun _ => True) _ (fun _ _ _ => trivial)
    (fun _ act gridless _ => gridless.act act) _ initial acts trivial

theorem tallied_opening (opened : Session.begin template clock = .ok session) :
    (session.scene []).Tallied := by
  obtain ⟨source, _, _, idle⟩ := begin_eq_ok opened
  have fresh : (session.scene []).device.delivery = {} := congrArg Device.delivery idle
  constructor
  · rw [fresh]
    rfl
  · rw [fresh]
    exact Nat.le_refl 0

end

/-- Two sessions that are told apart by a past stay so at every step, as long as what was ever told
can be counted. -/
theorem run_after {session : Session} {past : Past} {elders : List Waiter} {older : Device}
    {journal : Journal} (numbered : elders.length = past.waiters)
    (renewed : older.Renewed past session.deck.device)
    (tallied : ((session.after past elders older).scene journal).Tallied) (steps : List Step)
    (few : (((session.after past elders older).scene journal).run
      ((session.after past elders older).acts (steps.map (Step.after past)))).journal.toldEver <
        wordLimit) :
    ((session.after past elders older).run (steps.map (Step.after past))).2 =
      (session.run steps).2.map (Entry.after past) := by
  induction steps generalizing session older journal with
  | nil => rfl
  | cons step rest ih =>
      rw [List.map_cons, acts, Scene.run_append] at few
      have now : (((session.after past elders older).scene journal).run
          ((session.after past elders older).actsOf (step.after past))).journal.toldEver <
            wordLimit := Scene.toldEver_of_run _ few
      have tallies := tallied.run _ now
      have polls (polls : step = .deck .poll) :
          (older.poll session.clock.now).2 = (session.deck.device.poll session.clock.now).2 ∧
            Device.Renewed past (older.poll session.clock.now).1
              (session.deck.device.poll session.clock.now).1 := by
        subst polls
        -- what the older device tells fits, as it is told within the run
        have struck : (((session.after past elders older).scene journal).act
            .poll).journal.toldEver < wordLimit := Scene.toldEver_of_run _ now
        exact renewed.poll (tallied.poll (older.strike_struck session.clock.now) struck).2
      obtain ⟨next, relates, stepped⟩ := step_after (fun _ _ => Device.Renewed.resembles) numbered
        renewed (fun call _ => renewed.answer call) polls
      obtain ⟨later, reached⟩ :=
        (session.after past elders older).run_actsOf journal (step.after past)
      rw [reached, stepped] at tallies few
      have rests := ih relates tallies few
      simp only [List.map_cons, Session.run, stepped, rests]

theorem ticks_run (session : Session) (steps : List Step) :
    (session.run steps).1.clock.ticksPerSecond = session.clock.ticksPerSecond := by
  induction steps generalizing session with
  | nil => rfl
  | cons step rest ih =>
      refine (ih (session.step step).1).trans ?_
      cases step with
      | clock move => cases move <;> rfl
      | deck step => rfl

theorem begin_later {template : Template} {clock later : ManualClock} {session : Session}
    (opened : Session.begin template clock = .ok session)
    (ticks : later.ticksPerSecond = clock.ticksPerSecond) :
    Session.begin template later = .ok ⟨later, ⟨session.deck.device, []⟩⟩ := by
  rw [Session.begin] at opened ⊢
  rw [ticks]
  cases built : template.build clock.ticksPerSecond with
  | error cause => simp [built] at opened
  | ok device =>
      simp only [built, Except.ok.injEq] at opened
      subst opened
      rfl

/-- The first step after which the past is forgotten: a preparation that succeeds on a used session,
and on a new one with the same callback. -/
theorem step_prepare_after {template : Template} {clock : ManualClock} {session fresh : Session}
    {setup : StreamSetup} {journal : Journal}
    (profiled : (session.scene journal).Profiled (template.profile clock.ticksPerSecond))
    (filled : (session.scene journal).Filled template.source)
    (gridless : (session.scene journal).Gridless) (dormant : session.deck.device.Dormant)
    (built : Session.begin template clock = .ok fresh) (same : session.clock = clock)
    (done : (session.deck.device.prepare setup).2 = .done ()) :
    ∃ next, next.Renewed session.deck.past (((fresh.step (.deck (.call (.placing
        session.deck.device.callback)))).1.step (.deck (.call (.prepare setup)))).1.deck.device) ∧
      session.step (.deck (.call (.prepare setup))) =
        (((fresh.step (.deck (.call (.placing session.deck.device.callback)))).1.step
            (.deck (.call (.prepare setup)))).1.after session.deck.past session.deck.waiters next,
          ((fresh.step (.deck (.call (.placing session.deck.device.callback)))).1.step
            (.deck (.call (.prepare setup)))).2.after session.deck.past) := by
  have alone : fresh = ⟨clock, ⟨fresh.deck.device, []⟩⟩ :=
    Except.ok.inj (built.symm.trans (begin_later built rfl))
  obtain ⟨source, given, _, idle⟩ := begin_eq_ok built
  have placed : (fresh.step (.deck (.call (.placing session.deck.device.callback)))).1 =
      ⟨clock, ⟨{ fresh.deck.device with callback := session.deck.device.callback }, []⟩⟩ := by
    rw [alone]
    cases session.deck.device.callback <;> rfl
  have edges : session.deck.past.edges = session.deck.device.delivery.edges := rfl
  have periods : session.deck.past.periods = session.deck.device.delivery.periods := rfl
  rw [placed, idle]
  obtain ⟨alike, renewed⟩ := Device.prepare_renewed dormant profiled.same
    (filled.bytes.trans given.symm) gridless edges periods rfl done
  have looks := renewed.resembles
  have sleeps := looks.wait?_eq clock.now
  have resting : session.deck.device.stage ≠ .running := by
    rcases session.deck.device.prepare_cases setup with ⟨allowed, _, _⟩ | ⟨_, refused⟩
    · exact (Stage.mayPrepare_iff.mp allowed).1
    · exact absurd done refused
  have asleep := (dormant resting).2
  refine ⟨_, renewed, ?_⟩
  simp only [step, Deck.step, Deck.call, Device.answer, done, alike, asleep, same, sleeps]
  refine Prod.ext ?_ ?_
  · simp [Session.after, Deck.after]
  · simp only [Entry.after, Deck.Reply.after, Deck.view, Deck.View.after, Delivery.after,
      looks.stage, looks.active, looks.delivery]
    rfl

/-- Preparation forgets. After a preparation that succeeds, whatever came before it, a session shows
at every step what a new session would show that has the same callback in place and is prepared in
the same way at the same reading of the clock, as long as the periods ever told can be counted. All
that differs is what the past has counted: its periods are added to every total, and its waiters come
first. -/
theorem preparation_forgets {template : Template} {clock : ManualClock} {session : Session}
    (opened : Session.begin template clock = .ok session) (before steps : List Step)
    (setup : StreamSetup) {view : Deck.View}
    (prepared : ((session.run before).1.step (.deck (.call (.prepare setup)))).2 =
      .deck (.answered (.ended (.done ()))) view)
    (few : (session.journal (before ++ .deck (.call (.prepare setup)) ::
      steps.map (Step.after (session.run before).1.deck.past))).toldEver < wordLimit) :
    ∃ fresh, Session.begin template (session.run before).1.clock = .ok fresh ∧
      ((session.run before).1.run (.deck (.call (.prepare setup)) ::
          steps.map (Step.after (session.run before).1.deck.past))).2 =
        ((fresh.step (.deck (.call (.placing (session.run before).1.deck.device.callback)))).1.run
          (.deck (.call (.prepare setup)) :: steps)).2.map
            (Entry.after (session.run before).1.deck.past) := by
  have shown := session.shows_last before
  have dormant := shown.dormant opened
  have profiled := shown.profiled opened
  have filled := shown.filled opened
  have gridless := shown.gridless opened
  obtain ⟨source, _, clocked, _⟩ := begin_eq_ok opened
  have ticks : (session.run before).1.clock.ticksPerSecond = clock.ticksPerSecond := by
    rw [ticks_run, clocked]
  have built := begin_later opened ticks
  have done : ((session.run before).1.deck.device.prepare setup).2 = .done () :=
    PcmPlayback.Reply.ended.inj (Deck.Reply.answered.inj (Entry.deck.inj prepared).1)
  rw [← ticks] at profiled
  obtain ⟨next, renewed, stepped⟩ :=
    step_prepare_after profiled filled gridless dormant built rfl done
  refine ⟨_, built, ?_⟩
  rw [journal, acts_append, Scene.run_append, scene_run, acts, Scene.run_append] at few
  have early := Scene.toldEver_of_run _ few
  have tallied : ((session.run before).1.scene (session.journal before)).Tallied := by
    rw [← scene_run]
    apply (tallied_opening opened).run
    rw [scene_run]
    exact Scene.toldEver_of_run _ early
  have tallies := tallied.run _ early
  obtain ⟨later, reached⟩ := (session.run before).1.run_actsOf (session.journal before)
    (.deck (.call (.prepare setup)))
  rw [reached, stepped] at tallies few
  have rests := run_after rfl renewed tallies steps few
  simp only [Session.run, stepped, rests, List.map_cons]

/-- Forgetting at work on the grid: a late firing tells three periods, and the device is stopped.
Prepared again it lays a new grid, and a new waiter wakes for the two periods of the new playback,
five in all. -/
theorem preparation_forgets_grid :
    ∃ (template : Template) (session fresh : Session) (before steps : List Step)
        (setup : StreamSetup),
      Session.begin template ⟨1000, 7⟩ = .ok session ∧
        (session.run before).1.deck.past = ⟨1, 3, 1⟩ ∧
        (session.run before).1.deck.device.gridTick = 507 ∧
        Session.begin template (session.run before).1.clock = .ok fresh ∧
        ((session.run before).1.run (.deck (.call (.prepare setup)) ::
            steps.map (Step.after ⟨1, 3, 1⟩))).2 =
          ((fresh.step (.deck (.call (.placing
            (session.run before).1.deck.device.callback)))).1.run
              (.deck (.call (.prepare setup)) :: steps)).2.map (Entry.after ⟨1, 3, 1⟩) ∧
        .deck (.total 5) ⟨.running, true, 5, [], []⟩ ∈
          ((session.run before).1.run (.deck (.call (.prepare setup)) ::
            steps.map (Step.after ⟨1, 3, 1⟩))).2 := by
  let template : Template := { schedule := .grid }
  let session : Session := ⟨⟨1000, 7⟩, ⟨template.idleDevice 1000 none, []⟩⟩
  let setup : StreamSetup := ⟨8000, 4000, 1000⟩
  let before : List Step :=
    [.deck .join, .deck (.call (.prepare setup)), .deck (.call .start), .clock (.forward 400),
      .deck .poll, .clock (.forward 10), .deck (.call .stop)]
  let steps : List Step :=
    [.deck .join, .deck (.call .start), .clock (.forward 260), .deck .poll, .deck (.tryWait 0),
      .deck (.total 0)]
  have fits : template.capabilities.layoutDefect? template.format template.channels = none := by
    decide +kernel
  have opened : Session.begin template ⟨1000, 7⟩ = .ok session := by
    simp only [Session.begin, Template.build, fits]
    rfl
  have past : (session.run before).1.deck.past = ⟨1, 3, 1⟩ := by decide +kernel
  have grid : (session.run before).1.deck.device.gridTick = 507 := by decide +kernel
  have prepared : ((session.run before).1.step (.deck (.call (.prepare setup)))).2 =
      .deck (.answered (.ended (.done ()))) ⟨.prepared, false, 3, [], []⟩ := by
    decide +kernel
  have few : (session.journal (before ++ .deck (.call (.prepare setup)) ::
      steps.map (Step.after (session.run before).1.deck.past))).toldEver < wordLimit := by
    decide +kernel
  have told : .deck (.total 5) ⟨.running, true, 5, [], []⟩ ∈
      ((session.run before).1.run (.deck (.call (.prepare setup)) ::
        steps.map (Step.after ⟨1, 3, 1⟩))).2 := by
    decide +kernel
  obtain ⟨fresh, built, same⟩ := preparation_forgets opened before steps setup prepared few
  rw [past] at same
  exact ⟨template, session, fresh, before, steps, setup, opened, past, grid, built, same, told⟩

end Session

end PcmPlayback
