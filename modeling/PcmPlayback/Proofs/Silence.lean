import PcmPlayback.Proofs.Lifecycle

/-!
# Silence at rest

A device that is not running stays silent until it is started: its timer is off and nobody is told
anything, whatever is called or polled. Its position and its ring stay what they are, or become
those of a new preparation.
-/

set_option autoImplicit false

namespace PcmPlayback

/-- Whether an event is the timer's doing. -/
def Event.OfTimer : Event → Prop
  | .fired _ | .faulted _ | .told _ => True
  | .passed _ _ _ | .prepared _ | .started _ => False

theorem Journal.startedAt?_append_eq_none_iff {events journal : Journal} :
    startedAt? (events ++ journal) = none ↔
      startedAt? events = none ∧ startedAt? journal = none := by
  induction events with
  | nil => simp [startedAt?]
  | cons event events ih =>
      cases event with
      | started tick => exact ⟨nofun, nofun⟩
      | prepared | passed | fired | faulted | told => exact ih

theorem Journal.unstarted_of_append {events journal : Journal}
    (unstarted : startedAt? (events ++ journal) = none) : startedAt? journal = none :=
  (startedAt?_append_eq_none_iff.mp unstarted).2

namespace Device

theorem pointer_of_resting {device : Device} (resting : device.stage ≠ .running) (now : Tick) :
    (device.pointer now).2 = .done device.playhead.frame := by
  rw [pointer, if_neg fun reads => resting reads.2]

theorem pointer_of_running {device : Device} {now : Tick} (running : device.stage = .running)
    (configured : device.playhead.isConfigured = true)
    (moved : (device.playhead.advance now).2 = .done ()) :
    (device.pointer now).2 = .done (device.playhead.advance now).1.frame := by
  rw [pointer, if_pos ⟨configured, running⟩]
  exact congrArg (Outcome.map _) moved

theorem stop_eq_done {device : Device} {now : Tick} (done : (device.stop now).2 = .done ()) :
    device.stage = .running ∧ (device.playhead.advance now).2 = .done () ∧
      (device.stop now).1 =
        { device.updated now with active := false, expiry := none, stage := .stopped } := by
  by_cases running : device.stage = .running
  · cases moved : (device.playhead.advance now).2 with
    | rejected cause | fault => simp [stop, running, moved, Outcome.isDone] at done
    | done value =>
        refine ⟨running, rfl, ?_⟩
        simp [stop, running, moved, Outcome.isDone, updated, disarm]
  · simp [stop, running] at done

/-- A stop that succeeds, by whichever command, leaves the device stopped at the present tick. -/
theorem answer_stopped {device : Device} {now : Tick} {call : Call} (stops : call.stops = true)
    (done : (device.answer now call).2 = .ended (.done ())) :
    device.stage = .running ∧ (device.playhead.advance now).2 = .done () ∧
      (device.answer now call).1 =
        { device.updated now with active := false, expiry := none, stage := .stopped } := by
  cases call with
  | stop => exact stop_eq_done (by simpa [answer] using done)
  | trigger command =>
      cases command with
      | stop | suspend => exact stop_eq_done (by simpa [answer, obey] using done)
      | start | resume => cases stops
  | prepare | start | pointer | status | describe | copyOut | register | unregister | free =>
      cases stops

end Device

namespace Scene

/-- What is left of a device that has been at rest since another scene, from which on the journal
was kept. -/
structure Resting (first scene : Scene) : Prop where
  stage : scene.device.stage ≠ .running
  lowered : scene.device.active = false
  disarmed : scene.device.expiry = none
  delivery : scene.device.delivery = first.device.delivery
  untimed : ∀ event ∈ scene.journal, ¬ event.OfTimer
  still : scene.journal.timings = [] →
    scene.device.playhead.frame = first.device.playhead.frame ∧
      scene.device.ring = first.device.ring
  anew : scene.journal.timings ≠ [] →
    scene.device.playhead.frame = 0 ∧ scene.device.ring = .silent scene.device.ring.size

namespace Resting

theorem refl {scene : Scene} (stage : scene.device.stage ≠ .running)
    (lowered : scene.device.active = false) (disarmed : scene.device.expiry = none) :
    Resting scene.afresh scene.afresh :=
  ⟨stage, lowered, disarmed, rfl, nofun, fun _ => ⟨rfl, rfl⟩, fun anew => absurd rfl anew⟩

variable {first scene : Scene}

theorem call (resting : first.Resting scene) {next : Device} {event : Option Event}
    (effect : scene.device.Effect scene.now next event)
    (unstarted : Journal.startedAt? (event.toList ++ scene.journal) = none) :
    first.Resting ⟨scene.now, next, event.toList ++ scene.journal⟩ := by
  obtain ⟨stage, lowered, disarmed, delivery, untimed, still, anew⟩ := resting
  cases effect with
  | unchanged | rerouted => exact ⟨stage, lowered, disarmed, delivery, untimed, still, anew⟩
  | prepared setup size allowed sound =>
      refine ⟨by simp, lowered, disarmed, delivery, ?_, by simp [Journal.timings, Event.timing?],
        fun _ => ⟨?_, ?_⟩⟩
      · intro event member
        rcases List.mem_cons.mp member with here | before
        · rw [here]
          exact id
        · exact untimed event before
      · exact Nat.zero_div _
      · simp [Ring.silent]
  | misstarted => exact ⟨stage, lowered, disarmed, delivery, untimed, still, anew⟩
  | started => cases unstarted
  | lowered => exact ⟨stage, rfl, disarmed, delivery, untimed, still, anew⟩
  | stopped running | jammed running | read running => exact absurd running stage
  | freed => exact ⟨by simp [Device.free], rfl, rfl, delivery, untimed, still, anew⟩

theorem poll (resting : first.Resting scene) {next : Device} {strike : Device.Strike}
    (struck : scene.device.Struck scene.now next strike) :
    first.Resting ⟨scene.now, next, strike.events scene.now ++ scene.journal⟩ := by
  cases struck with
  | early => exact resting
  | asleep => exact { resting with disarmed := rfl }
  | faulted _ running | fired _ running | told _ running => exact absurd running resting.stage

theorem act (resting : first.Resting scene) (act : Act)
    (unstarted : (scene.act act).journal.startedAt? = none) : first.Resting (scene.act act) := by
  cases act with
  | pass tick =>
      obtain ⟨stage, lowered, disarmed, delivery, untimed, still, anew⟩ := resting
      refine ⟨stage, lowered, disarmed, delivery, ?_, still, anew⟩
      intro event member
      rcases List.mem_cons.mp member with here | before
      · rw [here]
        exact id
      · exact untimed event before
  | call call => exact resting.call (scene.device.answer_effect scene.now call) unstarted
  | poll => exact resting.poll (scene.device.strike_struck scene.now)

theorem run (resting : first.Resting scene) (acts : List Act)
    (unstarted : (scene.run acts).journal.startedAt? = none) : first.Resting (scene.run acts) := by
  refine @run_invariant (fun journal => journal.startedAt? = none) _ ?_ ?_ scene resting acts
    unstarted
  · intro events journal
    exact Journal.unstarted_of_append
  · intro later act resting unstarted
    exact resting.act act unstarted

theorem pointer_eq (resting : first.Resting scene) (rests : first.device.stage ≠ .running)
    (now : Tick) :
    (scene.device.pointer now).2 =
      if scene.journal.timings = [] then (first.device.pointer now).2 else .done 0 := by
  rw [Device.pointer_of_resting resting.stage, Device.pointer_of_resting rests]
  split
  · next none => rw [(resting.still none).1]
  · next some => rw [(resting.anew some).1]

theorem ring_eq (resting : first.Resting scene) :
    scene.device.ring =
      if scene.journal.timings = [] then first.device.ring
      else .silent scene.device.ring.size := by
  split
  · next none => exact (resting.still none).2
  · next some => exact (resting.anew some).2

end Resting

end Scene

theorem Deck.view_step (deck : Deck) (now : Tick) (step : Step) :
    ∃ runs waits, (deck.step now step).2.2 = (deck.step now step).1.view runs waits ∧
      (deck.device.expiry = none → (deck.step now step).1.device.expiry = none →
        runs = [] ∧ waits = []) := by
  have still := @Deck.step_of_waiter deck now step
  cases step with
  | call call =>
      refine ⟨[], if deck.device.expiry.isNone then
        ((deck.device.answer now call).1.wait? now).toList else [], rfl, ?_⟩
      intro before after
      have off : (deck.device.answer now call).1.expiry = none := after
      rw [before, Device.wait?, off]
      exact ⟨rfl, rfl⟩
  | poll =>
      refine ⟨(deck.device.poll now).2.toList, ((deck.device.poll now).1.wait? now).toList, rfl, ?_⟩
      intro before _
      rw [Device.poll_of_disarmed before, Device.wait?, before]
      exact ⟨rfl, rfl⟩
  | join | tryWait | waitFor | wait | total =>
      obtain ⟨device, view⟩ := still (by simp) (by simp)
      refine ⟨[], [], view.trans ?_, fun _ _ => ⟨rfl, rfl⟩⟩
      simp only [Deck.view, device]

namespace Session

/-- A run in which the device of a session keeps silent. Nothing comes of its timer: no callback
runs, no wait is reported, and the consumers are told nothing. Its position and its ring stay, or
are those of a new preparation. -/
structure Silent (session : Session) (steps : List Step) : Prop where
  untimed : ∀ event ∈ session.journal steps, ¬ event.OfTimer
  shown : ∀ reply view, Entry.deck reply view ∈ (session.run steps).2 →
    view.active = false ∧ view.runs = [] ∧ view.waits = [] ∧
      view.periods = session.deck.device.delivery.periods
  delivery : (session.run steps).1.deck.device.delivery = session.deck.device.delivery
  polls : ∀ now, (session.run steps).1.deck.device.poll now =
    ((session.run steps).1.deck.device, none)
  pointer : ∀ now, ((session.run steps).1.deck.device.pointer now).2 =
    if (session.journal steps).timings = [] then (session.deck.device.pointer now).2 else .done 0
  ring : (session.run steps).1.deck.device.ring =
    if (session.journal steps).timings = [] then session.deck.device.ring
    else .silent (session.run steps).1.deck.device.ring.size

theorem resting_run {session : Session} (stage : session.deck.device.stage ≠ .running)
    (lowered : session.deck.device.active = false) (disarmed : session.deck.device.expiry = none)
    (steps : List Step) (unstarted : (session.journal steps).startedAt? = none) :
    (session.scene []).Resting ((session.run steps).1.scene (session.journal steps)) := by
  have initial := @Scene.Resting.refl (session.scene []) stage lowered disarmed
  rw [← scene_run]
  exact initial.run _ unstarted

theorem silent_of_resting {session : Session} (stage : session.deck.device.stage ≠ .running)
    (lowered : session.deck.device.active = false) (disarmed : session.deck.device.expiry = none)
    (steps : List Step) (unstarted : (session.journal steps).startedAt? = none) :
    session.Silent steps := by
  have resting := resting_run stage lowered disarmed steps unstarted
  refine ⟨resting.untimed, ?_, resting.delivery, ?_, ?_, resting.ring_eq⟩
  · intro reply view member
    obtain ⟨before, step, after, split, same⟩ := mem_run member
    -- at every step of the run the device is at rest before and after
    obtain ⟨earlier, later⟩ := session.shows_step split
    obtain ⟨past, grown⟩ := earlier.journal_append
    obtain ⟨beyond, ended⟩ := later.journal_append
    have rested := resting_run stage lowered disarmed before
      (Journal.unstarted_of_append (grown ▸ unstarted))
    have rests := resting_run stage lowered disarmed (before ++ [step])
      (Journal.unstarted_of_append (ended ▸ unstarted))
    rw [run_append] at rests
    cases step with
    | clock move => cases same
    | deck step =>
        obtain ⟨runs, waits, shows, idle⟩ := ((session.run before).1.deck).view_step
          (session.run before).1.clock.now step
        obtain ⟨noRuns, noWaits⟩ := idle rested.disarmed rests.disarmed
        have viewed : view = _ := (Entry.deck.inj same).2.trans shows
        rw [viewed, noRuns, noWaits]
        exact ⟨rests.lowered, rfl, rfl, congrArg Delivery.periods rests.delivery⟩
  · exact Device.poll_of_disarmed resting.disarmed
  · exact resting.pointer_eq stage

variable {template : Template} {clock : ManualClock} {session : Session}

/-- Silence at rest, after every run whose buffers leave room, whichever way its clock is moved. A
device that is not running, for whatever reason, keeps silent until it is started with success.
After a stop that succeeds, in a step or in a callback, it goes on to show the position that it
would have shown right before, until it is prepared or started. -/
theorem silent_at_rest (opened : Session.begin template clock = .ok session) (before : List Step)
    (roomy : (session.journal before).Roomy) :
    ((session.run before).1.deck.device.stage ≠ .running →
      ∀ after, ((session.run before).1.journal after).startedAt? = none →
        (session.run before).1.Silent after) ∧
    ∀ scene, session.Shows before scene → ∀ call, call.stops = true →
      (scene.device.answer scene.now call).2 = .ended (.done ()) →
      ∀ acts, ((scene.act (.call call)).afresh.run acts).journal.startedAt? = none →
        ((scene.act (.call call)).afresh.run acts).journal.timings = [] →
        ∀ now, (((scene.act (.call call)).run acts).device.pointer now).2 =
          (scene.device.pointer scene.now).2 := by
  constructor
  · intro stage after unstarted
    have consistent := (session.shows_last before).consistent opened roomy
    exact silent_of_resting stage (consistent.lowered stage) (consistent.disarmed stage) after
      unstarted
  · intro scene shown call stops done acts unstarted unprepared now
    have consistent := shown.consistent opened (shown.roomy roomy)
    obtain ⟨running, moved, stopped⟩ := Device.answer_stopped stops done
    have configured := consistent.orderly.configured (.inr (.inl running))
    have initial : (scene.act (.call call)).afresh.Resting (scene.act (.call call)).afresh := by
      apply Scene.Resting.refl
      all_goals simp [Scene.act, stopped]
    have resting := initial.run acts unstarted
    have frozen : (scene.act (.call call)).afresh.device.playhead =
        (scene.device.playhead.advance scene.now).1 := congrArg Device.playhead stopped
    rw [Scene.run_eq_afresh, Device.pointer_of_running running configured moved]
    change (((scene.act (.call call)).afresh.run acts).device.pointer now).2 = _
    rw [Device.pointer_of_resting resting.stage, (resting.still unprepared).1, frozen]

/-- Silence at work: a callback stops the device at tick 130, in the middle of a period, and fails.
What is called and polled afterwards, with a clock that wraps in between, changes nothing, and the
position stays the one of tick 130. -/
theorem silent_at_rest_stopped :
    ∃ (session : Session) (before after : List Step),
      Session.begin {} ⟨1000, 7⟩ = .ok session ∧ (session.journal before).Roomy ∧
        (session.run before).1.deck.device.stage = .stopped ∧
        ((session.run before).1.journal after).startedAt? = none ∧
        (session.run before).1.Silent after ∧
        ∀ now, (((session.run before).1.run after).1.deck.device.pointer now).2 =
          .done (123 * 11025 / 1000) := by
  let session : Session := ⟨⟨1000, 7⟩, ⟨({} : Template).idleDevice 1000 none, []⟩⟩
  let before : List Step :=
    [.deck .join, .deck (.call (.register ⟨"once", [.stop], true⟩)),
      .deck (.call (.prepare ⟨11025, 3000, 700⟩)), .deck (.call .start), .clock (.forward 123),
      .deck .poll]
  let after : List Step :=
    [.clock (.forward 18446744073709551500), .deck .poll, .deck (.tryWait 0),
      .deck (.call (.trigger .suspend)), .clock (.moveTo 5000), .deck .poll]
  have opened : Session.begin {} ⟨1000, 7⟩ = .ok session := rfl
  have roomy : (session.journal before).Roomy := by decide +kernel
  have stopped : (session.run before).1.deck.device.stage = .stopped := by decide +kernel
  have resting : (session.run before).1.deck.device.stage ≠ .running := by simp [stopped]
  have unstarted : ((session.run before).1.journal after).startedAt? = none := by decide +kernel
  have unprepared : ((session.run before).1.journal after).timings = [] := by decide +kernel
  have frozen : (session.run before).1.deck.device.playhead.frame = 123 * 11025 / 1000 := by
    decide +kernel
  obtain ⟨rests, _⟩ := silent_at_rest opened before roomy
  have silent := rests resting after unstarted
  refine ⟨session, before, after, opened, roomy, stopped, unstarted, silent, fun now => ?_⟩
  rw [silent.pointer now, if_pos unprepared, Device.pointer_of_resting resting, frozen]

end Session

end PcmPlayback
