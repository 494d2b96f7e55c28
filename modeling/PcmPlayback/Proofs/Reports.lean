import PcmPlayback.Proofs.Accounts

/-!
# Conservation of periods

No completed period is lost or told twice. What was told since the last preparation and what is
still pending in the playhead add up to the boundaries passed up to its last update, and a firing
tells all that is pending. The boundaries passed in all bound what can ever be told, so as long as
they fit into a word no counter is cut.
-/

set_option autoImplicit false

namespace PcmPlayback

theorem Delivery.raise_eq {delivery : Delivery} {count : Nat}
    (edges : delivery.edges + 1 < wordLimit) (periods : delivery.periods + count < wordLimit) :
    delivery.raise count = (⟨delivery.edges + 1, delivery.periods + count⟩, .done ()) := by
  rw [raise, if_neg (by omega)]
  simp only [if_neg (Nat.not_le.mpr periods)]

namespace Scene

/-- What the journal of a scene says about the periods that were told. -/
structure Reports (scene : Scene) : Prop where
  silent : scene.journal.timing? = none → scene.journal.told = 0
  balance : ∀ timing, scene.journal.timing? = some timing →
    scene.journal.told + scene.device.playhead.pending =
      timing.speed * scene.journal.playedBy scene.device.playhead.base.toNat / timing.periodSpan
  total : scene.device.delivery.periods = scene.journal.toldEver
  edges : scene.device.delivery.edges ≤ scene.journal.toldEver
  positive : ∀ periods, Event.told periods ∈ scene.journal → 0 < periods
  earlier : scene.journal.toldEver + scene.journal.crossed ≤
    scene.journal.told + scene.journal.boundaries
  complete : scene.journal.JustFired → scene.journal.told = scene.journal.crossed

namespace Reports

variable {scene : Scene}

theorem told_le_crossed (reports : scene.Reports) : scene.journal.told ≤ scene.journal.crossed := by
  cases present : scene.journal.timing? with
  | none =>
      rw [reports.silent present]
      exact Nat.zero_le _
  | some timing =>
      have balance := reports.balance timing present
      have ordered := Journal.div_le_crossed present scene.device.playhead.base.toNat
      omega

/-- When the playhead is brought to the present tick, all boundaries passed so far have been told
or are pending. -/
theorem settle (reports : scene.Reports) (accounts : scene.Accounts)
    (few : scene.journal.boundaries < wordLimit) (running : scene.device.stage = .running) :
    scene.journal.told + (scene.device.playhead.advance scene.now).1.pending =
      scene.journal.crossed := by
  obtain ⟨timing, present⟩ := accounts.timing_of_running running
  have balance := reports.balance timing present
  have ordered := Journal.div_le_crossed present scene.device.playhead.base.toNat
  have bounded := scene.journal.crossed_le_boundaries
  have pending : (scene.device.playhead.advance scene.now).1.pending =
      Progress.count scene.device.playhead.pending
        (scene.journal.crossed -
          timing.speed * scene.journal.playedBy scene.device.playhead.base.toNat /
            timing.periodSpan) := by
    rw [accounts.advance_eq running present, Journal.crossed_eq present]
    rfl
  rw [pending, Progress.count_eq_add (by omega)]
  omega

theorem balance_arrived (accounts : scene.Accounts) {head : Playhead} (base : head.base = scene.now)
    {told : Nat} (settled : told + head.pending = scene.journal.crossed) (timing : Timing)
    (present : scene.journal.timing? = some timing) :
    told + head.pending =
      timing.speed * scene.journal.playedBy head.base.toNat / timing.periodSpan := by
  rw [settled, base, accounts.playedBy_now, Journal.crossed_eq present]

theorem call (reports : scene.Reports) (accounts : scene.Accounts)
    (few : scene.journal.boundaries < wordLimit) {next : Device} {event : Option Event}
    (effect : scene.device.Effect scene.now next event) :
    Reports ⟨scene.now, next, event.toList ++ scene.journal⟩ := by
  cases effect with
  | unchanged => exact reports
  | rerouted callback => exact { reports with }
  | prepared setup size allowed sound =>
      -- what is pending here is discarded: it stays passed and is never told
      have ordered := reports.told_le_crossed
      have earlier := reports.earlier
      refine ⟨fun _ => rfl, ?_, reports.total, reports.edges, ?_, ?_, False.elim⟩
      · intro timing found
        simp [Journal.told, Journal.playedBy, Playhead.pending, Progress.start]
      · intro periods member
        exact reports.positive periods (by simpa using member)
      · have none : Journal.crossed (.prepared ⟨setup, scene.device.profile.ticksPerSecond⟩ ::
            scene.journal) = 0 := by
          simp [Journal.crossed, Journal.timing?, Journal.played]
        simp only [Option.toList_some, List.cons_append, List.nil_append, Journal.boundaries, none,
          Journal.toldEver, Journal.told]
        omega
  | misstarted allowed =>
      refine { reports with balance := fun timing found => ?_ }
      have balance := reports.balance timing found
      rw [accounts.playedBy_rebase allowed] at balance
      exact balance
  | started tick gridTick allowed first grid =>
      refine ⟨reports.silent, fun timing found => ?_, reports.total, reports.edges, ?_, ?_,
        False.elim⟩
      · have balance := reports.balance timing found
        rw [accounts.playedBy_rebase allowed] at balance
        exact balance
      · intro periods member
        exact reports.positive periods (by simpa using member)
      · exact Nat.le_trans reports.earlier
          (Nat.add_le_add_left (Journal.boundaries_append_le [.started scene.now] _) _)
  | lowered idle => exact { reports with }
  | stopped running moved =>
      exact { reports with
        balance := balance_arrived accounts (accounts.base_updated running)
          (reports.settle accounts few running) }
  | jammed running stuck => simp [accounts.moved running] at stuck
  | read running =>
      exact { reports with
        balance := balance_arrived accounts (accounts.base_updated running)
          (reports.settle accounts few running) }
  | freed => exact { reports with }

/-- What is told fits into the counters, as it is no more than what was passed. -/
theorem raise_eq (reports : scene.Reports) (accounts : scene.Accounts)
    (few : scene.journal.boundaries < wordLimit) (running : scene.device.stage = .running)
    (some : 0 < (scene.device.playhead.advance scene.now).1.pending) :
    scene.device.delivery.raise (scene.device.playhead.advance scene.now).1.pending =
      (⟨scene.device.delivery.edges + 1,
        scene.device.delivery.periods + (scene.device.playhead.advance scene.now).1.pending⟩,
        .done ()) := by
  have settled := reports.settle accounts few running
  have earlier := reports.earlier
  have edges := reports.edges
  have total := reports.total
  exact Delivery.raise_eq (by omega) (by omega)

theorem poll (reports : scene.Reports) (accounts : scene.Accounts)
    (few : scene.journal.boundaries < wordLimit) {next : Device} {strike : Device.Strike}
    (struck : scene.device.Struck scene.now next strike) :
    Reports ⟨scene.now, next, strike.events scene.now ++ scene.journal⟩ := by
  cases struck with
  | early early => exact reports
  | asleep due asleep => exact { reports with }
  | faulted due running fault =>
      refine ⟨reports.silent, ?_, reports.total, reports.edges, ?_, ?_, False.elim⟩
      · exact balance_arrived accounts (accounts.base_updated running)
          (reports.settle accounts few running)
      · intro periods member
        exact reports.positive periods (by simpa [Device.Strike.events] using member)
      · exact Nat.le_trans reports.earlier
          (Nat.add_le_add_left (Journal.boundaries_append_le [.faulted scene.now] _) _)
  | fired due running moved tick gridTick ring source next grid none =>
      have settled := reports.settle accounts few running
      rw [none] at settled
      have arrived : (scene.device.playhead.advance scene.now).1.takePending.2.base = scene.now :=
        accounts.base_updated running
      refine ⟨reports.silent, ?_, reports.total, reports.edges, ?_, ?_, fun _ => settled⟩
      · exact balance_arrived accounts arrived
          (by rw [Playhead.pending_takePending]; exact settled)
      · intro periods member
        exact reports.positive periods (by simpa [Device.Strike.events] using member)
      · exact Nat.le_trans reports.earlier
          (Nat.add_le_add_left (Journal.boundaries_append_le [.fired scene.now] _) _)
  | told due running moved tick gridTick ring source next grid some =>
      have settled := reports.settle accounts few running
      have raised := reports.raise_eq accounts few running some
      have earlier := reports.earlier
      have edges := reports.edges
      have total := reports.total
      have arrived : (scene.device.playhead.advance scene.now).1.takePending.2.base = scene.now :=
        accounts.base_updated running
      refine ⟨fun missing => ?_, ?_, ?_, ?_, ?_, ?_, fun _ => settled⟩
      · obtain ⟨timing, present⟩ := accounts.timing_of_running running
        exact absurd (present.symm.trans missing) nofun
      · exact balance_arrived accounts arrived
          (by rw [Playhead.pending_takePending]; exact settled)
      · simp only [Device.counted, Device.drained, raised]
        exact congrArg (· + _) total
      · simp only [Device.counted, Device.drained, raised]
        exact Nat.add_le_add edges some
      · intro periods member
        rcases List.mem_cons.mp member with here | before
        · cases here
          exact some
        · exact reports.positive periods (by simpa using before)
      · have more := Journal.boundaries_append_le
          [.told (scene.device.playhead.advance scene.now).1.pending, .fired scene.now]
          scene.journal
        have same : Journal.crossed (.told (scene.device.playhead.advance scene.now).1.pending ::
            .fired scene.now :: scene.journal) = scene.journal.crossed := rfl
        simp only [Device.Strike.events, List.cons_append, List.nil_append, Journal.toldEver,
          Journal.told, same] at more ⊢
        omega

theorem pass (reports : scene.Reports) (accounts : scene.Accounts) {tick : Tick} :
    Reports (scene.act (.pass tick)) := by
  refine ⟨reports.silent, ?_, reports.total, reports.edges, ?_, ?_, False.elim⟩
  · intro timing found
    rw [device_pass, playedBy_pass accounts.base_le]
    exact reports.balance timing found
  · intro periods member
    exact reports.positive periods (by simpa [Scene.act] using member)
  · have earlier := reports.earlier
    simp only [Scene.act, Journal.boundaries, Journal.toldEver, Journal.told]
    omega

theorem act (reports : scene.Reports) (accounts : scene.Accounts) (act : Act)
    (few : (scene.act act).journal.boundaries < wordLimit) : Reports (scene.act act) := by
  have fits := Nat.lt_of_le_of_lt (scene.boundaries_act act) few
  cases act with
  | pass tick => exact reports.pass accounts
  | call call => exact reports.call accounts fits (scene.device.answer_effect scene.now call)
  | poll => exact reports.poll accounts fits (scene.device.strike_struck scene.now)

/-- A firing leaves nothing pending, be it a boundary that was passed long before. -/
theorem pending_of_justFired (reports : scene.Reports) (fired : scene.journal.JustFired)
    {timing : Timing} (present : scene.journal.timing? = some timing) :
    scene.device.playhead.pending = 0 := by
  have complete := reports.complete fired
  have balance := reports.balance timing present
  have ordered := Journal.div_le_crossed present scene.device.playhead.base.toNat
  omega

/-- What a poll adds to the counters is what the callback is told, and nothing else runs it. -/
theorem poll_tells (reports : scene.Reports) (accounts : scene.Accounts)
    (few : scene.journal.boundaries < wordLimit) :
    ∃ periods,
      (scene.device.poll scene.now).1.delivery.periods =
          scene.device.delivery.periods + periods ∧
        (scene.device.poll scene.now).2.map CallbackRun.periods =
          if periods = 0 then none else scene.device.callback.map fun _ => periods := by
  have struck := scene.device.strike_struck scene.now
  rw [Device.poll_delivery, Device.poll_run_periods]
  generalize (scene.device.strike scene.now).1 = next at struck ⊢
  generalize (scene.device.strike scene.now).2 = strike at struck ⊢
  cases struck with
  | early | asleep | faulted | fired => exact ⟨0, rfl, rfl⟩
  | told due running moved tick gridTick ring source next grid some =>
      refine ⟨(scene.device.playhead.advance scene.now).1.pending, ?_, ?_⟩
      · simp only [Device.counted, Device.drained,
          reports.raise_eq accounts few running some]
      · simp only [reports.raise_eq accounts few running some, Outcome.isDone,
          if_neg (Nat.ne_of_gt some)]

end Reports

end Scene

namespace Session

variable {template : Template} {clock : ManualClock} {session : Session}

theorem reports_opening (opened : Session.begin template clock = .ok session) :
    (session.scene []).Reports := by
  obtain ⟨source, _, _, idle⟩ := begin_eq_ok opened
  have fresh : (session.scene []).device.delivery = {} := congrArg Device.delivery idle
  refine ⟨fun _ => rfl, nofun, ?_, ?_, nofun, Nat.le_refl 0, nofun⟩
  · rw [fresh]
    rfl
  · rw [fresh]
    exact Nat.le_refl 0

theorem Shows.reports (opened : Session.begin template clock = .ok session)
    {steps : List Step} {scene : Scene} (shown : session.Shows steps scene)
    (forward : scene.journal.Forward) (few : scene.journal.boundaries < wordLimit) :
    scene.Accounts ∧ scene.Reports := by
  obtain ⟨acts, _, reached⟩ := shown
  rw [← reached] at forward few ⊢
  refine @Scene.run_invariant (fun journal => journal.Forward ∧ journal.boundaries < wordLimit)
    (fun scene => scene.Accounts ∧ scene.Reports) ?_ ?_ _
    ⟨accounts_opening opened, reports_opening opened⟩ acts ⟨forward, few⟩
  · intro events journal allowed
    exact ⟨allowed.1.of_append, Journal.counted_of_append allowed.2⟩
  · intro scene act holds allowed
    exact ⟨holds.1.act act allowed.1, holds.2.act holds.1 act allowed.2⟩

/-- Conservation of periods in every run whose clock does not go back and in which the boundaries
passed can be counted. In each of its scenes the periods told since the last preparation and the
pending ones are the boundaries passed up to the last update of the playhead, the counter of the
waiters holds all that was ever told, and after a firing nothing is pending. A poll runs the
callback with exactly what it adds to that counter. -/
theorem periods_conserved (opened : Session.begin template clock = .ok session)
    (steps : List Step) (forward : (session.journal steps).Forward)
    (few : (session.journal steps).boundaries < wordLimit) :
    (∀ scene, session.Shows steps scene →
      (∀ timing, scene.journal.timing? = some timing →
        scene.journal.told + scene.device.playhead.pending =
            scene.journal.playedBy scene.device.playhead.base.toNat * timing.setup.rate.toNat /
              (timing.setup.periodFrames.toNat * clock.ticksPerSecond.toNat) ∧
          (scene.journal.JustFired → scene.device.playhead.pending = 0)) ∧
      (∀ periods, Event.told periods ∈ scene.journal → 1 ≤ periods) ∧
      scene.device.delivery.periods = scene.journal.toldEver) ∧
    (∀ waiter, waiter < (session.run steps).1.deck.waiters.length →
      ((session.run steps).1.step (.deck (.total waiter))).2 =
        .deck (.total (session.journal steps).toldEver) ((session.run steps).1.deck.view [] [])) ∧
    ∀ before after, steps = before ++ .deck .poll :: after →
      ∃ periods view,
        (session.journal (before ++ [.deck .poll])).toldEver =
            (session.journal before).toldEver + periods ∧
          ((session.run before).1.step (.deck .poll)).2 = .deck .polled view ∧
          view.periods = (session.run before).1.deck.device.delivery.periods + periods ∧
          view.runs.map CallbackRun.periods =
            if periods = 0 then []
            else ((session.run before).1.deck.device.callback.map fun _ => periods).toList := by
  have everywhere (scene : Scene) (shown : session.Shows steps scene) :
      scene.Accounts ∧ scene.Reports ∧ scene.journal.boundaries < wordLimit := by
    have fits := shown.counted few
    obtain ⟨accounts, reports⟩ := shown.reports opened (shown.forward forward) fits
    exact ⟨accounts, reports, fits⟩
  refine ⟨fun scene shown => ?_, fun waiter present => ?_, fun before after split => ?_⟩
  · obtain ⟨_, reports, _⟩ := everywhere scene shown
    refine ⟨fun timing found => ⟨?_, fun fired => reports.pending_of_justFired fired found⟩,
      reports.positive, reports.total⟩
    have clocked : timing.ticksPerSecond = clock.ticksPerSecond :=
      (shown.profiled opened).clocked timing found
    rw [reports.balance timing found, Nat.mul_comm, ← clocked]
    rfl
  · have total : (session.run steps).1.deck.device.delivery.periods =
        (session.journal steps).toldEver :=
      (everywhere _ (session.shows_last steps)).2.1.total
    simp only [step, Deck.step, List.getElem?_eq_getElem present, total]
  · obtain ⟨earlier, later⟩ := session.shows_step split
    obtain ⟨accounts, reports, fits⟩ := everywhere _ earlier
    obtain ⟨periods, counted, runs⟩ := reports.poll_tells accounts fits
    have polled := (everywhere _ later).2.1.total
    rw [run_append] at polled
    refine ⟨periods, ((session.run before).1.deck.poll (session.run before).1.clock.now).2, ?_,
      rfl, counted, ?_⟩
    · exact (polled.symm.trans counted).trans (congrArg (· + periods) reports.total)
    · have listed := congrArg Option.toList runs
      rw [apply_ite Option.toList, Option.toList_map] at listed
      exact listed

/-- Conservation at work: five boundaries are told by a late poll, whose callback starts the device
anew; a stop in the middle of the run and a reading of the position find two more. -/
theorem periods_conserved_resumed :
    ∃ (session : Session) (steps : List Step) (scene : Scene),
      Session.begin {} ⟨1000, 7⟩ = .ok session ∧ (session.journal steps).Forward ∧
        (session.journal steps).boundaries < wordLimit ∧
        ((session.run steps).1.step (.deck (.total 0))).2 =
          .deck (.total 5) ((session.run steps).1.deck.view [] []) ∧
        session.Shows steps scene ∧ scene.journal.told + scene.device.playhead.pending = 7 := by
  let timing : Timing := ⟨⟨11025, 3000, 700⟩, 1000⟩
  let session : Session := ⟨⟨1000, 7⟩, ⟨({} : Template).idleDevice 1000 none, []⟩⟩
  let steps : List Step :=
    [.deck .join, .deck (.call (.register ⟨"again", [.stop, .start], false⟩)),
      .deck (.call (.prepare timing.setup)), .deck (.call .start), .clock (.forward 323),
      .deck .poll, .clock (.forward 67), .deck (.call .stop), .clock (.forward 50),
      .deck (.call (.trigger .resume)), .clock (.forward 90), .deck (.call .pointer)]
  have opened : Session.begin {} ⟨1000, 7⟩ = .ok session := rfl
  have forward : (session.journal steps).Forward := by decide +kernel
  have few : (session.journal steps).boundaries < wordLimit := by decide +kernel
  have joined : 0 < (session.run steps).1.deck.waiters.length := by decide +kernel
  have ever : (session.journal steps).toldEver = 5 := by decide +kernel
  let last := (session.run steps).1.scene (session.journal steps)
  have shown : session.Shows steps last := session.shows_last steps
  have present : last.journal.timing? = some timing := by decide +kernel
  have played : last.journal.playedBy last.device.playhead.base.toNat = 480 := by decide +kernel
  obtain ⟨scenes, waiters, _⟩ := periods_conserved opened steps forward few
  have balance := ((scenes last shown).1 timing present).1
  have total := waiters 0 joined
  rw [ever] at total
  rw [played] at balance
  have passed : 480 * timing.setup.rate.toNat /
      (timing.setup.periodFrames.toNat * (1000 : UInt64).toNat) = 7 := by
    decide +kernel
  exact ⟨session, steps, last, opened, forward, few, total, shown, balance.trans passed⟩

end Session

end PcmPlayback
