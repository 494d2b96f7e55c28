import PcmPlayback.Proofs.Frames
import PcmPlayback.Proofs.Refusal

/-!
# Calls from within a callback

When the callback runs, the device has done its own part: it has armed its timer again, handed out
its pending periods and refilled its ring, and nothing is left to do. So calls made by the callback
have the replies and the effects that they would have right after the poll, and a callback that fails
does to the device what a stop right after the poll does.
-/

set_option autoImplicit false

namespace PcmPlayback

/-- Whether a call changes the callback in place. -/
def Call.reroutes : Call → Bool
  | .register _ | .unregister => true
  | .prepare _ | .start | .stop | .trigger _ | .pointer | .status | .describe => false
  | .copyOut _ _ | .free => false

/-- The calls of a callback, with a stop in the place of its failure. -/
def Routine.outcome (routine : Callback) : List Call :=
  routine.calls ++ if routine.fails then [.stop] else []

theorem Call.rerouted_of_reroutes {call : Call} (reroutes : call.reroutes = true)
    (first second : Option Callback) : call.rerouted first = call.rerouted second := by
  cases call with
  | register | unregister => rfl
  | prepare | start | stop | trigger | pointer | status | describe | copyOut | free =>
      cases reroutes

theorem Call.rerouted_of_not {call : Call} (keeps : call.reroutes = false)
    (callback : Option Callback) : call.rerouted callback = callback := by
  cases call with
  | register | unregister => cases keeps
  | prepare | start | stop | trigger | pointer | status | describe | copyOut | free => rfl

theorem Call.foldl_rerouted_eq {calls : List Call} {call : Call} (member : call ∈ calls)
    (reroutes : call.reroutes = true) (first second : Option Callback) :
    calls.foldl Call.rerouted first = calls.foldl Call.rerouted second := by
  induction calls generalizing first second with
  | nil => cases member
  | cons head rest ih =>
      rw [List.foldl_cons, List.foldl_cons]
      rcases List.mem_cons.mp member with rfl | later
      · rw [Call.rerouted_of_reroutes reroutes first second]
      · exact ih later (head.rerouted first) (head.rerouted second)

theorem Call.foldl_rerouted_self {calls : List Call}
    (keep : ∀ call ∈ calls, call.reroutes = false) (callback : Option Callback) :
    calls.foldl Call.rerouted callback = callback := by
  induction calls with
  | nil => rfl
  | cons head rest ih =>
      rw [List.foldl_cons, Call.rerouted_of_not (keep head List.mem_cons_self)]
      exact ih fun call member => keep call (List.mem_cons_of_mem _ member)

theorem Routine.outcome_of_fails {routine : Callback} (fails : routine.fails = true) :
    routine.outcome = routine.calls ++ [.stop] := by
  rw [outcome, if_pos fails]

theorem Routine.outcome_of_content {routine : Callback} (content : routine.fails = false) :
    routine.outcome = routine.calls := by
  rw [outcome, content]
  exact List.append_nil _

theorem Routine.foldl_outcome (routine : Callback) (callback : Option Callback) :
    routine.outcome.foldl Call.rerouted callback = routine.calls.foldl Call.rerouted callback := by
  cases fails : routine.fails with
  | false => rw [outcome_of_content fails]
  | true =>
      rw [outcome_of_fails fails, List.foldl_append]
      rfl

namespace Playhead

theorem base_advance {head : Playhead} {now : Tick} (moved : (head.advance now).2.isDone = true) :
    (head.advance now).1.base = now := by
  by_cases still : now.since head.base = 0
  · have same : now = head.base := by
      rwa [Tick.since, ← UInt64.toNat_zero, UInt64.toNat_inj, UInt64.sub_eq_iff_eq_add,
        UInt64.zero_add] at still
    rw [advance, if_pos still]
    exact same.symm
  · rw [advance, if_neg still] at moved ⊢
    cases present : head.progress with
    | none => simp [present, Outcome.isDone] at moved
    | some progress => rfl

theorem advance_of_current {head : Playhead} {now : Tick} (current : head.base = now) :
    head.advance now = (head, .done ()) := by
  rw [advance, current, if_pos (by simp [Tick.since])]

end Playhead

namespace Device

/-- A device that began to run and whose playhead, if it still runs, is at the present tick. It can
be stopped without fault, now and after every call made at this tick. -/
structure Poised (device : Device) (now : Tick) : Prop where
  current : device.stage = .running → device.playhead.base = now
  dormant : device.Dormant
  begun : device.stage ≠ .idle

namespace Poised

variable {device next : Device} {now : Tick}

theorem effect {event : Option Event} (poised : device.Poised now)
    (effect : device.Effect now next event) : next.Poised now := by
  have dormant := poised.dormant.effect effect
  obtain ⟨current, _, begun⟩ := poised
  cases effect with
  | unchanged | rerouted | lowered => exact ⟨current, dormant, begun⟩
  | prepared | stopped => exact ⟨by simp, dormant, by simp⟩
  | misstarted => exact ⟨fun _ => rfl, dormant, begun⟩
  | started => exact ⟨fun _ => rfl, dormant, by simp⟩
  | jammed running stuck =>
      rw [Playhead.advance_of_current (current running)] at stuck
      cases stuck
  | read running =>
      refine ⟨fun _ => ?_, dormant, begun⟩
      rw [updated, Playhead.advance_of_current (current running)]
      exact current running
  | freed => exact ⟨by simp [free], dormant, by simp [free]⟩

theorem answerAll (poised : device.Poised now) (calls : List Call) :
    (device.answerAll now calls).1.Poised now := by
  induction calls generalizing device with
  | nil => exact poised
  | cons call rest ih => exact ih (poised.effect (device.answer_effect now call))

theorem stopped (poised : device.Poised now) :
    (device.stop now).1.stage ≠ .running ∧ (device.stop now).1.active = false ∧
      (device.stop now).1.expiry = none := by
  have dormant := poised.dormant.effect (device.stop_effect now)
  have resting : (device.stop now).1.stage ≠ .running := by
    by_cases running : device.stage = .running
    · simp [stop, running, Playhead.advance_of_current (poised.current running), Outcome.isDone]
    · rw [stop, if_neg running]
      exact running
  exact ⟨resting, dormant resting⟩

end Poised

theorem unfreed_answerAll {device : Device} {now : Tick} {calls : List Call}
    (live : device.stage ≠ .freed) (spared : ∀ call ∈ calls, call ≠ .free) :
    (device.answerAll now calls).1.stage ≠ .freed := by
  induction calls generalizing device with
  | nil => exact live
  | cons call rest ih =>
      have kept : (device.answer now call).1.stage ≠ .freed := by
        intro freed
        rcases device.stage_answer now call with same | changed
        · exact live (same.symm.trans freed)
        · rw [freed] at changed
          generalize device.stage = stage at changed
          cases changed
          exact spared .free List.mem_cons_self rfl
      exact ih kept fun later member => spared later (List.mem_cons_of_mem _ member)

theorem told_of_run {device : Device} {now : Tick} {run : CallbackRun}
    (ran : (device.poll now).2 = some run) :
    ∃ periods, (device.strike now).2 = .told periods true ∧
      ∃ routine, device.callback = some routine ∧ run = ⟨routine.name, periods,
        ((device.strike now).1.answerAll now routine.calls).2⟩ := by
  rw [poll_run, (device.strike_struck now).callback_eq] at ran
  cases struck : (device.strike now).2 with
  | quiet | faulted | fired => simp [struck] at ran
  | told periods counted =>
      cases counted with
      | false => simp [struck] at ran
      | true =>
          simp only [struck, Option.map_eq_some_iff] at ran
          obtain ⟨routine, placed, same⟩ := ran
          exact ⟨periods, rfl, routine, placed, same.symm⟩

theorem poised_of_told {device : Device} {now : Tick} {periods : Nat} {counted : Bool}
    (told : (device.strike now).2 = .told periods counted) :
    (device.strike now).1.Poised now ∧ (device.strike now).1.stage ≠ .freed := by
  have struck := device.strike_struck now
  generalize (device.strike now).1 = next at struck ⊢
  rw [told] at struck
  cases struck with
  | told due running moved =>
      refine ⟨⟨fun _ => Playhead.base_advance moved, fun resting => absurd running resting, ?_⟩, ?_⟩
      · exact fun idle => absurd (running.symm.trans idle) nofun
      · exact fun freed => absurd (running.symm.trans freed) nofun

/-- What a poll does with any callback in the place of the present one: the device's own part is the
same, and the calls of the callback follow. -/
theorem poll_fitted {device : Device} {now : Tick} {periods : Nat}
    (told : (device.strike now).2 = .told periods true) (routine : Callback) :
    (device.fitted (some routine) device.delivery).poll now =
      (((device.strike now).1.answerAll now routine.outcome).1.fitted
          (routine.outcome.foldl Call.rerouted (some routine)) (device.strike now).1.delivery,
        some ⟨routine.name, periods, ((device.strike now).1.answerAll now routine.calls).2⟩) := by
  have struck := strike_fitted device (some routine) device.delivery now
  rw [recounted_self, told] at struck
  have counted : ((device.fitted (some routine) device.delivery).strike now).2 =
      .told periods true := congrArg Prod.snd struck
  have present : ((device.fitted (some routine) device.delivery).strike now).1.callback =
      some routine := by
    rw [struck]
    rfl
  refine Prod.ext ?_ ?_
  · rw [poll_eq_answerAll, aftermath_of_told counted present, struck]
    exact congrArg Prod.fst (answerAll_fitted _ _ _ now routine.outcome)
  · rw [poll_run, counted]
    simp only [present, Option.map_some]
    rw [struck]
    simp only [answerAll_fitted]

/-- The device after its own part of a poll and some calls, if another callback was in place. -/
def driven (device : Device) (now : Tick) (calls : List Call) (callback : Option Callback) :
    Device :=
  ((device.strike now).1.answerAll now calls).1.fitted (calls.foldl Call.rerouted callback)
    (device.strike now).1.delivery

theorem answerAll_driven (device : Device) (now : Tick) (first second : List Call)
    (callback : Option Callback) :
    ((device.driven now first callback).answerAll now second).1 =
      device.driven now (first ++ second) callback := by
  rw [driven, driven, answerAll_fitted, ← answerAll_append, List.foldl_append]

theorem take_replies (device : Device) (now : Tick) (first second : List Call) :
    (device.answerAll now (first ++ second)).2.take first.length =
      (device.answerAll now first).2 := by
  induction first generalizing device with
  | nil => rfl
  | cons call rest ih => exact congrArg (_ :: ·) (ih (device.answer now call).1)

theorem start_unrefused {device : Device} (live : device.stage ≠ .freed)
    (resting : device.stage ≠ .running) (begun : device.stage ≠ .idle) (now : Tick)
    (cause : Error) : (device.start now).2 ≠ .rejected cause := by
  have ready : device.stage.mayStart = true := by
    cases stage : device.stage with
    | prepared | stopped => rfl
    | idle => exact absurd stage begun
    | running => exact absurd stage resting
    | freed => exact absurd stage live
  rw [start_eq now ready]
  cases (device.rewound now).firstExpiry? now with
  | none | some => nofun

theorem callback_driven (device : Device) (now : Tick) (routine : Callback)
    (callback : Option Callback) :
    (device.driven now routine.outcome callback).callback =
      routine.calls.foldl Call.rerouted callback :=
  routine.foldl_outcome callback

theorem driven_failing {device : Device} {now : Tick} {periods : Nat} {counted : Bool}
    (told : (device.strike now).2 = .told periods counted) {routine : Callback}
    (fails : routine.fails = true) (callback : Option Callback) :
    (device.driven now routine.outcome callback).stage ≠ .running ∧
      (device.driven now routine.outcome callback).active = false ∧
      (device.driven now routine.outcome callback).expiry = none ∧
      ((∀ call ∈ routine.calls, call ≠ .free) → ∀ later cause,
        ((device.driven now routine.outcome callback).start later).2 ≠ .rejected cause) := by
  obtain ⟨poised, live⟩ := poised_of_told told
  obtain ⟨resting, lowered, disarmed⟩ := (poised.answerAll routine.calls).stopped
  have begun := (poised.answerAll routine.outcome).begun
  have spared (calls : ∀ call ∈ routine.calls, call ≠ .free) :
      ((device.strike now).1.answerAll now routine.outcome).1.stage ≠ .freed := by
    apply unfreed_answerAll live
    rw [Routine.outcome_of_fails fails]
    intro call member
    rcases List.mem_append.mp member with own | last
    · exact calls call own
    · rw [List.mem_singleton.mp last]
      nofun
  have stopped : ((device.strike now).1.answerAll now routine.outcome).1 =
      (((device.strike now).1.answerAll now routine.calls).1.stop now).1 := by
    rw [Routine.outcome_of_fails fails, answerAll_append]
    rfl
  rw [← stopped] at resting lowered disarmed
  exact ⟨resting, lowered, disarmed, fun calls => start_unrefused (spared calls) resting begun⟩

end Device

namespace Session

/-- The same session with another callback in place. -/
def routed (session : Session) (callback : Option Callback) : Session :=
  session.holding (session.deck.device.fitted callback session.deck.device.delivery)

def Step.ofCall (call : Call) : Step := .deck (.call call)

/-- The reply to a call, if the entry is that of a call. -/
def Entry.reply? : Entry → Option PcmPlayback.Reply
  | .deck (.answered reply) _ => some reply
  | .deck .polled _ | .deck (.joined _) _ | .deck (.woke _) _ | .deck .wouldBlock _ => none
  | .deck (.total _) _ | .deck .noSuchWaiter _ | .clock _ => none

theorem run_calls (session : Session) (calls : List Call) :
    (session.run (calls.map .ofCall)).1 =
        session.holding (session.deck.device.answerAll session.clock.now calls).1 ∧
      (session.run (calls.map .ofCall)).2.filterMap Entry.reply? =
        (session.deck.device.answerAll session.clock.now calls).2 := by
  induction calls generalizing session with
  | nil => exact ⟨rfl, rfl⟩
  | cons call rest ih =>
      obtain ⟨reached, replies⟩ := ih (session.step (.ofCall call)).1
      constructor
      · exact reached
      · exact congrArg (_ :: ·) replies

theorem step_rerouting (session : Session) {call : Call} (reroutes : call.reroutes = true)
    (callback : Option Callback) :
    (session.routed callback).step (.ofCall call) = session.step (.ofCall call) := by
  cases call with
  | register | unregister => rfl
  | prepare | start | stop | trigger | pointer | status | describe | copyOut | free =>
      cases reroutes

theorem step_poll (session : Session) {periods : Nat}
    (told : (session.deck.device.strike session.clock.now).2 = .told periods true)
    (routine : Callback) :
    ∃ heard : Deck.View,
      heard.runs = [⟨routine.name, periods, ((session.deck.device.strike
          session.clock.now).1.answerAll session.clock.now routine.calls).2⟩] ∧
        (session.routed (some routine)).step (.deck .poll) =
          (session.holding (session.deck.device.driven session.clock.now routine.outcome
            (some routine)), .deck .polled heard) := by
  have polled : (session.routed (some routine)).deck.device.poll
      (session.routed (some routine)).clock.now = _ := Device.poll_fitted told routine
  simp only [step, Deck.step, Deck.poll, polled]
  exact ⟨_, rfl, rfl⟩

theorem run_poll (session : Session) {periods : Nat}
    (told : (session.deck.device.strike session.clock.now).2 = .told periods true)
    (routine : Callback) (calls : List Call) :
    ((session.routed (some routine)).run (.deck .poll :: calls.map .ofCall)).1 =
        session.holding (session.deck.device.driven session.clock.now (routine.outcome ++ calls)
          (some routine)) ∧
      ∃ heard entries,
        ((session.routed (some routine)).run (.deck .poll :: calls.map .ofCall)).2 =
          .deck .polled heard :: entries ∧
        heard.runs = [⟨routine.name, periods, ((session.deck.device.strike
          session.clock.now).1.answerAll session.clock.now routine.calls).2⟩] ∧
        entries.filterMap Entry.reply? = ((session.deck.device.driven session.clock.now
          routine.outcome (some routine)).answerAll session.clock.now calls).2 := by
  obtain ⟨heard, runs, stepped⟩ := session.step_poll told routine
  obtain ⟨reached, replies⟩ := (session.holding (session.deck.device.driven session.clock.now
    routine.outcome (some routine))).run_calls calls
  simp only [run, stepped]
  refine ⟨reached.trans ?_, heard, _, rfl, runs, replies⟩
  exact congrArg session.holding (Device.answerAll_driven _ _ _ _ _)

theorem routed_driven (session : Session) (now : Tick) (calls : List Call)
    (first second : Option Callback) :
    (session.holding (session.deck.device.driven now calls first)).routed
        (session.deck.device.driven now calls second).callback =
      session.holding (session.deck.device.driven now calls second) := rfl

section

variable {session next last : Session} {routine listener : Callback} {periods : Nat}

/-- A poll in which the callback has run is the device's own part followed by its calls. -/
theorem driven_of_polled {run : CallbackRun} {view : Deck.View}
    (placed : session.deck.device.callback = some routine)
    (inside : session.step (.deck .poll) = (next, .deck .polled view)) (ran : run ∈ view.runs) :
    ∃ periods, (session.deck.device.strike session.clock.now).2 = .told periods true ∧
      run = ⟨routine.name, periods, ((session.deck.device.strike
        session.clock.now).1.answerAll session.clock.now routine.calls).2⟩ ∧
      view.runs = [run] ∧
      next = session.holding (session.deck.device.driven session.clock.now routine.outcome
        (some routine)) := by
  have viewed : (session.deck.device.poll session.clock.now).2.toList = view.runs :=
    congrArg Deck.View.runs (Entry.deck.inj (congrArg Prod.snd inside)).2
  rw [← viewed] at ran
  obtain ⟨periods, told, _, found, recorded⟩ := Device.told_of_run (Option.mem_toList.mp ran)
  cases Option.some.inj (found.symm.trans placed)
  have own : session.routed (some routine) = session := by
    rw [← placed]
    rfl
  obtain ⟨_, runs, polls⟩ := session.step_poll told routine
  rw [own, inside] at polls
  cases polls
  exact ⟨periods, told, recorded, runs.trans (congrArg (· :: []) recorded.symm), rfl⟩

/-- A callback that makes no calls and does not fail leaves everything to the calls after it. -/
theorem driven_of_listened {heard : Deck.View} {entries : List Entry} {calls : List Call}
    (told : (session.deck.device.strike session.clock.now).2 = .told periods true)
    (quiet : listener.calls = []) (content : listener.fails = false)
    (outside : (session.routed (some listener)).run (.deck .poll :: calls.map .ofCall) =
      (last, .deck .polled heard :: entries)) :
    heard.runs = [⟨listener.name, periods, []⟩] ∧
      entries.filterMap Entry.reply? = ((session.deck.device.strike
        session.clock.now).1.answerAll session.clock.now calls).2 ∧
      last = session.holding (session.deck.device.driven session.clock.now calls
        (some listener)) := by
  obtain ⟨reached, _, _, listed, hears, replies⟩ := session.run_poll told listener calls
  rw [outside] at reached listed
  cases listed
  rw [Routine.outcome_of_content content, quiet] at reached replies
  rw [quiet] at hears
  rw [Device.driven, Device.answerAll_fitted] at replies
  exact ⟨hears, replies, reached⟩

theorem driven_of_stopped (fails : routine.fails = true)
    (told : (session.deck.device.strike session.clock.now).2 = .told periods true) :
    ((session.routed (some { routine with fails := false })).run
        [.deck .poll, .ofCall .stop]).1 =
      session.holding (session.deck.device.driven session.clock.now routine.outcome
        (some { routine with fails := false })) := by
  obtain ⟨gently, _⟩ := session.run_poll told { routine with fails := false } [.stop]
  rwa [Routine.outcome_of_content rfl, ← Routine.outcome_of_fails fails] at gently

end

/-- What a callback does in a poll could be done from outside. The poll is made with a callback that
only listens, and the calls of the first one are made after it at the same tick, with a stop at the
end if the first one fails: the replies are the same, and the same session is left, up to the
callback in place if no call has changed it. A failing callback leaves a device at rest, as if it
had ended well and a stop had come after the poll, and unless it freed the device a start will not
be refused. -/
theorem callbacks_from_outside {session next last : Session} {routine listener : Callback}
    {run : CallbackRun} {view heard : Deck.View} {entries : List Entry}
    (placed : session.deck.device.callback = some routine)
    (inside : session.step (.deck .poll) = (next, .deck .polled view)) (ran : run ∈ view.runs)
    (quiet : listener.calls = []) (content : listener.fails = false)
    (outside : (session.routed (some listener)).run
      (.deck .poll :: routine.outcome.map .ofCall) = (last, .deck .polled heard :: entries)) :
    (view.runs = [run] ∧ run.name = routine.name ∧
      heard.runs = [⟨listener.name, run.periods, []⟩] ∧
      run.replies = (entries.filterMap Entry.reply?).take routine.calls.length) ∧
    next = last.routed next.deck.device.callback ∧
    ((∃ call ∈ routine.calls, call.reroutes = true) → next = last) ∧
    ((∀ call ∈ routine.calls, call.reroutes = false) →
      next.deck.device.callback = some routine ∧ last.deck.device.callback = some listener) ∧
    (∀ call steps, call.reroutes = true →
      next.run (.ofCall call :: steps) = last.run (.ofCall call :: steps)) ∧
    (routine.fails = true →
      next.deck.device.stage ≠ .running ∧ next.deck.device.active = false ∧
      next.deck.device.expiry = none ∧
      next = (((session.routed (some { routine with fails := false })).run
        [.deck .poll, .ofCall .stop]).1.routed next.deck.device.callback) ∧
      ((∀ call ∈ routine.calls, call ≠ .free) →
        ∀ now cause, (next.deck.device.start now).2 ≠ .rejected cause)) := by
  obtain ⟨periods, told, recorded, runs, rfl⟩ := driven_of_polled placed inside ran
  obtain ⟨hears, replies, reached⟩ := driven_of_listened told quiet content outside
  subst reached
  have same := session.routed_driven session.clock.now routine.outcome (some listener)
    (some routine)
  refine ⟨⟨runs, ?_, ?_, ?_⟩, same.symm, ?_, ?_, ?_, ?_⟩
  · rw [recorded]
  · rw [hears, recorded]
  · rw [replies, recorded]
    exact (Device.take_replies _ _ routine.calls _).symm
  · rintro ⟨call, member, reroutes⟩
    have inside : call ∈ routine.outcome := List.mem_append_left _ member
    have callbacks := Call.foldl_rerouted_eq inside reroutes (some routine) (some listener)
    simp only [Device.driven, callbacks]
  · intro keep
    constructor
    · exact (Device.callback_driven _ _ _ _).trans (Call.foldl_rerouted_self keep _)
    · exact (Device.callback_driven _ _ _ _).trans (Call.foldl_rerouted_self keep _)
  · intro call steps reroutes
    rw [← same]
    simp only [Session.run, step_rerouting _ reroutes]
  · intro fails
    obtain ⟨resting, lowered, disarmed, starts⟩ :=
      Device.driven_failing told fails (some routine)
    refine ⟨resting, lowered, disarmed, ?_, starts⟩
    rw [driven_of_stopped fails told]
    exact (session.routed_driven _ _ _ _).symm

/-- A callback at work in the middle of a late poll: it starts the device anew, reads its position
and fails. It is still in place afterwards, and the device waits, stopped, for a start. -/
theorem callbacks_from_outside_restarting :
    ∃ (opened session next last : Session) (steps : List Step) (routine : Callback),
      Session.begin {} ⟨1000, 7⟩ = .ok opened ∧ (opened.run steps).1 = session ∧
        session.deck.device.callback = some routine ∧ routine.fails = true ∧
        (session.step (.deck .poll)).1 = next ∧
        ((session.routed (some ⟨"listener", [], false⟩)).run
          (.deck .poll :: routine.outcome.map .ofCall)).1 = last ∧
        (session.step (.deck .poll)).2 = .deck .polled ⟨.stopped, false, 5,
          [⟨"again", 5, [.ended (.done ()), .ended (.done ()), .position (.done 561)]⟩], []⟩ ∧
        next = last.routed (some routine) ∧ next.deck.device.stage ≠ .running ∧
        ∀ now cause, (next.deck.device.start now).2 ≠ .rejected cause := by
  let opened : Session := ⟨⟨1000, 7⟩, ⟨({} : Template).idleDevice 1000 none, []⟩⟩
  let routine : Callback := ⟨"again", [.stop, .start, .pointer], true⟩
  let listener : Callback := ⟨"listener", [], false⟩
  let run : CallbackRun :=
    ⟨"again", 5, [.ended (.done ()), .ended (.done ()), .position (.done 561)]⟩
  let steps : List Step :=
    [.deck .join, .deck (.call (.prepare ⟨11025, 3000, 700⟩)), .deck (.call .start),
      .clock (.forward 323)] ++ [.deck (.call (.register routine))]
  have begins : Session.begin {} ⟨1000, 7⟩ = .ok opened := rfl
  obtain ⟨session, reached⟩ : ∃ session, (opened.run steps).1 = session := ⟨_, rfl⟩
  obtain ⟨next, polled⟩ : ∃ next, (session.step (.deck .poll)).1 = next := ⟨_, rfl⟩
  have entry : (session.step (.deck .poll)).2 =
      .deck .polled ⟨.stopped, false, 5, [run], []⟩ := by
    rw [← reached]
    decide +kernel
  have placed : session.deck.device.callback = some routine := by
    rw [← reached, run_append]
    rfl
  obtain ⟨last, entries, outside⟩ : ∃ last entries, (session.routed (some listener)).run
      (.deck .poll :: routine.outcome.map .ofCall) = (last, entries) := ⟨_, _, rfl⟩
  obtain ⟨heard, rest, listed⟩ : ∃ heard rest, entries = .deck .polled heard :: rest :=
    ⟨_, _, (congrArg Prod.snd outside).symm⟩
  rw [listed] at outside
  obtain ⟨_, same, _, kept, _, failed⟩ := callbacks_from_outside placed
    (Prod.ext polled entry) (List.mem_singleton_self run) rfl rfl outside
  obtain ⟨resting, _, _, _, starts⟩ := failed rfl
  rw [(kept (by decide)).1] at same
  exact ⟨opened, session, next, last, steps, routine, begins, reached, placed, rfl, polled,
    congrArg Prod.fst outside, entry, same, resting, starts (by simp [routine])⟩

end Session

end PcmPlayback
