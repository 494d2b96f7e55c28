import PcmPlayback.Proofs.Reentry

/-!
# What ends playback

A running device goes on running through a poll, however late, as long as its callback returns and
does not itself end playback. One thing else can end it: the deliveries are counted in words, and a
notification that no longer fits stops the device before its callback could run.
-/

set_option autoImplicit false

namespace PcmPlayback

/-- Whether a call takes a running device out of playback. -/
def Call.ends : Call → Bool
  | .stop | .trigger .stop | .trigger .suspend | .free => true
  | .prepare _ | .start | .trigger .start | .trigger .resume | .pointer | .status => false
  | .describe | .copyOut _ _ | .register _ | .unregister => false

/-- A callback that returns and does not itself end playback. -/
structure Routine.Spares (routine : Callback) : Prop where
  returns : routine.fails = false
  calls : ∀ call ∈ routine.calls, call.ends = false

/-- The callback in place once the present one has made its calls. -/
def Routine.heir (callback : Option Callback) : Option Callback :=
  callback.bind fun routine => routine.calls.foldl Call.rerouted (some routine)

@[simp] theorem Routine.heir_none : Routine.heir none = none := rfl

/-- Whether one more notification, of so many periods, no longer fits into the counters. -/
def Delivery.Full (delivery : Delivery) (periods : Nat) : Prop :=
  wordLimit ≤ delivery.edges + 1 ∨ wordLimit ≤ delivery.periods + periods

theorem Delivery.isDone_raise_iff {delivery : Delivery} {periods : Nat} :
    (delivery.raise periods).2.isDone = true ↔ ¬ delivery.Full periods := by
  unfold raise Full
  by_cases edges : wordLimit ≤ delivery.edges + 1
  · simp [edges, Outcome.isDone]
  · by_cases counted : wordLimit ≤ delivery.periods + periods
    · simp [edges, counted, Outcome.isDone]
    · simp [edges, counted, Outcome.isDone]

namespace Device

/-- Whether a poll drains a number of periods, which are to be handed on to the consumers. -/
def HandsOn (device : Device) (now : Tick) (periods : Nat) : Prop :=
  device.isDue now = true ∧ (device.disarm.tend now).2 = some periods ∧ 0 < periods

variable {device : Device} {now : Tick}

/-- A call that does not end playback changes nothing but the callback on a device that runs and is
up to date. -/
theorem answer_spared (running : device.stage = .running) (current : device.playhead.base = now)
    {call : Call} (spared : call.ends = false) :
    (device.answer now call).1 =
      device.fitted (call.rerouted device.callback) device.delivery := by
  have started : (device.start now).1 = device := by
    rw [start, running]
    rfl
  cases call with
  | prepare setup =>
      rcases device.prepare_cases setup with ⟨allowed, _, _⟩ | ⟨same, _⟩
      · rw [running] at allowed
        cases allowed
      · exact same
  | start => exact started
  | trigger command =>
      cases command with
      | start | resume => exact started
      | stop | suspend => cases spared
  | pointer =>
      simp only [answer, pointer, Playhead.advance_of_current current]
      split <;> rfl
  | status | describe | copyOut | register | unregister => rfl
  | stop | free => cases spared

theorem answerAll_spared (running : device.stage = .running)
    (current : device.playhead.base = now) {calls : List Call}
    (spared : ∀ call ∈ calls, call.ends = false) :
    (device.answerAll now calls).1 =
      device.fitted (calls.foldl Call.rerouted device.callback) device.delivery := by
  induction calls generalizing device with
  | nil => rfl
  | cons call rest ih =>
      have first := answer_spared running current (spared call List.mem_cons_self)
      have later : ∀ call ∈ rest, call.ends = false :=
        fun call member => spared call (List.mem_cons_of_mem _ member)
      have goes : (device.answer now call).1.stage = .running := by
        rw [first]
        exact running
      have stays : (device.answer now call).1.playhead.base = now := by
        rw [first]
        exact current
      calc (device.answerAll now (call :: rest)).1
          = ((device.answer now call).1.answerAll now rest).1 := rfl
        _ = _ := ih goes stays later
        _ = _ := by rw [first]; rfl

theorem Struck.active_eq {next : Device} {strike : Strike}
    (struck : device.Struck now next strike) : next.active = device.active := by
  cases struck <;> rfl

theorem counted_of_told {periods : Nat} {counted : Bool}
    (told : (device.strike now).2 = .told periods counted) :
    counted = (device.delivery.raise periods).2.isDone := by
  have struck := device.strike_struck now
  rw [told] at struck
  generalize (device.strike now).1 = next at struck
  cases struck with
  | told => rfl

/-- While the device runs, the periods that a poll drains are those that it tells. -/
theorem told_iff_handsOn (running : device.stage = .running) (active : device.active = true)
    {periods : Nat} :
    (∃ counted, (device.strike now).2 = .told periods counted) ↔ device.HandsOn now periods := by
  unfold HandsOn
  by_cases due : device.isDue now = true
  · rw [strike, if_pos ⟨due, active, running⟩]
    rcases device.disarm.tend now with ⟨tended, _ | drained⟩
    · simp
    · by_cases some : 0 < drained
      · simp only [some, if_true, Strike.told.injEq, exists_and_left, exists_eq', and_true, due,
          true_and, Option.some.injEq]
        constructor
        · rintro rfl
          exact ⟨rfl, some⟩
        · exact And.left
      · simp only [some, if_false, reduceCtorEq, exists_false, due, true_and, Option.some.injEq,
          false_iff, not_and]
        rintro rfl
        exact some
  · rw [strike, if_neg fun fires => due fires.1]
    simp [due]

/-- A poll that hands nothing on makes no calls, so it leaves the stage and the flag alone. -/
theorem poll_of_untold (untold : ∀ periods counted, (device.strike now).2 ≠ .told periods counted) :
    (device.poll now).1.stage = device.stage ∧ (device.poll now).1.active = device.active := by
  have struck := device.strike_struck now
  have silent : device.aftermath now = [] := by
    rw [aftermath]
    cases ended : (device.strike now).2 with
    | quiet | faulted | fired => rfl
    | told periods counted => exact absurd ended (untold periods counted)
  rw [poll_eq_answerAll, silent]
  exact ⟨struck.stage_eq, struck.active_eq⟩

/-- What was counted is left to the callback, which spares the device. -/
theorem poll_of_counted (running : device.stage = .running)
    (spares : ∀ callback, device.callback = some callback → callback.Spares) {periods : Nat}
    (told : (device.strike now).2 = .told periods true) :
    (device.poll now).1 =
      (device.strike now).1.fitted (Routine.heir device.callback)
        (device.strike now).1.delivery := by
  have struck := device.strike_struck now
  have current := (poised_of_told told).1.current (struck.stage_eq.trans running)
  rw [poll_eq_answerAll]
  cases present : device.callback with
  | none =>
      have absent : (device.strike now).1.callback = none := struck.callback_eq.trans present
      have silent : device.aftermath now = [] := by
        rw [aftermath, told, absent]
        rfl
      rw [silent, Routine.heir_none, ← absent]
      rfl
  | some callback =>
      obtain ⟨returns, calls⟩ := spares callback present
      have placed := struck.callback_eq.trans present
      have heard := aftermath_of_told told placed
      rw [returns, if_neg Bool.false_ne_true, List.append_nil] at heard
      rw [heard, answerAll_spared (struck.stage_eq.trans running) current calls, placed]
      rfl

/-- What can no longer be counted stops the device, and nobody hears of it. -/
theorem poll_of_uncounted (running : device.stage = .running) {periods : Nat}
    (told : (device.strike now).2 = .told periods false) :
    (device.poll now).1.stage = .stopped ∧ (device.poll now).1.active = false ∧
      (device.poll now).2 = none := by
  have struck := device.strike_struck now
  have runs : (device.strike now).1.stage = .running := struck.stage_eq.trans running
  have current := (poised_of_told told).1.current runs
  have stops : (device.poll now).1 = ((device.strike now).1.stop now).1 := by
    rw [poll_eq_answerAll, aftermath, told]
    rfl
  refine ⟨?_, ?_, ?_⟩
  · simp [stops, stop, runs, Playhead.advance_of_current current, Outcome.isDone]
  · simp [stops, stop, runs, Playhead.advance_of_current current, Outcome.isDone, disarm]
  · rw [poll_run, told]

/-- A device whose buffer leaves room is active while it runs, whatever other buffers it had before.
Only a stop that cannot bring the playhead up to date would come between. -/
def Lively (device : Device) : Prop :=
  ∀ timing, device.playhead.timing? = some timing → timing.Roomy →
    device.playhead.Placed ∧ (device.stage = .running → device.active = true)

namespace Lively

theorem updated (lively : device.Lively) {timing : Timing}
    (present : (device.playhead.advance now).1.timing? = some timing) (roomy : timing.Roomy) :
    (device.playhead.advance now).1.Placed ∧ (device.playhead.advance now).2.isDone = true ∧
      (device.stage = .running → device.active = true) := by
  rw [Playhead.timing?_advance] at present
  obtain ⟨placed, active⟩ := lively timing present roomy
  have configured : device.playhead.isConfigured = true := by
    obtain ⟨progress, found, _⟩ := Option.map_eq_some_iff.mp present
    rw [Playhead.isConfigured, found, Option.isSome_some]
  obtain ⟨moved, done⟩ := placed.advance configured
    (fun other found => by cases present.symm.trans found; exact roomy) now
  exact ⟨moved, done, active⟩

theorem effect {next : Device} {event : Option Event} (lively : device.Lively)
    (effect : device.Effect now next event) : next.Lively := by
  intro timing present roomy
  cases effect with
  | unchanged | rerouted => exact lively timing present roomy
  | prepared setup size allowed sound => exact ⟨.start sound, nofun⟩
  | misstarted allowed => exact lively timing present roomy
  | started => exact ⟨(lively timing present roomy).1, fun _ => rfl⟩
  | lowered idle =>
      exact ⟨(lively timing present roomy).1, fun running => absurd running idle⟩
  | stopped => exact ⟨(lively.updated present roomy).1, nofun⟩
  | jammed running stuck =>
      obtain ⟨_, done, _⟩ := lively.updated present roomy
      cases stuck.symm.trans done
  | read =>
      obtain ⟨placed, _, active⟩ := lively.updated present roomy
      exact ⟨placed, active⟩
  | freed => exact ⟨(lively timing present roomy).1, nofun⟩

theorem struck {next : Device} {strike : Strike} (lively : device.Lively)
    (struck : device.Struck now next strike) : next.Lively := by
  intro timing present roomy
  cases struck with
  | early | asleep => exact lively timing present roomy
  | faulted =>
      obtain ⟨placed, _, active⟩ := lively.updated present roomy
      exact ⟨placed, active⟩
  | fired | told =>
      obtain ⟨placed, _, active⟩ :=
        lively.updated ((Playhead.timing?_takePending _).symm.trans present) roomy
      exact ⟨placed.takePending, active⟩

end Lively

end Device

namespace Session

variable {template : Template} {clock : ManualClock} {session : Session}

theorem Shows.lively (opened : Session.begin template clock = .ok session) {steps : List Step}
    {scene : Scene} (shown : session.Shows steps scene) : scene.device.Lively :=
  shown.invariant (fun _ => nofun) Device.Lively.effect Device.Lively.struck opened

/-- What ends playback, after every run, of a device whose buffer leaves room. A poll of a running
device whose callback spares it leaves it running, at whatever reading of the clock, exactly if what
it hands on still fits into the counters of the deliveries. The callback is then told just that
number of periods; otherwise the device stops and the callback does not run. -/
theorem playback_ends_iff (opened : Session.begin template clock = .ok session)
    (steps : List Step) {timing : Timing}
    (set : (session.run steps).1.deck.device.playhead.timing? = some timing)
    (roomy : timing.Roomy)
    (running : (session.run steps).1.deck.device.stage = .running)
    (spares : ∀ callback, (session.run steps).1.deck.device.callback = some callback →
      callback.Spares) (now : Tick) :
    (((session.run steps).1.deck.device.poll now).1.stage = .running ∧
        ((session.run steps).1.deck.device.poll now).1.active = true ↔
      ∀ periods, (session.run steps).1.deck.device.HandsOn now periods →
        ¬ (session.run steps).1.deck.device.delivery.Full periods) ∧
    ∀ periods, (session.run steps).1.deck.device.HandsOn now periods →
      (¬ (session.run steps).1.deck.device.delivery.Full periods →
        ((session.run steps).1.deck.device.poll now).2.map CallbackRun.periods =
          (session.run steps).1.deck.device.callback.map fun _ => periods) ∧
      ((session.run steps).1.deck.device.delivery.Full periods →
        ((session.run steps).1.deck.device.poll now).1.stage = .stopped ∧
          ((session.run steps).1.deck.device.poll now).1.active = false ∧
          ((session.run steps).1.deck.device.poll now).2 = none) := by
  have lively : (session.run steps).1.deck.device.Lively :=
    (session.shows_last steps).lively opened
  have active : (session.run steps).1.deck.device.active = true :=
    (lively timing set roomy).2 running
  generalize (session.run steps).1.deck.device = device at running spares active ⊢
  have told {periods : Nat} (hands : device.HandsOn now periods) :
      (device.strike now).2 = .told periods (device.delivery.raise periods).2.isDone := by
    obtain ⟨counted, told⟩ := (Device.told_iff_handsOn running active).mpr hands
    rw [told, Device.counted_of_told told]
  have stops {periods : Nat} (hands : device.HandsOn now periods)
      (full : device.delivery.Full periods) :
      (device.poll now).1.stage = .stopped ∧ (device.poll now).1.active = false ∧
        (device.poll now).2 = none := by
    have uncounted : (device.delivery.raise periods).2.isDone = false := by
      rw [← Bool.not_eq_true, Delivery.isDone_raise_iff]
      exact fun fits => fits full
    exact Device.poll_of_uncounted running ((told hands).trans (by rw [uncounted]))
  refine ⟨⟨?_, ?_⟩, fun periods hands => ⟨?_, stops hands⟩⟩
  · rintro ⟨goes, _⟩ periods hands full
    rw [(stops hands full).1] at goes
    cases goes
  · intro fits
    cases ended : (device.strike now).2 with
    | quiet | faulted | fired =>
        have same := @Device.poll_of_untold device now (by simp [ended])
        exact ⟨same.1.trans running, same.2.trans active⟩
    | told periods counted =>
        have hands := (Device.told_iff_handsOn running active).mp ⟨counted, ended⟩
        have counts : counted = true := by
          rw [Device.counted_of_told ended, Delivery.isDone_raise_iff]
          exact fits periods hands
        subst counts
        have polled := Device.poll_of_counted running spares ended
        have struck := device.strike_struck now
        rw [polled]
        exact ⟨struck.stage_eq.trans running, struck.active_eq.trans active⟩
  · intro fits
    rw [Device.poll_run_periods, told hands, Delivery.isDone_raise_iff.mpr fits]

/-- A poll that is ten million billion seconds late: its callback hears of all the periods at once,
puts another in its place, and playback goes on. -/
theorem playback_ends_iff_late :
    ∃ (session : Session) (steps : List Step) (timing : Timing) (now : Tick) (periods : Nat),
      Session.begin {} ⟨1, 0⟩ = .ok session ∧
        (session.run steps).1.deck.device.playhead.timing? = some timing ∧ timing.Roomy ∧
        (session.run steps).1.deck.device.HandsOn now periods ∧ periods = 15000000000000000000 ∧
        ((session.run steps).1.deck.device.poll now).1.stage = .running ∧
        ((session.run steps).1.deck.device.poll now).1.active = true ∧
        ((session.run steps).1.deck.device.poll now).2.map CallbackRun.periods = some periods := by
  let session : Session := ⟨⟨1, 0⟩, ⟨({} : Template).idleDevice 1 none, []⟩⟩
  let routine : Callback := ⟨"swap", [.pointer, .register ⟨"second", [], false⟩], false⟩
  let steps : List Step :=
    [.deck (.call (.prepare ⟨48000, 64, 32⟩)), .deck (.call .start)] ++
      [.deck (.call (.register routine))]
  let timing : Timing := ⟨⟨48000, 64, 32⟩, 1⟩
  let now : Tick := 10000000000000000
  have opened : Session.begin {} ⟨1, 0⟩ = .ok session := rfl
  have set : (session.run steps).1.deck.device.playhead.timing? = some timing := by
    decide +kernel
  have roomy : timing.Roomy := by decide
  have running : (session.run steps).1.deck.device.stage = .running := by decide +kernel
  have placed : (session.run steps).1.deck.device.callback = some routine := by
    rw [run_append]
    rfl
  have drained : (session.run steps).1.deck.device.HandsOn now 15000000000000000000 :=
    ⟨by decide +kernel, by decide +kernel, by decide⟩
  have new : (session.run steps).1.deck.device.delivery = {} := by decide +kernel
  obtain ⟨goes, hands⟩ := playback_ends_iff opened steps set roomy running
    (fun callback found => by
      cases Option.some.inj (placed.symm.trans found)
      exact ⟨rfl, by simp [routine, Call.ends]⟩) now
  have fits : ∀ periods, (session.run steps).1.deck.device.HandsOn now periods →
      ¬ (session.run steps).1.deck.device.delivery.Full periods := by
    intro periods found
    cases Option.some.inj (drained.2.1.symm.trans found.2.1)
    rw [new, Delivery.Full]
    decide
  have heard := (hands _ drained).1 (fits _ drained)
  rw [placed] at heard
  obtain ⟨still, active⟩ := goes.mpr fits
  exact ⟨session, steps, timing, now, _, opened, set, roomy, drained, rfl, still, active, heard⟩

/-- A poll that ends playback although nobody stopped it: as many periods again, after another ten
million billion seconds, no longer fit into the counter of periods, and the callback in place does
not hear of them. -/
theorem playback_ends_uncounted :
    ∃ (session : Session) (steps : List Step) (timing : Timing) (routine : Callback) (now : Tick),
      Session.begin {} ⟨1, 0⟩ = .ok session ∧
        (session.run steps).1.deck.device.playhead.timing? = some timing ∧ timing.Roomy ∧
        (session.run steps).1.deck.device.stage = .running ∧
        (session.run steps).1.deck.device.callback = some routine ∧ routine.Spares ∧
        (session.run steps).1.deck.device.HandsOn now 15000000000000000000 ∧
        ((session.run steps).1.deck.device.poll now).1.stage = .stopped ∧
        ((session.run steps).1.deck.device.poll now).1.active = false ∧
        ((session.run steps).1.deck.device.poll now).2 = none := by
  let session : Session := ⟨⟨1, 0⟩, ⟨({} : Template).idleDevice 1 none, []⟩⟩
  let routine : Callback := ⟨"count", [], false⟩
  let steps : List Step :=
    [.deck (.call (.prepare ⟨48000, 64, 32⟩)), .deck (.call .start),
      .clock (.forward 10000000000000000), .deck .poll] ++
      [.deck (.call (.register routine))]
  let timing : Timing := ⟨⟨48000, 64, 32⟩, 1⟩
  let now : Tick := 20000000000000000
  have placed : (session.run steps).1.deck.device.callback = some routine := by
    rw [run_append]
    rfl
  exact ⟨session, steps, timing, routine, now, rfl, by decide +kernel, by decide, by decide +kernel,
    placed,
    ⟨rfl, nofun⟩, ⟨by decide +kernel, by decide +kernel, by decide⟩, by decide +kernel,
    by decide +kernel, by decide +kernel⟩

end Session

end PcmPlayback
