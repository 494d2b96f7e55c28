import PcmPlayback.Proofs.Residue

/-!
# Starts that fault

A start whose first expiry leaves the clock's word faults with the time base and the source already
set. Nobody can tell afterwards: a device at rest looks at neither, and the next start sets them
anew.
-/

set_option autoImplicit false

namespace PcmPlayback

namespace Device

/-- The device with another time base and another place in the source. -/
def astray (device : Device) (base : Tick) (source : Option LoopedSource) : Device :=
  { device with playhead := device.playhead.rebase base, source := source }

/-- Two devices that differ at most in the time base and the place in the source, and not at all
while they run. -/
structure Unsettled (other device : Device) : Prop where
  same : other = device.astray other.playhead.base other.source
  bytes : other.source.map LoopedSource.bytes = device.source.map LoopedSource.bytes
  running : device.stage = .running → other = device

theorem Unsettled.refl (device : Device) : device.Unsettled device := ⟨rfl, rfl, fun _ => rfl⟩

theorem Unsettled.resembles {other device : Device} (unsettled : other.Unsettled device) :
    other.Resembles {} device := by
  rw [unsettled.same]
  exact ⟨rfl, rfl, rfl, (Delivery.after_nothing _).symm⟩

section

variable {device : Device} {base now : Tick} {source : Option LoopedSource}
  (bytes : source.map LoopedSource.bytes = device.source.map LoopedSource.bytes)
  (resting : device.stage ≠ .running)

include bytes resting

theorem astray_unsettled : (device.astray base source).Unsettled device :=
  ⟨rfl, bytes, fun running => absurd running resting⟩

theorem prepare_astray (setup : StreamSetup) :
    ((device.astray base source).prepare setup).2 = (device.prepare setup).2 ∧
      ((device.astray base source).prepare setup).1.Unsettled (device.prepare setup).1 := by
  have profile : (device.astray base source).profile = device.profile := rfl
  have stage : (device.astray base source).stage = device.stage := rfl
  have still : (device.astray base source).Unsettled device := astray_unsettled bytes resting
  simp only [prepare, profile, stage]
  split
  · split
    · split
      · split
        · exact ⟨rfl, rfl, bytes, by simp⟩
        · exact ⟨rfl, still⟩
      · exact ⟨rfl, still⟩
    · exact ⟨rfl, still⟩
  · exact ⟨rfl, still⟩

/-- A start that is allowed sets all that a device at rest may have left over. -/
theorem start_astray :
    ((device.astray base source).start now).2 = (device.start now).2 ∧
      ((device.astray base source).start now).1.Unsettled (device.start now).1 := by
  by_cases allowed : device.stage.mayStart = true
  · have ready : (device.astray base source).stage.mayStart = true := allowed
    have rewinds := LoopedSource.rewind_congr bytes
    have rewound : (device.astray base source).rewound now = device.rewound now := by
      simp only [Device.rewound, astray, Playhead.rebase, rewinds]
    have same : (device.astray base source).start now = device.start now := by
      rw [start_eq now allowed, start_eq now ready, rewound]
    rw [same]
    exact ⟨rfl, .refl _⟩
  · have refused : ¬ (device.astray base source).stage.mayStart = true := allowed
    rw [start, start, if_neg allowed, if_neg refused]
    exact ⟨rfl, astray_unsettled bytes resting⟩

theorem stop_astray :
    ((device.astray base source).stop now).2 = (device.stop now).2 ∧
      ((device.astray base source).stop now).1.Unsettled (device.stop now).1 := by
  have rests : ¬ (device.astray base source).stage = .running := resting
  rw [stop, stop, if_neg resting, if_neg rests]
  exact ⟨rfl, rfl, bytes, fun running => absurd running resting⟩

theorem answer_astray (call : Call) :
    ((device.astray base source).answer now call).2 = (device.answer now call).2 ∧
      ((device.astray base source).answer now call).1.Unsettled (device.answer now call).1 := by
  have starts := @start_astray device base now source bytes resting
  have stops := @stop_astray device base now source bytes resting
  cases call with
  | prepare setup =>
      obtain ⟨ended, unsettled⟩ := @prepare_astray device base source bytes resting setup
      exact ⟨congrArg Reply.ended ended, unsettled⟩
  | start => exact ⟨congrArg Reply.ended starts.1, starts.2⟩
  | stop => exact ⟨congrArg Reply.ended stops.1, stops.2⟩
  | trigger command =>
      cases command with
      | start | resume => exact ⟨congrArg Reply.ended starts.1, starts.2⟩
      | stop | suspend => exact ⟨congrArg Reply.ended stops.1, stops.2⟩
  | pointer =>
      have rests : ¬ (device.playhead.isConfigured = true ∧ device.stage = .running) :=
        fun reads => resting reads.2
      have alike : ¬ ((device.astray base source).playhead.isConfigured = true ∧
          (device.astray base source).stage = .running) := rests
      simp only [answer, pointer, if_neg rests, if_neg alike]
      exact ⟨rfl, astray_unsettled bytes resting⟩
  | status | describe | copyOut => exact ⟨rfl, astray_unsettled bytes resting⟩
  | register | unregister => exact ⟨rfl, rfl, bytes, fun running => absurd running resting⟩
  | free => exact ⟨rfl, @astray_unsettled device.free base source bytes (by simp [free])⟩

theorem poll_astray :
    ((device.astray base source).poll now).2 = (device.poll now).2 ∧
      ((device.astray base source).poll now).1.Unsettled (device.poll now).1 := by
  have due : (device.astray base source).isDue now = device.isDue now := rfl
  have asleep : ¬ (device.disarm.active = true ∧ device.disarm.stage = .running) :=
    fun awake => resting awake.2
  have alike : ¬ ((device.astray base source).disarm.active = true ∧
      (device.astray base source).disarm.stage = .running) := asleep
  rw [poll, poll, due]
  split
  · rw [expire, expire, if_neg asleep, if_neg alike]
    exact ⟨rfl, rfl, bytes, fun running => absurd running resting⟩
  · exact ⟨rfl, astray_unsettled bytes resting⟩

end

namespace Unsettled

variable {device other : Device} {now : Tick}

theorem answer (unsettled : other.Unsettled device) (call : Call) :
    (other.answer now call).2 = (device.answer now call).2 ∧
      (other.answer now call).1.Unsettled (device.answer now call).1 := by
  obtain ⟨same, bytes, running⟩ := unsettled
  by_cases runs : device.stage = .running
  · rw [running runs]
    exact ⟨rfl, .refl _⟩
  · rw [same]
    exact answer_astray bytes runs call

theorem answerAll (unsettled : other.Unsettled device) (calls : List Call) :
    (other.answerAll now calls).2 = (device.answerAll now calls).2 ∧
      (other.answerAll now calls).1.Unsettled (device.answerAll now calls).1 := by
  induction calls generalizing device other with
  | nil => exact ⟨rfl, unsettled⟩
  | cons call rest ih =>
      obtain ⟨reply, still⟩ := unsettled.answer call
      obtain ⟨replies, last⟩ := ih still
      refine ⟨?_, last⟩
      simp only [Device.answerAll, reply, replies]

theorem poll (unsettled : other.Unsettled device) :
    (other.poll now).2 = (device.poll now).2 ∧
      (other.poll now).1.Unsettled (device.poll now).1 := by
  obtain ⟨same, bytes, running⟩ := unsettled
  by_cases runs : device.stage = .running
  · rw [running runs]
    exact ⟨rfl, .refl _⟩
  · rw [same]
    exact poll_astray bytes runs

end Unsettled

/-! ## Faulting starts -/

/-- The ticks from a start to its first expiry: what is left of the present period, or one whole
period on the grid. -/
def firstDelay? (device : Device) : Option Nat :=
  match device.profile.schedule with
  | .boundary => device.playhead.delay?
  | .grid => some device.periodTicks

theorem firstExpiry?_eq (device : Device) (now : Tick) :
    device.firstExpiry? now = device.firstDelay?.bind now.after? := by
  rw [firstExpiry?, firstDelay?]
  cases device.profile.schedule <;> rfl

theorem firstDelay?_rewound (device : Device) (now : Tick) :
    (device.rewound now).firstDelay? = device.firstDelay? := rfl

theorem firstDelay?_of_configured {device : Device}
    (configured : device.playhead.isConfigured = true) :
    ∃ delay, device.firstDelay? = some delay := by
  obtain ⟨progress, present⟩ := Option.isSome_iff_exists.mp configured
  rw [firstDelay?]
  split
  · exact ⟨progress.delay, by rw [Playhead.delay?, present]; rfl⟩
  · exact ⟨device.periodTicks, rfl⟩

variable {device : Device} {now : Tick}

theorem start_fault_iff (equipped : device.Equipped) :
    (device.start now).2 = .fault ↔
      (device.stage = .prepared ∨ device.stage = .stopped) ∧
        ∃ delay, device.firstDelay? = some delay ∧ wordLimit ≤ now.toNat + delay := by
  by_cases allowed : device.stage.mayStart = true
  · have ready := Stage.mayStart_iff.mp allowed
    obtain ⟨delay, found⟩ := firstDelay?_of_configured (equipped.configured (ready.imp_right .inr))
    have first : (device.rewound now).firstExpiry? now = now.after? delay := by
      rw [firstExpiry?_eq, firstDelay?_rewound, found, Option.bind_some]
    have leaves : (∃ other, device.firstDelay? = some other ∧ wordLimit ≤ now.toNat + other) ↔
        now.after? delay = none := by
      simp [found, Tick.after?_eq_none_iff]
    rw [leaves, start_eq now allowed, first]
    cases now.after? delay with
    | none => simp [ready]
    | some tick => simp
  · have barred : ¬ (device.stage = .prepared ∨ device.stage = .stopped) :=
      fun ready => allowed (Stage.mayStart_iff.mpr ready)
    rw [start, if_neg allowed]
    simp [barred]

/-- A start that faults has set the time base and the source, and no more. -/
theorem start_rewound (faulted : (device.start now).2 = .fault) :
    device.stage.mayStart = true ∧ (device.start now).1 = device.rewound now := by
  by_cases allowed : device.stage.mayStart = true
  · rw [start_eq now allowed] at faulted ⊢
    cases first : (device.rewound now).firstExpiry? now with
    | some tick => simp [first] at faulted
    | none => exact ⟨allowed, rfl⟩
  · rw [start, if_neg allowed] at faulted
    cases faulted

theorem rewound_unsettled (allowed : device.stage.mayStart = true) :
    (device.rewound now).Unsettled device := by
  refine astray_unsettled ?_ (Stage.resting_of_mayStart allowed).1
  rw [Option.map_map]
  rfl

/-- Two devices that show the same in every session, on whatever clock and with whatever waiters. -/
def Indistinct (other device : Device) : Prop :=
  ∀ clock waiters steps,
    (Session.run ⟨clock, ⟨other, waiters⟩⟩ steps).2 =
      (Session.run ⟨clock, ⟨device, waiters⟩⟩ steps).2

end Device

namespace Session

theorem run_unsettled {session : Session} {other : Device}
    (unsettled : other.Unsettled session.deck.device) (steps : List Step) :
    ((session.holding other).run steps).2 = (session.run steps).2 := by
  induction steps generalizing session other with
  | nil => rfl
  | cons step rest ih =>
      obtain ⟨next, still, stepped⟩ := @step_holding session other Device.Unsettled
        (fun _ _ => Device.Unsettled.resembles) unsettled step
        (fun call _ => unsettled.answer call) (fun _ => unsettled.poll)
      have later := ih still
      simp only [run, stepped, later]

end Session

theorem Device.Unsettled.indistinct {other device : Device} (unsettled : other.Unsettled device) :
    other.Indistinct device :=
  fun clock waiters => @Session.run_unsettled ⟨clock, ⟨device, waiters⟩⟩ other unsettled

namespace Session

variable {template : Template} {clock : ManualClock} {session : Session}

/-- A start that faults cannot be noticed. In every scene of a run, be it in the middle of a
callback, a start faults just if the device is prepared or stopped and its first expiry leaves the
clock's word. The time base and the source are set by then, and yet the calls that follow are
answered, and every session goes on, as if there had been no such start. As a step of its own the
start shows nothing but the fault. -/
theorem misstart_unobservable (opened : Session.begin template clock = .ok session)
    (steps : List Step) :
    (∀ scene, session.Shows steps scene → ∀ call, call.starts = true →
      ((scene.device.answer scene.now call).2 = .ended .fault ↔
        (scene.device.stage = .prepared ∨ scene.device.stage = .stopped) ∧
          ∃ delay, scene.device.firstDelay? = some delay ∧
            wordLimit ≤ scene.now.toNat + delay) ∧
      ((scene.device.answer scene.now call).2 = .ended .fault →
        (scene.device.answer scene.now call).1 = scene.device.rewound scene.now ∧
        ∀ calls,
          ((scene.device.rewound scene.now).answerAll scene.now calls).2 =
              (scene.device.answerAll scene.now calls).2 ∧
            ((scene.device.rewound scene.now).answerAll scene.now calls).1.Indistinct
              (scene.device.answerAll scene.now calls).1)) ∧
    ∀ call view, call.starts = true →
      ((session.run steps).1.step (.deck (.call call))).2 =
          .deck (.answered (.ended .fault)) view →
        view = (session.run steps).1.deck.view [] [] ∧
        ∀ after, (((session.run steps).1.step (.deck (.call call))).1.run after).2 =
          ((session.run steps).1.run after).2 := by
  constructor
  · intro scene shown call starts
    simp only [Device.answer_starting starts, Reply.ended.injEq]
    refine ⟨Device.start_fault_iff (shown.equipped opened), fun faulted => ?_⟩
    obtain ⟨allowed, rewound⟩ := Device.start_rewound faulted
    refine ⟨rewound, fun calls => ?_⟩
    obtain ⟨replies, unsettled⟩ := (Device.rewound_unsettled allowed).answerAll calls
    exact ⟨replies, unsettled.indistinct⟩
  · intro call view starts shown
    have dormant := (session.shows_last steps).dormant opened
    simp only [scene] at dormant
    generalize (session.run steps).1 = last at shown dormant ⊢
    simp only [step, Deck.step, Deck.call, Device.answer_starting starts, Entry.deck.injEq,
      Deck.Reply.answered.injEq, Reply.ended.injEq] at shown ⊢
    obtain ⟨faulted, same⟩ := shown
    obtain ⟨allowed, rewound⟩ := Device.start_rewound faulted
    have disarmed := (dormant (Stage.resting_of_mayStart allowed).1).2
    rw [rewound] at same ⊢
    constructor
    · have asleep : (last.deck.device.rewound last.clock.now).wait? last.clock.now = none := by
        rw [Device.wait?, show (last.deck.device.rewound last.clock.now).expiry =
          last.deck.device.expiry from rfl, disarmed]
        rfl
      rw [← same, disarmed, asleep]
      rfl
    · exact run_unsettled (Device.rewound_unsettled allowed)

/-- A faulting start at work: a device is stopped in the middle of a period, with a source that was
read from, and started again when the rest of the period no longer fits into the clock's word. -/
theorem misstart_unobservable_resumed :
    ∃ (template : Template) (session : Session) (steps after : List Step),
      Session.begin template ⟨8000, 18446744073709551596⟩ = .ok session ∧
        (session.run steps).1.deck.device.source.map LoopedSource.cursor = some 1 ∧
        ((session.run steps).1.step (.deck (.call (.trigger .resume)))).2 =
          .deck (.answered (.ended .fault)) ((session.run steps).1.deck.view [] []) ∧
        ((session.run steps).1.step (.deck (.call (.trigger .resume)))).1.deck.device.source.map
          LoopedSource.cursor = some 0 ∧
        (((session.run steps).1.step (.deck (.call (.trigger .resume)))).1.run after).2 =
          ((session.run steps).1.run after).2 ∧
        .deck (.answered (.position (.done 1))) ⟨.running, true, 2, [], []⟩ ∈
          ((session.run steps).1.run after).2 := by
  let template : Template :=
    { capabilities := { Capabilities.standard with periodBytes := ⟨1, 64⟩ }
      source := some #[1, 2, 3, 4, 5] }
  let session : Session :=
    ⟨⟨8000, 18446744073709551596⟩,
      ⟨template.idleDevice 8000 (some ⟨#[1, 2, 3, 4, 5], 0, by decide⟩), []⟩⟩
  let steps : List Step :=
    [.deck (.call (.prepare ⟨8000, 8, 4⟩)), .deck (.call .start), .clock (.forward 4),
      .deck .poll, .clock (.forward 1), .deck (.call .stop), .clock (.forward 12)]
  let after : List Step :=
    [.deck (.call .start), .deck (.call (.prepare ⟨8000, 4, 1⟩)), .deck (.call .start),
      .clock (.forward 1), .deck .poll, .deck (.call .pointer)]
  have playable : template.capabilities.layoutDefect? template.format template.channels = none := by
    decide
  have opened : Session.begin template ⟨8000, 18446744073709551596⟩ = .ok session := by
    simp only [Session.begin, Template.build, playable]
    rfl
  have faulted : ((session.run steps).1.step (.deck (.call (.trigger .resume)))).2 =
      .deck (.answered (.ended .fault)) ((session.run steps).1.deck.view [] []) := by
    decide +kernel
  obtain ⟨_, same⟩ := (misstart_unobservable opened steps).2 (.trigger .resume) _ rfl faulted
  refine ⟨template, session, steps, after, opened, ?_, faulted, ?_, same after, ?_⟩
  · decide +kernel
  · decide +kernel
  · decide +kernel

end Session

end PcmPlayback
