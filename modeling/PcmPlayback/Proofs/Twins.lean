import PcmPlayback.Proofs.Lifecycle

/-!
# Twins on the grid schedule

The twin of a device is the same device on the grid schedule. All a device does with its schedule
is to arm its timer, so a twin answers and fires as the device does wherever both would be armed for
the same tick, and then it is still its twin. What it shows differs in nothing but the schedule in a
description. Decks and sessions have the twins that their devices have.
-/

set_option autoImplicit false

namespace PcmPlayback

def Profile.twin (profile : Profile) : Profile := { profile with schedule := .grid }

/-- The same device on the grid schedule, with some point of its grid. -/
def Device.twin (device : Device) (gridTick : Tick) : Device :=
  { device with profile := device.profile.twin, gridTick := gridTick }

/-- The same reply from a device on the grid schedule, which only a description can show. -/
def Reply.twin : Reply → Reply
  | .described description => .described { description with profile := description.profile.twin }
  | .ended outcome => .ended outcome
  | .position outcome => .position outcome
  | .status stage active => .status stage active
  | .copied count destination => .copied count destination
  | .silent => .silent

def CallbackRun.twin (run : CallbackRun) : CallbackRun :=
  { run with replies := run.replies.map Reply.twin }

namespace Device

/-- Whether a start arms the timer for the first point of a grid. -/
def SameFirst (device : Device) (now : Tick) : Prop :=
  now.after? device.periodTicks = (device.rewound now).firstExpiry? now

/-- Whether a firing arms the timer for the next point of a grid. -/
def SameNext (device : Device) (gridTick now : Tick) : Prop :=
  gridPoint? gridTick now device.periodTicks = (device.updated now).nextExpiry? now

variable {device : Device} {gridTick now : Tick}

theorem prepare_twin (setup : StreamSetup) :
    (device.twin gridTick).prepare setup =
      ((device.prepare setup).1.twin gridTick, (device.prepare setup).2) := by
  have capabilities : (device.twin gridTick).profile.capabilities = device.profile.capabilities :=
    rfl
  have bytes : (device.twin gridTick).profile.frameBytes = device.profile.frameBytes := rfl
  have stage : (device.twin gridTick).stage = device.stage := rfl
  have ticks : (device.twin gridTick).profile.ticksPerSecond = device.profile.ticksPerSecond := rfl
  have grants (size : Nat) :
      (device.twin gridTick).profile.grants size = device.profile.grants size := rfl
  simp only [prepare, capabilities, bytes, stage, ticks, grants]
  split
  · split
    · split
      · split <;> rfl
      · rfl
    · rfl
  · rfl

theorem arm_twin (tick : Tick) : (device.twin gridTick).arm tick = (device.arm tick).twin tick := by
  cases schedule : device.profile.schedule <;> simp [arm, twin, Profile.twin, schedule]

theorem start_twin (gridTick : Tick)
    (same : device.stage.mayStart = true → device.SameFirst now) :
    ∃ point, (device.twin gridTick).start now =
      ((device.start now).1.twin point, (device.start now).2) := by
  by_cases allowed : device.stage.mayStart = true
  · have ready : (device.twin gridTick).stage.mayStart = true := allowed
    have first : ((device.twin gridTick).rewound now).firstExpiry? now =
        (device.rewound now).firstExpiry? now := same allowed
    rw [start_eq now allowed, start_eq now ready, first]
    cases (device.rewound now).firstExpiry? now with
    | none => exact ⟨gridTick, rfl⟩
    | some tick =>
        have armed : ((device.twin gridTick).rewound now).arm tick =
            ((device.rewound now).arm tick).twin tick :=
          @arm_twin (device.rewound now) gridTick tick
        exact ⟨tick, by simp only [armed]; rfl⟩
  · have refused : ¬ (device.twin gridTick).stage.mayStart = true := allowed
    rw [start, start, if_neg allowed, if_neg refused]
    exact ⟨gridTick, rfl⟩

theorem stop_twin :
    (device.twin gridTick).stop now = ((device.stop now).1.twin gridTick, (device.stop now).2) := by
  by_cases running : device.stage = .running
  · cases moved : (device.playhead.advance now).2.isDone with
    | true => simp [stop, running, moved, twin, disarm]
    | false => simp [stop, running, moved, twin, disarm]
  · have rests : ¬ (device.twin gridTick).stage = .running := running
    rw [stop, stop, if_neg running, if_neg rests]
    rfl

theorem pointer_twin :
    (device.twin gridTick).pointer now =
      ((device.pointer now).1.twin gridTick, (device.pointer now).2) := by
  by_cases reads : device.playhead.isConfigured ∧ device.stage = .running
  · have same : (device.twin gridTick).playhead.isConfigured ∧
        (device.twin gridTick).stage = .running := reads
    rw [pointer, pointer, if_pos reads, if_pos same]
    rfl
  · have same : ¬ ((device.twin gridTick).playhead.isConfigured ∧
        (device.twin gridTick).stage = .running) := reads
    rw [pointer, pointer, if_neg reads, if_neg same]
    rfl

theorem answer_twin (gridTick : Tick) (call : Call)
    (same : call.starts = true → device.stage.mayStart = true → device.SameFirst now) :
    ∃ point, (device.twin gridTick).answer now call =
      ((device.answer now call).1.twin point, (device.answer now call).2.twin) := by
  -- only a start looks at the schedule, so for every other call the point may stay
  cases call with
  | prepare setup => exact ⟨gridTick, by simp only [answer, prepare_twin, Reply.twin]⟩
  | start =>
      obtain ⟨point, starts⟩ := start_twin gridTick (same rfl)
      exact ⟨point, by simp only [answer, starts, Reply.twin]⟩
  | stop => exact ⟨gridTick, by simp only [answer, stop_twin, Reply.twin]⟩
  | trigger command =>
      cases command with
      | start | resume =>
          obtain ⟨point, starts⟩ := start_twin gridTick (same rfl)
          exact ⟨point, by simp only [answer, obey, starts, Reply.twin]⟩
      | stop | suspend => exact ⟨gridTick, by simp only [answer, obey, stop_twin, Reply.twin]⟩
  | pointer => exact ⟨gridTick, by simp only [answer, pointer_twin, Reply.twin]⟩
  | status | describe | copyOut | register | unregister | free => exact ⟨gridTick, rfl⟩

theorem event?_twin (gridTick : Tick) (call : Call)
    (same : call.starts = true → device.stage.mayStart = true → device.SameFirst now) :
    (device.twin gridTick).event? now call = device.event? now call := by
  obtain ⟨point, answers⟩ := answer_twin gridTick call same
  have kept (reply : Reply) : reply.twin = .ended (.done ()) ↔ reply = .ended (.done ()) := by
    cases reply <;> simp [Reply.twin]
  have eventOf : (device.twin gridTick).eventOf? now call = device.eventOf? now call := by
    cases call with
    | trigger command => cases command <;> rfl
    | _ => rfl
  simp only [event?, answers, kept, eventOf]

theorem replenished_twin : (device.twin gridTick).replenished = device.replenished := rfl

theorem refill_twin : (device.twin gridTick).refill = device.refill.twin gridTick := by
  rw [refill_eq, refill_eq, replenished_twin]
  rfl

theorem tend_twin
    (same : (device.playhead.advance now).2.isDone = true → device.SameNext gridTick now) :
    ∃ point, (device.twin gridTick).tend now =
      ((device.tend now).1.twin point, (device.tend now).2) := by
  cases moved : (device.playhead.advance now).2.isDone with
  | false =>
      have stuck : ((device.twin gridTick).playhead.advance now).2.isDone = false := moved
      exact ⟨gridTick, by simp [tend, moved, stuck]; rfl⟩
  | true =>
      have moves : ((device.twin gridTick).playhead.advance now).2.isDone = true := moved
      have next : ((device.twin gridTick).updated now).nextExpiry? now =
          (device.updated now).nextExpiry? now := same moved
      rw [tend_eq moved, tend_eq moves, next]
      cases (device.updated now).nextExpiry? now with
      | none => exact ⟨gridTick, rfl⟩
      | some tick =>
          have armed : ((device.twin gridTick).updated now).arm tick =
              ((device.updated now).arm tick).twin tick :=
            @arm_twin (device.updated now) gridTick tick
          refine ⟨tick, ?_⟩
          simp only [armed, ← refill_twin]
          rfl

theorem strike_twin
    (same : device.isDue now = true → device.stage = .running → device.SameNext gridTick now) :
    ∃ point, (device.twin gridTick).strike now =
      ((device.strike now).1.twin point, (device.strike now).2) := by
  by_cases fires : device.isDue now = true ∧ device.active = true ∧ device.stage = .running
  · have alike : (device.twin gridTick).isDue now = true ∧ (device.twin gridTick).active = true ∧
        (device.twin gridTick).stage = .running := fires
    obtain ⟨point, tends⟩ := @tend_twin device.disarm gridTick now
      fun _ => same fires.1 fires.2.2
    have twinTends : (device.twin gridTick).disarm.tend now = _ := tends
    rw [strike, strike, if_pos fires, if_pos alike, twinTends]
    refine ⟨point, ?_⟩
    cases device.disarm.tend now with
    | mk tended told =>
        cases told with
        | none => rfl
        | some periods =>
            by_cases some : 0 < periods
            · simp only [some, if_true]
              rfl
            · simp only [some, if_false]
  · have alike : ¬ ((device.twin gridTick).isDue now = true ∧
        (device.twin gridTick).active = true ∧ (device.twin gridTick).stage = .running) := fires
    rw [strike, strike, if_neg fires, if_neg alike]
    refine ⟨gridTick, ?_⟩
    by_cases due : device.isDue now = true
    · have twinDue : (device.twin gridTick).isDue now = true := due
      rw [if_pos due, if_pos twinDue]
      rfl
    · have twinEarly : ¬ (device.twin gridTick).isDue now = true := due
      rw [if_neg due, if_neg twinEarly]

theorem aftermath_twin
    (same : device.isDue now = true → device.stage = .running → device.SameNext gridTick now) :
    (device.twin gridTick).aftermath now = device.aftermath now := by
  obtain ⟨point, struck⟩ := strike_twin same
  rw [aftermath, struck]
  rfl

theorem poll_run_twin {point : Tick}
    (struck : (device.twin gridTick).strike now =
      ((device.strike now).1.twin point, (device.strike now).2))
    (answered : ∀ periods callback, (device.strike now).2 = .told periods true →
      (device.strike now).1.callback = some callback →
        (((device.strike now).1.twin point).answerAll now callback.calls).2 =
          ((device.strike now).1.answerAll now callback.calls).2.map Reply.twin) :
    ((device.twin gridTick).poll now).2 = (device.poll now).2.map CallbackRun.twin := by
  rw [poll_run, poll_run, struck]
  cases counted : (device.strike now).2 with
  | quiet | faulted | fired => rfl
  | told periods arrived =>
      cases arrived with
      | false => rfl
      | true =>
          have same : ((device.strike now).1.twin point).callback =
              (device.strike now).1.callback := rfl
          cases present : (device.strike now).1.callback with
          | none => simp only [same, present, Option.map_none]
          | some callback =>
              have replies := answered periods callback counted present
              simp only [same, present, replies, Option.map_some, CallbackRun.twin]

end Device

namespace Deck

def twin (deck : Deck) (gridTick : Tick) : Deck :=
  { deck with device := deck.device.twin gridTick }

def Reply.twin : Reply → Reply
  | .answered reply => .answered reply.twin
  | .polled => .polled
  | .joined waiter => .joined waiter
  | .woke arrived => .woke arrived
  | .wouldBlock => .wouldBlock
  | .total periods => .total periods
  | .noSuchWaiter => .noSuchWaiter

def View.twin (view : View) : View := { view with runs := view.runs.map CallbackRun.twin }

variable {deck : Deck} {gridTick now : Tick}

theorem wake_twin (waiter : Nat) :
    (deck.twin gridTick).wake waiter =
      (deck.wake waiter).map fun woke => (woke.1, woke.2.twin gridTick) := by
  have waiters : (deck.twin gridTick).waiters[waiter]? = deck.waiters[waiter]? := rfl
  rw [wake, wake, waiters, Option.map_map]
  rfl

theorem step_twin {step : Step}
    (answers : ∀ call, step = .call call → ∃ point,
      (deck.device.twin gridTick).answer now call =
        ((deck.device.answer now call).1.twin point, (deck.device.answer now call).2.twin))
    (polls : step = .poll → ∃ point,
      (deck.device.twin gridTick).poll now =
        ((deck.device.poll now).1.twin point, (deck.device.poll now).2.map CallbackRun.twin)) :
    ∃ point, (deck.twin gridTick).step now step =
      ((deck.step now step).1.twin point, (deck.step now step).2.1.twin,
        (deck.step now step).2.2.twin) := by
  cases step with
  | call call =>
      obtain ⟨point, answered⟩ := answers call rfl
      have same : (deck.twin gridTick).device.answer now call = _ := answered
      refine ⟨point, ?_⟩
      simp only [step, Deck.call, same]
      rfl
  | poll =>
      obtain ⟨point, polled⟩ := polls rfl
      have same : (deck.twin gridTick).device.poll now = _ := polled
      refine ⟨point, ?_⟩
      simp only [step, Deck.poll, same, Option.toList_map]
      rfl
  | join => exact ⟨gridTick, rfl⟩
  | tryWait waiter | waitFor waiter milliseconds =>
      refine ⟨gridTick, ?_⟩
      simp only [step, waitFor_eq_wake, wake_twin]
      cases deck.wake waiter <;> rfl
  | wait waiter =>
      refine ⟨gridTick, ?_⟩
      simp only [step, wake_twin]
      rcases deck.wake waiter with _ | ⟨arrived, next⟩
      · rfl
      · cases arrived <;> rfl
  | total waiter =>
      have waiters : (deck.twin gridTick).waiters[waiter]? = deck.waiters[waiter]? := rfl
      refine ⟨gridTick, ?_⟩
      simp only [step, waiters]
      cases deck.waiters[waiter]? <;> rfl

end Deck

namespace Session

def twin (session : Session) (gridTick : Tick) : Session :=
  { session with deck := session.deck.twin gridTick }

def Entry.twin : Entry → Entry
  | .clock now => .clock now
  | .deck reply view => .deck reply.twin view.twin

theorem begin_twin (template : Template) (clock : ManualClock) :
    Session.begin { template with schedule := .grid } clock =
      (Session.begin { template with schedule := .boundary } clock).map (·.twin 0) := by
  simp only [Session.begin, Template.build]
  cases template.capabilities.layoutDefect? template.format template.channels with
  | some cause => rfl
  | none =>
      cases template.source with
      | none => rfl
      | some bytes =>
          cases read : LoopedSource.ofBytes? bytes with
          | none => simp only [read, Except.map]
          | some source => simp only [read, Except.map]; rfl

end Session

end PcmPlayback
