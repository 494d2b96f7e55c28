import PcmPlayback.Proofs.Frames
import PcmPlayback.Proofs.Reports

/-!
# Sessions with a past

Counters that only go up, and numbers that are given in order, tell how much went before. Apart
from these a session with a past can show the same as one without: its waiters come after those of
the past, its edges and periods are counted from those of the past. Decks whose devices stay in
some relation then stay related in this way at every step.
-/

set_option autoImplicit false

namespace PcmPlayback

/-- What went before: the notifications, the periods they covered, and the waiters. -/
structure Past where
  edges : Nat := 0
  periods : Nat := 0
  waiters : Nat := 0
  deriving Repr, DecidableEq

def Delivery.after (past : Past) (delivery : Delivery) : Delivery where
  edges := past.edges + delivery.edges
  periods := past.periods + delivery.periods

def Waiter.after (past : Past) (waiter : Waiter) : Waiter := ⟨past.edges + waiter.seen⟩

variable {past : Past}

theorem Delivery.raise_done {delivery : Delivery} {count : Nat}
    (fits : (delivery.raise count).2.isDone = true) :
    delivery.edges + 1 < wordLimit ∧ delivery.periods + count < wordLimit := by
  rw [raise] at fits
  split at fits
  · cases fits
  · split at fits
    · cases fits
    · constructor <;> omega

theorem Delivery.raise_after {delivery : Delivery} {count : Nat}
    (fits : ((delivery.after past).raise count).2.isDone = true) :
    delivery.raise count = (⟨delivery.edges + 1, delivery.periods + count⟩, .done ()) ∧
      (delivery.after past).raise count =
        (Delivery.after past ⟨delivery.edges + 1, delivery.periods + count⟩, .done ()) := by
  obtain ⟨edges, periods⟩ := raise_done fits
  rw [raise_eq edges periods]
  simp only [after] at edges periods ⊢
  refine ⟨raise_eq (by omega) (by omega), ?_⟩
  simp only [Nat.add_assoc]

theorem Waiter.wake_after (waiter : Waiter) (delivery : Delivery) :
    (waiter.after past).wake (delivery.after past) =
      ((waiter.wake delivery).1, (waiter.wake delivery).2.after past) := by
  have due : (waiter.after past).isDue (delivery.after past) = waiter.isDue delivery := by
    rw [Bool.eq_iff_iff]
    simp [isDue, after, Delivery.after]
  rw [wake, wake, due]
  split <;> rfl

namespace Deck

/-- The same step, with its waiters numbered after those of the past. -/
def Step.after (past : Past) : Step → Step
  | .call asked => .call asked
  | .poll => .poll
  | .join => .join
  | .tryWait waiter => .tryWait (past.waiters + waiter)
  | .waitFor waiter milliseconds => .waitFor (past.waiters + waiter) milliseconds
  | .wait waiter => .wait (past.waiters + waiter)
  | .total waiter => .total (past.waiters + waiter)

def Reply.after (past : Past) : Reply → Reply
  | .answered reply => .answered reply
  | .polled => .polled
  | .joined waiter => .joined (past.waiters + waiter)
  | .woke arrived => .woke arrived
  | .wouldBlock => .wouldBlock
  | .total periods => .total (past.periods + periods)
  | .noSuchWaiter => .noSuchWaiter

def View.after (past : Past) (view : View) : View :=
  { view with periods := past.periods + view.periods }

/-- The deck of another device, with the same waiters after those of the past. -/
def after (deck : Deck) (past : Past) (elders : List Waiter) (device : Device) : Deck :=
  ⟨device, elders ++ deck.waiters.map (Waiter.after past)⟩

end Deck

/-- Whether two devices look the same to an observer who knows how much the first one has
delivered in the past. -/
structure Device.Resembles (past : Past) (older device : Device) : Prop where
  stage : older.stage = device.stage
  active : older.active = device.active
  expiry : older.expiry = device.expiry
  delivery : older.delivery = device.delivery.after past

theorem Device.Resembles.wait?_eq {older device : Device} (resembles : older.Resembles past device)
    (now : Tick) : older.wait? now = device.wait? now := by
  rw [wait?, wait?, resembles.expiry]

namespace Deck

variable {deck : Deck} {elders : List Waiter} {older : Device} {now : Tick}

/-- What a deck shows depends on its device alone. -/
theorem shown_after {first second : Deck} (resembles : first.device.Resembles past second.device)
    {next : Deck} {reply : Reply} {runs : List CallbackRun} {waits : List Nat} :
    (next, reply, first.view runs waits) =
      (next, reply, (second.view runs waits).after past) := by
  simp only [view, View.after, resembles.stage, resembles.active, resembles.delivery,
    Delivery.after]

theorem device_after : (deck.after past elders older).device = older := rfl

theorem length_after (numbered : elders.length = past.waiters) :
    (deck.after past elders older).waiters.length = past.waiters + deck.waiters.length := by
  simp [after, numbered]

theorem join_after (resembles : older.Resembles past deck.device) :
    (deck.after past elders older).waiters ++ [Waiter.join older.delivery] =
      elders ++ (deck.waiters ++ [Waiter.join deck.device.delivery]).map (Waiter.after past) := by
  have joined : Waiter.join older.delivery = (Waiter.join deck.device.delivery).after past := by
    rw [resembles.delivery]
    rfl
  simp [after, joined]

theorem getElem?_after (numbered : elders.length = past.waiters) (waiter : Nat) :
    (deck.after past elders older).waiters[past.waiters + waiter]? =
      deck.waiters[waiter]?.map (Waiter.after past) := by
  rw [after, ← numbered, List.getElem?_append_right (Nat.le_add_right _ _),
    Nat.add_sub_cancel_left, List.getElem?_map]

theorem wake_after (resembles : older.Resembles past deck.device)
    (numbered : elders.length = past.waiters) (waiter : Nat) :
    (deck.after past elders older).wake (past.waiters + waiter) =
      (deck.wake waiter).map fun woke => (woke.1, woke.2.after past elders older) := by
  have delivered : (deck.after past elders older).device.delivery =
      deck.device.delivery.after past := resembles.delivery
  rw [wake, wake, getElem?_after numbered, Option.map_map, Option.map_map]
  cases deck.waiters[waiter]? with
  | none => rfl
  | some found =>
      simp only [Option.map_some, Function.comp_apply, delivered, Waiter.wake_after]
      simp only [after, ← numbered, List.map_set]
      rw [List.set_append_right _ _ (Nat.le_add_right _ _), Nat.add_sub_cancel_left]

/-- One step on two decks whose devices stay in a relation that an observer cannot see through. -/
theorem step_after {Related : Device → Device → Prop}
    (resembles : ∀ older device, Related older device → older.Resembles past device)
    (numbered : elders.length = past.waiters) (related : Related older deck.device) {step : Step}
    (answers : ∀ call, step = .call call →
      (older.answer now call).2 = (deck.device.answer now call).2 ∧
        Related (older.answer now call).1 (deck.device.answer now call).1)
    (polls : step = .poll → (older.poll now).2 = (deck.device.poll now).2 ∧
      Related (older.poll now).1 (deck.device.poll now).1) :
    ∃ next, Related next (deck.step now step).1.device ∧
      (deck.after past elders older).step now (step.after past) =
        ((deck.step now step).1.after past elders next, (deck.step now step).2.1.after past,
          (deck.step now step).2.2.after past) := by
  have alike := resembles older deck.device related
  cases step with
  | call call =>
      obtain ⟨reply, relates⟩ := answers call rfl
      have looks := resembles _ _ relates
      have sleeps := looks.wait?_eq now
      refine ⟨_, relates, ?_⟩
      simp only [step, Step.after, Deck.call, device_after, alike.expiry, reply, sleeps]
      exact shown_after looks
  | poll =>
      obtain ⟨run, relates⟩ := polls rfl
      have looks := resembles _ _ relates
      have sleeps := looks.wait?_eq now
      refine ⟨_, relates, ?_⟩
      simp only [step, Step.after, Deck.poll, device_after, run, sleeps]
      exact shown_after looks
  | join =>
      refine ⟨older, related, ?_⟩
      simp only [step, Step.after, device_after, length_after numbered, join_after alike]
      exact shown_after alike
  | tryWait waiter | waitFor waiter milliseconds =>
      simp only [step, Step.after, waitFor_eq_wake, wake_after alike numbered]
      cases woke : deck.wake waiter with
      | none => exact ⟨older, related, shown_after alike⟩
      | some result =>
          have kept : result.2.device = deck.device := device_wake woke
          refine ⟨older, kept ▸ related, ?_⟩
          exact shown_after (kept ▸ alike)
  | wait waiter =>
      simp only [step, Step.after, wake_after alike numbered]
      cases woke : deck.wake waiter with
      | none => exact ⟨older, related, shown_after alike⟩
      | some result =>
          obtain ⟨arrived, next⟩ := result
          have kept : next.device = deck.device := device_wake woke
          refine ⟨older, ?_, ?_⟩
          · cases arrived <;> exact kept ▸ related
          · cases arrived <;>
              exact shown_after (kept ▸ alike)
  | total waiter =>
      simp only [step, Step.after, getElem?_after numbered]
      cases deck.waiters[waiter]? with
      | none => exact ⟨older, related, shown_after alike⟩
      | some found =>
          have delivered : (deck.after past elders older).device.delivery =
              deck.device.delivery.after past := alike.delivery
          refine ⟨older, related, ?_⟩
          simp only [Option.map_some, delivered]
          exact shown_after alike

end Deck

namespace Session

def Step.after (past : Past) : Step → Step
  | .clock move => .clock move
  | .deck taken => .deck (taken.after past)

def Entry.after (past : Past) : Entry → Entry
  | .clock now => .clock now
  | .deck reply view => .deck (reply.after past) (view.after past)

def after (session : Session) (past : Past) (elders : List Waiter) (device : Device) : Session :=
  { session with deck := session.deck.after past elders device }

theorem step_after {session : Session} {past : Past} {elders : List Waiter} {older : Device}
    {Related : Device → Device → Prop}
    (resembles : ∀ older device, Related older device → older.Resembles past device)
    (numbered : elders.length = past.waiters) (related : Related older session.deck.device)
    {step : Step}
    (answers : ∀ call, step = .deck (.call call) →
      (older.answer session.clock.now call).2 =
          (session.deck.device.answer session.clock.now call).2 ∧
        Related (older.answer session.clock.now call).1
          (session.deck.device.answer session.clock.now call).1)
    (polls : step = .deck .poll →
      (older.poll session.clock.now).2 = (session.deck.device.poll session.clock.now).2 ∧
        Related (older.poll session.clock.now).1
          (session.deck.device.poll session.clock.now).1) :
    ∃ next, Related next (session.step step).1.deck.device ∧
      (session.after past elders older).step (step.after past) =
        ((session.step step).1.after past elders next, (session.step step).2.after past) := by
  cases step with
  | clock move => exact ⟨older, related, rfl⟩
  | deck step =>
      obtain ⟨next, relates, stepped⟩ := Deck.step_after resembles numbered related
        (fun call calls => answers call (congrArg Step.deck calls))
        (fun asks => polls (congrArg Step.deck asks))
      refine ⟨next, relates, ?_⟩
      simp only [Session.step, Step.after, after, stepped]
      rfl

end Session

/-! ## Without a past -/

@[simp] theorem Delivery.after_nothing (delivery : Delivery) : delivery.after {} = delivery := by
  simp [after]

@[simp] theorem Waiter.after_nothing : Waiter.after {} = id := by
  funext waiter
  simp [after]

@[simp] theorem Deck.Step.after_nothing (step : Deck.Step) : step.after {} = step := by
  cases step <;> simp [after]

@[simp] theorem Deck.Reply.after_nothing (reply : Deck.Reply) : reply.after {} = reply := by
  cases reply <;> simp [after]

@[simp] theorem Deck.View.after_nothing (view : Deck.View) : view.after {} = view := by
  simp [after]

@[simp] theorem Session.Step.after_nothing (step : Session.Step) : step.after {} = step := by
  cases step <;> simp [after]

@[simp] theorem Session.Entry.after_nothing (entry : Session.Entry) : entry.after {} = entry := by
  cases entry <;> simp [after]

namespace Session

@[simp] theorem after_nothing (session : Session) (device : Device) :
    session.after {} [] device = session.holding device := by
  simp [after, Deck.after, holding]

theorem step_holding {session : Session} {other : Device} {Related : Device → Device → Prop}
    (resembles : ∀ other device, Related other device → other.Resembles {} device)
    (related : Related other session.deck.device) {step : Step}
    (answers : ∀ call, step = .deck (.call call) →
      (other.answer session.clock.now call).2 =
          (session.deck.device.answer session.clock.now call).2 ∧
        Related (other.answer session.clock.now call).1
          (session.deck.device.answer session.clock.now call).1)
    (polls : step = .deck .poll →
      (other.poll session.clock.now).2 = (session.deck.device.poll session.clock.now).2 ∧
        Related (other.poll session.clock.now).1
          (session.deck.device.poll session.clock.now).1) :
    ∃ next, Related next (session.step step).1.deck.device ∧
      (session.holding other).step step =
        ((session.step step).1.holding next, (session.step step).2) := by
  obtain ⟨next, relates, stepped⟩ :=
    step_after resembles List.length_nil related answers polls
  refine ⟨next, relates, ?_⟩
  simpa using stepped

end Session

end PcmPlayback
