import PcmPlayback.Proofs.Renewal
import PcmPlayback.Proofs.Silence

/-!
# Wake-ups

A waiter compares the last edge that it saw with the number of edges raised so far. Told in terms of
what happened, a wait succeeds if the consumers were told something since the waiter joined or last
succeeded, once for all that was told meanwhile. What a waiter does is not noticed by any other,
and what was told before the device came to rest can still be waited for, once by each waiter.
-/

set_option autoImplicit false

namespace PcmPlayback

/-- What a run has in it for its waiters: the consumers are told, a waiter joins, or one wakes. -/
inductive Signal where
  | told
  | joined (waiter : Nat)
  | woke (waiter : Nat)
  deriving Repr, DecidableEq

/-- How often the consumers were told since a waiter joined or last woke, the latest signal in
front. -/
def Signal.unseen (waiter : Nat) : List Signal → Nat
  | [] => 0
  | .told :: earlier => unseen waiter earlier + 1
  | .joined other :: earlier => if other = waiter then 0 else unseen waiter earlier
  | .woke other :: earlier => if other = waiter then 0 else unseen waiter earlier

theorem Waiter.wake_eq (waiter : Waiter) (delivery : Delivery) :
    waiter.wake delivery = (decide (waiter.seen ≠ delivery.edges), ⟨delivery.edges⟩) := by
  obtain ⟨seen⟩ := waiter
  by_cases due : seen = delivery.edges
  · simp [wake, isDue, due]
  · simp [wake, isDue, due]

namespace Waiter

variable {waiter : Waiter} {delivered : Nat → Delivery}

/-- A sleeper gets up to an edge if one comes while it sleeps. -/
theorem isDue_sleep_iff {slept left : Nat} :
    waiter.isDue (waiter.sleep delivered slept left) = true ↔
      ∃ time, slept ≤ time ∧ time ≤ slept + left ∧ waiter.isDue (delivered time) = true := by
  induction left generalizing slept with
  | zero =>
      constructor
      · intro due
        exact ⟨slept, Nat.le_refl _, Nat.le_refl _, due⟩
      · rintro ⟨time, early, late, due⟩
        rwa [Nat.le_antisymm early late]
  | succ left ih =>
      by_cases here : waiter.isDue (delivered slept) = true
      · rw [sleep, if_pos here]
        exact ⟨fun _ => ⟨slept, Nat.le_refl _, Nat.le_add_right _ _, here⟩, fun _ => here⟩
      · rw [sleep, if_neg here, ih]
        constructor
        · rintro ⟨time, early, late, due⟩
          exact ⟨time, by omega, by omega, due⟩
        · rintro ⟨time, early, late, due⟩
          have later : time ≠ slept := by
            rintro rfl
            exact here due
          exact ⟨time, by omega, by omega, due⟩

/-- A wait with a limit succeeds just if an edge comes in time. -/
theorem waitFor_iff {milliseconds : Nat} :
    (waiter.waitFor delivered milliseconds).1 = true ↔
      ∃ time ≤ milliseconds, waiter.isDue (delivered time) = true := by
  have arrived (found : Delivery) :
      (if waiter.isDue found then (true, ⟨found.edges⟩) else (false, waiter) :
        Bool × Waiter).1 = true ↔ waiter.isDue found = true := by
    cases waiter.isDue found <;> simp
  rw [waitFor, arrived]
  split
  · next missed => exact ⟨fun _ => ⟨0, Nat.zero_le _, missed⟩, fun _ => missed⟩
  · simp [isDue_sleep_iff]

end Waiter

namespace Device

def Strike.tells : Strike → Bool
  | .told _ _ => true
  | .quiet | .faulted | .fired => false

theorem Struck.untold {device next : Device} {now : Tick} {strike : Strike}
    (struck : device.Struck now next strike) (resting : device.stage ≠ .running) :
    strike.tells = false := by
  cases struck with
  | early | asleep => rfl
  | faulted _ running | fired _ running | told _ running => exact absurd running resting

theorem Struck.edges {device next : Device} {now : Tick} {strike : Strike}
    (struck : device.Struck now next strike)
    (counts : ∀ periods counted, strike = .told periods counted → counted = true) :
    next.delivery.edges = device.delivery.edges + if strike.tells then 1 else 0 := by
  cases struck with
  | early | asleep | faulted | fired => rfl
  | told =>
      have fits := counts _ _ rfl
      obtain ⟨edges, periods⟩ := Delivery.raise_done fits
      exact congrArg (·.1.edges) (Delivery.raise_eq edges periods)

end Device

namespace Deck

/-- The waiter whose wait a step is. -/
def Step.waiter? : Step → Option Nat
  | .tryWait waiter | .waitFor waiter _ | .wait waiter => some waiter
  | .call _ | .poll | .join | .total _ => none

/-- How a wait is reported, with success or without. -/
def Step.report : Step → Bool → Reply
  | .wait _, false => .wouldBlock
  | _, arrived => .woke arrived

/-- Whichever way a waiter waits, it has seen all edges afterwards. -/
theorem step_waiting (deck : Deck) (now : Tick) {step : Step} {waiter : Nat} {found : Waiter}
    (waits : step.waiter? = some waiter) (present : deck.waiters[waiter]? = some found) :
    deck.step now step =
      ({ deck with waiters := deck.waiters.set waiter ⟨deck.device.delivery.edges⟩ },
        step.report (decide (found.seen ≠ deck.device.delivery.edges)), deck.view [] []) := by
  have woke : deck.wake waiter = some (decide (found.seen ≠ deck.device.delivery.edges),
      { deck with waiters := deck.waiters.set waiter ⟨deck.device.delivery.edges⟩ }) := by
    rw [wake, present, Option.map_some, found.wake_eq]
  cases step with
  | call | poll | join | total => cases waits
  | tryWait | waitFor =>
      cases waits
      simp only [Deck.step, waitFor_eq_wake, woke]
      rfl
  | wait =>
      cases waits
      simp only [Deck.step, woke]
      by_cases due : found.seen = deck.device.delivery.edges
      · simp only [due, ne_eq, not_true_eq_false, decide_false]
        rfl
      · simp only [due, ne_eq, not_false_eq_true, decide_true]
        rfl

theorem step_unjoined (deck : Deck) (now : Tick) {step : Step} {waiter : Nat}
    (waits : step.waiter? = some waiter) (missing : deck.waiters[waiter]? = none) :
    deck.step now step = (deck, .noSuchWaiter, deck.view [] []) := by
  have slept : deck.wake waiter = none := by rw [wake, missing, Option.map_none]
  cases step with
  | call | poll | join | total => cases waits
  | tryWait | waitFor | wait =>
      cases waits
      simp only [Deck.step, waitFor_eq_wake, slept]

theorem left_waiting (deck : Deck) (now : Tick) {step : Step} {waiter : Nat}
    (waits : step.waiter? = some waiter) :
    (deck.step now step).1 =
      { deck with waiters := deck.waiters.set waiter ⟨deck.device.delivery.edges⟩ } := by
  rcases Nat.lt_or_ge waiter deck.waiters.length with joined | missing
  · rw [deck.step_waiting now waits (List.getElem?_eq_getElem joined)]
  · -- nobody has joined under the number, and nothing is written
    rw [deck.step_unjoined now waits (List.getElem?_eq_none missing),
      List.set_eq_of_length_le missing]

end Deck

namespace Session

def Step.waiter? : Step → Option Nat
  | .deck step => step.waiter?
  | .clock _ => none

/-- Whether an entry reports a wait that succeeded. -/
def Entry.wakes : Entry → Bool
  | .deck (.woke true) _ => true
  | _ => false

theorem Entry.wakes_report (step : Deck.Step) (arrived : Bool) (view : Deck.View) :
    (Entry.deck (step.report arrived) view).wakes = arrived := by
  cases arrived with
  | true => cases step <;> rfl
  | false => cases step <;> rfl

def signals (session : Session) : Step → List Signal
  | .deck .poll =>
      if (session.deck.device.strike session.clock.now).2.tells then [.told] else []
  | .deck .join => [.joined session.deck.waiters.length]
  | .deck (.tryWait waiter) =>
      if (session.step (.deck (.tryWait waiter))).2.wakes then [.woke waiter] else []
  | .deck (.waitFor waiter milliseconds) =>
      if (session.step (.deck (.waitFor waiter milliseconds))).2.wakes then [.woke waiter] else []
  | .deck (.wait waiter) =>
      if (session.step (.deck (.wait waiter))).2.wakes then [.woke waiter] else []
  | .deck (.call _) | .deck (.total _) | .clock _ => []

/-- The signals in a run, the latest in front. -/
def chronicle (session : Session) : List Step → List Signal
  | [] => []
  | step :: rest => (session.step step).1.chronicle rest ++ session.signals step

theorem chronicle_append (session : Session) (first second : List Step) :
    session.chronicle (first ++ second) =
      (session.run first).1.chronicle second ++ session.chronicle first := by
  induction first generalizing session with
  | nil => exact (List.append_nil _).symm
  | cons step rest ih =>
      rw [List.cons_append, chronicle, ih, chronicle, List.append_assoc]
      rfl

/-- Each waiter is behind the edges by as many as it has not seen. -/
def Heeds (session : Session) (history : List Signal) : Prop :=
  ∀ waiter found, session.deck.waiters[waiter]? = some found →
    found.seen + Signal.unseen waiter history = session.deck.device.delivery.edges

theorem signals_of_waiting {session : Session} {step : Deck.Step} {waiter : Nat}
    (waits : step.waiter? = some waiter) :
    session.signals (.deck step) =
      if (session.step (.deck step)).2.wakes then [.woke waiter] else [] := by
  cases step with
  | call | poll | join | total => cases waits
  | tryWait | waitFor | wait =>
      cases waits
      rfl

namespace Heeds

variable {session : Session} {history : List Signal}

/-- A wait succeeds if something was told that the waiter has not seen, and otherwise it changes
nothing. -/
theorem reports (heeds : session.Heeds history) {step : Deck.Step} {waiter : Nat}
    (waits : step.waiter? = some waiter) (joined : waiter < session.deck.waiters.length) :
    (∃ view, (session.step (.deck step)).2 =
      .deck (step.report (decide (0 < Signal.unseen waiter history))) view) ∧
    (Signal.unseen waiter history = 0 → (session.step (.deck step)).1 = session) := by
  have present := List.getElem?_eq_getElem joined
  have behind := heeds waiter _ present
  have whole := session.deck.step_waiting session.clock.now waits present
  constructor
  · have due : decide (session.deck.waiters[waiter].seen ≠ session.deck.device.delivery.edges) =
        decide (0 < Signal.unseen waiter history) := by
      rw [decide_eq_decide]
      omega
    rw [due] at whole
    exact ⟨session.deck.view [] [], by simp only [Session.step, whole]⟩
  · intro none
    rw [none, Nat.add_zero] at behind
    have same : (⟨session.deck.device.delivery.edges⟩ : Waiter) = session.deck.waiters[waiter] := by
      rw [← behind]
    rw [same, List.set_getElem_self] at whole
    exact congrArg (fun stepped => Session.mk session.clock stepped.1) whole

/-- After its wait a waiter has nothing unseen, whether it was told something or not. -/
theorem unseen_waited (heeds : session.Heeds history) {step : Deck.Step} {waiter other : Nat}
    (waits : step.waiter? = some waiter) (joined : other < session.deck.waiters.length) :
    Signal.unseen other (session.signals (.deck step) ++ history) =
      if waiter = other then 0 else Signal.unseen other history := by
  rw [signals_of_waiting waits]
  by_cases mine : waiter = other
  · subst mine
    obtain ⟨⟨view, shown⟩, _⟩ := heeds.reports waits joined
    rw [shown, Entry.wakes_report, if_pos rfl]
    by_cases due : 0 < Signal.unseen waiter history
    · simp [due, Signal.unseen]
    · simp only [due, decide_false, Bool.false_eq_true, if_false, List.nil_append]
      omega
  · rw [if_neg mine]
    split
    · simp [Signal.unseen, mine]
    · rfl

theorem waited (heeds : session.Heeds history) {step : Deck.Step} {waiter : Nat}
    (waits : step.waiter? = some waiter) :
    (session.step (.deck step)).1.Heeds (session.signals (.deck step) ++ history) := by
  have left : (session.step (.deck step)).1.deck = _ :=
    session.deck.left_waiting session.clock.now waits
  intro other found present
  rw [left] at present ⊢
  have joined : other < session.deck.waiters.length := by
    obtain ⟨inside, _⟩ := List.getElem?_eq_some_iff.mp present
    rwa [List.length_set] at inside
  rw [heeds.unseen_waited waits joined]
  by_cases same : waiter = other
  · subst same
    rw [List.getElem?_set_self joined] at present
    cases present
    rw [if_pos rfl, Nat.add_zero]
  · rw [List.getElem?_set_ne same] at present
    rw [if_neg same]
    exact heeds other found present

theorem joined (heeds : session.Heeds history) :
    (session.step (.deck .join)).1.Heeds (session.signals (.deck .join) ++ history) := by
  intro waiter found present
  change (session.deck.waiters ++ [Waiter.join session.deck.device.delivery])[waiter]? =
    some found at present
  change found.seen + (if session.deck.waiters.length = waiter then 0
    else Signal.unseen waiter history) = session.deck.device.delivery.edges
  rcases Nat.lt_trichotomy waiter session.deck.waiters.length with elder | new | beyond
  · rw [List.getElem?_append_left elder] at present
    rw [if_neg (Nat.ne_of_gt elder)]
    exact heeds waiter found present
  · subst new
    rw [List.getElem?_concat_length] at present
    cases present
    rw [if_pos rfl]
    rfl
  · rw [List.getElem?_eq_none (by simp; omega)] at present
    cases present

theorem step (heeds : session.Heeds history) (step : Step)
    (counts : step = .deck .poll → ∀ periods counted,
      (session.deck.device.strike session.clock.now).2 = .told periods counted → counted = true) :
    (session.step step).1.Heeds (session.signals step ++ history) := by
  cases step with
  | clock move => exact heeds
  | deck step =>
      cases step with
      | call call =>
          have delivered := (session.deck.device.answer_effect session.clock.now call).delivery_eq
          intro waiter found present
          exact (heeds waiter found present).trans (congrArg Delivery.edges delivered).symm
      | poll =>
          have edges := (session.deck.device.strike_struck session.clock.now).edges (counts rfl)
          rw [← Device.poll_delivery] at edges
          intro waiter found present
          have behind := heeds waiter found present
          change _ = (session.deck.device.poll session.clock.now).1.delivery.edges
          rw [edges, ← behind, signals]
          split
          · exact (Nat.add_assoc _ _ _).symm
          · rfl
      | join => exact heeds.joined
      | total waiter =>
          have stays : (session.step (.deck (.total waiter))).1 = session := by
            simp only [Session.step, Deck.step]
            cases session.deck.waiters[waiter]? <;> rfl
          rw [stays]
          exact heeds
      | tryWait waiter => exact heeds.waited rfl
      | waitFor waiter milliseconds => exact heeds.waited rfl
      | wait waiter => exact heeds.waited rfl

/-- A run keeps its waiters heedful, as long as what was ever told can be counted. -/
theorem run (heeds : session.Heeds history) {journal : Journal}
    (tallied : (session.scene journal).Tallied) (steps : List Step)
    (few : ((session.scene journal).run (session.acts steps)).journal.toldEver < wordLimit) :
    (session.run steps).1.Heeds (session.chronicle steps ++ history) := by
  induction steps generalizing session journal history with
  | nil => exact heeds
  | cons step rest ih =>
      rw [acts, Scene.run_append] at few
      have now : ((session.scene journal).run (session.actsOf step)).journal.toldEver < wordLimit :=
        Scene.toldEver_of_run _ few
      have tallies := tallied.run _ now
      have counts (polls : step = .deck .poll) := by
        subst polls
        -- what the poll tells fits, as it is told within the run
        have struck : ((session.scene journal).act .poll).journal.toldEver < wordLimit :=
          Scene.toldEver_of_run _ now
        exact (tallied.poll (session.deck.device.strike_struck session.clock.now) struck).2
      obtain ⟨later, reached⟩ := session.run_actsOf journal step
      rw [reached] at tallies few
      have heeded := ih (heeds.step step counts) tallies few
      rw [chronicle, List.append_assoc]
      exact heeded

end Heeds

/-! ## Waiters among themselves -/

/-- What a run shows at the steps other than the waits of one waiter. -/
def besides (waiter : Nat) (session : Session) : List Step → List Entry
  | [] => []
  | step :: rest =>
      if step.waiter? = some waiter then (session.step step).1.besides waiter rest
      else (session.step step).2 :: (session.step step).1.besides waiter rest

/-- Two sessions that differ in what one waiter has seen. -/
structure Beside (waiter : Nat) (first second : Session) : Prop where
  clock : second.clock = first.clock
  device : second.deck.device = first.deck.device
  length : second.deck.waiters.length = first.deck.waiters.length
  others : ∀ other, other ≠ waiter → second.deck.waiters[other]? = first.deck.waiters[other]?

namespace Beside

variable {waiter : Nat} {first second : Session}

theorem refl (session : Session) : Beside waiter session session :=
  ⟨rfl, rfl, rfl, fun _ _ => rfl⟩

theorem skip (beside : Beside waiter first second) {step : Step}
    (waits : step.waiter? = some waiter) : Beside waiter (first.step step).1 second := by
  cases step with
  | clock move => cases waits
  | deck step =>
      have left : (first.step (.deck step)).1.deck = _ :=
        first.deck.left_waiting first.clock.now waits
      obtain ⟨clock, device, length, others⟩ := beside
      refine ⟨clock, ?_, ?_, ?_⟩
      · rw [left]
        exact device
      · rw [left, List.length_set]
        exact length
      · intro other apart
        rw [left, List.getElem?_set_ne (Ne.symm apart)]
        exact others other apart

theorem step_waiting (beside : Beside waiter first second) {step : Deck.Step} {other : Nat}
    (waits : step.waiter? = some other) (apart : other ≠ waiter) :
    (second.step (.deck step)).2 = (first.step (.deck step)).2 ∧
      Beside waiter (first.step (.deck step)).1 (second.step (.deck step)).1 := by
  obtain ⟨clock, device, length, others⟩ := beside
  have same := others other apart
  have view : second.deck.view [] [] = first.deck.view [] [] := by simp only [Deck.view, device]
  cases present : first.deck.waiters[other]? with
  | none =>
      have mine := first.deck.step_unjoined first.clock.now waits present
      have its := second.deck.step_unjoined second.clock.now waits (same.trans present)
      simp only [Session.step, mine, its, view]
      exact ⟨trivial, clock, device, length, others⟩
  | some found =>
      have mine := first.deck.step_waiting first.clock.now waits present
      have its := second.deck.step_waiting second.clock.now waits (same.trans present)
      simp only [Session.step, mine, its, view, device]
      refine ⟨trivial, clock, rfl, by simpa using length, fun third beyond => ?_⟩
      simp only [List.getElem?_set, length, others third beyond]

theorem step (beside : Beside waiter first second) {step : Step}
    (other : step.waiter? ≠ some waiter) :
    (second.step step).2 = (first.step step).2 ∧
      Beside waiter (first.step step).1 (second.step step).1 := by
  have waiting := @beside.step_waiting
  obtain ⟨_, _, elders⟩ := first
  obtain ⟨clock, device, waiters⟩ := second
  obtain ⟨same, alike, length, others⟩ := beside
  simp only at same alike length others
  subst same alike
  cases step with
  | clock move => exact ⟨rfl, rfl, rfl, length, others⟩
  | deck step =>
      cases step with
      | tryWait | waitFor | wait => exact waiting rfl fun same => other (congrArg some same)
      | call call | poll => exact ⟨rfl, rfl, rfl, length, others⟩
      | join =>
          refine ⟨congrArg (fun number => Entry.deck (.joined number) _) length, rfl, rfl, ?_,
            fun third beyond => ?_⟩
          · simpa [Session.step, Deck.step] using length
          · simp only [Session.step, Deck.step, List.getElem?_append, length, others third beyond]
      | total found =>
          -- only whether somebody joined under the number counts here
          rcases Nat.lt_or_ge found elders.length with joined | missing
          · have its : waiters[found]? = some waiters[found] :=
              List.getElem?_eq_getElem (length ▸ joined)
            simp only [Session.step, Deck.step, List.getElem?_eq_getElem joined, its]
            exact ⟨rfl, rfl, rfl, length, others⟩
          · have its : waiters[found]? = none := List.getElem?_eq_none (length ▸ missing)
            simp only [Session.step, Deck.step, List.getElem?_eq_none missing, its]
            exact ⟨rfl, rfl, rfl, length, others⟩

theorem run (beside : Beside waiter first second) (steps : List Step) :
    first.besides waiter steps =
      (second.run (steps.filter fun step => step.waiter? ≠ some waiter)).2 := by
  induction steps generalizing first second with
  | nil => rfl
  | cons step rest ih =>
      by_cases waits : step.waiter? = some waiter
      · rw [besides, if_pos waits, List.filter_cons_of_neg (by simp [waits])]
        exact ih (beside.skip waits)
      · obtain ⟨shown, next⟩ := beside.step waits
        rw [besides, if_neg waits, List.filter_cons_of_pos (by simp [waits]), ih next, ← shown]
        rfl

end Beside

/-! ## Waiting at rest -/

theorem unstarted_of_freed {session : Session} (freed : session.deck.device.stage = .freed)
    (disarmed : session.deck.device.expiry = none) (steps : List Step) :
    (session.journal steps).startedAt? = none := by
  obtain ⟨_, _, passes, grown, silent⟩ :=
    @Scene.Over.run (session.scene []) freed disarmed (session.acts steps)
  have whole : session.journal steps = passes := grown.trans (List.append_nil passes)
  rw [whole]
  clear grown whole
  induction passes with
  | nil => rfl
  | cons event earlier ih =>
      obtain ⟨start, finish, rfl⟩ := silent event List.mem_cons_self
      exact ih fun other member => silent other (List.mem_cons_of_mem _ member)

theorem joined_step {session : Session} {waiter : Nat} (step : Step)
    (joined : waiter < session.deck.waiters.length) :
    waiter < (session.step step).1.deck.waiters.length := by
  cases step with
  | clock move => exact joined
  | deck step =>
      cases waits : step.waiter? with
      | some found =>
          have left : (session.step (.deck step)).1.deck = _ :=
            session.deck.left_waiting session.clock.now waits
          rwa [left, List.length_set]
      | none =>
          cases step with
          | tryWait | waitFor | wait => cases waits
          | call call | poll => exact joined
          | join =>
              simp only [Session.step, Deck.step, List.length_append]
              omega
          | total found =>
              simp only [Session.step, Deck.step]
              cases session.deck.waiters[found]? <;> exact joined

theorem joined_run {session : Session} {waiter : Nat} (steps : List Step)
    (joined : waiter < session.deck.waiters.length) :
    waiter < (session.run steps).1.deck.waiters.length := by
  induction steps generalizing session with
  | nil => exact joined
  | cons step rest ih => exact ih (joined_step step joined)

/-- At rest a waiter is told nothing, so that its first wait leaves it with nothing unseen. -/
theorem Heeds.unseen_step {session : Session} {history : List Signal}
    (heeds : session.Heeds history) (stage : session.deck.device.stage ≠ .running) {waiter : Nat}
    (joined : waiter < session.deck.waiters.length) (step : Step) :
    Signal.unseen waiter (session.signals step ++ history) =
      if step.waiter? = some waiter then 0 else Signal.unseen waiter history := by
  cases step with
  | clock move => rfl
  | deck step =>
      cases waits : step.waiter? with
      | some found =>
          rw [heeds.unseen_waited waits joined, Step.waiter?, waits]
          simp only [Option.some.injEq]
      | none =>
          cases step with
          | tryWait | waitFor | wait => cases waits
          | call | total => rfl
          | poll =>
              have untold := (session.deck.device.strike_struck session.clock.now).untold stage
              rw [signals, untold]
              rfl
          | join =>
              have elder : session.deck.waiters.length ≠ waiter := Nat.ne_of_gt joined
              simp [signals, Signal.unseen, elder, Step.waiter?, Deck.Step.waiter?]

theorem Heeds.unseen_run {session : Session} {history : List Signal}
    (heeds : session.Heeds history) (stage : session.deck.device.stage ≠ .running)
    (lowered : session.deck.device.active = false) (disarmed : session.deck.device.expiry = none)
    {waiter : Nat} (joined : waiter < session.deck.waiters.length) (steps : List Step)
    (unstarted : (session.journal steps).startedAt? = none) :
    Signal.unseen waiter (session.chronicle steps ++ history) =
      if ∀ step ∈ steps, step.waiter? ≠ some waiter then Signal.unseen waiter history else 0 := by
  induction steps generalizing session history with
  | nil => simp [chronicle]
  | cons step rest ih =>
      have whole := session.journal_append [step] rest
      rw [List.singleton_append] at whole
      rw [whole, Journal.startedAt?_append_eq_none_iff] at unstarted
      have resting := resting_run stage lowered disarmed [step] unstarted.2
      have next := heeds.step step fun _ periods counted told => by
        have untold := (session.deck.device.strike_struck session.clock.now).untold stage
        rw [told] at untold
        cases untold
      have later := ih next resting.stage resting.lowered resting.disarmed
        (joined_step step joined) unstarted.1
      rw [chronicle, List.append_assoc, later, heeds.unseen_step stage joined step]
      by_cases waits : step.waiter? = some waiter
      · simp [waits]
      · simp [waits]

variable {template : Template} {clock : ManualClock} {session : Session}

theorem heeds_opening (opened : Session.begin template clock = .ok session) : session.Heeds [] := by
  rw [Session.begin] at opened
  cases built : template.build clock.ticksPerSecond with
  | error cause => simp [built] at opened
  | ok device =>
      simp only [built, Except.ok.injEq] at opened
      subst opened
      intro waiter found present
      cases present

/-- Waiters are triggered by edges, in every run in which all that was ever told can be counted. A
wait succeeds if the consumers were told something since its waiter joined or last succeeded,
however often, and a wait that fails changes nothing. The waits of one waiter can be left out
without a difference to the rest. After the device was freed, or came to rest and until it is
started, the first wait of each waiter reports what the waiter has not seen, and no later one
succeeds. -/
theorem waits_exact (opened : Session.begin template clock = .ok session) (steps : List Step)
    (few : (session.journal steps).toldEver < wordLimit) :
    (∀ before step after waiter, steps = before ++ .deck step :: after →
      step.waiter? = some waiter → waiter < (session.run before).1.deck.waiters.length →
        (∃ view, ((session.run before).1.step (.deck step)).2 =
          .deck (step.report (decide (0 < Signal.unseen waiter (session.chronicle before)))) view) ∧
        (Signal.unseen waiter (session.chronicle before) = 0 →
          ((session.run before).1.step (.deck step)).1 = (session.run before).1)) ∧
    (∀ waiter, session.besides waiter steps =
      (session.run (steps.filter fun step => step.waiter? ≠ some waiter)).2) ∧
    ∀ before after, steps = before ++ after →
      (session.run before).1.deck.device.stage = .freed ∨
        (session.run before).1.deck.device.stage ≠ .running ∧
          ((session.run before).1.journal after).startedAt? = none →
      ∀ first step rest waiter, after = first ++ .deck step :: rest →
        step.waiter? = some waiter → waiter < (session.run before).1.deck.waiters.length →
          ∃ view, ((session.run (before ++ first)).1.step (.deck step)).2 =
            .deck (step.report (decide (0 < Signal.unseen waiter (session.chronicle before) ∧
              ∀ earlier ∈ first, earlier.waiter? ≠ some waiter))) view := by
  have heeds {before after : List Step} (split : steps = before ++ after) :
      (session.run before).1.Heeds (session.chronicle before) := by
    rw [split, journal_append] at few
    have whole := (heeds_opening opened).run (tallied_opening opened) before
      (Journal.toldEver_of_append few)
    rwa [List.append_nil] at whole
  refine ⟨?_, fun waiter => (Beside.refl session).run steps, ?_⟩
  · intro before step after waiter split waits joined
    exact (heeds split).reports waits joined
  · intro before after split ends first step rest waiter later waits joined
    have stage : (session.run before).1.deck.device.stage ≠ .running := by
      rcases ends with freed | ⟨resting, _⟩
      · simp [freed]
      · exact resting
    obtain ⟨lowered, disarmed⟩ : (session.run before).1.deck.device.active = false ∧
        (session.run before).1.deck.device.expiry = none :=
      (session.shows_last before).dormant opened stage
    have unstarted : ((session.run before).1.journal after).startedAt? = none := by
      rcases ends with freed | ⟨_, unstarted⟩
      · exact unstarted_of_freed freed disarmed after
      · exact unstarted
    rw [later, journal_append, Journal.startedAt?_append_eq_none_iff] at unstarted
    have unseen := (heeds split).unseen_run stage lowered disarmed joined first unstarted.2
    have here : steps = (before ++ first) ++ .deck step :: rest := by
      rw [split, later, List.append_assoc]
    have present : waiter < (session.run (before ++ first)).1.deck.waiters.length := by
      rw [run_append]
      exact joined_run first joined
    obtain ⟨⟨view, shown⟩, _⟩ := (heeds here).reports waits present
    refine ⟨view, ?_⟩
    rw [shown, chronicle_append, unseen]
    congr 2
    rw [decide_eq_decide]
    split
    · next unwaited => exact ⟨fun due => ⟨due, unwaited⟩, And.left⟩
    · next waited => exact ⟨fun due => absurd due (Nat.lt_irrefl 0), fun due => absurd due.2 waited⟩

/-- Waiting at work: a second waiter joins after the first telling and is still behind by one when
the device is stopped. It succeeds once and then would block, whatever the first waiter does. -/
theorem waits_exact_stopped :
    ∃ (session : Session) (before : List Step),
      Session.begin {} ⟨1000, 7⟩ = .ok session ∧
        (session.run before).1.deck.device.stage = .stopped ∧
        (∃ view, ((session.run before).1.step (.deck (.wait 1))).2 = .deck (.woke true) view) ∧
        ∃ view, ((session.run (before ++ [.deck (.wait 1), .deck (.waitFor 0 5)])).1.step
          (.deck (.wait 1))).2 = .deck .wouldBlock view := by
  let session : Session := ⟨⟨1000, 7⟩, ⟨({} : Template).idleDevice 1000 none, []⟩⟩
  let before : List Step :=
    [.deck .join, .deck (.call (.prepare ⟨11025, 3000, 700⟩)), .deck (.call .start),
      .clock (.forward 123), .deck .poll, .deck .join, .deck (.tryWait 0), .clock (.forward 100),
      .deck .poll, .deck (.call .stop)]
  let after : List Step := [.deck (.wait 1), .deck (.waitFor 0 5), .deck (.wait 1)]
  have opened : Session.begin {} ⟨1000, 7⟩ = .ok session := rfl
  have few : (session.journal (before ++ after)).toldEver < wordLimit := by decide +kernel
  have stopped : (session.run before).1.deck.device.stage = .stopped := by decide +kernel
  have resting : (session.run before).1.deck.device.stage ≠ .running := by simp [stopped]
  have unstarted : ((session.run before).1.journal after).startedAt? = none := by decide +kernel
  have joined : 1 < (session.run before).1.deck.waiters.length := by decide +kernel
  have behind : Signal.unseen 1 (session.chronicle before) = 1 := by decide +kernel
  obtain ⟨_, _, rests⟩ := waits_exact opened (before ++ after) few
  have ends := rests before after rfl (.inr ⟨resting, unstarted⟩)
  obtain ⟨early, first⟩ := ends [] (.wait 1) _ 1 rfl rfl joined
  obtain ⟨late, third⟩ := ends [.deck (.wait 1), .deck (.waitFor 0 5)] (.wait 1) _ 1 rfl rfl joined
  rw [behind] at first third
  exact ⟨session, before, opened, stopped, ⟨early, first⟩, ⟨late, third⟩⟩

end Session

end PcmPlayback
