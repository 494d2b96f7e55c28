import PcmPlayback.Proofs.Alarm
import PcmPlayback.Proofs.Endings
import PcmPlayback.Proofs.Reports

/-!
# Rounds of a timer that is polled on time

A client that sleeps for as long as the timer says and then polls it goes through rounds. From a
start at the beginning of the buffer the wake-ups of these rounds lie at fixed ticks, on either
schedule, and each of them tells the boundaries passed since the one before.
-/

set_option autoImplicit false

namespace PcmPlayback

/-- A callback that spares the device, as do all that may take its place. -/
inductive Routine.Gentle : Callback → Prop where
  | intro (routine : Callback) (spares : routine.Spares)
      (heirs : ∀ heir, .register heir ∈ routine.calls → Gentle heir) : Gentle routine

namespace Routine.Gentle

variable {callback : Option Callback}

theorem spares {routine : Callback} (gentle : routine.Gentle) : routine.Spares := by
  cases gentle with
  | intro _ spares _ => exact spares

theorem foldl_rerouted {calls : List Call}
    (heirs : ∀ heir, .register heir ∈ calls → heir.Gentle)
    (gentle : ∀ routine, callback = some routine → routine.Gentle) :
    ∀ routine, calls.foldl Call.rerouted callback = some routine → routine.Gentle := by
  induction calls generalizing callback with
  | nil => exact gentle
  | cons call rest ih =>
      refine ih (fun heir member => heirs heir (List.mem_cons_of_mem _ member)) ?_
      cases call with
      | register routine =>
          intro found placed
          cases placed
          exact heirs routine List.mem_cons_self
      | unregister => exact nofun
      | prepare | start | stop | trigger | pointer | status | describe | copyOut | free =>
          exact gentle

theorem heir (gentle : ∀ routine, callback = some routine → routine.Gentle) :
    ∀ routine, Routine.heir callback = some routine → routine.Gentle := by
  cases callback with
  | none => exact nofun
  | some routine =>
      have own := gentle routine rfl
      cases own with
      | intro _ _ heirs => exact foldl_rerouted heirs gentle

end Routine.Gentle

namespace Delivery

variable {delivery : Delivery} {periods : Nat}

theorem lt_of_not_full (room : ¬ delivery.Full periods) : periods < wordLimit := by
  unfold Full at room
  omega

theorem raise_of_not_full (room : ¬ delivery.Full periods) :
    delivery.raise periods = (⟨delivery.edges + 1, delivery.periods + periods⟩, .done ()) := by
  unfold Full at room
  exact raise_eq (by omega) (by omega)

end Delivery

/-! ## Wake-ups -/

theorem Tick.exists_after {now : Tick} {delay : Nat} (fits : now.toNat + delay < wordLimit) :
    ∃ later, now.after? delay = some later ∧ later.toNat = now.toNat + delay := by
  cases reached : now.after? delay with
  | none =>
      rw [Tick.after?_eq_none_iff] at reached
      omega
  | some later => exact ⟨later, rfl, Tick.after?_eq_some_iff.mp reached⟩

/-- An update of the playhead after some more ticks of play. What is played while a clock counts
through its word is within half of a double word, so the update does not fault. -/
theorem Playhead.advance_played {base now : Tick} {timing : Timing} {earlier later pending : Nat}
    (sound : timing.Sound) (ordered : earlier ≤ later) (bounded : later < wordLimit)
    (elapsed : now.toNat = base.toNat + (later - earlier)) :
    (⟨base, some (.after timing (timing.speed * earlier) pending)⟩ : Playhead).advance now =
      (⟨now, some (.after timing (timing.speed * later) (Progress.count pending
        (timing.speed * later / timing.periodSpan -
          timing.speed * earlier / timing.periodSpan)))⟩, .done ()) := by
  have after : base ≤ now := by
    rw [UInt64.le_iff_toNat_le]
    omega
  have total : timing.speed * earlier + now.since base * timing.speed =
      timing.speed * later := by
    rw [Tick.since_eq_sub after, Nat.mul_comm (now.toNat - base.toNat), ← Nat.mul_add, elapsed,
      Nat.add_sub_cancel_left, Nat.add_sub_of_le ordered]
  have distance := timing.distance_lt bounded
  have offset := Nat.mod_le (timing.speed * earlier) timing.bufferSpan
  simp only [wordLimit] at distance
  rw [advance_after sound, crossings, total]
  · simp only [wideLimit, wordLimit]
    omega
  · intro reached
    have within := Nat.mod_le (timing.speed * earlier) timing.periodSpan
    simp only [wideLimit, wordLimit]
    omega

namespace Schedule

variable {schedule : Schedule} {timing : Timing} {round : Nat}

/-- Ticks from a start at the beginning of the buffer to a wake-up, if every one is on time. -/
def point (schedule : Schedule) (timing : Timing) (round : Nat) : Nat :=
  match schedule with
  | .boundary => divUp (round * timing.periodSpan) timing.speed
  | .grid => round * timing.periodTicks

/-- Boundaries that the playhead has passed at a wake-up. -/
def passed (schedule : Schedule) (timing : Timing) (round : Nat) : Nat :=
  timing.speed * schedule.point timing round / timing.periodSpan

/-- Boundaries passed between a wake-up and the next. -/
def fresh (schedule : Schedule) (timing : Timing) (round : Nat) : Nat :=
  schedule.passed timing (round + 1) - schedule.passed timing round

/-- Ticks to sleep after a distance has been covered. -/
def delay (schedule : Schedule) (timing : Timing) (covered : Nat) : Nat :=
  match schedule with
  | .boundary => timing.ticksFor (timing.periodSpan - covered % timing.periodSpan)
  | .grid => timing.periodTicks

theorem point_zero (sound : timing.Sound) : schedule.point timing 0 = 0 := by
  have positive := sound.speed_pos
  cases schedule with
  | boundary =>
      rw [point, divUp, Nat.zero_mul]
      exact Nat.div_eq_of_lt (by omega)
  | grid => exact Nat.zero_mul _

theorem passed_zero (sound : timing.Sound) : schedule.passed timing 0 = 0 := by
  rw [passed, point_zero sound, Nat.mul_zero, Nat.zero_div]

theorem point_mono (sound : timing.Sound) {earlier later : Nat} (ordered : earlier ≤ later) :
    schedule.point timing earlier ≤ schedule.point timing later := by
  cases schedule with
  | boundary =>
      have covers := le_divUp_mul (later * timing.periodSpan) sound.speed_pos
      exact (divUp_le_iff sound.speed_pos).mpr
        (Nat.le_trans (Nat.mul_le_mul_right _ ordered) covers)
  | grid => exact Nat.mul_le_mul_right _ ordered

theorem passed_add_fresh (sound : timing.Sound) :
    schedule.passed timing round + schedule.fresh timing round =
      schedule.passed timing (round + 1) := by
  have ordered : schedule.passed timing round ≤ schedule.passed timing (round + 1) :=
    Nat.div_le_div_right (Nat.mul_le_mul_left _ (point_mono sound (Nat.le_succ round)))
  unfold fresh
  omega

theorem passed_le_point (sound : timing.Sound) (slow : timing.speed ≤ timing.periodSpan) :
    schedule.passed timing round ≤ schedule.point timing round := by
  rw [passed, Nat.div_le_iff_le_mul_add_pred sound.period_pos]
  exact Nat.le_trans (Nat.mul_le_mul_right _ slow) (Nat.le_add_right _ _)

/-- At each wake-up on the boundary schedule just the next boundary has been passed: it overshoots
by less than a tick, and a period lasts a tick at least. -/
theorem passed_boundary (sound : timing.Sound) (slow : timing.speed ≤ timing.periodSpan) :
    Schedule.boundary.passed timing round = round := by
  have positive := sound.speed_pos
  have covers := le_divUp_mul (round * timing.periodSpan) positive
  have overshoot : divUp (round * timing.periodSpan) timing.speed * timing.speed ≤
      round * timing.periodSpan + timing.speed - 1 := Nat.div_mul_le_self _ _
  rw [passed, point, Nat.mul_comm timing.speed]
  apply Nat.div_eq_of_lt_le covers
  rw [Nat.add_mul]
  omega

theorem periodSpan_le (sound : timing.Sound) (fits : timing.periodTicks + 1 < wordLimit) :
    timing.periodSpan ≤ timing.speed * timing.periodTicks :=
  Timing.covers_of_ticksFor_le sound fits (Nat.le_refl _)

theorem passed_lt_succ (sound : timing.Sound) (slow : timing.speed ≤ timing.periodSpan)
    (fits : schedule.point timing (round + 2) < wordLimit) :
    schedule.passed timing round < schedule.passed timing (round + 1) := by
  cases schedule with
  | boundary =>
      rw [passed_boundary sound slow, passed_boundary sound slow]
      exact Nat.lt_succ_self round
  | grid =>
      have positive : 0 < timing.periodTicks := timing.ticksFor_pos timing.periodSpan
      have twice := Nat.mul_le_mul_right timing.periodTicks (Nat.le_add_left 2 round)
      change (round + 2) * timing.periodTicks < wordLimit at fits
      have covers := periodSpan_le sound (by omega)
      rw [passed, passed, point, point, Nat.add_mul, Nat.one_mul, Nat.mul_add]
      calc _ < timing.speed * (round * timing.periodTicks) / timing.periodSpan + 1 :=
            Nat.lt_succ_self _
        _ = (timing.speed * (round * timing.periodTicks) + timing.periodSpan) /
            timing.periodSpan := (Nat.add_div_right _ sound.period_pos).symm
        _ ≤ _ := Nat.div_le_div_right (Nat.add_le_add_left covers _)

/-- No wake-up is in vain. -/
theorem le_passed (sound : timing.Sound) (slow : timing.speed ≤ timing.periodSpan)
    (fits : schedule.point timing (round + 1) < wordLimit) :
    round ≤ schedule.passed timing round := by
  induction round with
  | zero => exact Nat.zero_le _
  | succ round ih =>
      have earlier : schedule.point timing (round + 1) ≤ schedule.point timing (round + 2) :=
        point_mono sound (Nat.le_add_right (round + 1) 1)
      have further := passed_lt_succ sound slow fits
      have counted := ih (Nat.lt_of_le_of_lt earlier fits)
      omega

/-- Wake-ups and boundaries within the clock's word can be counted in words. -/
theorem counted (sound : timing.Sound) (slow : timing.speed ≤ timing.periodSpan)
    (fits : schedule.point timing (round + 1) < wordLimit) :
    round < wordLimit ∧ schedule.passed timing round < wordLimit := by
  have least := le_passed sound slow fits
  have most : schedule.passed timing round ≤ schedule.point timing round :=
    passed_le_point sound slow
  have ordered : schedule.point timing round ≤ schedule.point timing (round + 1) :=
    point_mono sound (Nat.le_add_right round 1)
  omega

theorem point_lt_succ (sound : timing.Sound) (slow : timing.speed ≤ timing.periodSpan)
    (fits : schedule.point timing (round + 2) < wordLimit) :
    schedule.point timing round < schedule.point timing (round + 1) := by
  have further := passed_lt_succ sound slow fits
  apply Nat.lt_of_not_le
  intro back
  have fewer : schedule.passed timing (round + 1) ≤ schedule.passed timing round :=
    Nat.div_le_div_right (Nat.mul_le_mul_left _ back)
  omega

/-- The sleeps lead from one wake-up to the next. On the boundary schedule each is rounded up from
the exact rest, so that the roundings do not add up. -/
theorem point_add_delay (sound : timing.Sound) (slow : timing.speed ≤ timing.periodSpan)
    (fits : schedule.point timing (round + 1) < wordLimit) :
    schedule.point timing round +
        schedule.delay timing (timing.speed * schedule.point timing round) =
      schedule.point timing (round + 1) := by
  cases schedule with
  | boundary =>
      have count : timing.speed * Schedule.boundary.point timing round / timing.periodSpan =
        round := passed_boundary sound slow
      have whole := Nat.div_add_mod' (timing.speed * Schedule.boundary.point timing round)
        timing.periodSpan
      have within := Nat.mod_lt (timing.speed * Schedule.boundary.point timing round)
        sound.period_pos
      have covers : (round + 1) * timing.periodSpan ≤
          Schedule.boundary.point timing (round + 1) * timing.speed :=
        le_divUp_mul _ sound.speed_pos
      have rest : timing.periodSpan -
          timing.speed * Schedule.boundary.point timing round % timing.periodSpan =
            (round + 1) * timing.periodSpan -
              timing.speed * Schedule.boundary.point timing round := by
        rw [count] at whole
        rw [Nat.add_mul]
        omega
      have positive : 0 < (round + 1) * timing.periodSpan -
          timing.speed * Schedule.boundary.point timing round := by omega
      have reached : (round + 1) * timing.periodSpan -
          timing.speed * Schedule.boundary.point timing round ≤
            timing.speed * Schedule.boundary.point timing (round + 1) := by
        rw [Nat.mul_comm timing.speed (Schedule.boundary.point timing (round + 1))]
        exact Nat.le_trans (Nat.sub_le _ _) covers
      have least := Timing.divUp_pos sound positive
      have exact := Timing.ticksFor_eq sound positive fits reached
      rw [delay, rest, exact]
      rw [divUp_sub_mul sound.speed_pos] at least ⊢
      change _ = divUp ((round + 1) * timing.periodSpan) timing.speed
      omega
  | grid => exact (Nat.succ_mul round timing.periodTicks).symm

end Schedule

namespace Device

theorem gridPoint?_self (now : Tick) {period : Nat} (positive : 0 < period) :
    gridPoint? now now period = now.after? period := by
  rw [gridPoint?, if_pos (UInt64.le_refl now), if_neg (Nat.pos_iff_ne_zero.mp positive),
    Nat.sub_self, Nat.zero_div, Nat.zero_add, Nat.one_mul]

variable {device : Device} {timing : Timing} {now : Tick} {covered pending : Nat}

theorem firstExpiry?_after
    (progress : device.playhead.progress = some (.after timing covered pending))
    (period : device.periodTicks = timing.periodTicks) :
    device.firstExpiry? now = now.after? (device.profile.schedule.delay timing covered) := by
  rw [firstExpiry?]
  cases device.profile.schedule with
  | boundary =>
      rw [Playhead.delay?_after progress]
      rfl
  | grid =>
      rw [period]
      rfl

theorem nextExpiry?_after
    (progress : device.playhead.progress = some (.after timing covered pending))
    (period : device.periodTicks = timing.periodTicks)
    (grid : device.profile.schedule = .grid → device.gridTick = now) :
    device.nextExpiry? now = now.after? (device.profile.schedule.delay timing covered) := by
  rw [nextExpiry?]
  cases schedule : device.profile.schedule with
  | boundary =>
      rw [Playhead.delay?_after progress]
      rfl
  | grid =>
      rw [period, grid schedule]
      exact gridPoint?_self now (timing.ticksFor_pos _)

/-- A device some rounds after a start at the beginning of the buffer. Nothing is left to tell, and
the timer waits for the next wake-up. -/
structure Punctual (device : Device) (schedule : Schedule) (timing : Timing)
    (started now expiry : Tick) (round : Nat) : Prop where
  scheduled : device.profile.schedule = schedule
  running : device.stage = .running
  active : device.active = true
  place : now.toNat = started.toNat + schedule.point timing round
  head : device.playhead = ⟨now, some (.after timing
    (timing.speed * schedule.point timing round) 0)⟩
  period : device.periodTicks = timing.periodTicks
  armed : device.expiry = some expiry
  next : expiry.toNat = started.toNat + schedule.point timing (round + 1)
  grid : schedule = .grid → device.gridTick = expiry
  gentle : ∀ routine, device.callback = some routine → routine.Gentle

namespace Punctual

variable {schedule : Schedule} {started expiry : Tick} {round : Nat}

theorem advance_eq (punctual : device.Punctual schedule timing started now expiry round)
    (sound : timing.Sound) (slow : timing.speed ≤ timing.periodSpan)
    (fits : schedule.point timing (round + 2) < wordLimit)
    (few : schedule.fresh timing round < wordLimit) :
    device.playhead.advance expiry =
      (⟨expiry, some (.after timing (timing.speed * schedule.point timing (round + 1))
        (schedule.fresh timing round))⟩, .done ()) := by
  have further := Schedule.point_lt_succ sound slow fits
  have place := punctual.place
  have next := punctual.next
  have bounded : schedule.point timing (round + 1) < wordLimit :=
    Nat.lt_of_le_of_lt (next ▸ Nat.le_add_left _ _) expiry.toNat_lt
  rw [punctual.head, Playhead.advance_played sound (Nat.le_of_lt further) bounded (by omega)]
  change (Playhead.mk expiry (some (.after timing _
    (Progress.count 0 (schedule.fresh timing round)))), _) = _
  rw [Progress.count_eq_add (by omega), Nat.zero_add]

theorem nextExpiry?_eq (punctual : device.Punctual schedule timing started now expiry round)
    (sound : timing.Sound) (slow : timing.speed ≤ timing.periodSpan)
    (fits : started.toNat + schedule.point timing (round + 2) < wordLimit)
    (few : schedule.fresh timing round < wordLimit) :
    ∃ tick, (device.updated expiry).nextExpiry? expiry = some tick ∧
      tick.toNat = started.toNat + schedule.point timing (round + 2) := by
  have within := Nat.lt_of_le_of_lt (Nat.le_add_left _ _) fits
  have place := punctual.next
  have leads : schedule.point timing (round + 1) +
      schedule.delay timing (timing.speed * schedule.point timing (round + 1)) =
        schedule.point timing (round + 2) := Schedule.point_add_delay sound slow within
  obtain ⟨tick, found, reached⟩ := @Tick.exists_after expiry
    (schedule.delay timing (timing.speed * schedule.point timing (round + 1))) (by omega)
  refine ⟨tick, ?_, by omega⟩
  rw [← found, ← punctual.scheduled]
  apply nextExpiry?_after
  · rw [updated, punctual.advance_eq sound slow within few, punctual.scheduled]
  · exact punctual.period
  · exact fun grid => punctual.grid (punctual.scheduled.symm.trans grid)

/-- At the next wake-up the device arms its timer for the one after, and tells what has been passed
in between. -/
theorem strike_eq (punctual : device.Punctual schedule timing started now expiry round)
    (sound : timing.Sound) (slow : timing.speed ≤ timing.periodSpan)
    (fits : started.toNat + schedule.point timing (round + 2) < wordLimit)
    (room : ¬ device.delivery.Full (schedule.fresh timing round)) :
    ∃ tick gridTick ring source,
      tick.toNat = started.toNat + schedule.point timing (round + 2) ∧
        (schedule = .grid → gridTick = tick) ∧
        device.strike expiry =
          ((device.drained expiry tick gridTick ring source).counted
              (schedule.fresh timing round),
            .told (schedule.fresh timing round) true) := by
  have within := Nat.lt_of_le_of_lt (Nat.le_add_left _ _) fits
  have few := Delivery.lt_of_not_full room
  have some : 0 < schedule.fresh timing round :=
    Nat.sub_pos_of_lt (Schedule.passed_lt_succ sound slow within)
  have advanced := punctual.advance_eq sound slow within few
  have pending : (device.playhead.advance expiry).1.pending = schedule.fresh timing round := by
    rw [advanced]
    rfl
  obtain ⟨later, next, reached⟩ := punctual.nextExpiry?_eq sound slow fits few
  have struck := device.strike_struck expiry
  generalize device.strike expiry = result at struck ⊢
  obtain ⟨fired, strike⟩ := result
  cases struck with
  | early early =>
      rw [isDue_iff.mpr ⟨expiry, punctual.armed, UInt64.le_refl expiry⟩] at early
      cases early
  | asleep due asleep => exact absurd ⟨punctual.active, punctual.running⟩ asleep
  | faulted due running fault =>
      rcases fault with stuck | none
      · rw [advanced] at stuck
        cases stuck
      · rw [next] at none
        cases none
  | fired due running moved tick gridTick ring source armed grid none =>
      rw [pending] at none
      omega
  | told due running moved tick gridTick ring source armed grid told =>
      cases next.symm.trans armed
      rw [pending, Delivery.isDone_raise_iff.mpr room]
      exact ⟨later, gridTick, ring, source, reached,
        fun onGrid => grid (punctual.scheduled.trans onGrid), rfl⟩

theorem poll (punctual : device.Punctual schedule timing started now expiry round)
    (sound : timing.Sound) (slow : timing.speed ≤ timing.periodSpan)
    (fits : started.toNat + schedule.point timing (round + 2) < wordLimit)
    (room : ¬ device.delivery.Full (schedule.fresh timing round)) :
    (∃ tick, (device.poll expiry).1.Punctual schedule timing started expiry tick (round + 1)) ∧
      (device.poll expiry).1.delivery = ⟨device.delivery.edges + 1,
        device.delivery.periods + schedule.fresh timing round⟩ ∧
      (device.poll expiry).2.map CallbackRun.periods =
        device.callback.map fun _ => schedule.fresh timing round := by
  obtain ⟨tick, gridTick, ring, source, place, grid, struck⟩ :=
    punctual.strike_eq sound slow fits room
  have within := Nat.lt_of_le_of_lt (Nat.le_add_left _ _) fits
  have told : (device.strike expiry).2 = .told (schedule.fresh timing round) true :=
    congrArg Prod.snd struck
  have polled := poll_of_counted punctual.running
    (fun callback placed => (punctual.gentle callback placed).spares) told
  have advanced := punctual.advance_eq sound slow within (Delivery.lt_of_not_full room)
  have raised := Delivery.raise_of_not_full room
  rw [struck] at polled
  refine ⟨⟨tick, ?_⟩, ?_, ?_⟩
  · rw [polled]
    refine ⟨punctual.scheduled, punctual.running, punctual.active, punctual.next, ?_,
      punctual.period, rfl, place, grid, Routine.Gentle.heir punctual.gentle⟩
    simp only [fitted, counted, drained, advanced, Playhead.takePending]
    rfl
  · rw [polled]
    exact congrArg Prod.fst raised
  · rw [poll_run_periods, told]

end Punctual

/-! ## The start -/

/-- A prepared device stands at the beginning of its buffer. -/
def Cued (device : Device) : Prop :=
  device.stage = .prepared → ∃ timing, timing.Sound ∧
    timing.ticksPerSecond = device.profile.ticksPerSecond ∧
    device.playhead.progress = some (.start timing)

theorem Cued.effect {next : Device} {event : Option Event} (cued : device.Cued)
    (effect : device.Effect now next event) : next.Cued := by
  cases effect with
  | unchanged | rerouted | misstarted | lowered => exact cued
  | prepared setup size allowed sound => exact fun _ => ⟨_, sound, rfl, rfl⟩
  | read running => exact fun prepared => absurd (running.symm.trans prepared) nofun
  | jammed running => exact fun prepared => absurd (running.symm.trans prepared) nofun
  | started | stopped | freed => exact nofun

theorem Cued.struck {next : Device} {strike : Strike} (cued : device.Cued)
    (struck : device.Struck now next strike) : next.Cued := by
  cases struck with
  | early | asleep => exact cued
  | faulted due running | fired due running | told due running =>
      exact fun prepared => absurd (running.symm.trans prepared) nofun

/-- A start at the beginning of the buffer is on time for the first wake-up. -/
theorem start_punctual (prepared : device.stage = .prepared) (sound : timing.Sound)
    (slow : timing.speed ≤ timing.periodSpan)
    (progress : device.playhead.progress = some (.start timing))
    (period : device.periodTicks = timing.periodTicks)
    (fits : now.toNat + device.profile.schedule.point timing 1 < wordLimit)
    (gentle : ∀ routine, device.callback = some routine → routine.Gentle) :
    ∃ next expiry, device.start now = (next, .done ()) ∧
      next.Punctual device.profile.schedule timing now now expiry 0 ∧
      next.delivery = device.delivery := by
  have zero := @Schedule.point_zero device.profile.schedule timing sound
  have leads : device.profile.schedule.point timing 0 +
      device.profile.schedule.delay timing
        (timing.speed * device.profile.schedule.point timing 0) =
          device.profile.schedule.point timing 1 :=
    Schedule.point_add_delay sound slow (Nat.lt_of_le_of_lt (Nat.le_add_left _ _) fits)
  rw [zero, Nat.zero_add, Nat.mul_zero] at leads
  rw [Progress.start_eq_after] at progress
  have first : (device.rewound now).firstExpiry? now =
      now.after? (device.profile.schedule.delay timing 0) := firstExpiry?_after progress period
  obtain ⟨expiry, found, reached⟩ := @Tick.exists_after now
    (device.profile.schedule.delay timing 0) (by omega)
  obtain ⟨gridTick, grid, armed⟩ := arm_eq (device.rewound now) expiry
  have allowed : device.stage.mayStart = true := by
    rw [prepared]
    rfl
  have started := start_eq now allowed
  simp only [first, found, armed] at started
  refine ⟨_, expiry, started, ⟨rfl, rfl, rfl, ?_, ?_, period, rfl, ?_, grid, gentle⟩, rfl⟩
  · omega
  · rw [zero, Nat.mul_zero, ← progress]
    rfl
  · rw [Nat.zero_add]
    omega

end Device

namespace Session

/-- A session, with what it showed last, once its client has slept for as long as the timer said
and has polled it. -/
def attend (watched : Session × Deck.View) : Session × Deck.View :=
  let woken :=
    (watched.1.step (.clock (.forward (UInt64.ofNat (watched.2.waits.headD 0))))).1
  let (deck, view) := woken.deck.poll woken.clock.now
  ({ woken with deck := deck }, view)

/-- A number of rounds of sleep and poll. -/
def attended (watched : Session × Deck.View) : Nat → Session × Deck.View
  | 0 => watched
  | rounds + 1 => attend (attended watched rounds)

/-- A round that ends in a firing which tells a number of periods. The device goes on running, and
the callback in place, if there is one, hears of just these periods. -/
structure Fires (before : Session) (after : Session × Deck.View) (periods : Nat) : Prop where
  running : after.1.deck.device.stage = .running
  delivery : after.1.deck.device.delivery =
    ⟨before.deck.device.delivery.edges + 1, before.deck.device.delivery.periods + periods⟩
  heard : after.2.runs.map CallbackRun.periods =
    (before.deck.device.callback.map fun _ => periods).toList

/-- A session some rounds after a start, which knows how long to sleep until the next wake-up. -/
structure OnTime (watched : Session × Deck.View) (schedule : Schedule) (timing : Timing)
    (started expiry : Tick) (round : Nat) : Prop where
  punctual : watched.1.deck.device.Punctual schedule timing started watched.1.clock.now expiry round
  waits : watched.2.waits = [expiry.toNat - watched.1.clock.now.toNat]

section

variable {watched : Session × Deck.View} {schedule : Schedule} {timing : Timing}
  {started expiry : Tick} {round : Nat}

theorem OnTime.attend_eq (onTime : OnTime watched schedule timing started expiry round)
    (sound : timing.Sound) :
    (attend watched).1 = ⟨{ watched.1.clock with now := expiry },
        { watched.1.deck with device := (watched.1.deck.device.poll expiry).1 }⟩ ∧
      (attend watched).2.runs = (watched.1.deck.device.poll expiry).2.toList ∧
      (attend watched).2.waits =
        ((watched.1.deck.device.poll expiry).1.wait? expiry).toList := by
  have place := onTime.punctual.place
  have next := onTime.punctual.next
  have ordered : schedule.point timing round ≤ schedule.point timing (round + 1) :=
    Schedule.point_mono sound (Nat.le_add_right round 1)
  have woken : watched.1.clock.forward (UInt64.ofNat (watched.2.waits.headD 0)) =
      { watched.1.clock with now := expiry } := by
    have bounded := expiry.toNat_lt
    rw [onTime.waits, List.headD_cons, ManualClock.forward]
    congr 1
    rw [← UInt64.toNat_inj, UInt64.toNat_add,
      UInt64.toNat_ofNat_of_lt' (Nat.lt_of_le_of_lt (Nat.sub_le _ _) bounded),
      Nat.add_sub_of_le (by omega)]
    exact Nat.mod_eq_of_lt bounded
  rw [attend, step, ManualClock.move, woken]
  exact ⟨rfl, rfl, rfl⟩

theorem OnTime.attend_fires (onTime : OnTime watched schedule timing started expiry round)
    (sound : timing.Sound) (slow : timing.speed ≤ timing.periodSpan)
    (fits : started.toNat + schedule.point timing (round + 2) < wordLimit)
    (room : ¬ watched.1.deck.device.delivery.Full (schedule.fresh timing round)) :
    (∃ tick, OnTime (attend watched) schedule timing started tick (round + 1)) ∧
      Fires watched.1 (attend watched) (schedule.fresh timing round) := by
  obtain ⟨reached, runs, waits⟩ := onTime.attend_eq sound
  obtain ⟨⟨tick, punctual⟩, delivery, heard⟩ := onTime.punctual.poll sound slow fits room
  refine ⟨⟨tick, ?_, ?_⟩, ?_, ?_, ?_⟩
  · rw [reached]
    exact punctual
  · rw [waits, reached, Device.wait?, punctual.armed]
    rfl
  · rw [reached]
    exact punctual.running
  · rw [reached]
    exact delivery
  · rw [runs, ← heard]
    cases (watched.1.deck.device.poll expiry).2 with
    | none | some => rfl

/-- Rounds on time, one after another: together they tell every boundary passed since the start. -/
theorem OnTime.attended_total (onTime : OnTime watched schedule timing started expiry 0)
    (sound : timing.Sound) (slow : timing.speed ≤ timing.periodSpan)
    (fits : started.toNat + schedule.point timing (round + 1) < wordLimit)
    (edges : watched.1.deck.device.delivery.edges + round < wordLimit)
    (periods : watched.1.deck.device.delivery.periods + schedule.passed timing round <
      wordLimit) :
    (∃ tick, OnTime (attended watched round) schedule timing started tick round) ∧
      (attended watched round).1.deck.device.delivery =
        ⟨watched.1.deck.device.delivery.edges + round,
          watched.1.deck.device.delivery.periods + schedule.passed timing round⟩ := by
  induction round with
  | zero =>
      rw [Schedule.passed_zero sound]
      exact ⟨⟨expiry, onTime⟩, rfl⟩
  | succ round ih =>
      have earlier : schedule.point timing (round + 1) ≤ schedule.point timing (round + 1 + 1) :=
        Schedule.point_mono sound (Nat.le_add_right (round + 1) 1)
      have told : schedule.passed timing round + schedule.fresh timing round =
          schedule.passed timing (round + 1) := Schedule.passed_add_fresh sound
      obtain ⟨⟨tick, present⟩, total⟩ := ih (by omega) (by omega) (by omega)
      have room : ¬ (attended watched round).1.deck.device.delivery.Full
          (schedule.fresh timing round) := by
        rw [total, Delivery.Full]
        simp only
        omega
      obtain ⟨later, fires⟩ := present.attend_fires sound slow fits room
      refine ⟨later, ?_⟩
      rw [Session.attended, fires.delivery, total, ← told]
      simp only [Nat.add_assoc]

end

section

variable {template : Template} {clock : ManualClock} {session : Session}

theorem Shows.cued (opened : Session.begin template clock = .ok session) {steps : List Step}
    {scene : Scene} (shown : session.Shows steps scene) : scene.device.Cued :=
  shown.invariant (fun _ => nofun) Device.Cued.effect Device.Cued.struck opened

theorem progress_of_prepared (opened : Session.begin template clock = .ok session)
    {steps : List Step} {timing : Timing}
    (prepared : (session.run steps).1.deck.device.stage = .prepared)
    (set : (session.run steps).1.deck.device.setup? = some timing.setup)
    (clocked : timing.ticksPerSecond = clock.ticksPerSecond) :
    timing.Sound ∧
      (session.run steps).1.deck.device.playhead.progress = some (.start timing) := by
  have shown := session.shows_last steps
  have cued : (session.run steps).1.deck.device.Cued := shown.cued opened
  have profile : (session.run steps).1.deck.device.profile =
      template.profile clock.ticksPerSecond := (shown.profiled opened).same
  have equipped : (session.run steps).1.deck.device.Equipped := shown.equipped opened
  obtain ⟨found, sound, ticks, progress⟩ := cued prepared
  have same : found = timing := by
    rw [equipped.setup, Playhead.timing?, progress] at set
    rw [profile] at ticks
    obtain ⟨setup, ticksPerSecond⟩ := found
    obtain ⟨_, _⟩ := timing
    cases set
    exact congrArg _ (ticks.trans clocked.symm)
  subst same
  exact ⟨sound, progress⟩

/-- A start succeeds if the first wake-up fits into the clock's word, and is on time for it. -/
theorem start_onTime (opened : Session.begin template clock = .ok session) {steps : List Step}
    {timing : Timing} (prepared : (session.run steps).1.deck.device.stage = .prepared)
    (sound : timing.Sound) (slow : timing.speed ≤ timing.periodSpan)
    (progress : (session.run steps).1.deck.device.playhead.progress = some (.start timing))
    (gentle : ∀ routine, (session.run steps).1.deck.device.callback = some routine →
      routine.Gentle)
    {call : Call} (starts : call.starts = true)
    (fits : (session.run steps).1.clock.now.toNat + template.schedule.point timing 1 <
      wordLimit) :
    ∃ started view expiry, (session.run steps).1.step (.deck (.call call)) =
        (started, .deck (.answered (.ended (.done ()))) view) ∧
      OnTime (started, view) template.schedule timing (session.run steps).1.clock.now expiry 0 ∧
      started.deck.device.delivery = (session.run steps).1.deck.device.delivery := by
  have shown := session.shows_last steps
  have dormant : (session.run steps).1.deck.device.Dormant := shown.dormant opened
  have equipped : (session.run steps).1.deck.device.Equipped := shown.equipped opened
  have period := equipped.periodTicks_eq (congrArg (Option.map Progress.timing) progress)
  have scheduled : (session.run steps).1.deck.device.profile.schedule = template.schedule :=
    congrArg Profile.schedule (shown.profiled opened).same
  generalize (session.run steps).1 = last
    at prepared progress gentle fits dormant scheduled period ⊢
  rw [← scheduled] at fits ⊢
  obtain ⟨next, expiry, started, punctual, delivery⟩ :=
    Device.start_punctual prepared sound slow progress period fits gentle
  have resting : last.deck.device.stage ≠ .running := by
    rw [prepared]
    exact nofun
  have answered := Device.answer_starting starts last.deck.device last.clock.now
  rw [started] at answered
  refine ⟨last.holding next, (last.holding next).deck.view [] (next.wait? last.clock.now).toList,
    expiry, ?_, ⟨punctual, ?_⟩, delivery⟩
  · simp only [step, Deck.step, Deck.call, answered, (dormant resting).2]
    rfl
  · rw [Deck.view, Device.wait?, punctual.armed]
    rfl

/-- A start at the beginning of the buffer and some rounds on time. The last of them ends at its
wake-up and tells what was passed since the wake-up before; in all they tell every boundary passed
since the start. Deliveries made before the start have to leave room for these. -/
theorem rounds_on_time (opened : Session.begin template clock = .ok session) {steps : List Step}
    {timing : Timing} (prepared : (session.run steps).1.deck.device.stage = .prepared)
    (set : (session.run steps).1.deck.device.setup? = some timing.setup)
    (clocked : timing.ticksPerSecond = clock.ticksPerSecond)
    (slow : timing.speed ≤ timing.periodSpan)
    (gentle : ∀ routine, (session.run steps).1.deck.device.callback = some routine →
      routine.Gentle)
    {call : Call} (starts : call.starts = true) {rounds : Nat}
    (fits : (session.run steps).1.clock.now.toNat +
      template.schedule.point timing (rounds + 2) < wordLimit)
    (room : (session.run steps).1.deck.device.delivery = {} ∨
      (session.run steps).1.deck.device.delivery.edges + (rounds + 1) < wordLimit ∧
      (session.run steps).1.deck.device.delivery.periods +
        template.schedule.passed timing (rounds + 1) < wordLimit) :
    ∃ started view, (session.run steps).1.step (.deck (.call call)) =
        (started, .deck (.answered (.ended (.done ()))) view) ∧
      (attended (started, view) (rounds + 1)).1.clock.now.toNat =
        (session.run steps).1.clock.now.toNat + template.schedule.point timing (rounds + 1) ∧
      Fires (attended (started, view) rounds).1 (attended (started, view) (rounds + 1))
        (template.schedule.fresh timing rounds) ∧
      (attended (started, view) (rounds + 1)).1.deck.device.delivery =
        ⟨(session.run steps).1.deck.device.delivery.edges + (rounds + 1),
          (session.run steps).1.deck.device.delivery.periods +
            template.schedule.passed timing (rounds + 1)⟩ := by
  obtain ⟨sound, progress⟩ := progress_of_prepared opened prepared set clocked
  have reaches {earlier : Nat} (before : earlier ≤ rounds + 2) :
      (session.run steps).1.clock.now.toNat + template.schedule.point timing earlier <
        wordLimit :=
    Nat.lt_of_le_of_lt (Nat.add_le_add_left (Schedule.point_mono sound before) _) fits
  obtain ⟨started, view, expiry, begun, onTime, delivery⟩ :=
    start_onTime opened prepared sound slow progress gentle starts (reaches (by omega))
  have counted := Schedule.counted sound slow (Nat.lt_of_le_of_lt (Nat.le_add_left _ _) fits)
  have told : template.schedule.passed timing rounds + template.schedule.fresh timing rounds =
      template.schedule.passed timing (rounds + 1) := Schedule.passed_add_fresh sound
  rw [← delivery] at room ⊢
  have few : started.deck.device.delivery.edges + (rounds + 1) < wordLimit ∧
      started.deck.device.delivery.periods + template.schedule.passed timing (rounds + 1) <
        wordLimit := by
    rcases room with new | few
    · rw [new]
      simpa using counted
    · exact few
  obtain ⟨⟨tick, present⟩, total⟩ := onTime.attended_total sound slow
    (reaches (by omega) : _ + template.schedule.point timing (rounds + 1) < _) (by simp only; omega)
    (by simp only; omega)
  have space : ¬ (attended (started, view) rounds).1.deck.device.delivery.Full
      (template.schedule.fresh timing rounds) := by
    rw [total, Delivery.Full]
    simp only
    omega
  obtain ⟨⟨_, last⟩, fires⟩ := present.attend_fires sound slow fits space
  refine ⟨started, view, begun, last.punctual.place, fires, ?_⟩
  rw [attended, fires.delivery, total, ← told]
  simp only [Nat.add_assoc]

end

end Session

end PcmPlayback
