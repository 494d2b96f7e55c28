import PcmPlayback.Proofs.Rounds

/-!
# Drift

How the wake-ups of a timer that is polled on time keep up with the periods. On the boundary
schedule every sleep is rounded up, but from the exact rest of the period, and the wake-ups never
fall behind. On the grid schedule the period itself is rounded up once, and every round adds to the
distance by which they do.
-/

set_option autoImplicit false

namespace PcmPlayback

/-- The distance that a period in whole ticks covers beyond the period. -/
def Timing.excess (timing : Timing) : Nat :=
  divUp timing.periodSpan timing.speed * timing.speed - timing.periodSpan

namespace Schedule

variable {timing : Timing} {round : Nat}

theorem fresh_boundary (sound : timing.Sound) (slow : timing.speed ≤ timing.periodSpan) :
    Schedule.boundary.fresh timing round = 1 := by
  rw [fresh, passed_boundary sound slow, passed_boundary sound slow, Nat.add_sub_cancel_left]

theorem periodTicks_eq (sound : timing.Sound)
    (fits : divUp timing.periodSpan timing.speed < wordLimit) :
    timing.periodTicks = divUp timing.periodSpan timing.speed :=
  Timing.ticksFor_eq_divUp sound sound.period_pos fits

/-- On the grid schedule each round covers a period and an excess. The excesses add up, and are
told as soon as they make up a period. -/
theorem passed_grid (sound : timing.Sound)
    (ticks : timing.periodTicks = divUp timing.periodSpan timing.speed) :
    Schedule.grid.passed timing round = round + round * timing.excess / timing.periodSpan := by
  have covers := le_divUp_mul timing.periodSpan sound.speed_pos
  have split : timing.speed * (round * timing.periodTicks) =
      round * timing.excess + round * timing.periodSpan := by
    rw [← Nat.mul_add, Timing.excess, Nat.sub_add_cancel covers, ticks, Nat.mul_left_comm,
      Nat.mul_comm timing.speed]
  rw [passed, point, split, Nat.add_mul_div_right _ _ sound.period_pos, Nat.add_comm]

end Schedule

namespace Session

variable {template : Template} {clock : ManualClock} {session : Session}

/-- The boundary schedule does not drift. After any run that ends with a prepared device, a start
succeeds, and if its client sleeps each time for just as long as the timer says and then polls it,
then every round ends at the first tick by which its boundary has been reached, and tells one
period. -/
theorem boundary_keeps_up (opened : Session.begin template clock = .ok session)
    (schedule : template.schedule = .boundary) {steps : List Step} {timing : Timing}
    (prepared : (session.run steps).1.deck.device.stage = .prepared)
    (set : (session.run steps).1.deck.device.setup? = some timing.setup)
    (clocked : timing.ticksPerSecond = clock.ticksPerSecond)
    (slow : timing.speed ≤ timing.periodSpan)
    (gentle : ∀ routine, (session.run steps).1.deck.device.callback = some routine →
      routine.Gentle)
    {call : Call} (starts : call.starts = true) {rounds : Nat}
    (fits : (session.run steps).1.clock.now.toNat +
      divUp ((rounds + 2) * timing.periodSpan) timing.speed < wordLimit)
    (room : (session.run steps).1.deck.device.delivery = {} ∨
      (session.run steps).1.deck.device.delivery.edges + (rounds + 1) < wordLimit ∧
      (session.run steps).1.deck.device.delivery.periods + (rounds + 1) < wordLimit) :
    ∃ started view, (session.run steps).1.step (.deck (.call call)) =
        (started, .deck (.answered (.ended (.done ()))) view) ∧
      (attended (started, view) (rounds + 1)).1.clock.now.toNat =
        (session.run steps).1.clock.now.toNat +
          divUp ((rounds + 1) * timing.periodSpan) timing.speed ∧
      Fires (attended (started, view) rounds).1 (attended (started, view) (rounds + 1)) 1 ∧
      (attended (started, view) (rounds + 1)).1.deck.device.delivery =
        ⟨(session.run steps).1.deck.device.delivery.edges + (rounds + 1),
          (session.run steps).1.deck.device.delivery.periods + (rounds + 1)⟩ := by
  obtain ⟨sound, _⟩ := progress_of_prepared opened prepared set clocked
  have passed : template.schedule.passed timing (rounds + 1) = rounds + 1 := by
    rw [schedule]
    exact Schedule.passed_boundary sound slow
  have fresh : template.schedule.fresh timing rounds = 1 := by
    rw [schedule]
    exact Schedule.fresh_boundary sound slow
  have point (round : Nat) : template.schedule.point timing round =
      divUp (round * timing.periodSpan) timing.speed := by
    rw [schedule]
    rfl
  rw [← point] at fits
  have onTime := rounds_on_time opened prepared set clocked slow gentle starts fits
    (by rw [passed]; exact room)
  rw [passed, fresh, point] at onTime
  exact onTime

/-- A device that has played before and is prepared anew, with a callback that puts another in its
place. A period lasts 63.49 ticks; the third round ends 191 ticks after the start. -/
theorem boundary_keeps_up_anew :
    ∃ (session : Session) (steps : List Step) (started : Session) (view : Deck.View),
      Session.begin {} ⟨1000, 7⟩ = .ok session ∧
        (session.run steps).1.deck.device.delivery = ⟨1, 2⟩ ∧
        (session.run steps).1.step (.deck (.call (.trigger .resume))) =
          (started, .deck (.answered (.ended (.done ()))) view) ∧
        (attended (started, view) 3).1.clock.now.toNat = 147 + 191 ∧
        Fires (attended (started, view) 2).1 (attended (started, view) 3) 1 ∧
        (attended (started, view) 3).1.deck.device.delivery = ⟨4, 5⟩ := by
  let timing : Timing := ⟨⟨11025, 3000, 700⟩, 1000⟩
  let session : Session := ⟨⟨1000, 7⟩, ⟨({} : Template).idleDevice 1000 none, []⟩⟩
  let routine : Callback := ⟨"swap", [.pointer, .register ⟨"second", [.start], false⟩], false⟩
  let steps : List Step :=
    [.deck (.call (.prepare timing.setup)), .deck (.call .start), .clock (.forward 140),
      .deck .poll, .deck (.call .stop), .deck (.call (.prepare timing.setup))] ++
      [.deck (.call (.register routine))]
  have opened : Session.begin {} ⟨1000, 7⟩ = .ok session := rfl
  have now : (session.run steps).1.clock.now.toNat = 147 := by decide +kernel
  have delivery : (session.run steps).1.deck.device.delivery = ⟨1, 2⟩ := by decide +kernel
  have placed : (session.run steps).1.deck.device.callback = some routine := by
    rw [run_append]
    rfl
  have second : Routine.Gentle ⟨"second", [.start], false⟩ :=
    .intro _ ⟨rfl, by simp [Call.ends]⟩ (by simp)
  have gentle : routine.Gentle :=
    .intro _ ⟨rfl, by simp [routine, Call.ends]⟩ (by simp [routine, second])
  have onTime := @boundary_keeps_up {} ⟨1000, 7⟩ session opened rfl steps timing
    (by decide +kernel) (by decide +kernel) rfl (by decide)
    (fun _ found => by
      cases Option.some.inj (placed.symm.trans found)
      exact gentle)
    (.trigger .resume) rfl 2 (by rw [now]; decide) (by rw [delivery]; exact .inr (by decide))
  rw [now, delivery] at onTime
  obtain ⟨started, view, begun, reached, fires, total⟩ := onTime
  have ticks : divUp ((2 + 1) * timing.periodSpan) timing.speed = 191 := by decide
  rw [ticks] at reached
  exact ⟨session, steps, started, view, opened, delivery, begun, reached, fires, total⟩

/-- How far the grid schedule drifts. The wake-ups lie at multiples of the period in whole ticks,
and what they tell exceeds one period for each by all the whole periods in the sum of the excesses.
So they are less than two periods behind just as long as this sum is. -/
theorem grid_falls_behind (opened : Session.begin template clock = .ok session)
    (schedule : template.schedule = .grid) {steps : List Step} {timing : Timing}
    (prepared : (session.run steps).1.deck.device.stage = .prepared)
    (set : (session.run steps).1.deck.device.setup? = some timing.setup)
    (clocked : timing.ticksPerSecond = clock.ticksPerSecond)
    (slow : timing.speed ≤ timing.periodSpan)
    (gentle : ∀ routine, (session.run steps).1.deck.device.callback = some routine →
      routine.Gentle)
    {call : Call} (starts : call.starts = true) {rounds : Nat}
    (fits : (session.run steps).1.clock.now.toNat +
      (rounds + 2) * divUp timing.periodSpan timing.speed < wordLimit)
    (room : (session.run steps).1.deck.device.delivery = {} ∨
      (session.run steps).1.deck.device.delivery.edges + (rounds + 1) < wordLimit ∧
      (session.run steps).1.deck.device.delivery.periods +
        (rounds + 1 + (rounds + 1) * timing.excess / timing.periodSpan) < wordLimit) :
    ∃ started view told periods, (session.run steps).1.step (.deck (.call call)) =
        (started, .deck (.answered (.ended (.done ()))) view) ∧
      (attended (started, view) (rounds + 1)).1.clock.now.toNat =
        (session.run steps).1.clock.now.toNat +
          (rounds + 1) * divUp timing.periodSpan timing.speed ∧
      0 < periods ∧
      Fires (attended (started, view) rounds).1 (attended (started, view) (rounds + 1)) periods ∧
      (attended (started, view) (rounds + 1)).1.deck.device.delivery =
        ⟨(session.run steps).1.deck.device.delivery.edges + (rounds + 1),
          (session.run steps).1.deck.device.delivery.periods + told⟩ ∧
      told = rounds + 1 + (rounds + 1) * timing.excess / timing.periodSpan ∧
      (told = rounds + 1 ∨ told = rounds + 2 ↔
        (rounds + 1) * timing.excess < 2 * timing.periodSpan) := by
  obtain ⟨sound, _⟩ := progress_of_prepared opened prepared set clocked
  have whole : timing.periodTicks = divUp timing.periodSpan timing.speed := by
    apply Schedule.periodTicks_eq sound
    have once : divUp timing.periodSpan timing.speed ≤
        (rounds + 2) * divUp timing.periodSpan timing.speed :=
      Nat.le_mul_of_pos_left _ (Nat.succ_pos _)
    omega
  have passed : template.schedule.passed timing (rounds + 1) =
      rounds + 1 + (rounds + 1) * timing.excess / timing.periodSpan := by
    rw [schedule]
    exact Schedule.passed_grid sound whole
  have point (round : Nat) : template.schedule.point timing round =
      round * divUp timing.periodSpan timing.speed := by
    rw [schedule, ← whole]
    rfl
  rw [← point] at fits
  rw [← passed] at room
  have some : 0 < template.schedule.fresh timing rounds :=
    Nat.sub_pos_of_lt
      (Schedule.passed_lt_succ sound slow (Nat.lt_of_le_of_lt (Nat.le_add_left _ _) fits))
  obtain ⟨started, view, begun, reached, fires, total⟩ :=
    rounds_on_time opened prepared set clocked slow gentle starts fits room
  rw [point] at reached
  refine ⟨started, view, _, _, begun, reached, some, fires, total, passed, ?_⟩
  have count : (rounds + 1) * timing.excess / timing.periodSpan < 2 ↔
      (rounds + 1) * timing.excess < 2 * timing.periodSpan :=
    Nat.div_lt_iff_lt_mul sound.period_pos
  rw [← count, passed]
  generalize (rounds + 1) * timing.excess / timing.periodSpan = behind
  omega

/-- The grid after a long time. Each of its periods of 64 ticks is half a tick too long, and at wake-up
251 two periods more have been completed than there were wake-ups. -/
theorem grid_falls_behind_late :
    ∃ (session : Session) (steps : List Step) (started : Session) (view : Deck.View),
      Session.begin { schedule := .grid } ⟨1000, 7⟩ = .ok session ∧
        (session.run steps).1.step (.deck (.call .start)) =
          (started, .deck (.answered (.ended (.done ()))) view) ∧
        (attended (started, view) 251).1.clock.now.toNat = 7 + 251 * 64 ∧
        (attended (started, view) 251).1.deck.device.delivery = ⟨251, 253⟩ := by
  let timing : Timing := ⟨⟨11025, 3000, 700⟩, 1000⟩
  let session : Session :=
    ⟨⟨1000, 7⟩, ⟨({ schedule := .grid } : Template).idleDevice 1000 none, []⟩⟩
  let routine : Callback := ⟨"count", [.status, .unregister], false⟩
  let steps : List Step :=
    [.deck (.call (.prepare timing.setup))] ++ [.deck (.call (.register routine))]
  have opened : Session.begin { schedule := .grid } ⟨1000, 7⟩ = .ok session := rfl
  have now : (session.run steps).1.clock.now.toNat = 7 := by decide +kernel
  have delivery : (session.run steps).1.deck.device.delivery = {} := by decide +kernel
  have placed : (session.run steps).1.deck.device.callback = some routine := by
    rw [run_append]
    rfl
  have gentle : routine.Gentle :=
    .intro _ ⟨rfl, by simp [routine, Call.ends]⟩ (by simp [routine])
  have onTime := @grid_falls_behind { schedule := .grid } ⟨1000, 7⟩ session opened rfl steps timing
    (by decide +kernel) (by decide +kernel) rfl (by decide)
    (fun _ found => by
      cases Option.some.inj (placed.symm.trans found)
      exact gentle)
    .start rfl 250 (by rw [now]; decide) (.inl delivery)
  rw [now, delivery] at onTime
  obtain ⟨started, view, told, _, begun, reached, _, _, total, counted, _⟩ := onTime
  have behind : 251 + 251 * timing.excess / timing.periodSpan = 253 := by decide +kernel
  have ticks : divUp timing.periodSpan timing.speed = 64 := by decide
  have last : 250 + 1 = 251 := rfl
  rw [last] at counted total reached
  rw [counted, behind] at total
  rw [ticks] at reached
  exact ⟨session, steps, started, view, opened, begun, reached, total⟩

/-- A grid whose periods of two ticks are almost twice as long as those of the stream: after three
wake-ups on time, five periods have been told. -/
theorem grid_falls_behind_soon :
    ∃ (session : Session) (steps : List Step) (timing : Timing) (routine : Callback)
      (started : Session) (view : Deck.View),
      Session.begin { schedule := .grid } ⟨1000, 0⟩ = .ok session ∧
        (session.run steps).1.deck.device.stage = .prepared ∧
        (session.run steps).1.deck.device.setup? = some timing.setup ∧
        timing.ticksPerSecond = 1000 ∧ timing.speed ≤ timing.periodSpan ∧
        (session.run steps).1.deck.device.callback = some routine ∧ routine.Gentle ∧
        (session.run steps).1.step (.deck (.call .start)) =
          (started, .deck (.answered (.ended (.done ()))) view) ∧
        0 + 4 * divUp timing.periodSpan timing.speed < wordLimit ∧
        (attended (started, view) 3).2.runs.map CallbackRun.periods = [2] ∧
        (attended (started, view) 3).1.deck.device.delivery.periods = 5 ∧
        ¬ ((attended (started, view) 3).1.deck.device.delivery.periods = 3 ∨
          (attended (started, view) 3).1.deck.device.delivery.periods = 3 + 1) := by
  let timing : Timing := ⟨⟨48000, 4096, 49⟩, 1000⟩
  let session : Session :=
    ⟨⟨1000, 0⟩, ⟨({ schedule := .grid } : Template).idleDevice 1000 none, []⟩⟩
  let routine : Callback := ⟨"count", [], false⟩
  let steps : List Step :=
    [.deck (.call (.prepare timing.setup))] ++ [.deck (.call (.register routine))]
  let started : Session := ((session.run steps).1.step (.deck (.call .start))).1
  let view : Deck.View := ⟨.running, true, 0, [], [2]⟩
  have entry : ((session.run steps).1.step (.deck (.call .start))).2 =
      .deck (.answered (.ended (.done ()))) view := by decide +kernel
  have placed : (session.run steps).1.deck.device.callback = some routine := by
    rw [run_append]
    rfl
  have begun : (session.run steps).1.step (.deck (.call .start)) =
      (started, .deck (.answered (.ended (.done ()))) view) := by
    rw [← entry]
  have gentle : routine.Gentle := .intro _ ⟨rfl, nofun⟩ nofun
  exact ⟨session, steps, timing, routine, started, view, rfl, by decide +kernel,
    by decide +kernel, rfl, by decide, placed, gentle, begun, by decide, by decide +kernel,
    by decide +kernel, by decide +kernel⟩

end Session

end PcmPlayback
