import PcmPlayback.Playhead

/-!
# Motion of the playhead

A playhead that has covered a distance since it was rewound is in a state that depends on this
distance alone, apart from the periods that are still pending. Moving on adds to the distance, so
it does not matter in how many updates the time was accounted for.
-/

set_option autoImplicit false

namespace PcmPlayback

/-- Number of boundaries that a step of the given length passes, at multiples of a span. -/
def crossings (span covered distance : Nat) : Nat := (covered + distance) / span - covered / span

theorem crossings_eq_div {span covered distance : Nat} (positive : 0 < span) :
    crossings span covered distance = (covered % span + distance) / span := by
  have split : covered + distance = covered % span + distance + span * (covered / span) := by
    have whole := Nat.mod_add_div covered span
    omega
  rw [crossings, split, Nat.add_mul_div_left _ _ positive, Nat.add_sub_cancel]

theorem crossings_pos_iff {span covered distance : Nat} (positive : 0 < span) :
    0 < crossings span covered distance ↔ span - covered % span ≤ distance := by
  have within := Nat.mod_lt covered positive
  rw [crossings_eq_div positive, Nat.div_pos_iff]
  omega

theorem div_add_crossings (span covered distance : Nat) :
    covered / span + crossings span covered distance = (covered + distance) / span := by
  have ordered : covered / span ≤ (covered + distance) / span :=
    Nat.div_le_div_right (Nat.le_add_right _ _)
  unfold crossings
  omega

/-- The closed form of the count: one boundary ends the present period, the others follow at
whole spans. -/
theorem crossings_eq_succ {span covered distance : Nat} (positive : 0 < span)
    (reached : span - covered % span ≤ distance) :
    crossings span covered distance = (distance - (span - covered % span)) / span + 1 := by
  have within := Nat.mod_lt covered positive
  have shifted : distance - (span - covered % span) = covered % span + distance - span := by omega
  rw [crossings_eq_div positive, shifted]
  exact Nat.div_eq_sub_div positive (by omega)

theorem rest_add_crossings {span : Nat} (covered distance : Nat) (positive : 0 < span) :
    span - covered % span + crossings span covered distance * span =
      distance + (span - (covered + distance) % span) := by
  have before := Nat.mod_add_div covered span
  have after := Nat.mod_add_div (covered + distance) span
  have beforeLt := Nat.mod_lt covered positive
  have afterLt := Nat.mod_lt (covered + distance) positive
  have total := congrArg (span * ·) (div_add_crossings span covered distance)
  simp only [Nat.mul_add] at total
  rw [Nat.mul_comm (crossings span covered distance) span]
  omega

namespace Timing

/-- A timing that a preparation accepts: it moves, its period is not empty and fits into the
buffer, and its clock ticks. -/
structure Sound (timing : Timing) : Prop where
  speed_pos : 0 < timing.speed
  period_pos : 0 < timing.periodSpan
  period_le_buffer : timing.periodSpan ≤ timing.bufferSpan
  ticks_pos : 0 < timing.ticksPerSecond.toNat

theorem sound_of_defect?_eq_none {setup : StreamSetup} {ticksPerSecond : UInt64}
    (accepted : setup.defect? = none) (ticks : ticksPerSecond ≠ 0) :
    (⟨setup, ticksPerSecond⟩ : Timing).Sound := by
  obtain ⟨rate, period, fits⟩ := StreamSetup.defect?_eq_none_iff.mp accepted
  have positive : 0 < ticksPerSecond.toNat :=
    Nat.pos_of_ne_zero fun zero => ticks (UInt64.toNat_inj.mp zero)
  exact ⟨rate, Nat.mul_pos period positive, Nat.mul_le_mul_right _ fits, positive⟩

theorem Sound.rest_pos {timing : Timing} (sound : timing.Sound) (covered : Nat) :
    0 < timing.periodSpan - covered % timing.periodSpan :=
  Nat.sub_pos_of_lt (Nat.mod_lt covered sound.period_pos)

/-- A buffer so short that a double word holds it together with whatever can be played while a clock
counts through its word. -/
def Roomy (timing : Timing) : Prop := timing.bufferSpan ≤ wideLimit - wordLimit * 4294967296

instance : DecidablePred Roomy :=
  fun timing => inferInstanceAs (Decidable (timing.bufferSpan ≤ _))

/-- Half of a double word holds what can be played while a clock counts through its word. -/
theorem distance_lt (timing : Timing) {ticks : Nat} (counted : ticks < wordLimit) :
    timing.speed * ticks < wordLimit * 4294967296 := by
  have speed : timing.speed < 4294967296 := timing.setup.rate.toNat_lt
  rw [Nat.mul_comm wordLimit]
  exact Nat.mul_lt_mul_of_lt_of_lt speed counted

end Timing

namespace Progress

/-- The progress after a distance, with the given number of pending periods. -/
def after (timing : Timing) (covered pending : Nat) : Progress where
  timing := timing
  offset := covered % timing.bufferSpan
  rest := timing.periodSpan - covered % timing.periodSpan
  pending := pending

@[simp] theorem timing_after (timing : Timing) (covered pending : Nat) :
    (after timing covered pending).timing = timing := rfl

/-- The pending count with more periods: it is cut to a word and stays at the largest one. -/
def count (pending crossed : Nat) : Nat :=
  if crossed = 0 then pending else min (pending + crossed % wordLimit) (wordLimit - 1)

theorem count_eq_add {pending crossed : Nat} (fits : pending + crossed < wordLimit) :
    count pending crossed = pending + crossed := by
  unfold count
  split
  · next none => omega
  · rw [Nat.mod_eq_of_lt (by omega)]
    omega

theorem start_eq_after (timing : Timing) : start timing = after timing 0 0 := by
  simp [start, after]

/-- Moving on adds to the distance. The two sums of the update have to stay within a double
word. -/
theorem move_after {timing : Timing} {covered pending distance : Nat} (sound : timing.Sound)
    (offsetFits : covered % timing.bufferSpan + distance < wideLimit)
    (restFits : timing.periodSpan - covered % timing.periodSpan ≤ distance →
      distance + timing.periodSpan < wideLimit) :
    (after timing covered pending).move distance =
      (after timing (covered + distance)
        (count pending (crossings timing.periodSpan covered distance)), .done ()) := by
  have positive := sound.period_pos
  have exactRest := rest_add_crossings covered distance positive
  have reached := @crossings_pos_iff timing.periodSpan covered distance positive
  simp only [move, after, Nat.mod_add_mod]
  rw [if_neg (by omega)]
  by_cases crosses : timing.periodSpan - covered % timing.periodSpan ≤ distance
  · have fits := restFits crosses
    have counted := crossings_eq_succ positive crosses
    rw [if_pos crosses, ← counted, if_neg (by omega), count, if_neg (by omega), exactRest,
      Nat.add_sub_cancel_left]
  · have none : crossings timing.periodSpan covered distance = 0 := by omega
    rw [none, Nat.zero_mul, Nat.add_zero] at exactRest
    rw [if_neg crosses, count, if_pos none, exactRest, Nat.add_sub_cancel_left]

theorem frame_after {timing : Timing} {covered pending : Nat} :
    (after timing covered pending).frame =
      covered / timing.ticksPerSecond.toNat % timing.setup.bufferFrames.toNat := by
  unfold frame
  exact Nat.mod_mul_left_div_self _ _ _

end Progress

namespace Playhead

/-- A playhead has a chain of tests of its own, and yet it refuses just the setups that have a
defect, for the same cause. -/
theorem configure_eq (head : Playhead) (setup : StreamSetup) (ticksPerSecond : UInt64) :
    head.configure setup ticksPerSecond =
      match setup.defect? with
      | some cause => (head, .rejected cause)
      | none =>
          if ticksPerSecond = 0 then (head, .fault)
          else ({ head with progress := some (.start ⟨setup, ticksPerSecond⟩) }, .done ()) := by
  unfold configure StreamSetup.defect?
  by_cases rate : setup.rate = 0
  · rw [if_pos rate, if_pos rate]
  · by_cases buffer : setup.bufferFrames = 0
    · rw [if_neg rate, if_neg rate, if_pos buffer, if_pos buffer]
    · by_cases period : setup.periodFrames = 0
      · rw [if_neg rate, if_neg rate, if_neg buffer, if_neg buffer, if_pos period, if_pos period]
      · rw [if_neg rate, if_neg rate, if_neg buffer, if_neg buffer, if_neg period, if_neg period]
        by_cases exceeds : setup.bufferFrames < setup.periodFrames
        · rw [if_pos exceeds, if_pos exceeds]
        · rw [if_neg exceeds, if_neg exceeds]

/-- A setup without defect is accepted on every clock that ticks, and rewinds the playhead. -/
theorem configure_of_defect?_eq_none (head : Playhead) {setup : StreamSetup}
    {ticksPerSecond : UInt64} (accepted : setup.defect? = none) (ticks : ticksPerSecond ≠ 0) :
    head.configure setup ticksPerSecond =
      (⟨head.base, some (.start ⟨setup, ticksPerSecond⟩)⟩, .done ()) := by
  simp only [configure_eq, accepted, if_neg ticks]

theorem advance_after {base now : Tick} {timing : Timing} {covered pending : Nat}
    (sound : timing.Sound)
    (offsetFits : covered % timing.bufferSpan + now.since base * timing.speed < wideLimit)
    (restFits : timing.periodSpan - covered % timing.periodSpan ≤ now.since base * timing.speed →
      now.since base * timing.speed + timing.periodSpan < wideLimit) :
    (⟨base, some (.after timing covered pending)⟩ : Playhead).advance now =
      (⟨now, some (.after timing (covered + now.since base * timing.speed)
        (Progress.count pending
          (crossings timing.periodSpan covered (now.since base * timing.speed))))⟩, .done ()) := by
  unfold advance
  by_cases still : now.since base = 0
  · have same : now = base := by
      rwa [Tick.since, ← UInt64.toNat_zero, UInt64.toNat_inj, UInt64.sub_eq_iff_eq_add,
        UInt64.zero_add] at still
    simp [same, crossings, Progress.count, Tick.since]
  · rw [if_neg still]
    simp only [Progress.timing_after, Progress.move_after sound offsetFits restFits]

/-- With a buffer that leaves room no update faults, whichever way the clock was moved. -/
theorem advance_roomy {base now : Tick} {timing : Timing} {covered pending : Nat}
    (sound : timing.Sound) (roomy : timing.Roomy) :
    (⟨base, some (.after timing covered pending)⟩ : Playhead).advance now =
      (⟨now, some (.after timing (covered + now.since base * timing.speed)
        (Progress.count pending
          (crossings timing.periodSpan covered (now.since base * timing.speed))))⟩, .done ()) := by
  have shorter := sound.period_le_buffer
  have offset := Nat.mod_lt covered (Nat.lt_of_lt_of_le sound.period_pos shorter)
  have distance := timing.distance_lt (now - base).toNat_lt
  rw [Nat.mul_comm] at distance
  change now.since base * timing.speed < _ at distance
  simp only [Timing.Roomy, wideLimit, wordLimit] at roomy
  simp only [wordLimit] at distance
  apply advance_after sound
  · simp only [wideLimit, wordLimit]
    omega
  · intro reached
    simp only [wideLimit, wordLimit]
    omega

end Playhead

end PcmPlayback
