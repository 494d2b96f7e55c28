import PcmPlayback.Proofs.Alarm
import PcmPlayback.Proofs.Consistency
import PcmPlayback.Proofs.Headroom

/-!
# Counting down to a boundary

The delay of a playhead is the number of ticks up to its next boundary. Until it is over no boundary
is passed and what is left of it is the new delay, and when it is over a boundary has been passed.
This holds of a playhead after any operations, however often it was configured, as long as its
present buffer leaves room.
-/

set_option autoImplicit false

namespace PcmPlayback

namespace Timing

variable {timing : Timing} {rest ticks : Nat}

theorem lt_of_lt_ticksFor (sound : timing.Sound) (positive : 0 < rest)
    (early : ticks < timing.ticksFor rest) : timing.speed * ticks < rest := by
  apply Nat.lt_of_not_le
  intro covers
  exact absurd early (Nat.not_lt.mpr (ticksFor_le sound positive covers))

theorem ticksFor_sub (sound : timing.Sound) (positive : 0 < rest)
    (fits : divUp rest timing.speed < wordLimit) (early : ticks < timing.ticksFor rest) :
    timing.ticksFor (rest - timing.speed * ticks) = timing.ticksFor rest - ticks := by
  have short := lt_of_lt_ticksFor sound positive early
  have left : divUp (rest - timing.speed * ticks) timing.speed =
      divUp rest timing.speed - ticks :=
    divUp_sub_mul sound.speed_pos
  rw [ticksFor_eq_divUp sound (Nat.sub_pos_of_lt short) (by omega),
    ticksFor_eq_divUp sound positive fits, left]

/-- The ticks that cover the rest of a period pass a boundary, and no more than one for each unit of
the speed. -/
theorem crossings_ticksFor (sound : timing.Sound) {covered : Nat}
    (remains : timing.periodSpan - covered % timing.periodSpan = rest)
    (fits : divUp rest timing.speed < wordLimit) :
    0 < crossings timing.periodSpan covered (timing.ticksFor rest * timing.speed) ∧
      crossings timing.periodSpan covered (timing.ticksFor rest * timing.speed) ≤ timing.speed := by
  have positive : 0 < rest := remains ▸ sound.rest_pos covered
  have covers := le_divUp_mul rest sound.speed_pos
  have near := divUp_mul_lt rest sound.speed_pos
  rw [ticksFor_eq_divUp sound positive fits]
  have counted := crossings_eq_succ sound.period_pos (Nat.le_trans (Nat.le_of_eq remains) covers)
  rw [remains] at counted
  rw [counted]
  have fewer : (divUp rest timing.speed * timing.speed - rest) / timing.periodSpan < timing.speed :=
    Nat.lt_of_le_of_lt (Nat.div_le_self _ _) (by omega)
  exact ⟨Nat.succ_pos _, fewer⟩

end Timing

theorem Progress.lt_count {pending crossed : Nat} (crosses : 0 < crossed)
    (few : crossed < wordLimit) (room : pending < wordLimit - 1) :
    pending < count pending crossed := by
  unfold count
  rw [if_neg (Nat.ne_of_gt crosses), Nat.mod_eq_of_lt few]
  omega

namespace Playhead

/-- Accounts for a number of ticks after the last update. -/
def onward (head : Playhead) (ticks : UInt64) : Playhead × Outcome Unit :=
  head.advance (head.base + ticks)

/-- How the delay of a playhead counts down. For any fewer ticks no period is completed, and the
boundary is nearer by what they cover. If a word can count the ticks up to the boundary, a period is
completed at the end of them, unless the pending ones fill their word, and on the way what is left
of them is the new delay. -/
structure CountsDown (head : Playhead) (progress : Progress) (delay : Nat) : Prop where
  positive : 0 < delay
  word : delay < wordLimit
  faultless : ∀ ticks, (head.onward ticks).2 = .done ()
  early : ∀ ticks : UInt64, ticks.toNat < delay →
    (head.onward ticks).1.pending = progress.pending ∧
      (head.onward ticks).1.progress.map Progress.rest =
        some (progress.rest - progress.timing.speed * ticks.toNat)
  reached : divUp progress.rest progress.timing.speed < wordLimit →
    progress.pending < wordLimit - 1 →
      progress.pending < (head.onward (UInt64.ofNat delay)).1.pending
  left : divUp progress.rest progress.timing.speed < wordLimit →
    ∀ ticks : UInt64, ticks.toNat < delay →
      (head.onward ticks).1.delay? = some (delay - ticks.toNat)

section

variable {head : Playhead} {timing : Timing} {covered pending : Nat}

theorem onward_after (progress : head.progress = some (.after timing covered pending))
    (sound : timing.Sound) (roomy : timing.Roomy) (ticks : UInt64) :
    head.onward ticks =
      (⟨head.base + ticks, some (.after timing (covered + ticks.toNat * timing.speed)
        (Progress.count pending
          (crossings timing.periodSpan covered (ticks.toNat * timing.speed))))⟩, .done ()) := by
  have whole : head = ⟨head.base, some (.after timing covered pending)⟩ := by rw [← progress]
  have passed : (head.base + ticks).since head.base = ticks.toNat := by
    rw [Tick.since, UInt64.add_comm, UInt64.add_sub_cancel]
  have moved := @advance_roomy head.base (head.base + ticks) timing covered pending sound roomy
  rw [← whole, passed] at moved
  exact moved

/-- Until the delay is over nothing but the place of the playhead changes. -/
theorem onward_early (progress : head.progress = some (.after timing covered pending))
    (sound : timing.Sound) (roomy : timing.Roomy) {ticks : UInt64}
    (early : ticks.toNat <
      timing.ticksFor (timing.periodSpan - covered % timing.periodSpan)) :
    (head.onward ticks).1.progress =
        some (.after timing (covered + ticks.toNat * timing.speed) pending) ∧
      timing.periodSpan - (covered + ticks.toNat * timing.speed) % timing.periodSpan =
        timing.periodSpan - covered % timing.periodSpan - timing.speed * ticks.toNat := by
  have positive := sound.rest_pos covered
  have short := Timing.lt_of_lt_ticksFor sound positive early
  rw [Nat.mul_comm] at short
  have none : crossings timing.periodSpan covered (ticks.toNat * timing.speed) = 0 := by
    apply Nat.eq_zero_of_not_pos
    rw [crossings_pos_iff sound.period_pos]
    exact Nat.not_le.mpr short
  have left := rest_add_crossings covered (ticks.toNat * timing.speed) sound.period_pos
  rw [none, Nat.zero_mul, Nat.add_zero] at left
  constructor
  · rw [onward_after progress sound roomy, none]
    rfl
  · rw [Nat.mul_comm timing.speed, left, Nat.add_sub_cancel_left]

theorem countsDown_of_after (progress : head.progress = some (.after timing covered pending))
    (sound : timing.Sound) (roomy : timing.Roomy) :
    head.CountsDown (.after timing covered pending)
      (timing.ticksFor (timing.periodSpan - covered % timing.periodSpan)) := by
  have positive := sound.rest_pos covered
  have word : timing.ticksFor (timing.periodSpan - covered % timing.periodSpan) < wordLimit :=
    Nat.lt_of_le_of_lt (Nat.min_le_right _ _) (by decide)
  constructor
  · exact timing.ticksFor_pos _
  · exact word
  · intro ticks
    rw [onward_after progress sound roomy]
  · intro ticks early
    obtain ⟨place, rest⟩ := onward_early progress sound roomy early
    rw [Playhead.pending, place]
    exact ⟨rfl, congrArg some rest⟩
  · intro fits room
    obtain ⟨crosses, fewer⟩ := Timing.crossings_ticksFor sound rfl fits
    -- the speed is half a word, so the boundaries that are passed are not cut
    have slow : timing.speed < 4294967296 := timing.setup.rate.toNat_lt
    rw [onward_after progress sound roomy, UInt64.toNat_ofNat_of_lt' word]
    apply Progress.lt_count crosses _ room
    exact Nat.lt_of_le_of_lt fewer (Nat.lt_trans slow (by decide))
  · intro fits ticks early
    obtain ⟨place, rest⟩ := onward_early progress sound roomy early
    rw [delay?_after place, rest, Timing.ticksFor_sub sound positive fits early]

end

/-! ## Every playhead -/

theorem Placed.operate {head : Playhead}
    (placed : (∀ timing, head.timing? = some timing → timing.Roomy) → head.Placed)
    (operation : Operation)
    (roomy : ∀ timing, (head.operate operation).1.timing? = some timing → timing.Roomy) :
    (head.operate operation).1.Placed := by
  cases operation with
  | configure setup ticksPerSecond =>
      cases resets : (Operation.configure setup ticksPerSecond).resets with
      | false =>
          simp only [Playhead.operate, configure_refused resets] at roomy ⊢
          exact placed roomy
      | true =>
          obtain ⟨sound, accepted⟩ := head.configure_accepted resets
          simp only [Playhead.operate, accepted]
          exact .start sound
  | rebase now => exact placed roomy
  | advance now =>
      simp only [Playhead.operate, timing?_advance] at roomy ⊢
      cases configured : head.isConfigured with
      | true => exact ((placed roomy).advance configured roomy now).1
      | false =>
          -- without a setup there is no progress to speak of
          rw [← head.isConfigured_advance now] at configured
          intro progress found
          simp [isConfigured, found] at configured
  | take =>
      simp only [Playhead.operate, timing?_takePending] at roomy ⊢
      exact (placed roomy).takePending
  | look => exact placed roomy

/-- A fault that a buffer without room led to is forgotten with the buffer. -/
theorem Placed.run {head : Playhead}
    (placed : (∀ timing, head.timing? = some timing → timing.Roomy) → head.Placed)
    (operations : List Operation)
    (roomy : ∀ timing, (head.run operations).1.timing? = some timing → timing.Roomy) :
    (head.run operations).1.Placed := by
  induction operations generalizing head with
  | nil => exact placed roomy
  | cons operation rest ih => exact ih (Placed.operate placed operation) roomy

/-- The delay counts down to the next boundary, after any operations on a new playhead that have left
it with a buffer that leaves room. -/
theorem delay_counts_down (operations : List Operation) {progress : Progress}
    (present : (unconfigured.run operations).1.progress = some progress)
    (roomy : progress.timing.Roomy) :
    ∃ delay, (unconfigured.run operations).1.delay? = some delay ∧
      (unconfigured.run operations).1.CountsDown progress delay := by
  have room : ∀ timing, (unconfigured.run operations).1.timing? = some timing → timing.Roomy := by
    intro timing timed
    rw [timing?, present, Option.map_some, Option.some.injEq] at timed
    rw [← timed]
    exact roomy
  have initial : unconfigured.Placed := by
    intro found impossible
    cases impossible
  have placed := Placed.run (fun _ => initial) operations room
  obtain ⟨sound, covered, place⟩ := placed progress present
  rw [place] at present ⊢
  exact ⟨_, delay?_after present, countsDown_of_after present sound roomy⟩

/-- A playhead is set up anew after a buffer without room, and its clock wraps in the 17 ticks that it
has moved. One tick before its delay of 47 is over there is still one to wait, and then a period is
completed. -/
theorem delay_counts_down_anew :
    ∃ (operations : List Operation) (progress : Progress),
      (unconfigured.run operations).1.progress = some progress ∧ progress.timing.Roomy ∧
        (unconfigured.run operations).1.delay? = some 47 ∧
        ((unconfigured.run operations).1.onward 46).1.pending = 0 ∧
        ((unconfigured.run operations).1.onward 46).1.delay? = some 1 ∧
        0 < ((unconfigured.run operations).1.onward 47).1.pending := by
  let large : StreamSetup := ⟨48000, 18446744073709551615, 1⟩
  let operations : List Operation :=
    [.configure large 18446744073709551615, .advance 5, .configure ⟨11025, 3000, 700⟩ 1000,
      .rebase 18446744073709551600, .advance 1, .look]
  let progress : Progress := ⟨⟨⟨11025, 3000, 700⟩, 1000⟩, 187425, 512575, 0⟩
  have present : (unconfigured.run operations).1.progress = some progress := by decide +kernel
  have roomy : progress.timing.Roomy := by decide +kernel
  have fits : divUp progress.rest progress.timing.speed < wordLimit := by decide
  have shown : (unconfigured.run operations).1.delay? = some 47 := by decide +kernel
  obtain ⟨delay, found, counts⟩ := delay_counts_down operations present roomy
  cases Option.some.inj (found.symm.trans shown)
  exact ⟨operations, progress, present, roomy, shown, (counts.early 46 (by decide)).1,
    counts.left fits 46 (by decide), counts.reached fits (by decide)⟩

end Playhead

end PcmPlayback
