import Mathlib.Order.GaloisConnection.Basic
import PcmPlayback.Clock
import PcmPlayback.Proofs.Headroom

/-!
# Sleeping for a number of ticks

Nanoseconds are rounded down to ticks when a steady clock is read, and ticks are rounded up to
nanoseconds when somebody is to sleep for them. The two conversions are adjoint, so the time to sleep
is the least one in which that many ticks can be read, and it is enough at every phase of the clock.
Only a time that no word can count is cut.
-/

set_option autoImplicit false

namespace PcmPlayback

namespace Checked

/-- Division rounded up, by way of a sum that has to stay within its word. -/
def roundUp (limit dividend divisor : Nat) : Option Nat := do
  let raised ← add limit dividend divisor
  let covering ← sub raised 1
  div covering divisor

theorem roundUp_eq_some {limit dividend divisor : Nat} (positive : 0 < divisor)
    (fits : dividend + divisor < limit) :
    roundUp limit dividend divisor = some (divUp dividend divisor) := by
  have covering : 1 ≤ dividend + divisor := Nat.le_add_left_of_le positive
  simp only [roundUp, add_eq_some fits, sub_eq_some covering, div_eq_some positive,
    Option.bind_eq_bind, Option.bind_some]
  rfl

end Checked

namespace SteadyClock

variable {clock : SteadyClock}

/-- The whole ticks of a clock in a time. -/
def ticksIn (clock : SteadyClock) (nanoseconds : Nat) : Nat :=
  nanoseconds * clock.ticksPerSecond.toNat / nanosPerSecond

def nanosFor (clock : SteadyClock) (ticks : Nat) : Nat :=
  divUp (ticks * nanosPerSecond) clock.ticksPerSecond.toNat

/-- The time to sleep, with each step of the calculation put into its word. -/
def sleepChecked? (clock : SteadyClock) (ticks : UInt64) : Option Nat := do
  let product ← Checked.mul wideLimit ticks.toNat nanosPerSecond
  let nanoseconds ← Checked.roundUp wideLimit product clock.ticksPerSecond.toNat
  Checked.fit wordLimit (min nanoseconds (wordLimit - 1))

theorem nanosFor_gc (running : 0 < clock.ticksPerSecond.toNat) :
    GaloisConnection clock.nanosFor clock.ticksIn := by
  intro ticks nanoseconds
  have positive : 0 < nanosPerSecond := by decide
  rw [nanosFor, ticksIn, divUp_le_iff running, Nat.le_div_iff_mul_le positive]

theorem ticksIn_add_le (clock : SteadyClock) (first second : Nat) :
    clock.ticksIn first + clock.ticksIn second ≤ clock.ticksIn (first + second) := by
  unfold ticksIn
  rw [Nat.add_mul]
  exact Nat.div_add_div_le_add_div

/-- Whatever the phase of the clock, a sleep that covers some ticks is as long as these. -/
theorem ticksIn_slept (running : 0 < clock.ticksPerSecond.toNat) {ticks slept : Nat}
    (covers : clock.nanosFor ticks ≤ slept) (elapsed : Nat) :
    clock.ticksIn elapsed + ticks ≤ clock.ticksIn (elapsed + slept) := by
  have counted : ticks ≤ clock.ticksIn slept := (nanosFor_gc running ticks slept).mp covers
  have added := clock.ticksIn_add_le elapsed slept
  omega

/-- Two readings are as far apart as the ticks that passed between them, if a word counts these. -/
theorem since_reading {elapsed slept : Nat}
    (fewer : clock.ticksIn (elapsed + slept) - clock.ticksIn elapsed < wordLimit) :
    (clock.reading (elapsed + slept)).since (clock.reading elapsed) =
      clock.ticksIn (elapsed + slept) - clock.ticksIn elapsed := by
  have ordered : clock.ticksIn elapsed ≤ clock.ticksIn (elapsed + slept) :=
    Nat.le_trans (Nat.le_add_right _ _) (clock.ticksIn_add_le elapsed slept)
  have apart : clock.reading (elapsed + slept) - clock.reading elapsed =
      UInt64.ofNat (clock.ticksIn (elapsed + slept) - clock.ticksIn elapsed) :=
    (UInt64.ofNat_sub ordered).symm
  rw [Tick.since, apart]
  exact UInt64.toNat_ofNat_of_lt' fewer

theorem sleepChecked?_eq (running : 0 < clock.ticksPerSecond.toNat) (ticks : UInt64) :
    clock.sleepChecked? ticks = clock.sleep? ticks := by
  have counted := ticks.toNat_lt
  have rate := clock.ticksPerSecond.toNat_lt
  have raised : ticks.toNat * nanosPerSecond + clock.ticksPerSecond.toNat < wideLimit := by
    unfold nanosPerSecond wideLimit wordLimit
    omega
  have product : ticks.toNat * nanosPerSecond < wideLimit := Nat.lt_of_add_right_lt raised
  have cut : min (clock.nanosFor ticks.toNat) (wordLimit - 1) < wordLimit :=
    Nat.lt_of_le_of_lt (Nat.min_le_right _ _) (by decide)
  rw [sleepChecked?, Checked.mul_eq_some product, Option.bind_eq_bind, Option.bind_some,
    Checked.roundUp_eq_some running raised, Option.bind_some, ← nanosFor, Checked.fit_eq_some cut,
    sleep?, nanosFor]

/-- The time to sleep is exact, for any number of ticks and any clock that ticks. No step of the
calculation leaves its word. If a word can count the time, it is the least in which the clock
comes that far, and who sleeps no shorter reads that many ticks more afterwards, whatever the phase
and even if the counter of the clock wraps. Otherwise it is the largest word. -/
theorem sleep_exact (running : 0 < clock.ticksPerSecond.toNat) (ticks : UInt64) :
    ∃ time, clock.sleep? ticks = some time ∧ clock.sleepChecked? ticks = some time ∧
      (clock.nanosFor ticks.toNat < wordLimit →
        IsLeast {nanoseconds | ticks.toNat ≤ clock.ticksIn nanoseconds} time ∧
        ∀ elapsed slept, time ≤ slept →
          clock.ticksIn elapsed + ticks.toNat ≤ clock.ticksIn (elapsed + slept) ∧
          (clock.ticksIn (elapsed + slept) - clock.ticksIn elapsed < wordLimit →
            ticks.toNat ≤ (clock.reading (elapsed + slept)).since (clock.reading elapsed))) ∧
      (wordLimit ≤ clock.nanosFor ticks.toNat → time = wordLimit - 1) := by
  refine ⟨min (clock.nanosFor ticks.toNat) (wordLimit - 1), rfl, sleepChecked?_eq running ticks,
    ?_, ?_⟩
  · intro fits
    rw [Nat.min_eq_left (by omega)]
    refine ⟨(nanosFor_gc running).isLeast_l, ?_⟩
    intro elapsed slept covers
    have passed := ticksIn_slept running covers elapsed
    refine ⟨passed, ?_⟩
    intro fewer
    rw [since_reading fewer]
    omega
  · intro large
    exact Nat.min_eq_right (by omega)

/-- A clock of 300 ticks in a second, whose tick is no whole number of nanoseconds, sleeps for one of
them while its counter wraps. A sleep for all ticks that a word counts is cut. -/
theorem sleep_exact_wrapping :
    ∃ (clock : SteadyClock) (elapsed : Nat), 0 < clock.ticksPerSecond.toNat ∧
      clock.nanosFor 1 < wordLimit ∧ clock.sleep? 1 = some 3333334 ∧
      IsLeast {nanoseconds | 1 ≤ clock.ticksIn nanoseconds} 3333334 ∧
      clock.reading elapsed = 18446744073709551615 ∧ clock.reading (elapsed + 3333334) = 0 ∧
      1 ≤ (clock.reading (elapsed + 3333334)).since (clock.reading elapsed) ∧
      wordLimit ≤ clock.nanosFor 18446744073709551615 ∧
      clock.sleep? 18446744073709551615 = some 18446744073709551615 := by
  let clock : SteadyClock := ⟨300⟩
  let elapsed : Nat := 61489146912365172050000000
  have running : 0 < clock.ticksPerSecond.toNat := by decide
  have fits : clock.nanosFor 1 < wordLimit := by decide +kernel
  have large : wordLimit ≤ clock.nanosFor 18446744073709551615 := by decide +kernel
  have shown : clock.sleep? 1 = some 3333334 := by decide +kernel
  have fewer : clock.ticksIn (elapsed + 3333334) - clock.ticksIn elapsed < wordLimit := by
    decide +kernel
  obtain ⟨short, slept, _, counts, _⟩ := sleep_exact running 1
  obtain ⟨long, cut, _, _, saturates⟩ := sleep_exact running 18446744073709551615
  cases Option.some.inj (slept.symm.trans shown)
  obtain ⟨least, wakes⟩ := counts fits
  have later := (wakes elapsed 3333334 (Nat.le_refl _)).2 fewer
  rw [saturates large] at cut
  exact ⟨clock, elapsed, running, fits, shown, least, by decide +kernel, by decide +kernel, later,
    large, cut⟩

end SteadyClock

end PcmPlayback
