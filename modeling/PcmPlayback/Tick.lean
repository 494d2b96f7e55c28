import PcmPlayback.Word

/-!
# Ticks

Clocks count ticks in words of 64 bits that wrap. Durations are plain numbers: the time between
two readings is taken modulo the word, and a reading plus a duration may leave the word, in which
case there is no such reading.
-/

set_option autoImplicit false

namespace PcmPlayback

/-- A reading of a clock. -/
abbrev Tick := UInt64

namespace Tick

/-- Ticks from an earlier reading to this one, across at most one wrap of the counter. -/
def since (now base : Tick) : Nat := (now - base).toNat

/-- The reading a number of ticks later, unless it leaves the word. -/
def after? (now : Tick) (delay : Nat) : Option Tick :=
  if now.toNat + delay < wordLimit then some (UInt64.ofNat (now.toNat + delay)) else none

theorem after?_eq_some_iff {now later : Tick} {delay : Nat} :
    now.after? delay = some later ↔ later.toNat = now.toNat + delay := by
  have bounded := later.toNat_lt
  rw [after?]
  split
  · next fits =>
      rw [wordLimit] at fits
      rw [Option.some_inj, ← UInt64.toNat_inj, UInt64.toNat_ofNat_of_lt' fits, eq_comm]
  · next leaves =>
      rw [wordLimit] at leaves
      simp only [reduceCtorEq, false_iff]
      omega

theorem after?_eq_none_iff {now : Tick} {delay : Nat} :
    now.after? delay = none ↔ wordLimit ≤ now.toNat + delay := by
  rw [after?]
  split <;> simp <;> omega

/-- Without a wrap in between, the elapsed ticks are the plain difference. -/
theorem since_eq_sub {now base : Tick} (ordered : base ≤ now) :
    now.since base = now.toNat - base.toNat :=
  UInt64.toNat_sub_of_le now base ordered

end Tick

end PcmPlayback
