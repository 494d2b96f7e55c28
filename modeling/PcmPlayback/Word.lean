/-!
# Words

Counters, sizes and clock readings are words of 64 bits; products of two words are kept in double
words. Arithmetic here is on plain numbers, and these limits say where a result leaves its word.
-/

set_option autoImplicit false

namespace PcmPlayback

/-- One more than the largest word. -/
def wordLimit : Nat := 18446744073709551616

/-- One more than the largest double word. -/
def wideLimit : Nat := wordLimit * wordLimit

/-- Largest number of bytes that one allocation can hold: half of what a word can count. -/
def allocationLimit : Nat := wordLimit / 2 - 1

/-- Largest number of bytes that the host grants to one allocation, unless stated otherwise. A host
runs out of memory long before an allocation runs out of numbers. -/
def hostMemory : Nat := 68719476736

def divUp (dividend divisor : Nat) : Nat := (dividend + divisor - 1) / divisor

/-- The rounded quotient is the least number whose multiple covers the dividend. -/
theorem divUp_le_iff {dividend divisor count : Nat} (positive : 0 < divisor) :
    divUp dividend divisor ≤ count ↔ dividend ≤ count * divisor := by
  rw [divUp, ← Nat.lt_succ_iff, Nat.div_lt_iff_lt_mul positive, Nat.succ_mul]
  omega

theorem le_divUp_mul (dividend : Nat) {divisor : Nat} (positive : 0 < divisor) :
    dividend ≤ divUp dividend divisor * divisor :=
  (divUp_le_iff positive).mp (Nat.le_refl _)

theorem divUp_mul_lt (dividend : Nat) {divisor : Nat} (positive : 0 < divisor) :
    divUp dividend divisor * divisor < dividend + divisor := by
  have whole := Nat.div_mul_le_self (dividend + divisor - 1) divisor
  rw [← divUp] at whole
  omega

theorem divUp_sub_mul {dividend divisor count : Nat} (positive : 0 < divisor) :
    divUp (dividend - divisor * count) divisor = divUp dividend divisor - count := by
  have least (bound : Nat) : divUp (dividend - divisor * count) divisor ≤ bound ↔
      divUp dividend divisor ≤ bound + count := by
    rw [divUp_le_iff positive, divUp_le_iff positive, Nat.add_mul, Nat.mul_comm divisor]
    omega
  apply Nat.le_antisymm
  · rw [least]
    omega
  · have covered := (least _).mp (Nat.le_refl _)
    omega

end PcmPlayback
