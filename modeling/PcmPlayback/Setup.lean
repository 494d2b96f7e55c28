import PcmPlayback.Error

/-!
# Stream setups

What a client asks of a device: a frame rate, a ring buffer, and the distance between two
notifications. Some relations hold for every setup, whatever the device can do.
-/

set_option autoImplicit false

namespace PcmPlayback

/-- A requested stream configuration. Sizes are in frames. -/
structure StreamSetup where
  rate : UInt32
  bufferFrames : UInt64
  periodFrames : UInt64
  deriving Repr, DecidableEq

namespace StreamSetup

/-- The first relation that a setup breaks. All three numbers are positive, and a period fits
into the buffer. -/
def defect? (setup : StreamSetup) : Option Error :=
  if setup.rate = 0 then some .zeroRate
  else if setup.bufferFrames = 0 then some .zeroBuffer
  else if setup.periodFrames = 0 then some .zeroPeriod
  else if setup.bufferFrames < setup.periodFrames then
    some (.periodExceedsBuffer setup.periodFrames.toNat setup.bufferFrames.toNat)
  else none

/-- A setup without defect has positive sizes and at least one period. -/
theorem defect?_eq_none_iff {setup : StreamSetup} :
    setup.defect? = none ↔
      0 < setup.rate.toNat ∧ 0 < setup.periodFrames.toNat ∧
        setup.periodFrames.toNat ≤ setup.bufferFrames.toNat := by
  simp only [defect?, ← UInt32.toNat_inj, ← UInt64.toNat_inj, UInt64.lt_iff_toNat_lt,
    UInt32.toNat_zero, UInt64.toNat_zero]
  split
  · simp; omega
  · split
    · simp; omega
    · split
      · simp; omega
      · split
        · simp; omega
        · simp; omega

end StreamSetup

end PcmPlayback
