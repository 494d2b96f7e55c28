import PcmPlayback.Outcome
import PcmPlayback.Setup
import PcmPlayback.Word

/-!
# Capabilities

What a playback device accepts: sample formats, and inclusive bounds on rates, channel counts,
buffer sizes, period sizes and period counts. Boards override single limits of a common base.
Bounds may be empty, and then nothing lies within them.
-/

set_option autoImplicit false

namespace PcmPlayback

/-- Inclusive bounds of a number. Nothing lies within them when the low end exceeds the high
end. -/
structure Bounds where
  low : Nat
  high : Nat
  deriving Repr, DecidableEq

namespace Bounds

def contains (bounds : Bounds) (value : Nat) : Bool :=
  decide (bounds.low ≤ value ∧ value ≤ bounds.high)

/-- Replaces each end for which the override has a nonzero number. -/
def overlay (bounds replacement : Bounds) : Bounds where
  low := if replacement.low = 0 then bounds.low else replacement.low
  high := if replacement.high = 0 then bounds.high else replacement.high

theorem contains_iff {bounds : Bounds} {value : Nat} :
    bounds.contains value = true ↔ bounds.low ≤ value ∧ value ≤ bounds.high :=
  decide_eq_true_iff

end Bounds

/-- Single limits of a board. A zero, or an empty set of formats, leaves the limit alone. -/
structure Override where
  formats : FormatSet := .empty
  bufferBytesMax : Nat := 0
  periodBytes : Bounds := ⟨0, 0⟩
  periodCount : Bounds := ⟨0, 0⟩
  rates : Bounds := ⟨0, 0⟩
  channels : Bounds := ⟨0, 0⟩
  deriving Repr, DecidableEq

/-- The limits within which a device can be set up. -/
structure Capabilities where
  formats : FormatSet
  rates : Bounds
  channels : Bounds
  bufferBytesMax : Nat
  periodBytes : Bounds
  periodCount : Bounds
  deriving Repr, DecidableEq

namespace Capabilities

/-- A generic virtual card: small integer samples, mono or stereo, and up to 64 KiB of ring. -/
def standard : Capabilities where
  formats := .ofList [.u8, .s16Le]
  rates := ⟨5500, 48000⟩
  channels := ⟨1, 2⟩
  bufferBytesMax := 65536
  periodBytes := ⟨64, 65536⟩
  periodCount := ⟨1, 1024⟩

/-- Puts the limits that an override states on top of the present ones. -/
def apply (base : Capabilities) (override : Override) : Capabilities where
  formats := if override.formats.isEmpty then base.formats else override.formats
  rates := base.rates.overlay override.rates
  channels := base.channels.overlay override.channels
  bufferBytesMax :=
    if override.bufferBytesMax = 0 then base.bufferBytesMax else override.bufferBytesMax
  periodBytes := base.periodBytes.overlay override.periodBytes
  periodCount := base.periodCount.overlay override.periodCount

/-- A board that bit-bangs its output: unsigned stereo bytes at 8 kHz and nothing else. -/
def gpio : Capabilities :=
  standard.apply
    { formats := .ofList [.u8], rates := ⟨8000, 8000⟩, channels := ⟨2, 2⟩ }

/-- The first limit that a frame layout breaks. -/
def layoutDefect? (limits : Capabilities) (format : SampleFormat) (channels : UInt32) :
    Option Error :=
  if !limits.formats.contains format then some (.formatUnsupported format)
  else if !limits.channels.contains channels.toNat then some (.channelsUnsupported channels)
  else none

/-- Whether a setup can be played with frames of the given size. The size of the buffer in bytes
has to fit into a word before it can be compared, and the check faults where it does not. -/
def check (limits : Capabilities) (setup : StreamSetup) (frameBytes : Nat) : Outcome Unit :=
  match setup.defect? with
  | some cause => .rejected cause
  | none =>
      let bufferBytes := setup.bufferFrames.toNat * frameBytes
      let periodBytes := setup.periodFrames.toNat * frameBytes
      let periodCount := setup.bufferFrames.toNat / setup.periodFrames.toNat
      if !limits.rates.contains setup.rate.toNat then
        .rejected (.rateUnsupported setup.rate)
      else if wordLimit ≤ bufferBytes then .fault
      else if limits.bufferBytesMax < bufferBytes then
        .rejected (.bufferTooLarge bufferBytes limits.bufferBytesMax)
      else if !limits.periodBytes.contains periodBytes then
        .rejected (.periodBytesOutside periodBytes limits.periodBytes.low limits.periodBytes.high)
      else if !limits.periodCount.contains periodCount then
        .rejected (.periodCountOutside periodCount limits.periodCount.low limits.periodCount.high)
      else .done ()

end Capabilities

end PcmPlayback
