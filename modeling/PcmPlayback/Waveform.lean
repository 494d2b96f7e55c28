import PcmPlayback.Outcome
import PcmPlayback.Word

/-!
# Test waveforms

Generated bytes to feed a device with: a sawtooth that counts up, and an interleaved sine wave of
unsigned bytes computed in single precision.
-/

set_option autoImplicit false

namespace PcmPlayback

namespace Waveform

/-- Bytes that count up by two and wrap. A wave that the host has no memory for is a fault. -/
def ramp (length : UInt64) : Outcome (Array UInt8) :=
  if hostMemory < length.toNat then .fault
  else .done (Array.ofFn fun index : Fin length.toNat => UInt8.ofNat index.val * 2)

/-- A full turn in radians, to single precision. -/
def turn : Float32 := Float32.ofBits 0x40C90FDB

/-- One unsigned sample of a sine wave around the middle of the byte. A half rounds away from
zero, and what leaves the byte stays at its end. -/
def sineSample (rate : UInt32) (frequency : Float32) (frame : Nat) : UInt8 :=
  let seconds := (UInt64.ofNat frame).toFloat32 / rate.toFloat32
  let height := (seconds * frequency * turn).sin
  (128 + 127 * height).round.toUInt8

/-- A sine wave of the given length in frames, with the same sample in every channel. A wave that
the host has no memory for is a fault. -/
def sine (rate channels : UInt32) (frequency : Float32) (frames : UInt64) :
    Outcome (Array UInt8) :=
  let size := frames.toNat * channels.toNat
  if hostMemory < size then .fault
  else .done (Array.ofFn fun index : Fin size =>
    sineSample rate frequency (index.val / channels.toNat))

end Waveform

end PcmPlayback
