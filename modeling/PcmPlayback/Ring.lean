/-!
# Ring buffers

The ring holds the bytes that the device would send out. Clients copy from it, starting at a
frame and wrapping at its end, but never more than one ring's worth.
-/

set_option autoImplicit false

namespace PcmPlayback

/-- The bytes of a ring buffer, whole frames only. -/
abbrev Ring := Array UInt8

namespace Ring

/-- A ring of the given size in which nothing sounds. -/
def silent (size : Nat) : Ring := Array.replicate size 0

def empty : Ring := #[]

/-- Bytes of the ring from a place on, in at most two runs: up to the end of the ring and then
from its beginning. -/
def window (ring : Ring) (start count : Nat) : Array UInt8 :=
  let first := min count (ring.size - start)
  ring.extract start (start + first) ++ ring.extract 0 (count - first)

/-- Copies from a frame on to the front of a destination, and counts the copied bytes. Frame
numbers wrap; what the ring does not reach in the destination stays. -/
def copyTo (ring : Ring) (frameBytes : Nat) (frame : UInt64) (destination : Array UInt8) :
    Nat × Array UInt8 :=
  if ring.size = 0 then (0, destination)
  else
    let count := min destination.size ring.size
    let frames := ring.size / frameBytes
    let start := frame.toNat % frames * frameBytes
    (count, ring.window start count ++ destination.extract count destination.size)

variable {ring : Ring} {frameBytes start count index : Nat} {frame : UInt64}
  {destination : Array UInt8}

theorem size_window (begins : start < ring.size) (fits : count ≤ ring.size) :
    (ring.window start count).size = count := by
  simp only [window, Array.size_append, Array.size_extract]
  omega

/-- Both runs of a window are read in a circle from its start. -/
theorem getElem?_window (begins : start < ring.size) (fits : count ≤ ring.size)
    (inside : index < count) :
    (ring.window start count)[index]? = ring[(start + index) % ring.size]? := by
  have front : (ring.extract start (start + min count (ring.size - start))).size =
      min count (ring.size - start) := by
    rw [Array.size_extract]
    omega
  rw [window, Array.getElem?_append, front]
  by_cases ahead : index < min count (ring.size - start)
  · rw [if_pos ahead, Array.getElem?_extract, if_pos (by omega), Nat.mod_eq_of_lt (by omega)]
  · have wrapped : (start + index) % ring.size = index - min count (ring.size - start) := by
      rw [Nat.mod_eq_sub_mod (by omega), Nat.mod_eq_of_lt (by omega)]
      omega
    rw [if_neg ahead, Array.getElem?_extract, if_pos (by omega), wrapped, Nat.zero_add]

theorem copyTo_count (ring : Ring) (frameBytes : Nat) (frame : UInt64)
    (destination : Array UInt8) :
    (ring.copyTo frameBytes frame destination).1 = min destination.size ring.size := by
  rw [copyTo]
  split
  · next none => rw [none, Nat.min_zero]
  · rfl

/-- The copied bytes follow in a circle from the frame on, and those behind them stay. -/
theorem getElem?_copyTo
    (begins : ring.size ≠ 0 →
      frame.toNat % (ring.size / frameBytes) * frameBytes < ring.size) (index : Nat) :
    (ring.copyTo frameBytes frame destination).2[index]? =
      if index < min destination.size ring.size then
        ring[(frame.toNat % (ring.size / frameBytes) * frameBytes + index) % ring.size]?
      else destination[index]? := by
  by_cases filled : ring.size = 0
  · rw [copyTo, if_pos filled, if_neg (by omega)]
  · have fits : min destination.size ring.size ≤ ring.size := Nat.min_le_right _ _
    simp only [copyTo, if_neg filled]
    rw [Array.getElem?_append, size_window (begins filled) fits]
    split
    · next inside => exact getElem?_window (begins filled) fits inside
    · next behind =>
        rw [Array.getElem?_extract]
        split
        · next within =>
            congr 1
            omega
        · next beyond => rw [Array.getElem?_eq_none (by omega)]

theorem size_copyTo
    (begins : ring.size ≠ 0 →
      frame.toNat % (ring.size / frameBytes) * frameBytes < ring.size) :
    (ring.copyTo frameBytes frame destination).2.size = destination.size := by
  by_cases filled : ring.size = 0
  · rw [copyTo, if_pos filled]
  · have fits : min destination.size ring.size ≤ ring.size := Nat.min_le_right _ _
    simp only [copyTo, if_neg filled]
    rw [Array.size_append, size_window (begins filled) fits, Array.size_extract]
    omega

end Ring

end PcmPlayback
