import PcmPlayback.Ring

/-!
# Parts of byte sequences

A part of a sequence is named by its two ends. Reading a part that does not lie in the sequence is a
fault, and so is writing bytes over a part of another size.
-/

set_option autoImplicit false

namespace PcmPlayback.Checked

/-- The part of a sequence between two places. -/
def slice (bytes : Array UInt8) (first last : Nat) : Option (Array UInt8) :=
  if first ≤ last ∧ last ≤ bytes.size then some (bytes.extract first last) else none

/-- A sequence with other bytes in the part between two places. -/
def overwrite (bytes : Array UInt8) (first last : Nat) (part : Array UInt8) :
    Option (Array UInt8) :=
  if first ≤ last ∧ last ≤ bytes.size ∧ part.size = last - first then
    some (bytes.extract 0 first ++ part ++ bytes.extract last bytes.size)
  else none

variable {bytes part : Array UInt8} {first last : Nat}

theorem slice_eq_some (ordered : first ≤ last) (inside : last ≤ bytes.size) :
    slice bytes first last = some (bytes.extract first last) :=
  if_pos ⟨ordered, inside⟩

theorem of_slice_eq_some (read : slice bytes first last = some part) :
    last ≤ bytes.size ∧ part = bytes.extract first last := by
  unfold slice at read
  split at read
  · next inside => exact ⟨inside.2, (Option.some.inj read).symm⟩
  · cases read

theorem overwrite_eq_some (ordered : first ≤ last) (inside : last ≤ bytes.size)
    (size : part.size = last - first) :
    overwrite bytes first last part =
      some (bytes.extract 0 first ++ part ++ bytes.extract last bytes.size) :=
  if_pos ⟨ordered, inside, size⟩

theorem of_overwrite_eq_some {written : Array UInt8}
    (wrote : overwrite bytes first last part = some written) :
    first ≤ last ∧ last ≤ bytes.size ∧ part.size = last - first ∧
      written = bytes.extract 0 first ++ part ++ bytes.extract last bytes.size := by
  unfold overwrite at wrote
  split at wrote
  · next inside => exact ⟨inside.1, inside.2.1, inside.2.2, (Option.some.inj wrote).symm⟩
  · cases wrote

theorem size_overwritten (ordered : first ≤ last) (inside : last ≤ bytes.size)
    (size : part.size = last - first) :
    (bytes.extract 0 first ++ part ++ bytes.extract last bytes.size).size = bytes.size := by
  simp only [Array.size_append, Array.size_extract]
  omega

/-- What was written so far, up to the end of the part. -/
theorem extract_overwritten (ordered : first ≤ last) (inside : last ≤ bytes.size)
    (size : part.size = last - first) :
    (bytes.extract 0 first ++ part ++ bytes.extract last bytes.size).extract 0 last =
      bytes.extract 0 first ++ part := by
  have front : (bytes.extract 0 first ++ part).size = last := by
    simp only [Array.size_append, Array.size_extract]
    omega
  rw [Array.extract_append, front, Nat.sub_self, Array.extract_eq_self_of_le (Nat.le_of_eq front)]
  simp

/-- What lies behind the part stays. -/
theorem extract_behind_overwritten (ordered : first ≤ last) (inside : last ≤ bytes.size)
    (size : part.size = last - first) {place : Nat} (behind : last ≤ place) :
    (bytes.extract 0 first ++ part ++ bytes.extract last bytes.size).extract place bytes.size =
      bytes.extract place bytes.size := by
  have front : (bytes.extract 0 first ++ part).size = last := by
    simp only [Array.size_append, Array.size_extract]
    omega
  have onward : last + (place - last) = place := by omega
  have ends : min (last + (bytes.size - last)) bytes.size = bytes.size := by omega
  rw [Array.extract_append, front, Array.extract_eq_empty_of_le (by omega), Array.empty_append,
    Array.extract_extract, onward, ends]

end PcmPlayback.Checked
