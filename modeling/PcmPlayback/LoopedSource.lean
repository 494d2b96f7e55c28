/-!
# Looped sources

A source is a sequence of bytes that is read over and over. Reading copies run after run: each
run ends at the end of the source or of the request, whichever comes first.
-/

set_option autoImplicit false

namespace PcmPlayback

/-- Bytes to be read in a loop, and the place of the next read. There is always a next byte. -/
structure LoopedSource where
  bytes : Array UInt8
  cursor : Nat
  cursor_lt : cursor < bytes.size

namespace LoopedSource

/-- A source read from its first byte. An empty sequence cannot be looped. -/
def ofBytes? (bytes : Array UInt8) : Option LoopedSource :=
  if nonempty : 0 < bytes.size then some ⟨bytes, 0, nonempty⟩ else none

def rewind (source : LoopedSource) : LoopedSource :=
  ⟨source.bytes, 0, Nat.lt_of_le_of_lt (Nat.zero_le _) source.cursor_lt⟩

/-- Passes over a run that ends at the end of the source or before. -/
def skip (source : LoopedSource) (run : Nat) : LoopedSource :=
  if inside : source.cursor + run < source.bytes.size then
    ⟨source.bytes, source.cursor + run, inside⟩
  else source.rewind

/-- The longest run that can be read without wrapping. -/
def run (source : LoopedSource) (count : Nat) : Nat :=
  min (source.bytes.size - source.cursor) count

/-- Appends the next bytes, wrapping at the end of the source as often as needed. -/
def readInto (filled : Array UInt8) (count : Nat) (source : LoopedSource) :
    Array UInt8 × LoopedSource :=
  if count = 0 then (filled, source)
  else
    let run := source.run count
    readInto (filled ++ source.bytes.extract source.cursor (source.cursor + run))
      (count - run) (source.skip run)
termination_by count
decreasing_by
  have inside := source.cursor_lt
  simp only [LoopedSource.run]
  omega

def read (source : LoopedSource) (count : Nat) : Array UInt8 × LoopedSource :=
  readInto #[] count source

theorem eq_of_cursor {source other : LoopedSource} (bytes : source.bytes = other.bytes)
    (cursor : source.cursor = other.cursor) : source = other := by
  cases source
  cases other
  cases bytes
  cases cursor
  rfl

theorem ofBytes?_eq_none_iff {bytes : Array UInt8} : ofBytes? bytes = none ↔ bytes = #[] := by
  rw [ofBytes?]
  split
  · next nonempty =>
      simp only [reduceCtorEq, false_iff]
      rintro rfl
      exact absurd nonempty (by simp)
  · next missing =>
      simp only [true_iff]
      exact Array.eq_empty_of_size_eq_zero (by omega)

@[simp] theorem bytes_skip (source : LoopedSource) (run : Nat) :
    (source.skip run).bytes = source.bytes := by
  rw [skip]
  split <;> rfl

theorem cursor_skip_run (source : LoopedSource) (count : Nat) :
    (source.skip (source.run count)).cursor =
      (source.cursor + source.run count) % source.bytes.size := by
  have inside := source.cursor_lt
  rw [skip]
  split
  · next short => rw [Nat.mod_eq_of_lt short]
  · next full =>
      have reached : source.cursor + source.run count = source.bytes.size := by
        rw [run] at full ⊢
        omega
      rw [reached, Nat.mod_self, rewind]

theorem bytes_readInto (filled : Array UInt8) (count : Nat) (source : LoopedSource) :
    (readInto filled count source).2.bytes = source.bytes := by
  fun_induction readInto filled count source with
  | case1 => rfl
  | case2 filled count source positive run ih => rw [ih, bytes_skip]

theorem cursor_readInto (filled : Array UInt8) (count : Nat) (source : LoopedSource) :
    (readInto filled count source).2.cursor = (source.cursor + count) % source.bytes.size := by
  fun_induction readInto filled count source with
  | case1 filled source => rw [Nat.add_zero, Nat.mod_eq_of_lt source.cursor_lt]
  | case2 filled count source positive run ih =>
      have within : run ≤ count := Nat.min_le_right _ _
      rw [ih, bytes_skip, cursor_skip_run, Nat.mod_add_mod, Nat.add_assoc,
        Nat.add_sub_cancel' within]

theorem size_readInto (filled : Array UInt8) (count : Nat) (source : LoopedSource) :
    (readInto filled count source).1.size = filled.size + count := by
  fun_induction readInto filled count source with
  | case1 => rfl
  | case2 filled count source positive run ih =>
      have inside := source.cursor_lt
      have within : run ≤ count := Nat.min_le_right _ _
      have short : run ≤ source.bytes.size - source.cursor := Nat.min_le_left _ _
      rw [ih, Array.size_append, Array.size_extract]
      omega

/-- What was filled before stays, and the rest is the source read in a circle from its cursor. -/
theorem getElem?_readInto (filled : Array UInt8) (count : Nat) (source : LoopedSource)
    (index : Nat) (inside : index < filled.size + count) :
    (readInto filled count source).1[index]? =
      if index < filled.size then filled[index]?
      else source.bytes[(source.cursor + (index - filled.size)) % source.bytes.size]? := by
  fun_induction readInto filled count source with
  | case1 filled source => rw [if_pos (by omega)]
  | case2 filled count source positive run ih =>
      have bounded := source.cursor_lt
      have within : run ≤ count := Nat.min_le_right _ _
      have short : run ≤ source.bytes.size - source.cursor := Nat.min_le_left _ _
      have size :
          (filled ++ source.bytes.extract source.cursor (source.cursor + run)).size =
            filled.size + run := by
        rw [Array.size_append, Array.size_extract]
        omega
      rw [ih (by omega), size, bytes_skip, cursor_skip_run, Array.getElem?_append,
        Nat.mod_add_mod]
      by_cases before : index < filled.size
      · rw [if_pos (by omega), if_pos before, if_pos before]
      · by_cases first : index < filled.size + run
        · have unwrapped :
              (source.cursor + (index - filled.size)) % source.bytes.size =
                source.cursor + (index - filled.size) := Nat.mod_eq_of_lt (by omega)
          rw [if_pos first, if_neg before, if_neg before, unwrapped, Array.getElem?_extract]
          exact if_pos (by omega)
        · have later : source.cursor + source.run count + (index - (filled.size + run)) =
              source.cursor + (index - filled.size) := by
            change source.cursor + run + (index - (filled.size + run)) = _
            omega
          rw [if_neg first, if_neg before, later]

@[simp] theorem bytes_read (source : LoopedSource) (count : Nat) :
    (source.read count).2.bytes = source.bytes :=
  bytes_readInto #[] count source

@[simp] theorem size_read (source : LoopedSource) (count : Nat) :
    (source.read count).1.size = count := by
  rw [read, size_readInto, Array.size_empty, Nat.zero_add]

theorem getElem?_read (source : LoopedSource) {count index : Nat} (inside : index < count) :
    (source.read count).1[index]? =
      source.bytes[(source.cursor + index) % source.bytes.size]? := by
  have found := getElem?_readInto #[] count source index (by simpa using inside)
  simpa [read] using found

theorem cursor_read (source : LoopedSource) (count : Nat) :
    (source.read count).2.cursor = (source.cursor + count) % source.bytes.size :=
  cursor_readInto #[] count source

end LoopedSource

end PcmPlayback
