import PcmPlayback.LoopedSource
import PcmPlayback.Proofs.Slices

/-!
# Circular reading

The loop that fills a destination from a looped source takes run after run out of the source and
writes each behind the one before. It always ends, none of its runs lies outside the source or the
destination, and it gives what reading gives: the bytes that follow in a circle. So the place of a
source is told by what was read from it since it was last rewound, also among copies that are read
in turns.
-/

set_option autoImplicit false

namespace PcmPlayback

namespace LoopedSource

/-- The loop that fills a destination: a number of bytes has been written, and the next run begins
at a place in the source. A run outside the source or the destination has no turn of the loop. -/
inductive Fills (bytes : Array UInt8) :
    Array UInt8 → Nat → Nat → Array UInt8 → Nat → Prop where
  | full {destination : Array UInt8} {written cursor : Nat}
      (full : destination.size ≤ written) :
      Fills bytes destination written cursor destination cursor
  | run {destination part next filled : Array UInt8} {written cursor count last : Nat}
      (lacks : written < destination.size)
      (counted : count = min (bytes.size - cursor) (destination.size - written))
      (reads : Checked.slice bytes cursor (cursor + count) = some part)
      (writes : Checked.overwrite destination written (written + count) part = some next)
      (rest : Fills bytes next (written + count)
        (if cursor + count = bytes.size then 0 else cursor + count) filled last) :
      Fills bytes destination written cursor filled last

theorem cursor_skip_eq (source : LoopedSource) (count : Nat) :
    (source.skip (source.run count)).cursor =
      if source.cursor + source.run count = source.bytes.size then 0
      else source.cursor + source.run count := by
  have inside := source.cursor_lt
  have short : source.run count ≤ source.bytes.size - source.cursor := Nat.min_le_left _ _
  rw [skip]
  split
  · next before => rw [if_neg (by omega)]
  · next reached => rw [if_pos (by omega), rewind]

theorem readInto_zero (filled : Array UInt8) (source : LoopedSource) :
    readInto filled 0 source = (filled, source) := by
  rw [readInto, if_pos rfl]

/-- Whatever the loop comes to, it is what is read behind the bytes written so far. -/
theorem Fills.eq_readInto {bytes destination filled : Array UInt8} {written cursor last : Nat}
    (fills : Fills bytes destination written cursor filled last) {source : LoopedSource}
    (same : source.bytes = bytes) (place : source.cursor = cursor)
    (within : written ≤ destination.size) :
    filled = (readInto (destination.extract 0 written) (destination.size - written) source).1 ∧
      last =
        (readInto (destination.extract 0 written)
          (destination.size - written) source).2.cursor := by
  induction fills generalizing source with
  | full full =>
      have whole := Nat.le_antisymm within full
      subst whole
      rw [Nat.sub_self, readInto_zero, Array.extract_size]
      exact ⟨rfl, place.symm⟩
  | @run destination part next filled written cursor count last lacks counted reads writes
      rest ih =>
      subst same place
      obtain ⟨_, taken⟩ := Checked.of_slice_eq_some reads
      obtain ⟨ordered, inside, size, left⟩ := Checked.of_overwrite_eq_some writes
      have runs : source.run (destination.size - written) = count := counted.symm
      have onward := cursor_skip_eq source (destination.size - written)
      rw [runs] at onward
      have sized : next.size = destination.size := by
        rw [left, Checked.size_overwritten ordered inside size]
      obtain ⟨bytes, ends⟩ := ih (bytes_skip source count) onward (sized ▸ inside)
      rw [sized, left, Checked.extract_overwritten ordered inside size] at bytes ends
      rw [readInto, if_neg (by omega)]
      simp only [runs, ← taken, Nat.sub_sub]
      exact ⟨bytes, ends⟩

theorem fills_readInto (filled : Array UInt8) (count : Nat) (source : LoopedSource) :
    ∀ destination written, written ≤ destination.size →
      filled = destination.extract 0 written → count = destination.size - written →
        Fills source.bytes destination written source.cursor (readInto filled count source).1
          (readInto filled count source).2.cursor := by
  fun_induction readInto filled count source with
  | case1 filled source =>
      intro destination written within before lacks
      have whole : destination.size = written := by omega
      subst whole
      rw [before, Array.extract_size]
      exact .full (Nat.le_refl _)
  | case2 filled count source positive run ih =>
      intro destination written within before lacks
      have bounded := source.cursor_lt
      have enough : run ≤ count := Nat.min_le_right _ _
      have short : run ≤ source.bytes.size - source.cursor := Nat.min_le_left _ _
      have inside : written + run ≤ destination.size := by omega
      have size : (source.bytes.extract source.cursor (source.cursor + run)).size =
          written + run - written := by
        rw [Array.size_extract]
        omega
      have reads := @Checked.slice_eq_some source.bytes source.cursor (source.cursor + run)
        (by omega) (by omega)
      have writes := Checked.overwrite_eq_some (Nat.le_add_right written run) inside size
      have sized := Checked.size_overwritten (Nat.le_add_right written run) inside size
      have rest := ih _ _ (sized ▸ inside)
        (by rw [Checked.extract_overwritten (Nat.le_add_right written run) inside size, before])
        (by rw [sized]; omega)
      rw [bytes_skip, cursor_skip_eq] at rest
      exact .run (by omega) (by rw [← lacks]; rfl) reads writes rest

theorem fills_iff (source : LoopedSource) (destination filled : Array UInt8) (last : Nat) :
    Fills source.bytes destination 0 source.cursor filled last ↔
      filled = (source.read destination.size).1 ∧
        last = (source.read destination.size).2.cursor := by
  constructor
  · intro fills
    have reads := fills.eq_readInto rfl rfl (Nat.zero_le _)
    rwa [Array.extract_zero, Nat.sub_zero] at reads
  · rintro ⟨rfl, rfl⟩
    exact fills_readInto #[] destination.size source destination 0 (Nat.zero_le _)
      (Array.extract_zero).symm rfl

theorem read_add (source : LoopedSource) (first second : Nat) :
    source.read (first + second) =
      ((source.read first).1 ++ ((source.read first).2.read second).1,
        ((source.read first).2.read second).2) := by
  have place : (source.read (first + second)).2.cursor =
      ((source.read first).2.read second).2.cursor := by
    rw [cursor_read, cursor_read, cursor_read, bytes_read, Nat.mod_add_mod, Nat.add_assoc]
  refine Prod.ext ?_ ?_
  · apply Array.ext_getElem?
    intro index
    rw [Array.getElem?_append, size_read]
    by_cases early : index < first
    · rw [if_pos early, getElem?_read source early, getElem?_read source (by omega)]
    · rw [if_neg early]
      by_cases late : index - first < second
      · have onward : source.cursor + first + (index - first) = source.cursor + index := by omega
        rw [getElem?_read _ late, getElem?_read source (by omega), bytes_read, cursor_read,
          Nat.mod_add_mod, onward]
      · -- both sides end here
        rw [Array.getElem?_eq_none (by rw [size_read]; omega),
          Array.getElem?_eq_none (by rw [size_read]; omega)]
  · exact eq_of_cursor (by simp) place

/-! ## Copies of a source -/

inductive Use where
  | read (count : Nat)
  | rewind

def used : Use → LoopedSource → LoopedSource
  | .read count, source => (source.read count).2
  | .rewind, source => source.rewind

/-- The source after some uses, the latest in front. -/
def after (source : LoopedSource) : List Use → LoopedSource
  | [] => source
  | use :: earlier => (source.after earlier).used use

/-- Bytes read since the last rewinding, the latest use in front. -/
def Use.given : List Use → Nat
  | [] => 0
  | .rewind :: _ => 0
  | .read count :: earlier => given earlier + count

/-- What can be done with numbered copies: one of them is used, or copied under the next number. -/
inductive Handling where
  | take (copy : Nat) (use : Use)
  | clone (copy : Nat)

def Handling.apply {α : Type} (change : Use → α → α) (items : List α) : Handling → List α
  | .take copy use => items.modify copy (change use)
  | .clone copy => items ++ items[copy]?.toList

theorem bytes_after (source : LoopedSource) (uses : List Use) :
    (source.after uses).bytes = source.bytes := by
  induction uses with
  | nil => rfl
  | cons use earlier ih =>
      cases use with
      | read count => exact (bytes_read _ count).trans ih
      | rewind => exact ih

/-- A source that starts at its first byte is where the bytes read since then have brought it. -/
theorem cursor_after (source : LoopedSource) (uses : List Use) :
    (source.rewind.after uses).cursor = Use.given uses % source.bytes.size := by
  induction uses with
  | nil => exact (Nat.zero_mod _).symm
  | cons use earlier ih =>
      have same : (source.rewind.after earlier).bytes = source.bytes := bytes_after _ earlier
      cases use with
      | read count => rw [after, used, cursor_read, ih, same, Nat.mod_add_mod, Use.given]
      | rewind => exact (Nat.zero_mod _).symm

theorem Handling.map_apply {α β : Type} (view : α → β) (change : Use → α → α)
    (changed : Use → β → β)
    (commutes : ∀ use item, view (change use item) = changed use (view item))
    (handling : Handling) (items : List α) :
    (handling.apply change items).map view = handling.apply changed (items.map view) := by
  cases handling with
  | take copy use =>
      apply List.ext_getElem?
      intro index
      rw [apply, apply, List.getElem?_map, List.getElem?_modify, List.getElem?_modify,
        List.getElem?_map]
      cases items[index]? with
      | none => rfl
      | some item =>
          by_cases chosen : copy = index
          · simp [chosen, commutes]
          · simp [chosen]
  | clone copy =>
      rw [apply, apply, List.map_append, List.getElem?_map, Option.toList_map]

/-- Each of several copies is where its own history brings the first one. -/
theorem copies_eq_after (source : LoopedSource) (handlings : List Handling)
    (histories : List (List Use)) :
    handlings.foldl (Handling.apply used) (histories.map source.after) =
      (handlings.foldl (Handling.apply List.cons) histories).map source.after := by
  induction handlings generalizing histories with
  | nil => rfl
  | cons handling rest ih =>
      have turned : (handling.apply List.cons histories).map source.after =
          handling.apply used (histories.map source.after) :=
        Handling.map_apply source.after List.cons used (fun _ _ => rfl) handling histories
      rw [List.foldl_cons, List.foldl_cons, ← ih, turned]

/-- Reading goes in a circle. The loop that fills a destination ends in one way only, without a run
outside the source or the destination: it gives the bytes that follow the place of the source, and
leaves the source where they end. Reads in turn are one read; after a rewinding the bytes read since
then tell the place; and the place of each of several copies depends on its own history alone, which
is that of the copied one up to the copying. -/
theorem circular_reading (source : LoopedSource) :
    (∀ destination filled last,
      Fills source.bytes destination 0 source.cursor filled last ↔
        filled = (source.read destination.size).1 ∧
          last = (source.read destination.size).2.cursor) ∧
    (∀ count,
      (source.read count).1.size = count ∧
      (∀ index, index < count → (source.read count).1[index]? =
        source.bytes[(source.cursor + index) % source.bytes.size]?) ∧
      (source.read count).2.bytes = source.bytes ∧
      (source.read count).2.cursor = (source.cursor + count) % source.bytes.size ∧
      (source.read count).2.cursor < source.bytes.size) ∧
    (∀ first second, source.read (first + second) =
      ((source.read first).1 ++ ((source.read first).2.read second).1,
        ((source.read first).2.read second).2)) ∧
    (∀ uses, (source.rewind.after uses).cursor = Use.given uses % source.bytes.size) ∧
    ∀ handlings : List Handling, handlings.foldl (Handling.apply used) [source] =
      (handlings.foldl (Handling.apply List.cons) [[]]).map source.after := by
  refine ⟨source.fills_iff, fun count => ?_, source.read_add, source.cursor_after,
    fun handlings => source.copies_eq_after handlings [[]]⟩
  have bytes := source.bytes_read count
  refine ⟨source.size_read count, fun _ => source.getElem?_read, bytes,
    source.cursor_read count, ?_⟩
  rw [← bytes]
  exact (source.read count).2.cursor_lt

/-- Reading at work: from the fourth of five bytes on, twelve bytes are read into a destination that
held others, which ends at the first byte again; a copy taken after two bytes goes on by itself. -/
theorem circular_reading_wrapped :
    ∃ source : LoopedSource, source.bytes = #[10, 11, 12, 13, 14] ∧ source.cursor = 3 ∧
      Fills source.bytes (Array.replicate 12 7) 0 3 (source.read 12).1 0 ∧
      (source.read 12).1[8]? = some 11 ∧
      [.take 0 (.read 2), .clone 0, .take 1 (.read 4), .take 0 .rewind, .take 0 (.read 3)].foldl
          (Handling.apply used) [source] =
        [source.after [.read 3, .rewind, .read 2], source.after [.read 4, .read 2]] := by
  let source : LoopedSource := ⟨#[10, 11, 12, 13, 14], 3, by decide⟩
  obtain ⟨loop, reads, _, _, copies⟩ := circular_reading source
  obtain ⟨_, bytes, _, cursor, _⟩ := reads 12
  have ninth : (source.read 12).1[8]? = some 11 := (bytes 8 (by decide)).trans (by decide)
  have ends : (source.read 12).2.cursor = 0 := cursor.trans (by decide)
  refine ⟨source, rfl, rfl, (loop _ _ _).mpr ⟨?_, ?_⟩, ninth, copies _⟩
  · rw [Array.size_replicate]
  · rw [Array.size_replicate]
    exact ends.symm

end LoopedSource

end PcmPlayback
