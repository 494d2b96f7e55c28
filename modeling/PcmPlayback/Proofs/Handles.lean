import PcmPlayback.Rack

/-!
# Handles

A handle is given out once. As long as fewer devices were opened than a word of 32 bits can count,
no generation comes round again, so a handle that was not closed leads to the device that was
opened under it, and one that was closed leads nowhere, however often its slot was used since.
-/

set_option autoImplicit false

namespace PcmPlayback

/-- One more than the largest number of a slot or a generation. -/
def handleLimit : Nat := 4294967296

/-- Whether a slot agrees with a handle that names it and that was the one of a seat: it holds this
seat if it was not closed, and has passed to a later generation if it was. -/
def Slot.Suits (slot : Slot Nat) (closed : List Nat) (seat : Nat) (handle : Handle) : Prop :=
  if seat ∈ closed then handle.generation < slot.generation
  else slot.generation = handle.generation ∧ slot.occupant.map Occupant.value = some seat

namespace Slot.Suits

variable {slot : Slot Nat} {closed : List Nat} {seat : Nat} {handle : Handle}

theorem closed_of_empty (suits : slot.Suits closed seat handle) (empty : slot.occupant = none) :
    seat ∈ closed ∧ handle.generation < slot.generation := by
  unfold Suits at suits
  split at suits
  · next gone => exact ⟨gone, suits⟩
  · rw [empty] at suits
    cases suits.2

theorem occupy (suits : slot.Suits closed seat handle) (empty : slot.occupant = none)
    (occupant : Occupant Nat) :
    Slot.Suits ⟨slot.generation, some occupant⟩ closed seat handle := by
  obtain ⟨gone, older⟩ := suits.closed_of_empty empty
  rw [Suits, if_pos gone]
  exact older

/-- A slot that passes to its next generation suits all its handles, the last one closed now. -/
theorem vacate (suits : slot.Suits closed seat handle) {occupant : Occupant Nat}
    (present : slot.occupant = some occupant)
    (later : (slot.generation + 1).toNat = slot.generation.toNat + 1) :
    Slot.Suits ⟨slot.generation + 1, none⟩ (closed ++ [occupant.value]) seat handle := by
  unfold Suits at suits ⊢
  split at suits
  · next gone =>
      rw [if_pos (List.mem_append_left _ gone), UInt32.lt_iff_toNat_lt, later]
      exact Nat.lt_succ_of_lt (UInt32.lt_iff_toNat_lt.mp suits)
  · obtain ⟨generation, occupied⟩ := suits
    rw [present] at occupied
    cases occupied
    rw [if_pos (List.mem_append_right _ List.mem_cons_self), UInt32.lt_iff_toNat_lt, later,
      generation]
    exact Nat.lt_succ_self _

end Slot.Suits

namespace StreamTable

/-- What a table knows of the handles given out so far, in the order in which they were, and of
those that were closed. The values that it keeps are the places in this order. -/
structure Sound (table : StreamTable Nat) (issued : List Handle) (closed : List Nat) : Prop where
  past : ∀ seat ∈ closed, seat < issued.length
  named : ∀ (seat : Nat) (handle : Handle), issued[seat]? = some handle →
    ∃ slot : Slot Nat, table.slots[handle.index.toNat]? = some slot ∧
      slot.Suits closed seat handle
  counted : ∀ slot ∈ table.slots,
    slot.generation.toNat + (if slot.occupant.isSome then 1 else 0) ≤ issued.length
  free : ∀ index ∈ table.vacant, ∃ slot, table.slots[index]? = some slot ∧ slot.occupant = none
  distinct : table.vacant.Nodup

namespace Sound

variable {table : StreamTable Nat} {issued : List Handle} {closed : List Nat} {seat : Nat}
  {handle : Handle}

theorem initial : Sound {} [] [] where
  past := nofun
  named := nofun
  counted := nofun
  free := nofun
  distinct := .nil

theorem slot?_of_open (sound : table.Sound issued closed) (given : issued[seat]? = some handle)
    (kept : seat ∉ closed) :
    ∃ slot occupant, table.slots[handle.index.toNat]? = some slot ∧
      slot.generation = handle.generation ∧ slot.occupant = some occupant ∧
      occupant.value = seat ∧ table.slot? handle = some slot := by
  obtain ⟨slot, found, suits⟩ := sound.named seat handle given
  rw [Slot.Suits, if_neg kept] at suits
  obtain ⟨generation, occupied⟩ := suits
  obtain ⟨occupant, present, value⟩ := Option.map_eq_some_iff.mp occupied
  refine ⟨slot, occupant, found, generation, present, value, ?_⟩
  simp [slot?, found, generation]

theorem slot?_of_closed (sound : table.Sound issued closed) (given : issued[seat]? = some handle)
    (gone : seat ∈ closed) : table.slot? handle = none := by
  obtain ⟨slot, found, older⟩ := sound.named seat handle given
  rw [Slot.Suits, if_pos gone] at older
  have differs : slot.generation ≠ handle.generation := by
    intro same
    rw [same] at older
    exact UInt32.lt_irrefl _ older
  simp [slot?, found, differs]

theorem find?_of_open (sound : table.Sound issued closed) (given : issued[seat]? = some handle)
    (kept : seat ∉ closed) : table.find? handle = some seat := by
  obtain ⟨slot, occupant, _, _, present, value, found⟩ := sound.slot?_of_open given kept
  simp [find?, found, present, value]

theorem find?_of_closed (sound : table.Sound issued closed) (given : issued[seat]? = some handle)
    (gone : seat ∈ closed) : table.find? handle = none := by
  simp [find?, sound.slot?_of_closed given gone]

theorem remove_of_closed (sound : table.Sound issued closed) (given : issued[seat]? = some handle)
    (gone : seat ∈ closed) : table.remove handle = .error (.unknownHandle handle) := by
  simp [remove, sound.slot?_of_closed given gone]

theorem not_mem_of_empty (sound : table.Sound issued closed) {slot : Slot Nat}
    (found : table.slots[handle.index.toNat]? = some slot)
    (generation : slot.generation = handle.generation) (empty : slot.occupant = none) :
    handle ∉ issued := by
  intro member
  obtain ⟨seat, given⟩ := List.mem_iff_getElem?.mp member
  obtain ⟨other, present, suits⟩ := sound.named seat handle given
  cases Option.some.inj (found.symm.trans present)
  obtain ⟨_, older⟩ := suits.closed_of_empty empty
  rw [generation] at older
  exact UInt32.lt_irrefl _ older

/-- Taking an empty slot, which is no longer listed as vacant, gives a handle that was never given
out before: whoever had the slot has closed it. Its value is the next place. -/
theorem occupy (sound : table.Sound issued closed) {index : Nat} {slot : Slot Nat}
    (found : table.slots[index]? = some slot) (empty : slot.occupant = none)
    (taken : index ∉ table.vacant) (small : index < handleLimit) (stream : UInt32) :
    (table.occupy index ⟨stream, issued.length⟩).1 ∉ issued ∧
      (table.occupy index ⟨stream, issued.length⟩).2.Sound
        (issued ++ [(table.occupy index ⟨stream, issued.length⟩).1]) closed := by
  have number : (UInt32.ofNat index).toNat = index := UInt32.toNat_ofNat_of_lt' small
  have within : index < table.slots.length := (List.getElem?_eq_some_iff.mp found).1
  have fresh : (⟨UInt32.ofNat index, slot.generation⟩ : Handle) ∉ issued :=
    sound.not_mem_of_empty (by rw [number]; exact found) rfl empty
  simp only [StreamTable.occupy, found]
  refine ⟨fresh, ?_, ?_, ?_, ?_, sound.distinct⟩
  · intro seat gone
    rw [List.length_append]
    exact Nat.lt_succ_of_lt (sound.past seat gone)
  · intro seat handle given
    rcases Nat.lt_or_ge seat issued.length with earlier | last
    · rw [List.getElem?_append_left earlier] at given
      obtain ⟨own, present, suits⟩ := sound.named seat handle given
      by_cases same : index = handle.index.toNat
      · subst same
        cases Option.some.inj (found.symm.trans present)
        exact ⟨_, List.getElem?_set_self within, suits.occupy empty _⟩
      · exact ⟨own, by rw [List.getElem?_set_ne same]; exact present, suits⟩
    · obtain ⟨rfl, rfl⟩ : seat = issued.length ∧
          handle = ⟨UInt32.ofNat index, slot.generation⟩ := by
        rw [List.getElem?_append_right last, List.getElem?_singleton] at given
        split at given
        · exact ⟨by omega, (Option.some.inj given).symm⟩
        · cases given
      have kept : issued.length ∉ closed := fun gone => Nat.lt_irrefl _ (sound.past _ gone)
      refine ⟨_, by rw [number]; exact List.getElem?_set_self within, ?_⟩
      rw [Slot.Suits, if_neg kept]
      exact ⟨rfl, rfl⟩
  · intro changed member
    rw [List.length_append]
    rcases List.mem_or_eq_of_mem_set member with old | rfl
    · exact Nat.le_succ_of_le (sound.counted changed old)
    · have before := sound.counted slot (List.mem_of_getElem? found)
      rw [empty] at before
      exact Nat.succ_le_succ before
  · intro other vacant
    obtain ⟨free, present, none⟩ := sound.free other vacant
    have differs : index ≠ other := fun same => taken (same ▸ vacant)
    exact ⟨free, by rw [List.getElem?_set_ne differs]; exact present, none⟩

/-- Entering gives out a new handle, be it for a vacant slot or for one that is added. -/
theorem enter (sound : table.Sound issued closed) (compact : table.slots.length ≤ issued.length)
    (few : issued.length < handleLimit) (stream : UInt32) :
    (table.enter stream issued.length).1 ∉ issued ∧
      (table.enter stream issued.length).2.Sound
        (issued ++ [(table.enter stream issued.length).1]) closed ∧
      (table.enter stream issued.length).2.slots.length ≤ issued.length + 1 := by
  obtain ⟨slots, vacant, streams⟩ := table
  cases vacant with
  | cons index rest =>
      obtain ⟨taken, distinct⟩ := List.nodup_cons.mp sound.distinct
      obtain ⟨slot, found, empty⟩ := sound.free index List.mem_cons_self
      have remaining : StreamTable.Sound ⟨slots, rest, streams⟩ issued closed :=
        { sound with
          free := fun other member => sound.free other (List.mem_cons_of_mem _ member)
          distinct := distinct }
      have small := Nat.lt_of_lt_of_le (List.getElem?_eq_some_iff.mp found).1 compact
      obtain ⟨fresh, occupied⟩ :=
        remaining.occupy found empty taken (Nat.lt_trans small few) stream
      refine ⟨fresh, occupied, ?_⟩
      change (slots.set index _).length ≤ _
      rw [List.length_set]
      exact Nat.le_succ_of_le compact
  | nil =>
      have grown : StreamTable.Sound ⟨slots ++ [⟨0, none⟩], [], streams⟩ issued closed := by
        refine { sound with named := ?_, counted := ?_, free := nofun }
        · intro seat handle given
          obtain ⟨slot, found, fits⟩ := sound.named seat handle given
          have within := (List.getElem?_eq_some_iff.mp found).1
          exact ⟨slot, by rw [List.getElem?_append_left within]; exact found, fits⟩
        · intro slot member
          rcases List.mem_append.mp member with old | new
          · exact sound.counted slot old
          · cases List.mem_singleton.mp new
            exact Nat.zero_le _
      have found : (slots ++ [(⟨0, none⟩ : Slot Nat)])[slots.length]? = some ⟨0, none⟩ :=
        List.getElem?_concat_length
      obtain ⟨fresh, occupied⟩ :=
        grown.occupy found rfl nofun (Nat.lt_of_le_of_lt compact few) stream
      refine ⟨fresh, occupied, ?_⟩
      change ((slots ++ [(⟨0, none⟩ : Slot Nat)]).set slots.length _).length ≤ _
      rw [List.length_set, List.length_append]
      exact Nat.succ_le_succ compact

/-- Emptying a slot. Its next generation is within the word as long as not too many handles were
given out. -/
theorem vacate (sound : table.Sound issued closed) (few : issued.length < handleLimit)
    {slot : Slot Nat} {occupant : Occupant Nat}
    (given : issued[occupant.value]? = some handle)
    (found : table.slots[handle.index.toNat]? = some slot)
    (present : slot.occupant = some occupant) (streams : List (UInt32 × Handle)) :
    Sound ⟨table.slots.set handle.index.toNat ⟨slot.generation + 1, none⟩,
      handle.index.toNat :: table.vacant, streams⟩ issued (closed ++ [occupant.value]) := by
  have within := (List.getElem?_eq_some_iff.mp found).1
  have bounded := sound.counted slot (List.mem_of_getElem? found)
  rw [present] at bounded
  simp only [Option.isSome_some, if_true] at bounded
  unfold handleLimit at few
  have later : (slot.generation + 1).toNat = slot.generation.toNat + 1 := by
    rw [UInt32.toNat_add]
    exact Nat.mod_eq_of_lt (Nat.lt_of_le_of_lt bounded few)
  have occupied : handle.index.toNat ∉ table.vacant := by
    intro member
    obtain ⟨free, held, none⟩ := sound.free _ member
    cases Option.some.inj (found.symm.trans held)
    cases present.symm.trans none
  refine ⟨?_, ?_, ?_, ?_, List.nodup_cons.mpr ⟨occupied, sound.distinct⟩⟩
  · intro other gone
    rcases List.mem_append.mp gone with gone | last
    · exact sound.past other gone
    · cases List.mem_singleton.mp last
      exact (List.getElem?_eq_some_iff.mp given).1
  · intro other name listed
    obtain ⟨own, held, suits⟩ := sound.named other name listed
    by_cases same : handle.index.toNat = name.index.toNat
    · rw [← same, found] at held
      cases held
      refine ⟨_, by rw [← same]; exact List.getElem?_set_self within, ?_⟩
      exact suits.vacate present later
    · have differs : other ≠ occupant.value := by
        rintro rfl
        cases Option.some.inj (given.symm.trans listed)
        exact same rfl
      refine ⟨own, by rw [List.getElem?_set_ne same]; exact held, ?_⟩
      simpa [Slot.Suits, differs] using suits
  · intro changed member
    rcases List.mem_or_eq_of_mem_set member with old | rfl
    · exact sound.counted changed old
    · rw [later]
      exact bounded
  · intro index member
    rcases List.mem_cons.mp member with rfl | member
    · exact ⟨_, List.getElem?_set_self within, rfl⟩
    · obtain ⟨free, held, none⟩ := sound.free index member
      have differs : handle.index.toNat ≠ index := fun same => occupied (same ▸ member)
      exact ⟨free, by rw [List.getElem?_set_ne differs]; exact held, none⟩

/-- A handle that was not closed can be closed, and its seat counts as closed from then on. -/
theorem remove (sound : table.Sound issued closed) (few : issued.length < handleLimit)
    (given : issued[seat]? = some handle) (kept : seat ∉ closed) :
    ∃ next, table.remove handle = .ok (seat, next) ∧ next.Sound issued (closed ++ [seat]) ∧
      next.slots.length = table.slots.length := by
  obtain ⟨slot, occupant, found, generation, present, rfl, named⟩ :=
    sound.slot?_of_open given kept
  refine ⟨_, ?_, sound.vacate few given found present
    (table.streams.filter fun entry => entry.1 != occupant.stream), List.length_set⟩
  simp [StreamTable.remove, named, present, generation]

end Sound

end StreamTable

end PcmPlayback
