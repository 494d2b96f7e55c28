import PcmPlayback.Proofs.Handles

/-!
# Tenancy

How the parts of a stream table fit together. Every open stream leads to the handle of the slot it
occupies, and every vacant slot is listed once as vacant. No slot is added while one is vacant, so
there are never more slots than streams were open at once.
-/

set_option autoImplicit false

namespace PcmPlayback

theorem Handle.eq_of_toNat {first second : Handle} (index : first.index.toNat = second.index.toNat)
    (generation : first.generation = second.generation) : first = second := by
  cases first
  cases second
  rw [Handle.mk.injEq]
  exact ⟨UInt32.toNat_inj.mp index, generation⟩

namespace StreamTable

theorem lookup_cons_ne {streams : List (UInt32 × Handle)} {own stream : UInt32} {handle : Handle}
    (asked : stream ≠ own) : ((own, handle) :: streams).lookup stream = streams.lookup stream := by
  rw [List.lookup_cons, beq_eq_false_iff_ne.mpr asked]

theorem lookup_filter (streams : List (UInt32 × Handle)) (gone stream : UInt32) :
    (streams.filter fun entry => entry.1 != gone).lookup stream =
      if stream = gone then none else streams.lookup stream := by
  induction streams with
  | nil => simp
  | cons entry rest ih =>
      obtain ⟨own, handle⟩ := entry
      by_cases leaves : own = gone
      · rw [List.filter_cons_of_neg (by simp [leaves]), ih]
        split
        · rfl
        · next asked => rw [lookup_cons_ne (leaves ▸ asked)]
      · rw [List.filter_cons_of_pos (by simp [leaves])]
        by_cases asked : stream = own
        · rw [asked, List.lookup_cons_self, List.lookup_cons_self, if_neg leaves]
        · rw [lookup_cons_ne asked, lookup_cons_ne asked, ih]

theorem isSome_lookup_iff {streams : List (UInt32 × Handle)} {stream : UInt32} :
    (streams.lookup stream).isSome ↔ stream ∈ streams.map Prod.fst := by
  induction streams with
  | nil => simp
  | cons entry rest ih =>
      by_cases asked : stream = entry.1
      · simp [asked]
      · rw [lookup_cons_ne asked, ih, List.map_cons, List.mem_cons]
        exact ⟨.inr, fun choice => choice.resolve_left asked⟩

/-- A stream that is listed once is struck off with one entry. -/
theorem length_filter {streams : List (UInt32 × Handle)} {gone : UInt32}
    (once : (streams.map Prod.fst).Nodup) (listed : gone ∈ streams.map Prod.fst) :
    (streams.filter fun entry => entry.1 != gone).length + 1 = streams.length := by
  induction streams with
  | nil => cases listed
  | cons entry rest ih =>
      obtain ⟨unlisted, others⟩ := List.nodup_cons.mp once
      rcases List.mem_cons.mp listed with rfl | later
      · have stay : ∀ other ∈ rest, (other.1 != entry.1) = true := by
          intro other member
          rw [bne_iff_ne]
          rintro same
          exact unlisted (same ▸ List.mem_map_of_mem member)
        simp [List.filter_eq_self.mpr stay]
      · have differs : entry.1 ≠ gone := by
          rintro rfl
          exact unlisted later
        simp [differs, ih others later]

section

variable {α : Type}

/-- Who has the slot at an index, and the generation of the slot. A vacant slot has nobody. -/
def tenant? (table : StreamTable α) (index : Nat) : Option (UInt32 × Occupant α) :=
  table.slots[index]?.bind fun slot => slot.occupant.map fun occupant => (slot.generation, occupant)

/-- The parts of a table fit together: open streams and occupied slots correspond, vacant slots are
listed once each, and there is no other slot. -/
structure Coherent (table : StreamTable α) : Prop where
  lookup_iff : ∀ stream handle, table.lookup stream = some handle ↔
    ∃ value, table.tenant? handle.index.toNat = some (handle.generation, ⟨stream, value⟩)
  once : (table.streams.map Prod.fst).Nodup
  vacant_iff : ∀ index, index ∈ table.vacant ↔
    index < table.slots.length ∧ table.tenant? index = none
  distinct : table.vacant.Nodup
  full : table.size + table.vacant.length = table.slots.length

/-- The table as it is about to take an entry. A slot is added if there is no vacant one. -/
def withVacancy (table : StreamTable α) : StreamTable α :=
  match table.vacant with
  | [] =>
      { table with slots := table.slots ++ [⟨0, none⟩], vacant := [table.slots.length] }
  | _ :: _ => table

theorem tenant?_withVacancy (table : StreamTable α) (index : Nat) :
    table.withVacancy.tenant? index = table.tenant? index := by
  obtain ⟨slots, vacant, streams⟩ := table
  cases vacant with
  | cons => rfl
  | nil =>
      simp only [withVacancy, tenant?]
      rcases Nat.lt_trichotomy index slots.length with inside | rfl | beyond
      · rw [List.getElem?_append_left inside]
      · simp
      · rw [List.getElem?_eq_none (by simp; omega), List.getElem?_eq_none (by omega)]

theorem streams_withVacancy (table : StreamTable α) :
    table.withVacancy.streams = table.streams := by
  obtain ⟨slots, vacant, streams⟩ := table
  cases vacant <;> rfl

/-- What entering does to a table with a vacant slot: the one vacated last takes the entry, and the
handle names it. -/
structure Enters (table next : StreamTable α) (handle : Handle) (occupant : Occupant α) : Prop where
  vacant : table.vacant = handle.index.toNat :: next.vacant
  slots : next.slots.length = table.slots.length
  streams : next.streams = (occupant.stream, handle) :: table.streams
  tenants : ∀ index, next.tenant? index =
    if index = handle.index.toNat then some (handle.generation, occupant) else table.tenant? index

/-- What removing does to a table: the slot that the handle names is vacant again, and its stream is
no longer listed. -/
structure Leaves (table next : StreamTable α) (handle : Handle) (occupant : Occupant α) : Prop where
  tenant : table.tenant? handle.index.toNat = some (handle.generation, occupant)
  vacant : next.vacant = handle.index.toNat :: table.vacant
  slots : next.slots.length = table.slots.length
  streams : next.streams = table.streams.filter fun entry => entry.1 != occupant.stream
  tenants : ∀ index, next.tenant? index =
    if index = handle.index.toNat then none else table.tenant? index

theorem lt_of_tenant? {table : StreamTable α} {index : Nat} {tenant : UInt32 × Occupant α}
    (present : table.tenant? index = some tenant) : index < table.slots.length := by
  obtain ⟨slot, found, _⟩ := Option.bind_eq_some_iff.mp present
  exact (List.getElem?_eq_some_iff.mp found).1

theorem tenant?_set (table : StreamTable α) {index : Nat} (within : index < table.slots.length)
    (slot : Slot α) (other : Nat) :
    tenant? { table with slots := table.slots.set index slot } other =
      if other = index then slot.occupant.map fun occupant => (slot.generation, occupant)
      else table.tenant? other := by
  simp only [tenant?]
  by_cases same : other = index
  · rw [if_pos same, same, List.getElem?_set_self within]
    rfl
  · rw [if_neg same, List.getElem?_set_ne fun here => same here.symm]

theorem occupy_enters (table : StreamTable α) {index : Nat} {rest : List Nat}
    (first : table.vacant = index :: rest) (within : index < table.slots.length)
    (small : index < handleLimit) (occupant : Occupant α) :
    table.Enters (({ table with vacant := rest } : StreamTable α).occupy index occupant).2
      (({ table with vacant := rest } : StreamTable α).occupy index occupant).1 occupant := by
  have number : (UInt32.ofNat index).toNat = index := UInt32.toNat_ofNat_of_lt' small
  refine ⟨?_, List.length_set, rfl, ?_⟩
  · rw [first]
    exact congrArg (· :: rest) number.symm
  · intro other
    simp only [StreamTable.occupy, number]
    exact table.tenant?_set within _ other

theorem slot?_eq_some_iff {table : StreamTable α} {handle : Handle} {slot : Slot α} :
    table.slot? handle = some slot ↔
      table.slots[handle.index.toNat]? = some slot ∧ slot.generation = handle.generation := by
  rw [slot?, Option.filter_eq_some_iff, beq_iff_eq]

theorem remove_leaves {table next : StreamTable α} {handle : Handle} {value : α}
    (removed : table.remove handle = .ok (value, next)) :
    ∃ stream, table.Leaves next handle ⟨stream, value⟩ := by
  unfold remove at removed
  cases named : (table.slot? handle).bind Slot.occupant with
  | none => simp [named] at removed
  | some occupant =>
      obtain ⟨slot, placed, present⟩ := Option.bind_eq_some_iff.mp named
      obtain ⟨found, generation⟩ := slot?_eq_some_iff.mp placed
      have within := (List.getElem?_eq_some_iff.mp found).1
      simp only [named, Except.ok.injEq, Prod.mk.injEq] at removed
      obtain ⟨rfl, rfl⟩ := removed
      refine ⟨occupant.stream, ?_, rfl, List.length_set, rfl, table.tenant?_set within _⟩
      simp [tenant?, found, present, generation]

namespace Coherent

variable {table next : StreamTable α} {handle : Handle} {occupant : Occupant α}

theorem initial : Coherent ({} : StreamTable α) where
  lookup_iff := by simp [lookup, tenant?]
  once := .nil
  vacant_iff := by simp
  distinct := .nil
  full := rfl

theorem withVacancy (coherent : table.Coherent) : table.withVacancy.Coherent := by
  have tenants := table.tenant?_withVacancy
  obtain ⟨slots, vacant, streams⟩ := table
  cases vacant with
  | cons => exact coherent
  | nil =>
      obtain ⟨lookup_iff, once, vacant_iff, _, full⟩ := coherent
      refine ⟨?_, once, ?_, by simp [StreamTable.withVacancy], ?_⟩
      · intro stream handle
        rw [tenants]
        exact lookup_iff stream handle
      · intro index
        have occupied := vacant_iff index
        rw [tenants]
        simp only [StreamTable.withVacancy, List.mem_singleton, List.length_append,
          List.length_singleton]
        simp only [List.not_mem_nil, false_iff, not_and] at occupied
        constructor
        · rintro rfl
          exact ⟨Nat.lt_succ_self _, by simp [tenant?]⟩
        · rintro ⟨inside, vacant⟩
          exact Nat.le_antisymm (Nat.le_of_lt_succ inside)
            (Nat.le_of_not_lt fun before => occupied before vacant)
      · simp only [StreamTable.withVacancy, size, List.length_append, List.length_singleton,
          List.length_nil] at full ⊢
        omega

/-- Entering adds a slot exactly if as many streams are open as there are slots. -/
theorem slots_withVacancy (coherent : table.Coherent) :
    table.withVacancy.slots.length = max table.slots.length (table.size + 1) := by
  have full := coherent.full
  obtain ⟨slots, vacant, streams⟩ := table
  cases vacant with
  | nil =>
      simp only [StreamTable.withVacancy, List.length_append, List.length_singleton,
        List.length_nil] at full ⊢
      omega
  | cons index rest =>
      simp only [StreamTable.withVacancy, List.length_cons] at full ⊢
      omega

theorem enter_enters (coherent : table.Coherent) (small : table.slots.length < handleLimit)
    (stream : UInt32) (value : α) :
    table.withVacancy.Enters (table.enter stream value).2 (table.enter stream value).1
      ⟨stream, value⟩ := by
  obtain ⟨slots, vacant, streams⟩ := table
  cases vacant with
  | nil =>
      have within : slots.length < (slots ++ [(⟨0, none⟩ : Slot α)]).length := by simp
      exact occupy_enters ⟨slots ++ [⟨0, none⟩], [slots.length], streams⟩ rfl within small
        ⟨stream, value⟩
  | cons index rest =>
      obtain ⟨within, _⟩ := (coherent.vacant_iff index).mp List.mem_cons_self
      exact occupy_enters ⟨slots, index :: rest, streams⟩ rfl within
        (Nat.lt_trans within small) ⟨stream, value⟩

theorem enters (coherent : table.Coherent) (enters : table.Enters next handle occupant)
    (free : table.lookup occupant.stream = none) : next.Coherent := by
  obtain ⟨lookup_iff, once, vacant_iff, distinct, full⟩ := coherent
  obtain ⟨vacant, slots, streams, tenants⟩ := enters
  rw [vacant] at vacant_iff distinct full
  obtain ⟨unlisted, others⟩ := List.nodup_cons.mp distinct
  obtain ⟨within, vacated⟩ := (vacant_iff handle.index.toNat).mp List.mem_cons_self
  have new : occupant.stream ∉ table.streams.map Prod.fst := by
    rw [← isSome_lookup_iff]
    change ¬ (table.lookup occupant.stream).isSome = true
    rw [free]
    exact Bool.false_ne_true
  refine ⟨?_, ?_, ?_, others, ?_⟩
  · intro stream other
    rw [lookup, streams, tenants]
    by_cases same : other.index.toNat = handle.index.toNat
    · rw [if_pos same]
      by_cases own : stream = occupant.stream
      · subst own
        rw [List.lookup_cons_self, Option.some_inj]
        constructor
        · rintro rfl
          exact ⟨occupant.value, rfl⟩
        · rintro ⟨value, named⟩
          obtain ⟨generation, _⟩ := Prod.mk.inj (Option.some.inj named)
          exact Handle.eq_of_toNat same.symm generation
      · rw [lookup_cons_ne own]
        constructor
        · intro found
          obtain ⟨value, named⟩ := (lookup_iff stream other).mp found
          rw [same, vacated] at named
          cases named
        · rintro ⟨value, named⟩
          obtain ⟨_, occupied⟩ := Prod.mk.inj (Option.some.inj named)
          exact absurd (congrArg Occupant.stream occupied).symm own
    · rw [if_neg same]
      by_cases own : stream = occupant.stream
      · subst own
        rw [List.lookup_cons_self, Option.some_inj]
        constructor
        · rintro rfl
          exact absurd rfl same
        · intro named
          cases free.symm.trans ((lookup_iff occupant.stream other).mpr named)
      · rw [lookup_cons_ne own]
        exact lookup_iff stream other
  · rw [streams]
    exact List.nodup_cons.mpr ⟨new, once⟩
  · intro index
    have listed := vacant_iff index
    rw [List.mem_cons] at listed
    rw [slots, tenants]
    by_cases same : index = handle.index.toNat
    · subst same
      simp [unlisted]
    · rw [if_neg same, ← listed]
      exact ⟨.inr, fun choice => choice.resolve_left same⟩
  · rw [size, streams, slots, ← full, size, List.length_cons, List.length_cons]
    omega

theorem leaves (coherent : table.Coherent) (leaves : table.Leaves next handle occupant) :
    next.Coherent := by
  obtain ⟨lookup_iff, once, vacant_iff, distinct, full⟩ := coherent
  obtain ⟨tenant, vacant, slots, streams, tenants⟩ := leaves
  have found := (lookup_iff occupant.stream handle).mpr ⟨occupant.value, tenant⟩
  refine ⟨?_, ?_, ?_, ?_, ?_⟩
  · intro stream other
    rw [lookup, streams, lookup_filter, tenants]
    by_cases same : other.index.toNat = handle.index.toNat
    · rw [if_pos same]
      by_cases own : stream = occupant.stream
      · simp [own]
      · rw [if_neg own]
        refine ⟨fun listed => ?_, fun ⟨_, named⟩ => nomatch named⟩
        obtain ⟨value, named⟩ := (lookup_iff stream other).mp listed
        rw [same, tenant] at named
        obtain ⟨_, occupied⟩ := Prod.mk.inj (Option.some.inj named)
        exact absurd (congrArg Occupant.stream occupied).symm own
    · rw [if_neg same]
      by_cases own : stream = occupant.stream
      · rw [if_pos own]
        refine ⟨nofun, fun named => ?_⟩
        have listed := (lookup_iff stream other).mpr named
        rw [own, found] at listed
        cases listed
        exact absurd rfl same
      · rw [if_neg own]
        exact lookup_iff stream other
  · rw [streams]
    exact once.sublist (List.filter_sublist.map Prod.fst)
  · intro index
    rw [vacant, slots, tenants, List.mem_cons, vacant_iff]
    by_cases same : index = handle.index.toNat
    · subst same
      simp [lt_of_tenant? tenant]
    · simp [same]
  · rw [vacant, List.nodup_cons, vacant_iff, tenant]
    exact ⟨nofun, distinct⟩
  · have struck := length_filter once (isSome_lookup_iff.mp (Option.isSome_of_eq_some found))
    rw [size, streams, vacant, slots, ← full, size, List.length_cons]
    omega

end Coherent

end

/-- What a table has to do with the history of its rack: the handles given out and the streams they
were given out for, in the order in which they were, and the places of those that were closed. -/
structure Registers (table : StreamTable Nat) (issued : List Handle) (streams : List UInt32)
    (closed : List Nat) : Prop where
  coherent : table.Coherent
  paired : streams.length = issued.length
  tenants : ∀ (handle : Handle) (occupant : Occupant Nat),
    table.tenant? handle.index.toNat = some (handle.generation, occupant) →
      issued[occupant.value]? = some handle ∧ streams[occupant.value]? = some occupant.stream ∧
        occupant.value ∉ closed
  balance : table.size + closed.length = issued.length

namespace Registers

variable {table next : StreamTable Nat} {issued : List Handle} {streams : List UInt32}
  {closed : List Nat} {handle : Handle}

theorem initial : Registers {} [] [] [] where
  coherent := .initial
  paired := rfl
  tenants := by simp [tenant?]
  balance := rfl

/-- An entry takes the next place in the history. -/
theorem enter (registers : table.Registers issued streams closed)
    (past : ∀ seat ∈ closed, seat < issued.length) (compact : table.slots.length ≤ issued.length)
    (few : issued.length < handleLimit) {stream : UInt32} (free : table.lookup stream = none) :
    (table.enter stream issued.length).2.Registers
        (issued ++ [(table.enter stream issued.length).1]) (streams ++ [stream]) closed ∧
      (table.enter stream issued.length).2.slots.length =
        max table.slots.length (table.size + 1) ∧
      (table.enter stream issued.length).2.size = table.size + 1 := by
  obtain ⟨coherent, paired, tenants, balance⟩ := registers
  have entry := coherent.enter_enters (Nat.lt_of_le_of_lt compact few) stream issued.length
  have unlisted : table.withVacancy.lookup stream = none := by
    rw [lookup, table.streams_withVacancy]
    exact free
  generalize table.enter stream issued.length = entered at entry ⊢
  obtain ⟨handle, next⟩ := entered
  have size : next.size = table.size + 1 := by
    rw [StreamTable.size, entry.streams, table.streams_withVacancy]
    rfl
  refine ⟨⟨coherent.withVacancy.enters entry unlisted, by simp [paired], ?_, ?_⟩, ?_, size⟩
  · intro other occupant named
    rw [entry.tenants, table.tenant?_withVacancy] at named
    split at named
    · next same =>
        obtain ⟨generation, rfl⟩ := Prod.mk.inj (Option.some.inj named)
        cases Handle.eq_of_toNat same generation.symm
        refine ⟨List.getElem?_concat_length, ?_, fun gone => Nat.lt_irrefl _ (past _ gone)⟩
        rw [← paired]
        exact List.getElem?_concat_length
    · obtain ⟨given, listed, kept⟩ := tenants other occupant named
      have earlier := (List.getElem?_eq_some_iff.mp given).1
      rw [List.getElem?_append_left earlier, List.getElem?_append_left (paired ▸ earlier)]
      exact ⟨given, listed, kept⟩
  · rw [size, List.length_append, List.length_singleton]
    omega
  · rw [entry.slots, coherent.slots_withVacancy]

/-- A removal closes the place under which its handle was given out. -/
theorem remove (registers : table.Registers issued streams closed) {seat : Nat}
    (removed : table.remove handle = .ok (seat, next)) :
    next.Registers issued streams (closed ++ [seat]) ∧ issued[seat]? = some handle ∧
      next.slots.length = table.slots.length ∧ next.size + 1 = table.size := by
  obtain ⟨coherent, paired, tenants, balance⟩ := registers
  obtain ⟨stream, leaving⟩ := remove_leaves removed
  obtain ⟨given, listed, kept⟩ := tenants handle _ leaving.tenant
  have found := (coherent.lookup_iff stream handle).mpr ⟨seat, leaving.tenant⟩
  have size : next.size + 1 = table.size := by
    rw [StreamTable.size, leaving.streams]
    exact length_filter coherent.once (isSome_lookup_iff.mp (Option.isSome_of_eq_some found))
  refine ⟨⟨coherent.leaves leaving, paired, ?_, ?_⟩, given, leaving.slots, size⟩
  · intro other occupant named
    rw [leaving.tenants] at named
    split at named
    · cases named
    · next differs =>
        obtain ⟨issue, own, unclosed⟩ := tenants other occupant named
        refine ⟨issue, own, fun gone => ?_⟩
        rcases List.mem_append.mp gone with before | now
        · exact unclosed before
        · rw [List.mem_singleton.mp now] at issue
          cases issue.symm.trans given
          exact differs rfl
  · rw [List.length_append, List.length_singleton]
    omega

theorem tenant?_of_open (sound : table.Sound issued closed) {seat : Nat}
    (given : issued[seat]? = some handle) (kept : seat ∉ closed) :
    ∃ stream, table.tenant? handle.index.toNat = some (handle.generation, ⟨stream, seat⟩) := by
  obtain ⟨slot, occupant, found, generation, present, rfl, _⟩ := sound.slot?_of_open given kept
  exact ⟨occupant.stream, by simp [tenant?, found, present, generation]⟩

/-- The open streams are those that were opened and not closed since. -/
theorem lookup_iff (registers : table.Registers issued streams closed)
    (sound : table.Sound issued closed) (stream : UInt32) (handle : Handle) :
    table.lookup stream = some handle ↔
      ∃ seat, streams[seat]? = some stream ∧ issued[seat]? = some handle ∧ seat ∉ closed := by
  rw [registers.coherent.lookup_iff]
  constructor
  · rintro ⟨seat, named⟩
    obtain ⟨given, listed, kept⟩ := registers.tenants handle _ named
    exact ⟨seat, listed, given, kept⟩
  · rintro ⟨seat, listed, given, kept⟩
    obtain ⟨own, named⟩ := tenant?_of_open sound given kept
    obtain ⟨_, named_own, _⟩ := registers.tenants handle _ named
    cases listed.symm.trans named_own
    exact ⟨seat, named⟩

/-- A look-up followed by a visit to the handle finds the place in the history under which the
stream is open. -/
theorem visit_iff (registers : table.Registers issued streams closed)
    (sound : table.Sound issued closed) {stream : UInt32} {seat : Nat} :
    ((table.lookup stream).bind fun handle => (table.find? handle).map fun seat =>
        (seat, handle)) = some (seat, handle) ↔
      streams[seat]? = some stream ∧ issued[seat]? = some handle ∧ seat ∉ closed := by
  rw [Option.bind_eq_some_iff]
  constructor
  · rintro ⟨listed, found, visited⟩
    obtain ⟨place, asked, given, kept⟩ := (registers.lookup_iff sound stream listed).mp found
    rw [sound.find?_of_open given kept] at visited
    cases visited
    exact ⟨asked, given, kept⟩
  · rintro ⟨asked, given, kept⟩
    refine ⟨handle, (registers.lookup_iff sound stream handle).mpr ⟨seat, asked, given, kept⟩, ?_⟩
    rw [sound.find?_of_open given kept]
    rfl

/-- A table keeps the places of those that were not closed. -/
theorem mem_values_iff (registers : table.Registers issued streams closed)
    (sound : table.Sound issued closed) (compact : table.slots.length ≤ issued.length)
    (few : issued.length < handleLimit) (seat : Nat) :
    seat ∈ table.values ↔ seat < issued.length ∧ seat ∉ closed := by
  rw [values, List.mem_filterMap]
  constructor
  · rintro ⟨slot, member, holds⟩
    obtain ⟨occupant, present, rfl⟩ := Option.map_eq_some_iff.mp holds
    obtain ⟨index, found⟩ := List.mem_iff_getElem?.mp member
    have small : index < handleLimit :=
      Nat.lt_of_lt_of_le (List.getElem?_eq_some_iff.mp found).1 (Nat.le_of_lt
        (Nat.lt_of_le_of_lt compact few))
    have number : (UInt32.ofNat index).toNat = index := UInt32.toNat_ofNat_of_lt' small
    obtain ⟨given, _, kept⟩ := registers.tenants ⟨UInt32.ofNat index, slot.generation⟩ occupant
      (by simp [tenant?, number, found, present])
    exact ⟨(List.getElem?_eq_some_iff.mp given).1, kept⟩
  · rintro ⟨inside, kept⟩
    obtain ⟨slot, occupant, found, _, present, rfl, _⟩ :=
      sound.slot?_of_open (List.getElem?_eq_getElem inside) kept
    exact ⟨slot, List.mem_of_getElem? found, by rw [present]; rfl⟩

end Registers

end StreamTable

end PcmPlayback
