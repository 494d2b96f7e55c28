import PcmPlayback.Error

/-!
# Stream tables

A table holds one value for each open stream and names it by a handle. Slots are used again, the
one vacated last first, and a slot passes to its next generation when it is vacated, so that the
handles given out before no longer fit.
-/

set_option autoImplicit false

namespace PcmPlayback

/-- A stream and the value kept for it. -/
structure Occupant (α : Type) where
  stream : UInt32
  value : α
  deriving Repr, DecidableEq

structure Slot (α : Type) where
  generation : UInt32
  occupant : Option (Occupant α)
  deriving Repr, DecidableEq

/-- The slots, the indices of the vacant ones with the last vacated in front, and the handle of
every open stream. -/
structure StreamTable (α : Type) where
  slots : List (Slot α) := []
  vacant : List Nat := []
  streams : List (UInt32 × Handle) := []
  deriving Repr, DecidableEq

namespace StreamTable

variable {α : Type}

def lookup (table : StreamTable α) (stream : UInt32) : Option Handle :=
  table.streams.lookup stream

def size (table : StreamTable α) : Nat := table.streams.length

/-- The slot that a handle names, if it is still of that generation. -/
def slot? (table : StreamTable α) (handle : Handle) : Option (Slot α) :=
  table.slots[handle.index.toNat]?.filter fun slot => slot.generation == handle.generation

def find? (table : StreamTable α) (handle : Handle) : Option α :=
  (table.slot? handle).bind fun slot => slot.occupant.map Occupant.value

/-- Puts a value into the slot at an index, which keeps its generation. -/
def occupy (table : StreamTable α) (index : Nat) (occupant : Occupant α) :
    Handle × StreamTable α :=
  let generation := match table.slots[index]? with
    | some slot => slot.generation
    | none => 0
  let handle : Handle := ⟨UInt32.ofNat index, generation⟩
  (handle,
    { table with
      slots := table.slots.set index ⟨generation, some occupant⟩
      streams := (occupant.stream, handle) :: table.streams })

/-- Enters a value for a stream, in the slot vacated last or else in a new one. -/
def enter (table : StreamTable α) (stream : UInt32) (value : α) : Handle × StreamTable α :=
  match table.vacant with
  | index :: rest =>
      let taken : StreamTable α := { table with vacant := rest }
      taken.occupy index ⟨stream, value⟩
  | [] =>
      let grown : StreamTable α := { table with slots := table.slots ++ [⟨0, none⟩] }
      grown.occupy table.slots.length ⟨stream, value⟩

/-- Removes the value that a handle names. A handle that names nothing is refused. -/
def remove (table : StreamTable α) (handle : Handle) : Except Error (α × StreamTable α) :=
  match (table.slot? handle).bind Slot.occupant with
  | none => .error (.unknownHandle handle)
  | some occupant =>
      .ok (occupant.value,
        { slots := table.slots.set handle.index.toNat ⟨handle.generation + 1, none⟩
          vacant := handle.index.toNat :: table.vacant
          streams := table.streams.filter fun entry => entry.1 != occupant.stream })

def values (table : StreamTable α) : List α :=
  table.slots.filterMap fun slot => slot.occupant.map Occupant.value

end StreamTable

end PcmPlayback
