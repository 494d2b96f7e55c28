import PcmPlayback.Capabilities

/-!
# Overrides

A device has ten single limits, the two ends of each of its bounds among them. After any number of
overrides each limit is what the last override that states it says, whatever became of the others.
Which overrides can be left out, repeated or exchanged follows from this law alone.
-/

set_option autoImplicit false

namespace PcmPlayback

attribute [ext] Bounds Capabilities

inductive Quantity where
  | rates
  | channels
  | periodBytes
  | periodCount
  deriving Repr, DecidableEq

/-- A limit that can be overridden on its own. -/
inductive Limit where
  | formats
  | bufferBytesMax
  | low (quantity : Quantity)
  | high (quantity : Quantity)
  deriving Repr, DecidableEq

def Limit.Value : Limit → Type
  | .formats => FormatSet
  | .bufferBytesMax | .low _ | .high _ => Nat

namespace Override

def bounds (override : Override) : Quantity → Bounds
  | .rates => override.rates
  | .channels => override.channels
  | .periodBytes => override.periodBytes
  | .periodCount => override.periodCount

def nonzero? (number : Nat) : Option Nat := if number = 0 then none else some number

/-- What an override says of a limit, unless it leaves the limit alone. -/
def stated? (override : Override) : (limit : Limit) → Option limit.Value
  | .formats => if override.formats.isEmpty then none else some override.formats
  | .bufferBytesMax => nonzero? override.bufferBytesMax
  | .low quantity => nonzero? (override.bounds quantity).low
  | .high quantity => nonzero? (override.bounds quantity).high

/-- What the last override that states a limit says of it. -/
def lastStated? (overrides : List Override) (limit : Limit) : Option limit.Value :=
  overrides.reverse.findSome? (·.stated? limit)

/-- No limit is stated by both of two overrides. -/
def Apart (first second : Override) : Prop :=
  ∀ limit, first.stated? limit = none ∨ second.stated? limit = none

theorem getD_nonzero? (number present : Nat) :
    (nonzero? number).getD present = if number = 0 then present else number := by
  unfold nonzero?
  split <;> rfl

theorem stated?_blank (limit : Limit) : ({} : Override).stated? limit = none := by
  cases limit with
  | formats | bufferBytesMax => rfl
  | low quantity | high quantity => cases quantity <;> rfl

theorem lastStated?_cons (override : Override) (later : List Override) (limit : Limit) :
    lastStated? (override :: later) limit =
      (lastStated? later limit).or (override.stated? limit) := by
  simp only [lastStated?, List.reverse_cons, List.findSome?_append, List.findSome?_cons,
    List.findSome?_nil]
  cases override.stated? limit <;> rfl

theorem lastStated?_append (first second : List Override) (limit : Limit) :
    lastStated? (first ++ second) limit =
      (lastStated? second limit).or (lastStated? first limit) := by
  simp only [lastStated?, List.reverse_append, List.findSome?_append]

end Override

namespace Capabilities

open Override (lastStated? lastStated?_cons lastStated?_append)

def bounds (limits : Capabilities) : Quantity → Bounds
  | .rates => limits.rates
  | .channels => limits.channels
  | .periodBytes => limits.periodBytes
  | .periodCount => limits.periodCount

def value (limits : Capabilities) : (limit : Limit) → limit.Value
  | .formats => limits.formats
  | .bufferBytesMax => limits.bufferBytesMax
  | .low quantity => (limits.bounds quantity).low
  | .high quantity => (limits.bounds quantity).high

def applyAll (base : Capabilities) (overrides : List Override) : Capabilities :=
  overrides.foldl apply base

/-- There is nothing to a device but its limits. -/
theorem eq_of_value {first second : Capabilities}
    (same : ∀ limit, first.value limit = second.value limit) : first = second := by
  have ends (quantity : Quantity) : first.bounds quantity = second.bounds quantity :=
    Bounds.ext (same (.low quantity)) (same (.high quantity))
  exact Capabilities.ext (same .formats) (ends .rates) (ends .channels) (same .bufferBytesMax)
    (ends .periodBytes) (ends .periodCount)

theorem bounds_apply (base : Capabilities) (override : Override) (quantity : Quantity) :
    (base.apply override).bounds quantity =
      (base.bounds quantity).overlay (override.bounds quantity) := by
  cases quantity <;> rfl

theorem value_apply (base : Capabilities) (override : Override) (limit : Limit) :
    (base.apply override).value limit = (override.stated? limit).getD (base.value limit) := by
  cases limit with
  | formats =>
      simp only [value, apply, Override.stated?]
      split <;> rfl
  | bufferBytesMax => exact (Override.getD_nonzero? _ _).symm
  | low quantity =>
      rw [value, bounds_apply]
      exact (Override.getD_nonzero? _ _).symm
  | high quantity =>
      rw [value, bounds_apply]
      exact (Override.getD_nonzero? _ _).symm

theorem value_applyAll (base : Capabilities) (overrides : List Override) (limit : Limit) :
    (base.applyAll overrides).value limit =
      (lastStated? overrides limit).getD (base.value limit) := by
  induction overrides generalizing base with
  | nil => rfl
  | cons override later ih =>
      change ((base.apply override).applyAll later).value limit = _
      rw [ih, value_apply, lastStated?_cons, Option.getD_or]

/-- Only what is stated last makes a difference. -/
theorem applyAll_congr (base : Capabilities) {first second : List Override}
    (same : ∀ limit, lastStated? first limit = lastStated? second limit) :
    base.applyAll first = base.applyAll second := by
  apply eq_of_value
  intro limit
  rw [value_applyAll, value_applyAll, same]

/-- The last override that states a limit wins, for each limit on its own and after any overrides. An
override that states nothing can be left out wherever it stands, one that follows itself need not be
repeated, and two neighbours that state no limit in common can change places. -/
theorem last_override_wins (base : Capabilities) :
    (∀ overrides limit, (base.applyAll overrides).value limit =
      (lastStated? overrides limit).getD (base.value limit)) ∧
    (∀ before after,
      base.applyAll (before ++ ({} : Override) :: after) = base.applyAll (before ++ after)) ∧
    (∀ before override after,
      base.applyAll (before ++ override :: override :: after) =
        base.applyAll (before ++ override :: after)) ∧
    ∀ before first second after, Override.Apart first second →
      base.applyAll (before ++ first :: second :: after) =
        base.applyAll (before ++ second :: first :: after) := by
  refine ⟨base.value_applyAll, ?_, ?_, ?_⟩
  · intro before after
    apply base.applyAll_congr
    intro limit
    simp only [lastStated?_append, lastStated?_cons, Override.stated?_blank, Option.or_none]
  · intro before override after
    apply base.applyAll_congr
    intro limit
    simp only [lastStated?_append, lastStated?_cons, Option.or_assoc, Option.or_self]
  · intro before first second after apart
    apply base.applyAll_congr
    intro limit
    simp only [lastStated?_append, lastStated?_cons]
    rcases apart limit with silent | silent
    · rw [silent, Option.or_none, Option.or_none]
    · rw [silent, Option.or_none, Option.or_none]

/-- Two overrides that state different ends of the same bounds change places, between one that states
both ends before and one that states an end again. -/
theorem last_override_wins_split :
    ∃ board first second last : Override, first.Apart second ∧
      standard.applyAll [board, first, second, last] =
        standard.applyAll [board, second, first, last] ∧
      (standard.applyAll [board, first, second, last]).rates = ⟨4000, 44100⟩ ∧
      (standard.applyAll [board, first, second, last]).bufferBytesMax = 1024 := by
  let board : Override := { formats := .ofList [.u8], rates := ⟨8000, 8000⟩, channels := ⟨2, 2⟩ }
  let first : Override := { rates := ⟨0, 96000⟩ }
  let second : Override := { rates := ⟨4000, 0⟩, bufferBytesMax := 1024 }
  let last : Override := { rates := ⟨0, 44100⟩ }
  have apart : first.Apart second := by
    intro limit
    cases limit with
    | formats | bufferBytesMax => exact .inl rfl
    | low quantity => cases quantity <;> exact .inl rfl
    | high quantity => cases quantity <;> exact .inr rfl
  obtain ⟨wins, _, _, exchange⟩ := last_override_wins standard
  have states := wins [board, first, second, last]
  refine ⟨board, first, second, last, apart, exchange [board] first second [last] apart, ?_,
    states .bufferBytesMax⟩
  exact Bounds.ext (states (.low .rates)) (states (.high .rates))

end Capabilities

end PcmPlayback
