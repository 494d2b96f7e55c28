import PcmPlayback.Capabilities
import PcmPlayback.Proofs.Headroom

/-!
# Admission of setups

A setup is admitted if it meets a list of demands, in exact numbers and one after another, and it is
refused for the first one that it does not meet. The check works in words instead: it multiplies and
divides as it goes, and stops at a product that no word can hold. This happens in one case only,
and otherwise the check comes to what the list of demands says. A playhead that is configured asks
for the first four demands once more, whatever the device can do.
-/

set_option autoImplicit false

namespace PcmPlayback

/-- A condition on a setup, and the cause of refusing a setup that does not meet it. -/
structure Demand where
  met : Bool
  cause : Error

namespace Demand

/-- Refuses for the first demand that is not met. -/
def verdict : List Demand → Outcome Unit
  | [] => .done ()
  | demand :: rest => if demand.met then verdict rest else .rejected demand.cause

theorem verdict_eq_done_iff {demands : List Demand} :
    verdict demands = .done () ↔ ∀ demand ∈ demands, demand.met = true := by
  induction demands with
  | nil => simp [verdict]
  | cons demand rest ih =>
      cases met : demand.met with
      | true => simp [verdict, met, ih]
      | false => simp [verdict, met]

/-- The cause of the first demand that is not met: all demands before it are. -/
def FirstUnmet (demands : List Demand) (cause : Error) : Prop :=
  ∃ before demand after, demands = before ++ demand :: after ∧
    (∀ earlier ∈ before, earlier.met = true) ∧ demand.met = false ∧ demand.cause = cause

theorem verdict_eq_rejected_iff {demands : List Demand} {cause : Error} :
    verdict demands = .rejected cause ↔ FirstUnmet demands cause := by
  constructor
  · intro refused
    induction demands with
    | nil => cases refused
    | cons demand rest ih =>
        cases met : demand.met with
        | true =>
            rw [verdict, if_pos met] at refused
            obtain ⟨before, found, after, split, earlier, unmet, same⟩ := ih refused
            refine ⟨demand :: before, found, after, by rw [split]; rfl, ?_, unmet, same⟩
            intro other member
            rcases List.mem_cons.mp member with here | there
            · rw [here, met]
            · exact earlier other there
        | false =>
            rw [verdict, if_neg (by simp [met])] at refused
            cases refused
            exact ⟨[], demand, rest, rfl, nofun, met, rfl⟩
  · rintro ⟨before, demand, after, rfl, earlier, unmet, rfl⟩
    induction before with
    | nil => simp [verdict, unmet]
    | cons first before ih =>
        rw [List.cons_append, verdict, if_pos (earlier first List.mem_cons_self)]
        exact ih fun other member => earlier other (List.mem_cons_of_mem first member)

theorem verdict_ne_fault (demands : List Demand) : verdict demands ≠ .fault := by
  induction demands with
  | nil => exact nofun
  | cons demand rest ih =>
      rw [verdict]
      split
      · exact ih
      · exact nofun

end Demand

def StreamSetup.demands (setup : StreamSetup) : List Demand :=
  [⟨decide (setup.rate.toNat ≠ 0), .zeroRate⟩,
    ⟨decide (setup.bufferFrames.toNat ≠ 0), .zeroBuffer⟩,
    ⟨decide (setup.periodFrames.toNat ≠ 0), .zeroPeriod⟩,
    ⟨decide (setup.periodFrames.toNat ≤ setup.bufferFrames.toNat),
      .periodExceedsBuffer setup.periodFrames.toNat setup.bufferFrames.toNat⟩]

theorem StreamSetup.verdict_demands (setup : StreamSetup) (rest : List Demand) :
    Demand.verdict (setup.demands ++ rest) =
      match setup.defect? with
      | some cause => .rejected cause
      | none => Demand.verdict rest := by
  simp only [demands, defect?, Demand.verdict, List.cons_append, List.nil_append,
    ← UInt32.toNat_inj, ← UInt64.toNat_inj, UInt64.lt_iff_toNat_lt, UInt32.toNat_zero,
    UInt64.toNat_zero, decide_eq_true_iff, ne_eq, ite_not]
  by_cases rate : setup.rate.toNat = 0
  · simp [rate]
  · by_cases buffer : setup.bufferFrames.toNat = 0
    · simp [rate, buffer]
    · by_cases period : setup.periodFrames.toNat = 0
      · simp [rate, buffer, period]
      · by_cases fits : setup.periodFrames.toNat ≤ setup.bufferFrames.toNat
        · simp [rate, buffer, period, fits, Nat.not_lt.mpr fits]
        · simp [rate, buffer, period, fits, Nat.lt_of_not_le fits]

theorem StreamSetup.defect?_eq_some_iff {setup : StreamSetup} {cause : Error} :
    setup.defect? = some cause ↔ Demand.FirstUnmet setup.demands cause := by
  have valid := setup.verdict_demands []
  rw [List.append_nil] at valid
  rw [← Demand.verdict_eq_rejected_iff, valid]
  cases setup.defect? with
  | none => simp [Demand.verdict]
  | some found => simp

/-- On a clock that ticks, a playhead accepts just the setups that have no defect, and refuses any
other for its defect. -/
theorem Playhead.configure_defect (head : Playhead) (setup : StreamSetup) {ticksPerSecond : UInt64}
    (ticks : ticksPerSecond ≠ 0) :
    ((head.configure setup ticksPerSecond).2 = .done () ↔ setup.defect? = none) ∧
      ∀ cause, (head.configure setup ticksPerSecond).2 = .rejected cause ↔
        setup.defect? = some cause := by
  rw [configure_eq]
  cases setup.defect? with
  | some cause => simp
  | none => simp [ticks]

namespace Capabilities

/-- What a setup has to meet beside the demands that hold for every setup. -/
def demands (limits : Capabilities) (setup : StreamSetup) (frameBytes : Nat) : List Demand :=
  let bufferBytes := setup.bufferFrames.toNat * frameBytes
  let periodBytes := setup.periodFrames.toNat * frameBytes
  let periodCount := setup.bufferFrames.toNat / setup.periodFrames.toNat
  [⟨limits.rates.contains setup.rate.toNat, .rateUnsupported setup.rate⟩,
    ⟨decide (bufferBytes ≤ limits.bufferBytesMax),
      .bufferTooLarge bufferBytes limits.bufferBytesMax⟩,
    ⟨limits.periodBytes.contains periodBytes,
      .periodBytesOutside periodBytes limits.periodBytes.low limits.periodBytes.high⟩,
    ⟨limits.periodCount.contains periodCount,
      .periodCountOutside periodCount limits.periodCount.low limits.periodCount.high⟩]

/-- Checks as `check` does, with each product and the quotient put into a word. -/
def checkChecked? (limits : Capabilities) (setup : StreamSetup) (frameBytes : Nat) :
    Option (Outcome Unit) :=
  match setup.defect? with
  | some cause => some (.rejected cause)
  | none =>
      if !limits.rates.contains setup.rate.toNat then
        some (.rejected (.rateUnsupported setup.rate))
      else do
        let bufferBytes ← Checked.mul wordLimit setup.bufferFrames.toNat frameBytes
        if limits.bufferBytesMax < bufferBytes then
          return .rejected (.bufferTooLarge bufferBytes limits.bufferBytesMax)
        let periodBytes ← Checked.mul wordLimit setup.periodFrames.toNat frameBytes
        if !limits.periodBytes.contains periodBytes then
          return .rejected
            (.periodBytesOutside periodBytes limits.periodBytes.low limits.periodBytes.high)
        let count ← Checked.div setup.bufferFrames.toNat setup.periodFrames.toNat
        if !limits.periodCount.contains count then
          return .rejected
            (.periodCountOutside count limits.periodCount.low limits.periodCount.high)
        return .done ()

variable {limits : Capabilities} {setup : StreamSetup} {frameBytes : Nat}

/-- In words that hold the size of the buffer, no later step can leave its word. -/
theorem check_of_fits (accepted : setup.defect? = none)
    (fits : setup.bufferFrames.toNat * frameBytes < wordLimit) :
    limits.check setup frameBytes = Demand.verdict (limits.demands setup frameBytes) ∧
      limits.checkChecked? setup frameBytes =
        some (Demand.verdict (limits.demands setup frameBytes)) := by
  obtain ⟨_, period, within⟩ := StreamSetup.defect?_eq_none_iff.mp accepted
  have shorter : setup.periodFrames.toNat * frameBytes < wordLimit :=
    Nat.lt_of_le_of_lt (Nat.mul_le_mul_right frameBytes within) fits
  simp only [check, checkChecked?, accepted, demands, Demand.verdict, Checked.mul_eq_some fits,
    Checked.mul_eq_some shorter, Checked.div_eq_some period, Option.bind_eq_bind, Option.bind_some,
    if_neg (Nat.not_le.mpr fits)]
  generalize setup.bufferFrames.toNat * frameBytes = bufferBytes
  generalize setup.periodFrames.toNat * frameBytes = periodBytes
  generalize setup.bufferFrames.toNat / setup.periodFrames.toNat = count
  cases limits.rates.contains setup.rate.toNat with
  | false => exact ⟨rfl, rfl⟩
  | true =>
      by_cases small : bufferBytes ≤ limits.bufferBytesMax
      · simp only [small, Nat.not_lt.mpr small]
        cases limits.periodBytes.contains periodBytes with
        | false => exact ⟨rfl, rfl⟩
        | true =>
            cases limits.periodCount.contains count with
            | false => exact ⟨rfl, rfl⟩
            | true => exact ⟨rfl, rfl⟩
      · simp [small, Nat.lt_of_not_le small]

/-- A setup without defect, at a supported rate, with a buffer whose bytes no word can count. -/
def Overflows (limits : Capabilities) (setup : StreamSetup) (frameBytes : Nat) : Prop :=
  setup.defect? = none ∧ limits.rates.contains setup.rate.toNat = true ∧
    wordLimit ≤ setup.bufferFrames.toNat * frameBytes

theorem overflows_iff :
    limits.Overflows setup frameBytes ↔
      (setup.rate.toNat ≠ 0 ∧ 0 < setup.periodFrames.toNat ∧
        setup.periodFrames.toNat ≤ setup.bufferFrames.toNat) ∧
      (limits.rates.low ≤ setup.rate.toNat ∧ setup.rate.toNat ≤ limits.rates.high) ∧
      wordLimit ≤ setup.bufferFrames.toNat * frameBytes := by
  rw [Overflows, StreamSetup.defect?_eq_none_iff, Bounds.contains_iff, Nat.pos_iff_ne_zero]

/-- The check stops at a product if the setup overflows, and otherwise it comes to the verdict on
the demands. -/
theorem check_cases (limits : Capabilities) (setup : StreamSetup) (frameBytes : Nat) :
    limits.Overflows setup frameBytes ∧
      limits.check setup frameBytes = .fault ∧ limits.checkChecked? setup frameBytes = none ∨
    ¬ limits.Overflows setup frameBytes ∧
      limits.check setup frameBytes =
        Demand.verdict (setup.demands ++ limits.demands setup frameBytes) ∧
      limits.checkChecked? setup frameBytes =
        some (Demand.verdict (setup.demands ++ limits.demands setup frameBytes)) := by
  rw [setup.verdict_demands, Overflows]
  cases accepted : setup.defect? with
  | some cause => exact .inr ⟨by simp, by simp [check, accepted], by simp [checkChecked?, accepted]⟩
  | none =>
      rcases Nat.lt_or_ge (setup.bufferFrames.toNat * frameBytes) wordLimit with fits | large
      · exact .inr ⟨by omega, check_of_fits accepted fits⟩
      · cases supported : limits.rates.contains setup.rate.toNat with
        | false =>
            refine .inr ⟨by simp, ?_, ?_⟩
            · simp [check, accepted, supported, demands, Demand.verdict]
            · simp [checkChecked?, accepted, supported, demands, Demand.verdict]
        | true =>
            have unfit : Checked.mul wordLimit setup.bufferFrames.toNat frameBytes = none :=
              if_neg (Nat.not_lt.mpr large)
            refine .inl ⟨⟨rfl, rfl, large⟩, ?_, ?_⟩
            · simp [check, accepted, supported, large]
            · simp [checkChecked?, accepted, supported, unfit]

theorem met_demands_iff :
    (∀ demand ∈ setup.demands ++ limits.demands setup frameBytes, demand.met = true) ↔
      (setup.rate.toNat ≠ 0 ∧ 0 < setup.periodFrames.toNat ∧
        setup.periodFrames.toNat ≤ setup.bufferFrames.toNat) ∧
      (limits.rates.low ≤ setup.rate.toNat ∧ setup.rate.toNat ≤ limits.rates.high) ∧
      setup.bufferFrames.toNat * frameBytes ≤ limits.bufferBytesMax ∧
      (limits.periodBytes.low ≤ setup.periodFrames.toNat * frameBytes ∧
        setup.periodFrames.toNat * frameBytes ≤ limits.periodBytes.high) ∧
      limits.periodCount.low ≤ setup.bufferFrames.toNat / setup.periodFrames.toNat ∧
        setup.bufferFrames.toNat / setup.periodFrames.toNat ≤ limits.periodCount.high := by
  simp only [StreamSetup.demands, demands, List.cons_append, List.nil_append, List.forall_mem_cons,
    decide_eq_true_iff, Bounds.contains_iff]
  constructor
  · rintro ⟨rate, buffer, period, fits, supported, small, bytes, count, _⟩
    exact ⟨⟨rate, Nat.pos_of_ne_zero period, fits⟩, supported, small, bytes, count⟩
  · rintro ⟨⟨rate, period, fits⟩, supported, small, bytes, count⟩
    exact ⟨rate, by omega, by omega, fits, supported, small, bytes, count, nofun⟩

/-- The check is exact. A setup passes if it meets all demands, in exact numbers; the check faults
for one reason only, a buffer that no word can count, asked for by a sound setup at a supported
rate; and otherwise it refuses for the first demand that is not met. The same four demands decide
what is a defect of a setup and what a playhead refuses, on any clock that ticks. -/
theorem admission_exact (limits : Capabilities) (word : limits.bufferBytesMax < wordLimit)
    (setup : StreamSetup) (frameBytes : Nat) :
    (limits.check setup frameBytes = .done () ↔
      (setup.rate.toNat ≠ 0 ∧ 0 < setup.periodFrames.toNat ∧
        setup.periodFrames.toNat ≤ setup.bufferFrames.toNat) ∧
      (limits.rates.low ≤ setup.rate.toNat ∧ setup.rate.toNat ≤ limits.rates.high) ∧
      setup.bufferFrames.toNat * frameBytes ≤ limits.bufferBytesMax ∧
      (limits.periodBytes.low ≤ setup.periodFrames.toNat * frameBytes ∧
        setup.periodFrames.toNat * frameBytes ≤ limits.periodBytes.high) ∧
      limits.periodCount.low ≤ setup.bufferFrames.toNat / setup.periodFrames.toNat ∧
        setup.bufferFrames.toNat / setup.periodFrames.toNat ≤ limits.periodCount.high) ∧
    (limits.check setup frameBytes = .fault ↔
      (setup.rate.toNat ≠ 0 ∧ 0 < setup.periodFrames.toNat ∧
        setup.periodFrames.toNat ≤ setup.bufferFrames.toNat) ∧
      (limits.rates.low ≤ setup.rate.toNat ∧ setup.rate.toNat ≤ limits.rates.high) ∧
      wordLimit ≤ setup.bufferFrames.toNat * frameBytes) ∧
    (limits.checkChecked? setup frameBytes = none ↔ limits.check setup frameBytes = .fault) ∧
    (limits.check setup frameBytes ≠ .fault →
      limits.checkChecked? setup frameBytes = some (limits.check setup frameBytes) ∧
      ∀ cause, limits.check setup frameBytes = .rejected cause ↔
        Demand.FirstUnmet (setup.demands ++ limits.demands setup frameBytes) cause) ∧
    (∀ cause, setup.defect? = some cause ↔ Demand.FirstUnmet setup.demands cause) ∧
    ∀ (head : Playhead) (ticksPerSecond : UInt64), ticksPerSecond ≠ 0 →
      ((head.configure setup ticksPerSecond).2 = .done () ↔ setup.defect? = none) ∧
      ∀ cause, (head.configure setup ticksPerSecond).2 = .rejected cause ↔
        setup.defect? = some cause := by
  have met := @met_demands_iff limits setup frameBytes
  rw [← Demand.verdict_eq_done_iff] at met
  have overflows := @overflows_iff limits setup frameBytes
  have defects := fun cause => @StreamSetup.defect?_eq_some_iff setup cause
  have refuses := fun cause =>
    @Demand.verdict_eq_rejected_iff (setup.demands ++ limits.demands setup frameBytes) cause
  have configures := fun (head : Playhead) (ticksPerSecond : UInt64) =>
    @head.configure_defect setup ticksPerSecond
  rcases limits.check_cases setup frameBytes with
    ⟨overflow, faults, stops⟩ | ⟨within, comes, checks⟩
  · rw [faults, stops]
    refine ⟨⟨nofun, ?_⟩, ?_, by simp, fun ends => absurd rfl ends, defects, configures⟩
    · rintro ⟨_, _, small, _⟩
      exact absurd overflow.2.2 (by omega)
    · exact ⟨fun _ => overflows.mp overflow, fun _ => rfl⟩
  · have ends := Demand.verdict_ne_fault (setup.demands ++ limits.demands setup frameBytes)
    rw [comes, checks]
    refine ⟨met, ?_, by simpa using ends, fun _ => ⟨rfl, refuses⟩, defects, configures⟩
    exact ⟨fun faults => absurd faults ends, fun large => absurd (overflows.mpr large) within⟩

/-- Admission at work, for rings of up to 64 KiB and frames of two bytes: a setup that passes, one
whose buffer no word can count, and one that misses two demands and is refused for the first. -/
theorem admission_exact_standard :
    standard.bufferBytesMax < wordLimit ∧
      standard.check ⟨8000, 128, 32⟩ 2 = .done () ∧
      standard.check ⟨8000, 9223372036854775808, 16⟩ 2 = .fault ∧
      standard.check ⟨8000, 40000, 16⟩ 2 = .rejected (.bufferTooLarge 80000 65536) := by
  have word : standard.bufferBytesMax < wordLimit := by decide
  have passes := (admission_exact standard word ⟨8000, 128, 32⟩ 2).1
  have overflows := (admission_exact standard word ⟨8000, 9223372036854775808, 16⟩ 2).2.1
  have refuses := (admission_exact standard word ⟨8000, 40000, 16⟩ 2).2.2.2.1
  refine ⟨word, passes.mpr (by decide), overflows.mpr (by decide), ?_⟩
  refine ((refuses (by decide)).2 _).mpr
    ⟨StreamSetup.demands ⟨8000, 40000, 16⟩ ++ [⟨true, .rateUnsupported 8000⟩],
      ⟨false, .bufferTooLarge 80000 65536⟩, _, rfl, ?_, rfl, rfl⟩
  decide

end Capabilities

end PcmPlayback
