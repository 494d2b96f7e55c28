import PcmPlayback.Proofs.Motion

/-!
# The odometer of a playhead

After any operations since its configuration, a playhead is where the total time of its updates has
brought it. It does not matter into how many updates the time was cut, whether the counter of the
clock wrapped on the way, how often an update was repeated, or when the completed periods were
handed out.
-/

set_option autoImplicit false

namespace PcmPlayback

namespace Tick

/-- Time adds up over a reading in between, across at most one wrap of the counter in all. -/
theorem since_add_since {base mid now : Tick} (between : mid.since base ≤ now.since base) :
    mid.since base + now.since mid = now.since base := by
  have split : now - mid = (now - base) - (mid - base) := by grind
  have left : now.since mid = now.since base - mid.since base := by
    unfold since
    rw [split]
    exact UInt64.toNat_sub_of_le _ _ (UInt64.le_iff_toNat_le.mpr between)
  rw [left]
  exact Nat.add_sub_cancel' between

end Tick

namespace Playhead

/-- What can be asked of a playhead. -/
inductive Operation where
  | configure (setup : StreamSetup) (ticksPerSecond : UInt64)
  | rebase (now : Tick)
  | advance (now : Tick)
  | take
  | look

/-- What a playhead answers. A look shows the frame, the ticks up to the next boundary and the
pending periods. -/
inductive Answer where
  | configured (outcome : Outcome Unit)
  | rebased
  | advanced (outcome : Outcome Unit)
  | taken (periods : Nat)
  | shown (frame : Nat) (delay : Option Nat) (pending : Nat)
  deriving DecidableEq

def operate (head : Playhead) : Operation → Playhead × Answer
  | .configure setup ticksPerSecond =>
      let (next, outcome) := head.configure setup ticksPerSecond
      (next, .configured outcome)
  | .rebase now => (head.rebase now, .rebased)
  | .advance now =>
      let (next, outcome) := head.advance now
      (next, .advanced outcome)
  | .take =>
      let (periods, next) := head.takePending
      (next, .taken periods)
  | .look => (head, .shown head.frame head.delay? head.pending)

def run (head : Playhead) : List Operation → Playhead × List Answer
  | [] => (head, [])
  | operation :: rest =>
      let (next, answer) := head.operate operation
      let (last, answers) := next.run rest
      (last, answer :: answers)

/-- The periods that an answer hands out. -/
def Answer.periods : Answer → Nat
  | .taken periods => periods
  | .configured _ | .rebased | .advanced _ | .shown _ _ _ => 0

/-- The periods that were handed out, all answers taken together. -/
def handedOut : List Answer → Nat
  | [] => 0
  | answer :: rest => answer.periods + handedOut rest

namespace Operation

/-- Whether an operation sets a playhead up anew. A setup that is refused does not. -/
def resets : Operation → Bool
  | .configure setup ticksPerSecond => (unconfigured.configure setup ticksPerSecond).2.isDone
  | .rebase _ | .advance _ | .take | .look => false

/-- The ticks that an operation accounts for, when time is measured from the given tick. -/
def time (base : Tick) : Operation → Nat
  | .advance now => now.since base
  | .configure _ _ | .rebase _ | .take | .look => 0

/-- The tick from which time is measured after an operation. -/
def baseAfter (base : Tick) : Operation → Tick
  | .rebase now | .advance now => now
  | .configure _ _ | .take | .look => base

/-- The ticks that operations account for, one after another. -/
def totalTime (base : Tick) : List Operation → Nat
  | [] => 0
  | operation :: rest => operation.time base + totalTime (operation.baseAfter base) rest

theorem totalTime_append (base : Tick) (first second : List Operation) :
    totalTime base (first ++ second) =
      totalTime base first + totalTime (first.foldl baseAfter base) second := by
  induction first generalizing base with
  | nil => exact (Nat.zero_add _).symm
  | cons operation rest ih =>
      rw [List.cons_append, totalTime, totalTime, ih, Nat.add_assoc]
      rfl

/-- An operation that takes no time at a tick and goes on measuring from there. -/
def Stands (tick : Tick) (operation : Operation) : Prop :=
  operation.time tick = 0 ∧ operation.baseAfter tick = tick

instance (tick : Tick) : DecidablePred (Stands tick) :=
  fun operation => inferInstanceAs (Decidable (operation.time tick = 0 ∧ _ = tick))

theorem totalTime_of_stands {tick : Tick} {between : List Operation}
    (stand : ∀ operation ∈ between, operation.Stands tick) (rest : List Operation) :
    totalTime tick (between ++ rest) = totalTime tick rest := by
  induction between with
  | nil => rfl
  | cons operation between ih =>
      obtain ⟨still, same⟩ := stand operation List.mem_cons_self
      rw [List.cons_append, totalTime, still, same, Nat.zero_add]
      exact ih fun other member => stand other (List.mem_cons_of_mem _ member)

/-- An update that is cut in two at a tick on its way accounts for the same time. -/
theorem totalTime_cut {base mid now : Tick} {before between after : List Operation}
    (onTheWay : mid.since (before.foldl baseAfter base) ≤ now.since (before.foldl baseAfter base))
    (stand : ∀ operation ∈ between, operation.Stands mid) :
    totalTime base (before ++ .advance mid :: (between ++ .advance now :: after)) =
      totalTime base (before ++ .advance now :: after) := by
  have adds := Tick.since_add_since onTheWay
  rw [totalTime_append, totalTime_append, totalTime, baseAfter, totalTime_of_stands stand,
    totalTime, totalTime, baseAfter, time, time, time, baseAfter]
  omega

end Operation

theorem resets_configure {setup : StreamSetup} {ticksPerSecond : UInt64} :
    (Operation.configure setup ticksPerSecond).resets = true ↔
      setup.defect? = none ∧ ticksPerSecond ≠ 0 := by
  rw [Operation.resets, configure_eq]
  cases setup.defect? with
  | some cause => simp [Outcome.isDone]
  | none => by_cases ticks : ticksPerSecond = 0 <;> simp [ticks, Outcome.isDone]

theorem configure_refused {head : Playhead} {setup : StreamSetup} {ticksPerSecond : UInt64}
    (refused : (Operation.configure setup ticksPerSecond).resets = false) :
    (head.configure setup ticksPerSecond).1 = head := by
  rw [← Bool.not_eq_true, resets_configure] at refused
  rw [configure_eq]
  cases sound : setup.defect? with
  | some cause => rfl
  | none =>
      by_cases ticks : ticksPerSecond = 0
      · simp only [if_pos ticks]
      · exact absurd ⟨sound, ticks⟩ refused

theorem configure_eq_done {head configured : Playhead} {setup : StreamSetup}
    {ticksPerSecond : UInt64}
    (accepted : head.configure setup ticksPerSecond = (configured, .done ())) :
    (⟨setup, ticksPerSecond⟩ : Timing).Sound ∧
      configured = ⟨head.base, some (.after ⟨setup, ticksPerSecond⟩ 0 0)⟩ := by
  rw [configure_eq] at accepted
  split at accepted
  · simp at accepted
  · next sound =>
      split at accepted
      · simp at accepted
      · next ticks =>
          refine ⟨Timing.sound_of_defect?_eq_none sound ticks, ?_⟩
          rw [← Progress.start_eq_after]
          exact (congrArg Prod.fst accepted).symm

/-- A playhead that has covered a distance since its configuration, and has handed out periods. As
long as a word can count the boundaries on the way, none was lost and none was counted twice. -/
structure Travelled (head : Playhead) (timing : Timing) (covered handed : Nat) : Prop where
  progress : head.progress = some (.after timing covered head.pending)
  counted : covered / timing.periodSpan < wordLimit →
    handed + head.pending = covered / timing.periodSpan

namespace Travelled

variable {head : Playhead} {timing : Timing} {covered handed : Nat}

theorem advance (travelled : head.Travelled timing covered handed) (sound : timing.Sound)
    (roomy : timing.Roomy) (now : Tick) :
    (head.advance now).1.Travelled timing (covered + timing.speed * now.since head.base) handed ∧
      (head.advance now).2 = .done () ∧ (head.advance now).1.base = now := by
  obtain ⟨progress, counted⟩ := travelled
  have shape : head = ⟨head.base, some (.after timing covered head.pending)⟩ := by
    rw [← progress]
  have moved := @advance_roomy head.base now timing covered head.pending sound roomy
  rw [← shape, Nat.mul_comm] at moved
  rw [moved]
  refine ⟨⟨rfl, ?_⟩, rfl, rfl⟩
  intro few
  have exact := div_add_crossings timing.periodSpan covered (timing.speed * now.since head.base)
  have before := counted (by omega)
  change handed + Progress.count _ _ = _
  rw [Progress.count_eq_add (by omega)]
  omega

theorem takePending (travelled : head.Travelled timing covered handed) :
    head.takePending.2.Travelled timing covered (handed + head.pending) := by
  obtain ⟨progress, counted⟩ := travelled
  have drained : head.takePending.2 = ⟨head.base, some (.after timing covered 0)⟩ := by
    simp [Playhead.takePending, progress, Progress.after]
  rw [drained]
  exact ⟨rfl, counted⟩

theorem operate (travelled : head.Travelled timing covered handed) (sound : timing.Sound)
    (roomy : timing.Roomy) {operation : Operation} (kept : operation.resets = false) :
    (head.operate operation).1.Travelled timing
        (covered + timing.speed * operation.time head.base)
        (handed + (head.operate operation).2.periods) ∧
      (head.operate operation).1.base = operation.baseAfter head.base ∧
      ∀ outcome, (head.operate operation).2 = .advanced outcome → outcome = .done () := by
  cases operation with
  | configure setup ticksPerSecond =>
      have same := @configure_refused head setup ticksPerSecond kept
      simp only [Playhead.operate, same]
      exact ⟨travelled, rfl, nofun⟩
  | rebase now => exact ⟨⟨travelled.progress, travelled.counted⟩, rfl, nofun⟩
  | advance now =>
      obtain ⟨moved, done, base⟩ := travelled.advance sound roomy now
      refine ⟨moved, base, ?_⟩
      rintro _ ⟨⟩
      exact done
  | take => exact ⟨travelled.takePending, rfl, nofun⟩
  | look => exact ⟨travelled, rfl, nofun⟩

theorem run (travelled : head.Travelled timing covered handed) (sound : timing.Sound)
    (roomy : timing.Roomy) (operations : List Operation)
    (kept : ∀ operation ∈ operations, operation.resets = false) :
    (head.run operations).1.Travelled timing
        (covered + timing.speed * Operation.totalTime head.base operations)
        (handed + handedOut (head.run operations).2) ∧
      (head.run operations).1.base = operations.foldl Operation.baseAfter head.base ∧
      ∀ outcome, .advanced outcome ∈ (head.run operations).2 → outcome = .done () := by
  induction operations generalizing head covered handed with
  | nil => exact ⟨travelled, rfl, nofun⟩
  | cons operation rest ih =>
      obtain ⟨moved, base, done⟩ :=
        travelled.operate sound roomy (kept operation List.mem_cons_self)
      obtain ⟨last, ended, faultless⟩ :=
        ih moved fun other member => kept other (List.mem_cons_of_mem _ member)
      rw [base] at last ended
      rw [Playhead.run, handedOut, Operation.totalTime, Nat.mul_add, ← Nat.add_assoc,
        ← Nat.add_assoc]
      refine ⟨last, ended, ?_⟩
      intro outcome member
      rcases List.mem_cons.mp member with here | later
      · exact done outcome here.symm
      · exact faultless outcome later

end Travelled

/-- After a configuration, the time that operations account for is the way of a playhead. -/
theorem travelled_of_configured {head configured : Playhead} {setup : StreamSetup}
    {ticksPerSecond : UInt64}
    (accepted : head.configure setup ticksPerSecond = (configured, .done ()))
    (roomy : (⟨setup, ticksPerSecond⟩ : Timing).Roomy) (operations : List Operation)
    (kept : ∀ operation ∈ operations, operation.resets = false) :
    (configured.run operations).1.Travelled ⟨setup, ticksPerSecond⟩
        (setup.rate.toNat * Operation.totalTime head.base operations)
        (handedOut (configured.run operations).2) ∧
      (configured.run operations).1.base = operations.foldl Operation.baseAfter head.base ∧
      ∀ outcome, .advanced outcome ∈ (configured.run operations).2 → outcome = .done () := by
  obtain ⟨sound, rfl⟩ := configure_eq_done accepted
  have initial :
      Travelled ⟨head.base, some (.after ⟨setup, ticksPerSecond⟩ 0 0)⟩ ⟨setup, ticksPerSecond⟩
        0 0 :=
    ⟨rfl, fun _ => (Nat.zero_div _).symm⟩
  obtain ⟨travelled, base, faultless⟩ := initial.run sound roomy operations kept
  rw [Nat.zero_add, Nat.zero_add] at travelled
  exact ⟨travelled, base, faultless⟩

/-- What a playhead shows that has covered a distance since its configuration, together with what
it has answered on the way. -/
structure Shows (timing : Timing) (covered : Nat) (shown : Playhead × List Answer) : Prop where
  timed : shown.1.timing? = some timing
  offset : shown.1.progress.map Progress.offset = some (covered % timing.bufferSpan)
  frame : shown.1.frame =
    covered / timing.ticksPerSecond.toNat % timing.setup.bufferFrames.toNat
  rest : shown.1.progress.map Progress.rest =
    some (timing.periodSpan - covered % timing.periodSpan)
  delay : shown.1.delay? =
    some (timing.ticksFor (timing.periodSpan - covered % timing.periodSpan))
  counted : covered / timing.periodSpan < wordLimit →
    handedOut shown.2 + shown.1.pending = covered / timing.periodSpan
  faultless : ∀ outcome, .advanced outcome ∈ shown.2 → outcome = .done ()

theorem shows_of_configured {head configured : Playhead} {setup : StreamSetup}
    {ticksPerSecond : UInt64}
    (accepted : head.configure setup ticksPerSecond = (configured, .done ()))
    (roomy : (⟨setup, ticksPerSecond⟩ : Timing).Roomy) (operations : List Operation)
    (kept : ∀ operation ∈ operations, operation.resets = false) :
    Shows ⟨setup, ticksPerSecond⟩ (setup.rate.toNat * Operation.totalTime head.base operations)
        (configured.run operations) ∧
      (configured.run operations).1.base = operations.foldl Operation.baseAfter head.base := by
  obtain ⟨⟨progress, counted⟩, base, faultless⟩ :=
    travelled_of_configured accepted roomy operations kept
  refine ⟨⟨?_, ?_, ?_, ?_, ?_, counted, faultless⟩, base⟩
  · rw [timing?, progress]
    rfl
  · rw [progress]
    rfl
  · rw [frame, progress]
    exact Progress.frame_after
  · rw [progress]
    rfl
  · rw [delay?, progress]
    rfl

/-- The total time decides what a playhead shows, in every run of operations after a configuration
with a buffer that leaves room. If an update is cut in two at any tick on its way, and repeated or
followed by a handing out before it goes on, the playhead shows the same. -/
theorem total_time_decides {head configured : Playhead} {setup : StreamSetup}
    {ticksPerSecond : UInt64}
    (accepted : head.configure setup ticksPerSecond = (configured, .done ()))
    (roomy : (⟨setup, ticksPerSecond⟩ : Timing).Roomy) (operations : List Operation)
    (kept : ∀ operation ∈ operations, operation.resets = false) :
    Shows ⟨setup, ticksPerSecond⟩ (setup.rate.toNat * Operation.totalTime head.base operations)
        (configured.run operations) ∧
      ∀ (before between after : List Operation) (mid now : Tick),
        operations = before ++ .advance now :: after →
        mid.since (configured.run before).1.base ≤ now.since (configured.run before).1.base →
        (∀ operation ∈ between, operation.resets = false ∧ operation.Stands mid) →
        Shows ⟨setup, ticksPerSecond⟩
            (setup.rate.toNat * Operation.totalTime head.base operations)
            (configured.run (before ++ .advance mid :: (between ++ .advance now :: after))) ∧
          (configured.run (before ++ .advance mid :: (between ++ .advance now :: after))).1.base =
            (configured.run operations).1.base := by
  refine ⟨(shows_of_configured accepted roomy operations kept).1, ?_⟩
  rintro before between after mid now rfl onTheWay stands
  have earlier := (shows_of_configured accepted roomy before fun operation member =>
    kept operation (List.mem_append_left _ member)).2
  rw [earlier] at onTheWay
  have cut := @Operation.totalTime_cut head.base mid now before between after onTheWay
    fun operation member => (stands operation member).2
  have unreset : ∀ operation ∈ before ++ .advance mid :: (between ++ .advance now :: after),
      operation.resets = false := by
    intro operation member
    rcases List.mem_append.mp member with first | later
    · exact kept operation (List.mem_append_left _ first)
    · rcases List.mem_cons.mp later with rfl | rest
      · rfl
      · rcases List.mem_append.mp rest with inside | last
        · exact (stands operation inside).1
        · exact kept operation (List.mem_append_right _ last)
  obtain ⟨shows, base⟩ := shows_of_configured accepted roomy _ unreset
  rw [cut] at shows
  refine ⟨shows, ?_⟩
  rw [base, (shows_of_configured accepted roomy _ kept).2]
  simp only [List.foldl_append, List.foldl_cons, Operation.baseAfter]

/-- A playhead that was used before is set up anew, and its clock wraps on the way. A setup is
refused and an update is repeated, and the last update comes a day late. Cutting the first update in
two, with a handing out in between, changes nothing. -/
theorem total_time_decides_wrapped :
    ∃ (head configured : Playhead) (after : List Operation),
      head.configure ⟨48000, 4096, 49⟩ 1000 = (configured, .done ()) ∧
        (⟨⟨48000, 4096, 49⟩, 1000⟩ : Timing).Roomy ∧
        (∀ operation ∈ .advance 194 :: after, operation.resets = false) ∧
        Operation.totalTime head.base (.advance 194 :: after) = 86400307 ∧
        (configured.run (.advance 194 :: after)).1.frame = 48000 * 86400307 / 1000 % 4096 ∧
        handedOut (configured.run (.advance 50 :: .take :: .advance 194 :: after)).2 +
            (configured.run (.advance 50 :: .take :: .advance 194 :: after)).1.pending =
          48000 * 86400307 / 49000 := by
  let head : Playhead := ⟨18446744073709551610, some ⟨⟨⟨8000, 64, 32⟩, 7⟩, 11, 13, 17⟩⟩
  let configured : Playhead := (head.configure ⟨48000, 4096, 49⟩ 1000).1
  let after : List Operation :=
    [.configure ⟨0, 64, 32⟩ 1000, .advance 194, .rebase 100, .advance 207, .take, .look,
      .rebase 18446744073709551000, .advance 86399384]
  have accepted : head.configure ⟨48000, 4096, 49⟩ 1000 = (configured, .done ()) := by
    decide +kernel
  have roomy : (⟨⟨48000, 4096, 49⟩, 1000⟩ : Timing).Roomy := by decide +kernel
  have kept : ∀ operation ∈ .advance 194 :: after, operation.resets = false := by decide +kernel
  have total : Operation.totalTime head.base (.advance 194 :: after) = 86400307 := by
    decide +kernel
  obtain ⟨shows, cut⟩ := total_time_decides accepted roomy _ kept
  obtain ⟨divided, _⟩ := cut [] [.take] after 50 194 rfl (by decide +kernel) (by decide +kernel)
  rw [total] at shows divided
  exact ⟨head, configured, after, accepted, roomy, kept, total, shows.frame,
    divided.counted (by decide +kernel)⟩

end Playhead

end PcmPlayback
