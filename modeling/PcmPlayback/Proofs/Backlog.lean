import PcmPlayback.Proofs.Odometer

/-!
# The backlog of a playhead

The pending periods of a playhead are a word that stays at its largest number. The boundaries passed
in one update are cut to a word before they are added, so an update that passes more of them than a
word can count loses all but the remainder, and one that passes just as many goes unnoticed.
-/

set_option autoImplicit false

namespace PcmPlayback

namespace Progress

theorem count_eq {pending : Nat} (held : pending < wordLimit) (crossed : Nat) :
    count pending crossed = min (pending + crossed % wordLimit) (wordLimit - 1) := by
  unfold count
  split
  · next none =>
      subst none
      simp only [Nat.zero_mod, Nat.add_zero]
      omega
  · rfl

/-- Cutting does no harm to a sum that is itself cut, or that counts few boundaries. -/
theorem count_eq_min_iff {pending crossed : Nat} (held : pending < wordLimit) :
    count pending crossed = min (pending + crossed) (wordLimit - 1) ↔
      crossed < wordLimit ∨ wordLimit - 1 ≤ pending + crossed % wordLimit := by
  have cut := Nat.mod_le crossed wordLimit
  have within : crossed % wordLimit < wordLimit := Nat.mod_lt crossed (by decide)
  rw [count_eq held]
  constructor
  · intro same
    omega
  · rintro (few | full)
    · rw [Nat.mod_eq_of_lt few]
    · omega

theorem count_eq_zero_iff {pending crossed : Nat} (held : pending < wordLimit) :
    count pending crossed = 0 ↔ pending = 0 ∧ wordLimit ∣ crossed := by
  rw [count_eq held, Nat.dvd_iff_mod_eq_zero]
  unfold wordLimit
  omega

theorem pending_move_lt {progress : Progress} (held : progress.pending < wordLimit)
    (distance : Nat) : (progress.move distance).1.pending < wordLimit := by
  unfold move
  split
  · exact held
  · split
    · dsimp only
      split <;> exact Nat.lt_of_le_of_lt (Nat.min_le_right _ _) (by decide)
    · exact held

end Progress

namespace Playhead

theorem pending_advance_lt {head : Playhead} (held : head.pending < wordLimit) (now : Tick) :
    (head.advance now).1.pending < wordLimit := by
  rw [advance]
  split
  · exact held
  · split
    · exact held
    · next progress present =>
        simp only [pending, present] at held
        exact Progress.pending_move_lt held _

theorem pending_takePending_lt (head : Playhead) : head.takePending.2.pending < wordLimit := by
  cases present : head.progress with
  | none => simp [takePending, pending, present, wordLimit]
  | some progress => simp [takePending, pending, present, wordLimit]

theorem pending_configure_lt {head : Playhead} (held : head.pending < wordLimit)
    (setup : StreamSetup) (ticksPerSecond : UInt64) :
    (head.configure setup ticksPerSecond).1.pending < wordLimit := by
  rw [configure_eq]
  split
  · exact held
  · split
    · exact held
    · simp [pending, Progress.start, wordLimit]

theorem pending_operate_lt {head : Playhead} (held : head.pending < wordLimit)
    (operation : Operation) : (head.operate operation).1.pending < wordLimit := by
  cases operation with
  | configure setup ticksPerSecond => exact pending_configure_lt held setup ticksPerSecond
  | rebase now => exact held
  | advance now => exact pending_advance_lt held now
  | take => exact head.pending_takePending_lt
  | look => exact held

theorem pending_run_lt {head : Playhead} (held : head.pending < wordLimit)
    (operations : List Operation) : (head.run operations).1.pending < wordLimit := by
  induction operations generalizing head with
  | nil => exact held
  | cons operation rest ih => exact ih (pending_operate_lt held operation)

/-- Boundaries completed in the time that operations account for. -/
def Operation.boundaries (timing : Timing) (base : Tick) (operations : List Operation) : Nat :=
  timing.speed * totalTime base operations / timing.periodSpan

/-- Boundaries completed by an update that follows some operations. -/
def Operation.completed (timing : Timing) (base : Tick) (operations : List Operation)
    (now : Tick) : Nat :=
  boundaries timing base (operations ++ [.advance now]) - boundaries timing base operations

theorem Operation.completed_eq_crossings (timing : Timing) (base : Tick)
    (operations : List Operation) (now : Tick) :
    completed timing base operations now =
      crossings timing.periodSpan (timing.speed * totalTime base operations)
        (timing.speed * now.since (operations.foldl baseAfter base)) := by
  rw [completed, boundaries, boundaries, totalTime_append, crossings, Nat.mul_add]
  rfl

/-- What an update adds to the pending periods, if it completes the given number of boundaries. They
are cut to a word, and the sum stays at the largest word. This is the sum of all of them, as far as
a word holds it, exactly if a word can count them or what is left of them fills the word. -/
structure Counts (head : Playhead) (now : Tick) (completed : Nat) : Prop where
  done : (head.advance now).2 = .done ()
  held : head.pending < wordLimit
  sum : (head.advance now).1.pending =
    min (head.pending + completed % wordLimit) (wordLimit - 1)
  whole : (head.advance now).1.pending = min (head.pending + completed) (wordLimit - 1) ↔
    completed < wordLimit ∨ wordLimit - 1 ≤ head.pending + completed % wordLimit
  unnoticed : (head.advance now).1.pending = 0 ↔ head.pending = 0 ∧ wordLimit ∣ completed

theorem Travelled.counts {head : Playhead} {timing : Timing} {covered handed : Nat}
    (travelled : head.Travelled timing covered handed) (sound : timing.Sound)
    (roomy : timing.Roomy) (held : head.pending < wordLimit) (now : Tick) :
    head.Counts now
      (crossings timing.periodSpan covered (timing.speed * now.since head.base)) := by
  have shape : head = ⟨head.base, some (.after timing covered head.pending)⟩ := by
    rw [← travelled.progress]
  have moved := @advance_roomy head.base now timing covered head.pending sound roomy
  rw [← shape, Nat.mul_comm] at moved
  have counted : (head.advance now).1.pending = Progress.count head.pending
      (crossings timing.periodSpan covered (timing.speed * now.since head.base)) := by
    rw [moved]
    rfl
  constructor
  · rw [moved]
  · exact held
  · rw [counted, Progress.count_eq held]
  · rw [counted]
    exact Progress.count_eq_min_iff held
  · rw [counted]
    exact Progress.count_eq_zero_iff held

/-- What becomes of the boundaries that an update completes, in every run of operations after a
configuration with a buffer that leaves room, however late the update is. -/
theorem backlog_counted {head configured : Playhead} {setup : StreamSetup}
    {ticksPerSecond : UInt64}
    (accepted : head.configure setup ticksPerSecond = (configured, .done ()))
    (roomy : (⟨setup, ticksPerSecond⟩ : Timing).Roomy) (operations : List Operation)
    (kept : ∀ operation ∈ operations, operation.resets = false) (now : Tick) :
    (configured.run operations).1.Counts now
      (Operation.completed ⟨setup, ticksPerSecond⟩ head.base operations now) := by
  obtain ⟨travelled, base, _⟩ := travelled_of_configured accepted roomy operations kept
  obtain ⟨sound, rfl⟩ := configure_eq_done accepted
  have empty : pending ⟨head.base, some (.after ⟨setup, ticksPerSecond⟩ 0 0)⟩ < wordLimit :=
    (by decide : 0 < wordLimit)
  have counts := travelled.counts sound roomy (pending_run_lt empty operations) now
  rw [base] at counts
  rw [Operation.completed_eq_crossings]
  exact counts

/-- A backlog that fills the word: two updates leave as many periods as a word can count, and a third
one that completes a dozen billion more adds nothing. -/
theorem backlog_counted_full :
    ∃ (head configured : Playhead) (operations : List Operation),
      head.configure ⟨4294967295, 1, 1⟩ 1 = (configured, .done ()) ∧
        (⟨⟨4294967295, 1, 1⟩, 1⟩ : Timing).Roomy ∧
        (∀ operation ∈ operations, operation.resets = false) ∧
        (configured.run operations).1.pending = 18446744073709551615 ∧
        Operation.completed ⟨⟨4294967295, 1, 1⟩, 1⟩ head.base operations 4294967310 =
          12884901885 ∧
        ((configured.run operations).1.advance 4294967310).1.pending =
          min (18446744073709551615 + 12884901885) 18446744073709551615 := by
  let head : Playhead := ⟨10, some ⟨⟨⟨8000, 64, 32⟩, 7⟩, 11, 13, 17⟩⟩
  let configured : Playhead := (head.configure ⟨4294967295, 1, 1⟩ 1).1
  let operations : List Operation := [.advance 4294967306, .look, .advance 4294967307]
  have accepted : head.configure ⟨4294967295, 1, 1⟩ 1 = (configured, .done ()) := by
    decide +kernel
  have roomy : (⟨⟨4294967295, 1, 1⟩, 1⟩ : Timing).Roomy := by decide +kernel
  have kept : ∀ operation ∈ operations, operation.resets = false := by decide +kernel
  have full : (configured.run operations).1.pending = 18446744073709551615 := by decide +kernel
  have late : Operation.completed ⟨⟨4294967295, 1, 1⟩, 1⟩ head.base operations 4294967310 =
      12884901885 := by
    decide +kernel
  have counts := backlog_counted accepted roomy operations kept 4294967310
  rw [late] at counts
  have whole := counts.whole.mpr (.inl (by decide))
  rw [full] at whole
  exact ⟨head, configured, operations, accepted, roomy, kept, full, late, whole⟩

/-- A backlog that does not notice what was passed: an update completes one boundary more than a word
can count, and none is pending. -/
theorem backlog_counted_unnoticed :
    ∃ configured : Playhead,
      unconfigured.configure ⟨2, 1, 1⟩ 1 = (configured, .done ()) ∧
        (⟨⟨2, 1, 1⟩, 1⟩ : Timing).Roomy ∧
        Operation.completed ⟨⟨2, 1, 1⟩, 1⟩ unconfigured.base [] 9223372036854775808 =
          wordLimit ∧
        (configured.advance 9223372036854775808).1.pending = 0 ∧
        (configured.advance 9223372036854775808).1.pending ≠
          min (configured.pending + wordLimit) (wordLimit - 1) := by
  refine ⟨(unconfigured.configure ⟨2, 1, 1⟩ 1).1, ?_⟩
  decide +kernel

end Playhead

end PcmPlayback
