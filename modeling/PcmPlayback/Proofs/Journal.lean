import PcmPlayback.Playhead
import PcmPlayback.Stage

/-!
# Journals

A journal keeps what happens to a device, the latest event in front. What is said about a run in
terms of time is read off its journal: how long the device has been running since it was last
prepared, which boundaries the playhead has reached meanwhile, and what was reported. Times are
exact numbers of ticks, and nothing here looks at a playhead.
-/

set_option autoImplicit false

namespace PcmPlayback

/-- Something that happens to a device: its clock passes from one reading to another while the
device is at some stage, it is prepared or started with success, its timer fires, with success or
with a fault before anything could be told, or its consumers are told a number of periods. -/
inductive Event where
  | passed (start finish : Tick) (stage : Stage)
  | prepared (timing : Timing)
  | started (tick : Tick)
  | fired (tick : Tick)
  | faulted (tick : Tick)
  | told (periods : Nat)
  deriving Repr, DecidableEq

def Event.Forward : Event → Prop
  | .passed start finish _ => start ≤ finish
  | .prepared _ | .started _ | .fired _ | .faulted _ | .told _ => True

instance : DecidablePred Event.Forward
  | .passed start finish _ => inferInstanceAs (Decidable (start ≤ finish))
  | .prepared _ | .started _ | .fired _ | .faulted _ | .told _ => .isTrue trivial

def Event.timing? : Event → Option Timing
  | .prepared timing => some timing
  | .passed _ _ _ | .started _ | .fired _ | .faulted _ | .told _ => none

/-- What happened to a device, the latest first. -/
abbrev Journal := List Event

namespace Journal

def Forward (journal : Journal) : Prop := ∀ event ∈ journal, event.Forward

instance (journal : Journal) : Decidable journal.Forward :=
  inferInstanceAs (Decidable (∀ event ∈ journal, event.Forward))

/-- The timing of the last preparation. -/
def timing? : Journal → Option Timing
  | [] => none
  | .prepared timing :: _ => some timing
  | .passed _ _ _ :: earlier => timing? earlier
  | .started _ :: earlier => timing? earlier
  | .fired _ :: earlier => timing? earlier
  | .faulted _ :: earlier => timing? earlier
  | .told _ :: earlier => timing? earlier

/-- The timings of all preparations. -/
def timings (journal : Journal) : List Timing := journal.filterMap Event.timing?

/-- Ticks spent running since the last preparation. -/
def played : Journal → Nat
  | [] => 0
  | .prepared _ :: _ => 0
  | .passed start finish stage :: earlier =>
      if stage = .running then played earlier + (finish.toNat - start.toNat) else played earlier
  | .started _ :: earlier => played earlier
  | .fired _ :: earlier => played earlier
  | .faulted _ :: earlier => played earlier
  | .told _ :: earlier => played earlier

/-- Ticks spent running since the last preparation, but before the given tick. -/
def playedBy (tick : Nat) : Journal → Nat
  | [] => 0
  | .prepared _ :: _ => 0
  | .passed start finish stage :: earlier =>
      if stage = .running then
        playedBy tick earlier + (min finish.toNat tick - min start.toNat tick)
      else playedBy tick earlier
  | .started _ :: earlier => playedBy tick earlier
  | .fired _ :: earlier => playedBy tick earlier
  | .faulted _ :: earlier => playedBy tick earlier
  | .told _ :: earlier => playedBy tick earlier

def startedAt? : Journal → Option Tick
  | [] => none
  | .started tick :: _ => some tick
  | .prepared _ :: earlier => startedAt? earlier
  | .passed _ _ _ :: earlier => startedAt? earlier
  | .fired _ :: earlier => startedAt? earlier
  | .faulted _ :: earlier => startedAt? earlier
  | .told _ :: earlier => startedAt? earlier

/-- The tick of the last start or firing, whichever came later: either arms the timer. -/
def armedAt? : Journal → Option Tick
  | [] => none
  | .started tick :: _ => some tick
  | .fired tick :: _ => some tick
  | .prepared _ :: earlier => armedAt? earlier
  | .passed _ _ _ :: earlier => armedAt? earlier
  | .faulted _ :: earlier => armedAt? earlier
  | .told _ :: earlier => armedAt? earlier

/-- Periods told since the last preparation. -/
def told : Journal → Nat
  | [] => 0
  | .prepared _ :: _ => 0
  | .told periods :: earlier => told earlier + periods
  | .passed _ _ _ :: earlier => told earlier
  | .started _ :: earlier => told earlier
  | .fired _ :: earlier => told earlier
  | .faulted _ :: earlier => told earlier

def toldEver : Journal → Nat
  | [] => 0
  | .told periods :: earlier => toldEver earlier + periods
  | .prepared _ :: earlier => toldEver earlier
  | .passed _ _ _ :: earlier => toldEver earlier
  | .started _ :: earlier => toldEver earlier
  | .fired _ :: earlier => toldEver earlier
  | .faulted _ :: earlier => toldEver earlier

/-- Whether the last act of the timer was to fire, with nothing but its telling since. -/
def JustFired : Journal → Prop
  | .fired _ :: _ => True
  | .told _ :: .fired _ :: _ => True
  | _ => False

/-- Boundaries that the playhead has passed since the last preparation. -/
def crossed (journal : Journal) : Nat :=
  match journal.timing? with
  | none => 0
  | some timing => timing.speed * journal.played / timing.periodSpan

/-- Boundaries that the playhead has ever passed, over all preparations: every event adds the
boundaries that were passed in it. -/
def boundaries : Journal → Nat
  | [] => 0
  | event :: earlier => boundaries earlier + (crossed (event :: earlier) - crossed earlier)

/-- Whether the playhead had reached a boundary by a tick. Boundaries are counted from the last
preparation, and the first one lies at the end of the first period. -/
def Reached (journal : Journal) (timing : Timing) (boundary tick : Nat) : Prop :=
  boundary * timing.periodSpan ≤ timing.speed * journal.playedBy tick

theorem Forward.of_append {events journal : Journal} (forward : Forward (events ++ journal)) :
    Forward journal :=
  fun event member => forward event (List.mem_append_right _ member)

theorem Forward.le {start finish : Tick} {stage : Stage} {journal : Journal}
    (forward : Forward (.passed start finish stage :: journal)) : start ≤ finish :=
  forward _ List.mem_cons_self

theorem timings_append (events journal : Journal) :
    timings (events ++ journal) = timings events ++ timings journal :=
  List.filterMap_append

theorem timing?_eq_head? (journal : Journal) : journal.timing? = journal.timings.head? := by
  induction journal with
  | nil => rfl
  | cons event earlier ih =>
      cases event with
      | prepared timing => rfl
      | passed start finish stage => exact ih
      | started tick | fired tick | faulted tick | told periods => exact ih

theorem mem_timings_of_timing? {journal : Journal} {timing : Timing}
    (present : journal.timing? = some timing) : timing ∈ journal.timings := by
  rw [timing?_eq_head?] at present
  exact List.mem_of_head? present

theorem playedBy_le_played (tick : Nat) (journal : Journal) :
    journal.playedBy tick ≤ journal.played := by
  induction journal with
  | nil => exact Nat.le_refl 0
  | cons event earlier ih =>
      cases event with
      | passed start finish stage =>
          simp only [playedBy, played]
          split <;> omega
      | prepared timing => exact Nat.le_refl 0
      | started tick | fired tick | faulted tick | told periods => exact ih

theorem playedBy_mono {tick later : Nat} (ordered : tick ≤ later) (journal : Journal) :
    journal.playedBy tick ≤ journal.playedBy later := by
  induction journal with
  | nil => exact Nat.le_refl 0
  | cons event earlier ih =>
      cases event with
      | passed start finish stage =>
          simp only [playedBy]
          split <;> omega
      | prepared timing => exact Nat.le_refl 0
      | started tick | fired tick | faulted tick | told periods => exact ih

theorem crossed_le_boundaries (journal : Journal) : journal.crossed ≤ journal.boundaries := by
  cases journal with
  | nil => exact Nat.le_refl 0
  | cons event earlier =>
      have ih := crossed_le_boundaries earlier
      rw [boundaries]
      omega

theorem crossed_eq {journal : Journal} {timing : Timing}
    (present : journal.timing? = some timing) :
    journal.crossed = timing.speed * journal.played / timing.periodSpan := by
  rw [crossed, present]

theorem boundaries_append_le (events journal : Journal) :
    boundaries journal ≤ boundaries (events ++ journal) := by
  induction events with
  | nil => exact Nat.le_refl _
  | cons event events ih => exact Nat.le_trans ih (Nat.le_add_right _ _)

theorem counted_of_append {events journal : Journal}
    (few : boundaries (events ++ journal) < wordLimit) : boundaries journal < wordLimit :=
  Nat.lt_of_le_of_lt (boundaries_append_le events journal) few

theorem div_le_crossed {journal : Journal} {timing : Timing}
    (present : journal.timing? = some timing) (tick : Nat) :
    timing.speed * journal.playedBy tick / timing.periodSpan ≤ journal.crossed := by
  rw [crossed_eq present]
  apply Nat.div_le_div_right
  exact Nat.mul_le_mul_left timing.speed (playedBy_le_played tick journal)

theorem Reached.mono {journal : Journal} {timing : Timing} {boundary tick later : Nat}
    (reached : journal.Reached timing boundary tick) (ordered : tick ≤ later) :
    journal.Reached timing boundary later :=
  Nat.le_trans reached (Nat.mul_le_mul_left _ (playedBy_mono ordered journal))

/-- The boundaries reached by a tick are those up to the number of whole periods covered. -/
theorem reached_iff {journal : Journal} {timing : Timing} {boundary tick : Nat}
    (positive : 0 < timing.periodSpan) :
    journal.Reached timing boundary tick ↔
      boundary ≤ timing.speed * journal.playedBy tick / timing.periodSpan :=
  (Nat.le_div_iff_mul_le positive).symm

end Journal

end PcmPlayback
