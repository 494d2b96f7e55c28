import PcmPlayback.Proofs.Accounts

/-!
# Consistency

What the stored pieces of a device have in common, whatever its clock does. The flag and the timer
agree with the stage; the setup, the timing of the playhead and the size of the ring come from the
same preparation; and a running device has lost its timer only if an expiry faulted. The clock may
go back or wrap here, as long as every buffer leaves room in a double word.
-/

set_option autoImplicit false

namespace PcmPlayback

namespace Journal

/-- Size of the ring that the last preparation asked for. -/
def ringBytes (journal : Journal) (frameBytes : Nat) : Nat :=
  match journal.timing? with
  | none => 0
  | some timing => timing.setup.bufferFrames.toNat * frameBytes

/-- Whether an expiry has faulted since the last start. -/
def Broken : Journal → Prop
  | [] => False
  | .faulted _ :: _ => True
  | .started _ :: _ => False
  | .prepared _ :: earlier => Broken earlier
  | .passed _ _ _ :: earlier => Broken earlier
  | .fired _ :: earlier => Broken earlier
  | .told _ :: earlier => Broken earlier

/-- Whether all buffers that were prepared leave room. -/
def Roomy (journal : Journal) : Prop := ∀ timing ∈ journal.timings, timing.Roomy

instance (journal : Journal) : Decidable journal.Roomy :=
  inferInstanceAs (Decidable (∀ timing ∈ journal.timings, timing.Roomy))

theorem Roomy.of_append {events journal : Journal} (roomy : Roomy (events ++ journal)) :
    Roomy journal := by
  intro timing member
  apply roomy timing
  rw [timings_append]
  exact List.mem_append_right _ member

end Journal

namespace Playhead

/-- The progress of a playhead is that of some distance. -/
def Placed (head : Playhead) : Prop :=
  ∀ progress, head.progress = some progress →
    progress.timing.Sound ∧ ∃ covered, progress = .after progress.timing covered progress.pending

namespace Placed

variable {head : Playhead}

theorem start {base : Tick} {timing : Timing} (sound : timing.Sound) :
    (⟨base, some (.start timing)⟩ : Playhead).Placed := by
  intro progress found
  cases found
  exact ⟨sound, 0, Progress.start_eq_after timing⟩

theorem takePending (placed : head.Placed) : head.takePending.2.Placed := by
  intro progress found
  obtain ⟨before, present, same⟩ := Option.map_eq_some_iff.mp found
  obtain ⟨sound, covered, place⟩ := placed before present
  rw [← same]
  refine ⟨sound, covered, ?_⟩
  rw [place]
  rfl

theorem advance (placed : head.Placed) (configured : head.isConfigured = true)
    (roomy : ∀ timing, head.timing? = some timing → timing.Roomy) (now : Tick) :
    (head.advance now).1.Placed ∧ (head.advance now).2.isDone = true := by
  obtain ⟨progress, present⟩ := Option.isSome_iff_exists.mp configured
  obtain ⟨sound, covered, place⟩ := placed progress present
  have room : progress.timing.Roomy := roomy progress.timing (by rw [timing?, present]; rfl)
  have whole : head =
      ⟨head.base, some (.after progress.timing covered progress.pending)⟩ := by
    rw [← place, ← present]
  rw [whole, advance_roomy sound room]
  refine ⟨?_, rfl⟩
  intro moved found
  cases found
  exact ⟨sound, _, rfl⟩

end Placed

end Playhead

namespace Scene

/-- What holds of the device of a scene whatever the clock did. -/
structure Consistent (scene : Scene) : Prop where
  orderly : scene.device.Orderly
  timing : scene.device.playhead.timing? = scene.journal.timing?
  placed : scene.device.playhead.Placed
  sized : scene.device.ring.size = scene.journal.ringBytes scene.device.profile.frameBytes
  broken : scene.device.stage = .running → scene.device.expiry = none → scene.journal.Broken

namespace Consistent

variable {scene : Scene}

theorem advance (consistent : scene.Consistent) (roomy : scene.journal.Roomy)
    (running : scene.device.stage = .running) :
    (scene.device.playhead.advance scene.now).1.Placed ∧
      (scene.device.playhead.advance scene.now).2.isDone = true := by
  apply consistent.placed.advance (consistent.orderly.configured (.inr (.inl running)))
  intro timing present
  rw [consistent.timing] at present
  exact roomy timing (Journal.mem_timings_of_timing? present)

theorem call (consistent : scene.Consistent) (roomy : scene.journal.Roomy) {next : Device}
    {event : Option Event} (effect : scene.device.Effect scene.now next event) :
    Consistent ⟨scene.now, next, event.toList ++ scene.journal⟩ := by
  have moves := consistent.advance roomy
  have orderly := consistent.orderly.effect effect fun running => (moves running).2
  obtain ⟨_, timing, placed, sized, broken⟩ := consistent
  cases effect with
  | unchanged | rerouted => exact ⟨orderly, timing, placed, sized, broken⟩
  | prepared setup size allowed sound asked =>
      refine ⟨orderly, rfl, .start sound, ?_, nofun⟩
      simp only [Ring.silent, Array.size_replicate, asked]
      rfl
  | misstarted allowed =>
      refine ⟨orderly, timing, placed, sized, fun running => ?_⟩
      exact absurd running (Stage.resting_of_mayStart allowed).1
  | started tick gridTick allowed first grid => exact ⟨orderly, timing, placed, sized, nofun⟩
  | lowered idle => exact ⟨orderly, timing, placed, sized, broken⟩
  | stopped running moved =>
      exact ⟨orderly, (Playhead.timing?_advance _ _).trans timing, (moves running).1, sized, nofun⟩
  | jammed running stuck => simp [(moves running).2] at stuck
  | read running =>
      exact ⟨orderly, (Playhead.timing?_advance _ _).trans timing, (moves running).1, sized, broken⟩
  | freed => exact ⟨orderly, timing, placed, sized, nofun⟩

theorem poll (consistent : scene.Consistent) (roomy : scene.journal.Roomy) {next : Device}
    {strike : Device.Strike} (struck : scene.device.Struck scene.now next strike) :
    Consistent ⟨scene.now, next, strike.events scene.now ++ scene.journal⟩ := by
  have orderly := consistent.orderly.struck struck
  have moves := consistent.advance roomy
  obtain ⟨awake, timing, placed, sized, broken⟩ := consistent
  have moved : (scene.device.playhead.advance scene.now).1.timing? = scene.journal.timing? :=
    (Playhead.timing?_advance _ _).trans timing
  have drained : (scene.device.playhead.advance scene.now).1.takePending.2.timing? =
      scene.journal.timing? := (Playhead.timing?_takePending _).trans moved
  cases struck with
  | early early => exact ⟨orderly, timing, placed, sized, broken⟩
  | asleep due asleep =>
      refine ⟨orderly, timing, placed, sized, fun running => ?_⟩
      exact absurd ⟨awake.flag.mpr running, running⟩ asleep
  | faulted due running fault =>
      exact ⟨orderly, moved, (moves running).1, sized, fun _ _ => trivial⟩
  | fired due running _ tick gridTick ring source next grid none fed =>
      exact ⟨orderly, drained, (moves running).1.takePending,
        (Device.size_replenished fed).trans sized, nofun⟩
  | told due running _ tick gridTick ring source next grid some fed =>
      exact ⟨orderly, drained, (moves running).1.takePending,
        (Device.size_replenished fed).trans sized, nofun⟩

theorem act (consistent : scene.Consistent) (act : Act)
    (roomy : (scene.act act).journal.Roomy) : Consistent (scene.act act) := by
  obtain ⟨events, grown⟩ := scene.journal_act act
  have before : scene.journal.Roomy := .of_append (grown ▸ roomy)
  cases act with
  | pass tick =>
      obtain ⟨orderly, timing, placed, sized, broken⟩ := consistent
      exact ⟨orderly, timing, placed, sized, broken⟩
  | call call => exact consistent.call before (scene.device.answer_effect scene.now call)
  | poll => exact consistent.poll before (scene.device.strike_struck scene.now)

end Consistent

end Scene

theorem Session.consistent_opening {template : Template} {clock : ManualClock} {session : Session}
    (opened : Session.begin template clock = .ok session) : (session.scene []).Consistent := by
  obtain ⟨orderly, unset, _⟩ := accounts_opening opened
  obtain ⟨source, _, _, idle⟩ := begin_eq_ok opened
  have unset := unset rfl
  have device : (session.scene []).device = template.idleDevice clock.ticksPerSecond source := idle
  refine ⟨orderly, ?_, ?_, ?_, ?_⟩
  · rw [Playhead.timing?, unset]
    rfl
  · intro progress found
    rw [unset] at found
    cases found
  · rw [device]
    rfl
  · rw [device]
    intro running
    cases running

/-- Every scene of a run is consistent, whichever way the clock was moved. -/
theorem Session.Shows.consistent {template : Template} {clock : ManualClock} {session : Session}
    (opened : Session.begin template clock = .ok session) {steps : List Session.Step}
    {scene : Scene} (shown : session.Shows steps scene) (roomy : scene.journal.Roomy) :
    scene.Consistent := by
  obtain ⟨acts, _, reached⟩ := shown
  rw [← reached] at roomy ⊢
  exact Scene.run_invariant (fun _ _ => Journal.Roomy.of_append)
    (fun _ act consistent roomy => consistent.act act roomy) (consistent_opening opened) acts roomy

theorem Session.Shows.roomy {session : Session} {steps : List Session.Step} {scene : Scene}
    (shown : session.Shows steps scene) (roomy : (session.journal steps).Roomy) :
    scene.journal.Roomy := by
  obtain ⟨events, whole⟩ := shown.journal_append
  rw [whole] at roomy
  exact roomy.of_append

end PcmPlayback
