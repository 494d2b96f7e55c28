import PcmPlayback.Proofs.Lifecycle

/-!
# Refused calls

A call that is refused leaves everything as it was, and so does a preparation that faults. This
needs a look at the runs: a stop lowers the flag before it asks for the stage, and is harmless only
because a device at rest has its flag lowered already. How a preparation ends is decided by the
capabilities of the device first, then by its stage, and last by the size of the ring.
-/

set_option autoImplicit false

namespace PcmPlayback

namespace Capabilities

theorem defect?_of_check {limits : Capabilities} {setup : StreamSetup} {frameBytes : Nat}
    (accepted : limits.check setup frameBytes = .done ()) : setup.defect? = none := by
  rw [check] at accepted
  cases found : setup.defect? with
  | none => rfl
  | some cause => simp [found] at accepted

end Capabilities

namespace Playhead

theorem advance_ne_rejected (head : Playhead) (now : Tick) (cause : Error) :
    (head.advance now).2 ≠ .rejected cause := by
  rw [advance]
  split
  · simp
  · cases head.progress with
    | none => simp
    | some progress =>
        simp only [Progress.move]
        split
        · simp
        · split
          · split <;> simp
          · simp

end Playhead

namespace Device

/-- Nothing is left of a playback that has come to rest: its flag is lowered and its timer off. -/
def Dormant (device : Device) : Prop :=
  device.stage ≠ .running → device.active = false ∧ device.expiry = none

theorem Dormant.effect {device next : Device} {now : Tick} {event : Option Event}
    (dormant : device.Dormant) (effect : device.Effect now next event) : next.Dormant := by
  cases effect with
  | unchanged | rerouted => exact dormant
  | prepared setup size allowed =>
      intro _
      exact dormant (Stage.mayPrepare_iff.mp allowed).1
  | misstarted allowed =>
      intro _
      exact dormant (Stage.resting_of_mayStart allowed).1
  | started => exact fun resting => absurd rfl resting
  | lowered idle => exact fun _ => ⟨rfl, (dormant idle).2⟩
  | stopped | freed => exact fun _ => ⟨rfl, rfl⟩
  | jammed running | read running => exact fun resting => absurd running resting

theorem Dormant.struck {device next : Device} {now : Tick} {strike : Strike}
    (dormant : device.Dormant) (struck : device.Struck now next strike) : next.Dormant := by
  cases struck with
  | early => exact dormant
  | asleep => exact fun resting => ⟨(dormant resting).1, rfl⟩
  | faulted due running | fired due running | told due running =>
      exact fun resting => absurd running resting

theorem prepare_unchanged {device : Device} {setup : StreamSetup}
    (undone : (device.prepare setup).2 ≠ .done ()) : (device.prepare setup).1 = device := by
  rcases device.prepare_cases setup with ⟨_, _, done⟩ | ⟨same, _⟩
  · exact absurd (congrArg Prod.snd done) undone
  · exact same

theorem start_unchanged {device : Device} {now : Tick} {cause : Error}
    (refused : (device.start now).2 = .rejected cause) : (device.start now).1 = device := by
  by_cases allowed : device.stage.mayStart = true
  · rw [start_eq now allowed] at refused
    cases first : (device.rewound now).firstExpiry? now <;> simp [first] at refused
  · rw [start, if_neg allowed]

/-- A stop that is refused has lowered a flag that was lowered before. -/
theorem stop_unchanged {device : Device} {now : Tick} {cause : Error} (dormant : device.Dormant)
    (refused : (device.stop now).2 = .rejected cause) : (device.stop now).1 = device := by
  by_cases running : device.stage = .running
  · have stuck : (device.stop now).2 = (device.playhead.advance now).2 := by
      simp only [stop, running, if_true]
      split <;> rfl
    exact absurd (stuck.symm.trans refused) (device.playhead.advance_ne_rejected now cause)
  · rw [stop, if_neg running, ← (dormant running).1]

theorem answer_unchanged {device : Device} {now : Tick} {call : Call} {cause : Error}
    (dormant : device.Dormant)
    (controls : call.prepares = true ∨ call.starts = true ∨ call.stops = true)
    (refused : (device.answer now call).2 = .ended (.rejected cause)) :
    (device.answer now call).1 = device := by
  cases call with
  | prepare setup =>
      have ended : (device.prepare setup).2 = .rejected cause := by simpa [answer] using refused
      exact prepare_unchanged (by simp [ended])
  | start => exact start_unchanged (by simpa [answer] using refused)
  | stop => exact stop_unchanged dormant (by simpa [answer] using refused)
  | trigger command =>
      cases command with
      | start | resume => exact start_unchanged (by simpa [answer, obey] using refused)
      | stop | suspend => exact stop_unchanged dormant (by simpa [answer, obey] using refused)
  | pointer | status | describe | copyOut | register | unregister | free =>
      simp [Call.prepares, Call.starts, Call.stops] at controls

/-- How the preparation of a setup ends: as the capabilities say if they turn the setup down, else
by the stage, else by the size of the ring. Its own rewinding of the playhead cannot fail then. -/
structure Verdict (device : Device) (setup : StreamSetup) : Prop where
  unfit : ∀ cause,
    device.profile.capabilities.check setup device.profile.frameBytes = .rejected cause →
      (device.prepare setup).2 = .rejected cause
  excessive : device.profile.capabilities.check setup device.profile.frameBytes = .fault →
    (device.prepare setup).2 = .fault
  rewinds : device.profile.capabilities.check setup device.profile.frameBytes = .done () →
    ∀ head : Playhead, (head.configure setup device.profile.ticksPerSecond).2 = .done ()
  engaged : device.profile.capabilities.check setup device.profile.frameBytes = .done () →
    device.stage = .running ∨ device.stage = .freed →
      (device.prepare setup).2 = .rejected (.wrongStage "prepare" device.stage)
  oversized : device.profile.capabilities.check setup device.profile.frameBytes = .done () →
    device.stage ≠ .running → device.stage ≠ .freed →
      ((device.prepare setup).2 = .rejected .outOfMemory ↔
        allocationLimit < setup.bufferFrames.toNat * device.profile.frameBytes)
  accepted : device.profile.capabilities.check setup device.profile.frameBytes = .done () →
    device.stage ≠ .running → device.stage ≠ .freed →
      setup.bufferFrames.toNat * device.profile.frameBytes ≤ allocationLimit →
        (device.prepare setup).2 = .done ()

theorem prepare_of_check {device : Device} {setup : StreamSetup}
    (checked : device.profile.capabilities.check setup device.profile.frameBytes = .done ())
    (ticks : device.profile.ticksPerSecond ≠ 0) :
    (device.prepare setup).2 =
      if device.stage.mayPrepare then
        if device.profile.grants (setup.bufferFrames.toNat * device.profile.frameBytes) then
          .done ()
        else .rejected .outOfMemory
      else .rejected (.wrongStage "prepare" device.stage) := by
  have accepted := Capabilities.defect?_of_check checked
  simp only [prepare, checked, Playhead.configure_of_defect?_eq_none _ accepted ticks]
  split
  · split <;> rfl
  · rfl

/-- If the host grants whatever an allocation can hold, the size of the ring decides alone. -/
theorem verdict (device : Device) (ticks : device.profile.ticksPerSecond ≠ 0)
    (memory : allocationLimit ≤ device.profile.memory) (setup : StreamSetup) :
    device.Verdict setup := by
  have grants (size : Nat) : device.profile.grants size = true ↔ size ≤ allocationLimit := by
    simp only [Profile.grants, decide_eq_true_eq]
    exact ⟨And.left, fun fits => ⟨fits, Nat.le_trans fits memory⟩⟩
  constructor
  · intro cause checked
    simp only [prepare, checked]
  · intro checked
    simp only [prepare, checked]
  · intro checked head
    exact congrArg Prod.snd
      (head.configure_of_defect?_eq_none (Capabilities.defect?_of_check checked) ticks)
  · intro checked engaged
    have busy : ¬ device.stage.mayPrepare = true := by
      rcases engaged with running | freed
      · simp [running, Stage.mayPrepare]
      · simp [freed, Stage.mayPrepare]
    rw [prepare_of_check checked ticks, if_neg busy]
  · intro checked resting live
    rw [prepare_of_check checked ticks, if_pos (Stage.mayPrepare_iff.mpr ⟨resting, live⟩)]
    split
    · next granted => simpa using (grants _).mp granted
    · next refused => simpa using fun fits => refused ((grants _).mpr fits)
  · intro checked resting live fits
    rw [prepare_of_check checked ticks, if_pos (Stage.mayPrepare_iff.mpr ⟨resting, live⟩),
      if_pos ((grants _).mpr fits)]

end Device

namespace Session

variable {template : Template} {clock : ManualClock} {session : Session}

/-- A device at rest is dormant in every scene of a run, whatever its clock and its buffers. -/
theorem Shows.dormant (opened : Session.begin template clock = .ok session) {steps : List Step}
    {scene : Scene} (shown : session.Shows steps scene) : scene.device.Dormant :=
  shown.invariant (fun _ _ => ⟨rfl, rfl⟩) Device.Dormant.effect Device.Dormant.struck opened

/-- Refusals are harmless in every run. In each of its scenes, be it in the middle of a callback, a
preparation, start or stop that is refused leaves the device as it was, and so does a preparation
that faults; as a step it leaves the whole session. A preparation ends as its verdict says, if the
clock ticks and the host has the memory. -/
theorem refusals_harmless (opened : Session.begin template clock = .ok session)
    (steps : List Step) :
    (∀ scene, session.Shows steps scene →
      (∀ call cause, call.prepares = true ∨ call.starts = true ∨ call.stops = true →
        (scene.device.answer scene.now call).2 = .ended (.rejected cause) →
          (scene.device.answer scene.now call).1 = scene.device) ∧
      (∀ setup, (scene.device.answer scene.now (.prepare setup)).2 = .ended .fault →
        (scene.device.answer scene.now (.prepare setup)).1 = scene.device) ∧
      scene.device.profile = template.profile clock.ticksPerSecond ∧
      (clock.ticksPerSecond ≠ 0 → allocationLimit ≤ template.memory →
        ∀ setup, scene.device.Verdict setup)) ∧
    ∀ call cause view, call.prepares = true ∨ call.starts = true ∨ call.stops = true →
      ((session.run steps).1.step (.deck (.call call))).2 =
          .deck (.answered (.ended (.rejected cause))) view →
        ((session.run steps).1.step (.deck (.call call))).1 = (session.run steps).1 := by
  constructor
  · intro scene shown
    have dormant := shown.dormant opened
    have profile := (shown.profiled opened).same
    refine ⟨fun call cause controls refused => ?_, fun setup faulted => ?_, profile, ?_⟩
    · exact Device.answer_unchanged dormant controls refused
    · have ended : (scene.device.prepare setup).2 = .fault := by
        simpa [Device.answer] using faulted
      exact Device.prepare_unchanged (by simp [ended])
    · intro ticks memory
      apply Device.verdict
      · rw [profile]
        exact ticks
      · rw [profile]
        exact memory
  · intro call cause view controls refused
    have dormant := (session.shows_last steps).dormant opened
    have reply : ((session.run steps).1.deck.device.answer (session.run steps).1.clock.now call).2 =
        .ended (.rejected cause) := Deck.Reply.answered.inj (Entry.deck.inj refused).1
    have same : ((session.run steps).1.deck.device.answer (session.run steps).1.clock.now call).1 =
        (session.run steps).1.deck.device := Device.answer_unchanged dormant controls reply
    simp only [step, Deck.step, Deck.call, same]

/-- Refusals at work: a device is stopped in the middle of a period. It then refuses a second stop,
and a ring that is one byte larger than any allocation, and is left as it was both times. -/
theorem refusals_harmless_oversized :
    ∃ (template : Template) (session : Session) (steps : List Step) (large : StreamSetup),
      Session.begin template ⟨1000, 7⟩ = .ok session ∧
        (session.run steps).1.deck.device.stage = .stopped ∧
        large.bufferFrames.toNat * template.frameBytes = allocationLimit + 1 ∧
        ((session.run steps).1.deck.device.answer (session.run steps).1.clock.now
          (.prepare large)).2 = .ended (.rejected .outOfMemory) ∧
        ((session.run steps).1.deck.device.answer (session.run steps).1.clock.now
          (.prepare large)).1 = (session.run steps).1.deck.device ∧
        ((session.run steps).1.step (.deck (.call (.trigger .suspend)))).1 =
          (session.run steps).1 := by
  let limits : Capabilities :=
    { Capabilities.standard with
      bufferBytesMax := 18446744073709551615
      periodBytes := ⟨1, 18446744073709551615⟩ }
  let template : Template :=
    { capabilities := limits, channels := 1, memory := allocationLimit }
  let session : Session := ⟨⟨1000, 7⟩, ⟨template.idleDevice 1000 none, []⟩⟩
  let steps : List Step :=
    [.deck .join, .deck (.call (.prepare ⟨11025, 3000, 700⟩)), .deck (.call .start),
      .clock (.forward 123), .deck .poll, .clock (.forward 10), .deck (.call .stop)]
  let large : StreamSetup := ⟨11025, 9223372036854775808, 9223372036854775808⟩
  have fits : template.capabilities.layoutDefect? template.format template.channels = none := by
    decide +kernel
  have opened : Session.begin template ⟨1000, 7⟩ = .ok session := by
    simp only [Session.begin, Template.build, fits]
    rfl
  have stopped : (session.run steps).1.deck.device.stage = .stopped := by decide +kernel
  have size : large.bufferFrames.toNat * template.frameBytes = allocationLimit + 1 := by
    decide +kernel
  have checked : template.capabilities.check large template.frameBytes = .done () := by
    decide +kernel
  obtain ⟨scenes, whole⟩ := refusals_harmless opened steps
  obtain ⟨unchanged, _, profile, verdicts⟩ := scenes _ (session.shows_last steps)
  have verdict := verdicts (by decide) (Nat.le_refl _) large
  simp only [scene] at unchanged profile verdict
  have outcome : ((session.run steps).1.deck.device.prepare large).2 = .rejected .outOfMemory := by
    refine (verdict.oversized ?_ ?_ ?_).mpr ?_
    · rw [profile]
      exact checked
    · simp [stopped]
    · simp [stopped]
    · rw [profile]
      exact Nat.lt_of_lt_of_eq (Nat.lt_succ_self _) size.symm
  have refused : ((session.run steps).1.deck.device.answer (session.run steps).1.clock.now
      (.prepare large)).2 = .ended (.rejected .outOfMemory) := by
    simp only [Device.answer, outcome]
  have again : ((session.run steps).1.step (.deck (.call (.trigger .suspend)))).2 =
      .deck (.answered (.ended (.rejected (.wrongStage "stop" .stopped))))
        ((session.run steps).1.deck.view [] []) := by
    decide +kernel
  have same := unchanged (.prepare large) .outOfMemory (.inl rfl) refused
  exact ⟨template, session, steps, large, opened, stopped, size, refused, same,
    whole (.trigger .suspend) _ _ (.inr (.inr rfl)) again⟩

end Session

end PcmPlayback
