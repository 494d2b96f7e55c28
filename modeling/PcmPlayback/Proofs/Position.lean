import PcmPlayback.Proofs.Accounts

/-!
# The position law

The position that a device shows is the number of whole frames that fit into the ticks it has been
running since it was last prepared, counted around its buffer. It depends on these ticks alone:
not on the schedule of the timer, nor on how often the timer fired or the position was read, nor
on expiries and starts that faulted.
-/

set_option autoImplicit false

namespace PcmPlayback

/-- The frame at which playback stands by the ticks that were played. -/
def Journal.frame (journal : Journal) (ticksPerSecond : Nat) : Nat :=
  match journal.timing? with
  | none => 0
  | some timing =>
      journal.played * timing.setup.rate.toNat / ticksPerSecond %
        timing.setup.bufferFrames.toNat

namespace Scene.Accounts

variable {scene : Scene}

theorem frame_of_progress {timing : Timing} {pending : Nat}
    (present : scene.journal.timing? = some timing) :
    (Progress.after timing (timing.speed * scene.journal.played) pending).frame =
      scene.journal.frame timing.ticksPerSecond.toNat := by
  rw [Progress.frame_after, Journal.frame, present, Nat.mul_comm]
  rfl

theorem pointer_eq (accounts : scene.Accounts) (live : scene.device.stage ≠ .freed)
    {ticksPerSecond : Nat}
    (clocked : ∀ timing, scene.journal.timing? = some timing →
      timing.ticksPerSecond.toNat = ticksPerSecond) :
    (scene.device.pointer scene.now).2 = .done (scene.journal.frame ticksPerSecond) := by
  cases present : scene.journal.timing? with
  | none =>
      have unset := accounts.unset present
      rw [Device.pointer, if_neg (by simp [Playhead.isConfigured, unset])]
      simp [Playhead.frame, unset, Journal.frame, present]
  | some timing =>
      obtain ⟨_, exact⟩ := accounts.exact timing present
      rw [← clocked timing present]
      by_cases running : scene.device.stage = .running
      · have reads : scene.device.playhead.isConfigured = true ∧ scene.device.stage = .running :=
          ⟨accounts.orderly.configured (.inr (.inl running)), running⟩
        rw [Device.pointer, if_pos reads, accounts.advance_eq running present]
        exact congrArg Outcome.done (frame_of_progress present)
      · rw [accounts.resting running live] at exact
        rw [Device.pointer, if_neg fun reads => running reads.2]
        simp only [Playhead.frame, exact]
        exact congrArg Outcome.done (frame_of_progress present)

end Scene.Accounts

/-- In every run whose clock does not go back, as long as the device is not freed, its position is
the one that the ticks played give: at the end of the run, and in every scene of it, be it in the
middle of a callback. -/
theorem Session.pointer_eq_frame {template : Template} {clock : ManualClock} {session : Session}
    (opened : Session.begin template clock = .ok session) (steps : List Session.Step)
    (forward : (session.journal steps).Forward) :
    ((session.run steps).1.deck.device.stage ≠ .freed →
      ((session.run steps).1.deck.device.pointer (session.run steps).1.clock.now).2 =
        .done ((session.journal steps).frame clock.ticksPerSecond.toNat)) ∧
    ∀ scene, session.Shows steps scene → scene.device.stage ≠ .freed →
      (scene.device.pointer scene.now).2 =
        .done (scene.journal.frame clock.ticksPerSecond.toNat) := by
  have everywhere : ∀ scene, session.Shows steps scene → scene.device.stage ≠ .freed →
      (scene.device.pointer scene.now).2 =
        .done (scene.journal.frame clock.ticksPerSecond.toNat) := by
    intro scene shown live
    have accounts := shown.accounts opened (shown.forward forward)
    refine accounts.pointer_eq live fun timing present => ?_
    exact congrArg UInt64.toNat ((shown.profiled opened).clocked timing present)
  exact ⟨everywhere _ (session.shows_last steps), everywhere⟩

/-- The law at work: a late poll, a stop in the middle of a period and a pause of the clock. The
device has run for 323 and then for 91 ticks. -/
theorem Session.pointer_eq_frame_resumed :
    ∃ (session : Session) (steps : List Session.Step),
      Session.begin {} ⟨1000, 7⟩ = .ok session ∧ (session.journal steps).Forward ∧
        (session.run steps).1.deck.device.stage ≠ .freed ∧
        (session.journal steps).played = 414 ∧
        ((session.run steps).1.deck.device.pointer (session.run steps).1.clock.now).2 =
          .done (414 * 11025 / 1000 % 3000) := by
  let session : Session := ⟨⟨1000, 7⟩, ⟨({} : Template).idleDevice 1000 none, []⟩⟩
  let steps : List Session.Step :=
    [.deck (.call (.prepare ⟨11025, 3000, 700⟩)), .deck (.call .start), .clock (.forward 323),
      .deck .poll, .deck (.call .stop), .clock (.forward 50), .deck (.call (.trigger .resume)),
      .clock (.forward 91), .deck .poll]
  have opened : Session.begin {} ⟨1000, 7⟩ = .ok session := rfl
  have forward : (session.journal steps).Forward := by decide +kernel
  have live : (session.run steps).1.deck.device.stage ≠ .freed := by decide +kernel
  have played : (session.journal steps).played = 414 := by decide +kernel
  have frame : (session.journal steps).frame (1000 : UInt64).toNat = 414 * 11025 / 1000 % 3000 := by
    decide +kernel
  have law := (Session.pointer_eq_frame opened steps forward).1 live
  exact ⟨session, steps, opened, forward, live, played, law.trans (congrArg Outcome.done frame)⟩

end PcmPlayback
