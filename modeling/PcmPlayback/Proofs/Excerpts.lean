import PcmPlayback.Proofs.Consistency
import PcmPlayback.Proofs.Headroom
import PcmPlayback.Proofs.Slices

/-!
# Excerpts of the ring

Copying out of the ring with every step of it checked: the division by the size of a frame, the
remainder by the number of frames, the product that gives the place to begin at, and the four parts
of the ring and the destination that the two copies touch. What makes them safe is how the ring is
measured: it has as many whole frames as the setup asked for, and never more bytes than an
allocation can hold. A ring without bytes is left before any of this.
-/

set_option autoImplicit false

namespace PcmPlayback

namespace Ring

variable {ring : Ring} {frameBytes frames : Nat} {frame : UInt64} {destination : Array UInt8}

/-- Copies as `copyTo` does, with every step checked. -/
def copyToChecked? (ring : Ring) (frameBytes : Nat) (frame : UInt64) (destination : Array UInt8) :
    Option (Nat × Array UInt8) :=
  if ring.size = 0 then some (0, destination)
  else do
    let count := min destination.size ring.size
    let frames ← Checked.div ring.size frameBytes
    let place ← Checked.mod frame.toNat frames
    let start ← Checked.mul wordLimit place frameBytes
    let ahead ← Checked.sub ring.size start
    let first := min count ahead
    let reach ← Checked.add wordLimit start first
    let front ← Checked.slice ring start reach
    let partly ← Checked.overwrite destination 0 first front
    let rest ← Checked.sub count first
    let back ← Checked.slice ring 0 rest
    let whole ← Checked.overwrite partly first count back
    return (count, whole)

theorem start_lt (whole : ring.size = frames * frameBytes) (filled : ring.size ≠ 0) :
    0 < frameBytes ∧ 0 < frames ∧ ring.size / frameBytes = frames ∧
      frame.toNat % frames * frameBytes < ring.size := by
  have bytes : 0 < frameBytes := Nat.pos_of_ne_zero fun none => filled (by rw [whole, none]; rfl)
  have any : 0 < frames := Nat.pos_of_ne_zero fun none => filled (by rw [whole, none, Nat.zero_mul])
  refine ⟨bytes, any, ?_, ?_⟩
  · rw [whole, Nat.mul_div_cancel _ bytes]
  · rw [whole]
    exact Nat.mul_lt_mul_of_pos_right (Nat.mod_lt _ any) bytes

/-- The two copies, from a place in the ring on, leave a window in front of the destination. -/
theorem copies_eq_window {start count first : Nat} (begins : start < ring.size)
    (counted : count = min destination.size ring.size)
    (split : first = min count (ring.size - start)) :
    ∃ front partly back,
      Checked.slice ring start (start + first) = some front ∧
        Checked.overwrite destination 0 first front = some partly ∧
        Checked.slice ring 0 (count - first) = some back ∧
        Checked.overwrite partly first count back =
          some (ring.window start count ++ destination.extract count destination.size) := by
  have within : first ≤ destination.size ∧ start + first ≤ ring.size ∧ first ≤ count := by omega
  obtain ⟨inside, reaches, before⟩ := within
  have front : (ring.extract start (start + first)).size = first - 0 := by
    rw [Array.size_extract]
    omega
  have back : (ring.extract 0 (count - first)).size = count - first := by
    rw [Array.size_extract]
    omega
  have partly := Checked.size_overwritten (Nat.zero_le first) inside front
  have room : count ≤ (destination.extract 0 0 ++ ring.extract start (start + first) ++
      destination.extract first destination.size).size := by
    rw [partly]
    omega
  refine ⟨_, _, _, Checked.slice_eq_some (Nat.le_add_right _ _) reaches,
    Checked.overwrite_eq_some (Nat.zero_le first) inside front,
    Checked.slice_eq_some (Nat.zero_le _) (by omega), ?_⟩
  rw [Checked.overwrite_eq_some before room back,
    Checked.extract_overwritten (Nat.zero_le first) inside front, partly,
    Checked.extract_behind_overwritten (Nat.zero_le first) inside front before, Array.extract_zero,
    Array.empty_append, window, ← split]

theorem copyToChecked?_eq (whole : ring.size = frames * frameBytes) (fits : ring.size < wordLimit)
    (frame : UInt64) (destination : Array UInt8) :
    ring.copyToChecked? frameBytes frame destination =
      some (ring.copyTo frameBytes frame destination) := by
  by_cases filled : ring.size = 0
  · rw [copyToChecked?, copyTo, if_pos filled, if_pos filled]
  · obtain ⟨bytes, any, exact, begins⟩ := @start_lt ring frameBytes frames frame whole filled
    obtain ⟨front, partly, back, reads, writes, wraps, done⟩ :=
      @copies_eq_window ring destination _ _ _ begins rfl rfl
    have short : frame.toNat % frames * frameBytes < wordLimit := Nat.lt_trans begins fits
    have reach : frame.toNat % frames * frameBytes +
        min (min destination.size ring.size)
          (ring.size - frame.toNat % frames * frameBytes) < wordLimit := by
      omega
    have before : min (min destination.size ring.size)
        (ring.size - frame.toNat % frames * frameBytes) ≤ min destination.size ring.size :=
      Nat.min_le_left _ _
    simp only [copyToChecked?, copyTo, if_neg filled, exact, Checked.div_eq_some bytes,
      Checked.mod_eq_some any, Checked.mul_eq_some short, Checked.sub_eq_some (Nat.le_of_lt begins),
      Checked.add_eq_some reach, Checked.sub_eq_some before, Option.bind_eq_bind, Option.bind_some,
      reads, writes, wraps, done]
    rfl

end Ring

namespace Device

/-- How the ring of a device is measured: without a setup it is empty, and otherwise it holds the
frames of the setup, in bytes that one allocation can hold. -/
structure Measured (device : Device) : Prop where
  unset : device.setup? = none → device.ring.size = 0
  whole : ∀ setup, device.setup? = some setup →
    device.ring.size = setup.bufferFrames.toNat * device.profile.frameBytes
  bounded : device.ring.size ≤ allocationLimit

namespace Measured

variable {device next : Device} {now : Tick}

theorem same (measured : device.Measured) (setup : next.setup? = device.setup?)
    (size : next.ring.size = device.ring.size) (profile : next.profile = device.profile) :
    next.Measured := by
  obtain ⟨unset, whole, bounded⟩ := measured
  constructor
  · rw [setup, size]
    exact unset
  · rw [setup, size, profile]
    exact whole
  · rw [size]
    exact bounded

theorem frames (measured : device.Measured) :
    ∃ frames, device.ring.size = frames * device.profile.frameBytes ∧
      ∀ setup, device.setup? = some setup → frames = setup.bufferFrames.toNat := by
  obtain ⟨unset, whole, _⟩ := measured
  cases set : device.setup? with
  | none => exact ⟨0, (unset set).trans (Nat.zero_mul _).symm, nofun⟩
  | some setup =>
      refine ⟨setup.bufferFrames.toNat, whole setup set, ?_⟩
      rintro _ ⟨⟩
      rfl

theorem effect {event : Option Event} (measured : device.Measured)
    (effect : device.Effect now next event) : next.Measured := by
  cases effect with
  | prepared setup size allowed sound sized granted =>
      have fits : size ≤ allocationLimit ∧ size ≤ device.profile.memory := of_decide_eq_true granted
      have measures : (Ring.silent size).size = size := Array.size_replicate
      refine ⟨nofun, ?_, Nat.le_trans (Nat.le_of_eq measures) fits.1⟩
      intro found present
      cases present
      exact measures.trans sized
  | unchanged => exact measured
  | rerouted | misstarted | started | lowered => exact measured.same rfl rfl rfl
  | stopped | jammed | read | freed => exact measured.same rfl rfl rfl

theorem struck {strike : Strike} (measured : device.Measured)
    (struck : device.Struck now next strike) : next.Measured := by
  cases struck with
  | early => exact measured
  | asleep | faulted => exact measured.same rfl rfl rfl
  | fired _ _ _ _ _ _ _ _ _ _ fed => exact measured.same rfl (size_replenished fed) rfl
  | told _ _ _ _ _ _ _ _ _ _ fed => exact measured.same rfl (size_replenished fed) rfl

end Measured

end Device

namespace Session

variable {template : Template} {clock : ManualClock} {session : Session}

theorem Shows.measured (opened : Session.begin template clock = .ok session) {steps : List Step}
    {scene : Scene} (shown : session.Shows steps scene) : scene.device.Measured :=
  shown.invariant (fun _ => ⟨fun _ => rfl, nofun, Nat.zero_le _⟩) Device.Measured.effect
    Device.Measured.struck opened

/-- Copying out of the ring is safe in every scene of a run, whichever way the clock was moved, from
any frame and into any destination. It copies what both can hold: the bytes from the frame on, in a
circle of the frames that the setup asked for. The bytes behind them stay, and without a setup
all do. -/
theorem excerpts_circular (opened : Session.begin template clock = .ok session)
    (steps : List Step) (scene : Scene) (shown : session.Shows steps scene) (frame : UInt64)
    (destination : Array UInt8) :
    ∃ count filled,
      scene.device.ring.copyToChecked? template.frameBytes frame destination =
        some (count, filled) ∧
      scene.device.copyOut frame destination = (count, filled) ∧
      count = min destination.size scene.device.ring.size ∧
      filled.size = destination.size ∧
      (scene.device.setup? = none → scene.device.ring.size = 0) ∧
      (∀ setup, scene.device.setup? = some setup →
        scene.device.ring.size = setup.bufferFrames.toNat * template.frameBytes ∧
        ∀ index, index < count → filled[index]? =
          scene.device.ring[(frame.toNat % setup.bufferFrames.toNat * template.frameBytes + index) %
            (setup.bufferFrames.toNat * template.frameBytes)]?) ∧
      ∀ index, count ≤ index → filled[index]? = destination[index]? := by
  have measured := shown.measured opened
  have profile : scene.device.profile.frameBytes = template.frameBytes :=
    congrArg Profile.frameBytes (shown.profiled opened).same
  obtain ⟨frames, whole, asked⟩ := measured.frames
  have fits : scene.device.ring.size < wordLimit :=
    Nat.lt_of_le_of_lt measured.bounded (by decide)
  rw [profile] at whole
  have begins : scene.device.ring.size ≠ 0 →
      frame.toNat % (scene.device.ring.size / template.frameBytes) * template.frameBytes <
        scene.device.ring.size := by
    intro filled
    obtain ⟨_, _, exact, inside⟩ := @Ring.start_lt _ _ _ frame whole filled
    rwa [exact]
  have copied : scene.device.ring.copyTo template.frameBytes frame destination =
      (min destination.size scene.device.ring.size,
        (scene.device.ring.copyTo template.frameBytes frame destination).2) :=
    Prod.ext (Ring.copyTo_count _ _ _ _) rfl
  have byte := @Ring.getElem?_copyTo _ _ frame destination begins
  refine ⟨min destination.size scene.device.ring.size, _, ?_, ?_, rfl, Ring.size_copyTo begins,
    measured.unset, ?_, ?_⟩
  · rw [Ring.copyToChecked?_eq whole fits, ← copied]
  · rw [Device.copyOut, profile, ← copied]
  · intro setup set
    rw [← asked setup set, ← whole]
    refine ⟨rfl, fun index inside => ?_⟩
    obtain ⟨_, _, exact, _⟩ := @Ring.start_lt _ _ _ frame whole (by omega)
    rw [byte, if_pos inside, exact]
  · intro index behind
    rw [byte, if_neg (Nat.not_lt.mpr behind)]

/-- An excerpt at work: the ring of four frames has been filled from a source of five bytes, and
eleven bytes are asked for from the last frame that a word can name, which is the fourth. -/
theorem excerpts_circular_wrapped :
    ∃ (template : Template) (session : Session) (steps : List Step) (scene : Scene)
      (filled : Array UInt8),
      Session.begin template ⟨8000, 7⟩ = .ok session ∧ session.Shows steps scene ∧
        scene.device.ring = #[1, 2, 3, 4, 5, 1, 2, 3] ∧
        scene.device.copyOut 18446744073709551615 (Array.replicate 11 9) = (8, filled) ∧
        filled[1]? = some 3 ∧ filled[2]? = some 1 ∧ filled[8]? = some 9 := by
  let bytes : Array UInt8 := #[1, 2, 3, 4, 5]
  let template : Template :=
    { capabilities := { Capabilities.standard with periodBytes := ⟨1, 64⟩ }, source := some bytes }
  let session : Session :=
    ⟨⟨8000, 7⟩, ⟨template.idleDevice 8000 (some ⟨bytes, 0, by decide⟩), []⟩⟩
  let steps : List Step :=
    [.deck (.call (.prepare ⟨8000, 4, 2⟩)), .deck (.call .start), .clock (.forward 2), .deck .poll]
  let last := (session.run steps).1.scene (session.journal steps)
  have playable : template.capabilities.layoutDefect? template.format template.channels = none := by
    decide
  have opened : Session.begin template ⟨8000, 7⟩ = .ok session := by
    simp only [Session.begin, Template.build, playable]
    rfl
  have shown : session.Shows steps last := session.shows_last steps
  have ring : last.device.ring = #[1, 2, 3, 4, 5, 1, 2, 3] := by decide +kernel
  have set : last.device.setup? = some ⟨8000, 4, 2⟩ := by decide +kernel
  obtain ⟨count, filled, _, copied, counted, _, _, circle, behind⟩ :=
    excerpts_circular opened steps last shown 18446744073709551615 (Array.replicate 11 9)
  have eight : count = 8 := by
    rw [counted, ring]
    rfl
  subst eight
  obtain ⟨_, bytes⟩ := circle _ set
  rw [ring] at bytes
  exact ⟨template, session, steps, last, filled, opened, shown, ring, copied,
    (bytes 1 (by decide)).trans (by decide +kernel),
    (bytes 2 (by decide)).trans (by decide +kernel), (behind 8 (Nat.le_refl 8)).trans rfl⟩

end Session

end PcmPlayback
