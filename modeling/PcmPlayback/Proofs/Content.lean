import PcmPlayback.Proofs.Consistency

/-!
# What the ring holds

Every firing fills the ring with what the source holds next, and every start rewinds the source. So
the ring holds the part of the source that the number of the last firing names, counted from the
start before it, and silence before the first firing of a preparation or without a source. Nothing
but a preparation and a firing touches the ring.
-/

set_option autoImplicit false

namespace PcmPlayback

namespace Journal

/-- Firings since the last start. -/
def firings : Journal → Nat
  | [] => 0
  | .started _ :: _ => 0
  | .fired _ :: earlier => firings earlier + 1
  | .prepared _ :: earlier => firings earlier
  | .passed _ _ _ :: earlier => firings earlier
  | .faulted _ :: earlier => firings earlier
  | .told _ :: earlier => firings earlier

/-- The number of the last firing since the last preparation, counted from the start before it. -/
def filling? : Journal → Option Nat
  | [] => none
  | .prepared _ :: _ => none
  | .fired _ :: earlier => some (firings earlier + 1)
  | .started _ :: earlier => filling? earlier
  | .passed _ _ _ :: earlier => filling? earlier
  | .faulted _ :: earlier => filling? earlier
  | .told _ :: earlier => filling? earlier

/-- The byte at a place of a ring, as the source and the last firing give it. -/
def byte? (journal : Journal) (source : Option (Array UInt8)) (size index : Nat) : Option UInt8 :=
  match source, journal.filling? with
  | some bytes, some number => bytes[((number - 1) * size + index) % bytes.size]?
  | some _, none => some 0
  | none, _ => some 0

theorem byte?_of_filling {journal : Journal} {number : Nat}
    (filling : journal.filling? = some number) (bytes : Array UInt8) (size index : Nat) :
    journal.byte? (some bytes) size index =
      bytes[((number - 1) * size + index) % bytes.size]? := by
  simp only [byte?, filling]

theorem byte?_of_unfilled {journal : Journal} (unfilled : journal.filling? = none)
    (source : Option (Array UInt8)) (size index : Nat) :
    journal.byte? source size index = some 0 := by
  cases source with
  | none => rfl
  | some bytes => simp only [byte?, unfilled]

end Journal

theorem Ring.getElem?_copyTo_zero {ring : Ring} (frameBytes : Nat) {destination : Array UInt8}
    {index : Nat} (inside : index < min destination.size ring.size) :
    (ring.copyTo frameBytes 0 destination).2[index]? = ring[index]? := by
  have start : (0 : UInt64).toNat % (ring.size / frameBytes) * frameBytes = 0 := by simp
  rw [getElem?_copyTo (fun filled => start ▸ Nat.pos_of_ne_zero filled), if_pos inside, start,
    Nat.zero_add, Nat.mod_eq_of_lt (by omega)]

namespace Scene

/-- What the journal of a scene says about its source and its ring. -/
structure Filled (source : Option (Array UInt8)) (scene : Scene) : Prop where
  bytes : scene.device.source.map LoopedSource.bytes = source
  cursor : scene.device.stage = .running → ∀ looped, scene.device.source = some looped →
    looped.cursor = scene.journal.firings * scene.device.ring.size % looped.bytes.size
  content : ∀ index, index < scene.device.ring.size →
    scene.device.ring[index]? = scene.journal.byte? source scene.device.ring.size index

namespace Filled

variable {source : Option (Array UInt8)} {scene : Scene}

theorem call (filled : scene.Filled source) {next : Device} {event : Option Event}
    (effect : scene.device.Effect scene.now next event) :
    Filled source ⟨scene.now, next, event.toList ++ scene.journal⟩ := by
  obtain ⟨bytes, cursor, content⟩ := filled
  have rewound : (scene.device.source.map LoopedSource.rewind).map LoopedSource.bytes = source := by
    rw [← bytes]
    exact Option.map_map _ _ _
  cases effect with
  | unchanged | rerouted => exact ⟨bytes, cursor, content⟩
  | prepared setup size allowed sound =>
      refine ⟨bytes, by simp, ?_⟩
      intro index inside
      refine Eq.trans ?_ (Journal.byte?_of_unfilled rfl source _ index).symm
      simpa [Ring.silent, Array.getElem?_replicate] using inside
  | misstarted allowed =>
      refine ⟨rewound, fun running => ?_, content⟩
      exact absurd running (Stage.resting_of_mayStart allowed).1
  | started tick gridTick allowed first grid =>
      refine ⟨rewound, ?_, content⟩
      intro _ looped found
      obtain ⟨before, _, same⟩ := Option.map_eq_some_iff.mp found
      rw [← same]
      simp [LoopedSource.rewind, Journal.firings]
  | lowered | read => exact ⟨bytes, cursor, content⟩
  | stopped => exact ⟨bytes, by simp, content⟩
  | jammed => exact ⟨bytes, cursor, content⟩
  | freed => exact ⟨bytes, by simp [Device.free], content⟩

/-- A firing moves the source on by one ring and fills the ring with what it passes over. -/
theorem fired (filled : scene.Filled source) (running : scene.device.stage = .running)
    {ring : Ring} {left : Option LoopedSource} (fed : (ring, left) = scene.device.replenished)
    {device : Device} (holds : device.ring = ring) (leaves : device.source = left)
    {journal : Journal} (firings : journal.firings = scene.journal.firings + 1)
    (filling : journal.filling? = some (scene.journal.firings + 1)) :
    Filled source ⟨scene.now, device, journal⟩ := by
  obtain ⟨bytes, cursor, content⟩ := filled
  subst holds leaves
  have size := Device.size_replenished fed
  cases sounds : scene.device.source with
  | none =>
      simp only [Device.replenished, sounds, Prod.mk.injEq] at fed
      obtain ⟨same, none⟩ := fed
      rw [sounds] at bytes
      subst bytes
      refine ⟨by simp [none], by simp [none], ?_⟩
      rw [same]
      exact content
  | some looped =>
      simp only [Device.replenished, sounds, Prod.mk.injEq] at fed
      obtain ⟨reads, moved⟩ := fed
      rw [sounds] at bytes
      subst bytes
      -- the ring before tells only its size, which the firing keeps
      have place := cursor running looped sounds
      refine ⟨by simp [moved], ?_, ?_⟩
      · intro _ later found
        cases Option.some.inj (moved.symm.trans found)
        rw [LoopedSource.cursor_read, LoopedSource.bytes_read, place, Nat.mod_add_mod, firings,
          size, Nat.add_mul, Nat.one_mul]
      · intro index inside
        change index < device.ring.size at inside
        change device.ring[index]? = journal.byte? _ device.ring.size index
        rw [Option.map_some, Journal.byte?_of_filling filling, Nat.add_sub_cancel, size, reads,
          LoopedSource.getElem?_read looped (by omega), place, Nat.mod_add_mod]

theorem poll (filled : scene.Filled source) {next : Device} {strike : Device.Strike}
    (struck : scene.device.Struck scene.now next strike) :
    Filled source ⟨scene.now, next, strike.events scene.now ++ scene.journal⟩ := by
  cases struck with
  | early => exact filled
  | asleep => exact ⟨filled.bytes, filled.cursor, filled.content⟩
  | faulted => exact ⟨filled.bytes, filled.cursor, filled.content⟩
  | fired due running moved tick gridTick ring left next grid none fed =>
      exact filled.fired running fed rfl rfl rfl rfl
  | told due running moved tick gridTick ring left next grid some fed =>
      exact filled.fired running fed rfl rfl rfl rfl

theorem act (filled : scene.Filled source) (act : Act) : Filled source (scene.act act) := by
  cases act with
  | pass tick => exact ⟨filled.bytes, filled.cursor, filled.content⟩
  | call call => exact filled.call (scene.device.answer_effect scene.now call)
  | poll => exact filled.poll (scene.device.strike_struck scene.now)

end Filled

theorem ring_act (scene : Scene) (act : Act)
    (unprepared : (scene.afresh.act act).journal.timings = [])
    (unfired : (scene.afresh.act act).journal.firings = 0) :
    (scene.act act).device.ring = scene.device.ring := by
  cases act with
  | pass tick => rfl
  | call call =>
      have effect := scene.device.answer_effect scene.now call
      change Journal.timings ((scene.device.event? scene.now call).toList ++ []) = [] at unprepared
      change (scene.device.answer scene.now call).1.ring = _
      generalize (scene.device.answer scene.now call).1 = next at effect ⊢
      generalize scene.device.event? scene.now call = event at effect unprepared
      cases effect with
      | prepared => cases unprepared
      | unchanged | rerouted | misstarted | started => rfl
      | lowered | stopped | jammed | read | freed => rfl
  | poll =>
      have struck := scene.device.strike_struck scene.now
      change Journal.firings ((scene.device.strike scene.now).2.events scene.now ++ []) = 0
        at unfired
      change (scene.device.strike scene.now).1.ring = _
      generalize (scene.device.strike scene.now).1 = next at struck ⊢
      generalize (scene.device.strike scene.now).2 = strike at struck unfired
      cases struck with
      | early | asleep | faulted => rfl
      | fired | told => cases unfired

end Scene

namespace Session

variable {template : Template} {clock : ManualClock} {session : Session}

theorem Shows.filled (opened : Session.begin template clock = .ok session) {steps : List Step}
    {scene : Scene} (shown : session.Shows steps scene) : scene.Filled template.source := by
  obtain ⟨source, given, _, idle⟩ := begin_eq_ok opened
  have device : (session.scene []).device = template.idleDevice clock.ticksPerSecond source := idle
  have initial : (session.scene []).Filled template.source := by
    constructor
    · rw [device]
      exact given
    · rw [device]
      exact nofun
    · intro index inside
      rw [device] at inside
      exact absurd inside (Nat.not_lt_zero index)
  obtain ⟨acts, _, reached⟩ := shown
  rw [← reached]
  exact @Scene.run_invariant (fun _ => True) _ (fun _ _ _ => trivial)
    (fun _ act filled _ => filled.act act) _ initial acts trivial

/-- What the ring holds in every scene of a run whose buffers leave room, whichever way the clock is
moved: the bytes that the source has for the last firing, or silence. No act changes it in which
nothing is prepared and nothing fires. While the device runs, its source stands where the firings
since the last start have left it, which is its beginning after the start. -/
theorem ring_content (opened : Session.begin template clock = .ok session) (steps : List Step)
    (roomy : (session.journal steps).Roomy) (scene : Scene) (shown : session.Shows steps scene) :
    (∀ destination index,
      index < min destination.size (scene.journal.ringBytes template.frameBytes) →
        (scene.device.copyOut 0 destination).2[index]? =
          scene.journal.byte? template.source (scene.journal.ringBytes template.frameBytes)
            index) ∧
    (∀ act, (scene.afresh.act act).journal.timings = [] →
      (scene.afresh.act act).journal.firings = 0 →
        (scene.act act).device.ring = scene.device.ring) ∧
    (scene.device.stage = .running → ∀ source, scene.device.source = some source →
      source.cursor =
        scene.journal.firings * scene.journal.ringBytes template.frameBytes %
          source.bytes.size) := by
  have filled := shown.filled opened
  have sized := (shown.consistent opened (shown.roomy roomy)).sized
  have profile : scene.device.profile.frameBytes = template.frameBytes :=
    congrArg Profile.frameBytes (shown.profiled opened).same
  rw [profile] at sized
  refine ⟨?_, scene.ring_act, ?_⟩
  · intro destination index inside
    rw [← sized] at inside ⊢
    rw [Device.copyOut, Ring.getElem?_copyTo_zero _ inside]
    exact filled.content index (by omega)
  · rw [← sized]
    exact filled.cursor

/-- The ring at work: a source of five bytes fills a ring of eight. The device was stopped and
started again after its first firing, has fired twice since, and has been started once more. -/
theorem ring_content_restarted :
    ∃ (template : Template) (session : Session) (steps : List Step) (scene : Scene),
      template.source = some #[1, 2, 3, 4, 5] ∧
        Session.begin template ⟨8000, 7⟩ = .ok session ∧ (session.journal steps).Roomy ∧
        session.Shows steps scene ∧ scene.journal.filling? = some 2 ∧
        (scene.device.copyOut 0 (Array.replicate 9 0)).2[6]? = some 5 ∧
        ∀ source, scene.device.source = some source → source.cursor = 0 := by
  let bytes : Array UInt8 := #[1, 2, 3, 4, 5]
  let template : Template :=
    { capabilities := { Capabilities.standard with periodBytes := ⟨1, 64⟩ }, source := some bytes }
  let session : Session :=
    ⟨⟨8000, 7⟩, ⟨template.idleDevice 8000 (some ⟨bytes, 0, by decide⟩), []⟩⟩
  let steps : List Step :=
    [.deck (.call (.prepare ⟨8000, 4, 2⟩)), .deck (.call .start), .clock (.forward 2),
      .deck .poll, .deck (.call .stop), .deck (.call .start), .clock (.forward 2), .deck .poll,
      .clock (.forward 5), .deck .poll, .deck (.call .stop), .deck (.call .start)]
  let last := (session.run steps).1.scene (session.journal steps)
  have playable : template.capabilities.layoutDefect? template.format template.channels = none := by
    decide
  have opened : Session.begin template ⟨8000, 7⟩ = .ok session := by
    simp only [Session.begin, Template.build, playable]
    rfl
  have roomy : (session.journal steps).Roomy := by decide +kernel
  have shown : session.Shows steps last := session.shows_last steps
  have filling : last.journal.filling? = some 2 := by decide +kernel
  have restarted : last.journal.firings = 0 := by decide +kernel
  have running : last.device.stage = .running := by decide +kernel
  have size : last.journal.ringBytes template.frameBytes = 8 := by decide +kernel
  have fifth : bytes[((2 - 1) * 8 + 6) % bytes.size]? = some 5 := by decide +kernel
  obtain ⟨content, _, cursor⟩ := ring_content opened steps roomy last shown
  have byte := content (Array.replicate 9 0) 6 (by simp [size])
  rw [size, Journal.byte?_of_filling filling bytes] at byte
  refine ⟨template, session, steps, last, rfl, opened, roomy, shown, filling, byte.trans fifth, ?_⟩
  intro source found
  rw [cursor running source found, restarted, Nat.zero_mul, Nat.zero_mod]

end Session

end PcmPlayback
