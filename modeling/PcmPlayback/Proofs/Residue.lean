import PcmPlayback.Proofs.Past
import PcmPlayback.Proofs.Refusal

/-!
# What survives a preparation

A preparation sets the stage, the playhead and the ring anew. What survives it of the past is the
place in the source, the last point of the grid, and the counts of what was delivered. The first two
are overwritten by the next start before anything looks at them, and the counts differ from those of
a new device by what they were.
-/

set_option autoImplicit false

namespace PcmPlayback

theorem LoopedSource.rewind_congr {first second : Option LoopedSource}
    (same : first.map bytes = second.map bytes) : first.map rewind = second.map rewind := by
  cases first with
  | none =>
      cases second with
      | none => rfl
      | some other => cases same
  | some one =>
      cases second with
      | none => cases same
      | some other =>
          have bytes := Option.some.inj same
          simp only [Option.map_some, rewind, bytes]

namespace Device

/-- The device with another grid point and another place in the source. -/
def left (device : Device) (gridTick : Tick) (source : Option LoopedSource) : Device :=
  { device with gridTick := gridTick, source := source }

/-- A grid point and a place in the source that were left by an earlier playback, and that the next
start will overwrite. -/
structure Harmless (device : Device) (gridTick : Tick) (source : Option LoopedSource) : Prop where
  bytes : source.map LoopedSource.bytes = device.source.map LoopedSource.bytes
  boundary : device.profile.schedule = .boundary → gridTick = device.gridTick
  running : device.stage = .running → device.left gridTick source = device

namespace Harmless

variable {device next : Device} {gridTick : Tick} {source : Option LoopedSource}

theorem self (device : Device) : device.Harmless device.gridTick device.source :=
  ⟨rfl, fun _ => rfl, fun _ => rfl⟩

theorem keep (harmless : device.Harmless gridTick source) (resting : next.stage ≠ .running)
    (sounds : next.source = device.source) (grid : next.gridTick = device.gridTick)
    (profile : next.profile = device.profile) : next.Harmless gridTick source := by
  refine ⟨?_, ?_, fun running => absurd running resting⟩
  · rw [sounds]
    exact harmless.bytes
  · rw [grid, profile]
    exact harmless.boundary

end Harmless

variable {device : Device} {gridTick now : Tick} {source : Option LoopedSource}

theorem prepare_left (setup : StreamSetup) :
    (device.left gridTick source).prepare setup =
      ((device.prepare setup).1.left gridTick source, (device.prepare setup).2) := by
  have profile : (device.left gridTick source).profile = device.profile := rfl
  have stage : (device.left gridTick source).stage = device.stage := rfl
  simp only [prepare, profile, stage]
  split
  · split
    · split
      · split <;> rfl
      · rfl
    · rfl
  · rfl

theorem prepare_harmless (harmless : device.Harmless gridTick source) (setup : StreamSetup) :
    (device.prepare setup).1.Harmless gridTick source := by
  rcases device.prepare_cases setup with ⟨_, _, done⟩ | ⟨same, _⟩
  · rw [done]
    exact harmless.keep (by simp) rfl rfl rfl
  · rw [same]
    exact harmless

theorem start_left (harmless : device.Harmless gridTick source)
    (resting : device.stage ≠ .running) :
    ∃ point place, (device.left gridTick source).start now =
        ((device.start now).1.left point place, (device.start now).2) ∧
      (device.start now).1.Harmless point place := by
  by_cases allowed : device.stage.mayStart = true
  · have ready : (device.left gridTick source).stage.mayStart = true := allowed
    have rewinds := LoopedSource.rewind_congr harmless.bytes
    have rewound : (device.left gridTick source).rewound now =
        (device.rewound now).left gridTick (device.rewound now).source := by
      simp only [Device.rewound, left, rewinds]
    have first : ((device.left gridTick source).rewound now).firstExpiry? now =
        (device.rewound now).firstExpiry? now := rfl
    rw [start_eq now allowed, start_eq now ready, first, rewound]
    cases (device.rewound now).firstExpiry? now with
    | none =>
        -- the source has been rewound by the time the start faults
        exact ⟨gridTick, _, rfl, rfl, harmless.boundary, fun running => absurd running resting⟩
    | some tick =>
        have armed : ((device.rewound now).left gridTick (device.rewound now).source).arm tick =
            (device.rewound now).arm tick := by
          cases schedule : device.profile.schedule with
          | boundary =>
              have same := harmless.boundary schedule
              subst same
              rfl
          | grid =>
              have grid : (device.rewound now).profile.schedule = .grid := schedule
              simp only [arm, left, grid]
        simp only [armed]
        exact ⟨_, _, rfl, .self _⟩
  · have refused : ¬ (device.left gridTick source).stage.mayStart = true := allowed
    rw [start, start, if_neg allowed, if_neg refused]
    exact ⟨gridTick, source, rfl, harmless⟩

theorem stop_left (harmless : device.Harmless gridTick source)
    (resting : device.stage ≠ .running) :
    (device.left gridTick source).stop now =
        ((device.stop now).1.left gridTick source, (device.stop now).2) ∧
      (device.stop now).1.Harmless gridTick source := by
  have rests : ¬ (device.left gridTick source).stage = .running := resting
  rw [stop, stop, if_neg resting, if_neg rests]
  exact ⟨rfl, harmless.keep resting rfl rfl rfl⟩

theorem answer_left (harmless : device.Harmless gridTick source) (call : Call) :
    ∃ point place, (device.left gridTick source).answer now call =
        ((device.answer now call).1.left point place, (device.answer now call).2) ∧
      (device.answer now call).1.Harmless point place := by
  -- nothing is left over on a running device, and at rest only a start looks at it
  by_cases running : device.stage = .running
  · rw [harmless.running running]
    exact ⟨_, _, rfl, .self _⟩
  · cases call with
    | prepare setup =>
        refine ⟨gridTick, source, ?_, prepare_harmless harmless setup⟩
        simp only [answer, prepare_left]
    | start =>
        obtain ⟨point, place, starts, still⟩ := @start_left _ _ now _ harmless running
        refine ⟨point, place, ?_, still⟩
        simp only [answer, starts]
    | stop =>
        obtain ⟨stops, still⟩ := @stop_left _ _ now _ harmless running
        refine ⟨gridTick, source, ?_, still⟩
        simp only [answer, stops]
    | trigger command =>
        cases command with
        | start | resume =>
            obtain ⟨point, place, starts, still⟩ := @start_left _ _ now _ harmless running
            refine ⟨point, place, ?_, still⟩
            simp only [answer, obey, starts]
        | stop | suspend =>
            obtain ⟨stops, still⟩ := @stop_left _ _ now _ harmless running
            refine ⟨gridTick, source, ?_, still⟩
            simp only [answer, obey, stops]
    | pointer =>
        have rests : ¬ (device.playhead.isConfigured = true ∧ device.stage = .running) :=
          fun reads => running reads.2
        have alike : ¬ ((device.left gridTick source).playhead.isConfigured = true ∧
            (device.left gridTick source).stage = .running) := rests
        refine ⟨gridTick, source, ?_, ?_⟩
        · simp only [answer, pointer, if_neg rests, if_neg alike]
          rfl
        · simp only [answer, pointer, if_neg rests]
          exact harmless
    | status | describe | copyOut => exact ⟨gridTick, source, rfl, harmless⟩
    | register | unregister =>
        exact ⟨gridTick, source, rfl, harmless.keep running rfl rfl rfl⟩
    | free => exact ⟨gridTick, source, rfl, harmless.keep (by simp [answer, free]) rfl rfl rfl⟩

theorem poll_left (dormant : device.Dormant) (harmless : device.Harmless gridTick source) :
    ∃ point place, (device.left gridTick source).poll now =
        ((device.poll now).1.left point place, (device.poll now).2) ∧
      (device.poll now).1.Harmless point place := by
  by_cases running : device.stage = .running
  · rw [harmless.running running]
    exact ⟨_, _, rfl, .self _⟩
  · have asleep : ¬ device.isDue now = true := by
      simp [isDue, (dormant running).2]
    have alike : ¬ (device.left gridTick source).isDue now = true := asleep
    rw [poll, poll, if_neg asleep, if_neg alike]
    exact ⟨gridTick, source, rfl, harmless⟩

/-! ## A grid that is not laid -/

theorem gridTick_start (boundary : device.profile.schedule = .boundary) :
    (device.start now).1.gridTick = device.gridTick := by
  by_cases allowed : device.stage.mayStart = true
  · have schedule : (device.rewound now).profile.schedule = .boundary := boundary
    rw [start_eq now allowed]
    cases (device.rewound now).firstExpiry? now with
    | none => rfl
    | some tick =>
        simp only [arm, schedule]
        rfl
  · rw [start, if_neg allowed]

theorem Effect.gridTick_eq {next : Device} (effect : device.Effect now next none) :
    next.gridTick = device.gridTick := by
  cases effect <;> rfl

theorem gridTick_answer (boundary : device.profile.schedule = .boundary) (call : Call) :
    (device.answer now call).1.gridTick = device.gridTick := by
  cases call with
  | prepare setup =>
      rcases device.prepare_cases setup with ⟨_, _, done⟩ | ⟨same, _⟩
      · simp only [answer, done]
      · simp only [answer, same]
  | start => exact gridTick_start boundary
  | stop => exact (device.stop_effect now).gridTick_eq
  | trigger command =>
      cases command with
      | start | resume => exact gridTick_start boundary
      | stop | suspend => exact (device.stop_effect now).gridTick_eq
  | pointer => exact (device.pointer_effect now).gridTick_eq
  | status | describe | copyOut | register | unregister | free => rfl

theorem gridTick_tend (boundary : device.profile.schedule = .boundary) :
    (device.tend now).1.gridTick = device.gridTick := by
  cases moved : (device.playhead.advance now).2.isDone with
  | false => simp [tend, moved]
  | true =>
      have schedule : (device.updated now).profile.schedule = .boundary := boundary
      rw [tend_eq moved]
      cases (device.updated now).nextExpiry? now with
      | none => rfl
      | some tick =>
          simp only [refill_eq, arm, schedule]
          rfl

theorem gridTick_strike (boundary : device.profile.schedule = .boundary) :
    (device.strike now).1.gridTick = device.gridTick := by
  have tends : (device.disarm.tend now).1.gridTick = device.gridTick :=
    @gridTick_tend device.disarm now boundary
  rw [strike]
  generalize device.disarm.tend now = tending at tends ⊢
  obtain ⟨tended, told⟩ := tending
  split
  · cases told with
    | none => exact tends
    | some periods =>
        dsimp only
        split <;> exact tends
  · split <;> rfl

/-! ## Devices with more deliveries -/

/-- The device after more deliveries. -/
def aged (device : Device) (past : Past) : Device :=
  device.fitted device.callback (device.delivery.after past)

variable {past : Past}

theorem answer_aged (call : Call) :
    (device.aged past).answer now call =
      ((device.answer now call).1.aged past, (device.answer now call).2) := by
  have delivered := (device.answer_effect now call).delivery_eq
  rw [aged, aged, answer_fitted, ← callback_answer, delivered]

theorem answerAll_aged (calls : List Call) :
    (device.aged past).answerAll now calls =
      ((device.answerAll now calls).1.aged past, (device.answerAll now calls).2) := by
  induction calls generalizing device with
  | nil => rfl
  | cons call rest ih => simp only [answerAll, answer_aged, ih]

theorem Strike.recounted_after {strike : Strike} {delivery : Delivery}
    (counts : ∀ periods counted,
      (strike.recounted (delivery.after past)).1 = .told periods counted → counted = true) :
    strike.recounted (delivery.after past) =
      ((strike.recounted delivery).1, (strike.recounted delivery).2.after past) := by
  cases strike with
  | quiet | faulted | fired => rfl
  | told periods counted =>
      obtain ⟨plain, older⟩ := Delivery.raise_after (counts periods _ rfl)
      simp only [recounted, plain, older]

theorem strike_aged
    (counts : ∀ periods counted,
      ((device.aged past).strike now).2 = .told periods counted → counted = true) :
    (device.aged past).strike now = ((device.strike now).1.aged past, (device.strike now).2) := by
  have struck : (device.aged past).strike now = _ :=
    strike_fitted device device.callback (device.delivery.after past) now
  rw [struck] at counts
  rw [struck, Strike.recounted_after counts, recounted_self, aged,
    (device.strike_struck now).callback_eq]

theorem aftermath_aged
    (struck : (device.aged past).strike now =
      ((device.strike now).1.aged past, (device.strike now).2)) :
    (device.aged past).aftermath now = device.aftermath now := by
  rw [aftermath, struck]
  rfl

theorem poll_aged
    (counts : ∀ periods counted,
      ((device.aged past).strike now).2 = .told periods counted → counted = true) :
    (device.aged past).poll now = ((device.poll now).1.aged past, (device.poll now).2) := by
  have struck := strike_aged counts
  refine Prod.ext ?_ ?_
  · rw [poll_eq_answerAll, poll_eq_answerAll, aftermath_aged struck, struck, answerAll_aged]
  · rw [poll_run, poll_run, struck]
    simp only [answerAll_aged]
    rfl

/-! ## Devices that were prepared again -/

/-- A device that went through a past, beside one that is new. Only the first device has something
left of it, which does no harm, and its counts are ahead. -/
def Renewed (past : Past) (older device : Device) : Prop :=
  device.Dormant ∧ ∃ gridTick source, device.Harmless gridTick source ∧
    older = (device.left gridTick source).aged past

theorem Dormant.poll (dormant : device.Dormant) : (device.poll now).1.Dormant := by
  have struck := dormant.struck (device.strike_struck now)
  rw [poll_eq_answerAll]
  generalize device.aftermath now = calls
  generalize (device.strike now).1 = next at struck ⊢
  induction calls generalizing next with
  | nil => exact struck
  | cons call rest ih => exact ih _ (struck.effect (next.answer_effect now call))

namespace Renewed

variable {older : Device}

theorem resembles (renewed : older.Renewed past device) : older.Resembles past device := by
  obtain ⟨_, gridTick, source, _, rfl⟩ := renewed
  exact ⟨rfl, rfl, rfl, rfl⟩

theorem answer (renewed : older.Renewed past device) (call : Call) :
    (older.answer now call).2 = (device.answer now call).2 ∧
      Renewed past (older.answer now call).1 (device.answer now call).1 := by
  obtain ⟨dormant, gridTick, source, harmless, rfl⟩ := renewed
  obtain ⟨point, place, answers, still⟩ := @answer_left _ _ now _ harmless call
  rw [answer_aged, answers]
  exact ⟨rfl, dormant.effect (device.answer_effect now call), point, place, still, rfl⟩

theorem poll (renewed : older.Renewed past device)
    (counts : ∀ periods counted,
      (older.strike now).2 = .told periods counted → counted = true) :
    (older.poll now).2 = (device.poll now).2 ∧
      Renewed past (older.poll now).1 (device.poll now).1 := by
  obtain ⟨dormant, gridTick, source, harmless, rfl⟩ := renewed
  obtain ⟨point, place, polls, still⟩ := @poll_left _ _ now _ dormant harmless
  rw [poll_aged counts, polls]
  exact ⟨rfl, dormant.poll, point, place, still, rfl⟩

end Renewed

theorem prepare_outcome {older : Device} {setup : StreamSetup}
    (profile : device.profile = older.profile) (ready : device.stage.mayPrepare = true)
    (done : (older.prepare setup).2 = .done ()) : (device.prepare setup).2 = .done () := by
  rcases older.prepare_cases setup with ⟨allowed, _, _⟩ | ⟨_, refused⟩
  · rw [← done]
    simp only [prepare, profile, ready, allowed, if_true]
    split
    · split
      · split <;> rfl
      · rfl
    · rfl
  · exact absurd done refused

theorem prepare_renewed {older : Device} {setup : StreamSetup} {template : Template}
    {ticksPerSecond : UInt64} (dormant : older.Dormant)
    (profile : older.profile = template.profile ticksPerSecond)
    (bytes : older.source.map LoopedSource.bytes = source.map LoopedSource.bytes)
    (gridless : older.profile.schedule = .boundary → older.gridTick = 0)
    (edges : past.edges = older.delivery.edges) (periods : past.periods = older.delivery.periods)
    (idle : device = { template.idleDevice ticksPerSecond source with callback := older.callback })
    (done : (older.prepare setup).2 = .done ()) :
    (device.prepare setup).2 = .done () ∧
      Renewed past (older.prepare setup).1 (device.prepare setup).1 := by
  have same : device.profile = older.profile := by
    rw [idle, profile]
    rfl
  have ready : device.stage.mayPrepare = true := by
    rw [idle]
    rfl
  have alike := prepare_outcome same ready done
  refine ⟨alike, ?_⟩
  rcases older.prepare_cases setup with ⟨allowed, _, prepared⟩ | ⟨_, refused⟩
  · rcases device.prepare_cases setup with ⟨_, _, prepares⟩ | ⟨_, refuses⟩
    · obtain ⟨lowered, disarmed⟩ := dormant (Stage.mayPrepare_iff.mp allowed).1
      have delivered : older.delivery = Delivery.after past {} := by
        simp only [Delivery.after, edges, periods, Nat.add_zero]
      rw [prepared, prepares, same]
      subst idle
      refine ⟨fun _ => ⟨rfl, rfl⟩, older.gridTick, older.source, ⟨bytes, ?_, by simp⟩, ?_⟩
      · exact fun boundary => gridless (same ▸ boundary)
      · simp only [left, aged, fitted, Template.idleDevice, ← profile, ← delivered, ← lowered,
          ← disarmed]
    · exact absurd alike refuses
  · exact absurd done refused

end Device

end PcmPlayback
