import PcmPlayback.Proofs.Odometer

/-!
# Headroom

The arithmetic of a playhead in its words. Each sum, difference, product and quotient is checked
here in the word that holds it, and the checked operations come to the same as the plain ones. What
makes them safe is where a playhead can be: its offset lies in the buffer, and there is a rest of
the present period, of at most the whole. Every operation keeps both.
-/

set_option autoImplicit false

namespace PcmPlayback

namespace Checked

/-- A number put into a word of the given size. -/
def fit (limit number : Nat) : Option Nat := if number < limit then some number else none

def add (limit first second : Nat) : Option Nat := fit limit (first + second)

def mul (limit first second : Nat) : Option Nat := fit limit (first * second)

def sub (first second : Nat) : Option Nat :=
  if second ≤ first then some (first - second) else none

def div (dividend divisor : Nat) : Option Nat :=
  if 0 < divisor then some (dividend / divisor) else none

def mod (dividend divisor : Nat) : Option Nat :=
  if 0 < divisor then some (dividend % divisor) else none

variable {limit first second : Nat}

theorem fit_eq_some (fits : first < limit) : fit limit first = some first := if_pos fits

theorem add_eq_some (fits : first + second < limit) :
    add limit first second = some (first + second) := fit_eq_some fits

theorem mul_eq_some (fits : first * second < limit) :
    mul limit first second = some (first * second) := fit_eq_some fits

theorem sub_eq_some (ordered : second ≤ first) : sub first second = some (first - second) :=
  if_pos ordered

theorem div_eq_some (positive : 0 < second) : div first second = some (first / second) :=
  if_pos positive

theorem mod_eq_some (positive : 0 < second) : mod first second = some (first % second) :=
  if_pos positive

end Checked

namespace Progress

/-- Moves on by the time elapsed, with every step of the calculation checked. -/
def moveChecked? (progress : Progress) (elapsed : Nat) : Option Progress := do
  let distance ← Checked.mul wideLimit elapsed progress.timing.speed
  let reach ← Checked.add wideLimit progress.offset distance
  let offset ← Checked.mod reach progress.timing.bufferSpan
  if progress.rest ≤ distance then
    let beyond ← Checked.sub distance progress.rest
    let whole ← Checked.div beyond progress.timing.periodSpan
    let crossed ← Checked.add wideLimit whole 1
    let way ← Checked.mul wideLimit crossed progress.timing.periodSpan
    let boundary ← Checked.add wideLimit progress.rest way
    let rest ← Checked.sub boundary distance
    return { progress with
      offset := offset
      rest := rest
      pending := min (progress.pending + crossed % wordLimit) (wordLimit - 1) }
  else
    let rest ← Checked.sub progress.rest distance
    return { progress with offset := offset, rest := rest }

def frameChecked? (progress : Progress) : Option Nat := do
  let frame ← Checked.div progress.offset progress.timing.ticksPerSecond.toNat
  Checked.fit wordLimit frame

/-- Ticks until the next boundary. There has to be a rest of the present period. -/
def delayChecked? (progress : Progress) : Option Nat := do
  if 0 < progress.rest then
    let raised ← Checked.add wideLimit progress.rest (max progress.timing.speed 1)
    let covering ← Checked.sub raised 1
    let ticks ← Checked.div covering (max progress.timing.speed 1)
    Checked.fit wordLimit (min (max ticks 1) (wordLimit - 1))
  else none

/-- Where the progress of a playhead can be. -/
structure InRange (progress : Progress) : Prop where
  sound : progress.timing.Sound
  roomy : progress.timing.Roomy
  offset_lt : progress.offset < progress.timing.bufferSpan
  rest_pos : 0 < progress.rest
  rest_le : progress.rest ≤ progress.timing.periodSpan

namespace InRange

variable {progress : Progress}

theorem start {timing : Timing} (sound : timing.Sound) (roomy : timing.Roomy) :
    (Progress.start timing).InRange :=
  ⟨sound, roomy, Nat.lt_of_lt_of_le sound.period_pos sound.period_le_buffer, sound.period_pos,
    Nat.le_refl _⟩

/-- Beyond the rest of the present period, whole periods are crossed, and one more is begun. -/
theorem crossed_bounds (inRange : progress.InRange) {distance crossed : Nat}
    (reached : progress.rest ≤ distance)
    (counted : crossed = (distance - progress.rest) / progress.timing.periodSpan + 1) :
    distance < progress.rest + crossed * progress.timing.periodSpan ∧
      progress.rest + crossed * progress.timing.periodSpan ≤
        distance + progress.timing.periodSpan ∧
      crossed ≤ distance + 1 := by
  have whole := Nat.div_add_mod' (distance - progress.rest) progress.timing.periodSpan
  have within := Nat.mod_lt (distance - progress.rest) inRange.sound.period_pos
  have fewer := Nat.div_le_self (distance - progress.rest) progress.timing.periodSpan
  rw [counted, Nat.succ_mul]
  omega

theorem move (inRange : progress.InRange) {elapsed : Nat} (counted : elapsed < wordLimit) :
    ∃ moved, progress.moveChecked? elapsed = some moved ∧ moved.InRange ∧
      progress.move (elapsed * progress.timing.speed) = (moved, .done ()) := by
  have bounds := @inRange.crossed_bounds
  obtain ⟨sound, roomy, offset_lt, rest_pos, rest_le⟩ := inRange
  have buffer_pos : 0 < progress.timing.bufferSpan :=
    Nat.lt_of_lt_of_le sound.period_pos sound.period_le_buffer
  have shorter := sound.period_le_buffer
  have short := progress.timing.distance_lt counted
  rw [Nat.mul_comm] at short
  generalize way : elapsed * progress.timing.speed = distance at short ⊢
  -- a way and a buffer fit into a double word together, and so do a way and a period
  have fits : distance + progress.timing.bufferSpan < wideLimit := by
    simp only [Timing.Roomy, wideLimit, wordLimit] at roomy short ⊢
    omega
  have covers : elapsed * progress.timing.speed < wideLimit := by omega
  have reaches : progress.offset + distance < wideLimit := by omega
  have onward := Nat.mod_lt (progress.offset + distance) buffer_pos
  simp only [moveChecked?, Checked.mul_eq_some covers, way, Checked.add_eq_some reaches,
    Checked.mod_eq_some buffer_pos, Option.bind_eq_bind, Option.bind_some, Progress.move,
    if_neg (Nat.not_le.mpr reaches)]
  by_cases reached : progress.rest ≤ distance
  · obtain ⟨ahead, near, fewer⟩ := bounds reached rfl
    generalize crosses : (distance - progress.rest) / progress.timing.periodSpan + 1 = crossed
      at ahead near fewer
    have ends : progress.rest + crossed * progress.timing.periodSpan < wideLimit := by omega
    have lies : crossed * progress.timing.periodSpan < wideLimit := by omega
    have counts : (distance - progress.rest) / progress.timing.periodSpan + 1 < wideLimit := by
      omega
    simp only [if_pos reached, Checked.sub_eq_some reached, Checked.div_eq_some sound.period_pos,
      Checked.add_eq_some counts, crosses, Checked.mul_eq_some lies, Checked.add_eq_some ends,
      Checked.sub_eq_some (Nat.le_of_lt ahead), Option.bind_some, if_neg (Nat.not_le.mpr ends)]
    have rest_le : progress.rest + crossed * progress.timing.periodSpan - distance ≤
        progress.timing.periodSpan := by
      omega
    exact ⟨_, rfl, ⟨sound, roomy, onward, Nat.sub_pos_of_lt ahead, rest_le⟩, rfl⟩
  · have before : distance < progress.rest := Nat.lt_of_not_le reached
    simp only [if_neg reached, Checked.sub_eq_some (Nat.le_of_lt before), Option.bind_some]
    have rest_le : progress.rest - distance ≤ progress.timing.periodSpan :=
      Nat.le_trans (Nat.sub_le _ _) rest_le
    exact ⟨_, rfl, ⟨sound, roomy, onward, Nat.sub_pos_of_lt before, rest_le⟩, rfl⟩

theorem frame (inRange : progress.InRange) :
    progress.frameChecked? = some progress.frame ∧
      progress.frame < progress.timing.setup.bufferFrames.toNat := by
  obtain ⟨sound, _, offset_lt, _, _⟩ := inRange
  have within : progress.frame < progress.timing.setup.bufferFrames.toNat := by
    rw [Progress.frame, Nat.div_lt_iff_lt_mul sound.ticks_pos]
    exact offset_lt
  have fits : progress.frame < wordLimit :=
    Nat.lt_trans within progress.timing.setup.bufferFrames.toNat_lt
  refine ⟨?_, within⟩
  rw [frameChecked?, Checked.div_eq_some sound.ticks_pos]
  exact Checked.fit_eq_some fits

theorem delay (inRange : progress.InRange) : progress.delayChecked? = some progress.delay := by
  obtain ⟨sound, roomy, _, rest_pos, rest_le⟩ := inRange
  have speed : max progress.timing.speed 1 = progress.timing.speed :=
    Nat.max_eq_left sound.speed_pos
  have slow : progress.timing.speed < 4294967296 := progress.timing.setup.rate.toNat_lt
  have shorter := sound.period_le_buffer
  have fits : progress.rest + progress.timing.speed < wideLimit := by
    simp only [Timing.Roomy, wideLimit, wordLimit] at roomy ⊢
    omega
  have raised : 1 ≤ progress.rest + progress.timing.speed := Nat.le_add_right_of_le rest_pos
  have clamped : min (max (divUp progress.rest progress.timing.speed) 1) (wordLimit - 1) <
      wordLimit := by
    unfold wordLimit
    omega
  rw [delayChecked?, if_pos rest_pos, speed, Checked.add_eq_some fits]
  simp only [Option.bind_eq_bind, Option.bind_some, Checked.sub_eq_some raised,
    Checked.div_eq_some sound.speed_pos]
  rw [← divUp, Checked.fit_eq_some clamped, Progress.delay, Timing.ticksFor, Nat.max_comm]

end InRange

end Progress

namespace Playhead

def advanceChecked? (head : Playhead) (now : Tick) : Option Playhead :=
  if now.since head.base = 0 then some head
  else do
    let progress ← head.progress
    let moved ← progress.moveChecked? (now.since head.base)
    return ⟨now, some moved⟩

def operateChecked? (head : Playhead) : Operation → Option (Playhead × Answer)
  | .configure setup ticksPerSecond =>
      let (next, outcome) := head.configure setup ticksPerSecond
      some (next, .configured outcome)
  | .rebase now => some (head.rebase now, .rebased)
  | .advance now => do
      let next ← head.advanceChecked? now
      return (next, .advanced (.done ()))
  | .take =>
      let (periods, next) := head.takePending
      some (next, .taken periods)
  | .look => do
      let progress ← head.progress
      let frame ← progress.frameChecked?
      let delay ← progress.delayChecked?
      return (head, .shown frame (some delay) head.pending)

/-- A run in which every calculation is checked, up to the first that leaves its word. -/
def runChecked? (head : Playhead) : List Operation → Option (Playhead × List Answer)
  | [] => some (head, [])
  | operation :: rest => do
      let (next, answer) ← head.operateChecked? operation
      let (last, answers) ← next.runChecked? rest
      return (last, answer :: answers)

/-- Whether an operation sets a playhead up with a buffer that leaves room, if with any. -/
def Operation.LeavesRoom : Operation → Prop
  | .configure setup ticksPerSecond =>
      (Operation.configure setup ticksPerSecond).resets = true →
        (⟨setup, ticksPerSecond⟩ : Timing).Roomy
  | .rebase _ | .advance _ | .take | .look => True

instance : DecidablePred Operation.LeavesRoom
  | .configure setup ticksPerSecond =>
      inferInstanceAs (Decidable ((Operation.configure setup ticksPerSecond).resets = true → _))
  | .rebase _ | .advance _ | .take | .look => .isTrue trivial

theorem configure_accepted (head : Playhead) {setup : StreamSetup} {ticksPerSecond : UInt64}
    (accepted : (Operation.configure setup ticksPerSecond).resets = true) :
    (⟨setup, ticksPerSecond⟩ : Timing).Sound ∧
      head.configure setup ticksPerSecond =
        (⟨head.base, some (.start ⟨setup, ticksPerSecond⟩)⟩, .done ()) := by
  obtain ⟨sound, ticks⟩ := resets_configure.mp accepted
  exact ⟨Timing.sound_of_defect?_eq_none sound ticks,
    head.configure_of_defect?_eq_none sound ticks⟩

/-- A playhead that was configured and whose progress is in range. It shows a frame of its buffer,
and a setup that it refuses does not change it. -/
structure InRange (head : Playhead) : Prop where
  progress : ∃ progress, head.progress = some progress ∧ progress.InRange
  frame_lt : ∀ timing, head.timing? = some timing →
    head.frame < timing.setup.bufferFrames.toNat
  refused : ∀ setup ticksPerSecond,
    (Operation.configure setup ticksPerSecond).resets = false →
      (head.configure setup ticksPerSecond).1 = head

namespace InRange

theorem of_progress {head : Playhead} {progress : Progress}
    (present : head.progress = some progress) (inRange : progress.InRange) : head.InRange := by
  refine ⟨⟨progress, present, inRange⟩, ?_, fun _ _ => configure_refused⟩
  intro timing timed
  simp only [timing?, present, Option.map_some, Option.some.injEq] at timed
  subst timed
  simp only [Playhead.frame, present]
  exact inRange.frame.2

variable {head : Playhead}

theorem advance (inRange : head.InRange) (now : Tick) :
    ∃ next, head.advanceChecked? now = some next ∧ next.InRange ∧
      head.advance now = (next, .done ()) := by
  obtain ⟨⟨progress, present, ranges⟩, _⟩ := inRange
  unfold advanceChecked? Playhead.advance
  by_cases still : now.since head.base = 0
  · simp only [still, if_true]
    exact ⟨head, rfl, of_progress present ranges, rfl⟩
  · obtain ⟨moved, checked, arrived, moves⟩ := ranges.move (now - head.base).toNat_lt
    change progress.moveChecked? (now.since head.base) = _ at checked
    change progress.move (now.since head.base * _) = _ at moves
    simp only [still, if_false, present, checked, moves, Option.bind_eq_bind, Option.bind_some]
    exact ⟨_, rfl, of_progress rfl arrived, rfl⟩

theorem operate (inRange : head.InRange) {operation : Operation}
    (room : operation.LeavesRoom) :
    head.operateChecked? operation = some (head.operate operation) ∧
      (head.operate operation).1.InRange := by
  obtain ⟨progress, present, ranges⟩ := inRange.progress
  cases operation with
  | configure setup ticksPerSecond =>
      refine ⟨rfl, ?_⟩
      cases resets : (Operation.configure setup ticksPerSecond).resets with
      | false =>
          simp only [Playhead.operate, configure_refused resets]
          exact inRange
      | true =>
          obtain ⟨sound, accepted⟩ := head.configure_accepted resets
          simp only [Playhead.operate, accepted]
          exact of_progress rfl (.start sound (room resets))
  | rebase now => exact ⟨rfl, of_progress present ranges⟩
  | advance now =>
      obtain ⟨next, checked, arrived, advances⟩ := inRange.advance now
      simp only [operateChecked?, Playhead.operate, checked, advances]
      exact ⟨rfl, arrived⟩
  | take =>
      have drained : (head.operate .take).1.progress = some { progress with pending := 0 } := by
        simp [Playhead.operate, takePending, present]
      obtain ⟨sound, roomy, offset_lt, rest_pos, rest_le⟩ := ranges
      exact ⟨rfl, of_progress drained ⟨sound, roomy, offset_lt, rest_pos, rest_le⟩⟩
  | look =>
      refine ⟨?_, inRange⟩
      simp only [operateChecked?, Playhead.operate, present, ranges.frame.1, ranges.delay,
        Option.bind_eq_bind, Option.bind_some, Playhead.frame, delay?, Option.map_some]
      rfl

theorem run (inRange : head.InRange) {operations : List Operation}
    (rooms : ∀ operation ∈ operations, operation.LeavesRoom) :
    head.runChecked? operations = some (head.run operations) ∧
      (head.run operations).1.InRange := by
  induction operations generalizing head with
  | nil => exact ⟨rfl, inRange⟩
  | cons operation rest ih =>
      obtain ⟨checked, operated⟩ := inRange.operate (rooms operation List.mem_cons_self)
      obtain ⟨runs, last⟩ := ih operated fun other member =>
        rooms other (List.mem_cons_of_mem _ member)
      refine ⟨?_, last⟩
      simp only [runChecked?, checked, Option.bind_eq_bind, Option.bind_some, runs]
      rfl

end InRange

/-- The arithmetic of a playhead is safe in every run of operations after a configuration, if every
buffer leaves room that it is set up with. Checked in its words, each calculation comes to what it
comes to otherwise, and after every operation the playhead is in range. -/
theorem arithmetic_safe {head configured : Playhead} {setup : StreamSetup}
    {ticksPerSecond : UInt64}
    (accepted : head.configure setup ticksPerSecond = (configured, .done ()))
    (roomy : (⟨setup, ticksPerSecond⟩ : Timing).Roomy) (operations : List Operation)
    (rooms : ∀ operation ∈ operations, operation.LeavesRoom) :
    configured.runChecked? operations = some (configured.run operations) ∧
      ∀ before, before <+: operations → (configured.run before).1.InRange := by
  obtain ⟨sound, rfl⟩ := configure_eq_done accepted
  have initial : InRange ⟨head.base, some (.after ⟨setup, ticksPerSecond⟩ 0 0)⟩ := by
    rw [← Progress.start_eq_after]
    exact .of_progress rfl (.start sound roomy)
  refine ⟨(initial.run rooms).1, ?_⟩
  intro before part
  exact (initial.run fun operation member => rooms operation (part.subset member)).2

/-- The arithmetic at its limits: a playhead is moved on by the longest time over the largest buffer
that leaves room, another setup is refused, and a third one is played to the end of a long day. -/
theorem arithmetic_safe_largest :
    ∃ (configured : Playhead) (operations : List Operation),
      unconfigured.configure ⟨4294967295, 18446744069414584320, 18446744069414584320⟩
          18446744073709551615 = (configured, .done ()) ∧
        (⟨⟨4294967295, 18446744069414584320, 18446744069414584320⟩,
          18446744073709551615⟩ : Timing).Roomy ∧
        (∀ operation ∈ operations, operation.LeavesRoom) ∧
        configured.runChecked? operations = some (configured.run operations) ∧
        (configured.run (operations.take 4)).1.InRange ∧ (configured.run operations).1.InRange ∧
        (configured.run operations).1.pending = 86400 * 48000 / 49 := by
  let setup : StreamSetup := ⟨4294967295, 18446744069414584320, 18446744069414584320⟩
  let configured : Playhead := (unconfigured.configure setup 18446744073709551615).1
  let operations : List Operation :=
    [.advance 18446744073709551615, .look, .rebase 0, .advance 18446744073709551615,
      .configure ⟨8000, 0, 0⟩ 1, .configure ⟨48000, 4096, 49⟩ 1000, .advance 86399999]
  have accepted : unconfigured.configure setup 18446744073709551615 = (configured, .done ()) := by
    decide +kernel
  have roomy : (⟨setup, 18446744073709551615⟩ : Timing).Roomy := by decide +kernel
  have rooms : ∀ operation ∈ operations, operation.LeavesRoom := by decide +kernel
  have counted : (configured.run operations).1.pending = 86400 * 48000 / 49 := by decide +kernel
  obtain ⟨checked, ranges⟩ := arithmetic_safe accepted roomy operations rooms
  exact ⟨configured, operations, accepted, roomy, rooms, checked,
    ranges (operations.take 4) (List.take_prefix 4 operations),
    ranges operations (List.prefix_refl operations), counted⟩

end Playhead

end PcmPlayback
