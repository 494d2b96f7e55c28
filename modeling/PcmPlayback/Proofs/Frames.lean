import PcmPlayback.Proofs.Effects

/-!
# What calls do not look at

A call never looks at the callback in place, nor at what was delivered so far, and neither does the
device's own part of an expiry before it comes to tell. Such steps commute with putting another
callback and other deliveries in their place.
-/

set_option autoImplicit false

namespace PcmPlayback

/-- The callback that is in place after a call. -/
def Call.rerouted (callback : Option Callback) : Call → Option Callback
  | .register routine => some routine
  | .unregister => none
  | .prepare _ | .start | .stop | .trigger _ | .pointer | .status | .describe => callback
  | .copyOut _ _ | .free => callback

namespace Device

/-- The same device with another callback and other deliveries. -/
def fitted (device : Device) (callback : Option Callback) (delivery : Delivery) : Device :=
  { device with callback := callback, delivery := delivery }

section

variable (device : Device) (callback : Option Callback) (delivery : Delivery) (now : Tick)

theorem prepare_fitted (setup : StreamSetup) :
    (device.fitted callback delivery).prepare setup =
      ((device.prepare setup).1.fitted callback delivery, (device.prepare setup).2) := by
  have profile : (device.fitted callback delivery).profile = device.profile := rfl
  have stage : (device.fitted callback delivery).stage = device.stage := rfl
  simp only [prepare, profile, stage]
  split
  · split
    · split
      · split <;> rfl
      · rfl
    · rfl
  · rfl

theorem arm_fitted (tick : Tick) :
    (device.fitted callback delivery).arm tick = (device.arm tick).fitted callback delivery := by
  have profile : (device.fitted callback delivery).profile = device.profile := rfl
  cases schedule : device.profile.schedule with
  | boundary | grid =>
      simp only [arm, profile, schedule]
      rfl

theorem start_fitted :
    (device.fitted callback delivery).start now =
      ((device.start now).1.fitted callback delivery, (device.start now).2) := by
  by_cases allowed : device.stage.mayStart = true
  · have ready : (device.fitted callback delivery).stage.mayStart = true := allowed
    have first : ((device.fitted callback delivery).rewound now).firstExpiry? now =
        (device.rewound now).firstExpiry? now := rfl
    have armed (tick : Tick) : ((device.fitted callback delivery).rewound now).arm tick =
        ((device.rewound now).arm tick).fitted callback delivery :=
      arm_fitted (device.rewound now) callback delivery tick
    rw [start_eq now allowed, start_eq now ready, first]
    cases (device.rewound now).firstExpiry? now with
    | none => rfl
    | some tick =>
        simp only [armed]
        rfl
  · have refused : ¬ (device.fitted callback delivery).stage.mayStart = true := allowed
    rw [start, start, if_neg allowed, if_neg refused]
    rfl

theorem stop_fitted :
    (device.fitted callback delivery).stop now =
      ((device.stop now).1.fitted callback delivery, (device.stop now).2) := by
  by_cases running : device.stage = .running
  · cases moved : (device.playhead.advance now).2.isDone with
    | true | false => simp [stop, running, moved, fitted, disarm]
  · have rests : ¬ (device.fitted callback delivery).stage = .running := running
    rw [stop, stop, if_neg running, if_neg rests]
    rfl

theorem pointer_fitted :
    (device.fitted callback delivery).pointer now =
      ((device.pointer now).1.fitted callback delivery, (device.pointer now).2) := by
  by_cases reads : device.playhead.isConfigured ∧ device.stage = .running
  · have same : (device.fitted callback delivery).playhead.isConfigured ∧
        (device.fitted callback delivery).stage = .running := reads
    rw [pointer, pointer, if_pos reads, if_pos same]
    rfl
  · have same : ¬ ((device.fitted callback delivery).playhead.isConfigured ∧
        (device.fitted callback delivery).stage = .running) := reads
    rw [pointer, pointer, if_neg reads, if_neg same]
    rfl

theorem answer_fitted (call : Call) :
    (device.fitted callback delivery).answer now call =
      ((device.answer now call).1.fitted (call.rerouted callback) delivery,
        (device.answer now call).2) := by
  cases call with
  | prepare setup => simp only [answer, prepare_fitted, Call.rerouted]
  | start => simp only [answer, start_fitted, Call.rerouted]
  | stop => simp only [answer, stop_fitted, Call.rerouted]
  | trigger command =>
      cases command with
      | start | resume => simp only [answer, obey, start_fitted, Call.rerouted]
      | stop | suspend => simp only [answer, obey, stop_fitted, Call.rerouted]
  | pointer => simp only [answer, pointer_fitted, Call.rerouted]
  | status | describe | copyOut | register | unregister | free => rfl

theorem callback_answer (call : Call) :
    (device.answer now call).1.callback = call.rerouted device.callback :=
  congrArg (fun answer => answer.1.callback)
    (answer_fitted device device.callback device.delivery now call)

theorem answerAll_fitted (calls : List Call) :
    (device.fitted callback delivery).answerAll now calls =
      ((device.answerAll now calls).1.fitted (calls.foldl Call.rerouted callback) delivery,
        (device.answerAll now calls).2) := by
  induction calls generalizing device callback with
  | nil => rfl
  | cons call rest ih => simp only [answerAll, answer_fitted, ih, List.foldl_cons]

theorem refill_fitted :
    (device.fitted callback delivery).refill = device.refill.fitted callback delivery := by
  rw [refill_eq, refill_eq]
  rfl

theorem tend_fitted :
    (device.fitted callback delivery).tend now =
      ((device.tend now).1.fitted callback delivery, (device.tend now).2) := by
  cases moved : (device.playhead.advance now).2.isDone with
  | false =>
      have stuck : ((device.fitted callback delivery).playhead.advance now).2.isDone = false :=
        moved
      simp only [tend, moved, stuck, Bool.false_eq_true, if_false]
      rfl
  | true =>
      have moves : ((device.fitted callback delivery).playhead.advance now).2.isDone = true :=
        moved
      have next : ((device.fitted callback delivery).updated now).nextExpiry? now =
          (device.updated now).nextExpiry? now := rfl
      have armed (tick : Tick) : ((device.fitted callback delivery).updated now).arm tick =
          ((device.updated now).arm tick).fitted callback delivery :=
        arm_fitted (device.updated now) callback delivery tick
      rw [tend_eq moved, tend_eq moves, next]
      cases (device.updated now).nextExpiry? now with
      | none => rfl
      | some tick =>
          simp only [armed, ← refill_fitted]
          rfl

/-- How a strike ends if it counts its notification on other deliveries, and what it makes of
them. -/
def Strike.recounted (delivery : Delivery) : Strike → Strike × Delivery
  | .told periods _ => (.told periods (delivery.raise periods).2.isDone, (delivery.raise periods).1)
  | .quiet => (.quiet, delivery)
  | .faulted => (.faulted, delivery)
  | .fired => (.fired, delivery)

theorem strike_fitted :
    (device.fitted callback delivery).strike now =
      ((device.strike now).1.fitted callback ((device.strike now).2.recounted delivery).2,
        ((device.strike now).2.recounted delivery).1) := by
  by_cases fires : device.isDue now = true ∧ device.active = true ∧ device.stage = .running
  · have alike : (device.fitted callback delivery).isDue now = true ∧
        (device.fitted callback delivery).active = true ∧
        (device.fitted callback delivery).stage = .running := fires
    have tends : (device.fitted callback delivery).disarm.tend now = _ :=
      tend_fitted device.disarm callback delivery now
    rw [strike, strike, if_pos fires, if_pos alike, tends]
    -- the deliveries are looked at last, once there is something to tell
    rcases device.disarm.tend now with ⟨tended, _ | periods⟩
    · rfl
    · by_cases some : 0 < periods
      · simp only [some, if_true]
        rfl
      · simp only [some, if_false]
        rfl
  · have alike : ¬ ((device.fitted callback delivery).isDue now = true ∧
        (device.fitted callback delivery).active = true ∧
        (device.fitted callback delivery).stage = .running) := fires
    rw [strike, strike, if_neg fires, if_neg alike]
    by_cases due : device.isDue now = true
    · have late : (device.fitted callback delivery).isDue now = true := due
      rw [if_pos due, if_pos late]
      rfl
    · have early : ¬ (device.fitted callback delivery).isDue now = true := due
      rw [if_neg due, if_neg early]
      rfl

theorem recounted_self :
    (device.strike now).2.recounted device.delivery =
      ((device.strike now).2, (device.strike now).1.delivery) := by
  have struck := device.strike_struck now
  generalize (device.strike now).1 = next at struck ⊢
  generalize (device.strike now).2 = strike at struck ⊢
  cases struck with
  | early | asleep | faulted | fired | told => rfl

end

end Device

end PcmPlayback
