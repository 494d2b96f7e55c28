/-!
# Stages of a device

The lifecycle of a playback device and the commands a sound framework sends to it.
-/

set_option autoImplicit false

namespace PcmPlayback

/-- Where a device stands in its life. A device starts idle, and a freed one stays freed. -/
inductive Stage where
  | idle
  | prepared
  | running
  | stopped
  | freed
  deriving Repr, DecidableEq

namespace Stage

/-- The name used in messages. -/
def name : Stage → String
  | .idle => "Idle"
  | .prepared => "Prepared"
  | .running => "Running"
  | .stopped => "Stopped"
  | .freed => "Freed"

/-- A new setup is accepted whenever the device is neither running nor freed. -/
def mayPrepare : Stage → Bool
  | .idle | .prepared | .stopped => true
  | .running | .freed => false

/-- Playback begins from a fresh setup or continues after a stop. -/
def mayStart : Stage → Bool
  | .prepared | .stopped => true
  | .idle | .running | .freed => false

theorem mayPrepare_iff {stage : Stage} :
    stage.mayPrepare = true ↔ stage ≠ .running ∧ stage ≠ .freed := by
  cases stage <;> decide

theorem mayStart_iff {stage : Stage} :
    stage.mayStart = true ↔ stage = .prepared ∨ stage = .stopped := by
  cases stage <;> decide

end Stage

/-- Stream control commands of a sound framework. Resuming starts and suspending stops. -/
inductive Command where
  | start
  | resume
  | stop
  | suspend
  deriving Repr, DecidableEq

end PcmPlayback
