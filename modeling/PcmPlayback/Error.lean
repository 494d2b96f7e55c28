import PcmPlayback.Handle
import PcmPlayback.SampleFormat
import PcmPlayback.Stage

/-!
# Refusals

Every cause for which an operation is refused, and the sentence that reports it. Sizes are exact
numbers, so a report shows what was asked for even where it could never be granted.
-/

set_option autoImplicit false

namespace PcmPlayback

/-- Why an operation was refused. -/
inductive Error where
  | outOfMemory
  | timerFailed (reason : String)
  | wrongStage (operation : String) (stage : Stage)
  | unknownHandle (handle : Handle)
  | streamBusy (stream : UInt32)
  | zeroRate
  | zeroPeriod
  | zeroBuffer
  | periodExceedsBuffer (period buffer : Nat)
  | rateUnsupported (rate : UInt32)
  | channelsUnsupported (channels : UInt32)
  | formatUnsupported (format : SampleFormat)
  | bufferTooLarge (bytes max : Nat)
  | periodBytesOutside (bytes min max : Nat)
  | periodCountOutside (count min max : Nat)
  | emptySource
  deriving Repr, DecidableEq

namespace Error

def message : Error → String
  | .outOfMemory => "out of memory"
  | .timerFailed reason => s!"failed to start timer: {reason}"
  | .wrongStage operation stage => s!"cannot {operation} while {stage.name}"
  | .unknownHandle handle => s!"no engine for {handle.text}"
  | .streamBusy stream => s!"StreamId({stream}) is already open"
  | .zeroRate => "sample rate must be nonzero"
  | .zeroPeriod => "period size must be nonzero"
  | .zeroBuffer => "buffer size must be nonzero"
  | .periodExceedsBuffer period buffer =>
      s!"period of {period} frames exceeds buffer of {buffer} frames"
  | .rateUnsupported rate => s!"unsupported sample rate {rate} Hz"
  | .channelsUnsupported channels => s!"unsupported channel count {channels}"
  | .formatUnsupported format => s!"unsupported format {format.name}"
  | .bufferTooLarge bytes max => s!"buffer of {bytes} bytes exceeds maximum of {max}"
  | .periodBytesOutside bytes min max => s!"period of {bytes} bytes outside {min}..={max}"
  | .periodCountOutside count min max => s!"{count} periods outside {min}..={max}"
  | .emptySource => "source is empty"

/-- The report of the deeper failure behind a refusal, where there is one. -/
def source? : Error → Option String
  | .timerFailed reason => some reason
  | _ => none

end Error

end PcmPlayback
