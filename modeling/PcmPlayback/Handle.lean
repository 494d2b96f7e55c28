/-!
# Handles

A handle names an open device in a table of streams: the slot it occupies and the generation of
that slot. A slot changes its generation when its device is closed, so old handles miss.
-/

set_option autoImplicit false

namespace PcmPlayback

/-- The name of an open device: a slot and the generation in which it was taken. -/
structure Handle where
  index : UInt32
  generation : UInt32
  deriving Repr, DecidableEq

/-- The text form used in messages. -/
def Handle.text (handle : Handle) : String :=
  s!"EngineId \x7b index: {handle.index}, generation: {handle.generation} \x7d"

end PcmPlayback
