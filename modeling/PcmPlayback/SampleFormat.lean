/-!
# Sample formats

The encodings a sample may have, and sets of them. A set is a word with one bit for each
format, so that union is bitwise or and membership is a test of one bit.
-/

set_option autoImplicit false

namespace PcmPlayback

/-- How one sample is stored. -/
inductive SampleFormat where
  | u8
  | s16Le
  | s24Le
  | s32Le
  | floatLe
  deriving Repr, DecidableEq

namespace SampleFormat

/-- Every format, in the order of their bits. -/
def all : List SampleFormat := [.u8, .s16Le, .s24Le, .s32Le, .floatLe]

/-- The name used in messages. -/
def name : SampleFormat → String
  | .u8 => "U8"
  | .s16Le => "S16Le"
  | .s24Le => "S24Le"
  | .s32Le => "S32Le"
  | .floatLe => "FloatLe"

/-- Storage of one sample in bytes. A sample of 24 bits sits in the low bytes of a word of 32. -/
def bytes : SampleFormat → Nat
  | .u8 => 1
  | .s16Le => 2
  | .s24Le => 4
  | .s32Le => 4
  | .floatLe => 4

/-- The bit that stands for the format in a set. -/
def bit : SampleFormat → UInt8
  | .u8 => 1
  | .s16Le => 2
  | .s24Le => 4
  | .s32Le => 8
  | .floatLe => 16

theorem mem_all (format : SampleFormat) : format ∈ all := by
  cases format <;> decide

theorem bytes_pos (format : SampleFormat) : 0 < format.bytes := by
  cases format <;> decide

end SampleFormat

/-- A set of formats, one bit each. -/
structure FormatSet where
  mask : UInt8
  deriving Repr, DecidableEq

namespace FormatSet

def empty : FormatSet := ⟨0⟩

def isEmpty (set : FormatSet) : Bool := set.mask == 0

def contains (set : FormatSet) (format : SampleFormat) : Bool := set.mask &&& format.bit != 0

def insert (set : FormatSet) (format : SampleFormat) : FormatSet := ⟨set.mask ||| format.bit⟩

/-- The set of the listed formats; repetition and order do not matter. -/
def ofList (formats : List SampleFormat) : FormatSet := formats.foldl insert empty

def toList (set : FormatSet) : List SampleFormat := SampleFormat.all.filter set.contains

def text (set : FormatSet) : String := s!"Formats({set.mask})"

theorem mem_toList_iff {set : FormatSet} {format : SampleFormat} :
    format ∈ set.toList ↔ set.contains format = true := by
  simp [toList, SampleFormat.mem_all]

end FormatSet

end PcmPlayback
