namespace Chip8

namespace Tone

/-- Fills a buffer of the given length from a source of samples: one sample for each group of
`channels` places, of which the last may be short. -/
def fill (channels : Nat) (next : σ → α × σ) (length : Nat) (source : σ) : List α × σ :=
  if _h : 0 < channels ∧ 0 < length then
    let (sample, source) := next source
    let (rest, source) := fill channels next (length - channels) source
    (List.replicate (min channels length) sample ++ rest, source)
  else
    ([], source)
termination_by length

theorem length_fill {channels : Nat} (hchannels : 0 < channels) (next : σ → α × σ)
    (length : Nat) (source : σ) :
    (fill channels next length source).1.length = length := by
  induction length using Nat.strongRecOn generalizing source with
  | ind length ih =>
      unfold fill
      split
      · rename_i h
        simp only [List.length_append, List.length_replicate]
        rw [ih (length - channels) (by omega)]
        omega
      · rename_i h
        simp only [List.length_nil]
        omega

structure Generator where
  /-- Samples in a second. -/
  rate : Float32
  /-- How far the generator is into the current second, in samples. -/
  position : Float32 := 0

namespace Generator

def pitch : Float32 := 440

def pi : Float32 := Float32.ofBits 0x40490FDB

def volume : Float32 := 0.25

def ofRate (rate : Nat) : Generator where
  rate := Float32.ofNat rate

def advance (generator : Generator) : Generator :=
  let position := generator.position + 1
  { generator with
    position := if position < generator.rate then position else position - generator.rate }

def value (generator : Generator) : Float32 :=
  let angle := generator.position * pitch * 2 * pi / generator.rate
  angle.toFloat.sin.toFloat32 * volume

def next (generator : Generator) : Float32 × Generator :=
  let generator := generator.advance
  (generator.value, generator)

end Generator

inductive SampleFormat where
  | i8 | i16 | i32 | i64
  | u8 | u16 | u32 | u64
  | f32 | f64
  deriving DecidableEq, Repr

inductive Sample where
  | integer (value : Int)
  | real (value : Float)

namespace SampleFormat

def all : List SampleFormat :=
  [.i8, .i16, .i32, .i64, .u8, .u16, .u32, .u64, .f32, .f64]

def name : SampleFormat → String
  | .i8 => "i8"
  | .i16 => "i16"
  | .i32 => "i32"
  | .i64 => "i64"
  | .u8 => "u8"
  | .u16 => "u16"
  | .u32 => "u32"
  | .u64 => "u64"
  | .f32 => "f32"
  | .f64 => "f64"

def ofName? (name : String) : Option SampleFormat :=
  all.find? fun format => format.name = name

def bits : SampleFormat → Nat
  | .i8 | .u8 => 8
  | .i16 | .u16 => 16
  | .i32 | .u32 | .f32 => 32
  | .i64 | .u64 | .f64 => 64

def halfRange (bits : Nat) : Int :=
  Nat.pow 2 (bits - 1)

/-- The integer part of a scaled sample, brought into the signed range of the given width. -/
def quantize (bits : Nat) (value : Float32) : Int :=
  let scaled := (value.toFloat.scaleB (bits - 1)).toInt64.toInt
  max (-halfRange bits) (min scaled (halfRange bits - 1))

/-- Writes a sample in a format. Signed formats are scaled, cut toward zero and saturated; unsigned
formats move the signed value up by half their range; floats keep the value. -/
def convert (format : SampleFormat) (value : Float32) : Sample :=
  match format with
  | .i8 | .i16 | .i32 | .i64 => .integer (quantize format.bits value)
  | .u8 | .u16 | .u32 | .u64 =>
      .integer (quantize format.bits value + halfRange format.bits)
  | .f32 | .f64 => .real value.toFloat

end SampleFormat

end Tone

end Chip8
