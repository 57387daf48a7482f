import Chip8.Fault
import Chip8.FrameBuffer
import Chip8.Instruction.Basic
import Chip8.Keypad
import Chip8.Machine.Basic
import Chip8.Tone

namespace Chip8

namespace Host

abbrev Colour := UInt32

namespace Colour

def ofChannels (red green blue : UInt8) : Colour :=
  (red.toUInt32 <<< 16) ||| (green.toUInt32 <<< 8) ||| blue.toUInt32

def lit : Colour := ofChannels 0 127 255

def unlit : Colour := ofChannels 0 0 0

theorem lit_eq : lit = 0x007FFF := by decide

theorem unlit_eq : unlit = 0 := by decide

end Colour

inductive Scale where
  | x1 | x2 | x4 | x8 | x16 | x32
  deriving DecidableEq, Repr

namespace Scale

def factor : Scale → Nat
  | .x1 => 1
  | .x2 => 2
  | .x4 => 4
  | .x8 => 8
  | .x16 => 16
  | .x32 => 32

/-- The least scale that enlarges at least as much as asked, or the largest there is. -/
def ofFactor (factor : Nat) : Scale :=
  if factor ≤ 1 then .x1
  else if factor ≤ 2 then .x2
  else if factor ≤ 4 then .x4
  else if factor ≤ 8 then .x8
  else if factor ≤ 16 then .x16
  else .x32

def text (scale : Scale) : String :=
  "X" ++ toString scale.factor

end Scale

abbrev PixelBuffer := Vector Colour 2048

namespace PixelBuffer

def blank : PixelBuffer :=
  Vector.replicate 2048 Colour.unlit

/-- Colours the places from the given one on. What lies behind the last of them stays. -/
def overwrite (pixels : PixelBuffer) (place : Nat) : List Bool → PixelBuffer
  | [] => pixels
  | lit :: rest =>
      let colour := if lit then Colour.lit else Colour.unlit
      overwrite (pixels.setIfInBounds place colour) (place + 1) rest

def ofFrameBuffer (buffer : FrameBuffer) : PixelBuffer :=
  buffer.pixels.map fun lit => if lit then Colour.lit else Colour.unlit

def colours (pixels : PixelBuffer) : List Colour :=
  pixels.toList.eraseDups.mergeSort (· ≤ ·)

/-- Which pixels are not black. -/
def shape (pixels : PixelBuffer) : FrameBuffer where
  pixels := pixels.map (· != Colour.unlit)

end PixelBuffer

structure Frame where
  /-- What the clock shows during the frame, in nanoseconds. -/
  reading : Int := 0
  keys : KeyState := .idle
  failing : Bool := false

structure Stretch where
  duration : Nat := 0
  times : Nat := 1
  keys : KeyState := .idle
  failing : Bool := false

def timeline (now : Int) : List Stretch → List Frame
  | [] => []
  | stretch :: rest =>
      (List.range stretch.times).map
          (fun count =>
            { reading := now + count * stretch.duration
              keys := stretch.keys
              failing := stretch.failing }) ++
        timeline (now + stretch.times * stretch.duration) rest

structure AudioDevice where
  format : Tone.SampleFormat
  rate : Nat
  channels : Nat
  configurationFailure : Option DeviceError := none
  buildFailure : Option DeviceError := none
  /-- The failures of the attempts to start the stream, in order; later attempts succeed. -/
  playFailures : List (Option ToggleError) := []
  pauseFailures : List (Option ToggleError) := []
  deriving DecidableEq, Repr

structure Stream where
  format : Tone.SampleFormat
  channels : Nat
  generator : Tone.Generator
  running : Bool
  playFailures : List (Option ToggleError)
  pauseFailures : List (Option ToggleError)

namespace Stream

/-- A stream may run from the moment it is built. -/
def onDevice (device : AudioDevice) : Stream where
  format := device.format
  channels := device.channels
  generator := .ofRate device.rate
  running := true
  playFailures := device.playFailures
  pauseFailures := device.pauseFailures

/-- An attempt to start the stream. One that fails leaves the stream as it was. -/
def play (stream : Stream) : Except ToggleError Unit × Stream :=
  match stream.playFailures with
  | some error :: rest => (.error error, { stream with playFailures := rest })
  | none :: rest => (.ok (), { stream with running := true, playFailures := rest })
  | [] => (.ok (), { stream with running := true })

def pause (stream : Stream) : Except ToggleError Unit × Stream :=
  match stream.pauseFailures with
  | some error :: rest => (.error error, { stream with pauseFailures := rest })
  | none :: rest => (.ok (), { stream with running := false, pauseFailures := rest })
  | [] => (.ok (), { stream with running := false })

def pull (stream : Stream) (length : Nat) : List Tone.Sample × Stream :=
  let (samples, generator) :=
    Tone.fill stream.channels Tone.Generator.next length stream.generator
  (samples.map stream.format.convert, { stream with generator })

end Stream

inductive Record where
  | machine (record : Machine.Record)
  | ready (rom : String) (count : Nat) (architecture : Architecture)
  | closed
  | silent (fault : Fault)
  | halting (counter : Address) (fault : Fault)
  | stuck (error : ToggleError)
  | complaint (error : DeviceError)
  deriving DecidableEq, Repr

namespace Record

def level : Record → Level
  | .machine record => record.level
  | .ready _ _ _ => .info
  | .closed => .info
  | .silent _ => .warn
  | .halting _ _ => .error
  | .stuck _ => .warn
  | .complaint _ => .warn

def message : Record → String
  | .machine record => record.message
  | .ready rom count architecture =>
      "loaded " ++ rom ++ s!" ({count} bytes), " ++ architecture.name ++ " architecture"
  | .closed => "window closed, exiting"
  | .silent fault => "continuing without sound: " ++ fault.message
  | .halting counter fault =>
      "halting at " ++ Text.hex 3 counter.toNat ++ ": " ++ fault.message
  | .stuck error => "could not toggle tone: " ++ error.message
  | .complaint error => "an error occurred on stream: " ++ error.message

end Record

inductive Event where
  | openWindow (title : String) (width height : Nat) (scale : Scale)
  /-- The shortest time between presented buffers. -/
  | limitRate (microseconds : Nat)
  | present (pixels : PixelBuffer)
  | buildStream (format : Tone.SampleFormat) (rate channels : Nat)
  | play
  | pause
  | record (record : Record)
  deriving DecidableEq

/-- Whether a log kept at a level shows an event; what is asked of the host is always shown. -/
def Event.isShown (kept : Option Level) : Event → Bool
  | .record entry => kept.any (·.shows entry.level)
  | _ => true

end Host

/-! A host as a script: what its files, its window, its audio device and its clock will do. -/

structure Host where
  program : Except Host.ReadError (List UInt8)
  frames : List Host.Frame
  refusesWindow : Bool := false
  audio : Option Host.AudioDevice := none
  /-- What the clock shows when the frames are about to begin. -/
  start : Int := 0

end Chip8
