import Chip8.Fault
import Chip8.Host

namespace Chip8

structure Screen where
  frames : List Host.Frame
  /-- What the window was last handed. -/
  pixels : Host.PixelBuffer := .blank

namespace Screen

def title : String := "chipvm - ESC to exit"

/-- Frames follow each other at sixty a second or a little faster. -/
def frameMicroseconds : Nat := 16600

structure Opening where
  result : Except Fault Screen
  events : List Host.Event

/-- Opens a window on the frames of a host, which may refuse it. -/
def openWindow (scale : Nat) (refused : Bool) (frames : List Host.Frame) : Opening :=
  let opened : Host.Event :=
    .openWindow title FrameBuffer.width FrameBuffer.height (.ofFactor scale)
  if refused then
    { result := .error (.window "Failed to create window"), events := [opened] }
  else
    { result := .ok { frames }, events := [opened, .limitRate frameMicroseconds] }

def keys (screen : Screen) : KeyState :=
  match screen.frames with
  | frame :: _ => frame.keys
  | [] => .idle

def isRunning (screen : Screen) : Bool :=
  !screen.frames.isEmpty && !screen.keys.held .escape

structure Rendering where
  screen : Screen
  result : Except Fault Unit
  events : List Host.Event

/-- Colours the pixels anew, hands them to the window and so ends the current frame. -/
def render (screen : Screen) (buffer : FrameBuffer) : Rendering :=
  let pixels := screen.pixels.overwrite 0 buffer.rows.flatten
  { screen := { frames := screen.frames.tail, pixels }
    result :=
      if screen.frames.head?.any Host.Frame.failing then
        .error (.window "Failed to Update")
      else
        .ok ()
    events := [.present pixels] }

end Screen

end Chip8
