import Chip8.CommandLine
import Chip8.Host
import Chip8.Screen
import Chip8.Session

namespace Chip8

namespace Host

/-- A frame of a line: the names of the held keys, a plus sign marking one that just went down. -/
def Stretch.ofLine (line : String) : Stretch :=
  let blanks := fun character => character = ' ' ∨ character = '\n' ∨ character = '\r'
  let names := (line.toList.splitBy fun left right => blanks left = blanks right).filter
    fun letters => !letters.any blanks
  let held := names.map fun letters => HostKey.ofName (String.ofList (letters.dropWhile (· = '+')))
  let pressed := (names.filter fun letters => letters.head? = some '+').map
    fun letters => HostKey.ofName (String.ofList letters.tail)
  { duration := 1000 * Screen.frameMicroseconds, keys := .ofLists held pressed }

private def rowLine (row : List Bool) : String :=
  String.ofList (row.map fun lit => if lit then '#' else '.')

/-- A picture takes a line a row, everything else one line. -/
def Event.lines : Event → List String
  | .openWindow title width height scale =>
      [s!"window {title}: {width} by {height}, " ++ scale.text]
  | .limitRate microseconds => [s!"at most one frame in {microseconds} microseconds"]
  | .present pixels => "frame" :: pixels.shape.rows.map rowLine
  | .buildStream format rate channels =>
      ["stream " ++ format.name ++ s!" at {rate} samples a second, {channels} channels"]
  | .play => ["tone on"]
  | .pause => ["tone off"]
  | .record entry => ["[" ++ entry.level.name ++ "] " ++ entry.message]

end Host

namespace Main

def readProgram (name : String) : IO (Except Host.ReadError (List UInt8)) := do
  try
    return .ok (← IO.FS.readBinFile name).toList
  catch
    | .noFileOrDirectory _ _ _ => return .error .notFound
    | .inappropriateType _ _ _ => return .error .isDirectory
    | error => return .error (.other (toString error))

def readStretches : IO (List Host.Stretch) := do
  return (← (← IO.getStdin).lines).toList.map Host.Stretch.ofLine

def play (settings : Settings) : IO UInt32 := do
  let program ← readProgram settings.rom
  let frames := Host.timeline 0 (← readStretches)
  let seed := UInt64.ofNat (← IO.rand 0 (UInt64.size - 1))
  let report := Session.run settings { program, frames } (.ofSeed seed)
  for event in report.events do
    if event.isShown (some .info) then
      event.lines.forM IO.println
  match report.result with
  | .ok () => return 0
  | .error failure => do
      IO.eprintln ("Error: " ++ failure.message)
      return 1

end Main

end Chip8

def main (arguments : List String) : IO UInt32 := do
  match Chip8.CommandLine.parse arguments with
  | .ok settings => Chip8.Main.play settings
  | .error problem => do
      IO.eprintln problem.message
      return problem.exitCode
