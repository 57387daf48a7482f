import Chip8.Fault
import Chip8.Host

namespace Chip8

structure Sound where
  stream : Host.Stream
  /-- What the stream was last told with success. -/
  playing : Bool

namespace Sound

structure Opening where
  result : Except Fault Sound
  events : List Host.Event

/-- Builds a stream on the default device and stops it. -/
def onDevice (device : Host.AudioDevice) : Opening :=
  let built : Host.Event := .buildStream device.format device.rate device.channels
  match device.configurationFailure, device.buildFailure with
  | some error, _ => { result := .error (.audio error.message), events := [] }
  | none, some error => { result := .error (.audio error.message), events := [built] }
  | none, none =>
      let events := [built, .pause]
      match (Host.Stream.onDevice device).pause with
      | (.ok (), stream) => { result := .ok { stream, playing := false }, events }
      | (.error error, _) => { result := .error (.audio error.message), events }

def openStream : Option Host.AudioDevice → Opening
  | some device => onDevice device
  | none => { result := .error (.audio "no output device available"), events := [] }

/-- Starts or stops the tone if it is not as wished. A failure is noted, and the next wish tries
again. -/
def setActive (sound : Sound) (active : Bool) : Sound × List Host.Event :=
  if active = sound.playing then
    (sound, [])
  else
    let request := if active then Host.Event.play else Host.Event.pause
    match if active then sound.stream.play else sound.stream.pause with
    | (.ok (), stream) => ({ stream, playing := active }, [request])
    | (.error error, stream) =>
        ({ sound with stream }, [request, .record (.stuck error)])

def setAll (sound : Sound) : List Bool → Sound × List Host.Event
  | [] => (sound, [])
  | active :: rest =>
      let (sound, events) := sound.setActive active
      let (sound, later) := sound.setAll rest
      (sound, events ++ later)

end Sound

end Chip8
