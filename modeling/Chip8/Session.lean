import Chip8.CommandLine
import Chip8.Fault
import Chip8.Host
import Chip8.Machine.Burst
import Chip8.Screen
import Chip8.Sound
import Chip8.Timer

namespace Chip8

/-! A run of a program on a host: the program is read and loaded, the window and the sound are
opened, and frames follow until the window closes or something fails. -/

structure Session where
  machine : Machine
  sound : Option Sound
  clock : Clock
  /-- What the window was last handed. -/
  pixels : Host.PixelBuffer

namespace Session

def noted (log : List Machine.Record) : List Host.Event :=
  log.map fun record => .record (.machine record)

structure Pass where
  events : List Host.Event
  ticks : Nat
  result : Except Failure Session

/-- The work of a frame before its picture is presented: the instructions, the ticks that have
come due, and the tone. A fault ends it after the instructions. -/
def pass (session : Session) (speed : Nat) (frame : Host.Frame) : Pass :=
  let burst := session.machine.burst frame.keys speed
  match burst.stop with
  | .fault fault =>
      { events := noted burst.log ++ [.record (.halting burst.machine.counter fault)]
        ticks := 0
        result := .error (.fault fault) }
  | _ =>
      let (ticks, clock) := session.clock.due frame.reading
      let machine := burst.machine.ticks ticks
      match session.sound with
      | some sound =>
          let (sound, toggles) := sound.setActive machine.soundActive
          { events := noted burst.log ++ toggles
            ticks
            result := .ok { session with machine, sound := some sound, clock } }
      | none =>
          { events := noted burst.log
            ticks
            result := .ok { session with machine, sound := none, clock } }

structure Report where
  events : List Host.Event
  passes : List Pass
  result : Except Failure Unit

def Report.refused (events : List Host.Event) (failure : Failure) : Report where
  events := events
  passes := []
  result := .error failure

def Report.closed : Report where
  events := [.record .closed]
  passes := []
  result := .ok ()

def Report.after (report : Report) (events : List Host.Event) (passes : List Pass := []) :
    Report :=
  { report with events := events ++ report.events, passes := passes ++ report.passes }

def play (session : Session) (speed : Nat) : List Host.Frame → Report
  | [] => .closed
  | frame :: rest =>
      let screen : Screen := { frames := frame :: rest, pixels := session.pixels }
      if screen.isRunning then
        let pass := session.pass speed frame
        match pass.result with
        | .error failure => { events := pass.events, passes := [pass], result := .error failure }
        | .ok session =>
            let rendering := screen.render session.machine.frameBuffer
            let events := pass.events ++ rendering.events
            match rendering.result with
            | .error fault => { events, passes := [pass], result := .error (.fault fault) }
            | .ok () =>
                let session : Session := { session with pixels := rendering.screen.pixels }
                (session.play speed rest).after events [pass]
      else
        .closed

/-- The sound of a run, if it is wanted and the host has one. -/
def openSound (settings : Settings) (host : Host) : Option Sound × List Host.Event :=
  if settings.mute then
    (none, [])
  else
    let opening := Sound.openStream host.audio
    match opening.result with
    | .ok sound => (some sound, opening.events)
    | .error fault => (none, opening.events ++ [.record (.silent fault)])

def start (settings : Settings) (host : Host) (machine : Machine) : Report :=
  let opening := Screen.openWindow settings.scale host.refusesWindow host.frames
  match opening.result with
  | .error fault => .refused opening.events (.fault fault)
  | .ok screen =>
      let (sound, events) := openSound settings host
      let session : Session :=
        { machine, sound, clock := .start settings.timerRate host.start, pixels := screen.pixels }
      (session.play settings.speed screen.frames).after (opening.events ++ events)

def run (settings : Settings) (host : Host) (random : RandomSource) : Report :=
  match host.program with
  | .error error => .refused [] (.unreadable settings.rom error)
  | .ok program =>
      let loaded := (Machine.initial settings.architecture random).load program
      match loaded.result with
      | .error fault => .refused (noted loaded.log) (.unloadable settings.rom fault)
      | .ok count =>
          (start settings host loaded.machine).after
            (noted loaded.log ++
              [.record (.ready settings.rom count settings.architecture)])

end Session

end Chip8
