import Chip8.Machine.Execute

namespace Chip8.Machine

inductive Stop where
  | limit
  /-- The counter left the program. -/
  | left
  | waiting
  | fault (fault : Fault)
  deriving DecidableEq, Repr

structure Burst where
  machine : Machine
  /-- The instructions that were run, a faulting one excepted. -/
  executed : Nat
  stop : Stop
  log : List Record

def burst (machine : Machine) (keys : KeyState) : (slots : Nat) → Burst
  | 0 => { machine, executed := 0, stop := .limit, log := [] }
  | slots + 1 =>
      if machine.inProgram then
        let outcome := machine.step keys
        match outcome.result with
        | .error fault =>
            { machine := outcome.machine, executed := 0, stop := .fault fault
              log := outcome.log }
        | .ok .reissue =>
            { machine := outcome.machine, executed := 1, stop := .waiting, log := outcome.log }
        | .ok _ =>
            let rest := outcome.machine.burst keys slots
            { rest with executed := rest.executed + 1, log := outcome.log ++ rest.log }
      else
        { machine, executed := 0, stop := .left, log := [] }

/-- One slot on its own: a machine outside its program, and one whose instruction faults, stays
as it is. -/
def slot (keys : KeyState) (machine : Machine) : Machine :=
  if machine.inProgram then
    let outcome := machine.step keys
    match outcome.result with
    | .ok _ => outcome.machine
    | .error _ => machine
  else
    machine

@[simp] theorem burst_zero (machine : Machine) (keys : KeyState) :
    machine.burst keys 0 = { machine, executed := 0, stop := .limit, log := [] } := rfl

end Chip8.Machine
