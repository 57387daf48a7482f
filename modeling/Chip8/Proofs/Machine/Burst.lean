import Chip8.Machine.Burst
import Chip8.Machine.History
import Chip8.Proofs.Machine.Course
import Mathlib.Logic.Function.Iterate

namespace Chip8

namespace Machine

/-- The machine is about to return with no call in progress, or to call with sixteen. -/
inductive FaultsWith (machine : Machine) : Fault → Prop where
  | underflow (hword : machine.fetch = 0x00EE) (hdepth : machine.stack.depth = 0) :
      FaultsWith machine .stackUnderflow
  | overflow (hfamily : machine.fetch.family = 2) (hdepth : machine.stack.depth = 16) :
      FaultsWith machine (.stackOverflow (machine.counter + 2))

theorem faultsWith_of_result {machine : Machine} {keys : KeyState} {fault : Fault}
    (hfault : (machine.step keys).result = .error fault) : machine.FaultsWith fault := by
  cases step_course hfault with
  | underflow hinstruction hdepth =>
      exact .underflow (Instruction.decode_eq_returnFromCall_iff.mp hinstruction) hdepth
  | overflow target hinstruction hdepth =>
      exact .overflow (Instruction.decode_eq_call_iff.mp hinstruction).1 hdepth

theorem machine_step_of_error {machine : Machine} {keys : KeyState} {fault : Fault}
    (hfault : (machine.step keys).result = .error fault) :
    (machine.step keys).machine = machine := by
  cases step_course hfault with
  | underflow _ _ hafter | overflow _ _ _ hafter => exact hafter

namespace FaultsWith

variable {machine : Machine} {fault : Fault}

theorem result_step (hfaults : machine.FaultsWith fault) (keys : KeyState) :
    (machine.step keys).result = .error fault := by
  rw [Machine.result_step]
  cases hfaults with
  | underflow hword hdepth =>
      have hinstruction : machine.instruction = .returnFromCall :=
        Instruction.decode_eq_returnFromCall_iff.mpr hword
      have hpop := CallStack.pop_eq_error_iff.mpr ⟨hdepth, rfl⟩
      rw [hinstruction, execute, hpop]
      rfl
  | overflow hfamily hdepth =>
      have hinstruction : machine.instruction = .call machine.fetch.nnn :=
        Instruction.decode_eq_call_iff.mpr ⟨hfamily, rfl⟩
      have hpush : machine.stack.push (machine.counter + 2) =
          .error (.stackOverflow (machine.counter + 2)) :=
        CallStack.push_eq_error_iff.mpr ⟨hdepth, rfl⟩
      rw [hinstruction, execute, hpush]
      rfl

theorem tick (hfaults : machine.FaultsWith fault) : machine.tick.FaultsWith fault := by
  cases hfaults with
  | underflow hword hdepth => exact .underflow hword hdepth
  | overflow hfamily hdepth => exact .overflow hfamily hdepth

theorem run (hfaults : machine.FaultsWith fault) {later : List Operation}
    (hlater : ∀ operation ∈ later, ¬ operation.isLoad) :
    (∀ result ∈ machine.results later, result = .error fault) ∧
      machine.run later = machine.ticks (later.countP Operation.isTick) := by
  have hstep {state : Machine} (hstate : state.FaultsWith fault) (keys : KeyState) :
      (state.step keys).result = .error fault ∧ (state.step keys).machine = state :=
    ⟨hstate.result_step keys, machine_step_of_error (hstate.result_step keys)⟩
  obtain ⟨hresults, -, hrun⟩ :=
    run_of_unmoved (·.FaultsWith fault) hfaults tick hlater fun hstate keys _ => hstep hstate keys
  exact ⟨hresults, hrun⟩

end FaultsWith

/-- A step faults exactly when a return finds no call or a call finds no room. It then changes
nothing, and neither does any later step: each ends in the same fault. -/
theorem faults_are_exact_and_final (machine : Machine) (keys : KeyState) (fault : Fault) :
    ((machine.step keys).result = .error fault ↔ machine.FaultsWith fault) ∧
      ((machine.step keys).result = .error fault →
        (machine.step keys).machine = machine ∧
          ∀ later : List Operation, (∀ operation ∈ later, ¬ operation.isLoad) →
            (∀ result ∈ machine.results later, result = .error fault) ∧
              machine.run later = machine.ticks (later.countP Operation.isTick)) := by
  refine ⟨⟨faultsWith_of_result, fun hfaults => hfaults.result_step keys⟩, fun hfault => ?_⟩
  exact ⟨machine_step_of_error hfault, fun later => (faultsWith_of_result hfault).run⟩

/-- A call with sixteen calls in progress, from an address that folds to the first one. -/
theorem faults_are_exact_and_final_overflow :
    let machine : Machine :=
      { withSeed .chip 0 with
        memory := Memory.blank.write 0 [0x2A, 0xBC]
        counter := 0xF000
        stack := { slots := Vector.replicate 16 0x202, depth := 16 }
        sound := ⟨2⟩ }
    (machine.step .idle).result = .error (.stackOverflow 0xF002) ∧
      machine.run [.tick, .step .idle, .tick] = machine.ticks 2 := by
  intro machine
  have hfamily : machine.fetch.family = 2 := by decide
  have haddress : machine.counter + 2 = 0xF002 := by decide
  have hfaults : machine.FaultsWith (.stackOverflow 0xF002) :=
    haddress ▸ .overflow hfamily rfl
  obtain ⟨hexact, hfinal⟩ := faults_are_exact_and_final machine .idle (.stackOverflow 0xF002)
  have hfault := hexact.mpr hfaults
  have hlater := (hfinal hfault).2 [.tick, .step .idle, .tick] (by simp [Operation.isLoad])
  exact ⟨hfault, hlater.2⟩

def Stop.fault? : Stop → Option Fault
  | .fault cause => some cause
  | _ => none

/-- How a burst with slots left goes on: it ends with the machine as it is, or it becomes the
burst of the machine after one slot. -/
inductive BurstCourse (machine : Machine) (keys : KeyState) : Prop where
  | ended (fault? : Option Fault) (hslot : slot keys machine = machine)
      (hmachine : ∀ slots, (machine.burst keys (slots + 1)).machine = machine)
      (hfault : ∀ slots, (machine.burst keys (slots + 1)).stop.fault? = fault?)
  | continued
      (hmachine : ∀ slots, (machine.burst keys (slots + 1)).machine =
        ((slot keys machine).burst keys slots).machine)
      (hstop : ∀ slots, (machine.burst keys (slots + 1)).stop =
        ((slot keys machine).burst keys slots).stop)

theorem machine_step_of_reissue {machine : Machine} {keys : KeyState}
    (hreissue : (machine.step keys).result = .ok .reissue) :
    (machine.step keys).machine = machine := by
  cases step_course hreissue with
  | waited _ hafter => exact hafter

theorem burstCourse (machine : Machine) (keys : KeyState) : machine.BurstCourse keys := by
  by_cases hinside : machine.inProgram
  · cases hresult : (machine.step keys).result with
    | error fault =>
        have hmachine := machine_step_of_error hresult
        refine .ended (some fault) ?_ ?_ ?_
        · simp [slot, hinside, hresult]
        · intro slots
          simp [burst, hinside, hresult, hmachine]
        · intro slots
          simp [burst, hinside, hresult, Stop.fault?]
    | ok advance =>
        cases advance with
        | reissue =>
            have hmachine := machine_step_of_reissue hresult
            refine .ended none ?_ ?_ ?_
            · simp [slot, hinside, hresult, hmachine]
            · intro slots
              simp [burst, hinside, hresult, hmachine]
            · intro slots
              simp [burst, hinside, hresult, Stop.fault?]
        | next | redirected =>
            refine .continued ?_ ?_ <;>
              · intro slots
                simp [burst, slot, hinside, hresult]
  · refine .ended none ?_ ?_ ?_
    · simp [slot, hinside]
    · intro slots
      simp [burst, hinside]
    · intro slots
      simp [burst, hinside, Stop.fault?]

theorem machine_burst (machine : Machine) (keys : KeyState) (slots : Nat) :
    (machine.burst keys slots).machine = (slot keys)^[slots] machine := by
  induction slots generalizing machine with
  | zero => rfl
  | succ slots ih =>
      cases machine.burstCourse keys with
      | ended fault? hslot hmachine hfault =>
          rw [hmachine, Function.iterate_fixed hslot]
      | continued hmachine hstop =>
          rw [hmachine, ih, Function.iterate_succ_apply]

theorem fault?_burst_add (machine : Machine) (keys : KeyState) (first second : Nat) :
    (machine.burst keys (first + second)).stop.fault? =
      (machine.burst keys first).stop.fault?.or
        ((machine.burst keys first).machine.burst keys second).stop.fault? := by
  induction first generalizing machine with
  | zero => simp [Stop.fault?]
  | succ first ih =>
      rw [Nat.add_right_comm]
      cases machine.burstCourse keys with
      | ended fault? hslot hmachine hfault =>
          rw [hmachine, hfault, hfault]
          cases second with
          | zero => cases fault? <;> rfl
          | succ second => rw [hfault, Option.or_self]
      | continued hmachine hstop => rw [hmachine, hstop, hstop, ih]

/-- A burst leaves the machine that its slots leave one by one. So two bursts under the same keys
are one burst of all their slots, and meet the fault that it meets. -/
theorem bursts_are_iterated_slots (machine : Machine) (keys : KeyState) :
    (∀ slots, (machine.burst keys slots).machine = (slot keys)^[slots] machine) ∧
      ∀ first second,
        ((machine.burst keys first).machine.burst keys second).machine =
            (machine.burst keys (first + second)).machine ∧
          (machine.burst keys first).stop.fault?.or
              ((machine.burst keys first).machine.burst keys second).stop.fault? =
            (machine.burst keys (first + second)).stop.fault? := by
  refine ⟨machine.machine_burst keys, fun first second => ⟨?_, ?_⟩⟩
  · rw [machine_burst, machine_burst, machine_burst, Nat.add_comm,
      Function.iterate_add_apply]
  · exact (machine.fault?_burst_add keys first second).symm

end Machine

end Chip8
