import Chip8.Machine.Execute

namespace Chip8

/-! The courses that a step can take, told apart by what happens to the counter and to the calls
in progress. Two instructions can fault, four set the counter themselves, one can wait, and all
others leave the stack alone and let the counter move on. -/

def Instruction.Redirects : Instruction → Prop
  | .returnFromCall | .jump _ | .call _ | .jumpWithOffset _ _ => True
  | _ => False

namespace Machine

def skips (machine : Machine) (keys : KeyState) : Instruction → Bool
  | .skipEqualConstant x value => machine.registers.get x == value
  | .skipNotEqualConstant x value => machine.registers.get x != value
  | .skipEqual x y => machine.registers.get x == machine.registers.get y
  | .skipNotEqual x y => machine.registers.get x != machine.registers.get y
  | .skipHeld x => Keypad.isHeld keys (machine.registers.get x)
  | .skipNotHeld x => !Keypad.isHeld keys (machine.registers.get x)
  | _ => false

def waits (keys : KeyState) : Instruction → Bool
  | .awaitKey _ => (Keypad.firstPressed? keys).isNone
  | _ => false

/-- Executes a word as if it had been fetched, without moving on to the next one. -/
def executeWord (machine : Machine) (keys : KeyState) (word : Word) : Outcome Advance :=
  machine.execute keys (.decode machine.architecture word)

theorem machine_skipIf (machine : Machine) (condition : Bool) :
    (machine.skipIf condition).machine =
      { machine with
        counter := if condition then machine.counter + 2 else machine.counter } := by
  cases condition <;> rfl

theorem machine_execute_awaitKey (machine : Machine) (keys : KeyState) (x : UInt8) :
    (machine.execute keys (.awaitKey x)).machine =
      { machine with
        registers :=
          ((Keypad.firstPressed? keys).map (machine.registers.set x)).getD
            machine.registers } := by
  simp only [execute]
  cases Keypad.firstPressed? keys <;> rfl

theorem machine_execute_of_waits (machine : Machine) {keys : KeyState}
    {instruction : Instruction} (hwaits : waits keys instruction) :
    (machine.execute keys instruction).machine = machine := by
  cases instruction with
  | awaitKey x =>
      have hpressed : Keypad.firstPressed? keys = none :=
        Option.isNone_iff_eq_none.mp hwaits
      simp only [execute, hpressed]
      rfl
  | _ => exact absurd hwaits Bool.false_ne_true

section Staying

variable (machine : Machine) (keys : KeyState) {instruction : Instruction}

theorem result_execute (hstays : ¬ instruction.Redirects) :
    (machine.execute keys instruction).result =
      .ok (if waits keys instruction then .reissue else .next) := by
  cases instruction with
  | returnFromCall | jump | call | jumpWithOffset => exact absurd trivial hstays
  | awaitKey x =>
      cases hpressed : Keypad.firstPressed? keys <;>
        simp only [execute, waits, hpressed] <;> rfl
  | _ => rfl

theorem counter_execute (hstays : ¬ instruction.Redirects) :
    (machine.execute keys instruction).machine.counter =
      if machine.skips keys instruction then machine.counter + 2 else machine.counter := by
  cases instruction with
  | returnFromCall | jump | call | jumpWithOffset => exact absurd trivial hstays
  | awaitKey x =>
      rw [machine_execute_awaitKey]
      rfl
  | skipEqualConstant | skipNotEqualConstant | skipEqual | skipNotEqual | skipHeld
  | skipNotHeld => exact congrArg Machine.counter (machine_skipIf machine _)
  | _ => rfl

theorem stack_execute (hstays : ¬ instruction.Redirects) :
    (machine.execute keys instruction).machine.stack = machine.stack := by
  cases instruction with
  | returnFromCall | jump | call | jumpWithOffset => exact absurd trivial hstays
  | awaitKey x => rw [machine_execute_awaitKey]
  | skipEqualConstant | skipNotEqualConstant | skipEqual | skipNotEqual | skipHeld
  | skipNotHeld => simp only [execute, machine_skipIf]
  | _ => rfl

theorem programLength_execute (hstays : ¬ instruction.Redirects) :
    (machine.execute keys instruction).machine.memory.programLength =
      machine.memory.programLength := by
  cases instruction with
  | returnFromCall | jump | call | jumpWithOffset => exact absurd trivial hstays
  | awaitKey x => rw [machine_execute_awaitKey]
  | skipEqualConstant | skipNotEqualConstant | skipEqual | skipNotEqual | skipHeld
  | skipNotHeld => simp only [execute, machine_skipIf]
  | storeDecimal | storeBlock => exact Memory.programLength_write _ _ _
  | _ => rfl

end Staying

/-- What a step with some result can do to the counter and to the calls in progress. -/
inductive Course (machine : Machine) (keys : KeyState) (after : Machine) :
    Except Fault Advance → Prop where
  | underflow (hinstruction : machine.instruction = .returnFromCall)
      (hdepth : machine.stack.depth = 0) (hafter : after = machine) :
      Course machine keys after (.error .stackUnderflow)
  | overflow (target : Address) (hinstruction : machine.instruction = .call target)
      (hdepth : machine.stack.depth = 16) (hafter : after = machine) :
      Course machine keys after (.error (.stackOverflow (machine.counter + 2)))
  | returned (target : Address) (stack : CallStack)
      (hinstruction : machine.instruction = .returnFromCall)
      (hpop : machine.stack.pop = .ok (target, stack))
      (hafter : after = { machine with stack, counter := target }) :
      Course machine keys after (.ok .redirected)
  | called (target : Address) (stack : CallStack)
      (hinstruction : machine.instruction = .call target)
      (hpush : machine.stack.push (machine.counter + 2) = .ok stack)
      (hafter : after = { machine with stack, counter := target }) :
      Course machine keys after (.ok .redirected)
  | jumped (target : Address)
      (hinstruction : machine.instruction = .jump target ∨
        ∃ base offset, machine.instruction = .jumpWithOffset base offset ∧
          target = (base + (machine.registers.get offset).toUInt16) &&& 0x0FFF)
      (hafter : after = { machine with counter := target }) :
      Course machine keys after (.ok .redirected)
  | waited (hwaits : waits keys machine.instruction) (hafter : after = machine) :
      Course machine keys after (.ok .reissue)
  | passed (hstays : ¬ machine.instruction.Redirects)
      (hstack : after.stack = machine.stack)
      (hprogram : after.memory.programLength = machine.memory.programLength)
      (hcounter : after.counter =
        machine.counter + if machine.skips keys machine.instruction then 4 else 2) :
      Course machine keys after (.ok .next)

theorem result_step (machine : Machine) (keys : KeyState) :
    (machine.step keys).result = (machine.execute keys machine.instruction).result := rfl

theorem machine_step_of_next {machine : Machine} {keys : KeyState}
    (hresult : (machine.step keys).result = .ok .next) :
    (machine.step keys).machine =
      (machine.execute keys machine.instruction).machine.advance := by
  rw [result_step] at hresult
  simp only [step, hresult]

theorem machine_step_of_ne_next {machine : Machine} {keys : KeyState}
    (hresult : (machine.step keys).result ≠ .ok .next) :
    (machine.step keys).machine = (machine.execute keys machine.instruction).machine := by
  rw [result_step] at hresult
  simp only [step]

private theorem step_of_execute {machine : Machine} (keys : KeyState)
    {instruction : Instruction} {outcome : Outcome Advance}
    (hinstruction : machine.instruction = instruction)
    (hexecute : machine.execute keys instruction = outcome)
    (hresult : outcome.result ≠ .ok .next) :
    (machine.step keys).result = outcome.result ∧
      (machine.step keys).machine = outcome.machine := by
  subst hinstruction hexecute
  exact ⟨rfl, machine_step_of_ne_next hresult⟩

private theorem course_of_redirects {machine : Machine} {keys : KeyState}
    (hredirects : machine.instruction.Redirects) :
    Course machine keys (machine.step keys).machine (machine.step keys).result := by
  cases hinstruction : machine.instruction with
  | returnFromCall =>
      cases hpop : machine.stack.pop with
      | error fault =>
          obtain ⟨hdepth, rfl⟩ := CallStack.pop_eq_error_iff.mp hpop
          obtain ⟨hresult, hafter⟩ := step_of_execute keys hinstruction
            (by rw [execute, hpop]) (by simp [Outcome.fault])
          exact hresult ▸ .underflow hinstruction hdepth hafter
      | ok popped =>
          obtain ⟨hresult, hafter⟩ := step_of_execute keys hinstruction
            (by rw [execute, hpop]) (by simp [Outcome.redirect])
          exact hresult ▸ .returned popped.1 popped.2 hinstruction hpop hafter
  | call target =>
      cases hpush : machine.stack.push (machine.counter + 2) with
      | error fault =>
          obtain ⟨hdepth, rfl⟩ := CallStack.push_eq_error_iff.mp hpush
          obtain ⟨hresult, hafter⟩ := step_of_execute keys hinstruction
            (by rw [execute, hpush]) (by simp [Outcome.fault])
          exact hresult ▸ .overflow target hinstruction hdepth hafter
      | ok stack =>
          obtain ⟨hresult, hafter⟩ := step_of_execute keys hinstruction
            (by rw [execute, hpush]) (by simp [Outcome.redirect])
          exact hresult ▸ .called target stack hinstruction hpush hafter
  | jump target =>
      obtain ⟨hresult, hafter⟩ := step_of_execute keys hinstruction rfl
        (by simp [execute, Outcome.redirect])
      exact hresult ▸ .jumped target (.inl hinstruction) hafter
  | jumpWithOffset base offset =>
      obtain ⟨hresult, hafter⟩ := step_of_execute keys hinstruction rfl
        (by simp [execute, Outcome.redirect])
      exact hresult ▸ .jumped _ (.inr ⟨base, offset, hinstruction, rfl⟩) hafter
  | _ =>
      rw [hinstruction] at hredirects
      exact hredirects.elim

private theorem course_of_stays {machine : Machine} {keys : KeyState}
    (hstays : ¬ machine.instruction.Redirects) :
    Course machine keys (machine.step keys).machine (machine.step keys).result := by
  have hresult := (machine.result_step keys).trans (result_execute machine keys hstays)
  by_cases hwaits : waits keys machine.instruction
  · rw [if_pos hwaits] at hresult
    have hafter := machine_step_of_ne_next (by rw [hresult]; simp)
    rw [hresult]
    exact .waited hwaits (hafter.trans (machine_execute_of_waits machine hwaits))
  · rw [if_neg hwaits] at hresult
    rw [machine_step_of_next hresult, hresult]
    refine .passed hstays ?_ ?_ ?_
    · exact stack_execute machine keys hstays
    · exact programLength_execute machine keys hstays
    · rw [advance, counter_execute machine keys hstays]
      split
      · exact UInt16.add_assoc _ _ _
      · rfl

theorem step_course {machine : Machine} {keys : KeyState} {result : Except Fault Advance}
    (hresult : (machine.step keys).result = result) :
    Course machine keys (machine.step keys).machine result := by
  subst hresult
  by_cases hredirects : machine.instruction.Redirects
  · exact course_of_redirects hredirects
  · exact course_of_stays hredirects

theorem entries_step_of_call {machine : Machine} {keys : KeyState}
    (hfamily : machine.fetch.family = 2) (hsucceeds : (machine.step keys).result.isOk) :
    (machine.step keys).machine.stack.entries =
      machine.stack.entries ++ [machine.counter + 2] := by
  have hcall : machine.instruction = .call machine.fetch.nnn :=
    Instruction.decode_eq_call_iff.mpr ⟨hfamily, rfl⟩
  generalize hresult : (machine.step keys).result = result at hsucceeds
  cases step_course hresult with
  | called target stack hinstruction hpush hafter =>
      rw [hafter]
      exact CallStack.entries_push hpush
  | underflow | overflow => cases hsucceeds
  | returned target stack hinstruction => cases hcall.symm.trans hinstruction
  | jumped target hinstruction =>
      rcases hinstruction with hinstruction | ⟨base, offset, hinstruction, _⟩ <;>
        cases hcall.symm.trans hinstruction
  | waited hwaits =>
      rw [hcall] at hwaits
      cases hwaits
  | passed hstays =>
      rw [hcall] at hstays
      exact absurd trivial hstays

end Machine

end Chip8
