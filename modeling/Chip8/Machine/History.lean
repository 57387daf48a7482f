import Chip8.Machine.Execute
import Mathlib.Data.List.Forall2

namespace Chip8

namespace Machine

inductive Operation where
  | load (program : List UInt8)
  | step (keys : KeyState)
  | tick

namespace Operation

def isLoad : Operation → Bool
  | .load _ => true
  | _ => false

def isTick : Operation → Bool
  | .tick => true
  | _ => false

end Operation

abbrev StepResult := Except Fault Advance

def apply (machine : Machine) : Operation → Machine
  | .load program => (machine.load program).machine
  | .step keys => (machine.step keys).machine
  | .tick => machine.tick

def stepResult? (machine : Machine) : Operation → Option StepResult
  | .step keys => some (machine.step keys).result
  | _ => none

def run (machine : Machine) : List Operation → Machine
  | [] => machine
  | operation :: rest => (machine.apply operation).run rest

def results (machine : Machine) : List Operation → List StepResult
  | [] => []
  | operation :: rest =>
      (machine.stepResult? operation).toList ++ (machine.apply operation).results rest

/-- Every operation of a run with the machine it was applied to, in order. -/
def history (machine : Machine) : List Operation → List (Machine × Operation)
  | [] => []
  | operation :: rest => (machine, operation) :: (machine.apply operation).history rest

/-- Every state of a run, the first and the last included. -/
def states (machine : Machine) : List Operation → List Machine
  | [] => [machine]
  | operation :: rest => machine :: (machine.apply operation).states rest

@[simp] theorem run_nil (machine : Machine) : machine.run [] = machine := rfl

@[simp] theorem run_cons (machine : Machine) (operation : Operation) (rest : List Operation) :
    machine.run (operation :: rest) = (machine.apply operation).run rest := rfl

theorem run_append (machine : Machine) (first second : List Operation) :
    machine.run (first ++ second) = (machine.run first).run second := by
  induction first generalizing machine with
  | nil => rfl
  | cons operation rest ih => exact ih (machine.apply operation)

theorem run_append_singleton (machine : Machine) (before : List Operation) (last : Operation) :
    machine.run (before ++ [last]) = (machine.run before).apply last := by
  rw [run_append, run_cons, run_nil]

theorem history_append (machine : Machine) (first second : List Operation) :
    machine.history (first ++ second) =
      machine.history first ++ (machine.run first).history second := by
  induction first generalizing machine with
  | nil => rfl
  | cons operation rest ih => exact congrArg _ (ih (machine.apply operation))

theorem filterMap_history_append_singleton {α : Type} (select : Machine × Operation → Option α)
    (machine : Machine) (before : List Operation) (last : Operation) :
    (machine.history (before ++ [last])).filterMap select =
      (machine.history before).filterMap select ++ (select (machine.run before, last)).toList := by
  rw [history_append, List.filterMap_append]
  cases hselect : select (machine.run before, last) <;> simp [history, hselect]

theorem first_mem_states (machine : Machine) (operations : List Operation) :
    machine ∈ machine.states operations := by
  cases operations with
  | nil => exact List.mem_singleton_self machine
  | cons operation rest => exact List.mem_cons_self

/-- What the first state has and each operation keeps, all states have. The states may be known to
have another property, which the operations then may rely on. -/
theorem forall_states {Kept Known : Machine → Prop} {machine : Machine}
    {operations : List Operation} (hfirst : Kept machine)
    (hknown : ∀ state ∈ machine.states operations, Known state)
    (hkeeps : ∀ (state : Machine) (operation : Operation), Known state →
      Known (state.apply operation) → Kept state → Kept (state.apply operation)) :
    ∀ state ∈ machine.states operations, Kept state := by
  induction operations generalizing machine with
  | nil =>
      intro state hstate
      rwa [List.mem_singleton.mp hstate]
  | cons operation rest ih =>
      have hrest : ∀ state ∈ (machine.apply operation).states rest, Known state :=
        fun state hstate => hknown state (List.mem_cons_of_mem _ hstate)
      have hnext : Kept (machine.apply operation) :=
        hkeeps machine operation (hknown machine List.mem_cons_self)
          (hrest _ ((machine.apply operation).first_mem_states rest)) hfirst
      intro state hstate
      rcases List.mem_cons.mp hstate with rfl | hstate
      · exact hfirst
      · exact ih hnext hrest state hstate

theorem run_mem_states (machine : Machine) (operations : List Operation) :
    machine.run operations ∈ machine.states operations := by
  induction operations generalizing machine with
  | nil => exact List.mem_singleton_self machine
  | cons operation rest ih => exact List.mem_cons_of_mem _ (ih (machine.apply operation))

/-- Steps that answer alike and leave the machine as it was, with ticks in between. The machine may
be known to have a property that the ticks keep. -/
theorem run_of_unmoved (Known : Machine → Prop) {answer : StepResult} {machine : Machine}
    (hknown : Known machine) (htick : ∀ {state : Machine}, Known state → Known state.tick)
    {operations : List Operation}
    (hload : ∀ operation ∈ operations, ¬ operation.isLoad)
    (hstep : ∀ {state : Machine}, Known state → ∀ keys, .step keys ∈ operations →
      (state.step keys).result = answer ∧ (state.step keys).machine = state) :
    (∀ result ∈ machine.results operations, result = answer) ∧
      (∀ state ∈ machine.states operations, ∃ count, state = machine.ticks count) ∧
      machine.run operations = machine.ticks (operations.countP Operation.isTick) := by
  induction operations generalizing machine with
  | nil =>
      refine ⟨nofun, fun state hstate => ⟨0, ?_⟩, machine.ticks_zero.symm⟩
      rw [List.mem_singleton.mp hstate, ticks_zero]
  | cons operation rest ih =>
      have hloadRest := (List.forall_mem_cons.mp hload).2
      have hstepRest : ∀ {state : Machine}, Known state → ∀ keys, .step keys ∈ rest →
          (state.step keys).result = answer ∧ (state.step keys).machine = state :=
        fun hstate keys hmem => hstep hstate keys (List.mem_cons_of_mem _ hmem)
      cases operation with
      | load program => exact absurd rfl (hload _ List.mem_cons_self)
      | tick =>
          obtain ⟨hresults, hstates, hrun⟩ := ih (htick hknown) hloadRest hstepRest
          refine ⟨hresults, ?_, ?_⟩
          · rintro state (_ | ⟨_, hstate⟩)
            · exact ⟨0, machine.ticks_zero.symm⟩
            · obtain ⟨count, rfl⟩ := hstates state hstate
              exact ⟨count + 1, (machine.ticks_succ count).symm⟩
          · rw [List.countP_cons_of_pos rfl, ticks_succ]
            exact hrun
      | step keys =>
          obtain ⟨hresult, hmachine⟩ := hstep hknown keys List.mem_cons_self
          have happly : machine.apply (.step keys) = machine := hmachine
          obtain ⟨hresults, hstates, hrun⟩ := ih hknown hloadRest hstepRest
          refine ⟨?_, ?_, ?_⟩
          · rw [results, happly]
            exact List.forall_mem_cons.mpr ⟨hresult, hresults⟩
          · rw [states, happly]
            exact List.forall_mem_cons.mpr ⟨⟨0, machine.ticks_zero.symm⟩, hstates⟩
          · rw [List.countP_cons_of_neg (by simp [Operation.isTick]), run_cons, happly]
            exact hrun

def word? (machine : Machine) : Operation → Option Word
  | .step _ => some machine.fetch
  | _ => none

def words (machine : Machine) : List Operation → List Word
  | [] => []
  | operation :: rest => (machine.word? operation).toList ++ (machine.apply operation).words rest

/-- A relation of machines that the operations keep, and a relation of their answers. A step keeps
them only when the word that it executes is allowed. -/
structure Lockstep (Related : Machine → Machine → Prop)
    (Matched : StepResult → StepResult → Prop) (Allowed : Word → Prop) : Prop where
  step {first second : Machine} (hrelated : Related first second)
    (hword : Allowed first.fetch) (keys : KeyState) :
    Matched (first.step keys).result (second.step keys).result ∧
      Related (first.step keys).machine (second.step keys).machine
  tick {first second : Machine} (hrelated : Related first second) :
    Related first.tick second.tick
  load {first second : Machine} (hrelated : Related first second) (program : List UInt8) :
    Related (first.load program).machine (second.load program).machine

variable {Related : Machine → Machine → Prop} {Matched : StepResult → StepResult → Prop}
  {Allowed : Word → Prop}

theorem Lockstep.run (lockstep : Lockstep Related Matched Allowed) {first second : Machine}
    (hrelated : Related first second) {operations : List Operation}
    (hwords : ∀ word ∈ first.words operations, Allowed word) :
    List.Forall₂ Related (first.states operations) (second.states operations) ∧
      List.Forall₂ Matched (first.results operations) (second.results operations) := by
  induction operations generalizing first second with
  | nil => exact ⟨.cons hrelated .nil, .nil⟩
  | cons operation rest ih =>
      have hrest : ∀ word ∈ (first.apply operation).words rest, Allowed word :=
        fun word hmem => hwords word (List.mem_append_right _ hmem)
      cases operation with
      | load program =>
          obtain ⟨hstates, hresults⟩ := ih (lockstep.load hrelated program) hrest
          exact ⟨.cons hrelated hstates, hresults⟩
      | tick =>
          obtain ⟨hstates, hresults⟩ := ih (lockstep.tick hrelated) hrest
          exact ⟨.cons hrelated hstates, hresults⟩
      | step keys =>
          have hword : Allowed first.fetch := hwords _ List.mem_cons_self
          obtain ⟨hresult, hafter⟩ := lockstep.step hrelated hword keys
          obtain ⟨hstates, hresults⟩ := ih hafter hrest
          exact ⟨.cons hrelated hstates, .cons hresult hresults⟩

end Machine

end Chip8
