import Chip8.Machine.History
import Chip8.Proofs.Machine.Course

namespace Chip8

inductive CallEvent where
  | called (site : Address)
  | returned
  deriving DecidableEq, Repr

namespace CallEvent

def isCall : CallEvent → Bool
  | .called _ => true
  | .returned => false

/-- How many of the returns answer a call from before the events. -/
def outerReturns : List CallEvent → Nat
  | [] => 0
  | .called _ :: rest => outerReturns rest - 1
  | .returned :: rest => outerReturns rest + 1

/-- The addresses of the calls that are still to return, in the order of the calls. A call has
returned when the events after it hold a return that answers none of the calls among them. -/
def openSites : List CallEvent → List Address
  | [] => []
  | .called site :: rest =>
      if outerReturns rest = 0 then site :: openSites rest else openSites rest
  | .returned :: rest => openSites rest

end CallEvent

namespace Machine

open CallEvent

/-- The call or return that an operation carries out; a step that faults carries out none. -/
def callEvent? (machine : Machine) : Operation → Option CallEvent
  | .step keys =>
      match (machine.step keys).result with
      | .error _ => none
      | .ok _ =>
          if machine.fetch.family = 2 then some (.called machine.counter)
          else if machine.fetch = 0x00EE then some .returned
          else none
  | _ => none

def callEvents (machine : Machine) : List Operation → List CallEvent
  | [] => []
  | operation :: rest =>
      (machine.callEvent? operation).toList ++ (machine.apply operation).callEvents rest

/-- A run from a call to the step that first brings the stack back to the depth before it. -/
structure CallSpan (machine : Machine) (keys : KeyState) (between : List Operation)
    (last : KeyState) : Prop where
  isCall : machine.fetch.family = 2
  succeeds : (machine.step keys).result.isOk
  deeper : ∀ state ∈ (machine.step keys).machine.states between,
    state.stack.depth ≠ machine.stack.depth
  closes : (((machine.step keys).machine.run between).step last).machine.stack.depth =
    machine.stack.depth

inductive StackChange (machine : Machine) (operation : Operation) : Prop where
  | pushed (hevent : machine.callEvent? operation = some (.called machine.counter))
      (hentries : (machine.apply operation).stack.entries =
        machine.stack.entries ++ [machine.counter + 2])
  | popped (hevent : machine.callEvent? operation = some .returned)
      (hentries : machine.stack.entries =
        (machine.apply operation).stack.entries ++ [(machine.apply operation).counter])
  | kept (hevent : machine.callEvent? operation = none)
      (hstack : (machine.apply operation).stack = machine.stack)

private theorem callEvent?_of_other {machine : Machine} {keys : KeyState}
    (hcall : ∀ target, machine.instruction ≠ .call target)
    (hreturn : machine.instruction ≠ .returnFromCall) :
    machine.callEvent? (.step keys) = none := by
  have hfamily : machine.fetch.family ≠ 2 := fun hfamily =>
    hcall _ (Instruction.decode_eq_call_iff.mpr ⟨hfamily, rfl⟩)
  have hword : machine.fetch ≠ 0x00EE := fun hword =>
    hreturn (Instruction.decode_eq_returnFromCall_iff.mpr hword)
  simp only [callEvent?, if_neg hfamily, if_neg hword]
  split <;> rfl

theorem stackChange (machine : Machine) (operation : Operation) :
    machine.StackChange operation := by
  cases operation with
  | tick => exact .kept rfl rfl
  | load program => exact .kept rfl (machine.kept_load program stack fun _ => rfl)
  | step keys =>
      generalize hresult : (machine.step keys).result = result
      cases step_course hresult with
      | underflow _ _ hafter | overflow _ _ _ hafter =>
          exact .kept (by simp only [callEvent?, hresult]) (congrArg stack hafter)
      | returned target stack hinstruction hpop hafter =>
          have hword : machine.fetch = 0x00EE :=
            Instruction.decode_eq_returnFromCall_iff.mp hinstruction
          refine .popped ?_ ?_
          · simp [callEvent?, hresult, hword, Word.family_eq]
          · simp only [apply, hafter]
            exact CallStack.entries_pop hpop
      | called target stack hinstruction hpush hafter =>
          have hfamily := (Instruction.decode_eq_call_iff.mp hinstruction).1
          refine .pushed ?_ ?_
          · simp only [callEvent?, hresult, if_pos hfamily]
          · simp only [apply, hafter]
            exact CallStack.entries_push hpush
      | jumped target hinstruction hafter =>
          have hstack : (machine.step keys).machine.stack = machine.stack := by rw [hafter]
          refine .kept (callEvent?_of_other ?_ ?_) hstack <;>
            rcases hinstruction with h | ⟨base, offset, h, _⟩ <;> simp [h]
      | waited hwaits hafter =>
          refine .kept (callEvent?_of_other ?_ ?_) (congrArg stack hafter)
          · intro target hinstruction
            simp [hinstruction, waits] at hwaits
          · intro hinstruction
            simp [hinstruction, waits] at hwaits
      | passed hstays hstack =>
          refine .kept (callEvent?_of_other ?_ ?_) hstack
          · intro target hinstruction
            exact hstays (hinstruction ▸ trivial)
          · intro hinstruction
            exact hstays (hinstruction ▸ trivial)

theorem entries_run (machine : Machine) (operations : List Operation) :
    (machine.run operations).stack.entries =
      machine.stack.entries.take
          (machine.stack.depth - outerReturns (machine.callEvents operations)) ++
        (openSites (machine.callEvents operations)).map (· + 2) := by
  induction operations generalizing machine with
  | nil => simp [callEvents, outerReturns, openSites, ← CallStack.length_entries]
  | cons operation rest ih =>
      rw [run_cons, ih, ← CallStack.length_entries, ← CallStack.length_entries, callEvents]
      generalize (machine.apply operation).callEvents rest = events
      cases machine.stackChange operation with
      | pushed hevent hentries =>
          simp only [hevent, hentries, Option.toList_some, List.singleton_append, outerReturns,
            openSites, List.length_append, List.length_singleton]
          by_cases houter : outerReturns events = 0
          · rw [if_pos houter, houter, Nat.sub_zero, Nat.zero_sub, Nat.sub_zero, List.take_length,
              List.take_of_length_le (by simp), List.map_cons, List.append_assoc,
              List.singleton_append]
          · have hlength : machine.stack.entries.length + 1 - outerReturns events ≤
                machine.stack.entries.length := by omega
            rw [List.take_append_of_le_length hlength, if_neg houter]
            congr 2
            omega
      | popped hevent hentries =>
          simp only [hevent, Option.toList_some, List.singleton_append, outerReturns, openSites]
          rw [hentries, List.length_append, List.length_singleton,
            Nat.add_sub_add_right, List.take_append_of_le_length (Nat.sub_le _ _)]
      | kept hevent hstack => simp only [hevent, hstack, Option.toList_none, List.nil_append]

theorem depth_run (machine : Machine) (operations : List Operation) :
    (machine.run operations).stack.depth + (machine.callEvents operations).count .returned =
      machine.stack.depth + (machine.callEvents operations).countP isCall := by
  induction operations generalizing machine with
  | nil => rfl
  | cons operation rest ih =>
      have hrest := ih (machine.apply operation)
      rw [run_cons, callEvents, List.count_append, List.countP_append]
      cases machine.stackChange operation with
      | pushed hevent hentries =>
          have hdepth := CallStack.depth_of_entries hentries
          rw [hevent]
          change _ + (0 + _) = _ + (1 + _)
          omega
      | popped hevent hentries =>
          have hdepth := CallStack.depth_of_entries hentries
          rw [hevent]
          change _ + (1 + _) = _ + (0 + _)
          omega
      | kept hevent hstack =>
          rw [hstack] at hrest
          simpa [hevent] using hrest

theorem lt_depth_of_states {depth : Nat} {machine : Machine} {operations : List Operation}
    (hfirst : depth < machine.stack.depth)
    (hne : ∀ state ∈ machine.states operations, state.stack.depth ≠ depth) :
    ∀ state ∈ machine.states operations, depth < state.stack.depth := by
  refine forall_states hfirst hne ?_
  intro state operation _ hafter hdeep
  cases state.stackChange operation with
  | pushed _ hentries | popped _ hentries =>
      have hdepth := CallStack.depth_of_entries hentries
      omega
  | kept _ hstack => rwa [hstack]

theorem take_entries_of_states {depth : Nat} {machine : Machine} {operations : List Operation}
    (hdeep : ∀ state ∈ machine.states operations, depth ≤ state.stack.depth) :
    ∀ state ∈ machine.states operations,
      state.stack.entries.take depth = machine.stack.entries.take depth := by
  refine forall_states rfl hdeep ?_
  intro state operation hbefore hafter hkept
  rw [← CallStack.length_entries] at hbefore hafter
  rw [← hkept]
  cases state.stackChange operation with
  | pushed _ hentries => rw [hentries, List.take_append_of_le_length hbefore]
  | popped _ hentries => rw [hentries, List.take_append_of_le_length hafter]
  | kept _ hstack => rw [hstack]

namespace CallSpan

variable {machine : Machine} {keys last : KeyState} {between : List Operation}

theorem entries_called (span : CallSpan machine keys between last) :
    (machine.step keys).machine.stack.entries =
      machine.stack.entries ++ [machine.counter + 2] :=
  entries_step_of_call span.isCall span.succeeds

theorem lt_depth (span : CallSpan machine keys between last) :
    ∀ state ∈ (machine.step keys).machine.states between,
      machine.stack.depth < state.stack.depth := by
  refine lt_depth_of_states ?_ span.deeper
  rw [CallStack.depth_of_entries span.entries_called]
  exact Nat.lt_succ_self _

theorem take_entries (span : CallSpan machine keys between last) {state : Machine}
    (hstate : state ∈ (machine.step keys).machine.states between) :
    state.stack.entries.take (machine.stack.depth + 1) =
      machine.stack.entries ++ [machine.counter + 2] := by
  rw [take_entries_of_states span.lt_depth state hstate, span.entries_called]
  exact List.take_of_length_le (by simp)

/-- The last step is the return that answers the call. -/
theorem closing_step (span : CallSpan machine keys between last) :
    let closing := (machine.step keys).machine.run between
    closing.callEvent? (.step last) = some .returned ∧
      (closing.step last).machine.stack.entries = machine.stack.entries ∧
      (closing.step last).machine.counter = machine.counter + 2 := by
  intro closing
  have hmem : closing ∈ (machine.step keys).machine.states between :=
    (machine.step keys).machine.run_mem_states between
  have hdeep : machine.stack.depth < closing.stack.depth := span.lt_depth closing hmem
  have hcloses : (closing.apply (.step last)).stack.depth = machine.stack.depth := span.closes
  cases closing.stackChange (.step last) with
  | pushed _ hentries =>
      have hdepth := CallStack.depth_of_entries hentries
      omega
  | kept _ hstack =>
      rw [hstack] at hcloses
      omega
  | popped hevent hentries =>
      have hdepth := CallStack.depth_of_entries hentries
      have hclosing := span.take_entries hmem
      rw [List.take_of_length_le (by rw [CallStack.length_entries]; omega), hentries] at hclosing
      obtain ⟨hrest, hcounter⟩ := List.append_inj' hclosing rfl
      exact ⟨hevent, hrest, List.singleton_inj.mp hcounter⟩

end CallSpan

theorem fetch_of_returned {machine : Machine} {keys : KeyState}
    (hevent : machine.callEvent? (.step keys) = some .returned) :
    machine.fetch = 0x00EE ∧ (machine.step keys).result.isOk := by
  cases hresult : (machine.step keys).result with
  | error fault => simp [callEvent?, hresult] at hevent
  | ok advance =>
      refine ⟨?_, rfl⟩
      simp only [callEvent?, hresult] at hevent
      split at hevent
      · cases hevent
      · split at hevent
        · assumption
        · cases hevent

/-- A return leads back behind the call that it answers and leaves the calls below as they were;
in a run from power-on, the stack holds the calls that are still to return. -/
theorem calls_and_returns_nest :
    (∀ (machine : Machine) (keys last : KeyState) (between : List Operation),
      CallSpan machine keys between last →
      let closing := (machine.step keys).machine.run between
      closing.fetch = 0x00EE ∧ (closing.step last).result.isOk ∧
        (closing.step last).machine.counter = machine.counter + 2 ∧
        (closing.step last).machine.stack.entries = machine.stack.entries ∧
        ∀ state ∈ (machine.step keys).machine.states between,
          state.stack.entries.take machine.stack.depth = machine.stack.entries) ∧
    ∀ (architecture : Architecture) (random : RandomSource) (operations : List Operation),
      let start := initial architecture random
      let events := start.callEvents operations
      (start.run operations).stack.entries = (openSites events).map (· + 2) ∧
        (start.run operations).stack.depth + events.count .returned = events.countP isCall ∧
        (start.run operations).stack.depth ≤ 16 := by
  constructor
  · intro machine keys last between span closing
    obtain ⟨hevent, hentries, hcounter⟩ := span.closing_step
    obtain ⟨hword, hok⟩ := fetch_of_returned hevent
    refine ⟨hword, hok, hcounter, hentries, ?_⟩
    intro state hstate
    have htake := congrArg (List.take machine.stack.depth) (span.take_entries hstate)
    rw [List.take_take, Nat.min_eq_left (Nat.le_succ _)] at htake
    rw [htake, ← CallStack.length_entries]
    exact List.take_left
  · intro architecture random operations start events
    have hempty : start.stack.entries = [] := rfl
    have hdepth := start.depth_run operations
    refine ⟨?_, ?_, (start.run operations).stack.depth_le⟩
    · rw [entries_run, hempty, List.take_nil, List.nil_append]
    · rwa [show start.stack.depth = 0 from rfl, Nat.zero_add] at hdepth

/-- A subroutine at 4 that calls another one at 8, with a tick on the way. -/
theorem calls_and_returns_nest_subroutine :
    let program : Memory :=
      Memory.blank.write 0 [0x20, 0x04, 0x00, 0x00, 0x20, 0x08, 0x00, 0xEE, 0x00, 0xEE]
    let machine : Machine := { withSeed .chip 0 with memory := program, counter := 0 }
    let between := [.tick, .step .idle, .step .idle]
    CallSpan machine .idle between .idle ∧
      (((machine.step .idle).machine.run between).step .idle).machine.counter = 2 := by
  intro program machine between
  have span : CallSpan machine .idle between .idle := by
    constructor <;> decide
  exact ⟨span, (calls_and_returns_nest.1 machine .idle .idle between span).2.2.1⟩

end Machine

end Chip8
