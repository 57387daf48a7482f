import Chip8.Fault

namespace Chip8

structure CallStack where
  slots : Vector Address 16
  depth : Nat
  depth_le : depth ≤ 16 := by omega
  deriving DecidableEq

namespace CallStack

def empty : CallStack where
  slots := Vector.replicate 16 0
  depth := 0

/-- The live return addresses, innermost call last. -/
def entries (stack : CallStack) : List Address :=
  stack.slots.toList.take stack.depth

def push (stack : CallStack) (address : Address) : Except Fault CallStack :=
  if h : stack.depth < 16 then
    .ok { slots := stack.slots.set stack.depth address, depth := stack.depth + 1 }
  else
    .error (.stackOverflow address)

def pop (stack : CallStack) : Except Fault (Address × CallStack) :=
  match stack with
  | ⟨_, 0, _⟩ => .error .stackUnderflow
  | ⟨slots, depth + 1, _⟩ =>
      .ok (slots[depth], { slots := slots.set depth 0, depth := depth })

@[simp] theorem entries_empty : empty.entries = [] := rfl

@[simp] theorem length_entries (stack : CallStack) : stack.entries.length = stack.depth := by
  have := stack.depth_le
  simp [entries]
  omega

theorem depth_of_entries {longer shorter : CallStack} {address : Address}
    (hentries : longer.entries = shorter.entries ++ [address]) :
    longer.depth = shorter.depth + 1 := by
  rw [← length_entries, hentries, List.length_append, length_entries, List.length_singleton]

theorem push_eq_error_iff {stack : CallStack} {address : Address} {fault : Fault} :
    stack.push address = .error fault ↔ stack.depth = 16 ∧ fault = .stackOverflow address := by
  have := stack.depth_le
  by_cases hroom : stack.depth < 16
  · simp [push, hroom]
    omega
  · simp [push, hroom, eq_comm]
    omega

theorem entries_push {stack pushed : CallStack} {address : Address}
    (hpush : stack.push address = .ok pushed) :
    pushed.entries = stack.entries ++ [address] := by
  by_cases hroom : stack.depth < 16
  · have hlength : stack.depth < stack.slots.toList.length := by simpa using hroom
    simp only [push, hroom, dite_true, Except.ok.injEq] at hpush
    subst pushed
    simp only [entries, Vector.toList_set, List.take_add_one, List.take_set_of_le (Nat.le_refl _),
      List.getElem?_set_self hlength, Option.toList_some]
  · simp [push, hroom] at hpush

theorem pop_eq_error_iff {stack : CallStack} {fault : Fault} :
    stack.pop = .error fault ↔ stack.depth = 0 ∧ fault = .stackUnderflow := by
  rcases stack with ⟨slots, depth, hle⟩
  cases depth <;> simp [pop, eq_comm]

theorem entries_pop {stack popped : CallStack} {target : Address}
    (hpop : stack.pop = .ok (target, popped)) :
    stack.entries = popped.entries ++ [target] := by
  rcases stack with ⟨slots, depth, hle⟩
  cases depth with
  | zero => simp [pop] at hpop
  | succ depth =>
      simp only [pop, Except.ok.injEq, Prod.mk.injEq] at hpop
      obtain ⟨rfl, rfl⟩ := hpop
      have hlength : depth < slots.toList.length := by
        rw [Vector.length_toList]
        omega
      simp only [entries, Vector.toList_set, List.take_set_of_le (Nat.le_refl _),
        List.take_add_one, List.getElem?_eq_getElem hlength, Option.toList_some,
        Vector.getElem_toList]

end CallStack

end Chip8
