import Chip8.CallStack

namespace Chip8

namespace CallStack

inductive Operation where
  | push (address : Address)
  | pop
  deriving DecidableEq, Repr

/-- What an operation answers. Only one that removes an address answers with an address. -/
abbrev Reply := Except Fault (Option Address)

def apply (stack : CallStack) : Operation → Reply × CallStack
  | .push address =>
      match stack.push address with
      | .ok pushed => (.ok none, pushed)
      | .error fault => (.error fault, stack)
  | .pop =>
      match stack.pop with
      | .ok (address, popped) => (.ok (some address), popped)
      | .error fault => (.error fault, stack)

def applyList (entries : List Address) : Operation → Reply × List Address
  | .push address =>
      if entries.length = 16 then (.error (.stackOverflow address), entries)
      else (.ok none, entries ++ [address])
  | .pop =>
      match entries.getLast? with
      | some last => (.ok (some last), entries.dropLast)
      | none => (.error .stackUnderflow, entries)

/-- The replies to operations in order, and what the last one leaves. -/
def answers {State : Type} (apply : State → Operation → Reply × State) (state : State) :
    List Operation → List Reply × State
  | [] => ([], state)
  | operation :: rest =>
      let (reply, next) := apply state operation
      let (replies, last) := answers apply next rest
      (reply :: replies, last)

/-- The slots that hold no live address are zero. -/
def Cleared (stack : CallStack) : Prop :=
  ∀ slot : Fin 16, stack.depth ≤ slot.val → stack.slots.get slot = 0

structure Holds (stack : CallStack) (entries : List Address) : Prop where
  entries_eq : stack.entries = entries
  cleared : stack.Cleared

theorem cleared_empty : empty.Cleared := by
  intro slot _
  exact Vector.getElem_replicate slot.isLt

theorem Cleared.push {stack pushed : CallStack} {address : Address} (hcleared : stack.Cleared)
    (hpush : stack.push address = .ok pushed) : pushed.Cleared := by
  by_cases hroom : stack.depth < 16
  · simp only [CallStack.push, hroom, dite_true, Except.ok.injEq] at hpush
    subst pushed
    intro slot hslot
    change (stack.slots.set stack.depth address)[slot.val] = 0
    rw [Vector.getElem_set_ne hroom slot.isLt (Nat.ne_of_lt hslot)]
    exact hcleared slot (Nat.le_of_lt hslot)
  · simp [CallStack.push, hroom] at hpush

theorem Cleared.pop {stack popped : CallStack} {target : Address} (hcleared : stack.Cleared)
    (hpop : stack.pop = .ok (target, popped)) : popped.Cleared := by
  rcases stack with ⟨slots, depth, hle⟩
  cases depth with
  | zero => cases hpop
  | succ depth =>
      cases hpop
      intro slot hslot
      change (slots.set depth 0)[slot.val] = 0
      rw [Vector.getElem_set]
      split
      · rfl
      · rename_i hother
        exact hcleared slot (Nat.lt_of_le_of_ne hslot hother)

theorem getElem?_entries {stack : CallStack} {slot : Nat} (hlive : slot < stack.depth) :
    stack.entries[slot]? = stack.slots[slot]? := by
  rw [entries, List.getElem?_take_of_lt hlive, Vector.getElem?_toList]

theorem eq_of_entries_eq {first second : CallStack} (hfirst : first.Cleared)
    (hsecond : second.Cleared) (hentries : first.entries = second.entries) : first = second := by
  have hdepth : first.depth = second.depth := by
    rw [← length_entries, hentries, length_entries]
  have hslots : first.slots = second.slots := by
    apply Vector.ext
    intro slot hslot
    by_cases hlive : slot < first.depth
    · have hsame : first.slots[slot]? = second.slots[slot]? := by
        rw [← getElem?_entries hlive, hentries, getElem?_entries (hdepth ▸ hlive)]
      simpa [hslot] using hsame
    · have hdead := Nat.le_of_not_lt hlive
      exact (hfirst ⟨slot, hslot⟩ hdead).trans (hsecond ⟨slot, hslot⟩ (hdepth ▸ hdead)).symm
  cases first
  cases second
  cases hdepth
  cases hslots
  rfl

namespace Holds

variable {stack : CallStack} {entries : List Address}

theorem length_eq (hholds : stack.Holds entries) : entries.length = stack.depth := by
  rw [← hholds.entries_eq, length_entries]

theorem apply (hholds : stack.Holds entries) (operation : Operation) :
    (stack.apply operation).1 = (applyList entries operation).1 ∧
      (stack.apply operation).2.Holds (applyList entries operation).2 := by
  cases operation with
  | push address =>
      simp only [CallStack.apply, applyList, hholds.length_eq]
      cases hpush : stack.push address with
      | ok pushed =>
          have hroom : stack.depth ≠ 16 := by
            intro hfull
            rw [push_eq_error_iff.mpr ⟨hfull, rfl⟩] at hpush
            cases hpush
          rw [if_neg hroom]
          refine ⟨rfl, ?_, hholds.cleared.push hpush⟩
          rw [entries_push hpush, hholds.entries_eq]
      | error fault =>
          obtain ⟨hfull, rfl⟩ := push_eq_error_iff.mp hpush
          rw [if_pos hfull]
          exact ⟨rfl, hholds⟩
  | pop =>
      simp only [CallStack.apply, applyList]
      cases hpop : stack.pop with
      | ok answer =>
          obtain ⟨target, popped⟩ := answer
          have hentries : entries = popped.entries ++ [target] := by
            rw [← hholds.entries_eq, entries_pop hpop]
          rw [hentries, List.getLast?_concat, List.dropLast_concat]
          exact ⟨rfl, rfl, hholds.cleared.pop hpop⟩
      | error fault =>
          obtain ⟨hnone, rfl⟩ := pop_eq_error_iff.mp hpop
          obtain rfl : entries = [] := List.eq_nil_of_length_eq_zero (hholds.length_eq.trans hnone)
          exact ⟨rfl, hholds⟩

theorem answers (hholds : stack.Holds entries) (operations : List Operation) :
    (answers CallStack.apply stack operations).1 = (answers applyList entries operations).1 ∧
      (answers CallStack.apply stack operations).2.Holds
        (answers applyList entries operations).2 := by
  induction operations generalizing stack entries with
  | nil => exact ⟨rfl, hholds⟩
  | cons operation rest ih =>
      obtain ⟨hreply, hnext⟩ := hholds.apply operation
      obtain ⟨hreplies, hlast⟩ := ih hnext
      refine ⟨?_, hlast⟩
      simp only [CallStack.answers, hreply, hreplies]

end Holds

theorem holds_nil_empty : empty.Holds [] :=
  ⟨entries_empty, cleared_empty⟩

/-- Whatever is asked of an empty stack and of an empty list, they answer alike and stay equally
long; no dead slot keeps an address, so that the list determines the stack. -/
theorem stack_answers_as_bounded_list :
    (∀ operations : List Operation,
      let stack := (answers apply empty operations).2
      let entries := (answers applyList [] operations).2
      (answers apply empty operations).1 = (answers applyList [] operations).1 ∧
        stack.entries = entries ∧ stack.depth = entries.length ∧ entries.length ≤ 16 ∧
        ∀ slot : Fin 16, stack.depth ≤ slot.val → stack.slots.get slot = 0) ∧
      ∀ first second : List Operation,
        (answers applyList [] first).2 = (answers applyList [] second).2 →
        (answers apply empty first).2 = (answers apply empty second).2 := by
  constructor
  · intro operations stack entries
    obtain ⟨hreplies, hholds⟩ := holds_nil_empty.answers operations
    exact ⟨hreplies, hholds.entries_eq, hholds.length_eq.symm,
      hholds.length_eq ▸ stack.depth_le, hholds.cleared⟩
  · intro first second hlists
    have hfirst := (holds_nil_empty.answers first).2
    have hsecond := (holds_nil_empty.answers second).2
    apply eq_of_entries_eq hfirst.cleared hsecond.cleared
    rw [hfirst.entries_eq, hlists, hsecond.entries_eq]

/-- Seventeen calls, the last of them refused, and a return; and fifteen calls. -/
theorem stack_answers_as_bounded_list_beyond_limit :
    let first := List.replicate 17 (.push 0x202) ++ [.pop]
    let second := List.replicate 15 (.push 0x202)
    (answers applyList [] first).2 = (answers applyList [] second).2 ∧
      (answers apply empty first).2 = (answers apply empty second).2 := by
  intro first second
  have hlists : (answers applyList [] first).2 = (answers applyList [] second).2 := by decide
  exact ⟨hlists, stack_answers_as_bounded_list.2 first second hlists⟩

end CallStack

end Chip8
