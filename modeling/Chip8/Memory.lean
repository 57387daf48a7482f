import Chip8.Fault

namespace Chip8

namespace Font

def glyphSize : Nat := 5

def glyphs : List UInt8 :=
  [0xF0, 0x90, 0x90, 0x90, 0xF0,
    0x20, 0x60, 0x20, 0x20, 0x70,
    0xF0, 0x10, 0xF0, 0x80, 0xF0,
    0xF0, 0x10, 0xF0, 0x10, 0xF0,
    0x90, 0x90, 0xF0, 0x10, 0x10,
    0xF0, 0x80, 0xF0, 0x10, 0xF0,
    0xF0, 0x80, 0xF0, 0x90, 0xF0,
    0xF0, 0x10, 0x20, 0x40, 0x40,
    0xF0, 0x90, 0xF0, 0x90, 0xF0,
    0xF0, 0x90, 0xF0, 0x10, 0xF0,
    0xF0, 0x90, 0xF0, 0x90, 0x90,
    0xE0, 0x90, 0xE0, 0x90, 0xE0,
    0xF0, 0x80, 0x80, 0x80, 0xF0,
    0xE0, 0x90, 0x90, 0x90, 0xE0,
    0xF0, 0x80, 0xF0, 0x80, 0xF0,
    0xF0, 0x80, 0xF0, 0x80, 0x80]

end Font

/-! Four kibibytes of memory. Addresses are folded into the twelve bits that the memory has, so
every access is in range. -/

structure Memory where
  bytes : Vector UInt8 4096
  /-- How many bytes the last accepted program had. -/
  programLength : Nat
  deriving DecidableEq

namespace Memory

def size : Nat := 4096

def fontStart : Address := 0x050

def programStart : Address := 0x200

def programLimit : Nat := size - programStart.toNat

def fold (address : Address) : Fin 4096 :=
  ⟨address.toNat % 4096, Nat.mod_lt _ (by decide)⟩

def get (memory : Memory) (address : Address) : UInt8 :=
  memory.bytes[fold address]

def byte (memory : Memory) (place : Fin 4096) : UInt8 :=
  memory.bytes[place]

def set (memory : Memory) (address : Address) (value : UInt8) : Memory :=
  { memory with bytes := memory.bytes.set (fold address) value }

/-- The two bytes at an address and its successor, high byte first. -/
def word (memory : Memory) (address : Address) : Word :=
  Word.ofBytes (memory.get address) (memory.get (address + 1))

def read (memory : Memory) (address : Address) (count : Nat) : List UInt8 :=
  (List.range count).map fun offset => memory.get (address + UInt16.ofNat offset)

def write (memory : Memory) (address : Address) : List UInt8 → Memory
  | [] => memory
  | value :: rest => (memory.set address value).write (address + 1) rest

def blank : Memory where
  bytes := Vector.replicate 4096 0
  programLength := 0

/-- The memory at power-on: zero but for the font. -/
def initial : Memory :=
  blank.write fontStart Font.glyphs

/-- Places a program, if it fits, and leaves what lies beyond it. -/
def load (memory : Memory) (program : List UInt8) : Except Fault Memory :=
  if program.length ≤ programLimit then
    .ok { memory.write programStart program with programLength := program.length }
  else
    .error (.romTooLarge program.length programLimit)

@[simp] theorem programLength_set (memory : Memory) (address : Address) (value : UInt8) :
    (memory.set address value).programLength = memory.programLength := rfl

@[simp] theorem write_nil (memory : Memory) (address : Address) :
    memory.write address [] = memory := rfl

@[simp] theorem write_cons (memory : Memory) (address : Address) (value : UInt8)
    (rest : List UInt8) :
    memory.write address (value :: rest) =
      (memory.set address value).write (address + 1) rest := rfl

@[simp] theorem programLength_write (memory : Memory) (address : Address)
    (values : List UInt8) :
    (memory.write address values).programLength = memory.programLength := by
  induction values generalizing memory address with
  | nil => rfl
  | cons value rest ih => simp [ih]

theorem get_eq_byte (memory : Memory) (address : Address) :
    memory.get address = memory.byte (fold address) := rfl

theorem fold_add (first second : Address) : fold (first + second) = fold first + fold second := by
  apply Fin.ext
  simp only [fold, UInt16.toNat_add, Fin.val_add]
  omega

theorem fold_add_ofNat (address : Address) (offset : Nat) :
    fold (address + UInt16.ofNat offset) = Fin.ofNat 4096 (address.toNat + offset) := by
  apply Fin.ext
  simp only [fold, UInt16.toNat_add, UInt16.toNat_ofNat', Fin.val_ofNat]
  omega

theorem read_eq (memory : Memory) (address : Address) (count : Nat) :
    memory.read address count =
      (List.range count).map fun offset =>
        memory.byte (Fin.ofNat 4096 (address.toNat + offset)) := by
  simp only [read, get_eq_byte, fold_add_ofNat]

theorem byte_set (memory : Memory) (address : Address) (value : UInt8) (place : Fin 4096) :
    (memory.set address value).byte place =
      if place = fold address then value else memory.byte place := by
  simp only [byte, set, Fin.getElem_fin, Vector.getElem_set, Fin.ext_iff, eq_comm]

/-- A place gets the written byte that is as far behind the first one as the place is behind the
address. -/
theorem byte_write (memory : Memory) (address : Address) {values : List UInt8}
    (hlength : values.length ≤ 4096) (place : Fin 4096) :
    (memory.write address values).byte place =
      values[(place - fold address).val]?.getD (memory.byte place) := by
  induction values generalizing memory address with
  | nil => rfl
  | cons value rest ih =>
      have hrest : rest.length < 4096 := hlength
      have hnext : fold (address + 1) = fold address + 1 := fold_add address 1
      rw [write_cons, ih _ _ (Nat.le_of_lt hrest), byte_set, hnext]
      by_cases hplace : place = fold address
      · -- The rest would have to be a whole memory long to come round to the first place again.
        subst hplace
        have hlast : (fold address - (fold address + 1)).val = 4095 := by
          simp only [Fin.val_sub, Fin.val_add]
          omega
        rw [hlast, if_pos rfl, List.getElem?_eq_none (by omega), Fin.sub_self]
        rfl
      · have hsuccessor : (place - fold address).val = (place - (fold address + 1)).val + 1 := by
          have hne : place.val ≠ (fold address).val := fun heq => hplace (Fin.ext heq)
          simp only [Fin.val_sub, Fin.val_add]
          omega
        rw [if_neg hplace, hsuccessor, List.getElem?_cons_succ]

@[simp] theorem length_read (memory : Memory) (address : Address) (count : Nat) :
    (memory.read address count).length = count := by
  simp [read]

end Memory

end Chip8
