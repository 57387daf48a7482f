namespace Chip8

structure Registers where
  values : Vector UInt8 16
  deriving DecidableEq

namespace Registers

def initial : Registers where
  values := Vector.replicate 16 0

def select (register : UInt8) : Fin 16 :=
  ⟨register.toNat % 16, Nat.mod_lt _ (by decide)⟩

def flagRegister : UInt8 := 0xF

def get (registers : Registers) (register : UInt8) : UInt8 :=
  registers.values[select register]

def set (registers : Registers) (register value : UInt8) : Registers where
  values := registers.values.set (select register) value

def add (registers : Registers) (register value : UInt8) : Registers :=
  registers.set register (registers.get register + value)

def flag (registers : Registers) : UInt8 :=
  registers.get flagRegister

def setFlag (registers : Registers) (value : Bool) : Registers :=
  registers.set flagRegister (if value then 1 else 0)

/-- The values of `count` registers from V0 on, starting over after the last. -/
def block (registers : Registers) (count : Nat) : List UInt8 :=
  (List.range count).map fun register => registers.get (UInt8.ofNat register)

/-- Sets registers in order from the given one on, starting over after the last. -/
def fill (registers : Registers) (register : UInt8) : List UInt8 → Registers
  | [] => registers
  | value :: rest => (registers.set register value).fill (register + 1) rest

def toList (registers : Registers) : List UInt8 :=
  registers.values.toList

theorem get_set (registers : Registers) (register other value : UInt8) :
    (registers.set register value).get other =
      if select other = select register then value else registers.get other := by
  simp only [get, set, Fin.getElem_fin, Vector.getElem_set, Fin.ext_iff]
  split <;> split <;> simp_all

theorem get_set_self (registers : Registers) (register value : UInt8) :
    (registers.set register value).get register = value :=
  (registers.get_set register register value).trans (if_pos rfl)

@[simp] theorem set_set (registers : Registers) (register value other : UInt8) :
    (registers.set register value).set register other = registers.set register other := by
  simp [set]

theorem set_get (registers : Registers) (register : UInt8) :
    registers.set register (registers.get register) = registers := by
  simp [set, get]

@[simp] theorem flag_setFlag (registers : Registers) (value : Bool) :
    (registers.setFlag value).flag = if value then 1 else 0 :=
  registers.get_set_self flagRegister _

@[simp] theorem setFlag_setFlag (registers : Registers) (value other : Bool) :
    (registers.setFlag value).setFlag other = registers.setFlag other :=
  registers.set_set flagRegister _ _

theorem get_setFlag_of_ne (registers : Registers) (value : Bool) {register : UInt8}
    (hother : select register ≠ select flagRegister) :
    (registers.setFlag value).get register = registers.get register :=
  (registers.get_set flagRegister register _).trans (if_neg hother)

theorem select_eq_select_iff {first second : UInt8} (hfirst : first < 16) (hsecond : second < 16) :
    select first = select second ↔ first = second := by
  have hfirstNat : first.toNat < 16 := UInt8.lt_iff_toNat_lt.mp hfirst
  have hsecondNat : second.toNat < 16 := UInt8.lt_iff_toNat_lt.mp hsecond
  simp only [select, Fin.mk.injEq, Nat.mod_eq_of_lt hfirstNat, Nat.mod_eq_of_lt hsecondNat,
    UInt8.toNat_inj]

theorem select_ne_flagRegister {register : UInt8} (hregister : register < 16)
    (hother : register ≠ 0xF) : select register ≠ select flagRegister :=
  mt (select_eq_select_iff hregister (by decide)).mp hother

theorem select_ne_flagRegister_of_lt {register : UInt8} (hregister : register < 15) :
    select register ≠ select flagRegister :=
  select_ne_flagRegister (UInt8.lt_trans hregister (by decide)) (UInt8.ne_of_lt hregister)

@[simp] theorem fill_nil (registers : Registers) (register : UInt8) :
    registers.fill register [] = registers := rfl

@[simp] theorem fill_cons (registers : Registers) (register value : UInt8) (rest : List UInt8) :
    registers.fill register (value :: rest) =
      (registers.set register value).fill (register + 1) rest := rfl

@[simp] theorem length_block (registers : Registers) (count : Nat) :
    (registers.block count).length = count := by
  simp [block]

end Registers

end Chip8
