import Chip8.CallStack
import Chip8.FrameBuffer
import Chip8.Instruction.Decode
import Chip8.Memory
import Chip8.Registers
import Mathlib.Tactic.IntervalCases

namespace Chip8

/-! Arithmetic and access that are refused where they leave their range: a result that its type does
not have, a difference below zero, a shift by a whole word or more, a place outside an array. -/

namespace Guarded

/-- A result within a type of so many numbers. -/
def fit? (size value : Nat) : Option Nat :=
  if value < size then some value else none

def sub? (first second : Nat) : Option Nat :=
  if second ≤ first then some (first - second) else none

/-- Shifts within words of so many bits; what is shifted out is lost. -/
def shiftLeft? (bits value amount : Nat) : Option Nat :=
  if amount < bits then some (value <<< amount % Nat.pow 2 bits) else none

def shiftRight? (bits value amount : Nat) : Option Nat :=
  if amount < bits then some (value >>> amount) else none

def shiftByteLeft? (value : UInt8) (amount : Nat) : Option UInt8 := do
  let shifted ← shiftLeft? 8 value.toNat amount
  some (UInt8.ofNat shifted)

def shiftByteRight? (value : UInt8) (amount : Nat) : Option UInt8 := do
  let shifted ← shiftRight? 8 value.toNat amount
  some (UInt8.ofNat shifted)

def set? {α : Type} {size : Nat} (values : Vector α size) (index : Nat) (value : α) :
    Option (Vector α size) :=
  if h : index < size then some (values.set index value h) else none

section

variable {size first second bits value amount : Nat}

theorem fit?_of_lt (hfits : value < size) : fit? size value = some value :=
  if_pos hfits

theorem sub?_of_le (hle : second ≤ first) : sub? first second = some (first - second) :=
  if_pos hle

theorem shiftLeft?_of_lt (hamount : amount < bits) :
    shiftLeft? bits value amount = some (value <<< amount % Nat.pow 2 bits) :=
  if_pos hamount

theorem shiftRight?_of_lt (hamount : amount < bits) :
    shiftRight? bits value amount = some (value >>> amount) :=
  if_pos hamount

theorem toNat_amount (hamount : amount < 8) : (UInt8.ofNat amount).toNat % 8 = amount := by
  rw [UInt8.toNat_ofNat_of_lt' (Nat.lt_trans hamount (by decide)), Nat.mod_eq_of_lt hamount]

theorem shiftByteLeft?_eq (value : UInt8) (hamount : amount < 8) :
    shiftByteLeft? value amount = some (value <<< UInt8.ofNat amount) := by
  have hshift : UInt8.ofNat (value.toNat <<< amount % Nat.pow 2 8) =
      value <<< UInt8.ofNat amount := by
    have hbyte : value.toNat <<< amount % Nat.pow 2 8 < 256 := Nat.mod_lt _ (by decide)
    rw [← UInt8.toNat_inj, UInt8.toNat_shiftLeft, UInt8.toNat_ofNat_of_lt' hbyte,
      toNat_amount hamount]
  rw [shiftByteLeft?, shiftLeft?_of_lt hamount, ← hshift]
  rfl

theorem shiftByteRight?_eq (value : UInt8) (hamount : amount < 8) :
    shiftByteRight? value amount = some (value >>> UInt8.ofNat amount) := by
  have hshift : UInt8.ofNat (value.toNat >>> amount) = value >>> UInt8.ofNat amount := by
    have hbyte : value.toNat >>> amount < 256 :=
      Nat.lt_of_le_of_lt (Nat.shiftRight_le _ _) value.toNat_lt
    rw [← UInt8.toNat_inj, UInt8.toNat_shiftRight, UInt8.toNat_ofNat_of_lt' hbyte,
      toNat_amount hamount]
  rw [shiftByteRight?, shiftRight?_of_lt hamount, ← hshift]
  rfl

theorem set?_of_lt {α : Type} {values : Vector α size} {index : Nat} (hindex : index < size)
    (value : α) : set? values index value = some (values.set index value hindex) :=
  dif_pos hindex

end

end Guarded

open Guarded

/-- The `count` digits from digit `first` on. Amounts are bytes, and the mask is made within
thirty-two bits. -/
def Word.digits? (word : Word) (first count : Nat) : Option Nat := do
  let behind ← sub? 4 count
  let before ← sub? first 1
  let places ← sub? behind before
  let amount ← fit? UInt8.size (places * 4)
  let width ← fit? UInt8.size (count * 4)
  let power ← shiftLeft? 32 1 width
  let mask ← sub? power 1
  let shifted ← shiftRight? 16 word.toNat amount
  some (shifted &&& mask % UInt16.size)

theorem Word.digits_eq_and (word : Word) (first count : Nat) :
    word.digits first count =
      word.toNat >>> ((5 - first - count) * 4) &&& Nat.pow 2 (count * 4) - 1 := by
  have hsixteen (exponent : Nat) : 2 ^ (exponent * 4) = 16 ^ exponent := by
    rw [Nat.mul_comm, Nat.pow_mul]
  rw [digits, Nat.pow_eq, Nat.pow_eq, Nat.pow_eq, Nat.and_two_pow_sub_one_eq_mod,
    Nat.shiftRight_eq_div_pow, hsixteen, hsixteen]

theorem Word.digits?_eq (word : Word) {first count : Nat} (hfirst : 1 ≤ first) (hcount : 1 ≤ count)
    (hlast : first + count ≤ 5) : word.digits? first count = some (word.digits first count) := by
  have hplaces : 4 - count - (first - 1) = 5 - first - count := by omega
  have hamount : (5 - first - count) * 4 < 16 := by omega
  have hwidth : count * 4 ≤ 16 := by omega
  have hpositive : 1 ≤ Nat.pow 2 (count * 4) := Nat.two_pow_pos _
  have hsmall : Nat.pow 2 (count * 4) ≤ 65536 := Nat.pow_le_pow_right (by decide) hwidth
  have hpower : 1 <<< (count * 4) % Nat.pow 2 32 = Nat.pow 2 (count * 4) := by
    rw [Nat.one_shiftLeft]
    exact Nat.mod_eq_of_lt (Nat.lt_of_le_of_lt hsmall (by decide))
  have hmask : (Nat.pow 2 (count * 4) - 1) % UInt16.size = Nat.pow 2 (count * 4) - 1 :=
    Nat.mod_eq_of_lt (Nat.lt_of_lt_of_le (Nat.sub_lt hpositive Nat.one_pos) hsmall)
  have hamountByte : (5 - first - count) * 4 < UInt8.size := Nat.lt_trans hamount (by decide)
  have hwidthByte : count * 4 < UInt8.size := Nat.lt_of_le_of_lt hwidth (by decide)
  simp only [digits?, sub?_of_le (show count ≤ 4 by omega), sub?_of_le hfirst,
    sub?_of_le (show first - 1 ≤ 4 - count by omega), hplaces, fit?_of_lt hamountByte,
    fit?_of_lt hwidthByte, shiftLeft?_of_lt (show count * 4 < 32 by omega), hpower,
    sub?_of_le hpositive, shiftRight?_of_lt hamount, hmask, digits_eq_and, Option.bind_eq_bind,
    Option.bind_some]

namespace Instruction

def decode? (architecture : Architecture) (word : Word) : Option Instruction := do
  let x := UInt8.ofNat (← word.digits? 2 1)
  let y := UInt8.ofNat (← word.digits? 3 1)
  let nn := UInt8.ofNat (← word.digits? 3 2)
  let nnn := UInt16.ofNat (← word.digits? 2 3)
  match ← word.digits? 1 1 with
  | 0x0 => some (decodeSystem word)
  | 0x1 => some (.jump nnn)
  | 0x2 => some (.call nnn)
  | 0x3 => some (.skipEqualConstant x nn)
  | 0x4 => some (.skipNotEqualConstant x nn)
  | 0x5 =>
      let n := UInt8.ofNat (← word.digits? 4 1)
      some (if n = 0 then .skipEqual x y else .unknown word)
  | 0x6 => some (.setConstant x nn)
  | 0x7 => some (.addConstant x nn)
  | 0x8 =>
      let source := match architecture with
        | .chip => x
        | .cosmac => y
      let n := UInt8.ofNat (← word.digits? 4 1)
      some <| match n.toNat with
        | 0x0 => .copy x y
        | 0x1 => .or x y
        | 0x2 => .and x y
        | 0x3 => .xor x y
        | 0x4 => .add x y
        | 0x5 => .subtract x y
        | 0x6 => .shiftRight x source
        | 0x7 => .subtractFrom x y
        | 0xE => .shiftLeft x source
        | _ => .unknown word
  | 0x9 =>
      let n := UInt8.ofNat (← word.digits? 4 1)
      some (if n = 0 then .skipNotEqual x y else .unknown word)
  | 0xA => some (.setIndex nnn)
  | 0xB =>
      some <| .jumpWithOffset nnn <| match architecture with
        | .chip => x
        | .cosmac => 0
  | 0xC => some (.random x nn)
  | 0xD =>
      let n := UInt8.ofNat (← word.digits? 4 1)
      some (.draw x y n)
  | 0xE =>
      some <| match nn.toNat with
        | 0x9E => .skipHeld x
        | 0xA1 => .skipNotHeld x
        | _ => .unknown word
  | 0xF =>
      some <| match nn.toNat with
        | 0x07 => .readDelay x
        | 0x0A => .awaitKey x
        | 0x15 => .setDelay x
        | 0x18 => .setSound x
        | 0x1E => .addIndex x
        | 0x29 => .pointGlyph x
        | 0x33 => .storeDecimal x
        | 0x55 => .storeBlock x (advancesIndex architecture)
        | 0x65 => .loadBlock x (advancesIndex architecture)
        | _ => .unknown word
  | _ => some (.unknown word)

theorem decode?_eq (architecture : Architecture) (word : Word) :
    decode? architecture word = some (decode architecture word) := by
  have hfamily : word.digits? 1 1 = some word.family :=
    word.digits?_eq (by decide) (by decide) (by decide)
  have hx : word.digits? 2 1 = some (word.digits 2 1) :=
    word.digits?_eq (by decide) (by decide) (by decide)
  have hy : word.digits? 3 1 = some (word.digits 3 1) :=
    word.digits?_eq (by decide) (by decide) (by decide)
  have hn : word.digits? 4 1 = some (word.digits 4 1) :=
    word.digits?_eq (by decide) (by decide) (by decide)
  have hnn : word.digits? 3 2 = some (word.digits 3 2) :=
    word.digits?_eq (by decide) (by decide) (by decide)
  have hnnn : word.digits? 2 3 = some (word.digits 2 3) :=
    word.digits?_eq (by decide) (by decide) (by decide)
  simp only [decode?, hfamily, hx, hy, hn, hnn, hnnn, Option.bind_eq_bind, Option.bind_some]
  have hdigit : word.family < 16 := word.digits_lt 1 1
  unfold decode
  generalize word.family = family at hdigit ⊢
  interval_cases family <;> rfl

end Instruction

open Guarded

namespace Memory

def get? (memory : Memory) (address : Address) : Option UInt8 :=
  memory.bytes[(address &&& 0x0FFF).toNat]?

def set? (memory : Memory) (address : Address) (value : UInt8) : Option Memory := do
  let bytes ← Guarded.set? memory.bytes (address &&& 0x0FFF).toNat value
  some { memory with bytes }

def word? (memory : Memory) (address : Address) : Option Word := do
  let high ← memory.get? address
  let low ← memory.get? (address + 1)
  let shifted ← shiftLeft? 16 high.toNat 8
  some (UInt16.ofNat (shifted ||| low.toNat))

def read? (memory : Memory) (address : Address) (count : Nat) : Option (List UInt8) :=
  (List.range count).mapM fun offset => memory.get? (address + UInt16.ofNat offset)

def write? (memory : Memory) (address : Address) : List UInt8 → Option Memory
  | [] => some memory
  | value :: rest => do
      let next ← memory.set? address value
      next.write? (address + 1) rest

theorem toNat_mask (address : Address) : (address &&& 0x0FFF).toNat = (fold address).val := by
  rw [UInt16.toNat_and]
  exact Nat.and_two_pow_sub_one_eq_mod address.toNat 12

@[simp] theorem get?_eq (memory : Memory) (address : Address) :
    memory.get? address = some (memory.get address) := by
  rw [get?, toNat_mask]
  exact Vector.getElem?_eq_getElem (fold address).isLt

@[simp] theorem set?_eq (memory : Memory) (address : Address) (value : UInt8) :
    memory.set? address value = some (memory.set address value) := by
  rw [set?, toNat_mask, set?_of_lt (fold address).isLt]
  rfl

@[simp] theorem word?_eq (memory : Memory) (address : Address) :
    memory.word? address = some (memory.word address) := by
  have hlow : (memory.get (address + 1)).toNat < 2 ^ 8 := UInt8.toNat_lt _
  have hkept : (memory.get address).toNat <<< 8 % Nat.pow 2 16 =
      (memory.get address).toNat <<< 8 := by
    have hhigh := (memory.get address).toNat_lt
    rw [Nat.shiftLeft_eq, Nat.mod_eq_of_lt]
    show _ < 65536
    omega
  simp only [word?, get?_eq, Option.bind_eq_bind, Option.bind_some,
    shiftLeft?_of_lt (show 8 < 16 by decide), hkept, ← Nat.shiftLeft_add_eq_or_of_lt hlow]
  rw [Nat.shiftLeft_eq, Nat.mul_comm]
  rfl

@[simp] theorem read?_eq (memory : Memory) (address : Address) (count : Nat) :
    memory.read? address count = some (memory.read address count) := by
  simp only [read?, get?_eq]
  exact List.mapM_pure

@[simp] theorem write?_eq (memory : Memory) (address : Address) (values : List UInt8) :
    memory.write? address values = some (memory.write address values) := by
  induction values generalizing memory address with
  | nil => rfl
  | cons value rest ih => simp [write?, ih]

end Memory

namespace Registers

def get? (registers : Registers) (register : UInt8) : Option UInt8 :=
  registers.values[(register &&& 0xF).toNat]?

def set? (registers : Registers) (register value : UInt8) : Option Registers := do
  let values ← Guarded.set? registers.values (register &&& 0xF).toNat value
  some { values }

def add? (registers : Registers) (register value : UInt8) : Option Registers := do
  let old ← registers.get? register
  registers.set? register (old + value)

def setFlag? (registers : Registers) (value : Bool) : Option Registers := do
  let values ← Guarded.set? registers.values flagRegister.toNat (if value then 1 else 0)
  some { values }

def block? (registers : Registers) (count : Nat) : Option (List UInt8) :=
  (List.range count).mapM fun register => registers.get? (UInt8.ofNat register)

def fill? (registers : Registers) (register : UInt8) : List UInt8 → Option Registers
  | [] => some registers
  | value :: rest => do
      let next ← registers.set? register value
      next.fill? (register + 1) rest

theorem toNat_mask (register : UInt8) : (register &&& 0xF).toNat = (select register).val := by
  rw [UInt8.toNat_and]
  exact Nat.and_two_pow_sub_one_eq_mod register.toNat 4

@[simp] theorem get?_eq (registers : Registers) (register : UInt8) :
    registers.get? register = some (registers.get register) := by
  rw [get?, toNat_mask]
  exact Vector.getElem?_eq_getElem (select register).isLt

@[simp] theorem set?_eq (registers : Registers) (register value : UInt8) :
    registers.set? register value = some (registers.set register value) := by
  rw [set?, toNat_mask, set?_of_lt (select register).isLt]
  rfl

@[simp] theorem add?_eq (registers : Registers) (register value : UInt8) :
    registers.add? register value = some (registers.add register value) := by
  simp [add?, add]

@[simp] theorem setFlag?_eq (registers : Registers) (value : Bool) :
    registers.setFlag? value = some (registers.setFlag value) := by
  rw [setFlag?, set?_of_lt (by decide)]
  rfl

@[simp] theorem block?_eq (registers : Registers) (count : Nat) :
    registers.block? count = some (registers.block count) := by
  simp only [block?, get?_eq]
  exact List.mapM_pure

@[simp] theorem fill?_eq (registers : Registers) (register : UInt8) (values : List UInt8) :
    registers.fill? register values = some (registers.fill register values) := by
  induction values generalizing registers register with
  | nil => rfl
  | cons value rest ih => simp [fill?, ih]

end Registers

/-- A call stack whose depth may be any number. -/
structure LooseStack where
  slots : Vector Address 16
  depth : Nat

namespace LooseStack

def push? (stack : LooseStack) (address : Address) : Option (Except Fault LooseStack) :=
  if stack.depth = 16 then
    some (.error (.stackOverflow address))
  else do
    let slots ← Guarded.set? stack.slots stack.depth address
    let depth ← fit? USize.size (stack.depth + 1)
    some (.ok { slots, depth })

def pop? (stack : LooseStack) : Option (Except Fault (Address × LooseStack)) :=
  if stack.depth = 0 then
    some (.error .stackUnderflow)
  else do
    let depth ← sub? stack.depth 1
    let address ← stack.slots[depth]?
    let slots ← Guarded.set? stack.slots depth 0
    some (.ok (address, { slots, depth }))

end LooseStack

namespace CallStack

def loose (stack : CallStack) : LooseStack where
  slots := stack.slots
  depth := stack.depth

theorem push?_loose (stack : CallStack) (address : Address) :
    stack.loose.push? address = some ((stack.push address).map loose) := by
  by_cases hroom : stack.depth < 16
  · have hfits : stack.depth + 1 < USize.size := by
      have := USize.le_size
      omega
    simp only [LooseStack.push?, push, loose, if_neg (Nat.ne_of_lt hroom), dif_pos hroom,
      set?_of_lt hroom, fit?_of_lt hfits, Option.bind_eq_bind, Option.bind_some]
    rfl
  · have hfull : stack.depth = 16 := Nat.le_antisymm stack.depth_le (Nat.le_of_not_lt hroom)
    rw [LooseStack.push?, if_pos (show stack.loose.depth = 16 from hfull), push, dif_neg hroom]
    rfl

theorem pop?_loose (stack : CallStack) :
    stack.loose.pop? = some (stack.pop.map fun (address, popped) => (address, popped.loose)) := by
  rcases stack with ⟨slots, depth, hle⟩
  cases depth with
  | zero => rfl
  | succ depth =>
      have hlive : slots[depth]? = some slots[depth] := Vector.getElem?_eq_getElem hle
      simp only [LooseStack.pop?, pop, loose, Nat.add_one_ne_zero, if_false,
        sub?_of_le (Nat.le_add_left 1 depth), Nat.add_sub_cancel, hlive, set?_of_lt hle,
        Option.bind_eq_bind, Option.bind_some]
      rfl

/-- Beyond the limit the checks do fail. -/
example (slots : Vector Address 16) (address : Address) :
    (LooseStack.mk slots 17).push? address = none ∧ (LooseStack.mk slots 17).pop? = none := by
  exact ⟨rfl, rfl⟩

theorem exists_loose_eq {stack : LooseStack} (hdepth : stack.depth ≤ 16) :
    ∃ callStack : CallStack, callStack.loose = stack :=
  ⟨{ slots := stack.slots, depth := stack.depth, depth_le := hdepth }, rfl⟩

end CallStack

namespace FrameBuffer

/-- Toggles the pixel in a column of a row, both of which the picture must have. -/
def toggle? (painted : FrameBuffer × Bool) (column row : Nat) : Option (FrameBuffer × Bool) :=
  if column < width ∧ row < height then do
    let lit ← painted.1.pixels[width * row + column]?
    let pixels ← Guarded.set? painted.1.pixels (width * row + column) (!lit)
    some ({ pixels }, lit || painted.2)
  else
    none

def paintBit? (x : Nat) (bits : UInt8) (row : Nat) (painted : FrameBuffer × Bool) (column : Nat) :
    Option (FrameBuffer × Bool) := do
  let amount ← sub? 7 column
  let shifted ← shiftRight? 8 bits.toNat amount
  if shifted &&& 1 = 0 then
    some painted
  else
    let across ← fit? USize.size (x + column)
    toggle? painted (across % width) row

def paintRow? (x y : Nat) (painted : FrameBuffer × Bool) :
    UInt8 × Nat → Option (FrameBuffer × Bool)
  | (bits, offset) => do
      let down ← fit? USize.size (y + offset)
      (List.range 8).foldlM (paintBit? x bits (down % height)) painted

def paint? (buffer : FrameBuffer) (x y : UInt8) (sprite : List UInt8) :
    Option (FrameBuffer × Bool) :=
  sprite.zipIdx.foldlM (paintRow? (x.toNat % width) (y.toNat % height)) (buffer, false)

def toggleOn (painted : FrameBuffer × Bool) (places : List (Fin 2048)) : FrameBuffer × Bool :=
  ((painted.1.toggleAll places).1, painted.2 || (painted.1.toggleAll places).2)

theorem toggleAll_append (buffer : FrameBuffer) (first second : List (Fin 2048)) :
    buffer.toggleAll (first ++ second) = toggleOn (buffer.toggleAll first) second := by
  induction first generalizing buffer with
  | nil => simp [toggleOn]
  | cons place rest ih => simp [ih, toggleOn, Bool.or_assoc]

theorem toggleOn_append (painted : FrameBuffer × Bool) (first second : List (Fin 2048)) :
    toggleOn painted (first ++ second) = toggleOn (toggleOn painted first) second := by
  simp only [toggleOn, toggleAll_append, Bool.or_assoc]

theorem foldlM_toggleOn {α : Type}
    {paint? : FrameBuffer × Bool → α → Option (FrameBuffer × Bool)}
    {places : α → List (Fin 2048)} {strokes : List α}
    (hpaint : ∀ stroke ∈ strokes, ∀ painted,
      paint? painted stroke = some (toggleOn painted (places stroke)))
    (painted : FrameBuffer × Bool) :
    strokes.foldlM paint? painted = some (toggleOn painted (strokes.flatMap places)) := by
  induction strokes generalizing painted with
  | nil => simp [toggleOn]
  | cons stroke rest ih =>
      rw [List.forall_mem_cons] at hpaint
      rw [List.foldlM_cons, hpaint.1, List.flatMap_cons, toggleOn_append]
      exact ih hpaint.2 _

theorem toggle?_mod (painted : FrameBuffer × Bool) (column row : Nat) :
    toggle? painted (column % width) (row % height) =
      some (toggleOn painted [place column row]) := by
  have hinside : column % width < width ∧ row % height < height :=
    ⟨Nat.mod_lt _ (by decide), Nat.mod_lt _ (by decide)⟩
  have hplace : width * (row % height) + column % width = (place column row).val := rfl
  have hlit : painted.1.pixels[(place column row).val]? = some painted.1.pixels[place column row] :=
    Vector.getElem?_eq_getElem (place column row).isLt
  simp only [toggle?, if_pos hinside, hplace, hlit, set?_of_lt (place column row).isLt,
    Option.bind_eq_bind, Option.bind_some, toggleOn, toggleAll_cons, toggleAll_nil, Bool.or_false,
    Bool.or_comm painted.2]
  rfl

theorem paintBit?_eq {x column : Nat} (hx : x < width) (hcolumn : column < 8) (bits : UInt8)
    (row : Nat) (painted : FrameBuffer × Bool) :
    paintBit? x bits (row % height) painted column =
      some (toggleOn painted
        (([column].filter fun column => bits.toNat.testBit (7 - column)).map fun column =>
          place (x + column) row)) := by
  have hfits : x + column < USize.size := by
    have := USize.le_size
    simp only [width] at hx
    omega
  have hamount : 7 - column < 8 := by omega
  simp only [paintBit?, sub?_of_le (Nat.le_of_lt_succ hcolumn), shiftRight?_of_lt hamount,
    fit?_of_lt hfits, toggle?_mod, Option.bind_eq_bind, Option.bind_some]
  by_cases hset : bits.toNat.testBit (7 - column)
  · have hone : bits.toNat >>> (7 - column) &&& 1 ≠ 0 := by
      rwa [Nat.testBit, bne_iff_ne, Nat.and_comm] at hset
    rw [if_neg hone]
    simp [hset]
  · have hzero : bits.toNat >>> (7 - column) &&& 1 = 0 := by
      rwa [Nat.testBit, bne_iff_ne, Nat.and_comm, Decidable.not_not] at hset
    rw [if_pos hzero]
    simp [hset, toggleOn]

theorem paintRow?_eq {x y offset : Nat} (hx : x < width) (hy : y < height)
    (hoffset : offset < UInt8.size) (bits : UInt8) (painted : FrameBuffer × Bool) :
    paintRow? x y painted (bits, offset) =
      some (toggleOn painted
        ((setColumns bits).map fun column => place (x + column) (y + offset))) := by
  have hfits : y + offset < USize.size := by
    have := USize.le_size
    simp only [height] at hy
    simp only [UInt8.size] at hoffset
    omega
  have hbits := foldlM_toggleOn (fun column hcolumn painted =>
    paintBit?_eq hx (List.mem_range.mp hcolumn) bits (y + offset) painted) painted
  rw [← List.map_flatMap, ← List.filter_flatMap, List.flatMap_singleton'] at hbits
  simp only [paintRow?, fit?_of_lt hfits, Option.bind_eq_bind, Option.bind_some]
  exact hbits

theorem paint?_eq (buffer : FrameBuffer) (x y : UInt8) {sprite : List UInt8}
    (hshort : sprite.length ≤ UInt8.size) :
    buffer.paint? x y sprite = some (buffer.paint x y sprite) := by
  have hrows (row : UInt8 × Nat) (hrow : row ∈ sprite.zipIdx) (painted : FrameBuffer × Bool) :=
    paintRow?_eq (Nat.mod_lt x.toNat (Nat.succ_pos 63)) (Nat.mod_lt y.toNat (Nat.succ_pos 31))
      (Nat.lt_of_lt_of_le (List.snd_lt_of_mem_zipIdx hrow) hshort) row.1 painted
  exact foldlM_toggleOn hrows (buffer, false)

end FrameBuffer

end Chip8
