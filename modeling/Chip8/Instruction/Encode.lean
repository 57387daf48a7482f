import Chip8.Instruction.Basic

namespace Chip8.Instruction

def assemble (family : Nat) (x y n : UInt8) : Word :=
  UInt16.ofNat (4096 * family + 256 * x.toNat + 16 * y.toNat + n.toNat)

def assembleByte (family : Nat) (x nn : UInt8) : Word :=
  UInt16.ofNat (4096 * family + 256 * x.toNat + nn.toNat)

def assembleAddress (family : Nat) (nnn : Address) : Word :=
  UInt16.ofNat (4096 * family + nnn.toNat)

/-- The word of an instruction. A shift names its source in the third digit, and the offset
register of a jump is already part of its address or fixed. -/
def encode : Instruction → Word
  | .clearScreen => 0x00E0
  | .returnFromCall => 0x00EE
  | .jump target => assembleAddress 0x1 target
  | .call target => assembleAddress 0x2 target
  | .skipEqualConstant x value => assembleByte 0x3 x value
  | .skipNotEqualConstant x value => assembleByte 0x4 x value
  | .skipEqual x y => assemble 0x5 x y 0x0
  | .setConstant x value => assembleByte 0x6 x value
  | .addConstant x value => assembleByte 0x7 x value
  | .copy x y => assemble 0x8 x y 0x0
  | .or x y => assemble 0x8 x y 0x1
  | .and x y => assemble 0x8 x y 0x2
  | .xor x y => assemble 0x8 x y 0x3
  | .add x y => assemble 0x8 x y 0x4
  | .subtract x y => assemble 0x8 x y 0x5
  | .shiftRight x source => assemble 0x8 x source 0x6
  | .subtractFrom x y => assemble 0x8 x y 0x7
  | .shiftLeft x source => assemble 0x8 x source 0xE
  | .skipNotEqual x y => assemble 0x9 x y 0x0
  | .setIndex target => assembleAddress 0xA target
  | .jumpWithOffset target _ => assembleAddress 0xB target
  | .random x mask => assembleByte 0xC x mask
  | .draw x y height => assemble 0xD x y height
  | .skipHeld x => assembleByte 0xE x 0x9E
  | .skipNotHeld x => assembleByte 0xE x 0xA1
  | .readDelay x => assembleByte 0xF x 0x07
  | .awaitKey x => assembleByte 0xF x 0x0A
  | .setDelay x => assembleByte 0xF x 0x15
  | .setSound x => assembleByte 0xF x 0x18
  | .addIndex x => assembleByte 0xF x 0x1E
  | .pointGlyph x => assembleByte 0xF x 0x29
  | .storeDecimal x => assembleByte 0xF x 0x33
  | .storeBlock last _ => assembleByte 0xF last 0x55
  | .loadBlock last _ => assembleByte 0xF last 0x65
  | .unknown word => word

theorem fields_assemble {family : Nat} (hfamily : family < 16) {x y n : UInt8} (hx : x < 16)
    (hy : y < 16) (hn : n < 16) :
    (assemble family x y n).family = family ∧ (assemble family x y n).x = x ∧
      (assemble family x y n).y = y ∧ (assemble family x y n).n = n := by
  have hxNat : x.toNat < 16 := UInt8.lt_iff_toNat_lt.mp hx
  have hyNat : y.toNat < 16 := UInt8.lt_iff_toNat_lt.mp hy
  have hnNat : n.toNat < 16 := UInt8.lt_iff_toNat_lt.mp hn
  have hword : (assemble family x y n).toNat =
      4096 * family + 256 * x.toNat + 16 * y.toNat + n.toNat := by
    rw [assemble, UInt16.toNat_ofNat']
    omega
  simp only [Word.family_eq, ← UInt8.toNat_inj, Word.toNat_x, Word.toNat_y, Word.toNat_n, hword]
  omega

theorem fields_assembleByte {family : Nat} (hfamily : family < 16) {x : UInt8} (hx : x < 16)
    (nn : UInt8) :
    (assembleByte family x nn).family = family ∧ (assembleByte family x nn).x = x ∧
      (assembleByte family x nn).nn = nn := by
  have hxNat : x.toNat < 16 := UInt8.lt_iff_toNat_lt.mp hx
  have hnn := nn.toNat_lt
  have hword : (assembleByte family x nn).toNat = 4096 * family + 256 * x.toNat + nn.toNat := by
    rw [assembleByte, UInt16.toNat_ofNat']
    omega
  simp only [Word.family_eq, ← UInt8.toNat_inj, Word.toNat_x, Word.toNat_nn, hword]
  omega

/-- A row of the instruction table: the digits that are fixed, and what they are. -/
structure Pattern where
  mask : Word
  value : Word
  deriving DecidableEq, Repr

def Pattern.Matches (pattern : Pattern) (word : Word) : Prop :=
  word &&& pattern.mask = pattern.value

instance (pattern : Pattern) (word : Word) : Decidable (pattern.Matches word) :=
  inferInstanceAs (Decidable (_ = _))

def table : List Pattern :=
  [⟨0xFFFF, 0x00E0⟩, ⟨0xFFFF, 0x00EE⟩, ⟨0xF000, 0x1000⟩, ⟨0xF000, 0x2000⟩, ⟨0xF000, 0x3000⟩,
    ⟨0xF000, 0x4000⟩, ⟨0xF00F, 0x5000⟩, ⟨0xF000, 0x6000⟩, ⟨0xF000, 0x7000⟩, ⟨0xF00F, 0x8000⟩,
    ⟨0xF00F, 0x8001⟩, ⟨0xF00F, 0x8002⟩, ⟨0xF00F, 0x8003⟩, ⟨0xF00F, 0x8004⟩, ⟨0xF00F, 0x8005⟩,
    ⟨0xF00F, 0x8006⟩, ⟨0xF00F, 0x8007⟩, ⟨0xF00F, 0x800E⟩, ⟨0xF00F, 0x9000⟩, ⟨0xF000, 0xA000⟩,
    ⟨0xF000, 0xB000⟩, ⟨0xF000, 0xC000⟩, ⟨0xF000, 0xD000⟩, ⟨0xF0FF, 0xE09E⟩, ⟨0xF0FF, 0xE0A1⟩,
    ⟨0xF0FF, 0xF007⟩, ⟨0xF0FF, 0xF00A⟩, ⟨0xF0FF, 0xF015⟩, ⟨0xF0FF, 0xF018⟩, ⟨0xF0FF, 0xF01E⟩,
    ⟨0xF0FF, 0xF029⟩, ⟨0xF0FF, 0xF033⟩, ⟨0xF0FF, 0xF055⟩, ⟨0xF0FF, 0xF065⟩]

def Listed (word : Word) : Prop :=
  ∃ pattern ∈ table, pattern.Matches word

instance (word : Word) : Decidable (Listed word) :=
  inferInstanceAs (Decidable (∃ pattern ∈ table, pattern.Matches word))

/-- The operands that the table can express on an architecture: one-digit registers and heights,
three-digit addresses, and choices that the architecture fixes. -/
def WellFormed (architecture : Architecture) : Instruction → Prop
  | .clearScreen => True
  | .returnFromCall => True
  | .jump target | .call target | .setIndex target => target < 0x1000
  | .skipEqualConstant x _ | .skipNotEqualConstant x _ | .setConstant x _ | .addConstant x _
  | .random x _ => x < 16
  | .skipEqual x y | .skipNotEqual x y | .copy x y | .or x y | .and x y | .xor x y | .add x y
  | .subtract x y | .subtractFrom x y => x < 16 ∧ y < 16
  | .shiftRight x source | .shiftLeft x source =>
      x < 16 ∧ source < 16 ∧ (architecture = .chip → source = x)
  | .jumpWithOffset target offset =>
      target < 0x1000 ∧
        match architecture with
        | .chip => offset.toNat = target.toNat / 256
        | .cosmac => offset = 0
  | .draw x y height => x < 16 ∧ y < 16 ∧ height < 16
  | .skipHeld x | .skipNotHeld x | .readDelay x | .awaitKey x | .setDelay x | .setSound x
  | .addIndex x | .pointGlyph x | .storeDecimal x => x < 16
  | .storeBlock last advance | .loadBlock last advance =>
      last < 16 ∧ (advance = true ↔ architecture = .cosmac)
  | .unknown word => ¬ Listed word

end Chip8.Instruction
