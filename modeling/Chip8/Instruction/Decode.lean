import Chip8.Instruction.Basic

namespace Chip8.Instruction

/-- The register a shift reads: VY on the older lineage, the destination itself on the newer. -/
def shiftSource (architecture : Architecture) (word : Word) : UInt8 :=
  match architecture with
  | .chip => word.x
  | .cosmac => word.y

def offsetRegister (architecture : Architecture) (word : Word) : UInt8 :=
  match architecture with
  | .chip => word.x
  | .cosmac => 0

def advancesIndex : Architecture → Bool
  | .chip => false
  | .cosmac => true

def decodeSystem (word : Word) : Instruction :=
  match word.toNat with
  | 0x00E0 => .clearScreen
  | 0x00EE => .returnFromCall
  | _ => .unknown word

def decodeArithmetic (architecture : Architecture) (word : Word) : Instruction :=
  match word.n.toNat with
  | 0x0 => .copy word.x word.y
  | 0x1 => .or word.x word.y
  | 0x2 => .and word.x word.y
  | 0x3 => .xor word.x word.y
  | 0x4 => .add word.x word.y
  | 0x5 => .subtract word.x word.y
  | 0x6 => .shiftRight word.x (shiftSource architecture word)
  | 0x7 => .subtractFrom word.x word.y
  | 0xE => .shiftLeft word.x (shiftSource architecture word)
  | _ => .unknown word

def decodeKeypad (word : Word) : Instruction :=
  match word.nn.toNat with
  | 0x9E => .skipHeld word.x
  | 0xA1 => .skipNotHeld word.x
  | _ => .unknown word

def decodeTransfer (architecture : Architecture) (word : Word) : Instruction :=
  match word.nn.toNat with
  | 0x07 => .readDelay word.x
  | 0x0A => .awaitKey word.x
  | 0x15 => .setDelay word.x
  | 0x18 => .setSound word.x
  | 0x1E => .addIndex word.x
  | 0x29 => .pointGlyph word.x
  | 0x33 => .storeDecimal word.x
  | 0x55 => .storeBlock word.x (advancesIndex architecture)
  | 0x65 => .loadBlock word.x (advancesIndex architecture)
  | _ => .unknown word

def decode (architecture : Architecture) (word : Word) : Instruction :=
  match word.family with
  | 0x0 => decodeSystem word
  | 0x1 => .jump word.nnn
  | 0x2 => .call word.nnn
  | 0x3 => .skipEqualConstant word.x word.nn
  | 0x4 => .skipNotEqualConstant word.x word.nn
  | 0x5 => if word.n = 0 then .skipEqual word.x word.y else .unknown word
  | 0x6 => .setConstant word.x word.nn
  | 0x7 => .addConstant word.x word.nn
  | 0x8 => decodeArithmetic architecture word
  | 0x9 => if word.n = 0 then .skipNotEqual word.x word.y else .unknown word
  | 0xA => .setIndex word.nnn
  | 0xB => .jumpWithOffset word.nnn (offsetRegister architecture word)
  | 0xC => .random word.x word.nn
  | 0xD => .draw word.x word.y word.n
  | 0xE => decodeKeypad word
  | 0xF => decodeTransfer architecture word
  | _ => .unknown word

/-- The first digit of a word that reads as the instruction. -/
def family : Instruction → Nat
  | .clearScreen | .returnFromCall => 0x0
  | .jump _ => 0x1
  | .call _ => 0x2
  | .skipEqualConstant _ _ => 0x3
  | .skipNotEqualConstant _ _ => 0x4
  | .skipEqual _ _ => 0x5
  | .setConstant _ _ => 0x6
  | .addConstant _ _ => 0x7
  | .copy _ _ | .or _ _ | .and _ _ | .xor _ _ | .add _ _ | .subtract _ _ | .subtractFrom _ _
  | .shiftRight _ _ | .shiftLeft _ _ => 0x8
  | .skipNotEqual _ _ => 0x9
  | .setIndex _ => 0xA
  | .jumpWithOffset _ _ => 0xB
  | .random _ _ => 0xC
  | .draw _ _ _ => 0xD
  | .skipHeld _ | .skipNotHeld _ => 0xE
  | .readDelay _ | .awaitKey _ | .setDelay _ | .setSound _ | .addIndex _ | .pointGlyph _
  | .storeDecimal _ | .storeBlock _ _ | .loadBlock _ _ => 0xF
  | .unknown word => word.family

def transferCode? : Instruction → Option UInt8
  | .readDelay _ => some 0x07
  | .awaitKey _ => some 0x0A
  | .setDelay _ => some 0x15
  | .setSound _ => some 0x18
  | .addIndex _ => some 0x1E
  | .pointGlyph _ => some 0x29
  | .storeDecimal _ => some 0x33
  | .storeBlock _ _ => some 0x55
  | .loadBlock _ _ => some 0x65
  | _ => none

section Inversion

variable {architecture : Architecture} {word : Word}

theorem family_decode : (decode architecture word).family = word.family := by
  unfold decode
  split
  case h_1 hfamily => unfold decodeSystem; split <;> simp [family, hfamily]
  case h_6 hfamily => split <;> simp [family, hfamily]
  case h_9 hfamily => unfold decodeArithmetic; split <;> simp [family, hfamily]
  case h_10 hfamily => split <;> simp [family, hfamily]
  case h_15 hfamily => unfold decodeKeypad; split <;> simp [family, hfamily]
  case h_16 hfamily => unfold decodeTransfer; split <;> simp [family, hfamily]
  all_goals simp_all [family]

theorem decode_eq_iff {instruction : Instruction} :
    decode architecture word = instruction ↔
      word.family = instruction.family ∧ decode architecture word = instruction :=
  ⟨fun hdecode => ⟨hdecode ▸ Eq.symm family_decode, hdecode⟩, And.right⟩

theorem decode_eq_jump_iff {target : Address} :
    decode architecture word = .jump target ↔ word.family = 1 ∧ word.nnn = target := by
  rw [decode_eq_iff]
  exact and_congr_right fun (hfamily : word.family = 1) => by simp [decode, hfamily]

theorem decode_eq_call_iff {target : Address} :
    decode architecture word = .call target ↔ word.family = 2 ∧ word.nnn = target := by
  rw [decode_eq_iff]
  exact and_congr_right fun (hfamily : word.family = 2) => by simp [decode, hfamily]

theorem decode_eq_skipEqualConstant_iff {x value : UInt8} :
    decode architecture word = .skipEqualConstant x value ↔
      word.family = 3 ∧ word.x = x ∧ word.nn = value := by
  rw [decode_eq_iff]
  exact and_congr_right fun (hfamily : word.family = 3) => by simp [decode, hfamily]

theorem decode_eq_skipNotEqualConstant_iff {x value : UInt8} :
    decode architecture word = .skipNotEqualConstant x value ↔
      word.family = 4 ∧ word.x = x ∧ word.nn = value := by
  rw [decode_eq_iff]
  exact and_congr_right fun (hfamily : word.family = 4) => by simp [decode, hfamily]

theorem decode_eq_skipEqual_iff {x y : UInt8} :
    decode architecture word = .skipEqual x y ↔
      (word.family = 5 ∧ word.n = 0) ∧ word.x = x ∧ word.y = y := by
  rw [decode_eq_iff, and_assoc]
  exact and_congr_right fun (hfamily : word.family = 5) => by
    simp only [decode, hfamily]
    split <;> simp_all

theorem decode_eq_skipNotEqual_iff {x y : UInt8} :
    decode architecture word = .skipNotEqual x y ↔
      (word.family = 9 ∧ word.n = 0) ∧ word.x = x ∧ word.y = y := by
  rw [decode_eq_iff, and_assoc]
  exact and_congr_right fun (hfamily : word.family = 9) => by
    simp only [decode, hfamily]
    split <;> simp_all

theorem decode_eq_jumpWithOffset_iff {target : Address} {offset : UInt8} :
    decode architecture word = .jumpWithOffset target offset ↔
      word.family = 0xB ∧ word.nnn = target ∧ offsetRegister architecture word = offset := by
  rw [decode_eq_iff]
  exact and_congr_right fun (hfamily : word.family = 0xB) => by simp [decode, hfamily]

theorem decode_eq_random_iff {x mask : UInt8} :
    decode architecture word = .random x mask ↔
      word.family = 0xC ∧ word.x = x ∧ word.nn = mask := by
  rw [decode_eq_iff]
  exact and_congr_right fun (hfamily : word.family = 0xC) => by simp [decode, hfamily]

theorem decode_eq_draw_iff {x y height : UInt8} :
    decode architecture word = .draw x y height ↔
      word.family = 0xD ∧ word.x = x ∧ word.y = y ∧ word.n = height := by
  rw [decode_eq_iff]
  exact and_congr_right fun (hfamily : word.family = 0xD) => by simp [decode, hfamily]

theorem decode_eq_iff_of_system {instruction : Instruction} (hsystem : instruction.family = 0x0) :
    decode architecture word = instruction ↔
      word.family = 0x0 ∧ decodeSystem word = instruction := by
  rw [decode_eq_iff, hsystem]
  exact and_congr_right fun hfamily => by simp [decode, hfamily]

theorem decode_eq_clearScreen_iff :
    decode architecture word = .clearScreen ↔ word = 0x00E0 := by
  have hword : word = 0x00E0 ↔ word.toNat = 0x00E0 := UInt16.toNat_inj.symm
  rw [decode_eq_iff_of_system rfl, word.family_eq, hword, decodeSystem]
  split <;> simp_all

theorem decode_eq_returnFromCall_iff :
    decode architecture word = .returnFromCall ↔ word = 0x00EE := by
  have hword : word = 0x00EE ↔ word.toNat = 0x00EE := UInt16.toNat_inj.symm
  rw [decode_eq_iff_of_system rfl, word.family_eq, hword, decodeSystem]
  split <;> simp_all

theorem decode_eq_iff_of_keypad {instruction : Instruction} (hkeypad : instruction.family = 0xE) :
    decode architecture word = instruction ↔
      word.family = 0xE ∧ decodeKeypad word = instruction := by
  rw [decode_eq_iff, hkeypad]
  exact and_congr_right fun hfamily => by simp [decode, hfamily]

theorem decode_eq_skipHeld_iff {x : UInt8} :
    decode architecture word = .skipHeld x ↔
      word.family = 0xE ∧ word.nn = 0x9E ∧ word.x = x := by
  have hnn : word.nn = 0x9E ↔ word.nn.toNat = 0x9E := UInt8.toNat_inj.symm
  rw [decode_eq_iff_of_keypad rfl, hnn, decodeKeypad]
  split <;> simp_all

theorem decode_eq_skipNotHeld_iff {x : UInt8} :
    decode architecture word = .skipNotHeld x ↔
      word.family = 0xE ∧ word.nn = 0xA1 ∧ word.x = x := by
  have hnn : word.nn = 0xA1 ↔ word.nn.toNat = 0xA1 := UInt8.toNat_inj.symm
  rw [decode_eq_iff_of_keypad rfl, hnn, decodeKeypad]
  split <;> simp_all

theorem nn_of_transferCode? {code : UInt8}
    (hcode : (decodeTransfer architecture word).transferCode? = some code) : word.nn = code := by
  have hbyte : word.nn = code ↔ word.nn.toNat = code.toNat := UInt8.toNat_inj.symm
  rw [hbyte]
  unfold decodeTransfer at hcode
  split at hcode <;> cases hcode <;> assumption

theorem decode_eq_iff_of_transferCode? {instruction : Instruction} {code : UInt8}
    (hcode : instruction.transferCode? = some code) :
    decode architecture word = instruction ↔
      (word.family = 0xF ∧ word.nn = code) ∧ decodeTransfer architecture word = instruction := by
  have htransfer : instruction.family = 0xF := by
    cases instruction <;> first | rfl | cases hcode
  rw [decode_eq_iff, htransfer, and_assoc]
  refine and_congr_right fun hfamily => ?_
  simp only [decode, hfamily]
  exact ⟨fun hdecode => ⟨nn_of_transferCode? (hdecode ▸ hcode), hdecode⟩, And.right⟩

theorem decode_eq_readDelay_iff {x : UInt8} :
    decode architecture word = .readDelay x ↔
      (word.family = 0xF ∧ word.nn = 0x07) ∧ word.x = x :=
  (decode_eq_iff_of_transferCode? rfl).trans <| and_congr_right fun ⟨_, hnn⟩ => by
    simp [decodeTransfer, hnn]

theorem decode_eq_awaitKey_iff {x : UInt8} :
    decode architecture word = .awaitKey x ↔
      (word.family = 0xF ∧ word.nn = 0x0A) ∧ word.x = x :=
  (decode_eq_iff_of_transferCode? rfl).trans <| and_congr_right fun ⟨_, hnn⟩ => by
    simp [decodeTransfer, hnn]

theorem decode_eq_setDelay_iff {x : UInt8} :
    decode architecture word = .setDelay x ↔
      (word.family = 0xF ∧ word.nn = 0x15) ∧ word.x = x :=
  (decode_eq_iff_of_transferCode? rfl).trans <| and_congr_right fun ⟨_, hnn⟩ => by
    simp [decodeTransfer, hnn]

theorem decode_eq_setSound_iff {x : UInt8} :
    decode architecture word = .setSound x ↔
      (word.family = 0xF ∧ word.nn = 0x18) ∧ word.x = x :=
  (decode_eq_iff_of_transferCode? rfl).trans <| and_congr_right fun ⟨_, hnn⟩ => by
    simp [decodeTransfer, hnn]

theorem decode_eq_addIndex_iff {x : UInt8} :
    decode architecture word = .addIndex x ↔
      (word.family = 0xF ∧ word.nn = 0x1E) ∧ word.x = x :=
  (decode_eq_iff_of_transferCode? rfl).trans <| and_congr_right fun ⟨_, hnn⟩ => by
    simp [decodeTransfer, hnn]

theorem decode_eq_storeDecimal_iff {x : UInt8} :
    decode architecture word = .storeDecimal x ↔
      (word.family = 0xF ∧ word.nn = 0x33) ∧ word.x = x :=
  (decode_eq_iff_of_transferCode? rfl).trans <| and_congr_right fun ⟨_, hnn⟩ => by
    simp [decodeTransfer, hnn]

theorem decode_eq_storeBlock_iff {last : UInt8} {advance : Bool} :
    decode architecture word = .storeBlock last advance ↔
      (word.family = 0xF ∧ word.nn = 0x55) ∧ word.x = last ∧
        advancesIndex architecture = advance :=
  (decode_eq_iff_of_transferCode? rfl).trans <| and_congr_right fun ⟨_, hnn⟩ => by
    simp [decodeTransfer, hnn]

theorem decode_eq_loadBlock_iff {last : UInt8} {advance : Bool} :
    decode architecture word = .loadBlock last advance ↔
      (word.family = 0xF ∧ word.nn = 0x65) ∧ word.x = last ∧
        advancesIndex architecture = advance :=
  (decode_eq_iff_of_transferCode? rfl).trans <| and_congr_right fun ⟨_, hnn⟩ => by
    simp [decodeTransfer, hnn]

end Inversion

end Chip8.Instruction
