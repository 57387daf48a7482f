import Chip8.Instruction.Decode
import Chip8.Instruction.Encode

namespace Chip8

namespace Instruction

section Pattern

variable {word value : Word}

theorem family_and (word : Word) : word.family &&& 15 = word.family :=
  (Nat.and_two_pow_sub_one_eq_mod word.family 4).trans (Nat.mod_eq_of_lt (word.digits_lt 1 1))

theorem Pattern.matches_iff {mask : Word} :
    Pattern.Matches ⟨mask, value⟩ word ↔
      word.family &&& (mask.toNat / 4096) = value.toNat / 4096 ∧
        word.toNat % 4096 &&& mask.toNat % 4096 = value.toNat % 4096 := by
  have hdiv : (word.toNat &&& mask.toNat) / 4096 = word.toNat / 4096 &&& mask.toNat / 4096 :=
    Nat.and_div_two_pow (n := 12)
  have hmod : (word.toNat &&& mask.toNat) % 4096 = word.toNat % 4096 &&& mask.toNat % 4096 :=
    Nat.and_mod_two_pow (n := 12)
  have hmatches : Pattern.Matches ⟨mask, value⟩ word ↔ word.toNat &&& mask.toNat = value.toNat :=
    UInt16.toNat_inj.symm
  rw [hmatches, Word.family_eq, ← hdiv, ← hmod]
  omega

theorem Pattern.matches_F000_iff :
    Pattern.Matches ⟨0xF000, value⟩ word ↔
      word.family = value.toNat / 4096 ∧ value.toNat % 4096 = 0 := by
  simp [matches_iff, family_and, eq_comm]

theorem Pattern.matches_F00F_iff :
    Pattern.Matches ⟨0xF00F, value⟩ word ↔
      word.family = value.toNat / 4096 ∧ word.n.toNat = value.toNat % 4096 := by
  have hand : word.toNat % 4096 &&& 15 = word.toNat % 4096 % 16 :=
    Nat.and_two_pow_sub_one_eq_mod _ 4
  simp [matches_iff, family_and, hand]

theorem Pattern.matches_F0FF_iff :
    Pattern.Matches ⟨0xF0FF, value⟩ word ↔
      word.family = value.toNat / 4096 ∧ word.nn.toNat = value.toNat % 4096 := by
  have hand : word.toNat % 4096 &&& 255 = word.toNat % 4096 % 256 :=
    Nat.and_two_pow_sub_one_eq_mod _ 8
  simp [matches_iff, family_and, hand]

theorem Pattern.matches_FFFF_iff :
    Pattern.Matches ⟨0xFFFF, value⟩ word ↔
      word.family = value.toNat / 4096 ∧ word.nnn.toNat = value.toNat % 4096 := by
  have hand : word.toNat % 4096 &&& 4095 = word.toNat % 4096 % 4096 :=
    Nat.and_two_pow_sub_one_eq_mod _ 12
  simp [matches_iff, family_and, hand]

end Pattern

variable {architecture : Architecture} {word : Word}

theorem decode_eq_unknown_iff {other : Word} :
    decode architecture word = .unknown other ↔ ¬ Listed word ∧ word = other := by
  simp only [Listed, table, List.mem_cons, exists_eq_or_imp, exists_eq_left, List.not_mem_nil,
    or_false, Pattern.matches_F000_iff, Pattern.matches_F00F_iff, Pattern.matches_F0FF_iff,
    Pattern.matches_FFFF_iff, UInt16.reduceToNat, Nat.reduceDiv, Nat.reduceMod, and_true]
  unfold decode
  split
  case h_1 hfamily =>
    have hword : word.nnn.toNat = word.toNat := by
      rw [Word.family_eq] at hfamily
      rw [Word.toNat_nnn]
      omega
    simp only [decodeSystem, hfamily, hword]
    clear hword
    split <;> simp_all
  case h_6 hfamily | h_10 hfamily =>
    simp only [hfamily, ← UInt8.toNat_inj]
    split <;> simp_all
  case h_9 hfamily =>
    simp only [decodeArithmetic, hfamily]
    split <;> simp_all
  case h_15 hfamily =>
    simp only [decodeKeypad, hfamily]
    split <;> simp_all
  case h_16 hfamily =>
    simp only [decodeTransfer, hfamily]
    split <;> simp_all
  all_goals simp_all

section Word

variable {word : Word} {family : Nat} {x y n nn : UInt8} {nnn : Address}

theorem assemble_eq (hfamily : word.family = family) (hx : word.x = x) (hy : word.y = y)
    (hn : word.n = n) : assemble family x y n = word := by
  subst hfamily hx hy hn
  rw [assemble, ← UInt16.toNat_inj, UInt16.toNat_ofNat', Word.family_eq, Word.toNat_x,
    Word.toNat_y, Word.toNat_n]
  have := word.toNat_lt
  omega

theorem assembleByte_eq (hfamily : word.family = family) (hx : word.x = x) (hnn : word.nn = nn) :
    assembleByte family x nn = word := by
  subst hfamily hx hnn
  rw [assembleByte, ← UInt16.toNat_inj, UInt16.toNat_ofNat', Word.family_eq, Word.toNat_x,
    Word.toNat_nn]
  have := word.toNat_lt
  omega

theorem assembleAddress_eq (hfamily : word.family = family) (hnnn : word.nnn = nnn) :
    assembleAddress family nnn = word := by
  subst hfamily hnnn
  rw [assembleAddress, ← UInt16.toNat_inj, UInt16.toNat_ofNat', Word.family_eq, Word.toNat_nnn]
  have := word.toNat_lt
  omega

theorem fields_assembleAddress (hfamily : family < 16) (hnnn : nnn < 0x1000) :
    (assembleAddress family nnn).family = family ∧ (assembleAddress family nnn).nnn = nnn ∧
      (assembleAddress family nnn).x.toNat = nnn.toNat / 256 := by
  have hnnnNat : nnn.toNat < 4096 := UInt16.lt_iff_toNat_lt.mp hnnn
  have hword : (assembleAddress family nnn).toNat = 4096 * family + nnn.toNat := by
    rw [assembleAddress, UInt16.toNat_ofNat']
    omega
  simp only [Word.family_eq, ← UInt16.toNat_inj, Word.toNat_nnn, Word.toNat_x, hword]
  omega

end Word

/-- A shift of the newer lineage does not read the third digit of its word. -/
def SkipsThirdDigit (architecture : Architecture) (word : Word) : Prop :=
  architecture = .chip ∧ word.family = 0x8 ∧ (word.n = 0x6 ∨ word.n = 0xE)

instance (architecture : Architecture) (word : Word) :
    Decidable (SkipsThirdDigit architecture word) :=
  inferInstanceAs (Decidable (_ ∧ _))

variable {architecture : Architecture} {word : Word}

theorem shiftSource_eq_y (hfamily : word.family = 0x8) (hn : word.n = 0x6 ∨ word.n = 0xE)
    (hreads : ¬ SkipsThirdDigit architecture word) : shiftSource architecture word = word.y := by
  cases architecture with
  | chip => exact absurd ⟨rfl, hfamily, hn⟩ hreads
  | cosmac => rfl

theorem encode_decodeArithmetic (hfamily : word.family = 0x8)
    (hreads : ¬ SkipsThirdDigit architecture word) :
    encode (decodeArithmetic architecture word) = word := by
  unfold decodeArithmetic
  split
  case h_7 hn =>
    have hdigit : word.n = 0x6 := UInt8.toNat_inj.mp hn
    rw [shiftSource_eq_y hfamily (.inl hdigit) hreads]
    exact assemble_eq hfamily rfl rfl hdigit
  case h_9 hn =>
    have hdigit : word.n = 0xE := UInt8.toNat_inj.mp hn
    rw [shiftSource_eq_y hfamily (.inr hdigit) hreads]
    exact assemble_eq hfamily rfl rfl hdigit
  case h_10 => rfl
  all_goals
    rename_i hn
    exact assemble_eq hfamily rfl rfl (UInt8.toNat_inj.mp hn)

theorem encode_decode_of_skips (hskips : SkipsThirdDigit architecture word) :
    encode (decode architecture word) = assemble word.family word.x word.x word.n := by
  obtain ⟨rfl, hfamily, hn | hn⟩ := hskips <;>
    simp [decode, hfamily, decodeArithmetic, hn, shiftSource, encode]

theorem encode_decode (hreads : ¬ SkipsThirdDigit architecture word) :
    encode (decode architecture word) = word := by
  unfold decode
  split
  case h_1 hfamily =>
    unfold decodeSystem
    split
    · rename_i hword
      exact (UInt16.toNat_inj.mp hword).symm
    · rename_i hword
      exact (UInt16.toNat_inj.mp hword).symm
    · rfl
  case h_6 hfamily | h_10 hfamily =>
    split
    · rename_i hn
      exact assemble_eq hfamily rfl rfl hn
    · rfl
  case h_9 hfamily => exact encode_decodeArithmetic hfamily hreads
  case h_14 hfamily => exact assemble_eq hfamily rfl rfl rfl
  case h_15 hfamily =>
    unfold decodeKeypad
    split
    case h_3 => rfl
    all_goals
      rename_i hnn
      exact assembleByte_eq hfamily rfl (UInt8.toNat_inj.mp hnn)
  case h_16 hfamily =>
    unfold decodeTransfer
    split
    case h_10 => rfl
    all_goals
      rename_i hnn
      exact assembleByte_eq hfamily rfl (UInt8.toNat_inj.mp hnn)
  case h_2 hfamily | h_3 hfamily | h_11 hfamily | h_12 hfamily =>
    exact assembleAddress_eq hfamily rfl
  case h_4 hfamily | h_5 hfamily | h_7 hfamily | h_8 hfamily | h_13 hfamily =>
    exact assembleByte_eq hfamily rfl rfl
  case h_17 => rfl

theorem shiftSource_lt (architecture : Architecture) (word : Word) :
    shiftSource architecture word < 16 := by
  cases architecture with
  | chip => exact word.x_lt
  | cosmac => exact word.y_lt

theorem wellFormed_decodeArithmetic_or (architecture : Architecture) (word : Word) :
    WellFormed architecture (decodeArithmetic architecture word) ∨
      decodeArithmetic architecture word = .unknown word := by
  unfold decodeArithmetic
  split
  case h_7 | h_9 =>
    refine .inl ⟨word.x_lt, shiftSource_lt architecture word, ?_⟩
    rintro rfl
    rfl
  case h_10 => exact .inr rfl
  all_goals exact .inl ⟨word.x_lt, word.y_lt⟩

theorem wellFormed_decodeTransfer_or (architecture : Architecture) (word : Word) :
    WellFormed architecture (decodeTransfer architecture word) ∨
      decodeTransfer architecture word = .unknown word := by
  unfold decodeTransfer
  split
  case h_8 | h_9 =>
    refine .inl ⟨word.x_lt, ?_⟩
    cases architecture <;> decide
  case h_10 => exact .inr rfl
  all_goals exact .inl word.x_lt

theorem wellFormed_decode_or (architecture : Architecture) (word : Word) :
    WellFormed architecture (decode architecture word) ∨
      decode architecture word = .unknown word := by
  unfold decode
  split
  case h_1 =>
    unfold decodeSystem
    split
    · exact .inl trivial
    · exact .inl trivial
    · exact .inr rfl
  case h_6 | h_10 =>
    split
    · exact .inl ⟨word.x_lt, word.y_lt⟩
    · exact .inr rfl
  case h_9 => exact wellFormed_decodeArithmetic_or architecture word
  case h_12 =>
    refine .inl ⟨word.nnn_lt, ?_⟩
    cases architecture with
    | chip =>
        change word.x.toNat = word.nnn.toNat / 256
        rw [Word.toNat_x, Word.toNat_nnn]
        omega
    | cosmac => rfl
  case h_14 => exact .inl ⟨word.x_lt, word.y_lt, word.n_lt⟩
  case h_15 =>
    unfold decodeKeypad
    split
    · exact .inl word.x_lt
    · exact .inl word.x_lt
    · exact .inr rfl
  case h_16 => exact wellFormed_decodeTransfer_or architecture word
  case h_2 | h_3 | h_11 => exact .inl word.nnn_lt
  case h_17 => exact .inr rfl
  all_goals exact .inl word.x_lt

theorem wellFormed_decode (architecture : Architecture) (word : Word) :
    WellFormed architecture (decode architecture word) := by
  rcases wellFormed_decode_or architecture word with hwellFormed | hunknown
  · exact hwellFormed
  · rw [hunknown]
    exact (decode_eq_unknown_iff.mp hunknown).1

theorem decode_encode {instruction : Instruction}
    (hwellFormed : WellFormed architecture instruction) :
    decode architecture (encode instruction) = instruction := by
  cases instruction with
  | clearScreen => exact decode_eq_clearScreen_iff.mpr rfl
  | returnFromCall => exact decode_eq_returnFromCall_iff.mpr rfl
  | unknown word => exact decode_eq_unknown_iff.mpr ⟨hwellFormed, rfl⟩
  | jump target | call target | setIndex target =>
      have htarget : target < 0x1000 := hwellFormed
      simp [encode, decode, fields_assembleAddress, htarget]
  | skipEqualConstant x value | skipNotEqualConstant x value | setConstant x value
  | addConstant x value | random x value =>
      have hx : x < 16 := hwellFormed
      simp [encode, decode, fields_assembleByte, hx]
  | skipEqual x y | skipNotEqual x y =>
      obtain ⟨hx, hy⟩ := hwellFormed
      simp [encode, decode, fields_assemble, hx, hy]
  | copy x y | or x y | and x y | xor x y | add x y | subtract x y | subtractFrom x y =>
      obtain ⟨hx, hy⟩ := hwellFormed
      simp [encode, decode, decodeArithmetic, fields_assemble, hx, hy]
  | shiftRight x source | shiftLeft x source =>
      obtain ⟨hx, hsource, hsame⟩ := hwellFormed
      cases architecture with
      | chip => simp [encode, decode, decodeArithmetic, fields_assemble, hx, hsame, shiftSource]
      | cosmac => simp [encode, decode, decodeArithmetic, fields_assemble, hx, hsource, shiftSource]
  | jumpWithOffset target offset =>
      obtain ⟨htarget, hoffset⟩ := hwellFormed
      obtain ⟨hfamily, hnnn, hx⟩ := fields_assembleAddress (show 0xB < 16 by decide) htarget
      refine decode_eq_jumpWithOffset_iff.mpr ⟨hfamily, hnnn, ?_⟩
      cases architecture with
      | chip => exact UInt8.toNat_inj.mp (hx.trans (Eq.symm hoffset))
      | cosmac => exact Eq.symm hoffset
  | draw x y height =>
      obtain ⟨hx, hy, hheight⟩ := hwellFormed
      simp [encode, decode, fields_assemble, hx, hy, hheight]
  | skipHeld x | skipNotHeld x =>
      have hx : x < 16 := hwellFormed
      simp [encode, decode, decodeKeypad, fields_assembleByte, hx]
  | readDelay x | awaitKey x | setDelay x | setSound x | addIndex x | pointGlyph x
  | storeDecimal x =>
      have hx : x < 16 := hwellFormed
      simp [encode, decode, decodeTransfer, fields_assembleByte, hx]
  | storeBlock last advance | loadBlock last advance =>
      obtain ⟨hlast, hadvance⟩ := hwellFormed
      have hchoice : advancesIndex architecture = advance := by
        cases architecture <;> cases advance <;> simp_all [advancesIndex]
      simp [encode, decode, decodeTransfer, fields_assembleByte, hlast, hchoice]

/-- Words read as exactly the instructions that the table can express, each of which is read back
from its word; and a word is assembled again from what it reads as, except that a shift of the
newer lineage then repeats the second digit in place of the third. -/
theorem table_and_decoder_agree (architecture : Architecture) :
    (∀ instruction : Instruction,
      WellFormed architecture instruction ↔ ∃ word, decode architecture word = instruction) ∧
      (∀ instruction : Instruction, WellFormed architecture instruction →
        decode architecture (encode instruction) = instruction) ∧
      ∀ word : Word, encode (decode architecture word) =
        if SkipsThirdDigit architecture word then assemble word.family word.x word.x word.n
        else word := by
  refine ⟨fun instruction => ⟨?_, ?_⟩, fun instruction => decode_encode, fun word => ?_⟩
  · intro hwellFormed
    exact ⟨encode instruction, decode_encode hwellFormed⟩
  · rintro ⟨word, rfl⟩
    exact wellFormed_decode architecture word
  · split
    · rename_i hskips
      exact encode_decode_of_skips hskips
    · rename_i hreads
      exact encode_decode hreads

/-- A shift, and a word that reads as it although its third digit is another one. -/
theorem table_and_decoder_agree_shift :
    WellFormed .chip (.shiftRight 0x1 0x1) ∧
      decode .chip (encode (.shiftRight 0x1 0x1)) = .shiftRight 0x1 0x1 ∧
      encode (decode .chip 0x8126) = 0x8116 ∧ encode (decode .cosmac 0x8126) = 0x8126 := by
  have hwellFormed : WellFormed .chip (.shiftRight 0x1 0x1) :=
    ⟨by decide, by decide, fun _ => rfl⟩
  exact ⟨hwellFormed, (table_and_decoder_agree .chip).2.1 _ hwellFormed,
    (table_and_decoder_agree .chip).2.2 0x8126, (table_and_decoder_agree .cosmac).2.2 0x8126⟩

end Instruction

end Chip8
