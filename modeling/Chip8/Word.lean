namespace Chip8

abbrev Word := UInt16

abbrev Address := UInt16

namespace Word

/-- The `count` hexadecimal digits from digit `first` on, digit 1 being the most significant. -/
def digits (word : Word) (first count : Nat) : Nat :=
  word.toNat / Nat.pow 16 (5 - first - count) % Nat.pow 16 count

def family (word : Word) : Nat :=
  word.digits 1 1

def x (word : Word) : UInt8 :=
  UInt8.ofNat (word.digits 2 1)

def y (word : Word) : UInt8 :=
  UInt8.ofNat (word.digits 3 1)

def n (word : Word) : UInt8 :=
  UInt8.ofNat (word.digits 4 1)

def nn (word : Word) : UInt8 :=
  UInt8.ofNat (word.digits 3 2)

def nnn (word : Word) : Address :=
  UInt16.ofNat (word.digits 2 3)

/-- The word with the given bytes, high byte first. -/
def ofBytes (high low : UInt8) : Word :=
  UInt16.ofNat (256 * high.toNat + low.toNat)

theorem digits_lt (word : Word) (first count : Nat) :
    word.digits first count < Nat.pow 16 count :=
  Nat.mod_lt _ (Nat.pow_pos (by decide))

theorem family_eq (word : Word) : word.family = word.toNat / 4096 := by
  have := word.toNat_lt
  simp only [family, digits, Nat.pow_eq]
  omega

@[simp] theorem toNat_x (word : Word) : word.x.toNat = word.toNat / 256 % 16 := by
  simp only [x, digits, Nat.pow_eq, UInt8.toNat_ofNat']
  omega

theorem x_lt (word : Word) : word.x < 16 := by
  rw [UInt8.lt_iff_toNat_lt, toNat_x]
  exact Nat.mod_lt _ (by decide)

@[simp] theorem toNat_y (word : Word) : word.y.toNat = word.toNat / 16 % 16 := by
  simp only [y, digits, Nat.pow_eq, UInt8.toNat_ofNat']
  omega

theorem y_lt (word : Word) : word.y < 16 := by
  rw [UInt8.lt_iff_toNat_lt, toNat_y]
  exact Nat.mod_lt _ (by decide)

@[simp] theorem toNat_n (word : Word) : word.n.toNat = word.toNat % 16 := by
  simp only [n, digits, Nat.pow_eq, UInt8.toNat_ofNat']
  omega

theorem n_lt (word : Word) : word.n < 16 := by
  rw [UInt8.lt_iff_toNat_lt, toNat_n]
  exact Nat.mod_lt _ (by decide)

@[simp] theorem toNat_nn (word : Word) : word.nn.toNat = word.toNat % 256 := by
  simp only [nn, digits, Nat.pow_eq, UInt8.toNat_ofNat']
  omega

@[simp] theorem toNat_nnn (word : Word) : word.nnn.toNat = word.toNat % 4096 := by
  simp only [nnn, digits, Nat.pow_eq, UInt16.toNat_ofNat']
  omega

theorem nnn_lt (word : Word) : word.nnn < 0x1000 := by
  rw [UInt16.lt_iff_toNat_lt, toNat_nnn]
  exact Nat.mod_lt _ (by decide)

@[simp] theorem toNat_ofBytes (high low : UInt8) :
    (ofBytes high low).toNat = 256 * high.toNat + low.toNat := by
  have := high.toNat_lt
  have := low.toNat_lt
  simp only [ofBytes, UInt16.toNat_ofNat']
  omega

end Word

end Chip8
