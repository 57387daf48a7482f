namespace Chip8

/-! A reproducible stream of random bytes: the key words of a seed, and a stream cipher of twelve
rounds run over a block counter. -/

namespace ChaCha

abbrev Block := Vector UInt32 16

def rotateLeft (value amount : UInt32) : UInt32 :=
  (value <<< amount) ||| (value >>> (32 - amount))

def quarterRound (a b c d : Fin 16) (block : Block) : Block :=
  let mix (sum term target : Fin 16) (amount : UInt32) (block : Block) : Block :=
    let block := block.set sum (block[sum] + block[term])
    block.set target (rotateLeft (block[target] ^^^ block[sum]) amount)
  block |> mix a b d 16 |> mix c d b 12 |> mix a b d 8 |> mix c d b 7

def doubleRound (block : Block) : Block :=
  block
    |> quarterRound 0 4 8 12 |> quarterRound 1 5 9 13
    |> quarterRound 2 6 10 14 |> quarterRound 3 7 11 15
    |> quarterRound 0 5 10 15 |> quarterRound 1 6 11 12
    |> quarterRound 2 7 8 13 |> quarterRound 3 4 9 14

def initialBlock (key : Vector UInt32 8) (counter : UInt64) : Block :=
  #v[0x61707865, 0x3320646e, 0x79622d32, 0x6b206574,
    key[0], key[1], key[2], key[3], key[4], key[5], key[6], key[7],
    counter.toUInt32, (counter >>> 32).toUInt32, 0, 0]

/-- Twelve rounds, after which the initial block is added. -/
def block (key : Vector UInt32 8) (counter : UInt64) : Block :=
  let initial := initialBlock key counter
  Vector.zipWith (· + ·) (Nat.repeat doubleRound 6 initial) initial

end ChaCha

structure RandomSource where
  key : Vector UInt32 8
  drawn : Nat := 0
  deriving DecidableEq

namespace RandomSource

/-- One step of the generator that spreads a seed over the key words. -/
def nextState (state : UInt64) : UInt64 :=
  state * 6364136223846793005 + 11634580027462260723

def keyWord (state : UInt64) : UInt32 :=
  let word := (((state >>> 18) ^^^ state) >>> 27).toUInt32
  let amount := (state >>> 59).toUInt32
  (word >>> amount) ||| (word <<< ((32 - amount) % 32))

def ofSeed (seed : UInt64) : RandomSource where
  key := Vector.ofFn fun index => keyWord (Nat.repeat nextState (index.val + 1) seed)

/-- The stream's byte at an index: the low byte of a word of the block that holds it. -/
def byteAt (key : Vector UInt32 8) (index : Nat) : UInt8 :=
  have : index % 16 < 16 := Nat.mod_lt _ (by decide)
  (ChaCha.block key (UInt64.ofNat (index / 16)))[index % 16].toUInt8

def draw (source : RandomSource) : UInt8 × RandomSource :=
  (byteAt source.key source.drawn, { source with drawn := source.drawn + 1 })

@[simp] theorem drawn_draw (source : RandomSource) :
    source.draw.2.drawn = source.drawn + 1 := rfl

@[simp] theorem key_draw (source : RandomSource) : source.draw.2.key = source.key := rfl

end RandomSource

end Chip8
