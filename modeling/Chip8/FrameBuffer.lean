namespace Chip8

/-! A monochrome picture, sixty-four columns by thirty-two rows, without edges: columns and rows
are folded onto it. -/

structure FrameBuffer where
  /-- The pixels row by row from the top, each row from the left. -/
  pixels : Vector Bool 2048
  deriving DecidableEq

namespace FrameBuffer

def width : Nat := 64

def height : Nat := 32

def place (column row : Nat) : Fin 2048 :=
  ⟨64 * (row % 32) + column % 64, by omega⟩

def blank : FrameBuffer where
  pixels := Vector.replicate 2048 false

def pixel (buffer : FrameBuffer) (column row : Nat) : Bool :=
  buffer.pixels[place column row]

def toggle (buffer : FrameBuffer) (place : Fin 2048) : FrameBuffer where
  pixels := buffer.pixels.set place (!buffer.pixels[place])

/-- The columns of a sprite row that are set, the most significant bit being the leftmost. -/
def setColumns (bits : UInt8) : List Nat :=
  (List.range 8).filter fun column => bits.toNat.testBit (7 - column)

/-- The places that a sprite covers from its corner on, row by row; the corner is folded onto the
picture first. -/
def spritePlaces (x y : UInt8) (sprite : List UInt8) : List (Fin 2048) :=
  sprite.zipIdx.flatMap fun (bits, row) =>
    (setColumns bits).map fun column => place (x.toNat % 64 + column) (y.toNat % 32 + row)

/-- Toggles one place, and remembers whether it, or one toggled before it, was lit. -/
private def toggleNext : FrameBuffer × Bool → Fin 2048 → FrameBuffer × Bool
  | (buffer, collided), place =>
      if buffer.pixels[place] then (buffer.toggle place, true) else (buffer.toggle place, collided)

/-- Toggles places in order, and tells whether any of them was lit when its turn came. -/
def toggleAll (buffer : FrameBuffer) (places : List (Fin 2048)) : FrameBuffer × Bool :=
  places.foldl toggleNext (buffer, false)

/-- Draws a sprite by toggling; a collision is a lit pixel that went out. -/
def paint (buffer : FrameBuffer) (x y : UInt8) (sprite : List UInt8) : FrameBuffer × Bool :=
  buffer.toggleAll (spritePlaces x y sprite)

def lit (buffer : FrameBuffer) : Nat :=
  buffer.pixels.toList.count true

def row (buffer : FrameBuffer) (row : Nat) : List Bool :=
  (List.range width).map fun column => buffer.pixel column row

def rows (buffer : FrameBuffer) : List (List Bool) :=
  (List.range height).map buffer.row

private theorem foldl_toggleNext_true (places : List (Fin 2048)) (buffer : FrameBuffer) :
    places.foldl toggleNext (buffer, true) =
      ((places.foldl toggleNext (buffer, false)).1, true) := by
  induction places generalizing buffer with
  | nil => rfl
  | cons place rest induction =>
      cases lit : buffer.pixels[place] <;> simp [toggleNext, lit, induction]

@[simp] theorem toggleAll_nil (buffer : FrameBuffer) :
    buffer.toggleAll [] = (buffer, false) := rfl

@[simp] theorem toggleAll_cons (buffer : FrameBuffer) (place : Fin 2048)
    (rest : List (Fin 2048)) :
    buffer.toggleAll (place :: rest) =
      (((buffer.toggle place).toggleAll rest).1,
        buffer.pixels[place] || ((buffer.toggle place).toggleAll rest).2) := by
  cases lit : buffer.pixels[place] <;>
    simp [toggleAll, toggleNext, lit, foldl_toggleNext_true]

theorem pixels_toggle (buffer : FrameBuffer) (place other : Fin 2048) :
    (buffer.toggle place).pixels[other] =
      (buffer.pixels[other] ^^ decide (other = place)) := by
  simp only [toggle, Fin.getElem_fin, Vector.getElem_set, Fin.ext_iff]
  split
  · rename_i h
    simp [h]
  · rename_i h
    simp [Ne.symm h]

@[simp] theorem pixel_blank (column row : Nat) : blank.pixel column row = false := by
  simp [pixel, blank]

theorem place_eq_place_iff {column row otherColumn otherRow : Nat} :
    place column row = place otherColumn otherRow ↔
      column % 64 = otherColumn % 64 ∧ row % 32 = otherRow % 32 := by
  simp only [place, Fin.mk.injEq]
  omega

end FrameBuffer

end Chip8
