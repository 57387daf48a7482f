import Chip8.FrameBuffer
import Mathlib.Algebra.GroupWithZero.Nat
import Mathlib.Algebra.Ring.Parity
import Mathlib.Data.Bool.Basic
import Mathlib.Data.List.Nodup

namespace Chip8

namespace FrameBuffer

/-- How many set bits of a sprite fall on a pixel. -/
def hits (x y : UInt8) (sprite : List UInt8) (column row : Nat) : Nat :=
  (sprite.zipIdx.map fun (bits, i) =>
    (List.range 8).countP fun j =>
      bits.toNat.testBit (7 - j) ∧
        (x.toNat % 64 + j) % 64 = column ∧ (y.toNat % 32 + i) % 32 = row).sum

theorem decide_odd_add (first second : Nat) :
    decide (Odd (first + second)) = (decide (Odd first) ^^ decide (Odd second)) := by
  rw [Bool.eq_iff_iff, decide_eq_true_iff, Nat.odd_add', ← Nat.not_odd_iff_even]
  by_cases hfirst : Odd first <;> by_cases hsecond : Odd second <;> simp [hfirst, hsecond]

theorem pixel_toggle (buffer : FrameBuffer) (toggled : Fin 2048) (column row : Nat) :
    (buffer.toggle toggled).pixel column row =
      (buffer.pixel column row ^^ decide (place column row = toggled)) :=
  buffer.pixels_toggle toggled (place column row)

theorem pixel_toggleAll (buffer : FrameBuffer) (places : List (Fin 2048)) (column row : Nat) :
    (buffer.toggleAll places).1.pixel column row =
      (buffer.pixel column row ^^ decide (Odd (places.count (place column row)))) := by
  induction places generalizing buffer with
  | nil => simp
  | cons head rest ih =>
      rw [toggleAll_cons, ih, pixel_toggle, List.count_cons, Nat.add_comm, decide_odd_add,
        Bool.xor_assoc]
      congr 2
      by_cases hplace : place column row = head
      · simp [hplace]
      · simp [hplace, Ne.symm hplace]

theorem count_spritePlaces (x y : UInt8) (sprite : List UInt8) (column : Fin 64) (row : Fin 32) :
    (spritePlaces x y sprite).count (place column row) = hits x y sprite column row := by
  rw [spritePlaces, hits, List.count_flatMap]
  congr 2
  funext entry
  obtain ⟨bits, i⟩ := entry
  simp only [Function.comp, List.count, List.countP_map, setColumns, List.countP_filter]
  congr 1
  funext j
  rw [Bool.eq_iff_iff, Bool.and_eq_true, beq_iff_eq, place_eq_place_iff, decide_eq_true_iff,
    Nat.mod_eq_of_lt column.isLt, Nat.mod_eq_of_lt row.isLt]
  exact and_comm

theorem pixel_paint (buffer : FrameBuffer) (x y : UInt8) (sprite : List UInt8)
    (column : Fin 64) (row : Fin 32) :
    (buffer.paint x y sprite).1.pixel column row =
      (buffer.pixel column row ^^ decide (Odd (hits x y sprite column row))) := by
  rw [paint, pixel_toggleAll, count_spritePlaces]

theorem exists_place_eq (place : Fin 2048) :
    ∃ (column : Fin 64) (row : Fin 32), FrameBuffer.place column row = place := by
  refine ⟨⟨place % 64, Nat.mod_lt _ (by decide)⟩, ⟨place / 64, by omega⟩, ?_⟩
  apply Fin.ext
  simp only [FrameBuffer.place]
  omega

theorem eq_of_pixel_eq {first second : FrameBuffer}
    (hpixels : ∀ (column : Fin 64) (row : Fin 32),
      first.pixel column row = second.pixel column row) : first = second := by
  obtain ⟨pixels⟩ := first
  obtain ⟨otherPixels⟩ := second
  congr
  apply Vector.ext
  intro i hi
  obtain ⟨column, row, hplace⟩ := exists_place_eq ⟨i, hi⟩
  have hpixel := hpixels column row
  simp only [pixel, hplace] at hpixel
  exact hpixel

/-- One of the toggles of a pixel meets it lit. -/
def GoesOut (buffer : FrameBuffer) (places : List (Fin 2048)) (column row : Nat) : Prop :=
  2 ≤ places.count (place column row) ∨
    (buffer.pixel column row = true ∧ 1 ≤ places.count (place column row))

theorem goesOut_cons_iff (buffer : FrameBuffer) (head : Fin 2048) (rest : List (Fin 2048))
    (column row : Nat) :
    buffer.GoesOut (head :: rest) column row ↔
      (place column row = head ∧ buffer.pixel column row = true) ∨
        (buffer.toggle head).GoesOut rest column row := by
  simp only [GoesOut, pixel_toggle, List.count_cons, beq_iff_eq]
  by_cases hplace : place column row = head
  · -- The first toggle has turned the pixel round, so that the rest meets what it was not.
    subst hplace
    generalize rest.count (place column row) = count
    cases buffer.pixel column row with
    | true => simp
    | false =>
        simp only [Bool.false_eq_true, false_and, and_false, or_false, false_or, if_true,
          decide_true, Bool.xor_true, Bool.not_false, true_and]
        omega
  · simp [hplace, Ne.symm hplace]

theorem collided_toggleAll_iff (buffer : FrameBuffer) (places : List (Fin 2048)) :
    (buffer.toggleAll places).2 = true ↔
      ∃ (column : Fin 64) (row : Fin 32), buffer.GoesOut places column row := by
  induction places generalizing buffer with
  | nil => simp [GoesOut]
  | cons head rest ih =>
      have hhead : buffer.pixels[head] = true ↔
          ∃ (column : Fin 64) (row : Fin 32),
            place column row = head ∧ buffer.pixel column row = true := by
        constructor
        · intro hlit
          obtain ⟨column, row, rfl⟩ := exists_place_eq head
          exact ⟨column, row, rfl, hlit⟩
        · rintro ⟨column, row, rfl, hlit⟩
          exact hlit
      rw [toggleAll_cons, Bool.or_eq_true, ih, hhead]
      simp only [goesOut_cons_iff, exists_or]

/-- Drawing toggles each pixel as often as set bits of the sprite fall on it, and reports a
collision exactly when some pixel is hit twice, or is hit and was lit. -/
theorem paint_follows_hits (buffer : FrameBuffer) (x y : UInt8) (sprite : List UInt8) :
    (∀ (column : Fin 64) (row : Fin 32),
      (buffer.paint x y sprite).1.pixel column row = true ↔
        Xor (buffer.pixel column row = true) (Odd (hits x y sprite column row))) ∧
      ((buffer.paint x y sprite).2 = true ↔
        ∃ (column : Fin 64) (row : Fin 32),
          2 ≤ hits x y sprite column row ∨
            (buffer.pixel column row = true ∧ 1 ≤ hits x y sprite column row)) := by
  constructor
  · intro column row
    rw [pixel_paint, Bool.coe_xor_iff, decide_eq_true_iff]
  · simp only [paint, collided_toggleAll_iff, GoesOut, count_spritePlaces]

def bitCount (sprite : List UInt8) : Nat :=
  (sprite.map fun bits => (List.range 8).countP fun bit => bits.toNat.testBit bit).sum

/-- How many of the toggles meet their pixel lit, and so put it out. -/
def putOut (buffer : FrameBuffer) : List (Fin 2048) → Nat
  | [] => 0
  | place :: rest => (buffer.pixels.get place).toNat + (buffer.toggle place).putOut rest

theorem length_setColumns (bits : UInt8) :
    (setColumns bits).length = (List.range 8).countP fun bit => bits.toNat.testBit bit := by
  have hreverse : (List.range 8).reverse = (List.range 8).map (7 - ·) := by decide
  rw [← List.countP_reverse, hreverse, List.countP_map, setColumns, List.countP_eq_length_filter]
  rfl

theorem length_spritePlaces (x y : UInt8) (sprite : List UInt8) :
    (spritePlaces x y sprite).length = bitCount sprite := by
  have hrows : (sprite.zipIdx.map fun entry => (setColumns entry.1).length) =
      sprite.map fun bits => (setColumns bits).length := by
    rw [← Function.comp_def (fun bits => (setColumns bits).length) Prod.fst, ← List.map_map,
      List.zipIdx_map_fst]
  calc
    (spritePlaces x y sprite).length =
        (sprite.zipIdx.map fun entry => (setColumns entry.1).length).sum := by
      simp only [spritePlaces, List.length_flatMap, List.length_map]
    _ = bitCount sprite := by rw [hrows, bitCount, funext length_setColumns]

theorem lit_toggle (buffer : FrameBuffer) (place : Fin 2048) :
    (buffer.toggle place).lit + 2 * (buffer.pixels.get place).toNat = buffer.lit + 1 := by
  have hpixel : buffer.pixels[place.val] = buffer.pixels.get place := rfl
  simp only [lit, toggle, Vector.count_toList, Vector.count_set, Fin.getElem_fin, hpixel]
  cases hlit : buffer.pixels.get place with
  | false => simp
  | true =>
      have hcounted : 0 < buffer.pixels.count true :=
        Vector.count_pos_iff.mpr (Vector.mem_of_getElem (hpixel.trans hlit))
      have hwithout : buffer.pixels.count true - 1 + 1 = buffer.pixels.count true :=
        Nat.sub_add_cancel hcounted
      simp [hwithout]

theorem lit_toggleAll (buffer : FrameBuffer) (places : List (Fin 2048)) :
    (buffer.toggleAll places).1.lit + 2 * buffer.putOut places = buffer.lit + places.length := by
  induction places generalizing buffer with
  | nil => rfl
  | cons place rest ih =>
      have hfirst := buffer.lit_toggle place
      have hrest := ih (buffer.toggle place)
      simp only [toggleAll_cons, putOut, List.length_cons]
      omega

theorem collided_toggleAll_iff_putOut (buffer : FrameBuffer) (places : List (Fin 2048)) :
    (buffer.toggleAll places).2 = true ↔ 0 < buffer.putOut places := by
  induction places generalizing buffer with
  | nil => simp [putOut]
  | cons place rest ih =>
      have hpixel : buffer.pixels[place] = buffer.pixels.get place := rfl
      rw [toggleAll_cons, Bool.or_eq_true, ih, hpixel, putOut, Nat.add_pos_iff_pos_or_pos]
      cases buffer.pixels.get place <;> simp

/-- Drawing lights at most one pixel for each set bit, misses that number by an even one, and
reports a collision exactly when it misses it. -/
theorem paint_conserves_lit (buffer : FrameBuffer) (x y : UInt8) (sprite : List UInt8) :
    let after := (buffer.paint x y sprite).1
    after.lit ≤ buffer.lit + bitCount sprite ∧
      after.lit % 2 = (buffer.lit + bitCount sprite) % 2 ∧
      ((buffer.paint x y sprite).2 = true ↔ after.lit < buffer.lit + bitCount sprite) := by
  intro after
  have hlit : after.lit + 2 * buffer.putOut (spritePlaces x y sprite) =
      buffer.lit + bitCount sprite := by
    rw [← length_spritePlaces x y]
    exact buffer.lit_toggleAll (spritePlaces x y sprite)
  have hcollided := buffer.collided_toggleAll_iff_putOut (spritePlaces x y sprite)
  refine ⟨?_, ?_, hcollided.trans ?_⟩ <;> omega

/-- A set bit of the sprite falls on a pixel that is in the given state. -/
def Meets (buffer : FrameBuffer) (x y : UInt8) (sprite : List UInt8) (lit : Bool) : Prop :=
  ∃ (column : Fin 64) (row : Fin 32),
    0 < hits x y sprite column row ∧ buffer.pixel column row = lit

theorem paint_paint (buffer : FrameBuffer) (x y : UInt8) (sprite : List UInt8) :
    ((buffer.paint x y sprite).1.paint x y sprite).1 = buffer := by
  apply eq_of_pixel_eq
  intro column row
  rw [pixel_paint, pixel_paint, Bool.xor_assoc, Bool.xor_self, Bool.xor_false]

section Short

variable {x y : UInt8} {sprite : List UInt8}

theorem mem_setColumns_lt {bits : UInt8} {column : Nat} (hcolumn : column ∈ setColumns bits) :
    column < 8 :=
  List.mem_range.mp (List.mem_filter.mp hcolumn).1

theorem nodup_spritePlaces (hshort : sprite.length ≤ 32) : (spritePlaces x y sprite).Nodup := by
  have hrows : sprite.zipIdx.Pairwise fun first second => first.2 < second.2 := by
    rw [← List.pairwise_map, List.zipIdx_map_snd]
    exact List.pairwise_lt_range'
  refine List.nodup_flatMap.mpr ⟨?_, hrows.imp_of_mem ?_⟩
  · rintro ⟨bits, row⟩ -
    refine List.Nodup.map_on ?_ (List.nodup_range.filter _)
    intro column hcolumn other hother hplace
    have hfirst := mem_setColumns_lt hcolumn
    have hsecond := mem_setColumns_lt hother
    have hsame := (place_eq_place_iff.mp hplace).1
    omega
  · rintro ⟨bits, row⟩ ⟨otherBits, otherRow⟩ hfirst hsecond hlt place hplace hother
    obtain ⟨column, -, rfl⟩ := List.mem_map.mp hplace
    obtain ⟨otherColumn, -, hsame⟩ := List.mem_map.mp hother
    have hrow := (place_eq_place_iff.mp hsame).2
    have hbound := List.snd_lt_of_mem_zipIdx hfirst
    have hotherBound := List.snd_lt_of_mem_zipIdx hsecond
    simp only at hlt hbound hotherBound
    omega

theorem hits_le_one (hshort : sprite.length ≤ 32) (column : Fin 64) (row : Fin 32) :
    hits x y sprite column row ≤ 1 := by
  rw [← count_spritePlaces]
  exact List.nodup_iff_count_le_one.mp (nodup_spritePlaces hshort) _

theorem collided_paint_iff_of_length_le (buffer : FrameBuffer) (hshort : sprite.length ≤ 32) :
    (buffer.paint x y sprite).2 = true ↔ buffer.Meets x y sprite true := by
  simp only [paint, collided_toggleAll_iff, GoesOut, count_spritePlaces, Meets]
  refine exists_congr fun column => exists_congr fun row => ?_
  have honce := hits_le_one (x := x) (y := y) hshort column row
  constructor
  · rintro (htwice | ⟨hlit, hhit⟩)
    · omega
    · exact ⟨hhit, hlit⟩
  · rintro ⟨hhit, hlit⟩
    exact .inr ⟨hlit, hhit⟩

/-- The first drawing has turned every pixel that it met. -/
theorem meets_paint_iff (buffer : FrameBuffer) (hshort : sprite.length ≤ 32) :
    (buffer.paint x y sprite).1.Meets x y sprite true ↔ buffer.Meets x y sprite false := by
  refine exists_congr fun column => exists_congr fun row => and_congr_right fun hhit => ?_
  have honce : hits x y sprite column row = 1 :=
    Nat.le_antisymm (hits_le_one hshort column row) hhit
  rw [pixel_paint, honce]
  cases buffer.pixel column row <;> decide

end Short

theorem exists_hits_pos (x y : UInt8) {sprite : List UInt8} (hbits : 0 < bitCount sprite) :
    ∃ (column : Fin 64) (row : Fin 32), 0 < hits x y sprite column row := by
  rw [← length_spritePlaces x y] at hbits
  obtain ⟨place, hplace⟩ := List.exists_mem_of_length_pos hbits
  obtain ⟨column, row, rfl⟩ := exists_place_eq place
  refine ⟨column, row, ?_⟩
  rw [← count_spritePlaces]
  exact List.count_pos_iff.mpr hplace

theorem exists_meets (buffer : FrameBuffer) (x y : UInt8) {sprite : List UInt8}
    (hbits : 0 < bitCount sprite) : ∃ lit, buffer.Meets x y sprite lit := by
  obtain ⟨column, row, hhit⟩ := exists_hits_pos x y hbits
  exact ⟨buffer.pixel column row, column, row, hhit, rfl⟩

end FrameBuffer

end Chip8
