import Chip8.Host
import Mathlib.Logic.Function.Iterate

namespace Chip8

/-! Buffers that are filled frame by frame. A source stands for the stream of samples that it gives
one after the other; each frame takes the next of them for all its places. -/

namespace Tone

section

variable {σ α : Type} (next : σ → α × σ) (source : σ)

/-- What is left of a source when this many samples have been drawn from it. -/
def sourceAfter (count : Nat) : σ :=
  (fun source => (next source).2)^[count] source

def sampleAt (index : Nat) : α :=
  (next (sourceAfter next source index)).1

/-- A source beside the number of samples that it has given. -/
def counted (state : σ × Nat) : α × σ × Nat :=
  ((next state.1).1, (next state.1).2, state.2 + 1)

/-- How many samples are drawn while a buffer is filled. -/
def draws (channels length : Nat) : Nat :=
  (fill channels (counted next) length (source, 0)).2.2

theorem sourceAfter_succ (count : Nat) :
    sourceAfter next source (count + 1) = sourceAfter next (next source).2 count := rfl

theorem sampleAt_succ (index : Nat) :
    sampleAt next source (index + 1) = sampleAt next (next source).2 index := rfl

end

def frameCount (channels length : Nat) : Nat :=
  (length + channels - 1) / channels

section

variable {channels : Nat} (hchannels : 0 < channels)

include hchannels

/-- A buffer loses one frame after the other, the last of which may be short. -/
theorem frame_induction {motive : Nat → Prop} (empty : motive 0)
    (frame : ∀ length, 0 < length → motive (length - channels) → motive length) (length : Nat) :
    motive length := by
  induction length using Nat.strongRecOn with
  | ind length ih =>
      rcases Nat.eq_zero_or_pos length with rfl | hlength
      · exact empty
      · exact frame length hlength (ih (length - channels) (by omega))

theorem frameCount_zero : frameCount channels 0 = 0 :=
  Nat.div_eq_of_lt (by omega)

theorem frameCount_of_pos {length : Nat} (hlength : 0 < length) :
    frameCount channels length = frameCount channels (length - channels) + 1 := by
  by_cases hshort : length ≤ channels
  · have hdrop : length + channels - 1 = length - 1 + channels := by omega
    rw [Nat.sub_eq_zero_of_le hshort, frameCount_zero hchannels, frameCount, hdrop,
      Nat.add_div_right _ hchannels, Nat.div_eq_of_lt (by omega)]
  · have hdrop : length + channels - 1 = length - channels + channels - 1 + channels := by omega
    rw [frameCount, hdrop, Nat.add_div_right _ hchannels, frameCount]

theorem frameCount_frames_add (frames rest : Nat) :
    frameCount channels (frames * channels + rest) = frames + frameCount channels rest := by
  have hlength : frames * channels + rest + channels - 1 =
      channels * frames + (rest + channels - 1) := by
    rw [Nat.mul_comm]
    omega
  rw [frameCount, hlength, Nat.mul_add_div hchannels, frameCount]

theorem frameCount_frames (frames : Nat) : frameCount channels (frames * channels) = frames := by
  simpa only [Nat.add_zero, frameCount_zero hchannels] using
    frameCount_frames_add hchannels frames 0

variable {σ α : Type} (next : σ → α × σ) (source : σ)

omit hchannels in
theorem fill_zero : fill channels next 0 source = ([], source) := by
  rw [fill, dif_neg (by omega)]

theorem fill_of_pos {length : Nat} (hlength : 0 < length) :
    fill channels next length source =
      let rest := fill channels next (length - channels) (next source).2
      (List.replicate (min channels length) (next source).1 ++ rest.1, rest.2) := by
  rw [fill, dif_pos ⟨hchannels, hlength⟩]

theorem fill_frame_add (length : Nat) :
    fill channels next (channels + length) source =
      let rest := fill channels next length (next source).2
      (List.replicate channels (next source).1 ++ rest.1, rest.2) := by
  rw [fill_of_pos hchannels next source (Nat.add_pos_left hchannels length),
    Nat.add_sub_cancel_left, Nat.min_eq_left (Nat.le_add_right channels length)]

theorem fill_frames_add (frames rest : Nat) :
    fill channels next (frames * channels + rest) source =
      let first := fill channels next (frames * channels) source
      let second := fill channels next rest first.2
      (first.1 ++ second.1, second.2) := by
  induction frames generalizing source with
  | zero => simp only [Nat.zero_mul, Nat.zero_add, fill_zero, List.nil_append]
  | succ frames ih =>
      have hlength : (frames + 1) * channels = channels + frames * channels := by
        rw [Nat.succ_mul, Nat.add_comm]
      simp only [hlength, Nat.add_assoc, fill_frame_add hchannels, ih, List.append_assoc]

theorem snd_fill (length : Nat) :
    (fill channels next length source).2 =
      sourceAfter next source (frameCount channels length) := by
  induction length using frame_induction hchannels generalizing source with
  | empty =>
      rw [fill_zero, frameCount_zero hchannels]
      rfl
  | frame length hlength ih =>
      rw [fill_of_pos hchannels next source hlength, frameCount_of_pos hchannels hlength,
        sourceAfter_succ]
      exact ih (next source).2

theorem getElem?_fill {length place : Nat} (hplace : place < length) :
    (fill channels next length source).1[place]? =
      some (sampleAt next source (place / channels)) := by
  induction length using frame_induction hchannels generalizing source place with
  | empty => exact absurd hplace (Nat.not_lt_zero place)
  | frame length hlength ih =>
      rw [fill_of_pos hchannels next source hlength, List.getElem?_append, List.length_replicate]
      by_cases hfirst : place < channels
      · rw [if_pos (by omega), List.getElem?_replicate_of_lt (by omega),
          Nat.div_eq_of_lt hfirst]
        rfl
      · have hbehind : channels ≤ place := Nat.le_of_not_lt hfirst
        have hframe : place / channels = (place - channels) / channels + 1 :=
          Nat.div_eq_sub_div hchannels hbehind
        rw [if_neg (by omega), Nat.min_eq_left (by omega), hframe, sampleAt_succ]
        exact ih (next source).2 (by omega)

theorem fill_counted (length drawn : Nat) :
    fill channels (counted next) length (source, drawn) =
      let filled := fill channels next length source
      (filled.1, filled.2, drawn + frameCount channels length) := by
  induction length using frame_induction hchannels generalizing source drawn with
  | empty => simp only [fill_zero, frameCount_zero hchannels, Nat.add_zero]
  | frame length hlength ih =>
      simp only [fill_of_pos hchannels _ _ hlength, counted, ih,
        frameCount_of_pos hchannels hlength, Nat.add_assoc, Nat.add_comm 1]

theorem draws_eq (length : Nat) :
    draws next source channels length = frameCount channels length := by
  rw [draws, fill_counted hchannels]
  exact Nat.zero_add _

end

/-- A buffer takes one sample for each of its frames, the last of which may be short, and no other;
each place holds the sample of its frame in the wanted format. So a buffer of whole frames and one
that is filled after it hold what one buffer of their joint length holds, and draw as many. -/
theorem frames_take_samples_in_order {σ α β : Type} (convert : α → β) (next : σ → α × σ)
    (source : σ) {channels : Nat} (hchannels : 0 < channels) :
    (∀ length : Nat,
      let out := (fill channels next length source).1.map convert
      let frames := (length + channels - 1) / channels
      out.length = length ∧
        (∀ place < length, out[place]? = some (convert (sampleAt next source (place / channels)))) ∧
        draws next source channels length = frames ∧
        (fill channels next length source).2 = sourceAfter next source frames) ∧
      ∀ frames rest : Nat,
        let first := fill channels next (frames * channels) source
        let second := fill channels next rest first.2
        let whole := fill channels next (frames * channels + rest) source
        first.1.map convert ++ second.1.map convert = whole.1.map convert ∧
          draws next source channels (frames * channels) + draws next first.2 channels rest =
            draws next source channels (frames * channels + rest) ∧
          second.2 = whole.2 := by
  constructor
  · intro length out frames
    refine ⟨?_, fun place hplace => ?_, draws_eq hchannels next source length,
      snd_fill hchannels next source length⟩
    · rw [List.length_map, length_fill hchannels]
    · rw [List.getElem?_map, getElem?_fill hchannels next source hplace, Option.map_some]
  · intro frames rest first second whole
    have hwhole : whole = (first.1 ++ second.1, second.2) :=
      fill_frames_add hchannels next source frames rest
    refine ⟨?_, ?_, ?_⟩
    · rw [hwhole, List.map_append]
    · rw [draws_eq hchannels, draws_eq hchannels, draws_eq hchannels,
        frameCount_frames hchannels, frameCount_frames_add hchannels]
    · rw [hwhole]

/-- Two channels, and a buffer that ends within a frame. -/
theorem frames_take_samples_in_order_short_last :
    let next := fun samples : List Nat => (samples.headD 0, samples.tail)
    let out := (fill 2 next 5 [10, 20, 30, 40]).1.map (· + 128)
    0 < 2 ∧ out.length = 5 ∧ out[3]? = some 148 ∧ out[4]? = some 158 ∧
      draws next [10, 20, 30, 40] 2 5 = 3 ∧ (fill 2 next 5 [10, 20, 30, 40]).2 = [40] ∧
      (fill 2 next 4 [10, 20, 30, 40]).1.map (· + 128) ++
        (fill 2 next 1 (fill 2 next 4 [10, 20, 30, 40]).2).1.map (· + 128) = out := by
  intro next out
  have hchannels : 0 < 2 := by decide
  obtain ⟨hbuffer, hbuffers⟩ :=
    frames_take_samples_in_order (· + 128) next [10, 20, 30, 40] hchannels
  obtain ⟨hlength, hplaces, hdraws, hleft⟩ := hbuffer 5
  exact ⟨hchannels, hlength, hplaces 3 (by decide), hplaces 4 (by decide), hdraws, hleft,
    (hbuffers 2 1).1⟩

end Tone

/-- What a device hears does not depend on where between two frames its requests part. -/
theorem Host.Stream.pull_frames_add (stream : Stream) (hchannels : 0 < stream.channels)
    (frames rest : Nat) :
    stream.pull (frames * stream.channels + rest) =
      let first := stream.pull (frames * stream.channels)
      let second := first.2.pull rest
      (first.1 ++ second.1, second.2) := by
  simp only [pull, Tone.fill_frames_add hchannels, List.map_append]

end Chip8
