import Mathlib.Algebra.Group.Nat.Defs
import Mathlib.Data.List.Basic
import Mathlib.Tactic.Common

set_option autoImplicit false

namespace WlResprox

-- Byte buffers and the 32-bit words in them. Native byte order is taken to be
-- little-endian, as on every machine the packages are built for.
abbrev Bytes := List UInt8

def toNeBytes (v : UInt32) : Bytes := [v.toUInt8, (v >>> 8).toUInt8, (v >>> 16).toUInt8, (v >>> 24).toUInt8]

def fromNeBytes (a b c d : UInt8) : UInt32 :=
  UInt32.ofNat (a.toNat + 256 * b.toNat + 65536 * c.toNat + 16777216 * d.toNat)

def byteAt (buf : Bytes) (i : Nat) : UInt8 := buf[i]?.getD 0

def wordAt (buf : Bytes) (offset : Nat) : UInt32 :=
  fromNeBytes (byteAt buf offset) (byteAt buf (offset + 1)) (byteAt buf (offset + 2)) (byteAt buf (offset + 3))

def setWord (buf : Bytes) (offset : Nat) (v : UInt32) : Bytes :=
  buf.take offset ++ (toNeBytes v ++ buf.drop (offset + 4))

def slice (buf : Bytes) (start stop : Nat) : Bytes := (buf.drop start).take (stop - start)

@[simp] theorem to_ne_bytes_length (v : UInt32) : (toNeBytes v).length = 4 := rfl

theorem from_to_ne_bytes (v : UInt32) :
    fromNeBytes v.toUInt8 (v >>> 8).toUInt8 (v >>> 16).toUInt8 (v >>> 24).toUInt8 = v := by
  have bound := v.toNat_lt
  have shift8 : (v >>> 8).toNat = v.toNat / 256 := by
    simp [UInt32.toNat_shiftRight, Nat.shiftRight_eq_div_pow]
  have shift16 : (v >>> 16).toNat = v.toNat / 65536 := by
    simp [UInt32.toNat_shiftRight, Nat.shiftRight_eq_div_pow]
  have shift24 : (v >>> 24).toNat = v.toNat / 16777216 := by
    simp [UInt32.toNat_shiftRight, Nat.shiftRight_eq_div_pow]
  apply UInt32.toNat_inj.mp
  simp only [fromNeBytes, UInt32.toNat_ofNat', UInt32.toNat_toUInt8, shift8, shift16, shift24]
  omega

theorem to_from_ne_bytes (a b c d : UInt8) : toNeBytes (fromNeBytes a b c d) = [a, b, c, d] := by
  have word : (fromNeBytes a b c d).toNat = a.toNat + 256 * b.toNat + 65536 * c.toNat + 16777216 * d.toNat := by
    have first := a.toNat_lt
    have second := b.toNat_lt
    have third := c.toNat_lt
    have fourth := d.toNat_lt
    rw [fromNeBytes, UInt32.toNat_ofNat']
    omega
  have first := a.toNat_lt
  have second := b.toNat_lt
  have third := c.toNat_lt
  have fourth := d.toNat_lt
  simp only [toNeBytes, List.cons.injEq, and_true]
  refine ⟨?_, ?_, ?_, ?_⟩
  all_goals
    apply UInt8.toNat_inj.mp
    simp only [UInt32.toNat_toUInt8, UInt32.toNat_shiftRight, Nat.shiftRight_eq_div_pow, word]
    simp
    omega

@[simp] theorem set_word_length (buf : Bytes) (offset : Nat) (v : UInt32) (fits : offset + 4 ≤ buf.length) :
    (setWord buf offset v).length = buf.length := by
  simp [setWord]
  omega

theorem byte_at_set_word (buf : Bytes) (offset i : Nat) (v : UInt32) (fits : offset + 4 ≤ buf.length)
    (outside : i < offset ∨ offset + 4 ≤ i) : byteAt (setWord buf offset v) i = byteAt buf i := by
  have head : (buf.take offset).length = offset := by simp; omega
  rcases outside with before | after
  · simp only [byteAt, setWord]
    rw [List.getElem?_append_left (by omega), List.getElem?_take_of_lt before]
  · simp only [byteAt, setWord]
    rw [List.getElem?_append_right (by omega), List.getElem?_append_right (by simp [head]; omega), List.getElem?_drop]
    congr 2
    simp [head]
    omega

theorem byte_at_set_word_inside (buf : Bytes) (offset i : Nat) (v : UInt32) (fits : offset + 4 ≤ buf.length)
    (inside : i < 4) : byteAt (setWord buf offset v) (offset + i) = (toNeBytes v)[i]?.getD 0 := by
  have head : (buf.take offset).length = offset := by simp; omega
  simp only [byteAt, setWord]
  rw [List.getElem?_append_right (by omega), List.getElem?_append_left (by simp [head]; omega), head]
  congr 2
  omega

theorem byte_at_set_word_copied (buf other : Bytes) (offset i : Nat) (fits : offset + 4 ≤ buf.length) (inside : i < 4) :
    byteAt (setWord buf offset (wordAt other offset)) (offset + i) = byteAt other (offset + i) := by
  rw [byte_at_set_word_inside buf offset i _ fits inside, wordAt, to_from_ne_bytes]
  obtain rfl | rfl | rfl | rfl : i = 0 ∨ i = 1 ∨ i = 2 ∨ i = 3 := by omega
  all_goals rfl

theorem byte_at_word (a b : Bytes) (offset i : Nat) (fits : offset + 4 ≤ a.length) (same : wordAt a offset = wordAt b offset)
    (inside : i < 4) : byteAt a (offset + i) = byteAt b (offset + i) := by
  rw [← byte_at_set_word_copied a a offset i fits inside, same, byte_at_set_word_copied a b offset i fits inside]

theorem word_at_set_word (buf : Bytes) (offset : Nat) (v : UInt32) (fits : offset + 4 ≤ buf.length) :
    wordAt (setWord buf offset v) offset = v := by
  have first := byte_at_set_word_inside buf offset 0 v fits (by omega)
  have second := byte_at_set_word_inside buf offset 1 v fits (by omega)
  have third := byte_at_set_word_inside buf offset 2 v fits (by omega)
  have fourth := byte_at_set_word_inside buf offset 3 v fits (by omega)
  rw [Nat.add_zero] at first
  simp only [wordAt, first, second, third, fourth]
  exact from_to_ne_bytes v

theorem word_at_set_word_apart (buf : Bytes) (offset other : Nat) (v : UInt32) (fits : offset + 4 ≤ buf.length)
    (apart : other + 4 ≤ offset ∨ offset + 4 ≤ other) : wordAt (setWord buf offset v) other = wordAt buf other := by
  simp only [wordAt]
  rw [byte_at_set_word buf offset other v fits (by omega), byte_at_set_word buf offset (other + 1) v fits (by omega),
    byte_at_set_word buf offset (other + 2) v fits (by omega), byte_at_set_word buf offset (other + 3) v fits (by omega)]

theorem byte_ext (a b : Bytes) (lengths : a.length = b.length) (bytes : ∀ i, byteAt a i = byteAt b i) : a = b := by
  apply List.ext_getElem lengths
  intro i left right
  have here := bytes i
  simpa [byteAt, left, right] using here

theorem slice_length (buf : Bytes) (start stop : Nat) : (slice buf start stop).length = min (stop - start) (buf.length - start) := by
  simp [slice]

theorem byte_at_slice (buf : Bytes) (start stop i : Nat) :
    byteAt (slice buf start stop) i = if i < stop - start then byteAt buf (start + i) else 0 := by
  by_cases inside : i < stop - start
  · simp [slice, byteAt, inside, List.getElem?_take_of_lt inside]
  · simp [slice, byteAt, List.getElem?_take, inside]

theorem slice_set_word (buf : Bytes) (offset start stop : Nat) (v : UInt32) (fits : offset + 4 ≤ buf.length)
    (apart : stop ≤ offset ∨ offset + 4 ≤ start) : slice (setWord buf offset v) start stop = slice buf start stop := by
  apply byte_ext
  · simp only [slice_length, set_word_length buf offset v fits]
  · intro i
    simp only [byte_at_slice]
    by_cases inside : i < stop - start
    · rw [if_pos inside, if_pos inside, byte_at_set_word buf offset (start + i) v fits (by omega)]
    · rw [if_neg inside, if_neg inside]

theorem drop_set_word (buf : Bytes) (offset skip : Nat) (v : UInt32) (fits : skip + offset + 4 ≤ buf.length) :
    (setWord buf (skip + offset) v).drop skip = setWord (buf.drop skip) offset v := by
  have head : skip ≤ (buf.take (skip + offset)).length := by simp; omega
  simp only [setWord]
  rw [List.drop_append_of_le_length head, List.drop_take, List.drop_drop]
  congr 2
  · omega

theorem byte_at_drop (buf : Bytes) (i skip : Nat) : byteAt (buf.drop skip) i = byteAt buf (skip + i) := by
  simp [byteAt, List.getElem?_drop]

theorem word_at_drop (buf : Bytes) (offset skip : Nat) : wordAt (buf.drop skip) offset = wordAt buf (skip + offset) := by
  simp [wordAt, byteAt, List.getElem?_drop, Nat.add_assoc]

theorem word_at_append_left (a b : Bytes) (offset : Nat) (fits : offset + 4 ≤ a.length) :
    wordAt (a ++ b) offset = wordAt a offset := by
  simp only [wordAt, byteAt]
  rw [List.getElem?_append_left (by omega), List.getElem?_append_left (by omega), List.getElem?_append_left (by omega),
    List.getElem?_append_left (by omega)]

theorem word_at_append_right (a b : Bytes) (offset : Nat) : wordAt (a ++ b) (a.length + offset) = wordAt b offset := by
  simp [wordAt, byteAt, List.getElem?_append_right, Nat.add_assoc]

theorem word_at_to_ne_bytes (v : UInt32) (rest : Bytes) : wordAt (toNeBytes v ++ rest) 0 = v := by
  simpa [wordAt, byteAt, toNeBytes] using from_to_ne_bytes v

end WlResprox
