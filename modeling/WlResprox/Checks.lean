import WlResprox.Wire

set_option autoImplicit false

namespace WlResprox

-- The ways an expression can panic. `counter` is the overflow of an id counter,
-- apart from that of a usize.
inductive Panic where
  | slice
  | unwrap
  | overflow
  | counter
deriving DecidableEq, Repr

def unwrapped {α : Type} : Option α → Except Panic α
  | some a => .ok a
  | none => .error .unwrap

def summed (a b : Nat) : Except Panic Nat := if a + b < 2 ^ 64 then .ok (a + b) else .error .overflow

def lessened (a b : Nat) : Except Panic Nat := if b ≤ a then .ok (a - b) else .error .overflow

def nextMultiple (n : Nat) : Except Panic Nat :=
  if nextMultipleOf4 n < 2 ^ 64 then .ok (nextMultipleOf4 n) else .error .overflow

def sliced (buf : Bytes) (start stop : Nat) : Except Panic Bytes :=
  if start ≤ stop ∧ stop ≤ buf.length then .ok (slice buf start stop) else .error .slice

-- The conversion of a slice to the four bytes of a word.
def wordOf (bytes : Bytes) : Option UInt32 := if bytes.length = 4 then some (wordAt bytes 0) else none

def copied (buf : Bytes) (start stop : Nat) (bytes : Bytes) : Except Panic Bytes :=
  if start ≤ stop ∧ stop ≤ buf.length ∧ stop - start = bytes.length then .ok (buf.take start ++ (bytes ++ buf.drop stop))
  else .error .slice

def readWord (buf : Bytes) (start stop : Nat) : Except Panic UInt32 := do
  let bytes ← sliced buf start stop
  unwrapped (wordOf bytes)

-- A computation that can only panic on an id counter, and its result.
def Spared {α : Type} (checked : Except Panic α) (result : α) : Prop := checked = .ok result ∨ checked = .error .counter

namespace Spared

variable {α β : Type}

theorem ok {checked : Except Panic α} {result : α} (fine : checked = .ok result) : Spared checked result := .inl fine

theorem bind {checked : Except Panic α} {a : α} {f : α → Except Panic β} {b : β} (first : Spared checked a)
    (next : Spared (f a) b) : Spared (checked >>= f) b := by
  obtain rfl | rfl := first
  · exact next
  · exact .inr rfl

theorem bind_ok {checked : Except Panic α} {a : α} {f : α → Except Panic β} {b : β} (first : Spared checked a)
    (next : checked = .ok a → Spared (f a) b) : Spared (checked >>= f) b := by
  obtain rfl | rfl := first
  · exact next rfl
  · exact .inr rfl

theorem ite {c : Prop} [Decidable c] {one other : Except Panic α} {a b : α} (left : c → Spared one a)
    (right : ¬c → Spared other b) : Spared (if c then one else other) (if c then a else b) := by
  by_cases holds : c
  · simpa only [if_pos holds] using left holds
  · simpa only [if_neg holds] using right holds

end Spared

@[simp] theorem ok_bind {α β : Type} (a : α) (f : α → Except Panic β) : ((.ok a : Except Panic α) >>= f) = f a := rfl

theorem summed_ok (a b : Nat) (fits : a + b < 2 ^ 64) : summed a b = .ok (a + b) := if_pos fits

theorem lessened_ok (a b : Nat) (below : b ≤ a) : lessened a b = .ok (a - b) := if_pos below

theorem next_multiple_ok (n : Nat) (fits : n + 3 < 2 ^ 64) : nextMultiple n = .ok (nextMultipleOf4 n) :=
  if_pos (by simp only [nextMultipleOf4]; omega)

theorem sliced_ok (buf : Bytes) (start stop : Nat) (ordered : start ≤ stop) (fits : stop ≤ buf.length) :
    sliced buf start stop = .ok (slice buf start stop) := if_pos ⟨ordered, fits⟩

theorem slice_rest (buf : Bytes) (start : Nat) : slice buf start buf.length = buf.drop start := by
  rw [slice, List.take_of_length_le (by simp)]

theorem sliced_rest_ok (buf : Bytes) (start : Nat) (fits : start ≤ buf.length) :
    sliced buf start buf.length = .ok (buf.drop start) := by
  rw [sliced_ok _ _ _ fits (Nat.le_refl _), slice_rest]

theorem word_of_slice (buf : Bytes) (offset : Nat) (fits : offset + 4 ≤ buf.length) :
    wordOf (slice buf offset (offset + 4)) = some (wordAt buf offset) := by
  have word : wordAt (slice buf offset (offset + 4)) 0 = wordAt buf offset := by
    simp [wordAt, byteAt, slice, List.getElem?_drop]
  rw [wordOf, if_pos (by rw [slice_length]; omega), word]

theorem read_word_ok (buf : Bytes) (offset : Nat) (fits : offset + 4 ≤ buf.length) :
    readWord buf offset (offset + 4) = .ok (wordAt buf offset) := by
  rw [readWord, sliced_ok _ _ _ (Nat.le_add_right _ _) fits, ok_bind, word_of_slice _ _ fits, unwrapped]

theorem copied_word_ok (buf : Bytes) (offset : Nat) (v : UInt32) (fits : offset + 4 ≤ buf.length) :
    copied buf offset (offset + 4) (toNeBytes v) = .ok (setWord buf offset v) :=
  if_pos ⟨Nat.le_add_right _ _, fits, by simp⟩

end WlResprox
