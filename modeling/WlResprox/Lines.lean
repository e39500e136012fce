import Mathlib.Data.List.Basic

set_option autoImplicit false

namespace WlResprox

universe u

-- Parts that do not contain the separator can be told apart again.
section Parts

variable {α : Type u} [BEq α] [LawfulBEq α] (sep : α)

theorem joined_injective (parts parts' : List (List α)) (filled : parts ≠ []) (filled' : parts' ≠ []) (absent : ∀ part ∈ parts, sep ∉ part)
    (absent' : ∀ part ∈ parts', sep ∉ part) (same : [sep].intercalate parts = [sep].intercalate parts') : parts = parts' := by
  rw [← List.splitOn_intercalate sep absent filled, same, List.splitOn_intercalate sep absent' filled']

omit [BEq α] [LawfulBEq α] in
theorem joined_free (other : α) (apart : other ≠ sep) (parts : List (List α)) (absent : ∀ part ∈ parts, other ∉ part) :
    other ∉ [sep].intercalate parts := by
  induction parts with
  | nil => simp
  | cons part rest ih =>
      have here := absent part List.mem_cons_self
      have behind := ih fun p member => absent p (List.mem_cons_of_mem _ member)
      cases rest with
      | nil => simpa using here
      | cons next rest =>
          rw [List.intercalate_cons_cons]
          simp [here, apart, behind]

def terminated (parts : List (List α)) : List α := parts.flatMap fun part => part ++ [sep]

omit [BEq α] [LawfulBEq α] in
-- Behind the last separator there is one empty part.
theorem terminated_joined (parts : List (List α)) : terminated sep parts = [sep].intercalate (parts ++ [[]]) := by
  induction parts with
  | nil => rfl
  | cons part rest ih =>
      rw [terminated, List.flatMap_cons, ← terminated, ih]
      cases rest <;> simp [List.intercalate]

theorem terminated_injective (parts parts' : List (List α)) (absent : ∀ part ∈ parts, sep ∉ part) (absent' : ∀ part ∈ parts', sep ∉ part)
    (same : terminated sep parts = terminated sep parts') : parts = parts' := by
  rw [terminated_joined, terminated_joined] at same
  have ended : ∀ list : List (List α), (∀ part ∈ list, sep ∉ part) → ∀ part ∈ list ++ [[]], sep ∉ part := by
    intro list free part member
    rcases List.mem_append.mp member with inside | last
    · exact free part inside
    · simp [List.mem_singleton.mp last]
  exact List.append_cancel_right (joined_injective sep _ _ (by simp) (by simp) (ended parts absent) (ended parts' absent') same)

end Parts

section Numbers

def decimal (n : Nat) : List Char := Nat.toDigits 10 n

theorem decimal_injective (n n' : Nat) (same : decimal n = decimal n') : n = n' := by
  have value : ∀ k, Nat.ofDigitChars 10 (decimal k) 0 = k := fun k => Nat.ofDigitChars_ten_toDigits
  rw [← value n, same, value]

theorem decimal_digits (n : Nat) (c : Char) (member : c ∈ decimal n) : c.isDigit = true :=
  Nat.isDigit_of_mem_toDigits (by decide) (by decide) member

-- At least so many digits, with zeros in front.
def zeroPadded (width n : Nat) : List Char := List.replicate (width - (decimal n).length) '0' ++ decimal n

theorem zero_padded_digits (width n : Nat) (c : Char) (member : c ∈ zeroPadded width n) : c.isDigit = true := by
  rcases List.mem_append.mp member with zero | digit
  · rw [(List.mem_replicate.mp zero).2]
    rfl
  · exact decimal_digits n c digit

theorem zero_padded_injective (width n n' : Nat) (same : zeroPadded width n = zeroPadded width n') : n = n' := by
  have value : ∀ k, Nat.ofDigitChars 10 (zeroPadded width k) 0 = k := by
    intro k
    rw [zeroPadded, Nat.ofDigitChars_append, Nat.ofDigitChars_replicate_zero, Nat.mul_zero]
    exact Nat.ofDigitChars_ten_toDigits
  rw [← value n, same, value]

def hexPair (byte : UInt8) : List Char := [Nat.digitChar (byte.toNat / 16), Nat.digitChar (byte.toNat % 16)]

def hexEncode (bytes : List UInt8) : List Char := bytes.flatMap hexPair

theorem digit_char_injective (n n' : Nat) (small : n < 16) (small' : n' < 16) (same : Nat.digitChar n = Nat.digitChar n') : n = n' := by
  have each : ∀ a b : Fin 16, Nat.digitChar a = Nat.digitChar b → a = b := by decide
  exact congrArg Fin.val (each ⟨n, small⟩ ⟨n', small'⟩ same)

theorem hex_encode_injective (bytes bytes' : List UInt8) (same : hexEncode bytes = hexEncode bytes') : bytes = bytes' := by
  induction bytes generalizing bytes' with
  | nil =>
      cases bytes' with
      | nil => rfl
      | cons byte' rest' => simp [hexEncode, hexPair] at same
  | cons byte rest ih =>
      cases bytes' with
      | nil => simp [hexEncode, hexPair] at same
      | cons byte' rest' =>
          simp only [hexEncode, hexPair, List.flatMap_cons, List.cons_append, List.nil_append, List.cons.injEq] at same
          obtain ⟨high, low, behind⟩ := same
          have bound := byte.toNat_lt
          have bound' := byte'.toNat_lt
          have high := digit_char_injective _ _ (by omega) (by omega) high
          have low := digit_char_injective _ _ (by omega) (by omega) low
          have value : byte = byte' := UInt8.toNat_inj.mp (by omega)
          rw [value, ih rest' behind]

-- No digit of a byte is blank space.
theorem hex_encode_digits (bytes : List UInt8) (c : Char) (member : c ∈ hexEncode bytes) : c.isAlphanum = true := by
  obtain ⟨byte, -, digit⟩ := List.mem_flatMap.mp member
  have each : ∀ a : Fin 16, (Nat.digitChar a).isAlphanum = true := by decide
  have bound := byte.toNat_lt
  simp only [hexPair, List.mem_cons, List.not_mem_nil, or_false] at digit
  rcases digit with rfl | rfl
  · exact each ⟨byte.toNat / 16, by omega⟩
  · exact each ⟨byte.toNat % 16, by omega⟩

end Numbers

end WlResprox
