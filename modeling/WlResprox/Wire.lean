import WlResprox.Words

set_option autoImplicit false

namespace WlResprox

def headerLen : Nat := 8

-- The identity of an open file description. A tee is the write end of the pipe
-- whose reader copies everything on to `real`.
inductive Fd where
  | received (serial : Nat)
  | tee (real : Fd)
deriving DecidableEq, Repr

structure MessageHeader where
  senderId : UInt32
  opcode : UInt16
  length : UInt16
deriving DecidableEq, Repr

def MessageHeader.parse (buf : Bytes) : Option MessageHeader :=
  if buf.length < headerLen then none
  else some ⟨wordAt buf 0, (wordAt buf 4).toUInt16, (wordAt buf 4 >>> 16).toUInt16⟩

def MessageHeader.messageLen (header : MessageHeader) : Nat := header.length.toNat

def writeSenderId (msg : Bytes) (newId : UInt32) : Bytes := setWord msg 0 newId

def takeMessage (buf : Bytes) : Option (Bytes × Nat) :=
  match MessageHeader.parse buf with
  | none => none
  | some header =>
      let len := header.messageLen
      if len < headerLen ∨ buf.length < len then none else some (buf.take len, len)

def putU32 (buf : Bytes) (v : UInt32) : Bytes := buf ++ toNeBytes v

def buildMessage (senderId : UInt32) (opcode : UInt16) (payload : Bytes) : Bytes :=
  let length := UInt16.ofNat (headerLen + payload.length)
  putU32 (putU32 [] senderId) ((length.toUInt32 <<< 16) ||| opcode.toUInt32) ++ payload

def nextMultipleOf4 (n : Nat) : Nat := (n + 3) / 4 * 4

def asBytes (s : String) : Bytes := s.toUTF8.data.toList

def fromUtf8 (bytes : Bytes) : Option String := String.fromUTF8? ⟨bytes.toArray⟩

def putStr (buf : Bytes) (s : String) : Bytes :=
  let withNulLen := (asBytes s).length + 1
  putU32 buf (UInt32.ofNat withNulLen) ++ asBytes s ++ [0] ++ List.replicate (nextMultipleOf4 withNulLen - withNulLen) 0

def putArray (buf : Bytes) (bytes : Bytes) : Bytes :=
  putU32 buf (UInt32.ofNat bytes.length) ++ bytes ++ List.replicate (nextMultipleOf4 bytes.length - bytes.length) 0

-- Only the shape of an argument is read anywhere; whether a string or an
-- object may be null is not.
inductive ArgumentType where
  | int
  | uint
  | fixed
  | str
  | object
  | newId
  | array
  | fd
deriving DecidableEq, Repr

inductive WaylandValue where
  | int (v : Int32)
  | uint (v : UInt32)
  | fixed (v : Int32)
  | string (s : String)
  | object (v : UInt32)
  | newId (v : UInt32)
  | array (bytes : Bytes)
  | fd (fd : Fd)
deriving DecidableEq

inductive EncodeError where
  | countMismatch (expected got : Nat)
  | typeMismatch (index : Nat) (expected : ArgumentType) (got : WaylandValue)
deriving DecidableEq

def encodeArgument : ArgumentType → WaylandValue → Option (Bytes × List Fd)
  | .int, .int v => some (putU32 [] v.toUInt32, [])
  | .uint, .uint v => some (putU32 [] v, [])
  | .fixed, .fixed v => some (putU32 [] v.toUInt32, [])
  | .str, .string s => some (putStr [] s, [])
  | .object, .object v => some (putU32 [] v, [])
  | .newId, .newId v => some (putU32 [] v, [])
  | .array, .array bytes => some (putArray [] bytes, [])
  | .fd, .fd fd => some ([], [fd])
  | _, _ => none

def encodeFrom (index : Nat) : List (ArgumentType × WaylandValue) → Except EncodeError (Bytes × List Fd)
  | [] => .ok ([], [])
  | (argType, value) :: rest =>
      match encodeArgument argType value with
      | none => .error (.typeMismatch index argType value)
      | some (bytes, fds) =>
          match encodeFrom (index + 1) rest with
          | .error e => .error e
          | .ok (payload, later) => .ok (bytes ++ payload, fds ++ later)

def encodeArguments (signature : List ArgumentType) (values : List WaylandValue) :
    Except EncodeError (Bytes × List Fd) :=
  if values.length ≠ signature.length then .error (.countMismatch signature.length values.length)
  else encodeFrom 0 (signature.zip values)

def readU32 (payload : Bytes) (offset : Nat) : Option UInt32 :=
  if offset + 4 ≤ payload.length then some (wordAt payload offset) else none

def readStr (payload : Bytes) (offset : Nat) : Option (String × Nat) :=
  match readU32 payload offset with
  | none => none
  | some word =>
      let len := word.toNat
      let start := offset + 4
      if start + len ≤ payload.length then
        (fromUtf8 (slice payload start (start + (len - 1)))).map fun s => (s, start + nextMultipleOf4 len)
      else none

theorem take_message_spec (buf msg : Bytes) (consumed : Nat) (taken : takeMessage buf = some (msg, consumed)) :
    headerLen ≤ consumed ∧ consumed ≤ buf.length ∧ msg = buf.take consumed := by
  unfold takeMessage at taken
  split at taken
  · simp at taken
  · rename_i header parsed
    dsimp only at taken
    split at taken
    · simp at taken
    · rename_i bounds
      simp only [Option.some.injEq, Prod.mk.injEq] at taken
      obtain ⟨rfl, rfl⟩ := taken
      exact ⟨by omega, by omega, rfl⟩

theorem take_message_length (buf msg : Bytes) (consumed : Nat) (taken : takeMessage buf = some (msg, consumed)) :
    msg.length = consumed := by
  obtain ⟨_, bound, rfl⟩ := take_message_spec buf msg consumed taken
  simp [bound]

theorem parse_isSome (buf : Bytes) (long : headerLen ≤ buf.length) :
    MessageHeader.parse buf = some ⟨wordAt buf 0, (wordAt buf 4).toUInt16, (wordAt buf 4 >>> 16).toUInt16⟩ := by
  simp [MessageHeader.parse, Nat.not_lt.mpr long]

-- Framing only reads the header, so bytes that arrive later never change the
-- message that is already complete.
theorem take_message_append (buf later msg : Bytes) (consumed : Nat) (taken : takeMessage buf = some (msg, consumed)) :
    takeMessage (buf ++ later) = some (msg, consumed) := by
  obtain ⟨long, bound, whole⟩ := take_message_spec buf msg consumed taken
  have words : ∀ offset, offset + 4 ≤ headerLen → wordAt (buf ++ later) offset = wordAt buf offset := by
    intro offset inside
    exact word_at_append_left buf later offset (by omega)
  have lengths : consumed = (wordAt buf 4 >>> 16).toUInt16.toNat := by
    rw [takeMessage, parse_isSome buf (by omega)] at taken
    dsimp only [MessageHeader.messageLen] at taken
    split at taken
    · simp at taken
    · simp only [Option.some.injEq, Prod.mk.injEq] at taken
      exact taken.2.symm
  rw [takeMessage, parse_isSome _ (by simp; omega), words 0 (by decide), words 4 (by decide)]
  dsimp only [MessageHeader.messageLen]
  rw [← lengths, if_neg (by simp; omega), whole, List.take_append_of_le_length bound]

theorem build_message_length (senderId : UInt32) (opcode : UInt16) (payload : Bytes) :
    (buildMessage senderId opcode payload).length = headerLen + payload.length := by
  simp [buildMessage, putU32, headerLen]
  omega

theorem build_message_sender (senderId : UInt32) (opcode : UInt16) (payload : Bytes) :
    wordAt (buildMessage senderId opcode payload) 0 = senderId := by
  simp only [buildMessage, putU32, List.nil_append, List.append_assoc]
  exact word_at_to_ne_bytes senderId _

theorem build_message_word (senderId : UInt32) (opcode : UInt16) (payload : Bytes) :
    wordAt (buildMessage senderId opcode payload) 4 =
      ((UInt16.ofNat (headerLen + payload.length)).toUInt32 <<< 16) ||| opcode.toUInt32 := by
  simp only [buildMessage, putU32, List.nil_append, List.append_assoc]
  have skip := word_at_append_right (toNeBytes senderId)
    (toNeBytes (((UInt16.ofNat (headerLen + payload.length)).toUInt32 <<< 16) ||| opcode.toUInt32) ++ payload) 0
  rw [to_ne_bytes_length] at skip
  rw [skip, word_at_to_ne_bytes]

theorem packed_word_opcode (length opcode : UInt16) :
    ((length.toUInt32 <<< 16) ||| opcode.toUInt32).toUInt16 = opcode := by
  have small := opcode.toNat_lt
  apply UInt16.toNat_inj.mp
  simp only [UInt32.toNat_toUInt16, UInt32.toNat_or, UInt32.toNat_shiftLeft, UInt16.toNat_toUInt32]
  have packed := Nat.shiftLeft_add_eq_or_of_lt small length.toNat
  have bound := length.toNat_lt
  have sixteen : UInt32.toNat 16 % 32 = 16 := rfl
  simp only [Nat.shiftLeft_eq, sixteen] at packed ⊢
  rw [Nat.mod_eq_of_lt (by omega : length.toNat * 2 ^ 16 < 2 ^ 32), ← packed]
  omega

theorem packed_word_length (length opcode : UInt16) :
    (((length.toUInt32 <<< 16) ||| opcode.toUInt32) >>> 16).toUInt16 = length := by
  have small := opcode.toNat_lt
  apply UInt16.toNat_inj.mp
  simp only [UInt32.toNat_toUInt16, UInt32.toNat_or, UInt32.toNat_shiftLeft, UInt16.toNat_toUInt32, UInt32.toNat_shiftRight]
  have packed := Nat.shiftLeft_add_eq_or_of_lt small length.toNat
  have bound := length.toNat_lt
  have sixteen : UInt32.toNat 16 % 32 = 16 := rfl
  simp only [Nat.shiftLeft_eq, Nat.shiftRight_eq_div_pow, sixteen] at packed ⊢
  rw [Nat.mod_eq_of_lt (by omega : length.toNat * 2 ^ 16 < 2 ^ 32), ← packed]
  omega

theorem parse_build_message (senderId : UInt32) (opcode : UInt16) (payload : Bytes) :
    MessageHeader.parse (buildMessage senderId opcode payload) =
      some ⟨senderId, opcode, UInt16.ofNat (headerLen + payload.length)⟩ := by
  rw [parse_isSome _ (by simp [build_message_length]), build_message_sender, build_message_word, packed_word_opcode,
    packed_word_length]

theorem build_message_payload (senderId : UInt32) (opcode : UInt16) (payload : Bytes) :
    (buildMessage senderId opcode payload).drop headerLen = payload := by
  simp [buildMessage, putU32, headerLen, toNeBytes]

end WlResprox
