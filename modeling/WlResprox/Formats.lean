import WlResprox.Encoding
import Mathlib.Data.List.Induction

set_option autoImplicit false

namespace WlResprox

namespace WaylandValue

def kind : WaylandValue → ArgumentType
  | .int _ => .int
  | .uint _ => .uint
  | .fixed _ => .fixed
  | .string _ => .str
  | .object _ => .object
  | .newId _ => .newId
  | .array _ => .array
  | .fd _ => .fd

def bytes : WaylandValue → Bytes
  | .int v | .fixed v => toNeBytes v.toUInt32
  | .uint v | .object v | .newId v => toNeBytes v
  | .string s => putStr [] s
  | .array data => putArray [] data
  | .fd _ => []

def fds : WaylandValue → List Fd
  | .fd own => [own]
  | _ => []

-- What the readers find between two offsets of a payload. Nothing in the
-- program reads an array back, so its bytes are looked at directly.
def ReadAt (payload : Bytes) (offset stop : Nat) : WaylandValue → Prop
  | .int v | .fixed v => readU32 payload offset = some v.toUInt32
  | .uint v | .object v | .newId v => readU32 payload offset = some v
  | .string s => readStr payload offset = some (s, stop)
  | .array data => readU32 payload offset = some (UInt32.ofNat data.length) ∧
      slice payload (offset + 4) (offset + 4 + data.length) = data
  | .fd _ => stop = offset

end WaylandValue

-- Where the encoded arguments of one kind start, from a given offset on.
def offsetsOf (kind : ArgumentType) : Nat → List WaylandValue → List Nat
  | _, [] => []
  | start, value :: rest =>
      (if value.kind = kind then [start] else []) ++ offsetsOf kind (start + value.bytes.length) rest

def extent (values : List WaylandValue) : Nat := (values.flatMap WaylandValue.bytes).length

theorem extent_append (before after : List WaylandValue) : extent (before ++ after) = extent before + extent after := by
  simp [extent, List.flatMap_append]

theorem extent_single (value : WaylandValue) : extent [value] = value.bytes.length := by simp [extent]

theorem offsets_of_append (kind : ArgumentType) (start : Nat) (before after : List WaylandValue) :
    offsetsOf kind start (before ++ after) = offsetsOf kind start before ++ offsetsOf kind (start + extent before) after := by
  induction before generalizing start with
  | nil => rfl
  | cons value rest ih =>
      have further : start + extent (value :: rest) = start + value.bytes.length + extent rest := by
        rw [← List.singleton_append, extent_append, extent_single, Nat.add_assoc]
      rw [List.cons_append, offsetsOf, ih, offsetsOf, further, List.append_assoc]

theorem offsets_of_count (kind : ArgumentType) (start : Nat) (values : List WaylandValue) :
    (offsetsOf kind start values).length = (values.map WaylandValue.kind).count kind := by
  induction values generalizing start with
  | nil => rfl
  | cons value rest ih =>
      rw [offsetsOf, List.length_append, ih, List.map_cons, List.count_cons]
      by_cases same : value.kind = kind <;> simp [same, Nat.add_comm]

theorem encode_argument_iff (argType : ArgumentType) (value : WaylandValue) (bytes : Bytes) (fds : List Fd) :
    encodeArgument argType value = some (bytes, fds) ↔ value.kind = argType ∧ bytes = value.bytes ∧ fds = value.fds := by
  cases argType <;> cases value <;>
    simp [encodeArgument, WaylandValue.kind, WaylandValue.bytes, WaylandValue.fds, putU32, eq_comm]

theorem encode_from_iff (index : Nat) (pairs : List (ArgumentType × WaylandValue)) (payload : Bytes) (fds : List Fd) :
    encodeFrom index pairs = .ok (payload, fds) ↔ (∀ pair ∈ pairs, pair.2.kind = pair.1) ∧
      payload = (pairs.map Prod.snd).flatMap WaylandValue.bytes ∧ fds = (pairs.map Prod.snd).flatMap WaylandValue.fds := by
  induction pairs generalizing index payload fds with
  | nil =>
      simp only [encodeFrom, Except.ok.injEq, Prod.mk.injEq, List.map_nil, List.flatMap_nil, List.not_mem_nil, false_implies,
        implies_true, true_and]
      exact and_congr eq_comm eq_comm
  | cons pair rest ih =>
      obtain ⟨argType, value⟩ := pair
      simp only [encodeFrom, List.forall_mem_cons, List.map_cons, List.flatMap_cons]
      cases one : encodeArgument argType value with
      | none =>
          have mismatch : value.kind ≠ argType := fun same => by
            have found := (encode_argument_iff argType value value.bytes value.fds).mpr ⟨same, rfl, rfl⟩
            rw [one] at found
            cases found
          simp [mismatch]
      | some encoded =>
          obtain ⟨same, first, own⟩ := (encode_argument_iff argType value encoded.1 encoded.2).mp one
          simp only [same, true_and]
          constructor
          · intro ok
            split at ok
            · cases ok
            · rename_i later others remaining
              cases ok
              obtain ⟨kinds, rfl, rfl⟩ := (ih _ _ _).mp remaining
              exact ⟨kinds, by rw [first], by rw [own]⟩
          · rintro ⟨kinds, rfl, rfl⟩
            rw [(ih (index + 1) _ _).mpr ⟨kinds, rfl, rfl⟩, first, own]

-- Encoding succeeds exactly on values of the signature's kinds, and then every
-- value contributes its own bytes and descriptors in order.
theorem encode_arguments_iff (signature : List ArgumentType) (values : List WaylandValue) (payload : Bytes) (fds : List Fd) :
    encodeArguments signature values = .ok (payload, fds) ↔ values.map WaylandValue.kind = signature ∧
      payload = values.flatMap WaylandValue.bytes ∧ fds = values.flatMap WaylandValue.fds := by
  unfold encodeArguments
  split
  · rename_i lengths
    have unlike : values.map WaylandValue.kind ≠ signature := fun same => lengths (by rw [← same, List.length_map])
    simp [unlike]
  · rename_i same
    have lengths : values.length = signature.length := by simpa using same
    have kinds : (∀ pair ∈ signature.zip values, pair.2.kind = pair.1) ↔ values.map WaylandValue.kind = signature := by
      clear same
      induction signature generalizing values with
      | nil => simp [List.length_eq_zero_iff.mp lengths]
      | cons argType signature ih =>
          cases values with
          | nil => cases lengths
          | cons value values =>
              simp only [List.zip_cons_cons, List.forall_mem_cons, List.map_cons, List.cons.injEq,
                ih values (by simpa using lengths)]
    rw [encode_from_iff, kinds, List.map_snd_zip (by omega)]

theorem read_u32_encoded (pre post : Bytes) (v : UInt32) : readU32 (pre ++ (toNeBytes v ++ post)) pre.length = some v := by
  rw [readU32, if_pos (by simp), word_at_encoded]

theorem read_str_encoded (pre post : Bytes) (s : String) (small : (putStr [] s).length < 2 ^ 32) :
    readStr (pre ++ (putStr [] s ++ post)) pre.length = some (s, pre.length + (putStr [] s).length) := by
  have padded : (asBytes s).length + 1 ≤ nextMultipleOf4 ((asBytes s).length + 1) := by
    simp only [nextMultipleOf4]
    omega
  have size : (putStr [] s).length = 4 + nextMultipleOf4 ((asBytes s).length + 1) := by
    simp [putStr, putU32]
    omega
  obtain ⟨tail, shape⟩ : ∃ tail, putStr [] s ++ post = toNeBytes (UInt32.ofNat ((asBytes s).length + 1)) ++ (asBytes s ++ tail) := by
    simp only [putStr, putU32, List.nil_append, List.append_assoc]
    exact ⟨_, rfl⟩
  have word : (UInt32.ofNat ((asBytes s).length + 1)).toNat = (asBytes s).length + 1 := by
    rw [UInt32.toNat_ofNat']
    omega
  have text : slice (pre ++ (putStr [] s ++ post)) (pre.length + 4) (pre.length + 4 + ((asBytes s).length + 1 - 1)) = asBytes s := by
    rw [shape, slice, ← List.append_assoc, List.drop_left' (by simp), List.take_left' (by omega)]
  have read : readU32 (pre ++ (putStr [] s ++ post)) pre.length = some (UInt32.ofNat ((asBytes s).length + 1)) := by
    rw [shape, read_u32_encoded]
  have fits : pre.length + 4 + ((asBytes s).length + 1) ≤ (pre ++ (putStr [] s ++ post)).length := by
    simp only [List.length_append, size]
    omega
  simp only [readStr, read, word, if_pos fits, text, from_as_bytes, Option.map_some, size]
  rw [Nat.add_assoc]

theorem read_array_encoded (pre post data : Bytes) :
    readU32 (pre ++ (putArray [] data ++ post)) pre.length = some (UInt32.ofNat data.length) ∧
      slice (pre ++ (putArray [] data ++ post)) (pre.length + 4) (pre.length + 4 + data.length) = data := by
  obtain ⟨tail, shape⟩ : ∃ tail, putArray [] data ++ post = toNeBytes (UInt32.ofNat data.length) ++ (data ++ tail) := by
    simp only [putArray, putU32, List.nil_append, List.append_assoc]
    exact ⟨_, rfl⟩
  rw [shape]
  refine ⟨read_u32_encoded _ _ _, ?_⟩
  rw [slice, ← List.append_assoc, List.drop_left' (by simp), List.take_left' (by omega)]

-- A reader finds a value where its encoding starts, whatever is around it.
theorem read_at_encoded (pre post : Bytes) (value : WaylandValue) (small : value.bytes.length < 2 ^ 32) :
    value.ReadAt (pre ++ (value.bytes ++ post)) pre.length (pre.length + value.bytes.length) := by
  cases value with
  | int v | uint v | fixed v | object v | newId v => exact read_u32_encoded _ _ _
  | string s => exact read_str_encoded pre post s small
  | array data => exact read_array_encoded pre post data
  | fd fd => rfl

def walkStart : WalkState := ⟨0, ⟨none, [], 0, none⟩⟩

-- What a walk that has passed `before` knows.
structure Passed (before : List WaylandValue) (st : WalkState) : Prop where
  offset : st.offset = extent before
  objects : st.walk.objectOffsets = offsetsOf .object 0 before
  newId : st.walk.newIdOffset = (offsetsOf .newId 0 before).getLast?
  fdCount : st.walk.fdCount = (before.flatMap WaylandValue.fds).length

theorem passed_start : Passed [] walkStart := ⟨rfl, rfl, rfl, rfl⟩

theorem Passed.step {before : List WaylandValue} {st next : WalkState} {payload : Bytes} {value : WaylandValue}
    (passed : Passed before st) (walked : walkArgument payload st value.kind = .ok next)
    (stop : next.offset = extent (before ++ [value])) : Passed (before ++ [value]) next := by
  have strides := walk_argument_strides payload st next value.kind walked
  refine ⟨stop, ?_, ?_, ?_⟩
  · rw [strides.objects, offsets_of_append, passed.objects, passed.offset, offsetsOf, offsetsOf, List.append_nil, Nat.zero_add]
  · rw [offsets_of_append, offsetsOf, offsetsOf, List.append_nil, Nat.zero_add]
    by_cases newId : value.kind = .newId
    · rw [strides.newId newId, if_pos newId, List.getLast?_concat, passed.offset]
    · rw [strides.notNewId newId, if_neg newId, List.append_nil, passed.newId]
  · rw [strides.fdCount, passed.fdCount, List.flatMap_append, List.length_append]
    cases value <;> rfl

theorem walk_from_snoc (payload : Bytes) (st middle next : WalkState) (before : List ArgumentType) (argType : ArgumentType)
    (walked : walkFrom payload st before = .ok middle) :
    walkFrom payload st (before ++ [argType]) = .ok next ↔ walkArgument payload middle argType = .ok next := by
  rw [walkFrom] at walked
  rw [walkFrom, List.foldlM_append, walked]
  show (walkArgument payload middle argType >>= fun last => .ok last) = .ok next ↔ _
  cases walkArgument payload middle argType <;> exact Iff.rfl

section Encoded

variable (values : List WaylandValue) (small : extent values < 2 ^ 32)

include small

-- The walk of the encoded values, argument by argument: it stands where the
-- next encoding starts.
theorem walk_encoded_prefix (before after : List WaylandValue) (split : values = before ++ after) :
    ∃ st, walkFrom (values.flatMap WaylandValue.bytes) walkStart (before.map WaylandValue.kind) = .ok st ∧ Passed before st := by
  induction before using List.reverseRecOn generalizing after with
  | nil => exact ⟨walkStart, rfl, passed_start⟩
  | append_singleton before value ih =>
      obtain ⟨st, walked, passed⟩ := ih (value :: after) (by simpa using split)
      have shape : values.flatMap WaylandValue.bytes =
          before.flatMap WaylandValue.bytes ++ (value.bytes ++ after.flatMap WaylandValue.bytes) := by
        simp [split]
      have encoded := (encode_argument_iff value.kind value value.bytes value.fds).mpr ⟨rfl, rfl, rfl⟩
      obtain ⟨next, onward, stop, -⟩ := walk_encoded_argument (before.flatMap WaylandValue.bytes) (after.flatMap WaylandValue.bytes)
        value.bytes value.fds value.kind value st encoded passed.offset (by rw [← shape]; exact small)
      rw [← shape] at onward
      refine ⟨next, ?_, passed.step onward (by rw [stop, extent_append, extent_single, extent])⟩
      rw [List.map_append]
      exact (walk_from_snoc _ _ st next _ value.kind walked).mpr onward

theorem read_encoded (before after : List WaylandValue) (value : WaylandValue) (split : values = before ++ value :: after) :
    value.ReadAt (values.flatMap WaylandValue.bytes) (extent before) (extent (before ++ [value])) := by
  have own : value.bytes.length < 2 ^ 32 := by
    rw [split, ← List.singleton_append, extent_append, extent_append, extent_single] at small
    omega
  have read := read_at_encoded (before.flatMap WaylandValue.bytes) (after.flatMap WaylandValue.bytes) value own
  rw [extent_append, extent_single]
  simpa [split, extent] using read

end Encoded

theorem take_built_message (sender : UInt32) (opcode : UInt16) (payload rest : Bytes) (small : payload.length ≤ 65527) :
    takeMessage (buildMessage sender opcode payload ++ rest) =
      some (buildMessage sender opcode payload, headerLen + payload.length) := by
  have sized : (UInt16.ofNat (headerLen + payload.length)).toNat = headerLen + payload.length := by
    rw [UInt16.toNat_ofNat']
    simp only [headerLen]
    omega
  have alone : takeMessage (buildMessage sender opcode payload) =
      some (buildMessage sender opcode payload, headerLen + payload.length) := by
    rw [takeMessage, parse_build_message]
    simp only [MessageHeader.messageLen, sized]
    rw [if_neg (by rw [build_message_length]; omega), List.take_of_length_le (Nat.le_of_eq (build_message_length sender opcode payload))]
  exact take_message_append _ rest _ _ alone

-- Encoder, framer, walker and readers agree on where every argument of an
-- encoded message is and what it says.
structure Readable (sender : UInt32) (opcode : UInt16) (signature : List ArgumentType) (values : List WaylandValue)
    (payload : Bytes) (fds : List Fd) (rest : Bytes) (last : WalkState) : Prop where
  framed : takeMessage (buildMessage sender opcode payload ++ rest) =
    some (buildMessage sender opcode payload, headerLen + payload.length)
  parsed : ∃ header, MessageHeader.parse (buildMessage sender opcode payload ++ rest) = some header ∧
    header.senderId = sender ∧ header.opcode = opcode ∧ header.messageLen = headerLen + payload.length
  walked : walkFrom payload walkStart signature = .ok last
  consumed : last.offset = payload.length
  objects : last.walk.objectOffsets = offsetsOf .object 0 values
  newId : last.walk.newIdOffset.toList = offsetsOf .newId 0 values
  fdCount : last.walk.fdCount = fds.length
  arguments : ∀ before value after, values = before ++ value :: after →
    ∃ st next, walkFrom payload walkStart (before.map WaylandValue.kind) = .ok st ∧
      walkArgument payload st value.kind = .ok next ∧ value.ReadAt payload st.offset next.offset

theorem parse_append (buf later : Bytes) (header : MessageHeader) (parsed : MessageHeader.parse buf = some header) :
    MessageHeader.parse (buf ++ later) = some header := by
  have long : headerLen ≤ buf.length := by
    by_contra short
    rw [MessageHeader.parse, if_pos (by omega)] at parsed
    cases parsed
  have bound := long
  simp only [headerLen] at bound
  rw [parse_isSome buf long] at parsed
  rw [parse_isSome _ (by simp; omega), word_at_append_left buf later 0 (by omega), word_at_append_left buf later 4 (by omega), parsed]

theorem walk_signature_start (payload : Bytes) (signature : List ArgumentType) :
    walkSignature payload signature = (walkFrom payload walkStart signature).map WalkState.walk := rfl

theorem formats_agree (sender : UInt32) (opcode : UInt16) (signature : List ArgumentType) (values : List WaylandValue)
    (single : signature.count .newId ≤ 1) :
    ((∃ payload fds, encodeArguments signature values = .ok (payload, fds)) ↔ values.map WaylandValue.kind = signature) ∧
    ∀ payload fds, encodeArguments signature values = .ok (payload, fds) → payload.length ≤ 65527 → ∀ rest,
      ∃ last, walkSignature payload signature = .ok last.walk ∧
        Readable sender opcode signature values payload fds rest last := by
  constructor
  · constructor
    · rintro ⟨payload, fds, ok⟩
      exact ((encode_arguments_iff _ _ _ _).mp ok).1
    · exact fun kinds => ⟨_, _, (encode_arguments_iff _ _ _ _).mpr ⟨kinds, rfl, rfl⟩⟩
  · intro payload fds ok small rest
    obtain ⟨kinds, rfl, rfl⟩ := (encode_arguments_iff _ _ _ _).mp ok
    have bounded : extent values < 2 ^ 32 := by
      rw [extent]
      omega
    obtain ⟨last, walked, passed⟩ := walk_encoded_prefix values bounded values [] (by simp)
    rw [kinds] at walked
    have framed := take_built_message sender opcode _ rest small
    refine ⟨last, by rw [walk_signature_start, walked]; rfl, framed, ?_, walked, passed.offset, passed.objects, ?_,
      passed.fdCount, ?_⟩
    · refine ⟨_, parse_append _ rest _ (parse_build_message sender opcode _), rfl, rfl, ?_⟩
      rw [MessageHeader.messageLen, UInt16.toNat_ofNat']
      simp only [headerLen]
      omega
    · have few := offsets_of_count .newId 0 values
      rw [kinds] at few
      rw [passed.newId]
      rcases located : offsetsOf .newId 0 values with _ | ⟨offset, _ | ⟨second, more⟩⟩
      · rfl
      · rfl
      · rw [located] at few
        simp only [List.length_cons] at few
        omega
    · intro before value after split
      obtain ⟨st, there, here⟩ := walk_encoded_prefix values bounded before (value :: after) split
      obtain ⟨next, further, beyond⟩ := walk_encoded_prefix values bounded (before ++ [value]) after (by simpa using split)
      rw [List.map_append] at further
      have onward := (walk_from_snoc _ _ st next _ value.kind there).mp further
      refine ⟨st, next, there, onward, ?_⟩
      rw [here.offset, beyond.offset]
      exact read_encoded values bounded before after value split

theorem formats_agree_bind :
    ∃ payload fds last, encodeArguments [.uint, .str, .uint, .newId] [.uint 7, .string "wl_seat", .uint 5, .newId 9] =
        .ok (payload, fds) ∧ walkSignature payload [.uint, .str, .uint, .newId] = .ok last.walk ∧
      Readable 2 0 [.uint, .str, .uint, .newId] [.uint 7, .string "wl_seat", .uint 5, .newId 9] payload fds [1, 2] last := by
  obtain ⟨matching, readable⟩ := formats_agree 2 0 [.uint, .str, .uint, .newId]
    [.uint 7, .string "wl_seat", .uint 5, .newId 9] (by decide)
  obtain ⟨payload, fds, encoded⟩ := matching.mpr rfl
  have small : payload.length ≤ 65527 := by
    rw [((encode_arguments_iff _ _ _ _).mp encoded).2.1]
    decide +kernel
  obtain ⟨last, walked, reads⟩ := readable payload fds encoded small [1, 2]
  exact ⟨payload, fds, last, encoded, walked, reads⟩

end WlResprox
