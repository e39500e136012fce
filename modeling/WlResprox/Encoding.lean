import WlResprox.Walks

set_option autoImplicit false

namespace WlResprox

def objectValue : WaylandValue → Option UInt32
  | .object v => some v
  | _ => none

def newIdValue : WaylandValue → Option UInt32
  | .newId v => some v
  | _ => none

def stringValue : WaylandValue → Option String
  | .string s => some s
  | _ => none

theorem from_as_bytes (s : String) : fromUtf8 (asBytes s) = some s := by
  simp only [fromUtf8, asBytes, String.fromUTF8?, String.toUTF8_eq_toByteArray, Array.toArray_toList]
  rw [dif_pos s.isValidUTF8]
  rfl

theorem as_from_utf8 (bytes : Bytes) (s : String) (text : fromUtf8 bytes = some s) : asBytes s = bytes := by
  unfold fromUtf8 String.fromUTF8? at text
  split at text
  · cases text
    exact List.toList_toArray
  · cases text

theorem advance_fits (payload : Bytes) (offset width : Nat) (small : payload.length < 2 ^ 32)
    (fits : offset + width ≤ payload.length) : advance payload offset width = .ok (offset + width) := by
  have representable : offset + width < 2 ^ 64 := by omega
  have enough : ¬ payload.length < offset + width := by omega
  simp only [advance, checkedAdd, if_pos representable, if_neg enough]

-- A walk over encoded values locates those that are words.
structure ReadsBack (payload : Bytes) (st last : WalkState) (values : List WaylandValue) : Prop where
  objects : last.walk.objectOffsets.map (wordAt payload) =
    st.walk.objectOffsets.map (wordAt payload) ++ values.filterMap objectValue
  newId : last.walk.newIdOffset.map (wordAt payload) =
    (values.filterMap newIdValue).getLast?.or (st.walk.newIdOffset.map (wordAt payload))
  dynamicName : last.walk.dynamicInterfaceName = st.walk.dynamicInterfaceName.or (values.filterMap stringValue).head?

theorem ReadsBack.trans {payload : Bytes} {st next last : WalkState} {value : WaylandValue} {values : List WaylandValue}
    (first : ReadsBack payload st next [value]) (later : ReadsBack payload next last values) :
    ReadsBack payload st last (value :: values) where
  objects := by
    rw [later.objects, first.objects, List.append_assoc, ← List.filterMap_append]
    rfl
  newId := by
    rw [later.newId, first.newId, ← Option.or_assoc, ← List.getLast?_append, ← List.filterMap_append]
    rfl
  dynamicName := by
    rw [later.dynamicName, first.dynamicName, Option.or_assoc, ← List.head?_append, ← List.filterMap_append]
    rfl

theorem word_at_encoded (pre post : Bytes) (v : UInt32) : wordAt (pre ++ (toNeBytes v ++ post)) pre.length = v := by
  have skip := word_at_append_right pre (toNeBytes v ++ post) 0
  rw [Nat.add_zero] at skip
  rw [skip, word_at_to_ne_bytes]

theorem put_str_length (buf : Bytes) (s : String) :
    (putStr buf s).length = buf.length + 4 + nextMultipleOf4 ((asBytes s).length + 1) := by
  have padded : (asBytes s).length + 1 ≤ nextMultipleOf4 ((asBytes s).length + 1) := by
    simp only [nextMultipleOf4]
    omega
  simp only [putStr, putU32, List.length_append, to_ne_bytes_length, List.length_replicate, List.length_singleton]
  omega

-- A string is read from no less room than it takes up, padding included.
theorem walked_string_room (payload : Bytes) (s : String) (stop : Nat) (walk : SignatureWalk)
    (read : readStr payload 0 = some (s, stop)) (walked : walkSignature payload [.str] = .ok walk) :
    (putStr [] s).length ≤ max payload.length 8 := by
  have padded : 4 + nextMultipleOf4 (wordAt payload 0).toNat ≤ payload.length := by
    obtain ⟨last, from_start, -⟩ := walk_signature_from payload _ walk walked
    obtain ⟨next, ok, -⟩ := walk_from_cons payload _ last .str [] from_start
    simp only [walkArgument] at ok
    split at ok
    · cases ok
    · rename_i lenEnd first
      split at ok
      · cases ok
      · rename_i dataEnd second
        obtain ⟨rfl, -⟩ := advance_ok _ _ _ _ first
        have fits := (advance_ok _ _ _ _ second).2
        simpa using fits
  have short : (asBytes s).length ≤ (wordAt payload 0).toNat - 1 := by
    unfold readStr readU32 at read
    split at read
    · cases read
    · rename_i word found
      split at found
      · cases found
        dsimp only at read
        split at read
        · obtain ⟨text, decoded, same⟩ := Option.map_eq_some_iff.mp read
          cases same
          rw [as_from_utf8 _ _ decoded, slice_length]
          omega
        · cases read
      · cases found
  rw [put_str_length, List.length_nil]
  simp only [nextMultipleOf4] at padded ⊢
  omega

theorem walk_encoded_string (pre post : Bytes) (s : String) (st : WalkState) (here : st.offset = pre.length)
    (small : (pre ++ (putStr [] s ++ post)).length < 2 ^ 32) :
    ∃ next, walkArgument (pre ++ (putStr [] s ++ post)) st .str = .ok next ∧
      next.offset = pre.length + (putStr [] s).length ∧ ReadsBack (pre ++ (putStr [] s ++ post)) st next [.string s] := by
  have padded : (asBytes s).length + 1 ≤ nextMultipleOf4 ((asBytes s).length + 1) := by
    simp only [nextMultipleOf4]
    omega
  have size : (putStr [] s).length = 4 + nextMultipleOf4 ((asBytes s).length + 1) := by
    simp [putStr, putU32]
    omega
  have bound : (asBytes s).length + 1 < 2 ^ 32 := by
    simp only [List.length_append, size] at small
    omega
  obtain ⟨tail, shape⟩ : ∃ tail, putStr [] s ++ post = toNeBytes (UInt32.ofNat ((asBytes s).length + 1)) ++ (asBytes s ++ tail) := by
    simp only [putStr, putU32, List.nil_append, List.append_assoc]
    exact ⟨_, rfl⟩
  have word : (wordAt (pre ++ (putStr [] s ++ post)) pre.length).toNat = (asBytes s).length + 1 := by
    rw [shape, word_at_encoded, UInt32.toNat_ofNat']
    omega
  have text : slice (pre ++ (putStr [] s ++ post)) (pre.length + 4) (pre.length + 4 + ((asBytes s).length + 1) - 1) = asBytes s := by
    rw [shape, slice, ← List.append_assoc, List.drop_left' (by simp), List.take_left' (by omega)]
  have length : advance (pre ++ (putStr [] s ++ post)) pre.length 4 = .ok (pre.length + 4) :=
    advance_fits _ _ _ small (by simp only [List.length_append, size]; omega)
  have data : advance (pre ++ (putStr [] s ++ post)) (pre.length + 4) (nextMultipleOf4 ((asBytes s).length + 1)) =
      .ok (pre.length + 4 + nextMultipleOf4 ((asBytes s).length + 1)) :=
    advance_fits _ _ _ small (by simp only [List.length_append, size]; omega)
  simp only [walkArgument, here, length, word, data, text, from_as_bytes]
  split
  · rename_i first
    exact ⟨_, rfl, by dsimp only; omega, ⟨by simp [objectValue], by simp [newIdValue], by simp [first.2.1, stringValue]⟩⟩
  · rename_i named
    refine ⟨_, rfl, by dsimp only; omega, ⟨by simp [objectValue], by simp [newIdValue], ?_⟩⟩
    have known : st.walk.dynamicInterfaceName ≠ none := fun absent => named ⟨trivial, absent, by omega⟩
    obtain ⟨name, is⟩ := Option.ne_none_iff_exists'.mp known
    simp [is]

theorem walk_encoded_array (pre post data : Bytes) (st : WalkState) (here : st.offset = pre.length)
    (small : (pre ++ (putArray [] data ++ post)).length < 2 ^ 32) :
    ∃ next, walkArgument (pre ++ (putArray [] data ++ post)) st .array = .ok next ∧
      next.offset = pre.length + (putArray [] data).length ∧ ReadsBack (pre ++ (putArray [] data ++ post)) st next [.array data] := by
  have padded : data.length ≤ nextMultipleOf4 data.length := by
    simp only [nextMultipleOf4]
    omega
  have size : (putArray [] data).length = 4 + nextMultipleOf4 data.length := by
    simp [putArray, putU32]
    omega
  have bound : data.length < 2 ^ 32 := by
    simp only [List.length_append, size] at small
    omega
  obtain ⟨tail, shape⟩ : ∃ tail, putArray [] data ++ post = toNeBytes (UInt32.ofNat data.length) ++ tail := by
    simp only [putArray, putU32, List.nil_append, List.append_assoc]
    exact ⟨_, rfl⟩
  have word : (wordAt (pre ++ (putArray [] data ++ post)) pre.length).toNat = data.length := by
    rw [shape, word_at_encoded, UInt32.toNat_ofNat']
    omega
  have length : advance (pre ++ (putArray [] data ++ post)) pre.length 4 = .ok (pre.length + 4) :=
    advance_fits _ _ _ small (by simp only [List.length_append, size]; omega)
  have stop : advance (pre ++ (putArray [] data ++ post)) (pre.length + 4) (nextMultipleOf4 data.length) =
      .ok (pre.length + 4 + nextMultipleOf4 data.length) :=
    advance_fits _ _ _ small (by simp only [List.length_append, size]; omega)
  simp only [walkArgument, here, length, word, stop, reduceCtorEq, false_and, if_false]
  exact ⟨_, rfl, by dsimp only; omega, ⟨by simp [objectValue], by simp [newIdValue], by simp [stringValue]⟩⟩

theorem walk_encoded_argument (pre post bytes : Bytes) (fds : List Fd) (argType : ArgumentType) (value : WaylandValue)
    (st : WalkState) (encoded : encodeArgument argType value = some (bytes, fds)) (here : st.offset = pre.length)
    (small : (pre ++ (bytes ++ post)).length < 2 ^ 32) :
    ∃ next, walkArgument (pre ++ (bytes ++ post)) st argType = .ok next ∧ next.offset = pre.length + bytes.length ∧
      ReadsBack (pre ++ (bytes ++ post)) st next [value] := by
  have word : ∀ v, bytes = toNeBytes v → advance (pre ++ (bytes ++ post)) st.offset 4 = .ok (pre.length + bytes.length) := by
    rintro v rfl
    rw [here]
    exact advance_fits _ _ _ small (by simp)
  cases argType <;> cases value <;> simp only [encodeArgument, reduceCtorEq, Option.some.injEq, Prod.mk.injEq] at encoded
  case int.int v | uint.uint v | fixed.fixed v =>
      have is := encoded.1.symm
      simp only [walkArgument, word _ is]
      exact ⟨_, rfl, rfl, ⟨by simp [objectValue], by simp [newIdValue], by simp [stringValue]⟩⟩
  case str.string s =>
      obtain ⟨rfl, -⟩ := encoded
      exact walk_encoded_string pre post s st here small
  case object.object v =>
      have is : bytes = toNeBytes v := encoded.1.symm
      simp only [walkArgument, word _ is]
      refine ⟨_, rfl, rfl, ⟨?_, by simp [newIdValue], by simp [stringValue]⟩⟩
      simp [objectValue, here, is, word_at_encoded]
  case newId.newId v =>
      have is : bytes = toNeBytes v := encoded.1.symm
      simp only [walkArgument, word _ is]
      refine ⟨_, rfl, rfl, ⟨by simp [objectValue], ?_, by simp [stringValue]⟩⟩
      simp [newIdValue, here, is, word_at_encoded]
  case array.array data =>
      obtain ⟨rfl, -⟩ := encoded
      exact walk_encoded_array pre post data st here small
  case fd.fd fd =>
      obtain ⟨rfl, -⟩ := encoded
      exact ⟨_, rfl, by simpa using here, ⟨by simp [objectValue], by simp [newIdValue], by simp [stringValue]⟩⟩

theorem walk_encoded (pairs : List (ArgumentType × WaylandValue)) (index : Nat) (pre payload : Bytes) (fds : List Fd)
    (st : WalkState) (encoded : encodeFrom index pairs = .ok (payload, fds)) (here : st.offset = pre.length)
    (small : (pre ++ payload).length < 2 ^ 32) :
    ∃ last, walkFrom (pre ++ payload) st (pairs.map Prod.fst) = .ok last ∧
      ReadsBack (pre ++ payload) st last (pairs.map Prod.snd) := by
  induction pairs generalizing index pre payload fds st with
  | nil => exact ⟨st, rfl, ⟨by simp, by simp, by simp⟩⟩
  | cons pair rest ih =>
      obtain ⟨argType, value⟩ := pair
      simp only [encodeFrom] at encoded
      split at encoded
      · cases encoded
      · rename_i bytes own argument
        split at encoded
        · cases encoded
        · rename_i later others remaining
          cases encoded
          obtain ⟨next, walked, stop, reads⟩ := walk_encoded_argument pre later bytes own argType value st argument here small
          obtain ⟨last, onward, readsOn⟩ := ih (index + 1) (pre ++ bytes) later others next remaining
            (by rw [stop, List.length_append]) (by rw [List.append_assoc]; exact small)
          rw [List.append_assoc] at onward readsOn
          refine ⟨last, ?_, reads.trans readsOn⟩
          simp only [walkFrom, List.map_cons, List.foldlM_cons, walked]
          exact onward

-- What the proxy encodes, a walk of the same signature reads back.
theorem walk_encoded_arguments (signature : List ArgumentType) (values : List WaylandValue) (payload : Bytes) (fds : List Fd)
    (encoded : encodeArguments signature values = .ok (payload, fds)) (small : payload.length < 2 ^ 32) :
    ∃ walk, walkSignature payload signature = .ok walk ∧
      walk.objectOffsets.map (wordAt payload) = values.filterMap objectValue ∧
      walk.newIdOffset.map (wordAt payload) = (values.filterMap newIdValue).getLast? ∧
      walk.dynamicInterfaceName = (values.filterMap stringValue).head? := by
  unfold encodeArguments at encoded
  split at encoded
  · cases encoded
  · rename_i same
    have lengths : values.length = signature.length := by simpa using same
    have types : (signature.zip values).map Prod.fst = signature := List.map_fst_zip (by omega)
    have shown : (signature.zip values).map Prod.snd = values := List.map_snd_zip (by omega)
    obtain ⟨last, walked, reads⟩ := walk_encoded (signature.zip values) 0 [] payload fds ⟨0, ⟨none, [], 0, none⟩⟩ encoded rfl small
    rw [types, List.nil_append] at walked
    rw [shown, List.nil_append] at reads
    refine ⟨last.walk, by rw [walkSignature, walked]; rfl, by simpa using reads.objects, by simpa using reads.newId,
      by simpa using reads.dynamicName⟩

end WlResprox
