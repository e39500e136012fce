import WlResprox.Encoding
import WlResprox.Recover
import WlResprox.Rewriting
import WlResprox.Tables

set_option autoImplicit false

namespace WlResprox

-- What a message says to a receiver that knows its sender's interface.
structure Call where
  sender : UInt32
  desc : MessageDesc
  newId : Option UInt32
  objects : List UInt32
  child : Option Interface
deriving DecidableEq

def callOf (p : Protocol) (desc : MessageDesc) (walk : SignatureWalk) (msg : Bytes) : Call where
  sender := senderOf msg
  desc := desc
  newId := walk.newIdOffset.map fun offset => wordAt msg (headerLen + offset)
  objects := walk.objectOffsets.map fun offset => wordAt msg (headerLen + offset)
  child := (resolveChildInterface p desc walk.dynamicInterfaceName).map Prod.fst

def decode (p : Protocol) (direction : Direction) (interface : Interface) (msg : Bytes) : Option Call :=
  match (p.messages direction interface)[(opcodeOfMessage msg).toNat]? with
  | none => none
  | some desc =>
      match walkSignature (msg.drop headerLen) desc.signature with
      | .error _ => none
      | .ok walk => some (callOf p desc walk msg)

theorem decode_some (p : Protocol) (direction : Direction) (interface : Interface) (msg : Bytes) (desc : MessageDesc)
    (walk : SignatureWalk) (listed : (p.messages direction interface)[(opcodeOfMessage msg).toNat]? = some desc)
    (walked : walkSignature (msg.drop headerLen) desc.signature = .ok walk) :
    decode p direction interface msg = some (callOf p desc walk msg) := by
  simp only [decode, listed, walked]

theorem decode_inv (p : Protocol) (direction : Direction) (interface : Interface) (msg : Bytes) (call : Call)
    (decoded : decode p direction interface msg = some call) :
    ∃ walk, (p.messages direction interface)[(opcodeOfMessage msg).toNat]? = some call.desc ∧
      walkSignature (msg.drop headerLen) call.desc.signature = .ok walk ∧ call = callOf p call.desc walk msg := by
  unfold decode at decoded
  split at decoded
  · cases decoded
  · rename_i desc listed
    split at decoded
    · cases decoded
    · rename_i walk walked
      cases decoded
      exact ⟨walk, listed, walked, rfl⟩

-- A message whose signature has no new id creates nothing.
theorem decode_quiet (p : Protocol) (direction : Direction) (interface : Interface) (msg : Bytes) (call : Call)
    (decoded : decode p direction interface msg = some call) (quiet : ArgumentType.newId ∉ call.desc.signature) :
    call.newId = none := by
  obtain ⟨walk, -, walked, is⟩ := decode_inv p direction interface msg call decoded
  have absent : walk.newIdOffset = none := by
    have located := walk_new_id _ _ _ walked
    simpa [quiet] using located
  rw [is]
  simp [callOf, absent]

theorem opcode_of_built (sender : UInt32) (opcode : UInt16) (payload : Bytes) :
    opcodeOfMessage (buildMessage sender opcode payload) = opcode := by
  rw [opcodeOfMessage, build_message_word, packed_word_opcode]

theorem word_at_payload (msg : Bytes) (offset : Nat) : wordAt msg (headerLen + offset) = wordAt (msg.drop headerLen) offset :=
  (word_at_drop msg offset headerLen).symm

theorem opcode_listed (table : List MessageDesc) (name : String) (opcode : UInt16) (indexed : Indexed table)
    (found : opcodeOf table name = some opcode) : ∃ desc, table[opcode.toNat]? = some desc ∧ desc ∈ table ∧ desc.name = name := by
  obtain ⟨index, at_index, rfl⟩ := Option.map_eq_some_iff.mp found
  obtain ⟨inside, named, -⟩ := List.findIdx?_eq_some_iff_getElem.mp at_index
  have same : (UInt16.ofNat index).toNat = index := by
    have short := indexed.short
    rw [UInt16.toNat_ofNat']
    omega
  rw [same]
  exact ⟨table[index], List.getElem?_eq_getElem inside, List.getElem_mem inside, by simpa using named⟩

-- What the proxy builds from values, a receiver reads back.
theorem decode_encoded (p : Protocol) (interface : Interface) (sender : UInt32) (opcode : UInt16) (desc : MessageDesc)
    (values : List WaylandValue) (payload : Bytes) (fds : List Fd) (listed : (p.requests interface)[opcode.toNat]? = some desc)
    (encoded : encodeArguments desc.signature values = .ok (payload, fds)) (small : payload.length < 2 ^ 32) :
    decode p .clientToHost interface (buildMessage sender opcode payload) =
      some ⟨sender, desc, (values.filterMap newIdValue).getLast?, values.filterMap objectValue,
        (resolveChildInterface p desc (values.filterMap stringValue).head?).map Prod.fst⟩ := by
  obtain ⟨walk, walked, objects, newId, name⟩ := walk_encoded_arguments _ _ _ _ encoded small
  have words : ∀ offset, wordAt (buildMessage sender opcode payload) (headerLen + offset) = wordAt payload offset := by
    intro offset
    rw [word_at_payload, build_message_payload]
  rw [decode_some p .clientToHost interface _ desc walk (by rw [opcode_of_built]; exact listed)
    (by rw [build_message_payload]; exact walked)]
  simp only [callOf, words, senderOf, build_message_sender, name]
  rw [← objects, ← newId]

end WlResprox
