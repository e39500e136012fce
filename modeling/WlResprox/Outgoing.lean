import WlResprox.Calls

set_option autoImplicit false

namespace WlResprox

def wordsAt (offsets : List Nat) (msg : Bytes) : List UInt32 := offsets.map fun offset => wordAt msg (headerLen + offset)

theorem words_at_congr (offsets : List Nat) (msg out : Bytes)
    (same : ∀ offset ∈ offsets, wordAt out (headerLen + offset) = wordAt msg (headerLen + offset)) :
    wordsAt offsets out = wordsAt offsets msg := List.map_congr_left same

-- Translation overwrites the located words one after another, and since they
-- lie apart each keeps what was written to it.
theorem translate_objects_apart (objects : ShadowTable) (direction : Direction) (offsets : List Nat) (msg translated : Bytes)
    (other : Nat) (fits : ∀ offset ∈ offsets, headerLen + offset + 4 ≤ msg.length)
    (apart : ∀ offset ∈ offsets, other + 4 ≤ offset ∨ offset + 4 ≤ other)
    (result : translateObjects objects direction offsets msg = some translated) :
    wordAt translated (headerLen + other) = wordAt msg (headerLen + other) := by
  induction offsets generalizing msg with
  | nil =>
      cases result
      rfl
  | cons offset rest ih =>
      simp only [translateObjects] at result
      split at result
      · cases result
      · have here := fits offset List.mem_cons_self
        have away := apart offset List.mem_cons_self
        rw [ih _ (fun o member => by rw [set_word_length _ _ _ here]; exact fits o (List.mem_cons_of_mem _ member))
          (fun o member => apart o (List.mem_cons_of_mem _ member)) result]
        exact word_at_set_word_apart _ _ _ _ here (by omega)

theorem translate_objects_words (objects : ShadowTable) (direction : Direction) (offsets : List Nat) (msg translated : Bytes)
    (fits : ∀ offset ∈ offsets, headerLen + offset + 4 ≤ msg.length) (apart : offsets.Pairwise fun a b => a + 4 ≤ b)
    (result : translateObjects objects direction offsets msg = some translated) :
    List.Forall₂ (fun a b => translate objects direction a = some b) (wordsAt offsets msg) (wordsAt offsets translated) := by
  induction offsets generalizing msg with
  | nil => exact .nil
  | cons offset rest ih =>
      simp only [translateObjects] at result
      split at result
      · cases result
      · rename_i known found
        obtain ⟨ahead, later⟩ := List.pairwise_cons.mp apart
        have here := fits offset List.mem_cons_self
        have fits' : ∀ o ∈ rest, headerLen + o + 4 ≤ (setWord msg (headerLen + offset) known).length := fun o member => by
          rw [set_word_length _ _ _ here]
          exact fits o (List.mem_cons_of_mem _ member)
        have kept : wordAt translated (headerLen + offset) = known := by
          rw [translate_objects_apart objects direction rest _ translated offset fits' (fun o member => .inl (ahead o member)) result]
          exact word_at_set_word _ _ _ here
        have untouched : wordsAt rest (setWord msg (headerLen + offset) known) = wordsAt rest msg :=
          words_at_congr _ _ _ fun o member => word_at_set_word_apart _ _ _ _ here (by have := ahead o member; omega)
        have onward := ih _ fits' later result
        rw [untouched] at onward
        exact .cons (found.trans (congrArg some kept.symm)) onward

theorem word_at_write_sender (msg : Bytes) (v : UInt32) (offset : Nat) (long : headerLen ≤ msg.length) (behind : 4 ≤ offset) :
    wordAt (writeSenderId msg v) offset = wordAt msg offset :=
  word_at_set_word_apart _ _ _ _ (by simp only [headerLen] at long; omega) (.inr (by omega))

theorem sender_of_written (msg : Bytes) (v : UInt32) (long : headerLen ≤ msg.length) : senderOf (writeSenderId msg v) = v :=
  word_at_set_word _ _ _ (by simp only [headerLen] at long; omega)

theorem payload_of_written (msg : Bytes) (v : UInt32) : (writeSenderId msg v).drop headerLen = msg.drop headerLen := by
  simp [writeSenderId, setWord, headerLen, toNeBytes]

-- How the bytes the relay writes read, given how the bytes it took read.
structure Outgoing (p : Protocol) (objects : ShadowTable) (m : Inbound) (created : Option Creation) (out : Bytes) : Prop where
  long : headerLen ≤ out.length
  opcode : opcodeOfMessage out = m.header.opcode
  newId : ∀ call, decode p m.direction m.interface out = some call → call.newId = created.map fun c => c.rewritten m.direction
  objects : ∀ call, decode p m.direction m.interface out = some call →
    List.Forall₂ (fun a b => translate objects m.direction a = some b) m.originals call.objects
  creates : ∀ c, created = some c → ∃ call, decode p m.direction m.interface out = some call ∧ call.child = some c.interface

theorem Outgoing.send {p : Protocol} {objects : ShadowTable} {m : Inbound} {created : Option Creation} {out : Bytes}
    (outgoing : Outgoing p objects m created out) (otherSide : UInt32) :
    Outgoing p objects m created (writeSenderId out otherSide) := by
  have long := outgoing.long
  have length : (writeSenderId out otherSide).length = out.length := set_word_length _ _ _ (by simp only [headerLen] at long; omega)
  have word := word_at_write_sender out otherSide 4 long (Nat.le_refl 4)
  have opcode : opcodeOfMessage (writeSenderId out otherSide) = opcodeOfMessage out := by rw [opcodeOfMessage, word, opcodeOfMessage]
  have payload := payload_of_written out otherSide
  have same : ∀ call, decode p m.direction m.interface (writeSenderId out otherSide) = some call →
      ∃ before, decode p m.direction m.interface out = some before ∧ call.newId = before.newId ∧ call.objects = before.objects := by
    intro call decoded
    obtain ⟨walk, listed, walked, is⟩ := decode_inv _ _ _ _ _ decoded
    rw [opcode] at listed
    rw [payload] at walked
    refine ⟨_, decode_some _ _ _ _ _ _ listed walked, ?_, ?_⟩
    · rw [is]
      simp only [callOf, word_at_payload, payload]
    · rw [is]
      simp only [callOf, word_at_payload, payload]
  refine ⟨by rw [length]; exact long, by rw [opcode]; exact outgoing.opcode, fun call decoded => ?_, fun call decoded => ?_,
    fun c made => ?_⟩
  · obtain ⟨before, was, newId, -⟩ := same call decoded
    rw [newId]
    exact outgoing.newId before was
  · obtain ⟨before, was, -, objects⟩ := same call decoded
    rw [objects]
    exact outgoing.objects before was
  · obtain ⟨before, was, child⟩ := outgoing.creates c made
    obtain ⟨walk, listed, walked, is⟩ := decode_inv _ _ _ _ _ was
    refine ⟨_, decode_some _ _ _ _ _ _ (by rw [opcode]; exact listed) (by rw [payload]; exact walked), ?_⟩
    rw [← child, is]
    rfl

theorem interface_named (i : Interface) (name : String) (named : i.name = name) : i = ⟨name⟩ := by
  cases i
  cases named
  rfl

section Resolved

variable (env : Env) (covered : Covered env.protocol) (objects : ShadowTable) (direction : Direction) (msg : Bytes) (m : Inbound)
  (resolved : Resolved env.protocol objects direction (headerOf msg) msg m) (long : headerLen ≤ msg.length)

include resolved

theorem resolved_listed : (env.protocol.messages direction m.interface)[(opcodeOfMessage msg).toNat]? = some m.desc := by
  have known := resolved.sender
  unfold resolveSender at known
  dsimp only at known
  split at known
  · cases known
  · split at known
    · cases known
    · obtain ⟨desc, listed, same⟩ := Option.map_eq_some_iff.mp known
      cases same
      exact listed

theorem resolved_interface : objects.interface m.sender = some m.interface := by
  have known := resolved.sender
  unfold resolveSender at known
  dsimp only at known
  split at known
  · cases known
  · split at known
    · cases known
    · rename_i interface typed
      obtain ⟨desc, listed, same⟩ := Option.map_eq_some_iff.mp known
      cases same
      exact typed

theorem resolved_request (request : direction = .clientToHost) : m.sender = senderOf msg := by
  subst request
  have known := resolved.sender
  simp only [resolveSender] at known
  split at known
  · cases known
  · obtain ⟨desc, listed, same⟩ := Option.map_eq_some_iff.mp known
    exact (congrArg Prod.fst same).symm

theorem resolved_event (event : direction = .hostToClient) : objects.guestId (senderOf msg) = some m.sender := by
  subst event
  have known := resolved.sender
  simp only [resolveSender] at known
  split at known
  · cases known
  · rename_i guest found
    split at known
    · cases known
    · obtain ⟨desc, listed, same⟩ := Option.map_eq_some_iff.mp known
      cases same
      exact found

theorem resolved_decode : decode env.protocol direction m.interface msg = some (callOf env.protocol m.desc m.walk msg) :=
  decode_some _ _ _ _ _ _ (resolved_listed env objects direction msg m resolved) resolved.walk

theorem resolved_member : m.desc ∈ env.protocol.messages direction m.interface :=
  List.mem_of_getElem? (resolved_listed env objects direction msg m resolved)

theorem resolved_originals : m.originals = wordsAt m.walk.objectOffsets msg := resolved.originals

include covered in
theorem delete_id_plain (display : m.interface.name = "wl_display") (deletes : m.desc.name = "delete_id") :
    direction = .hostToClient ∧ m.desc.signature = [.uint] := by
  have member := resolved_member env objects direction msg m resolved
  have here : m.interface = wlDisplay := interface_named _ _ display
  rw [here] at member
  cases direction with
  | clientToHost =>
      exfalso
      obtain ⟨index, inside, is⟩ := List.getElem_of_mem member
      have two : (env.protocol.requests wlDisplay).length = 2 := covered.displayRequests
      have either : index = 0 ∨ index = 1 := by
        have : index < (env.protocol.requests wlDisplay).length := inside
        omega
      have listed : (env.protocol.requests wlDisplay)[index]? = some m.desc := by
        rw [← is]
        exact List.getElem?_eq_getElem inside
      rcases either with rfl | rfl
      · rw [covered.sync] at listed
        rw [← Option.some.inj listed] at deletes
        simp at deletes
      · rw [covered.getRegistry] at listed
        rw [← Option.some.inj listed] at deletes
        simp at deletes
  | hostToClient =>
      exact ⟨rfl, (declared_entry _ _ _ _ (covered.events wlDisplay) covered.deleteId m.desc member deletes).1⟩

theorem bare_outgoing (out : Bytes) (sized : headerLen ≤ out.length) (same : opcodeOfMessage out = opcodeOfMessage msg)
    (quiet : ArgumentType.newId ∉ m.desc.signature) (plain : ArgumentType.object ∉ m.desc.signature) :
    Outgoing env.protocol objects m none out := by
  have entry : ∀ call, decode env.protocol m.direction m.interface out = some call → call.desc = m.desc ∧
      ∃ walk, walkSignature (out.drop headerLen) call.desc.signature = .ok walk ∧ call = callOf env.protocol call.desc walk out := by
    intro call decoded
    obtain ⟨walk, listed, walked, is⟩ := decode_inv _ _ _ _ _ decoded
    have known := resolved_listed env objects direction msg m resolved
    rw [resolved.way, same, known] at listed
    exact ⟨(Option.some.inj listed).symm, walk, walked, is⟩
  have none : m.originals = [] := by
    have count := walk_object_count _ _ _ resolved.walk
    rw [List.count_eq_zero.mpr plain, List.length_eq_zero_iff] at count
    rw [resolved.originals, count]
    rfl
  refine ⟨sized, ?_, fun call decoded => ?_, fun call decoded => ?_, fun c made => by cases made⟩
  · rw [same, resolved.head]
    rfl
  · exact decode_quiet _ _ _ _ _ decoded (by rw [(entry call decoded).1]; exact quiet)
  · obtain ⟨desc, walk, walked, is⟩ := entry call decoded
    have count := walk_object_count _ _ _ walked
    rw [desc, List.count_eq_zero.mpr plain, List.length_eq_zero_iff] at count
    rw [none, is]
    simp [callOf, count]

include long

theorem introduced_outgoing (s introduced : Session) (translated rewritten : Bytes) (created : Option Creation)
    (translating : translateObjects objects direction m.walk.objectOffsets msg = some translated)
    (introducing : introduceObject env.protocol s m translated = .ok (created, introduced, rewritten)) :
    Outgoing env.protocol objects m created rewritten := by
  have rewrites := introduced_rewrites env objects direction _ msg m resolved long s introduced translated rewritten created
    translating introducing
  have first := translated_rewrites env objects direction _ msg m resolved long translated translating
  have apart := walk_apart _ _ _ resolved.walk
  have fits := resolved_slot_fits env objects direction _ msg m resolved long
  have opcode : opcodeOfMessage rewritten = opcodeOfMessage msg := by rw [opcodeOfMessage, rewrites.opcode, opcodeOfMessage]
  have reads : decode env.protocol m.direction m.interface rewritten = some (callOf env.protocol m.desc m.walk rewritten) := by
    rw [resolved.way]
    exact decode_some _ _ _ _ _ _ (by rw [opcode]; exact resolved_listed env objects direction msg m resolved)
      (rewrites.walk_signature _ resolved.walk)
  have words : List.Forall₂ (fun a b => translate objects m.direction a = some b) m.originals
      (wordsAt m.walk.objectOffsets translated) := by
    rw [resolved.way, resolved.originals]
    exact translate_objects_words objects direction m.walk.objectOffsets msg translated
      (fun offset member => fits offset (.inl member)) apart.objects translating
  have final : wordsAt m.walk.objectOffsets rewritten = wordsAt m.walk.objectOffsets translated ∧
      (m.walk.newIdOffset.map fun offset => wordAt rewritten (headerLen + offset)) =
        created.map (fun c => c.rewritten m.direction) ∧
      (∀ c, created = some c → (resolveChildInterface env.protocol m.desc m.walk.dynamicInterfaceName).map Prod.fst = some c.interface) := by
    obtain ⟨absent, rfl, -, rfl⟩ | ⟨offset, child, version, located, resolves, rfl, -, rfl⟩ :=
      introduce_object_ok _ _ _ _ _ _ _ introducing
    · exact ⟨rfl, by simp [absent], fun c made => by cases made⟩
    · have here : headerLen + offset + 4 ≤ translated.length := by
        rw [first.lengths]
        exact fits offset (.inr located)
      refine ⟨words_at_congr _ _ _ fun object member => ?_, ?_, fun c made => ?_⟩
      · have away := apart.newId offset located object member
        exact word_at_set_word_apart _ _ _ _ here (by omega)
      · simp only [located, Option.map_some, word_at_set_word _ _ _ here]
      · cases made
        rw [resolves]
        cases m.direction <;> rfl
  refine ⟨by rw [rewrites.lengths]; exact long, ?_, fun call decoded => ?_, fun call decoded => ?_, fun c made => ?_⟩
  · rw [opcode, resolved.head]
    rfl
  · rw [reads] at decoded
    cases decoded
    exact final.2.1
  · rw [reads] at decoded
    cases decoded
    show List.Forall₂ _ _ (wordsAt m.walk.objectOffsets rewritten)
    rw [final.1]
    exact words
  · exact ⟨_, reads, final.2.2 c made⟩

include covered in
theorem relayed_outgoing (s introduced forgotten : Session) (translated rewritten renamed : Bytes) (created : Option Creation)
    (translating : translateObjects objects direction m.walk.objectOffsets msg = some translated)
    (introducing : introduceObject env.protocol s m translated = .ok (created, introduced, rewritten))
    (forgetting : forgetDeleted introduced m rewritten = some (forgotten, renamed)) (ambient : Ambient) (graph : RecreationGraph) :
    Outgoing env.protocol objects m created (updateRecipes env ambient graph m renamed).2 := by
  have outgoing := introduced_outgoing env objects direction msg m resolved long s introduced translated rewritten created
    translating introducing
  have quiet : ArgumentType.newId ∉ m.desc.signature → created = none := by
    intro absent
    have located := walk_new_id _ _ _ resolved.walk
    obtain ⟨-, rfl, -, -⟩ | ⟨offset, child, version, there, -, -, -, -⟩ := introduce_object_ok _ _ _ _ _ _ _ introducing
    · rfl
    · simp [there, absent] at located
  have head : opcodeOfMessage rewritten = opcodeOfMessage msg := by
    rw [outgoing.opcode, resolved.head]
    rfl
  by_cases deletes : m.interface.name = "wl_display" ∧ m.desc.name = "delete_id"
  · obtain ⟨event, signature⟩ := delete_id_plain env covered objects direction msg m resolved deletes.1 deletes.2
    have notRequest : m.isRequest "xdg_toplevel" "set_app_id" = false := by simp [Inbound.isRequest, resolved.way, event]
    rw [update_recipes_other env ambient graph m renamed notRequest, quiet (by simp [signature])]
    obtain ⟨-, rfl⟩ | ⟨hostDeletedId, guestDeletedId, -, -, read, -, -, rfl⟩ := forget_deleted_some _ _ _ _ _ forgetting
    · exact bare_outgoing env objects direction msg m resolved renamed outgoing.long head (by simp [signature]) (by simp [signature])
    · have fits : headerLen + 4 ≤ rewritten.length := by
        unfold readU32 at read
        split at read
        · assumption
        · cases read
      refine bare_outgoing env objects direction msg m resolved _ ?_ ?_ (by simp [signature]) (by simp [signature])
      · rw [set_word_length _ _ _ fits]
        exact outgoing.long
      · rw [← head, opcodeOfMessage, word_at_set_word_apart _ _ _ _ fits (.inl (by simp [headerLen])), opcodeOfMessage]
  · obtain ⟨-, rfl⟩ := forget_deleted_other _ _ _ _ _ forgetting deletes
    by_cases renames : m.isRequest "xdg_toplevel" "set_app_id" = true
    · obtain ⟨request, toplevel, named⟩ := (is_request_iff _ _ _).mp renames
      have member := resolved_member env objects direction msg m resolved
      rw [← resolved.way, request, interface_named _ _ toplevel] at member
      have signature := (declared_entry _ _ _ _ (covered.requests _) covered.setAppId m.desc member named).1
      rw [quiet (by simp [signature])]
      have either : ∀ out, (out = renamed ∨ ∃ text, out = buildMessage m.header.senderId m.header.opcode text) →
          Outgoing env.protocol objects m none out := by
        rintro out (rfl | ⟨text, rfl⟩)
        · exact bare_outgoing env objects direction msg m resolved _ outgoing.long head (by simp [signature]) (by simp [signature])
        · refine bare_outgoing env objects direction msg m resolved _ ?_ ?_ (by simp [signature]) (by simp [signature])
          · rw [build_message_length]
            exact Nat.le_add_right _ _
          · rw [opcode_of_built, resolved.head]
            rfl
      exact either _ (update_recipes_message env ambient graph m renamed)
    · rw [update_recipes_other env ambient graph m renamed (Bool.eq_false_iff.mpr renames)]
      exact outgoing

end Resolved

end WlResprox
