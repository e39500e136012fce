import WlResprox.Books
import WlResprox.Moves

set_option autoImplicit false

namespace WlResprox

variable {p : Protocol} (named : Prop) (covered : Covered p)

-- A request of the proxy's own to the host, and how it reads there.
def ownRequest (interface : Interface) (sender : UInt32) (opcode : UInt16) (payload : Bytes) (outcome : WriteOutcome) : Sent :=
  ⟨.host, .own, interface, buildMessage sender opcode payload, [], outcome⟩

-- A request encoded from values makes what its entry of the table says.
theorem own_request_makes (interface : Interface) (sender : UInt32) (opcode : UInt16) (desc : MessageDesc) (values : List WaylandValue)
    (payload : Bytes) (fds : List Fd) (id : UInt32) (child : Interface) (outcome : WriteOutcome)
    (listed : (p.requests interface)[opcode.toNat]? = some desc)
    (encoded : encodeArguments desc.signature values = .ok (payload, fds)) (small : payload.length < 2 ^ 32)
    (newId : (values.filterMap newIdValue).getLast? = some id)
    (kind : (resolveChildInterface p desc (values.filterMap stringValue).head?).map Prod.fst = some child) :
    (ownRequest interface sender opcode payload outcome).Makes p id child :=
  ⟨_, decode_encoded p interface sender opcode desc values payload fds listed encoded small, newId, kind⟩

theorem own_request_objects (interface : Interface) (sender : UInt32) (opcode : UInt16) (desc : MessageDesc) (values : List WaylandValue)
    (payload : Bytes) (fds : List Fd) (call : Call) (listed : (p.requests interface)[opcode.toNat]? = some desc)
    (encoded : encodeArguments desc.signature values = .ok (payload, fds)) (small : payload.length < 2 ^ 32)
    (decoded : decode p .clientToHost interface (buildMessage sender opcode payload) = some call) :
    call.objects = values.filterMap objectValue := by
  rw [decode_encoded p interface sender opcode desc values payload fds listed encoded small] at decoded
  exact congrArg Call.objects (Option.some.inj decoded).symm

theorem own_request_addressed (heard : Option Bytes) (names : Naming) (interface : Interface) (sender : UInt32) (opcode : UInt16)
    (payload : Bytes) (outcome : WriteOutcome) (owner : Option UInt32) (known : names owner sender interface)
    (objects : ∀ call, decode p .clientToHost interface (buildMessage sender opcode payload) = some call → ∀ object ∈ call.objects,
      object = 0 ∨ ∃ owner interface, names owner object interface) :
    Addressed p heard names (ownRequest interface sender opcode payload outcome) where
  sender := ⟨owner, by rw [ownRequest, senderOf, build_message_sender]; exact known⟩
  objects := objects
  carried relayed := by cases relayed

theorem unallocate_allocated (t : ShadowTable) : t.allocateHostId.2.unallocateHostId t.nextHostId = t := by
  have back : t.nextHostId + 1 - 1 = t.nextHostId := UInt32.add_sub_cancel _ _
  simp only [ShadowTable.unallocateHostId, ShadowTable.allocateHostId, back, if_true]

-- What an own object costs and brings: one id, known to the ledger from then on.
structure Owned (p : Protocol) (s t : Session) (id : UInt32) (child : Interface) : Prop where
  next : s.objects.nextHostId = id
  later : t.objects.nextHostId = id + 1
  objects : ∀ query, (ledger p t.trace).objects query = if query = id then some ⟨none, child⟩ else (ledger p s.trace).objects query

theorem create_own_object_moves {s t : Session} {interface : Interface} {sender : UInt32} {opcode : UInt16}
    {payload : UInt32 → Bytes} {made : Option UInt32} (child : Interface)
    (makes : ∀ outcome, (ownRequest interface sender opcode (payload s.objects.nextHostId) outcome).Makes p s.objects.nextHostId child)
    (addressed : ∀ outcome, named → Addressed p ((ledger p s.trace).heard .gtk) (s.view.names p)
      (ownRequest interface sender opcode (payload s.objects.nextHostId) outcome))
    (result : createOwnObject s interface sender opcode payload = (made, t)) :
    Moves p named .relaying s.view t.view ∧ ∀ id, made = some id → Owned p s t id child := by
  simp only [createOwnObject] at result
  have outcome : ∀ done w, Session.writeMessage { s with objects := s.objects.allocateHostId.2 } .host .own interface
      (buildMessage sender opcode (payload s.objects.allocateHostId.1)) [] = (done, w) →
      done = decide (s.host.nextWrite = .complete) ∧ w.objects = s.objects.allocateHostId.2 ∧ w.trace = s.trace ++
        [.sent (ownRequest interface sender opcode (payload s.objects.nextHostId) s.host.nextWrite)] := by
    intro done w wrote
    cases wrote
    exact ⟨rfl, rfl, rfl⟩
  split at result
  · rename_i w wrote
    obtain ⟨-, objects, trace⟩ := outcome _ _ wrote
    cases result
    refine ⟨?_, fun id made => ?_⟩
    · have move : Move p named .relaying s.view _ :=
        .created s.view _ child (by decide) rfl (makes s.host.nextWrite) (addressed s.host.nextWrite)
      have reached : t.view = View.log ⟨s.view.objects.allocateHostId.2, s.view.trace⟩
          (.sent (ownRequest interface sender opcode (payload s.objects.nextHostId) s.host.nextWrite)) := by
        rw [Session.view, objects, trace]
        rfl
      rw [reached]
      exact .one move
    · cases made
      refine ⟨rfl, by rw [objects]; rfl, fun query => ?_⟩
      rw [trace, ledger_snoc]
      exact write_request p _ _ rfl _ child (makes s.host.nextWrite) query
  · rename_i w wrote
    obtain ⟨done, objects, trace⟩ := outcome _ _ wrote
    cases result
    refine ⟨?_, fun id made => by cases made⟩
    have failed : s.host.nextWrite ≠ .complete := of_decide_eq_false done.symm
    have move : Move p named .relaying s.view _ :=
      .attempted s.view _ child (by decide) rfl failed (makes s.host.nextWrite) (addressed s.host.nextWrite)
    have restored : w.objects.unallocateHostId s.objects.allocateHostId.1 = s.objects := by
      rw [objects]
      exact unallocate_allocated s.objects
    have reached : Session.view { w with objects := w.objects.unallocateHostId s.objects.allocateHostId.1 } =
        s.view.log (.sent (ownRequest interface sender opcode (payload s.objects.nextHostId) s.host.nextWrite)) := by
      rw [Session.view, restored]
      show View.mk s.objects w.trace = _
      rw [trace]
      rfl
    rw [reached]
    exact .one move

include covered

theorem offer_reads (interface : Interface) (msg : Bytes) (call : Call) (source : interface = wlDataSource)
    (first : opcodeOfMessage msg = 0) (decoded : decode p .clientToHost interface msg = some call) :
    call.newId = none ∧ call.objects = [] := by
  subst source
  obtain ⟨walk, listed, walked, is⟩ := decode_inv _ _ _ _ _ decoded
  rw [first] at listed
  have same : call.desc = _ := Option.some.inj (listed.symm.trans covered.offer)
  refine ⟨decode_quiet _ _ _ _ _ decoded (by simp [same]), ?_⟩
  have none : walk.objectOffsets = [] := by
    have count := walk_object_count _ _ _ walked
    simpa [same] using count
  rw [is]
  simp [callOf, none]

theorem offer_mime_types_moves (s : Session) (source : UInt32) (mimeTypes : List String)
    (known : named → (ledger p s.trace).objects source = some ⟨none, wlDataSource⟩) :
    Moves p named .relaying s.view (offerMimeTypes s source mimeTypes).2.view ∧
      (offerMimeTypes s source mimeTypes).2.objects = s.objects ∧
      (ledger p (offerMimeTypes s source mimeTypes).2.trace).objects = (ledger p s.trace).objects := by
  induction mimeTypes generalizing s with
  | nil => exact ⟨.refl, rfl, rfl⟩
  | cons mimeType rest ih =>
      have reads := fun call => offer_reads covered wlDataSource (buildMessage source 0 (putStr [] mimeType)) call rfl
        (opcode_of_built _ _ _)
      have quiet : (ownRequest wlDataSource source 0 (putStr [] mimeType) s.host.nextWrite).newId p = none := by
        unfold Sent.newId
        cases decoded : decode p _ _ _ with
        | none => rfl
        | some call => exact (reads call decoded).1
      have move : Move p named .relaying s.view (s.view.log (.sent (ownRequest wlDataSource source 0 (putStr [] mimeType) s.host.nextWrite))) :=
        .asked s.view _ (by decide) rfl quiet fun given => own_request_addressed _ _ _ _ _ _ _ none (.inl (known given))
          fun call decoded object member => by simp [(reads call decoded).2] at member
      have same : (ledger p (s.writeMessage .host .own wlDataSource (buildMessage source 0 (putStr [] mimeType)) []).2.trace).objects =
          (ledger p s.trace).objects := by
        rw [Session.write_trace, ledger_snoc]
        refine write_quiet p _ _ quiet ?_
        unfold Sent.frees
        split
        · rfl
        · simp [Ledger.frees, wlDataSource]
      simp only [offerMimeTypes]
      split
      · rename_i written wrote
        obtain rfl : _ = written := congrArg Prod.snd wrote
        obtain ⟨moves, objects, ledgers⟩ := ih _ fun given => by rw [same]; exact known given
        exact ⟨.head move moves, objects, ledgers.trans same⟩
      · rename_i failed wrote
        obtain rfl : _ = failed := congrArg Prod.snd wrote
        exact ⟨.single move, rfl, same⟩

omit covered in
theorem encoded_bind (name version hostId : UInt32) (interface : String) :
    encodeArguments [.uint, .str, .uint, .newId] [.uint name, .string interface, .uint version, .newId hostId] =
      .ok (bindPayload name interface version hostId, []) := by
  simp [encodeArguments, encodeFrom, encodeArgument, bindPayload, putU32, putStr]

omit covered in
theorem bind_payload_small (name version hostId : UInt32) (interface : String) (short : (asBytes interface).length < 2 ^ 31) :
    (bindPayload name interface version hostId).length < 2 ^ 32 := by
  simp only [bindPayload, putU32, putStr, nextMultipleOf4, List.length_append, List.length_nil, to_ne_bytes_length,
    List.length_replicate, List.length_cons]
  omega

omit covered in
theorem encoded_new_id (hostId : UInt32) : encodeArguments [.newId] [.newId hostId] = .ok (putU32 [] hostId, []) := by
  simp [encodeArguments, encodeFrom, encodeArgument, putU32]

omit covered in
theorem encoded_new_id_object (hostId object : UInt32) :
    encodeArguments [.newId, .object] [.newId hostId, .object object] = .ok (putU32 (putU32 [] hostId) object, []) := by
  simp [encodeArguments, encodeFrom, encodeArgument, putU32]

omit covered in
theorem encoded_object_uint (object value : UInt32) :
    encodeArguments [.object, .uint] [.object object, .uint value] = .ok (putU32 (putU32 [] object) value, []) := by
  simp [encodeArguments, encodeFrom, encodeArgument, putU32]

omit covered in
theorem word_small (value : UInt32) : (putU32 [] value).length < 2 ^ 32 := by
  rw [putU32, List.nil_append, to_ne_bytes_length]
  decide

omit covered in
theorem words_small (first second : UInt32) : (putU32 (putU32 [] first) second).length < 2 ^ 32 := by
  rw [putU32, putU32, List.nil_append, List.length_append, to_ne_bytes_length, to_ne_bytes_length]
  decide

theorem bind_own_moves {s t : Session} {registry name version registryGuest : UInt32} {made : Option UInt32}
    (bound : s.objects.interface registryGuest = some wlRegistry) (translated : s.objects.hostId registryGuest = some registry)
    (result : createOwnObject s wlRegistry registry 0 (bindPayload name "wl_data_device_manager" version) = (made, t)) :
    Moves p named .relaying s.view t.view ∧ ∀ id, made = some id → Owned p s t id wlDataDeviceManager := by
  have small := bind_payload_small name version s.objects.nextHostId "wl_data_device_manager" (by decide +kernel)
  have encoded := encoded_bind name version s.objects.nextHostId "wl_data_device_manager"
  refine create_own_object_moves named wlDataDeviceManager (fun outcome => ?_) (fun outcome _ => ?_) result
  · refine own_request_makes wlRegistry registry 0 _ _ _ _ _ _ outcome covered.bind encoded small rfl ?_
    have listed : lookupInterface "wl_data_device_manager" = some wlDataDeviceManager := by decide +kernel
    show (resolveChildInterface p _ (some "wl_data_device_manager")).map Prod.fst = _
    simp only [resolveChildInterface, listed, Option.map_some]
  · refine own_request_addressed _ _ _ _ _ _ outcome (some registryGuest) (.inr ⟨registryGuest, rfl, bound, .inl translated⟩) ?_
    intro call decoded object member
    rw [own_request_objects wlRegistry registry 0 _ _ _ _ call covered.bind encoded small decoded] at member
    cases member

theorem create_source_moves {s t : Session} {ddm : UInt32} {made : Option UInt32}
    (known : (ledger p s.trace).objects ddm = some ⟨none, wlDataDeviceManager⟩)
    (result : createOwnObject s wlDataDeviceManager ddm 0 (putU32 []) = (made, t)) :
    Moves p named .relaying s.view t.view ∧ ∀ id, made = some id → Owned p s t id wlDataSource := by
  have encoded := encoded_new_id s.objects.nextHostId
  refine create_own_object_moves named wlDataSource (fun outcome => ?_) (fun outcome _ => ?_) result
  · exact own_request_makes wlDataDeviceManager ddm 0 _ _ _ _ _ _ outcome covered.createDataSource encoded (word_small _) rfl rfl
  · refine own_request_addressed _ _ _ _ _ _ outcome none (.inl known) ?_
    intro call decoded object member
    rw [own_request_objects wlDataDeviceManager ddm 0 _ _ _ _ call covered.createDataSource encoded (word_small _) decoded] at member
    cases member

theorem get_device_moves {s t : Session} {ddm seat : UInt32} {made : Option UInt32}
    (known : (ledger p s.trace).objects ddm = some ⟨none, wlDataDeviceManager⟩)
    (seated : ∃ owner interface, s.view.names p owner seat interface)
    (result : createOwnObject s wlDataDeviceManager ddm 1 (fun hostId => putU32 (putU32 [] hostId) seat) = (made, t)) :
    Moves p named .relaying s.view t.view ∧ ∀ id, made = some id → Owned p s t id wlDataDevice := by
  have encoded := encoded_new_id_object s.objects.nextHostId seat
  refine create_own_object_moves named wlDataDevice (fun outcome => ?_) (fun outcome _ => ?_) result
  · exact own_request_makes wlDataDeviceManager ddm 1 _ _ _ _ _ _ outcome covered.getDataDevice encoded (words_small _ _) rfl rfl
  · refine own_request_addressed _ _ _ _ _ _ outcome none (.inl known) ?_
    intro call decoded object member
    rw [own_request_objects wlDataDeviceManager ddm 1 _ _ _ _ call covered.getDataDevice encoded (words_small _ _) decoded] at member
    cases List.mem_singleton.mp member
    exact .inr seated

theorem set_selection_moves {s t : Session} {device source serial : UInt32} {done : Bool}
    (known : (ledger p s.trace).objects device = some ⟨none, wlDataDevice⟩)
    (offered : (ledger p s.trace).objects source = some ⟨none, wlDataSource⟩)
    (result : s.writeMessage .host .own wlDataDevice (buildMessage device 1 (putU32 (putU32 [] source) serial)) [] = (done, t)) :
    Moves p named .relaying s.view t.view := by
  have encoded := encoded_object_uint source serial
  obtain rfl : _ = t := congrArg Prod.snd result
  refine .single (.asked s.view (ownRequest wlDataDevice device 1 (putU32 (putU32 [] source) serial) s.host.nextWrite) (by decide) rfl ?_ ?_)
  · have reads := decode_encoded p wlDataDevice device 1 _ _ _ _ covered.setSelection encoded (words_small source serial)
    simp only [Sent.newId, ownRequest, Peer.toward, reads, Option.bind_some]
    rfl
  · intro _
    refine own_request_addressed _ _ _ _ _ _ _ none (.inl known) ?_
    intro call decoded object member
    rw [own_request_objects wlDataDevice device 1 _ _ _ _ call covered.setSelection encoded (words_small _ _) decoded] at member
    cases List.mem_singleton.mp member
    exact .inr ⟨none, wlDataSource, .inl offered⟩

omit covered in
theorem Owned.keeps {s t : Session} {id other : UInt32} {child : Interface} {object : HostObject} (owned : Owned p s t id child)
    (apart : other ≠ id) (known : (ledger p s.trace).objects other = some object) : (ledger p t.trace).objects other = some object := by
  rw [owned.objects, if_neg apart]
  exact known

theorem claim_selection_moves (s : Session) (registry seat name version serial : UInt32) (mimeTypes : List String)
    (registryGuest seatGuest : UInt32) (seatInterface : Interface) (bound : s.objects.interface registryGuest = some wlRegistry)
    (translated : s.objects.hostId registryGuest = some registry) (seated : s.objects.interface seatGuest = some seatInterface)
    (seatTranslated : s.objects.hostId seatGuest = some seat) :
    Moves p named .relaying s.view (claimSelection s registry seat name version serial mimeTypes).view := by
  unfold claimSelection
  split
  · rename_i t result
    exact (bind_own_moves named covered bound translated result).1
  · rename_i ddm s₁ result₁
    obtain ⟨moves₁, owns₁⟩ := bind_own_moves named covered bound translated result₁
    have ddmOwned := owns₁ ddm rfl
    have ddmKnown : (ledger p s₁.trace).objects ddm = some ⟨none, wlDataDeviceManager⟩ := by rw [ddmOwned.objects, if_pos rfl]
    split
    · rename_i t result
      exact moves₁.trans (create_source_moves named covered ddmKnown result).1
    · rename_i source s₂ result₂
      obtain ⟨moves₂, owns₂⟩ := create_source_moves named covered ddmKnown result₂
      have sourceOwned := owns₂ source rfl
      have sourceId : source = ddm + 1 := sourceOwned.next.symm.trans ddmOwned.later
      have sourceKnown : (ledger p s₂.trace).objects source = some ⟨none, wlDataSource⟩ := by rw [sourceOwned.objects, if_pos rfl]
      have ddmStill := sourceOwned.keeps (by rw [sourceId]; simp) ddmKnown
      obtain ⟨moves₃, objects₃, ledger₃⟩ := offer_mime_types_moves named covered s₂ source mimeTypes fun _ => sourceKnown
      have before := moves₁.trans (moves₂.trans moves₃)
      have aside := (create_own_object_aside result₁).trans
        ((create_own_object_aside result₂).trans (offer_mime_types_aside s₂ source mimeTypes))
      split
      · rename_i t offered
        rw [offered] at before
        exact before
      · rename_i s₃ offered
        rw [offered] at before objects₃ ledger₃ aside
        have seatNow : ∃ owner interface, s₃.view.names p owner seat interface :=
          ⟨some seatGuest, seatInterface, .inr ⟨seatGuest, rfl, (aside.interface seatGuest).trans seated,
            .inl ((aside.host_id seatGuest).trans seatTranslated)⟩⟩
        rw [← ledger₃] at ddmStill sourceKnown
        split
        · rename_i t result
          exact before.trans (get_device_moves named covered ddmStill seatNow result).1
        · rename_i device s₄ result₄
          obtain ⟨moves₄, owns₄⟩ := get_device_moves named covered ddmStill seatNow result₄
          have deviceOwned := owns₄ device rfl
          have deviceId : device = source + 1 := by
            rw [← deviceOwned.next, objects₃]
            exact sourceOwned.later
          have deviceKnown : (ledger p s₄.trace).objects device = some ⟨none, wlDataDevice⟩ := by rw [deviceOwned.objects, if_pos rfl]
          have sourceStill := deviceOwned.keeps (by rw [deviceId]; simp) sourceKnown
          split
          · rename_i t selected
            exact before.trans (moves₄.trans (set_selection_moves named covered deviceKnown sourceStill selected))
          · rename_i t selected
            have last : Moves p named .relaying s₄.view t.view := set_selection_moves named covered deviceKnown sourceStill selected
            exact before.trans (moves₄.trans last)

theorem attempt_clipboard_splice_moves (s : Session) (ambient : Ambient) (serial : UInt32) :
    Moves p named .relaying s.view (attemptClipboardSplice ambient s serial).view := by
  simp only [attemptClipboardSplice]
  split
  · exact .refl
  · split
    · rename_i _ _ ddmName ddmVersion registryGuest seatGuest _ registryFound seatFound
      obtain ⟨registry, bound, registryName⟩ := ShadowTable.find_guest_id_spec _ _ _ _ registryFound
      obtain ⟨seatInterface, seated, -⟩ := ShadowTable.find_guest_id_spec _ _ _ _ seatFound
      split
      · rename_i registryHostId seatHostId translated seatTranslated
        rw [interface_named _ _ registryName] at bound
        have claimed := claim_selection_moves named covered
          { s with reclaim := { s.reclaim with pending := false } } registryHostId seatHostId ddmName ddmVersion serial
          (s.clipboardCache.cachedMimeTypes ambient.order) registryGuest seatGuest seatInterface bound translated seated seatTranslated
        exact claimed
      · exact .refl
    · exact .refl

end WlResprox
