import WlResprox.SpliceMoves

set_option autoImplicit false

namespace WlResprox

theorem of_frozen_settled (frozen : Bool) : Phase.ofFrozen frozen ≠ .recovering := by
  cases frozen <;> decide

theorem Shrinks.refl (t : ShadowTable) : Shrinks t t := ⟨rfl, rfl, fun _ _ _ found => ⟨found, rfl⟩, fun absent => absent⟩

theorem shrinks_remember (t : ShadowTable) (guest : UInt32) (name : String) :
    Shrinks t (t.rememberUnresolvableInterface guest name) := ⟨rfl, rfl, fun _ _ _ found => ⟨found, rfl⟩, fun absent => absent⟩

theorem shrinks_remove (t : ShadowTable) (guest : UInt32) : Shrinks t (t.removeGuest guest) where
  nextHostId := rfl
  nextGuestServerId := rfl
  pairs g h nonzero found := by
    obtain ⟨other, was⟩ := (t.host_id_remove_guest guest g h nonzero).mp found
    exact ⟨was, by rw [t.interface_remove_guest, if_neg other]⟩
  null absent := by
    rw [t.interface_remove_guest]
    split
    · rfl
    · exact absent

-- Rolled back, a creation leaves no trace but the pairs it pushed out.
theorem shrinks_rolled_back (t u : ShadowTable) (guest : UInt32) (interface : Interface) (nonzero : guest ≠ 0)
    (shrinks : Shrinks (t.allocateHostId.2.map guest t.nextHostId interface) u) :
    Shrinks t ((u.unallocateHostId t.nextHostId).removeGuest guest) where
  nextHostId := by
    have next : u.nextHostId = t.nextHostId + 1 := shrinks.nextHostId
    have back : t.nextHostId + 1 - 1 = t.nextHostId := UInt32.add_sub_cancel _ _
    simp only [ShadowTable.remove_guest_next_host_id, ShadowTable.unallocateHostId, next, back, if_true]
  nextGuestServerId := by
    rw [ShadowTable.remove_guest_next_guest_server_id, ShadowTable.unallocate_host_id_next_guest, shrinks.nextGuestServerId]
    rfl
  pairs g h named found := by
    obtain ⟨other, was⟩ := (ShadowTable.host_id_remove_guest _ guest g h named).mp found
    rw [ShadowTable.unallocate_host_id_host_id] at was
    obtain ⟨mapped, kept⟩ := shrinks.pairs g h named was
    rw [ShadowTable.host_id_map _ _ _ _ _ _ named] at mapped
    obtain ⟨same, -⟩ | ⟨-, -, before⟩ := mapped
    · exact absurd same other
    · refine ⟨before, ?_⟩
      rw [ShadowTable.interface_remove_guest, if_neg other, ShadowTable.unallocate_host_id_interface, kept,
        ShadowTable.interface_map, if_neg other]
      rfl
  null absent := by
    rw [ShadowTable.interface_remove_guest, if_neg (Ne.symm nonzero), ShadowTable.unallocate_host_id_interface]
    refine shrinks.null ?_
    rw [ShadowTable.interface_map, if_neg (Ne.symm nonzero)]
    exact absent

section Told

variable (p : Protocol) (s : Session)

theorem tell_client_objects (guestId : UInt32) (interface : Interface) (event : String) (payload : Bytes) :
    (tellClient p s guestId interface event payload).objects = s.objects := by
  unfold tellClient
  split <;> rfl

theorem synthesize_delete_id_objects (guestId : UInt32) : (synthesizeDeleteId p s guestId).objects = s.objects := by
  unfold synthesizeDeleteId
  split
  · rfl
  · exact tell_client_objects p s _ _ _ _

theorem synthesize_frame_done_objects (callback : UInt32) : (synthesizeFrameDone p s callback).objects = s.objects := by
  unfold synthesizeFrameDone
  split
  · rfl
  · rw [synthesize_delete_id_objects, tell_client_objects]

-- Answering a stale sender tells the client things, and may remove that sender.
theorem answer_stale_sender_spec (m : Inbound) (created : Option Creation) :
    TellsClient p s (answerStaleSender p s m created) ∧
      ((answerStaleSender p s m created).objects = s.objects ∨
        (answerStaleSender p s m created).objects = s.objects.removeGuest m.sender) := by
  unfold answerStaleSender
  split
  · refine ⟨(synthesize_delete_id_frame p s m.sender).then_same rfl rfl rfl rfl, .inr ?_⟩
    exact congrArg (fun objects : ShadowTable => objects.removeGuest m.sender) (synthesize_delete_id_objects p s m.sender)
  · split
    · split
      · exact ⟨.refl s, .inl rfl⟩
      · exact ⟨synthesize_frame_done_frame p s _, .inl (synthesize_frame_done_objects p s _)⟩
    · exact ⟨.refl s, .inl rfl⟩

end Told

theorem roll_back_creation_trace (s : Session) (m : Inbound) (created : Option Creation) :
    (rollBackCreation s m created).trace = s.trace := by
  cases created <;> rfl

theorem roll_back_creation_objects (s : Session) (m : Inbound) (phantom : Creation) (request : m.direction = .clientToHost)
    (hostId : UInt32) (mapped : s.objects.hostId phantom.guestId = some hostId) :
    (rollBackCreation s m (some phantom)).objects = (s.objects.unallocateHostId hostId).removeGuest phantom.guestId := by
  simp only [rollBackCreation, request, mapped]

-- A request whose sender has no translation leaves the view as it was, but for
-- what the client is told and the pairs that are gone.
theorem drop_stale_sender_moves {p : Protocol} {named : Prop} {phase : Phase} (s noted : Session) (m : Inbound)
    (created : Option Creation) (settled : phase ≠ .recovering) (request : m.direction = .clientToHost) (trace : noted.trace = s.trace)
    (objects : match created with
      | none => noted.objects = s.objects
      | some c => noted.objects = s.objects.allocateHostId.2.map c.guestId s.objects.nextHostId c.interface ∧ c.guestId ≠ 0 ∧
          c.guestId ≠ m.sender) :
    Moves p named phase s.view (dropStaleSender p noted m created).view := by
  obtain ⟨frame, either⟩ := answer_stale_sender_spec p noted m created
  obtain ⟨added, tells, grown⟩ := frame.trace
  have shrinks : Shrinks s.objects (dropStaleSender p noted m created).objects := by
    cases created with
    | none =>
        dsimp only at objects
        rw [objects] at either
        show Shrinks s.objects (answerStaleSender p noted m none).objects
        rcases either with same | gone
        · rw [same]
          exact .refl _
        · rw [gone]
          exact shrinks_remove _ _
    | some c =>
        obtain ⟨mapped, nonzero, other⟩ := objects
        rw [mapped] at either
        have whole : Shrinks (s.objects.allocateHostId.2.map c.guestId s.objects.nextHostId c.interface)
            (answerStaleSender p noted m (some c)).objects := by
          rcases either with same | gone
          · rw [same]
            exact .refl _
          · rw [gone]
            exact shrinks_remove _ _
        have still : (answerStaleSender p noted m (some c)).objects.hostId c.guestId = some s.objects.nextHostId := by
          have here := ShadowTable.host_id_map_same s.objects.allocateHostId.2 c.guestId s.objects.nextHostId c.interface nonzero
          rcases either with same | gone
          · rw [same]
            exact here
          · rw [gone, ShadowTable.host_id_remove_guest _ _ _ _ nonzero]
            exact ⟨other, here⟩
        show Shrinks s.objects (rollBackCreation (answerStaleSender p noted m (some c)) m (some c)).objects
        rw [roll_back_creation_objects _ m c request _ still]
        exact shrinks_rolled_back s.objects _ c.guestId c.interface nonzero whole
  have told : Moves p named phase s.view _ := Moves.entries added (fun entry member v => .told v entry (tells entry member)) s.view
  have reached : (dropStaleSender p noted m created).view = ⟨(dropStaleSender p noted m created).objects, s.trace ++ added⟩ := by
    rw [Session.view, dropStaleSender, roll_back_creation_trace, grown, trace]
  rw [reached]
  exact told.tail (.shrunk _ _ settled shrinks)

section Forwarding

variable (ambient : Ambient) (s : Session) (m : Inbound) (created : Option Creation) (msg : Bytes)

theorem forward_view : ∃ fds outcome, (forward ambient s m created msg).2.view =
    if live s m.direction then s.view.log (.sent ⟨m.direction.dst, .relayed, m.interface, msg, fds, outcome⟩) else s.view := by
  by_cases alive : live s m.direction = true
  · simp only [forward, if_pos alive]
    exact ⟨_, _, rfl⟩
  · simp only [forward, if_neg alive]
    exact ⟨[], .complete, rfl⟩

theorem observe_input_view (quiet : m.carriesInputSerial = false) (payload : Bytes) :
    (observeInput ambient s m payload).view = s.view := by
  simp only [observeInput, spliceOnInput, quiet, Bool.and_false, Bool.false_eq_true, if_false]
  rfl

theorem request_carries_no_serial (request : m.direction = .clientToHost) : m.carriesInputSerial = false := by
  simp [Inbound.carriesInputSerial, Inbound.isEvent, request]

end Forwarding

theorem pairs_right {α β : Type} {r : α → β → Prop} {left : List α} {right : List β} (pairs : List.Forall₂ r left right) (b : β)
    (member : b ∈ right) : ∃ a, r a b := by
  induction pairs with
  | nil => cases member
  | cons related _ ih =>
      rcases List.mem_cons.mp member with rfl | later
      · exact ⟨_, related⟩
      · exact ih later

theorem stands_for_translated {p : Protocol} (t : ShadowTable) (trace : List Traffic) (guestId hostId : UInt32)
    (translated : t.hostId guestId = some hostId) : StandsFor (View.names p ⟨t, trace⟩) guestId hostId := by
  by_cases null : guestId = 0
  · subst null
    cases translated
    exact .inl ⟨rfl, rfl⟩
  · obtain ⟨interface, known⟩ := t.host_id_interface guestId hostId null translated
    exact .inr ⟨interface, .inr ⟨guestId, rfl, known, .inl translated⟩⟩

-- The client names its new objects by ids that are neither null nor the sender's.
def PicksFresh (p : Protocol) (objects : ShadowTable) (msg : Bytes) : Prop :=
  ∀ interface newId, objects.interface (senderOf msg) = some interface →
    (decode p .clientToHost interface msg).bind Call.newId = some newId → newId ≠ 0 ∧ newId ≠ senderOf msg

section Resolved

variable (env : Env) (covered : Covered env.protocol) (ambient : Ambient) (s : Session) (direction : Direction) (msg : Bytes)
  (m : Inbound) (resolved : Resolved env.protocol s.objects direction (headerOf msg) msg m) (long : headerLen ≤ msg.length)
  (heard : (ledger env.protocol s.trace).heard direction.src = some msg) (created : Option Creation) (out : Bytes)
  (outgoing : Outgoing env.protocol s.objects m created out) {named : Prop}

include resolved outgoing heard in
theorem request_addressed (request : direction = .clientToHost) (hostId : UInt32)
    (translated : s.objects.hostId m.sender = some hostId) (sent : Sent)
    (interface : sent.interface = m.interface) (bytes : sent.msg = writeSenderId out hostId) :
    Addressed env.protocol ((ledger env.protocol s.trace).heard .gtk) (s.view.names env.protocol) sent := by
  subst request
  have sending := outgoing.send hostId
  have sender : senderOf sent.msg = hostId := by
    rw [bytes]
    exact sender_of_written out hostId outgoing.long
  have known : s.view.names env.protocol (some (senderOf msg)) (senderOf sent.msg) sent.interface := by
    rw [sender, interface, ← resolved_request env s.objects _ msg m resolved rfl]
    exact .inr ⟨m.sender, rfl, resolved_interface env s.objects _ msg m resolved, .inl translated⟩
  have pairs : ∀ call, decode env.protocol .clientToHost sent.interface sent.msg = some call →
      List.Forall₂ (StandsFor (s.view.names env.protocol)) m.originals call.objects := by
    intro call decoded
    rw [interface, bytes, ← resolved.way] at decoded
    refine (sending.objects call decoded).imp fun guestId hostId found => ?_
    rw [resolved.way] at found
    exact stands_for_translated _ _ _ _ found
  refine ⟨⟨_, known⟩, fun call decoded object member => ?_, fun _ => ⟨msg, heard, known, fun call decoded => ?_⟩⟩
  · obtain ⟨guestId, stands⟩ := pairs_right (pairs call decoded) object member
    rcases stands with ⟨-, null⟩ | ⟨i, names⟩
    · exact .inl null
    · exact .inr ⟨_, i, names⟩
  · refine ⟨_, by rw [interface]; exact resolved_decode env s.objects _ msg m resolved, ?_⟩
    have originals := resolved.originals
    have same : (callOf env.protocol m.desc m.walk msg).objects = m.originals := originals.symm
    rw [same]
    exact pairs call decoded

include outgoing in
theorem outgoing_makes (way : direction = m.direction) (c : Creation) (made : created = some c) (otherSide : UInt32) (sent : Sent)
    (peer : sent.peer.toward = direction) (interface : sent.interface = m.interface) (bytes : sent.msg = writeSenderId out otherSide) :
    sent.Makes env.protocol (c.rewritten direction) c.interface := by
  have sending := outgoing.send otherSide
  obtain ⟨call, decoded, child⟩ := sending.creates c made
  refine ⟨call, by rw [peer, interface, bytes, way]; exact decoded, ?_, child⟩
  rw [sending.newId call decoded, made, way]
  rfl

include resolved outgoing in
theorem outgoing_quiet (made : created = none) (otherSide : UInt32) (sent : Sent) (peer : sent.peer.toward = direction)
    (interface : sent.interface = m.interface) (bytes : sent.msg = writeSenderId out otherSide) : sent.newId env.protocol = none := by
  have sending := outgoing.send otherSide
  unfold Sent.newId
  rw [peer, interface, bytes, ← resolved.way]
  cases decoded : decode env.protocol m.direction m.interface (writeSenderId out otherSide) with
  | none => rfl
  | some call =>
      rw [Option.bind_some, sending.newId call decoded, made]
      rfl

-- The new id of a message is the word its own walk located, untouched by the
-- translation of the objects.
include resolved long in
theorem original_new_id (translated : Bytes) (offset : Nat) (located : m.walk.newIdOffset = some offset)
    (translating : translateObjects s.objects direction m.walk.objectOffsets msg = some translated) :
    (decode env.protocol direction m.interface msg).bind Call.newId = some (wordAt translated (headerLen + offset)) := by
  rw [resolved_decode env s.objects direction msg m resolved, Option.bind_some]
  simp only [callOf, located, Option.map_some, Option.some.injEq]
  have apart := walk_apart _ _ _ resolved.walk
  exact (translate_objects_apart s.objects direction m.walk.objectOffsets msg translated offset
    (fun object member => resolved_slot_fits env s.objects direction _ msg m resolved long object (.inl member))
    (fun object member => by have := apart.newId offset located object member; omega) translating).symm

end Resolved

-- A request that creates maps the client's id to the next one of the host.
structure Brings (p : Protocol) (s introduced : Session) (m : Inbound) (msg : Bytes) (c : Creation) : Prop where
  mapped : introduced.objects = s.objects.allocateHostId.2.map c.guestId s.objects.nextHostId c.interface
  nonzero : c.guestId ≠ 0
  other : c.guestId ≠ m.sender
  next : c.hostId = s.objects.nextHostId
  original : (decode p .clientToHost m.interface msg).bind Call.newId = some c.guestId

section Requests

variable (env : Env) (covered : Covered env.protocol) (ambient : Ambient) (s : Session) (msg : Bytes) (m : Inbound)
  (resolved : Resolved env.protocol s.objects .clientToHost (headerOf msg) msg m) (long : headerLen ≤ msg.length)
  (heard : (ledger env.protocol s.trace).heard .gtk = some msg) (picks : PicksFresh env.protocol s.objects msg)
  (translated rewritten renamed : Bytes) (created : Option Creation) (introduced forgotten next : Session) (disposal : Disposal)
  (translating : translateObjects s.objects .clientToHost m.walk.objectOffsets msg = some translated)
  (introducing : introduceObject env.protocol s m translated = .ok (created, introduced, rewritten))
  (forgetting : forgetDeleted introduced m rewritten = some (forgotten, renamed)) {named : Prop}

include resolved long picks translating introducing in
theorem introduced_request : introduced.trace = s.trace ∧ introduced.frozen = s.frozen ∧
    ((created = none ∧ introduced.objects = s.objects) ∨ ∃ c, created = some c ∧ Brings env.protocol s introduced m msg c) := by
  obtain ⟨-, rfl, rfl, -⟩ | ⟨offset, child, version, located, -, rfl, rfl, -⟩ := introduce_object_ok _ _ _ _ _ _ _ introducing
  · exact ⟨rfl, rfl, .inl ⟨rfl, rfl⟩⟩
  · have original := original_new_id env s .clientToHost msg m resolved long translated offset located translating
    have sender := resolved_request env s.objects _ msg m resolved rfl
    have typed := resolved_interface env s.objects _ msg m resolved
    obtain ⟨nonzero, other⟩ := picks m.interface _ (by rw [← sender]; exact typed) original
    refine ⟨rfl, rfl, .inr ⟨_, rfl, ?_⟩⟩
    have request : m.direction = .clientToHost := resolved.way
    have shape : createObject s.objects m.direction (wordAt translated (headerLen + offset)) child =
        (⟨wordAt translated (headerLen + offset), s.objects.nextHostId, child⟩,
          s.objects.allocateHostId.2.map (wordAt translated (headerLen + offset)) s.objects.nextHostId child) := by
      rw [request]
      rfl
    refine ⟨?_, ?_, ?_, ?_, ?_⟩
    · show (createObject s.objects m.direction (wordAt translated (headerLen + offset)) child).2 = _
      rw [shape]
    · rw [shape]
      exact nonzero
    · rw [shape, sender]
      exact other
    · rw [shape]
    · rw [shape]
      exact original

include covered resolved in
theorem request_deletes_nothing (result : forgetDeleted introduced m rewritten = some (forgotten, renamed)) : forgotten = introduced := by
  by_cases deletes : m.interface.name = "wl_display" ∧ m.desc.name = "delete_id"
  · have event := (delete_id_plain env covered s.objects .clientToHost msg m resolved deletes.1 deletes.2).1
    cases event
  · exact (forget_deleted_other _ _ _ _ _ result deletes).1

include resolved heard in
-- The write of a live connection, as a move: with a creation the object is born.
theorem written_request_moves (noted : Session) (out : Bytes) (outgoing : Outgoing env.protocol s.objects m created out)
    (otherSide : UInt32) (found : noted.objects.hostId m.sender = some otherSide) (fds : List Fd) (outcome : WriteOutcome)
    (trace : noted.trace = s.trace)
    (objects : (created = none ∧ noted.objects = s.objects) ∨ ∃ c, created = some c ∧ Brings env.protocol s noted m msg c) :
    Moves env.protocol named .relaying s.view
      (noted.view.log (.sent ⟨.host, .relayed, m.interface, writeSenderId out otherSide, fds, outcome⟩)) := by
  obtain ⟨rfl, same⟩ | ⟨c, rfl, brings⟩ := objects
  · rw [same] at found
    have reached : noted.view = s.view := by
      rw [Session.view, same, trace]
      rfl
    rw [reached]
    refine .single (.asked s.view _ (by decide) rfl ?_ fun _ => ?_)
    · exact outgoing_quiet env s .clientToHost msg m resolved none out outgoing rfl otherSide _ rfl rfl rfl
    · exact request_addressed env s .clientToHost msg m resolved heard none out outgoing rfl otherSide found _ rfl rfl
  · have there : s.objects.hostId m.sender = some otherSide := by
      rw [brings.mapped] at found
      by_cases null : m.sender = 0
      · rw [null] at found ⊢
        exact found
      · rw [ShadowTable.host_id_map _ _ _ _ _ _ null] at found
        obtain ⟨same, -⟩ | ⟨-, -, was⟩ := found
        · exact absurd same.symm brings.other
        · exact was
    have makes := outgoing_makes env s .clientToHost m (some c) out outgoing resolved.way.symm c rfl otherSide
      ⟨.host, .relayed, m.interface, writeSenderId out otherSide, fds, outcome⟩ rfl rfl rfl
    have id : c.rewritten .clientToHost = s.objects.nextHostId := brings.next
    rw [id] at makes
    have owner : (ledger env.protocol s.trace).owner env.protocol
        ⟨.host, .relayed, m.interface, writeSenderId out otherSide, fds, outcome⟩ = some c.guestId := by
      simp only [Ledger.owner, heard, Option.bind_some]
      exact brings.original
    have reached : noted.view = ⟨s.objects.allocateHostId.2.map c.guestId s.objects.nextHostId c.interface, s.trace⟩ := by
      rw [Session.view, brings.mapped, trace]
    rw [reached]
    refine .single (.born s.view _ c.interface c.guestId (by decide) rfl makes brings.nonzero owner (by simp) fun _ => ?_)
    exact request_addressed env s .clientToHost msg m resolved heard (some c) out outgoing rfl otherSide there _ rfl rfl

include covered resolved long heard picks translating introducing forgetting in
theorem request_moves (passing : PassedOn env ambient forgotten m created renamed disposal next) :
    Moves env.protocol named (.ofFrozen s.frozen) s.view next.view := by
  have request : m.direction = .clientToHost := resolved.way
  obtain rfl := request_deletes_nothing env covered s msg m resolved rewritten renamed introduced forgotten forgetting
  obtain ⟨trace, frozen, objects⟩ :=
    introduced_request env s msg m resolved long picks translated rewritten created forgotten translating introducing
  have view := fun payload => observe_input_view ambient forgotten m (request_carries_no_serial m request) payload
  cases passing with
  | staleGeneration updated observed stale => simp [staleRelease, Inbound.isEvent, request] at stale
  | untranslatedSender noted observed failed =>
      have same : noted.view = forgotten.view := by
        rw [observed]
        exact view _
      have table : noted.objects = forgotten.objects := congrArg View.objects same
      refine drop_stale_sender_moves s noted m created (of_frozen_settled _) request ((congrArg View.trace same).trans trace) ?_
      obtain ⟨rfl, unchanged⟩ | ⟨c, rfl, brings⟩ := objects
      · exact table.trans unchanged
      · exact ⟨table.trans brings.mapped, brings.nonzero, brings.other⟩
  | forwarded noted otherSide observed fresh found =>
      have same : noted.view = forgotten.view := by
        rw [observed]
        exact view _
      have table : noted.objects = forgotten.objects := congrArg View.objects same
      have history : noted.trace = s.trace := (congrArg View.trace same).trans trace
      have thawed : noted.frozen = s.frozen := by
        rw [observed]
        exact ((observe_input_frame forgotten ambient m _).frozen).trans frozen
      obtain ⟨fds, outcome, forwards⟩ := forward_view ambient noted m created
        (writeSenderId (updateRecipes env ambient (observeInput ambient forgotten m (renamed.drop headerLen)).graph m renamed).2 otherSide)
      simp only [otherSideSenderId, request] at found
      rw [forwards]
      by_cases gone : s.frozen = true
      · have dead : live noted m.direction = false := by simp [live, request, thawed, gone]
        have reached : noted.view = ⟨forgotten.objects, s.trace⟩ := by rw [Session.view, table, history]
        rw [dead, gone, reached]
        obtain ⟨-, unchanged⟩ | ⟨c, -, brings⟩ := objects
        · rw [unchanged]
          exact .refl
        · refine .single (.phantom s.view forgotten.objects rfl ?_ fun absent => ?_)
          · rw [brings.mapped]
            rfl
          · rw [brings.mapped, ShadowTable.interface_map, if_neg (Ne.symm brings.nonzero)]
            exact absent
      · have alive : s.frozen = false := Bool.eq_false_iff.mpr gone
        have lives : live noted m.direction = true := by simp [live, request, thawed, alive]
        rw [lives, alive, if_pos rfl, request]
        have outgoing := relayed_outgoing env covered s.objects .clientToHost msg m resolved long s forgotten forgotten translated
          rewritten renamed created translating introducing forgetting ambient
          (observeInput ambient forgotten m (renamed.drop headerLen)).graph
        refine written_request_moves env s msg m resolved heard created noted _ outgoing otherSide found fds outcome history ?_
        obtain ⟨nothing, unchanged⟩ | ⟨c, made, brings⟩ := objects
        · exact .inl ⟨nothing, table.trans unchanged⟩
        · exact .inr ⟨c, made, { brings with mapped := table.trans brings.mapped }⟩

end Requests

theorem walk_uint_congr (a b : Bytes) (lengths : a.length = b.length) : walkSignature a [.uint] = walkSignature b [.uint] := by
  simp only [walkSignature, walkFrom, List.foldlM_cons, List.foldlM_nil, walkArgument, advance_congr a b 0 4 lengths]

-- An event that creates maps the next id of the proxy's own to the host's.
structure Announces (p : Protocol) (s introduced : Session) (m : Inbound) (msg : Bytes) (c : Creation) : Prop where
  mapped : introduced.objects = s.objects.allocateGuestServerId.2.map s.objects.nextGuestServerId c.hostId c.interface
  next : c.guestId = s.objects.nextGuestServerId
  original : (decode p .hostToClient m.interface msg).bind Call.newId = some c.hostId

section Events

variable (env : Env) (covered : Covered env.protocol) (ambient : Ambient) (s : Session) (msg : Bytes) (m : Inbound)
  (resolved : Resolved env.protocol s.objects .hostToClient (headerOf msg) msg m) (long : headerLen ≤ msg.length)
  (heard : (ledger env.protocol s.trace).heard .host = some msg)
  (translated rewritten renamed : Bytes) (created : Option Creation) (introduced forgotten next : Session) (disposal : Disposal)
  (translating : translateObjects s.objects .hostToClient m.walk.objectOffsets msg = some translated)
  (introducing : introduceObject env.protocol s m translated = .ok (created, introduced, rewritten))
  (forgetting : forgetDeleted introduced m rewritten = some (forgotten, renamed)) {named : Prop}

include resolved long translating introducing in
theorem introduced_event : introduced.trace = s.trace ∧
    ((created = none ∧ introduced = s) ∨ ∃ c, created = some c ∧ Announces env.protocol s introduced m msg c) := by
  obtain ⟨-, rfl, rfl, -⟩ | ⟨offset, child, version, located, -, rfl, rfl, -⟩ := introduce_object_ok _ _ _ _ _ _ _ introducing
  · exact ⟨rfl, .inl ⟨rfl, rfl⟩⟩
  · have original := original_new_id env s .hostToClient msg m resolved long translated offset located translating
    refine ⟨rfl, .inr ⟨_, rfl, ?_⟩⟩
    have event : m.direction = .hostToClient := resolved.way
    have shape : createObject s.objects m.direction (wordAt translated (headerLen + offset)) child =
        (⟨s.objects.nextGuestServerId, wordAt translated (headerLen + offset), child⟩,
          s.objects.allocateGuestServerId.2.map s.objects.nextGuestServerId (wordAt translated (headerLen + offset)) child) := by
      rw [event]
      rfl
    refine ⟨?_, by rw [shape], by rw [shape]; exact original⟩
    show (createObject s.objects m.direction (wordAt translated (headerLen + offset)) child).2 = _
    rw [shape]

include resolved introducing in
theorem quiet_event_creates_nothing (quiet : ArgumentType.newId ∉ m.desc.signature) : created = none ∧ introduced = s := by
  have located := walk_new_id _ _ _ resolved.walk
  obtain ⟨-, rfl, rfl, -⟩ | ⟨offset, child, version, there, -, -, -, -⟩ := introduce_object_ok _ _ _ _ _ _ _ introducing
  · exact ⟨rfl, rfl⟩
  · simp [there, quiet] at located

include covered resolved in
theorem delete_id_rewritten (display : m.interface.name = "wl_display") (deletes : m.desc.name = "delete_id")
    (translating : translateObjects s.objects .hostToClient m.walk.objectOffsets msg = some translated)
    (introducing : introduceObject env.protocol s m translated = .ok (created, introduced, rewritten)) :
    rewritten = msg ∧ created = none ∧ introduced = s ∧ 4 ≤ (msg.drop headerLen).length := by
  have signature := (delete_id_plain env covered s.objects .hostToClient msg m resolved display deletes).2
  have quiet := quiet_event_creates_nothing env s msg m resolved translated rewritten created introduced introducing (by simp [signature])
  have walked := resolved.walk
  have plain := walk_object_count _ _ _ walked
  rw [signature] at plain walked
  have none : m.walk.objectOffsets = [] := List.length_eq_zero_iff.mp plain
  rw [none] at translating
  cases translating
  refine ⟨?_, quiet.1, quiet.2, ?_⟩
  · obtain ⟨-, -, -, rfl⟩ | ⟨offset, child, version, -, -, made, -, -⟩ := introduce_object_ok _ _ _ _ _ _ _ introducing
    · rfl
    · rw [quiet.1] at made
      cases made
  · obtain ⟨last, stepped, -⟩ := walk_signature_from _ _ _ walked
    obtain ⟨next, first, -⟩ := walk_from_cons _ _ _ _ _ stepped
    have strides := walk_argument_strides _ _ _ _ first
    simp only [walkArgument] at first
    split at first
    · cases first
    · rename_i stop advanced
      have fits := (advance_ok _ _ _ _ advanced).2
      omega

include covered resolved translating introducing forgetting in
theorem delete_id_forgets (display : m.interface.name = "wl_display") (deletes : m.desc.name = "delete_id") :
    ∃ guestId, s.objects.guestId (wordAt msg headerLen) = some guestId ∧ created = none ∧
      forgotten.objects = s.objects.removeGuest guestId ∧ forgotten.trace = s.trace ∧ renamed = setWord msg headerLen guestId ∧
      headerLen + 4 ≤ msg.length := by
  obtain ⟨rfl, rfl, rfl, fits⟩ := delete_id_rewritten env covered s msg m resolved translated rewritten created introduced display
    deletes translating introducing
  have sized : headerLen + 4 ≤ rewritten.length := by
    simp only [List.length_drop] at fits
    omega
  have read : readU32 rewritten headerLen = some (wordAt rewritten headerLen) := by rw [readU32, if_pos sized]
  unfold forgetDeleted at forgetting
  rw [if_pos ⟨display, deletes⟩, read] at forgetting
  dsimp only at forgetting
  split at forgetting
  · cases forgetting
  · rename_i guestId found
    cases forgetting
    exact ⟨guestId, found, rfl, rfl, rfl, rfl, sized⟩

include resolved heard in
theorem event_delivered (v : View) (interfaces : v.objects.interface m.sender = s.objects.interface m.sender)
    (guests : v.objects.guestId (senderOf msg) = s.objects.guestId (senderOf msg))
    (still : (ledger env.protocol v.trace).heard .host = (ledger env.protocol s.trace).heard .host) (sent : Sent)
    (sender : senderOf sent.msg = m.sender) (interface : sent.interface = m.interface) :
    Delivered ((ledger env.protocol v.trace).heard .host) (v.names env.protocol) sent := by
  refine ⟨msg, still.trans heard, .inr ⟨m.sender, by rw [sender], ?_, .inr ?_⟩⟩
  · rw [interfaces, interface]
    exact resolved_interface env s.objects _ msg m resolved
  · rw [guests]
    exact resolved_event env s.objects _ msg m resolved rfl

include resolved in
-- What frees is told from the table entry alone.
theorem event_frees (out : Bytes) (opcode : opcodeOfMessage out = m.header.opcode) (call : Call) (interface : Interface)
    (same : interface = m.interface) (decoded : decode env.protocol .hostToClient interface out = some call) : call.desc = m.desc := by
  subst same
  obtain ⟨walk, listed, walked, is⟩ := decode_inv _ _ _ _ _ decoded
  have known := resolved_listed env s.objects .hostToClient msg m resolved
  have head : opcodeOfMessage out = opcodeOfMessage msg := by
    rw [opcode, resolved.head]
    rfl
  rw [head, known] at listed
  exact (Option.some.inj listed).symm

theorem heard_written (p : Protocol) (history added : List Traffic) (writes : ∀ entry ∈ added, ∃ m, entry = .sent m) :
    (ledger p (history ++ added)).heard = (ledger p history).heard := by
  induction added using List.reverseRecOn with
  | nil => rw [List.append_nil]
  | append_singleton added entry ih =>
      obtain ⟨m, rfl⟩ := writes entry (by simp)
      rw [← List.append_assoc, ledger_snoc]
      exact (write_heard p _ m).trans (ih fun e member => writes e (List.mem_append_left _ member))

include covered resolved in
theorem serial_event_quiet (serial : m.carriesInputSerial = true) :
    ArgumentType.newId ∉ m.desc.signature ∧ m.interface.name ≠ "wl_display" := by
  have named : m.interface.name ∈ ["wl_pointer", "wl_keyboard", "wl_touch"] := by
    simp only [Inbound.carriesInputSerial, Bool.or_eq_true, is_event_iff] at serial
    simp only [List.mem_cons, List.not_mem_nil, or_false]
    tauto
  have member := resolved_member env s.objects .hostToClient msg m resolved
  refine ⟨covered.quietInput m.interface named m.desc member, fun display => ?_⟩
  rw [display] at named
  simp at named

-- The write of an event, as a move, in the three ways an event can use ids.
include resolved heard in
theorem written_event_moves (forgotten : Session) (out : Bytes) (outgoing : Outgoing env.protocol s.objects m created out)
    (fds : List Fd) (outcome : WriteOutcome) (trace : forgotten.trace = s.trace)
    (objects : (m.interface.name = "wl_display" ∧ m.desc.name = "delete_id" → created = none ∧
        (∃ call, decode env.protocol .hostToClient m.interface (writeSenderId out m.sender) = some call) ∧
        ∃ guestId, s.objects.guestId (wordAt msg headerLen) = some guestId ∧ forgotten.objects = s.objects.removeGuest guestId) ∧
      (¬(m.interface.name = "wl_display" ∧ m.desc.name = "delete_id") → (created = none ∧ forgotten.objects = s.objects) ∨
        ∃ c, created = some c ∧ Announces env.protocol s forgotten m msg c)) :
    Moves env.protocol named .relaying s.view
      (forgotten.view.log (.sent ⟨.gtk, .relayed, m.interface, writeSenderId out m.sender, fds, outcome⟩)) := by
  have sending := outgoing.send m.sender
  have delivered := event_delivered env s msg m resolved heard s.view rfl rfl rfl
    ⟨.gtk, .relayed, m.interface, writeSenderId out m.sender, fds, outcome⟩ (sender_of_written out m.sender outgoing.long) rfl
  have frees : ∀ call, decode env.protocol .hostToClient m.interface (writeSenderId out m.sender) = some call →
      Ledger.frees m.interface call = decide (m.interface.name = "wl_display" ∧ m.desc.name = "delete_id") := by
    intro call decoded
    have desc := event_frees env s msg m resolved (writeSenderId out m.sender) sending.opcode call m.interface rfl decoded
    rw [Ledger.frees, desc]
  by_cases deletes : m.interface.name = "wl_display" ∧ m.desc.name = "delete_id"
  · obtain ⟨rfl, ⟨call, decoded⟩, guestId, found, removed⟩ := objects.1 deletes
    have reached : forgotten.view = ⟨s.objects.removeGuest guestId, s.trace⟩ := by rw [Session.view, removed, trace]
    rw [reached]
    refine .single (.deleted s.view _ msg guestId rfl rfl rfl ?_ ?_ heard found fun _ => delivered)
    · exact outgoing_quiet env s .hostToClient msg m resolved none out outgoing rfl m.sender _ rfl rfl rfl
    · have freed := frees call decoded
      rw [decide_eq_true deletes] at freed
      simp only [Sent.frees, Peer.toward, decoded]
      exact freed
  · have keeps : Sent.frees env.protocol ⟨.gtk, .relayed, m.interface, writeSenderId out m.sender, fds, outcome⟩ = false := by
      simp only [Sent.frees, Peer.toward]
      split
      · rfl
      · rename_i call decoded
        rw [frees call decoded, decide_eq_false deletes]
    obtain ⟨rfl, same⟩ | ⟨c, rfl, announces⟩ := objects.2 deletes
    · have reached : forgotten.view = s.view := by
        rw [Session.view, same, trace]
        rfl
      rw [reached]
      refine .single (.passed s.view _ (by decide) rfl rfl ?_ keeps fun _ => delivered)
      exact outgoing_quiet env s .hostToClient msg m resolved none out outgoing rfl m.sender _ rfl rfl rfl
    · have makes := outgoing_makes env s .hostToClient m (some c) out outgoing resolved.way.symm c rfl m.sender
        ⟨.gtk, .relayed, m.interface, writeSenderId out m.sender, fds, outcome⟩ rfl rfl rfl
      have id : c.rewritten .hostToClient = s.objects.nextGuestServerId := announces.next
      rw [id] at makes
      have reached : forgotten.view =
          ⟨s.objects.allocateGuestServerId.2.map s.objects.nextGuestServerId c.hostId c.interface, s.trace⟩ := by
        rw [Session.view, announces.mapped, trace]
      rw [reached]
      exact .single (.announced s.view _ msg c.hostId c.interface rfl rfl rfl makes keeps heard announces.original fun _ => delivered)

include covered in
theorem observe_input_moves (t : Session) (payload : Bytes) :
    Moves env.protocol named .relaying t.view (observeInput ambient t m payload).view := by
  unfold observeInput spliceOnInput
  split
  · split
    · exact .refl
    · have spliced := attempt_clipboard_splice_moves named covered { t with grabs := observeGrabs t.grabs m payload } ambient
      exact spliced _
  · exact .refl

include covered resolved long translating introducing forgetting in
theorem deleted_event_objects (graph : RecreationGraph)
    (deletes : m.interface.name = "wl_display" ∧ m.desc.name = "delete_id") : created = none ∧
    (∃ call, decode env.protocol .hostToClient m.interface (writeSenderId (updateRecipes env ambient graph m renamed).2 m.sender) =
      some call) ∧
    ∃ guestId, s.objects.guestId (wordAt msg headerLen) = some guestId ∧ forgotten.objects = s.objects.removeGuest guestId := by
  obtain ⟨guestId, found, nothing, removed, -, written, sized⟩ := delete_id_forgets env covered s msg m resolved translated rewritten
    renamed created introduced forgotten translating introducing forgetting deletes.1 deletes.2
  refine ⟨nothing, ?_, guestId, found, removed⟩
  have outgoing := (relayed_outgoing env covered s.objects .hostToClient msg m resolved long s introduced forgotten translated rewritten
    renamed created translating introducing forgetting ambient graph).send m.sender
  have notRequest : m.isRequest "xdg_toplevel" "set_app_id" = false := by simp [Inbound.isRequest, resolved.way]
  have bytes := update_recipes_other env ambient graph m renamed notRequest
  have head : opcodeOfMessage (writeSenderId (updateRecipes env ambient graph m renamed).2 m.sender) = opcodeOfMessage msg := by
    rw [outgoing.opcode, resolved.head]
    rfl
  have signature := (delete_id_plain env covered s.objects .hostToClient msg m resolved deletes.1 deletes.2).2
  have walked := resolved.walk
  rw [signature] at walked
  have lengths : (writeSenderId (updateRecipes env ambient graph m renamed).2 m.sender).length = msg.length := by
    have renamedLength : renamed.length = msg.length := by
      rw [written]
      exact set_word_length _ _ _ sized
    rw [bytes, writeSenderId, set_word_length _ _ _ (by rw [renamedLength]; simp only [headerLen] at sized; omega), renamedLength]
  refine ⟨_, decode_some _ _ _ _ m.desc m.walk (by rw [head]; exact resolved_listed env s.objects _ msg m resolved) ?_⟩
  rw [signature, walk_uint_congr _ (msg.drop headerLen) (by simp only [List.length_drop, lengths])]
  exact walked

include covered resolved long heard translating introducing forgetting in
theorem event_moves (passing : PassedOn env ambient forgotten m created renamed disposal next) :
    Moves env.protocol named .relaying s.view next.view := by
  have event : m.direction = .hostToClient := resolved.way
  have kept : ¬(m.interface.name = "wl_display" ∧ m.desc.name = "delete_id") → forgotten = introduced := fun other =>
    (forget_deleted_other _ _ _ _ _ forgetting other).1
  have nothing := quiet_event_creates_nothing env s msg m resolved translated rewritten created introduced introducing
  cases passing with
  | staleGeneration updated observed stale =>
      obtain ⟨release, -⟩ := Bool.and_eq_true_iff.mp stale
      obtain ⟨-, buffer, named'⟩ := (is_event_iff _ _ _).mp release
      have member := resolved_member env s.objects .hostToClient msg m resolved
      have quiet := covered.quietEvents m.interface "release" (by simp) m.desc member named'
      have same : forgotten = s := by rw [kept (by simp [buffer]), (nothing quiet).2]
      rw [observed, same]
      exact observe_input_moves env covered ambient m s _
  | untranslatedSender noted observed failed =>
      rw [otherSideSenderId, event] at failed
      cases failed
  | forwarded noted otherSide observed fresh found =>
      have other : otherSide = m.sender := by
        rw [otherSideSenderId, event] at found
        exact (Option.some.inj found).symm
      subst other
      obtain ⟨fds, outcome, forwards⟩ := forward_view ambient noted m created
        (writeSenderId (updateRecipes env ambient (observeInput ambient forgotten m (renamed.drop headerLen)).graph m renamed).2 m.sender)
      have outgoing := relayed_outgoing env covered s.objects .hostToClient msg m resolved long s introduced forgotten translated
        rewritten renamed created translating introducing forgetting ambient
        (observeInput ambient forgotten m (renamed.drop headerLen)).graph
      have lives : live noted m.direction = true := by rw [event]; rfl
      have inputView : noted.view = (observeInput ambient forgotten m (renamed.drop headerLen)).view := by
        rw [observed]
        rfl
      rw [forwards, lives, if_pos rfl, event]
      by_cases serial : m.carriesInputSerial = true
      · -- Input events may be the ones a splice rides on; they create and delete nothing.
        obtain ⟨quiet, notDisplay⟩ := serial_event_quiet env covered s msg m resolved serial
        have same : forgotten = s := by rw [kept (fun both => notDisplay both.1), (nothing quiet).2]
        obtain ⟨rfl, -⟩ := nothing quiet
        rw [same] at inputView outgoing ⊢
        have spliced : Moves env.protocol named .relaying s.view _ := observe_input_moves env covered ambient m s (renamed.drop headerLen)
        have aside := observe_input_aside s ambient m (renamed.drop headerLen)
        obtain ⟨added, made, grown⟩ := (observe_input_frame s ambient m (renamed.drop headerLen)).trace
        rw [← inputView] at spliced
        have table : noted.objects = (observeInput ambient s m (renamed.drop headerLen)).objects := congrArg View.objects inputView
        have history : noted.trace = s.trace ++ added := (congrArg View.trace inputView).trans grown
        have writes : ∀ entry ∈ added, ∃ sent, entry = .sent sent := by
          intro entry member
          have fine := made entry member
          cases entry with
          | sent sent => exact ⟨sent, rfl⟩
          | _ => exact fine.elim
        refine spliced.tail (.passed noted.view _ (by decide) rfl rfl ?_ ?_ fun _ => ?_)
        · exact outgoing_quiet env s .hostToClient msg m resolved none _ outgoing rfl m.sender _ rfl rfl rfl
        · simp only [Sent.frees, Peer.toward]
          split
          · rfl
          · simp [Ledger.frees, notDisplay]
        · refine event_delivered env s msg m resolved heard noted.view ?_ ?_ ?_ _ (sender_of_written _ m.sender outgoing.long) rfl
          · exact (congrArg (fun t => t.interface m.sender) table).trans (aside.interface m.sender)
          · exact (congrArg (fun t => t.guestId (senderOf msg)) table).trans (aside.guest_id (senderOf msg))
          · show (ledger env.protocol noted.trace).heard .host = _
            rw [history, heard_written env.protocol s.trace added writes]
      · rw [observe_input_view ambient forgotten m (Bool.eq_false_iff.mpr serial)] at inputView
        rw [inputView]
        obtain ⟨trace, objects⟩ :=
          introduced_event env s msg m resolved long translated rewritten created introduced translating introducing
        have history : forgotten.trace = s.trace := by
          obtain ⟨rfl, -⟩ | ⟨_, _, -, -, -, -, rfl, -⟩ := forget_deleted_some introduced forgotten m rewritten renamed forgetting
          · exact trace
          · exact trace
        refine written_event_moves env s msg m resolved heard created forgotten _ outgoing fds outcome history ⟨fun deletes => ?_, fun other => ?_⟩
        · exact deleted_event_objects env covered ambient s msg m resolved long translated rewritten renamed created introduced
            forgotten translating introducing forgetting _ deletes
        · rw [kept other]
          obtain ⟨none, same⟩ | ⟨c, made, announces⟩ := objects
          · exact .inl ⟨none, by rw [same]⟩
          · exact .inr ⟨c, made, announces⟩

end Events

theorem handle_synthetic_moves {p : Protocol} {named : Prop} {phase : Phase} (ambient : Ambient) (s : Session) (msg : Bytes)
    (opcode : UInt16) : Moves p named phase s.view (handleSyntheticClipboardEvent ambient s msg opcode).view := by
  unfold handleSyntheticClipboardEvent
  split
  · split
    · exact .refl
    · dsimp only
      split
      · exact .refl
      · split
        · exact .refl
        · split
          · exact .single (.noted s.view _ trivial)
          · exact .refl
  · split
    · exact .refl
    · exact .refl

-- What the relay makes of one message, as moves of the view.
theorem relay_message_moves (env : Env) (covered : Covered env.protocol) (ambient : Ambient) (direction : Direction) (s : Session)
    (msg : Bytes) {named : Prop} (long : headerLen ≤ msg.length)
    (heard : (ledger env.protocol s.trace).heard direction.src = some msg)
    (picks : direction = .clientToHost → PicksFresh env.protocol s.objects msg)
    (thawed : direction = .hostToClient → s.frozen = false) :
    Moves env.protocol named (.ofFrozen s.frozen) s.view (relayMessage env ambient direction s (headerOf msg) msg).2.view := by
  have handled := relay_message_handled env ambient direction s (headerOf msg) msg
  generalize (relayMessage env ambient direction s (headerOf msg) msg).1 = disposal at handled
  generalize (relayMessage env ambient direction s (headerOf msg) msg).2 = next at handled
  cases handled with
  | intercepted intercepting => exact handle_synthetic_moves ambient s msg _
  | unknown | parseError | untranslatable => exact .refl
  | unresolvableChild m translated dropped resolved translating failed =>
      obtain ⟨-, -, rfl | ⟨guest, name, rfl⟩⟩ := introduce_object_error _ _ _ _ _ failed
      · exact .refl
      · exact moves_shrunk (of_frozen_settled _) (shrinks_remember _ _ _) rfl
  | untrackedDeleteId m translated rewritten created after resolved translating introducing failed =>
      have deletes : m.interface.name = "wl_display" ∧ m.desc.name = "delete_id" := by
        by_contra other
        rw [forgetDeleted, if_neg other] at failed
        cases failed
      obtain ⟨rfl, -⟩ := delete_id_plain env covered s.objects direction msg m resolved deletes.1 deletes.2
      obtain ⟨-, -, rfl, -⟩ := delete_id_rewritten env covered s msg m resolved translated rewritten created _ deletes.1
        deletes.2 translating introducing
      exact .refl
  | passedOn m translated rewritten renamed created introduced forgotten next disposal spared resolved translating introducing
      forgetting passing =>
      cases direction with
      | clientToHost =>
          exact request_moves env covered ambient s msg m resolved long heard (picks rfl) translated rewritten renamed created
            introduced forgotten _ _ translating introducing forgetting passing
      | hostToClient =>
          rw [thawed rfl]
          exact event_moves env covered ambient s msg m resolved long heard translated rewritten renamed created introduced forgotten
            _ _ translating introducing forgetting passing

end WlResprox
