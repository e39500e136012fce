import WlResprox.Remaps

set_option autoImplicit false

namespace WlResprox

-- The interface of what a request creates, for the requests that are captured.
theorem creates_child {p : Protocol} {request child : String} {signature : List ArgumentType}
    (shape : Creates p request signature child) (interface : Interface) (listed : interface.name ∈ recoveredInterfaces)
    (desc : MessageDesc) (member : desc ∈ p.requests interface) (named : desc.name = request) (walk : SignatureWalk) (msg : Bytes) :
    (callOf p desc walk msg).child = some ⟨child⟩ := by
  have known := (shape.2 interface listed desc member named).2
  simp [callOf, resolveChildInterface, known]

section Requests

variable (env : Env) (detailed : Detailed env.protocol) (ambient : Ambient) (s : Session) (msg : Bytes) (m : Inbound)
  (resolved : Resolved env.protocol s.objects .clientToHost (headerOf msg) msg m)

include detailed

theorem captured_typed (translated : Bytes) (offset : Nat) (c : Creation) (planes planes' : HashMap (UInt32 × List DmabufPlane))
    (recipe : Recreatable) (child : (callOf env.protocol m.desc m.walk msg).child = some c.interface)
    (member : m.desc ∈ env.protocol.requests m.interface)
    (captured : Captured env.protocol m translated offset c planes (some recipe, planes')) :
    recipe.interface = c.interface ∧ recipe.interface.name ∈ recoveredInterfaces := by
  have kind : ∀ (interface request : String) (signature : List ArgumentType) (name : String),
      m.isRequest interface request = true → interface ∈ recoveredInterfaces → Creates env.protocol request signature name →
      (⟨name⟩ : Interface) = c.interface ∧ name ∈ recoveredInterfaces := by
    intro interface request signature name asks listed shape
    obtain ⟨-, here, named⟩ := (is_request_iff _ _ _).mp asks
    have made := creates_child shape m.interface (by rw [here]; exact listed) m.desc member named m.walk msg
    rw [child] at made
    exact ⟨(Option.some.inj made).symm, shape.1⟩
  generalize result : (some recipe, planes') = outcome at captured
  cases captured with
  | nothing | params => cases result
  | global asks listed =>
      cases result
      have every : ∀ name ∈ recreatableGlobals, name ∈ recoveredInterfaces := by decide
      exact ⟨rfl, every _ listed⟩
  | surface asks =>
      cases result
      exact kind _ _ _ _ asks (by decide) detailed.createSurface
  | xdgSurface asks =>
      obtain ⟨_, -, rfl⟩ := Option.map_eq_some_iff.mp (Prod.ext_iff.mp result).1.symm
      exact kind _ _ _ _ asks (by decide) detailed.getXdgSurface
  | xdgToplevel asks =>
      cases result
      exact kind _ _ _ _ asks (by decide) detailed.getToplevel
  | shmBuffer asks =>
      have made := (Prod.ext_iff.mp result).1
      unfold shmBufferRecipe at made
      split at made <;> cases made
      exact kind _ _ _ _ asks (by decide) detailed.createBuffer
  | dmabufBuffer asks =>
      have made := (Prod.ext_iff.mp result).1
      unfold dmabufBufferRecipe at made
      split at made <;> cases made
      exact kind _ _ _ _ asks (by decide) detailed.createImmed
  | seatDevice device asks =>
      cases result
      exact kind _ _ _ _ asks (by decide) (seat_device_creates detailed.toCovered device)
  | viewport asks =>
      obtain ⟨_, -, rfl⟩ := Option.map_eq_some_iff.mp (Prod.ext_iff.mp result).1.symm
      exact kind _ _ _ _ asks (by decide) detailed.getViewport
  | fractionalScale asks =>
      obtain ⟨_, -, rfl⟩ := Option.map_eq_some_iff.mp (Prod.ext_iff.mp result).1.symm
      exact kind _ _ _ _ asks (by decide) detailed.getFractionalScale

include resolved

-- A spent callback takes no requests, so whatever does is the client's.
theorem sender_held {graph : RecreationGraph} {past : List Traffic} (agrees : Agrees env.protocol s.objects graph past) :
    (client env.protocol past).Holds (senderOf msg) m.interface := by
  have known := resolved_interface env s.objects .clientToHost msg m resolved
  rw [resolved_request env s.objects .clientToHost msg m resolved rfl] at known
  rcases agrees.table _ _ known with holds | ⟨callback, -⟩
  · exact holds
  · have member : m.desc ∈ env.protocol.requests m.interface := resolved_member env s.objects .clientToHost msg m resolved
    rw [callback, wlCallback, detailed.callbackRequests] at member
    cases member

theorem created_held {graph : RecreationGraph} {past : List Traffic} (agrees : Agrees env.protocol s.objects graph past)
    (lawful : UnusedId env.protocol past (.took .gtk msg)) (newId : UInt32) (child : Interface)
    (named : (callOf env.protocol m.desc m.walk msg).newId = some newId)
    (kind : (callOf env.protocol m.desc m.walk msg).child = some child) :
    (client env.protocol (past ++ [.took .gtk msg])).Holds newId child :=
  request_holds past _ msg (.inl rfl) lawful m.interface child _ newId (sender_held env detailed s msg m resolved agrees)
    (resolved_decode env s.objects .clientToHost msg m resolved) named kind

end Requests

theorem Agrees.along {p : Protocol} {t : ShadowTable} {graph : RecreationGraph} {past : List Traffic} (agrees : Agrees p t graph past)
    (entry : Traffic) (spares : entry.Spares p) (unused : IdsUnused p (past ++ [entry])) : Agrees p t graph (past ++ [entry]) := by
  refine agrees.onward [entry] unused fun other member g deleted => ?_
  obtain rfl := List.mem_singleton.mp member
  have none : other.deletes p = .none := spares
  rw [none] at deleted
  cases deleted

theorem same_table_unallocate (t : ShadowTable) (id : UInt32) : SameTable t (t.unallocateHostId id) := by
  rw [ShadowTable.unallocate_eq]
  exact ⟨fun _ => rfl, fun _ => rfl, fun _ => rfl, fun _ => rfl⟩

theorem own_request_spares (p : Protocol) (entry : Traffic) (asks : OwnRequest entry) : entry.Spares p := by
  cases entry with
  | sent m => simp [Traffic.Spares, Traffic.deletes, asks.1]
  | _ => cases asks

theorem served_spares (p : Protocol) (entry : Traffic) (served : entry.Served) : entry.Spares p := by
  cases entry with
  | served => rfl
  | _ => cases served

namespace Unlisted

variable {t t' : ShadowTable} {graph : RecreationGraph} {g : UInt32}

theorem remove_guest (t : ShadowTable) (graph : RecreationGraph) (g : UInt32) : Unlisted (t.removeGuest g) (graph.remove g) g where
  table i known := by simp [ShadowTable.interface_remove_guest] at known
  recipes entry member := ((RecreationGraph.mem_remove _ _ _ _).mp member).1

theorem removed (unlisted : Unlisted t graph g) (other : UInt32) : Unlisted (t.removeGuest other) (graph.remove other) g where
  table i known := by
    rw [ShadowTable.interface_remove_guest] at known
    split at known
    · cases known
    · obtain ⟨callback, old⟩ := unlisted.table i known
      exact ⟨callback, by rw [ShadowTable.current_remove_guest, old, Bool.and_false]⟩
  recipes entry member := unlisted.recipes entry ((RecreationGraph.mem_remove _ _ _ _).mp member).2

theorem tabled (unlisted : Unlisted t graph g) (same : SameTable t t') : Unlisted t' graph g where
  table i known := by
    rw [same.interface] at known
    obtain ⟨callback, old⟩ := unlisted.table i known
    exact ⟨callback, by rw [same.current]; exact old⟩
  recipes := unlisted.recipes

end Unlisted

-- Giving up a creation: the id goes from the table and from the graph.
theorem roll_back_creation_some (s : Session) (m : Inbound) (phantom : Creation) : ∃ objects, SameTable s.objects objects ∧
    rollBackCreation s m (some phantom) =
      { s with objects := objects.removeGuest phantom.guestId, graph := s.graph.remove phantom.guestId } := by
  unfold rollBackCreation
  dsimp only
  split
  · exact ⟨_, same_table_unallocate _ _, rfl⟩
  · exact ⟨_, .refl _, rfl⟩

theorem rolled_back_agrees {p : Protocol} {past : List Traffic} (s : Session) (m : Inbound) (created : Option Creation)
    (agrees : Agrees p s.objects s.graph past) :
    Agrees p (rollBackCreation s m created).objects (rollBackCreation s m created).graph past := by
  cases created with
  | none => exact agrees
  | some phantom =>
      obtain ⟨objects, same, rolled⟩ := roll_back_creation_some s m phantom
      rw [rolled]
      exact (agrees.tabled same).removed phantom.guestId

theorem rolled_back_unlisted (s : Session) (m : Inbound) (created : Option Creation) (g : UInt32)
    (unlisted : Unlisted s.objects s.graph g ∨ ∃ c, created = some c ∧ c.guestId = g) :
    Unlisted (rollBackCreation s m created).objects (rollBackCreation s m created).graph g := by
  cases created with
  | none =>
      obtain kept | ⟨c, made, -⟩ := unlisted
      · exact kept
      · cases made
  | some phantom =>
      obtain ⟨objects, same, rolled⟩ := roll_back_creation_some s m phantom
      rw [rolled]
      obtain kept | ⟨c, made, is⟩ := unlisted
      · exact (kept.tabled same).removed phantom.guestId
      · cases made
        rw [is]
        exact .remove_guest _ _ _

-- An answer to a request without a sender deletes what the proxy lets go of.
theorem drop_stale_sender_agrees {p : Protocol} (covered : Covered p) (s : Session) (m : Inbound) (created : Option Creation)
    (agrees : Agrees p s.objects s.graph s.trace) (unused : IdsUnused p (dropStaleSender p s m created).trace) :
    Agrees p (dropStaleSender p s m created).objects (dropStaleSender p s m created).graph (dropStaleSender p s m created).trace := by
  have answered : Agrees p (answerStaleSender p s m created).objects (answerStaleSender p s m created).graph s.trace ∧
      Frame everyPeer (TellsDeleting p fun g => Unlisted (answerStaleSender p s m created).objects
        (answerStaleSender p s m created).graph g ∨ ∃ c, created = some c ∧ c.guestId = g) s (answerStaleSender p s m created) := by
    unfold answerStaleSender
    split
    · have objects : (synthesizeDeleteId p s m.sender).objects = s.objects := synthesize_delete_id_objects p s m.sender
      have graph : (synthesizeDeleteId p s m.sender).graph = s.graph := (synthesize_delete_id_aside p s m.sender).graph
      refine ⟨?_, (synthesize_delete_id_deleting covered s m.sender (.inl ?_)).then_same rfl rfl rfl rfl⟩
      · dsimp only
        rw [objects, graph]
        exact agrees.removed m.sender
      · exact .remove_guest _ _ _
    · split
      · split
        · exact ⟨agrees, .refl s⟩
        · rename_i callback
          have objects := synthesize_frame_done_objects p s callback.guestId
          have graph := (synthesize_frame_done_aside p s callback.guestId).graph
          refine ⟨by rw [objects, graph]; exact agrees, ?_⟩
          exact synthesize_frame_done_deleting covered s callback.guestId fun _ => .inr ⟨callback, rfl, rfl⟩
      · exact ⟨agrees, .refl s⟩
  obtain ⟨kept, told⟩ := answered
  obtain ⟨added, tells, grown⟩ := told.trace
  have trace : (dropStaleSender p s m created).trace = s.trace ++ added := (roll_back_creation_trace _ m created).trans grown
  rw [trace] at unused ⊢
  exact (rolled_back_agrees _ m created kept).onward added unused fun entry member g deleted =>
    rolled_back_unlisted _ m created g ((tells entry member).2 g deleted)

section Turning

variable (env : Env) (detailed : Detailed env.protocol) (ambient : Ambient) (s : Session) (msg : Bytes) (past : List Traffic)
  (agrees : Agrees env.protocol s.objects s.graph past)

include detailed agrees

theorem noted_agrees (grown : s.trace = past ++ [.took .gtk msg]) (unused : IdsUnused env.protocol s.trace) (m : Inbound)
    (created : Option Creation) (translated rewritten : Bytes) (noted : Session)
    (noting : RequestNoted env ambient s msg m created translated rewritten noted) :
    Agrees env.protocol noted.objects noted.graph s.trace := by
  have lawful : UnusedId env.protocol past (.took .gtk msg) := by
    rw [grown, ids_unused_append] at unused
    exact unused.2.1
  have before : Agrees env.protocol s.objects s.graph s.trace := by
    rw [grown] at unused ⊢
    exact agrees.along _ rfl unused
  obtain ⟨graph, creates, updated⟩ := noting.creates
  have made : Agrees env.protocol noted.objects graph s.trace := by
    generalize noted.objects = objects at creates
    generalize noted.pendingDmabufPlanes = planes at creates
    cases creates with
    | nothing quiet => exact before
    | object c offset recipe planes' located newId child next captured =>
        have holds : (client env.protocol s.trace).Holds c.guestId c.interface := by
          rw [grown]
          exact created_held env detailed s msg m noting.resolved agrees lawful c.guestId c.interface newId child
        have allocated : SameTable s.objects s.objects.allocateHostId.2 := ⟨fun _ => rfl, fun _ => rfl, fun _ => rfl, fun _ => rfl⟩
        have mapped := (before.tabled allocated).mapped c.guestId s.objects.nextHostId c.interface holds
        cases recipe with
        | none => exact mapped
        | some recipe =>
            obtain ⟨same, listed⟩ := captured_typed env detailed msg m translated offset c _ _ recipe child
              (resolved_member env s.objects .clientToHost msg m noting.resolved) captured
            exact mapped.recorded c.guestId recipe (by rw [same]; exact holds) listed
  rw [updated]
  exact made.fewer (fun _ _ known => ⟨known, fun old => old⟩) (update_recipes_interfaces env ambient graph m rewritten)

omit detailed agrees in
theorem noted_creation (m : Inbound) (c : Creation) (translated rewritten : Bytes) (noted : Session)
    (noting : RequestNoted env ambient s msg m (some c) translated rewritten noted) :
    (callOf env.protocol m.desc m.walk msg).newId = some c.guestId ∧ (callOf env.protocol m.desc m.walk msg).child = some c.interface := by
  obtain ⟨graph, creates, -⟩ := noting.creates
  generalize noted.objects = objects at creates
  generalize noted.pendingDmabufPlanes = planes at creates
  cases creates with
  | object _ offset recipe planes' located newId child => exact ⟨newId, child⟩

theorem retained_agrees (grown : s.trace = past ++ [.took .gtk msg]) (unused : IdsUnused env.protocol s.trace) (m : Inbound)
    (created : Option Creation) (translated rewritten : Bytes) (noted : Session)
    (noting : RequestNoted env ambient s msg m created translated rewritten noted) (payload : Bytes) (fds : List Fd) :
    Agrees env.protocol noted.objects (retainPool noted.graph m payload created fds) s.trace := by
  have kept := noted_agrees env detailed ambient s msg past agrees grown unused m created translated rewritten noted noting
  unfold retainPool
  split
  · rename_i asks
    split
    · rename_i c fd _
      obtain ⟨-, shm, named⟩ := (is_request_iff _ _ _).mp asks
      obtain ⟨newId, child⟩ := noted_creation env ambient s msg m c translated rewritten noted noting
      have pool := creates_child detailed.createPool m.interface (by rw [shm]; decide) m.desc
        (resolved_member env s.objects .clientToHost msg m noting.resolved) named m.walk msg
      have holds : (client env.protocol s.trace).Holds c.guestId c.interface := by
        rw [grown] at unused ⊢
        exact created_held env detailed s msg m noting.resolved agrees ((ids_unused_append _ _).mp unused).2.1 c.guestId c.interface
          newId child
      rw [child] at pool
      rw [Option.some.inj pool] at holds
      exact kept.recorded _ _ holds (by simp [Recreatable.interface, recoveredInterfaces])
    · exact kept
  · exact kept

omit detailed agrees in
theorem request_turn_grows (next : Session) (turn : RequestTurn env ambient s msg next) : s.trace <+: next.trace := by
  cases turn with
  | dropped table rest unseen => exact ⟨[], by rw [rest, List.append_nil]⟩
  | stale m created translated rewritten noted noting failed is =>
      obtain ⟨added, -, grown⟩ := (drop_stale_sender_frame env.protocol noted m created).trace
      rw [is, grown, noting.trace]
      exact List.prefix_append _ _
  | passed m created translated rewritten out noted otherSide noting found outgoing is =>
      obtain ⟨fds, outcome, trace⟩ := forward_trace ambient noted m created (writeSenderId out otherSide)
      rw [is, trace, noting.trace]
      split
      · exact List.prefix_append _ _
      · exact List.prefix_rfl

theorem request_turn_agrees (grown : s.trace = past ++ [.took .gtk msg]) (next : Session) (unused : IdsUnused env.protocol next.trace)
    (turn : RequestTurn env ambient s msg next) : Agrees env.protocol next.objects next.graph next.trace := by
  have unused' := unused.earlier (request_turn_grows env ambient s msg next turn)
  cases turn with
  | dropped table rest unseen =>
      rw [rest]
      refine Agrees.tabled ?_ table
      rw [grown] at unused' ⊢
      exact agrees.along _ rfl unused'
  | stale m created translated rewritten noted noting failed is =>
      have kept := noted_agrees env detailed ambient s msg past agrees grown unused' m created translated rewritten noted noting
      rw [← noting.trace] at kept
      subst is
      exact drop_stale_sender_agrees detailed.toCovered noted m created kept unused
  | passed m created translated rewritten out noted otherSide noting found outgoing is =>
      obtain ⟨objects, -, -, -, fds, graph⟩ := forward_parts ambient noted m created (writeSenderId out otherSide)
      obtain ⟨sentFds, outcome, trace⟩ := forward_trace ambient noted m created (writeSenderId out otherSide)
      have kept := retained_agrees env detailed ambient s msg past agrees grown unused' m created translated rewritten noted noting
        ((writeSenderId out otherSide).drop headerLen) fds
      rw [← noting.trace] at kept
      rw [is] at unused ⊢
      rw [trace] at unused
      rw [objects, graph, trace]
      have request : m.direction = .clientToHost := noting.resolved.way
      split
      · rename_i passes
        rw [if_pos passes] at unused
        exact kept.along _ (by simp [Traffic.Spares, Traffic.deletes, request, Direction.dst]) unused
      · exact kept

end Turning

section Hearing

variable (env : Env) (ambient : Ambient) (s : Session) (msg : Bytes)

-- Only delete_id deletes, and it names what the proxy translated it to.
theorem relayed_event_deletes (m : Inbound) (resolved : Resolved env.protocol s.objects .hostToClient (headerOf msg) msg m)
    (created : Option Creation) (renamed : Bytes) (outgoing : Outgoing env.protocol s.objects m created renamed) (fds : List Fd)
    (outcome : WriteOutcome) (g : UInt32)
    (deleted : Traffic.deletes env.protocol (.sent ⟨.gtk, .relayed, m.interface, writeSenderId renamed m.sender, fds, outcome⟩) = some g) :
    (m.interface.name = "wl_display" ∧ m.desc.name = "delete_id") ∧ g = wordAt renamed headerLen := by
  simp only [Traffic.deletes, true_and] at deleted
  split at deleted
  · rename_i frees
    have word := word_at_write_sender renamed m.sender headerLen outgoing.long (by decide)
    have opcode := (outgoing.send m.sender).opcode
    have listed := resolved_listed env s.objects .hostToClient msg m resolved
    simp only [Sent.frees, Peer.toward] at frees
    split at frees
    · cases frees
    · rename_i call decoded
      obtain ⟨walk, here, -, -⟩ := decode_inv _ _ _ _ _ decoded
      rw [opcode, resolved.head] at here
      have same : m.desc = call.desc := Option.some.inj (listed.symm.trans here)
      simp only [Ledger.frees, decide_eq_true_eq] at frees
      exact ⟨by rw [same]; exact frees, by rw [← Option.some.inj deleted]; exact word⟩
  · cases deleted

theorem event_brings (past : List Traffic) (m : Sent) (toClient : m.peer = .gtk) (id : UInt32) (child : Interface)
    (makes : m.Makes env.protocol id child) (keeps : Traffic.deletes env.protocol (.sent m) = none) :
    (client env.protocol (past ++ [.sent m])).Holds id child := by
  obtain ⟨call, decoded, named, kind⟩ := makes
  rw [toClient] at decoded
  have frees : Ledger.frees m.interface call = false := by
    simpa [Traffic.deletes, toClient, Sent.frees, show decode env.protocol Peer.gtk.toward m.interface m.msg = some call from decoded]
      using keeps
  rw [client_snoc]
  refine ⟨⟨child, (client env.protocol past).clock, false, false⟩, ?_, rfl, rfl⟩
  simp only [Client.note, Client.hear, if_pos toClient, Client.event]
  rw [show decode env.protocol .hostToClient m.interface m.msg = some call from decoded]
  dsimp only
  rw [frees]
  simp only [Bool.false_eq_true, if_false, Client.create, named, kind]
  exact Client.introduce_same _ _ _

theorem event_turn_grows (next : Session) (turn : EventTurn env ambient s msg next) : s.trace <+: next.trace := by
  cases turn with
  | unheard table books grabs trace =>
      obtain ⟨added, -, grown⟩ := trace
      rw [grown]
      exact List.prefix_append _ _
  | heard m created deleted renamed noted noting outgoing names is =>
      obtain ⟨fds, outcome, trace⟩ := forward_trace ambient noted m created (writeSenderId renamed m.sender)
      obtain ⟨added, -, grown⟩ := noting.trace
      rw [is, trace, grown]
      split
      · rw [List.append_assoc]
        exact List.prefix_append _ _
      · exact List.prefix_append _ _

theorem event_turn_agrees (agrees : Agrees env.protocol s.objects s.graph s.trace) (next : Session)
    (unused : IdsUnused env.protocol next.trace) (turn : EventTurn env ambient s msg next) :
    Agrees env.protocol next.objects next.graph next.trace := by
  cases turn with
  | unheard table books grabs trace =>
      rw [books.graph]
      have spares : Adds (Traffic.Spares env.protocol) s next := trace.mono (served_spares _)
      exact (agrees.spared spares unused).tabled table
  | heard m created deleted renamed noted noting outgoing names is =>
      have event : m.direction = .hostToClient := noting.resolved.way
      obtain ⟨objects, -, -, -, fds, graph⟩ := forward_parts ambient noted m created (writeSenderId renamed m.sender)
      obtain ⟨sentFds, outcome, trace⟩ := forward_trace ambient noted m created (writeSenderId renamed m.sender)
      have passes : live noted m.direction = true := by rw [event]; rfl
      have retains : retainPool noted.graph m ((writeSenderId renamed m.sender).drop headerLen) created fds = noted.graph := by
        simp [retainPool, Inbound.isRequest, event]
      have toClient : m.direction.dst = .gtk := by rw [event]; rfl
      rw [if_pos passes, toClient] at trace
      rw [is] at unused ⊢
      rw [objects, graph, retains, noting.graph, trace]
      rw [trace] at unused
      have told := relayed_event_deletes env s msg m noting.resolved created renamed outgoing sentFds outcome
      have asked : ∀ {t : ShadowTable} {g : RecreationGraph}, Agrees env.protocol t g s.trace → Agrees env.protocol t g noted.trace := fun kept =>
        kept.spared (noting.trace.mono (own_request_spares _)) (unused.earlier (List.prefix_append _ _))
      obtain ⟨table, announces, same⟩ := noting.table
      cases announces with
      | nothing quiet keeps =>
          refine ((asked agrees).tabled same).along _ ?_ unused
          by_contra deletes
          obtain ⟨g, gone⟩ := Option.ne_none_iff_exists'.mp deletes
          exact keeps (told g gone).1
      | deleted guestId display deletes found =>
          refine ((asked (agrees.removed guestId)).tabled same).onward _ unused fun entry member g gone => ?_
          obtain rfl := List.mem_singleton.mp member
          rw [(told g gone).2, names guestId rfl]
          exact (Unlisted.remove_guest _ _ _).tabled same
      | announced c next keeps =>
          have spares : Traffic.Spares env.protocol
              (.sent ⟨.gtk, .relayed, m.interface, writeSenderId renamed m.sender, sentFds, outcome⟩) := by
            by_contra deletes
            obtain ⟨g, gone⟩ := Option.ne_none_iff_exists'.mp deletes
            exact keeps (told g gone).1
          have makes := outgoing_makes env s .hostToClient m (some c) renamed outgoing event.symm c rfl m.sender
            ⟨.gtk, .relayed, m.interface, writeSenderId renamed m.sender, sentFds, outcome⟩ rfl rfl rfl
          have holds := event_brings env noted.trace _ rfl _ _ makes spares
          refine Agrees.tabled ?_ same
          have allocated : SameTable s.objects s.objects.allocateGuestServerId.2 := ⟨fun _ => rfl, fun _ => rfl, fun _ => rfl, fun _ => rfl⟩
          refine (((asked agrees).along _ spares unused).tabled allocated).mapped _ _ _ ?_
          rw [← next]
          exact holds

end Hearing

section Sparing

variable (p : Protocol) (covered : Covered p)

theorem Performs.spares {allowed : Traffic → Prop} {s s' : Session} (performs : Performs allowed s s')
    (toHost : ∀ entry, allowed entry → Writes .host (fun _ => True) entry) : Adds (Traffic.Spares p) s s' :=
  performs.frame.adds fun entry fine => by
    have writes := toHost entry fine
    cases entry with
    | sent m => simp [Traffic.Spares, Traffic.deletes, writes.1]
    | _ => cases writes

theorem tells_spares (entry : Traffic) (tells : TellsDeleting p (fun _ => False) entry) : entry.Spares p := by
  by_contra deletes
  obtain ⟨g, gone⟩ := Option.ne_none_iff_exists'.mp deletes
  exact tells.2 g gone

theorem grab_fold_keeps {allowed : Traffic → Prop} {β : Type} (f : UInt32 × Session → β → UInt32 × Session)
    (each : ∀ st b, Frame everyPeer allowed st.2 (f st b).2) (rows : List β) (st : UInt32 × Session) :
    Frame everyPeer allowed st.2 (rows.foldl f st).2 := by
  induction rows generalizing st with
  | nil => exact .refl _
  | cons b rest ih => exact (each st b).trans (ih (f st b))

include covered

theorem grab_event_spares (guestId : UInt32) (interface : Interface) (event : String) (rest : Bytes) (st : UInt32 × Session)
    (own : event ∈ ownEvents) (other : event ≠ "delete_id") :
    Frame everyPeer (TellsDeleting p fun _ => False) st.2 (grabEvent p guestId interface event rest st).2 := by
  unfold grabEvent
  split
  · exact .refl _
  · exact tell_client_deleting covered _ _ _ _ _ own fun is => absurd is other

theorem release_pointer_grab_spares (st : UInt32 × Session) (grab : UInt32 × Option UInt32 × List UInt32) :
    Frame everyPeer (TellsDeleting p fun _ => False) st.2 (releasePointerGrab p st grab).2 := by
  unfold releasePointerGrab
  split
  · exact .refl _
  · refine Frame.trans ?_ (grab_fold_keeps _ (fun st button =>
      grab_event_spares p covered _ _ _ _ st (by decide) (by decide)) grab.2.2 _)
    split
    · exact .refl _
    · exact grab_event_spares p covered _ _ _ _ st (by decide) (by decide)

theorem release_keyboard_grab_spares (st : UInt32 × Session) (grab : UInt32 × UInt32) :
    Frame everyPeer (TellsDeleting p fun _ => False) st.2 (releaseKeyboardGrab p st grab).2 := by
  unfold releaseKeyboardGrab
  split
  · exact .refl _
  · exact grab_event_spares p covered _ _ _ _ st (by decide) (by decide)

theorem synthesize_grab_releases_spares (order : HashOrder) (s : Session) :
    Adds (Traffic.Spares p) s (synthesizeGrabReleases p order s) := by
  have pointers := grab_fold_keeps _ (release_pointer_grab_spares p covered) (s.grabs.activePointerGrabs order) (1, s)
  have keyboards := grab_fold_keeps _ (release_keyboard_grab_spares p covered) (s.grabs.activeKeyboardGrabs order)
    ((s.grabs.activePointerGrabs order).foldl (releasePointerGrab p) (1, s))
  exact ((pointers.trans keyboards).then_same rfl rfl rfl rfl).adds (tells_spares p)

theorem resume_spares (order : HashOrder) (s : Session) : Adds (Traffic.Spares p) s (resume p order s).session :=
  (synthesize_grab_releases_spares p covered order s).trans (.log _ _ rfl)

theorem drain_in_flight_spares (order : HashOrder) (s : Session) : Adds (Traffic.Spares p) s (drainInFlight p order s) := by
  have each : ∀ s buffer, Frame everyPeer (TellsDeleting p fun _ => False) s (releaseInFlight p s buffer) := by
    intro s buffer
    unfold releaseInFlight
    split
    · exact tell_client_deleting covered _ _ _ _ _ (by decide) (by simp)
    · exact .refl s
  exact (Frame.fold (releaseInFlight p) each _ { s with bufferFlow := (s.bufferFlow.drainInFlight order).2 }).adds (tells_spares p)

theorem answer_callbacks_deleting {deleted : UInt32 → Prop} (callbacks : List UInt32) (s : Session)
    (fine : ∀ c ∈ callbacks, (s.objects.interface c).isSome = true → deleted c) :
    Frame everyPeer (TellsDeleting p deleted) s (callbacks.foldl (synthesizeFrameDone p) s) := by
  induction callbacks generalizing s with
  | nil => exact .refl s
  | cons c rest ih =>
      refine (synthesize_frame_done_deleting covered s c (fine c List.mem_cons_self)).trans (ih _ fun other member known => ?_)
      rw [synthesize_frame_done_objects] at known
      exact fine other (List.mem_cons_of_mem c member) known

theorem heed_configure_spares (s : Session) (h : Handshake) (r : Replay) (msg : Bytes) :
    Adds (Traffic.Spares p) s (heedConfigure p s h r msg).session :=
  heed_configure_adds s msg (fun _ _ => rfl) p h r fun guestId interface heeds outcome => by
    by_contra deletes
    obtain ⟨g, gone⟩ := Option.ne_none_iff_exists'.mp deletes
    exact absurd (told_deletes covered _ _ _ _ _ _ _ _ _ _ heeds.symm gone).1 (by decide)

omit covered in
theorem heed_ack_spares (s : Session) (h : Handshake) (r : Replay) (msg : Bytes) :
    Adds (Traffic.Spares p) s (heedAck p s h r msg).session :=
  heed_ack_adds s msg (fun _ _ => rfl) p h r fun _ _ outcome => by simp [Traffic.Spares, Traffic.deletes]

end Sparing

-- The recipes a recovery has yet to replay.
def Control.rest : Control → List (UInt32 × Recreatable)
  | .replaying r | .awaitingConfigure _ r | .awaitingAck _ r => r.rest
  | _ => []

def Control.isReplaying (rest : List (UInt32 × Recreatable)) : Control → Bool
  | .replaying r => decide (r.rest = rest)
  | _ => false

theorem Control.is_replaying {rest : List (UInt32 × Recreatable)} {control : Control} (replays : control.isReplaying rest = true) :
    ∃ r, control = .replaying r ∧ r.rest = rest := by
  cases control with
  | replaying r => exact ⟨r, rfl, of_decide_eq_true replays⟩
  | _ => cases replays

-- Waiting for a toplevel's configure and for its ack leaves the table alone.
theorem heed_configure_leaves (p : Protocol) (s : Session) (h : Handshake) (r : Replay) (msg : Bytes) :
    (heedConfigure p s h r msg).session.objects = s.objects ∧ (heedConfigure p s h r msg).control.rest = r.rest ∧
      ∀ w, (heedConfigure p s h r msg).control ≠ .awaitingRegistry w := by
  unfold heedConfigure
  split
  · split
    · rename_i written wrote
      cases (Prod.ext_iff.mp wrote).2
      exact ⟨rfl, rfl, nofun⟩
    · rename_i failed wrote
      cases (Prod.ext_iff.mp wrote).2
      exact ⟨rfl, rfl, nofun⟩
  · split
    · split
      · rename_i written wrote
        cases (Prod.ext_iff.mp wrote).2
        exact ⟨rfl, rfl, nofun⟩
      · rename_i failed wrote
        cases (Prod.ext_iff.mp wrote).2
        exact ⟨rfl, rfl, nofun⟩
    · exact ⟨rfl, rfl, nofun⟩

theorem heed_ack_leaves (p : Protocol) (s : Session) (h : Handshake) (r : Replay) (msg : Bytes) :
    (heedAck p s h r msg).session.objects = s.objects ∧ (heedAck p s h r msg).control.rest = r.rest ∧
      ∀ w, (heedAck p s h r msg).control ≠ .awaitingRegistry w := by
  unfold heedAck
  split
  · exact ⟨rfl, rfl, nofun⟩
  · exact ⟨rfl, rfl, nofun⟩

structure Tended (p : Protocol) (st : State) : Prop where
  agrees : Agrees p st.session.objects st.session.graph st.session.trace
  registry : ∀ w, st.control = .awaitingRegistry w → (client p st.session.trace).Holds w.registryGuestId w.registry
  rest : ∀ entry ∈ st.control.rest, entry ∈ st.session.graph.recipes

-- What the end of a recovery answers as a callback, the client has as one.
def Drained (p : Protocol) (st : State) (event : Event) : Prop :=
  match event, st.control with
  | .turn _, .replaying r => r.rest = [] → ∀ c ∈ st.session.pendingFrames.awaitingDone.keys,
      (st.session.objects.interface c).isSome = true → (client p st.session.trace).Holds c wlCallback
  | _, _ => True

namespace Tended

variable {p : Protocol} {st next : State}

-- A step that only writes, waits or reads.
theorem onward (tended : Tended p st) (unused : IdsUnused p next.session.trace)
    (objects : SameTable st.session.objects next.session.objects) (graph : next.session.graph = st.session.graph)
    (adds : Adds (Traffic.Spares p) st.session next.session)
    (registry : ∀ w, next.control = .awaitingRegistry w → ∃ w', st.control = .awaitingRegistry w' ∧
      w.registryGuestId = w'.registryGuestId ∧ w.registry = w'.registry)
    (rest : ∀ entry ∈ next.control.rest, entry ∈ st.control.rest) : Tended p next where
  agrees := by
    rw [graph]
    exact (tended.agrees.spared adds unused).tabled objects
  registry w waits := by
    obtain ⟨w', waited, guestId, kind⟩ := registry w waits
    obtain ⟨added, spares, grown⟩ := adds
    rw [guestId, kind, grown]
    rw [grown] at unused
    refine client_holds (tended.registry w' waited) added ((ids_unused_append _ _).mp unused).2 (.inl fun entry member deletes => ?_)
    have none : entry.deletes p = .none := spares entry member
    rw [none] at deletes
    cases deletes
  rest entry member := by
    rw [graph]
    exact tended.rest entry (rest entry member)

end Tended

theorem tended_start (p : Protocol) (gtkOutcomes hostOutcomes : List WriteOutcome) (cache : ClipboardCache) :
    Tended p (start gtkOutcomes hostOutcomes cache) where
  agrees := by
    refine ⟨fun g i known => .inl ?_, nofun⟩
    have display : ShadowTable.new.interface g = some i := known
    rw [ShadowTable.new, ShadowTable.interface_map] at display
    split at display
    · rename_i same
      cases display
      exact ⟨_, by rw [same]; rfl, rfl, rfl⟩
    · cases display
  registry := nofun
  rest := nofun

-- After a bump every callback is out of date, and the display is back.
theorem Agrees.bumped {p : Protocol} {t : ShadowTable} {graph : RecreationGraph} {past : List Traffic} (agrees : Agrees p t graph past)
    (unused : IdsUnused p past) : Agrees p t.bumpGeneration graph past where
  table g i known := by
    have known' : (t.map 1 1 wlDisplay).interface g = some i := known
    rw [ShadowTable.interface_map] at known'
    split at known'
    · rename_i same
      cases known'
      rw [same]
      exact .inl (client_display past unused)
    · rename_i other
      exact (agrees.table g i known').imp_right fun spent => ⟨spent.1, by rw [ShadowTable.current_bump, decide_eq_false other]⟩
  recipes := agrees.recipes

section Recovering

variable {p : Protocol} (detailed : Detailed p) (order : HashOrder)

theorem settled_unlisted {objects : ShadowTable} {graph : RecreationGraph} {past : List Traffic} (agrees : Agrees p objects graph past)
    (fresh : Fresh objects) (c : UInt32) (holds : (client p past).Holds c wlCallback) : Unlisted objects graph c where
  table i known := by
    have callback : i = wlCallback := by
      rcases agrees.table c i known with held | spent
      · exact holds_interface held holds
      · exact spent.1
    refine ⟨callback, ?_⟩
    cases current : objects.isCurrentGeneration c with
    | false => rfl
    | true =>
        obtain ⟨j, here, listed⟩ := fresh.recovered c current
        rw [known, callback] at here
        cases here
        exact absurd listed (by decide)
  recipes entry member same := by
    obtain ⟨held, listed⟩ := agrees.recipes entry member
    rw [same] at held
    rw [holds_interface held holds] at listed
    exact absurd listed (by decide)

include detailed

theorem settle_recovery_agrees (globals : Globals) (s : Session) (agrees : Agrees p s.objects s.graph s.trace) (fresh : Fresh s.objects)
    (drained : ∀ c ∈ s.pendingFrames.awaitingDone.keys, (s.objects.interface c).isSome = true →
      (client p s.trace).Holds c wlCallback)
    (unused : IdsUnused p (settleRecovery p order globals s).trace) :
    Agrees p s.objects s.graph (settleRecovery p order globals s).trace := by
  have released := drain_in_flight_spares p detailed.toCovered order s
  have objects : (drainInFlight p order s).objects = s.objects :=
    fold_objects (releaseInFlight p) (fun s buffer => release_in_flight_objects p s buffer) _ _
  have frames : (drainInFlight p order s).pendingFrames = s.pendingFrames :=
    (Aside.fold (releaseInFlight p) (release_in_flight_aside p) _ { s with bufferFlow := (s.bufferFlow.drainInFlight order).2 }).pendingFrames
  have answered : Frame everyPeer (TellsDeleting p (Unlisted s.objects s.graph)) (drainInFlight p order s) (settleRecovery p order globals s) := by
    let opened := { drainInFlight p order s with
      pendingFrames := ((drainInFlight p order s).pendingFrames.drainAwaitingDone order).2 }
    have before : Frame everyPeer (TellsDeleting p (Unlisted s.objects s.graph)) (drainInFlight p order s) opened := .same rfl rfl rfl rfl
    refine before.trans ((answer_callbacks_deleting p detailed.toCovered
      ((drainInFlight p order s).pendingFrames.drainAwaitingDone order).1 opened fun c member known => ?_).then_same rfl rfl rfl rfl)
    rw [frames] at member
    have known' : (s.objects.interface c).isSome = true := by
      rw [← objects]
      exact known
    exact settled_unlisted agrees fresh c (drained c ((HashOrder.mem_arrange _ _ _).mp member) known')
  obtain ⟨added, tells, grown⟩ := answered.trace
  rw [grown] at unused ⊢
  exact (agrees.spared released (unused.earlier (List.prefix_append _ _))).onward added unused fun entry member g deleted =>
    (tells entry member).2 g deleted

theorem resume_tended (s : Session) (agrees : Agrees p s.objects s.graph s.trace)
    (unused : IdsUnused p (resume p order s).session.trace) : Tended p (resume p order s) where
  agrees := by
    have objects : (resume p order s).session.objects = s.objects := synthesize_grab_releases_objects p order s
    have books := resume_books p order s
    rw [objects, books.graph]
    exact agrees.spared (resume_spares p detailed.toCovered order s) unused
  registry := nofun
  rest := nofun

omit detailed in
theorem ask_for_globals_objects (s : Session) (registryGuestId : UInt32) :
    (askForGlobals s registryGuestId).2.objects = s.objects.allocateHostId.2.allocateHostId.2 := by
  simp only [askForGlobals]
  split
  · rename_i failed wrote
    cases (Prod.ext_iff.mp wrote).2
    rfl
  · rename_i asked wrote
    cases (Prod.ext_iff.mp wrote).2
    rfl

theorem begin_recovery_tended (s : Session) (agrees : Agrees p s.objects s.graph s.trace)
    (unused : IdsUnused p (beginRecovery p order s).session.trace) : Tended p (beginRecovery p order s) := by
  let begun := { s with reclaim := { s.reclaim with activeSourceHostId := none } }
  have books := begin_recovery_books p s order
  simp only [beginRecovery] at unused books ⊢
  split at unused
  · rename_i absent
    simp only [absent] at books ⊢
    exact resume_tended detailed order begun agrees unused
  · rename_i registryGuestId found
    simp only [found] at books ⊢
    obtain ⟨registry, known, named⟩ := ShadowTable.find_guest_id_spec _ _ _ _ found
    simp only [known] at unused books ⊢
    have holds : (client p s.trace).Holds registryGuestId registry := by
      rcases agrees.table _ _ known with held | ⟨callback, -⟩
      · exact held
      · rw [callback] at named
        exact absurd named (by decide)
    have asks : Adds (Traffic.Spares p) s (askForGlobals begun registryGuestId).2 :=
      (ask_for_globals_frame begun registryGuestId).adds fun entry writes => by
        cases entry with
        | sent m => simp [Traffic.Spares, Traffic.deletes, writes.1]
        | _ => cases writes
    have objects : SameTable s.objects (askForGlobals begun registryGuestId).2.objects := by
      rw [ask_for_globals_objects]
      exact ⟨fun _ => rfl, fun _ => rfl, fun _ => rfl, fun _ => rfl⟩
    generalize askForGlobals begun registryGuestId = outcome at *
    obtain ⟨done, asked⟩ := outcome
    have kept : ∀ control, IdsUnused p asked.trace → asked.graph = s.graph →
        (∀ w, control = .awaitingRegistry w → w.registryGuestId = registryGuestId ∧ w.registry = registry) → control.rest = [] →
        Tended p ⟨asked, control⟩ := by
      intro control unused graph waits rest
      refine ⟨by rw [graph]; exact (agrees.spared asks unused).tabled objects, fun w is => ?_, fun entry member => ?_⟩
      · obtain ⟨guestId, kind⟩ := waits w is
        obtain ⟨added, spares, grown⟩ := asks
        rw [guestId, kind]
        show (client p asked.trace).Holds _ _
        rw [grown] at unused ⊢
        refine client_holds holds added ((ids_unused_append _ _).mp unused).2 (.inl fun entry member deletes => ?_)
        have none : entry.deletes p = .none := spares entry member
        rw [none] at deletes
        cases deletes
      · rw [rest] at member
        cases member
    cases done with
    | false => exact kept .selecting unused books.graph (by simp) rfl
    | true => exact kept _ unused books.graph (fun w is => by cases is; exact ⟨rfl, rfl⟩) rfl

end Recovering

section Stepping

variable {env : Env} (detailed : Detailed env.protocol) {st next : State} {event : Event}

theorem skimmed_spares (p : Protocol) (s : Session) (peer : Peer) (consumed : Nat) (msg : Bytes) :
    Adds (Traffic.Spares p) s (skimmed s peer consumed msg) := .skimmed s peer consumed msg rfl

theorem ended_spares (p : Protocol) (s : Session) (peer : Peer) : Adds (Traffic.Spares p) s (endWait s peer) := .ended s peer fun _ => rfl

theorem heed_registry_tended (s : Session) (w : RegistryWait) (consumed : Nat) (msg : Bytes)
    (tended : Tended env.protocol ⟨s, .awaitingRegistry w⟩)
    (unused : IdsUnused env.protocol (heedRegistry (skimmed s .host consumed msg) w msg).session.trace) :
    Tended env.protocol (heedRegistry (skimmed s .host consumed msg) w msg) := by
  have took := skimmed_spares env.protocol s .host consumed msg
  unfold heedRegistry at unused ⊢
  split
  · rename_i global
    rw [if_pos global] at unused
    exact tended.onward unused (.refl _) rfl took (fun w' is => ⟨w, rfl, by cases is; exact ⟨rfl, rfl⟩⟩) nofun
  · rename_i other
    rw [if_neg other] at unused
    split
    · rename_i done
      rw [if_pos done] at unused
      have waited : Tended env.protocol ⟨endWait (skimmed s .host consumed msg) .host, .awaitingRegistry w⟩ :=
        tended.onward unused (.refl _) rfl (took.trans (ended_spares _ _ _)) (fun w' is => ⟨w, rfl, by cases is; exact ⟨rfl, rfl⟩⟩) nofun
      exact ⟨waited.agrees.mapped _ _ _ (waited.registry w rfl), nofun, fun entry member => member⟩
    · rename_i neither
      rw [if_neg neither] at unused
      exact tended.onward unused (.refl _) rfl took (fun w' is => ⟨w, rfl, by cases is; exact ⟨rfl, rfl⟩⟩) nofun

include detailed

theorem heed_configure_tended (s : Session) (h : Handshake) (r : Replay) (consumed : Nat) (msg : Bytes)
    (tended : Tended env.protocol ⟨s, .awaitingConfigure h r⟩)
    (unused : IdsUnused env.protocol (heedConfigure env.protocol (skimmed s .host consumed msg) h r msg).session.trace) :
    Tended env.protocol (heedConfigure env.protocol (skimmed s .host consumed msg) h r msg) := by
  have books := heed_configure_books env.protocol (skimmed s .host consumed msg) h r msg
  have spares := heed_configure_spares env.protocol detailed.toCovered (skimmed s .host consumed msg) h r msg
  have table := heed_configure_leaves env.protocol (skimmed s .host consumed msg) h r msg
  refine tended.onward unused (by rw [table.1]; exact .refl _) books.graph ((skimmed_spares _ _ _ _ _).trans spares)
    (fun w is => absurd is (table.2.2 w)) fun entry member => ?_
  rw [table.2.1] at member
  exact member

theorem replayed_tended (s t : Session) (r : Replay) (guestId : UInt32) (recipe : Recreatable) (rest : List (UInt32 × Recreatable))
    (handshake : Option Handshake) (control : Control) (tended : Tended env.protocol ⟨s, .replaying r⟩) (fresh : Fresh s.objects)
    (more : r.rest = (guestId, recipe) :: rest)
    (replayed : replayRecipe env.protocol r.globals r.registry r.registryHostId s guestId recipe = some (t, handshake))
    (unused : IdsUnused env.protocol t.trace) (left : control.rest = rest) (still : ∀ w, control ≠ .awaitingRegistry w) :
    Tended env.protocol ⟨t, control⟩ := by
  have frame := replay_recipe_frame env.protocol s r.globals r.registry r.registryHostId guestId recipe t _ replayed
  have remaps := replay_recipe_remaps detailed.toCovered fresh guestId t r.globals r.registry r.registryHostId recipe _ replayed
  have spares : Adds (Traffic.Spares env.protocol) s t := frame.spares env.protocol fun entry writes => by
    cases entry with
    | sent m => exact ⟨writes.1, trivial⟩
    | _ => cases writes
  have graph : t.graph = s.graph := frame.kept.graph
  have onward : Agrees env.protocol s.objects s.graph t.trace := tended.agrees.spared spares unused
  have known : ∀ entry ∈ r.rest, entry ∈ s.graph.recipes := tended.rest
  rw [more] at known
  have held := (onward.recipes (guestId, recipe) (known _ List.mem_cons_self)).1
  refine ⟨?_, fun w is => absurd is (still w), fun entry member => ?_⟩
  · show Agrees env.protocol t.objects t.graph t.trace
    rw [graph]
    generalize t.objects = objects at remaps
    cases remaps with
    | left spent few => exact onward.tabled ⟨fun _ => rfl, fun _ => rfl, fun _ => rfl, fun _ => rfl⟩
    | mapped hostId own =>
        have numbered : SameTable s.objects (s.objects.numbered (hostId + 1)) := ⟨fun _ => rfl, fun _ => rfl, fun _ => rfl, fun _ => rfl⟩
        exact (onward.tabled numbered).mapped guestId hostId recipe.interface held
  · rw [left] at member
    show entry ∈ t.graph.recipes
    rw [graph]
    exact known entry (List.mem_cons_of_mem _ member)

theorem replay_turn_tended (order : HashOrder) (s : Session) (r : Replay) (tended : Tended env.protocol ⟨s, .replaying r⟩)
    (fresh : Fresh s.objects) (drained : r.rest = [] → ∀ c ∈ s.pendingFrames.awaitingDone.keys,
      (s.objects.interface c).isSome = true → (client env.protocol s.trace).Holds c wlCallback)
    (unused : IdsUnused env.protocol (replayTurn env.protocol order s r).session.trace) :
    Tended env.protocol (replayTurn env.protocol order s r) := by
  simp only [replayTurn] at unused ⊢
  cases more : r.rest with
  | nil =>
      rw [more] at unused
      dsimp only at unused ⊢
      obtain ⟨added, -, grown⟩ := resume_spares env.protocol detailed.toCovered order (settleRecovery env.protocol order r.globals s)
      have earlier := unused
      rw [grown] at earlier
      have settled := settle_recovery_agrees detailed order r.globals s tended.agrees fresh (drained more)
        (earlier.earlier (List.prefix_append _ _))
      refine resume_tended detailed order _ ?_ unused
      rw [settle_recovery_objects, (settle_recovery_books _ _ _ _).graph]
      exact settled
  | cons entry rest =>
      obtain ⟨guestId, recipe⟩ := entry
      rw [more] at unused
      dsimp only at unused ⊢
      split
      · rename_i panicked
        rw [panicked] at unused
        exact tended.onward unused (.refl _) rfl (.same rfl) (by simp) (by simp [Control.rest])
      · rename_i t replayed
        rw [replayed] at unused
        exact replayed_tended detailed s t r guestId recipe rest none _ tended fresh more replayed unused rfl (by simp)
      · rename_i t handshake replayed
        rw [replayed] at unused
        exact replayed_tended detailed s t r guestId recipe rest _ _ tended fresh more replayed unused rfl (by simp)

theorem relayed_tended (s handled : Session) (direction : Direction) (ambient : Ambient) (disposal : Disposal)
    (turned : relayTurn env ambient direction s = some (disposal, handled)) (tended : Tended env.protocol ⟨s, .relaying direction⟩)
    (unused : IdsUnused env.protocol handled.trace) : Tended env.protocol ⟨handled, .relaying direction⟩ := by
  have agrees : Agrees env.protocol handled.objects handled.graph handled.trace := by
    cases direction with
    | clientToHost =>
        obtain ⟨msg, consumed, answered, taken, long, turn, rfl⟩ := relay_turn_request env detailed.toCovered ambient s handled disposal turned
        exact request_turn_agrees env detailed ambient (s.log (.took .gtk msg)) msg s.trace tended.agrees rfl answered unused turn
    | hostToClient =>
        obtain ⟨msg, consumed, answered, taken, long, turn, rfl⟩ := relay_turn_event env detailed.toCovered ambient s handled disposal turned
        have took : Adds (Traffic.Spares env.protocol) s (s.log (.took .host msg)) := .log _ _ rfl
        have earlier : IdsUnused env.protocol (s.log (.took .host msg)).trace :=
          unused.earlier (event_turn_grows env ambient (s.log (.took .host msg)) msg answered turn)
        exact event_turn_agrees env ambient (s.log (.took .host msg)) msg (tended.agrees.spared took earlier) answered unused turn
  exact ⟨agrees, nofun, nofun⟩

theorem transition_tended (transition : Transition env st event next) (ready : Ready st) (tended : Tended env.protocol st)
    (drained : Drained env.protocol st event) (unused : IdsUnused env.protocol next.session.trace) : Tended env.protocol next := by
  cases transition with
  | readClient | clientGone | relayDone => exact tended.onward unused (.refl _) rfl (.same rfl) nofun nofun
  | readHost => exact tended.onward unused (.refl _) rfl (.same rfl) nofun nofun
  | hostGone => exact tended.onward unused (.refl _) rfl (.log _ _ rfl) nofun nofun
  | readAck | readConfigure => exact tended.onward unused (.refl _) rfl (.same rfl) nofun fun _ member => member
  | ackGone | configureGone | configureLapse | ackLapse =>
      exact tended.onward unused (.refl _) rfl (ended_spares _ _ _) nofun fun _ member => member
  | readRegistry s fill c w =>
      exact tended.onward unused (.refl _) rfl (.same rfl) (fun w' is => ⟨w, rfl, by cases is; exact ⟨rfl, rfl⟩⟩) nofun
  | registryGone => exact tended.onward unused (.refl _) rfl (ended_spares _ _ _) nofun nofun
  | relayed s handled direction ambient disposal turned =>
      exact relayed_tended detailed s handled direction ambient disposal turned tended unused
  | skimRegistry s w ambient msg consumed => exact heed_registry_tended s w consumed msg tended unused
  | skimConfigure s h r ambient msg consumed => exact heed_configure_tended detailed s h r consumed msg tended unused
  | skimAck s h r ambient msg consumed =>
      have spares := (skimmed_spares env.protocol s .gtk consumed msg).trans (heed_ack_spares env.protocol _ h r msg)
      have books := heed_ack_books env.protocol (skimmed s .gtk consumed msg) h r msg
      have still := heed_ack_leaves env.protocol (skimmed s .gtk consumed msg) h r msg
      refine tended.onward unused (by rw [still.1]; exact .refl _) books.graph spares (fun w is => absurd is (still.2.2 w))
        fun entry member => ?_
      rw [still.2.1] at member
      exact member
  | replayed s r ambient => exact replay_turn_tended detailed ambient.order s r tended (ready.fresh rfl) drained unused
  | reconnect s ambient outcomes frozen =>
      have earlier : IdsUnused env.protocol (reconnected s outcomes).trace := by
        have grows : Adds (Accounted env ⟨s, .selecting⟩ .lapse) (reconnected s outcomes)
            (beginRecovery env.protocol ambient.order (reconnected s outcomes)).session := begin_recovery_accounted env.protocol ambient.order _
        obtain ⟨added, -, grown⟩ := grows
        rw [grown] at unused
        exact unused.earlier (List.prefix_append _ _)
      have renewed : Agrees env.protocol s.objects s.graph (reconnected s outcomes).trace :=
        tended.agrees.along .reconnected rfl earlier
      exact begin_recovery_tended detailed ambient.order (reconnected s outcomes) (renewed.bumped earlier) unused
  | cached s control mimeType bytes =>
      exact ⟨tended.agrees, tended.registry, tended.rest⟩

end Stepping

-- Ready for the next step, and with nothing tracked that the client lacks.
structure Tidy (env : Env) (st : State) : Prop where
  ready : Ready st
  tended : Tended env.protocol st

theorem tidy_start (env : Env) (gtkOutcomes hostOutcomes : List WriteOutcome) (cache : ClipboardCache) :
    Tidy env (start gtkOutcomes hostOutcomes cache) := ⟨ready_start _ _ _, tended_start _ _ _ _⟩

theorem guests_named_of_unused {p : Protocol} {history : List Traffic} (unused : IdsUnused p history) : GuestsNamed p history := by
  intro m member toClient named
  obtain ⟨past, later, split⟩ := List.append_of_mem member
  have lawful := lawful_split _ past later (.sent m) history unused split
  exact (lawful 0 (by simp [Traffic.introduces, toClient, named])).1 rfl

section Tidying

variable {env : Env} (detailed : Detailed env.protocol) {st next : State} {event : Event}

include detailed

-- An id that is not in use is neither null nor the sender's.
theorem picks_of_unused (transition : Transition env st event next) (tended : Tended env.protocol st)
    (unused : IdsUnused env.protocol next.session.trace) : Picks env st event := by
  cases transition with
  | relayed s handled direction ambient disposal turned =>
      cases direction with
      | hostToClient => trivial
      | clientToHost =>
          intro msg consumed taken interface newId known named
          obtain ⟨msg', consumed', answered, taken', long, turn, rfl⟩ := relay_turn_request env detailed.toCovered ambient s handled disposal turned
          have taken : takeMessage s.gtk.readBuf = some (msg, consumed) := taken
          rw [taken] at taken'
          cases taken'
          obtain ⟨call, decoded, introduced⟩ := Option.bind_eq_some_iff.mp named
          obtain ⟨walk, listed, -, -⟩ := decode_inv _ _ _ _ _ decoded
          have holds : (client env.protocol s.trace).Holds (senderOf msg) interface := by
            rcases tended.agrees.table _ _ known with held | ⟨callback, -⟩
            · exact held
            · have member : call.desc ∈ env.protocol.requests interface := List.mem_of_getElem? listed
              rw [callback, wlCallback, detailed.callbackRequests] at member
              cases member
          have earlier : IdsUnused env.protocol (s.trace ++ [.took .gtk msg]) :=
            unused.earlier (request_turn_grows env ambient (s.log (.took .gtk msg)) msg answered turn)
          obtain ⟨o, here, rfl, -⟩ := holds
          have introduces : Traffic.introduces env.protocol (client env.protocol s.trace) (.took .gtk msg) = some newId := by
            simp only [Traffic.introduces, Client.call, here, Option.bind_some, decoded, introduced]
          obtain ⟨nonzero, free⟩ := ((ids_unused_append _ _).mp earlier).2.1 newId introduces
          refine ⟨nonzero, fun same => ?_⟩
          rw [same, here] at free
          cases free
  | relayDone s direction ambient starved =>
      cases direction with
      | hostToClient => trivial
      | clientToHost =>
          intro msg consumed taken
          have starved : takeMessage s.gtk.readBuf = none := starved
          have taken : takeMessage s.gtk.readBuf = some (msg, consumed) := taken
          rw [starved] at taken
          cases taken
  | cached s control => cases control <;> trivial
  | _ => trivial

theorem transition_tidy (transition : Transition env st event next) (tidy : Tidy env st) (drained : Drained env.protocol st event)
    (unused : IdsUnused env.protocol next.session.trace) : Tidy env next where
  ready := transition_ready detailed.toCovered transition tidy.ready (picks_of_unused detailed transition tidy.tended unused)
    (guests_named_of_unused unused)
  tended := transition_tended detailed transition tidy.ready tidy.tended drained unused

-- An invariant of the runs in which recovery answers callbacks only.
theorem tended_invariant {allowed : State → Event → Prop} {gtkOutcomes hostOutcomes : List WriteOutcome} {cache : ClipboardCache}
    {events : List Event} (drains : ∀ st event, allowed st event → Drained env.protocol st event) (inv : State → Prop)
    (initial : inv (start gtkOutcomes hostOutcomes cache))
    (preserved : ∀ st event next, Transition env st event next → Tidy env st → allowed st event →
      IdsUnused env.protocol next.session.trace → inv st → inv next)
    (run : Runs (step env) allowed (start gtkOutcomes hostOutcomes cache) events st)
    (unused : IdsUnused env.protocol st.session.trace) : Tidy env st ∧ inv st := by
  induction run with
  | refl => exact ⟨tidy_start _ _ _ _, initial⟩
  | snoc events s next event before permitted taken ih =>
      have transition := step_transition env s event next taken
      obtain ⟨added, -, grown⟩ := transition_accounted detailed.toCovered transition
      have earlier : IdsUnused env.protocol s.session.trace := by
        rw [grown] at unused
        exact unused.earlier (List.prefix_append _ _)
      obtain ⟨tidy, holds⟩ := ih earlier
      exact ⟨transition_tidy detailed transition tidy (drains s event permitted) unused,
        preserved s event next transition tidy permitted unused holds⟩

end Tidying

def drained (st : State) (event : Event) : Bool :=
  match event, st.control with
  | .turn _, .replaying r => decide (r.rest = [] → ∀ c ∈ st.session.pendingFrames.awaitingDone.keys,
      (st.session.objects.interface c).isSome = true → (client coreProtocol st.session.trace).Holds c wlCallback)
  | _, _ => true

theorem drained_sound (st : State) (event : Event) (checked : drained st event = true) : Drained coreProtocol st event := by
  unfold drained at checked
  unfold Drained
  split at checked
  · exact of_decide_eq_true checked
  · trivial

end WlResprox
