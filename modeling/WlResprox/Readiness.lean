import WlResprox.Shifts

set_option autoImplicit false

namespace WlResprox

-- What recovery works from: what it replays, and what it owes the client.
structure SameBooks (s s' : Session) : Prop where
  graph : s'.graph = s.graph
  bufferFlow : s'.bufferFlow = s.bufferFlow
  pendingFrames : s'.pendingFrames = s.pendingFrames
  pendingDmabufPlanes : s'.pendingDmabufPlanes = s.pendingDmabufPlanes

namespace SameBooks

variable {s s' s'' : Session}

theorem refl (s : Session) : SameBooks s s := ⟨rfl, rfl, rfl, rfl⟩

theorem trans (first : SameBooks s s') (second : SameBooks s' s'') : SameBooks s s'' :=
  ⟨second.graph.trans first.graph, second.bufferFlow.trans first.bufferFlow, second.pendingFrames.trans first.pendingFrames,
    second.pendingDmabufPlanes.trans first.pendingDmabufPlanes⟩

theorem write (s : Session) (peer : Peer) (origin : Origin) (interface : Interface) (msg : Bytes) (fds : List Fd) :
    SameBooks s (s.writeMessage peer origin interface msg fds).2 := ⟨rfl, rfl, rfl, rfl⟩

theorem wrote {peer : Peer} {origin : Origin} {interface : Interface} {msg : Bytes} {fds : List Fd} {done : Bool}
    (result : s.writeMessage peer origin interface msg fds = (done, s')) : SameBooks s s' := by
  have same := write s peer origin interface msg fds
  rwa [result] at same

theorem ended (s : Session) (peer : Peer) : SameBooks s (endWait s peer) := ⟨rfl, rfl, rfl, rfl⟩

theorem read (s : Session) (peer : Peer) (c : Conn) : SameBooks s (s.setConn peer c) := ⟨rfl, rfl, rfl, rfl⟩

theorem took (s : Session) (peer : Peer) (consumed : Nat) (msg : Bytes) : SameBooks s (skimmed s peer consumed msg) :=
  ⟨rfl, rfl, rfl, rfl⟩

end SameBooks

theorem Aside.books {s s' : Session} (aside : Aside s s') : SameBooks s s' :=
  ⟨aside.graph, aside.bufferFlow, aside.pendingFrames, aside.pendingDmabufPlanes⟩

theorem Replays.books {guestId : UInt32} {s s' : Session} (replays : Replays guestId s s') : SameBooks s s' :=
  ⟨replays.kept.graph, replays.kept.bufferFlow, replays.kept.pendingFrames, replays.kept.pendingDmabufPlanes⟩

section Settling

variable (p : Protocol) (order : HashOrder)

theorem release_in_flight_aside (s : Session) (buffer : UInt32) : Aside s (releaseInFlight p s buffer) := by
  unfold releaseInFlight
  split
  · exact tell_client_aside p s _ _ _ _
  · exact .refl s

theorem grab_event_aside (guestId : UInt32) (interface : Interface) (event : String) (rest : Bytes)
    (st : UInt32 × Session) : Aside st.2 (grabEvent p guestId interface event rest st).2 := by
  unfold grabEvent
  split
  · exact .refl _
  · exact tell_client_aside p st.2 _ _ _ _

theorem grab_fold_aside {β : Type} (f : UInt32 × Session → β → UInt32 × Session) (each : ∀ st b, Aside st.2 (f st b).2)
    (rows : List β) (st : UInt32 × Session) : Aside st.2 (rows.foldl f st).2 := by
  induction rows generalizing st with
  | nil => exact .refl _
  | cons b rest ih => exact (each st b).trans (ih (f st b))

theorem synthesize_grab_releases_books (s : Session) : SameBooks s (synthesizeGrabReleases p order s) := by
  have pointers : Aside s ((s.grabs.activePointerGrabs order).foldl (releasePointerGrab p) (1, s)).2 := by
    refine grab_fold_aside (releasePointerGrab p) (fun st grab => ?_) _ (1, s)
    unfold releasePointerGrab
    split
    · exact .refl _
    · refine .trans ?_ (grab_fold_aside _ (fun st button => grab_event_aside p _ _ _ _ st) _ _)
      split
      · exact .refl _
      · exact grab_event_aside p _ _ _ _ st
  have keyboards : Aside ((s.grabs.activePointerGrabs order).foldl (releasePointerGrab p) (1, s)).2 ((s.grabs.activeKeyboardGrabs order).foldl (releaseKeyboardGrab p)
      ((s.grabs.activePointerGrabs order).foldl (releasePointerGrab p) (1, s))).2 := by
    refine grab_fold_aside (releaseKeyboardGrab p) (fun st grab => ?_) _ _
    unfold releaseKeyboardGrab
    split
    · exact .refl _
    · exact grab_event_aside p _ _ _ _ st
  have told := (pointers.trans keyboards).books
  exact ⟨told.graph, told.bufferFlow, told.pendingFrames, told.pendingDmabufPlanes⟩

theorem resume_books (s : Session) : SameBooks s (resume p order s).session := by
  have released := synthesize_grab_releases_books p order s
  exact ⟨released.graph, released.bufferFlow, released.pendingFrames, released.pendingDmabufPlanes⟩

-- Settling empties the two queues of what is owed and keeps every recipe.
theorem settle_recovery_books (globals : Globals) (s : Session) :
    SameBooks { s with
      bufferFlow := (s.bufferFlow.drainInFlight order).2
      pendingFrames := (s.pendingFrames.drainAwaitingDone order).2 } (settleRecovery p order globals s) := by
  have released : Aside _ (drainInFlight p order s) := Aside.fold _ (release_in_flight_aside p) _ _
  have answered : Aside _ (drainAwaitingDone p order (drainInFlight p order s)) :=
    Aside.fold _ (synthesize_frame_done_aside p) _ _
  refine ⟨?_, ?_, ?_, ?_⟩
  · exact answered.graph.trans released.graph
  · exact answered.bufferFlow.trans released.bufferFlow
  · refine answered.pendingFrames.trans ?_
    rfl
  · exact answered.pendingDmabufPlanes.trans released.pendingDmabufPlanes

end Settling

section Waits

variable (p : Protocol) (s : Session)

theorem heed_registry_books (w : RegistryWait) (msg : Bytes) : SameBooks s (heedRegistry s w msg).session := by
  unfold heedRegistry
  split
  · exact .refl s
  · split
    · exact ⟨rfl, rfl, rfl, rfl⟩
    · exact .refl s

theorem heed_configure_books (h : Handshake) (r : Replay) (msg : Bytes) : SameBooks s (heedConfigure p s h r msg).session := by
  unfold heedConfigure
  split
  · split
    · rename_i written wrote
      exact .wrote wrote
    · rename_i failed wrote
      exact (SameBooks.wrote wrote).trans (.ended failed .host)
  · split
    · split
      · rename_i written wrote
        exact (SameBooks.wrote wrote).trans (.ended written .host)
      · rename_i failed wrote
        exact (SameBooks.wrote wrote).trans (.ended failed .host)
    · exact .refl s

theorem heed_ack_books (h : Handshake) (r : Replay) (msg : Bytes) : SameBooks s (heedAck p s h r msg).session := by
  unfold heedAck
  split
  · exact (SameBooks.write s .host _ _ _ _).trans (.ended _ .gtk)
  · exact .refl s

theorem ask_for_globals_books (registryGuestId : UInt32) : SameBooks s (askForGlobals s registryGuestId).2 := by
  simp only [askForGlobals]
  split
  · rename_i failed wrote
    have first : SameBooks { s with objects := s.objects.allocateHostId.2.allocateHostId.2 } failed := .wrote wrote
    exact ⟨first.graph, first.bufferFlow, first.pendingFrames, first.pendingDmabufPlanes⟩
  · rename_i asked wrote
    have first : SameBooks { s with objects := s.objects.allocateHostId.2.allocateHostId.2 } asked := .wrote wrote
    exact ⟨first.graph, first.bufferFlow, first.pendingFrames, first.pendingDmabufPlanes⟩

theorem begin_recovery_books (order : HashOrder) : SameBooks s (beginRecovery p order s).session := by
  let reclaiming : Session := { s with reclaim := { s.reclaim with activeSourceHostId := none } }
  have cleared : SameBooks s reclaiming := ⟨rfl, rfl, rfl, rfl⟩
  simp only [beginRecovery]
  split
  · exact cleared.trans (resume_books p order reclaiming)
  · split
    · exact cleared
    · rename_i registryGuestId _ _ registry _
      have asks := ask_for_globals_books reclaiming registryGuestId
      split
      · rename_i failed result
        rw [result] at asks
        exact cleared.trans asks
      · rename_i asked result
        rw [result] at asks
        exact cleared.trans asks

end Waits

-- Apart from the relay, only the end of a recovery touches the books.
inductive Bookkeeping (env : Env) (st : State) (event : Event) (next : State) : Prop where
  | turned (direction : Direction) (ambient : Ambient) (disposal : Disposal) (relaying : st.control = .relaying direction)
      (turns : event = .turn ambient) (turned : relayTurn env ambient direction st.session = some (disposal, next.session))
      (still : next.control = .relaying direction)
  | settled (r : Replay) (ambient : Ambient) (replaying : st.control = .replaying r) (turns : event = .turn ambient)
      (done : r.rest = [])
      (resumed : next = resume env.protocol ambient.order (settleRecovery env.protocol ambient.order r.globals st.session))
  | same (books : SameBooks st.session next.session)

theorem transition_bookkeeping {env : Env} {st next : State} {event : Event} (transition : Transition env st event next) :
    Bookkeeping env st event next := by
  cases transition with
  | clientGone | relayDone => exact .same (.refl _)
  | readClient s fill c | readAck s fill c => exact .same (.read s .gtk c)
  | readHost s fill c | readRegistry s fill c | readConfigure s fill c => exact .same (.read s .host c)
  | ackGone s | ackLapse s => exact .same (.ended s .gtk)
  | registryGone s | configureGone s | configureLapse s => exact .same (.ended s .host)
  | hostGone | cached => exact .same ⟨rfl, rfl, rfl, rfl⟩
  | relayed s next direction ambient disposal turned => exact .turned direction ambient disposal rfl rfl turned rfl
  | skimRegistry s w ambient msg consumed taken =>
      exact .same ((SameBooks.took s .host consumed msg).trans (heed_registry_books _ w msg))
  | skimConfigure s h r ambient msg consumed taken =>
      exact .same ((SameBooks.took s .host consumed msg).trans (heed_configure_books env.protocol _ h r msg))
  | skimAck s h r ambient msg consumed taken =>
      exact .same ((SameBooks.took s .gtk consumed msg).trans (heed_ack_books env.protocol _ h r msg))
  | reconnect s ambient outcomes frozen =>
      have renewed : SameBooks s (reconnected s outcomes) := ⟨rfl, rfl, rfl, rfl⟩
      exact .same (renewed.trans (begin_recovery_books env.protocol _ ambient.order))
  | replayed s r ambient =>
      unfold replayTurn
      split
      · rename_i done
        exact .settled r ambient rfl rfl done rfl
      · split
        · exact .same (.refl s)
        · rename_i t result
          exact .same (replay_recipe_frame env.protocol s _ _ _ _ _ _ _ result).books
        · rename_i t h result
          exact .same (replay_recipe_frame env.protocol s _ _ _ _ _ _ _ result).books

section Ready

variable {env : Env} {st next : State} {event : Event}

theorem moves_earlier {p : Protocol} {named : Prop} {phase : Phase} {v v' : View} (moves : Moves p named phase v v')
    (guests : GuestsNamed p v'.trace) : GuestsNamed p v.trace := by
  obtain ⟨added, grown⟩ := moves_trace moves
  rw [grown] at guests
  exact guests.earlier

theorem shift_null {p : Protocol} {named : Prop} (shift : Shift p named st next) (ready : Ready st)
    (guests : GuestsNamed p next.session.trace) : next.session.objects.interface 0 = none := by
  cases shift with
  | moved moves => exact moves_null moves guests ready.null
  | renewed gone middle moves rest =>
      have fresh := (fresh_bump _ ready.null).null
      rcases rest with same | ⟨-, later⟩
      · rw [same] at moves
        exact moves_null moves guests fresh
      · exact moves_null later guests (moves_null moves (moves_earlier later guests) fresh)
  | registered w waits msg past mapped =>
      have prepared := ready.prepared
      rw [waits] at prepared
      have is : next.session.objects = st.session.objects.map w.registryGuestId w.registryHostId w.registry :=
        congrArg View.objects mapped
      rw [is, ShadowTable.interface_map, if_neg (Ne.symm prepared.1)]
      exact ready.null

theorem shift_fresh {p : Protocol} {named : Prop} (shift : Shift p named st next) (ready : Ready st)
    (recovers : phaseOf next = .recovering) : Fresh next.session.objects := by
  cases shift with
  | moved moves settles stays =>
      have before := stays recovers
      rw [before] at moves
      exact moves_fresh moves (ready.fresh before)
  | renewed gone middle moves rest =>
      rcases rest with same | ⟨dead, -⟩
      · rw [same] at moves
        exact moves_fresh moves (fresh_bump _ ready.null)
      · rw [dead] at recovers
        cases recovers
  | registered w waits msg past mapped =>
      have prepared := ready.prepared
      rw [waits] at prepared
      have is : next.session.objects = st.session.objects.map w.registryGuestId w.registryHostId w.registry :=
        congrArg View.objects mapped
      have before : phaseOf st = .recovering := by simp only [phaseOf, waits]
      rw [is]
      exact fresh_map _ (ready.fresh before) _ _ _ prepared.1 (by rw [prepared.2]; decide)

theorem begin_recovery_prepared (p : Protocol) (order : HashOrder) (s : Session) (null : s.objects.interface 0 = none) :
    (beginRecovery p order s).control.Prepared := by
  simp only [beginRecovery]
  split
  · trivial
  · rename_i registryGuestId found
    split
    · trivial
    · rename_i registry known
      split
      · trivial
      · obtain ⟨i, listed, name⟩ := ShadowTable.find_guest_id_spec _ order _ _ found
        rw [known] at listed
        obtain rfl := Option.some.inj listed
        refine ⟨fun zero => ?_, interface_named _ _ name⟩
        have here : registryGuestId = 0 := zero
        rw [here, null] at known
        cases known

theorem transition_prepared (transition : Transition env st event next) (ready : Ready st) : next.control.Prepared := by
  have prepared := ready.prepared
  cases transition with
  | readClient | clientGone | readHost | hostGone | registryGone | relayed | relayDone => trivial
  | readAck | ackGone | readRegistry | readConfigure | configureGone | configureLapse | ackLapse | cached => exact prepared
  | skimRegistry s w =>
      unfold heedRegistry
      split
      · exact prepared
      · split
        · exact ⟨prepared.2, ready.recipes⟩
        · exact prepared
  | skimConfigure s h r =>
      unfold heedConfigure
      split
      · split <;> exact prepared
      · split
        · split <;> exact prepared
        · exact prepared
  | skimAck s h r =>
      unfold heedAck
      split <;> exact prepared
  | replayed s r =>
      have fewer : ∀ guestId recipe rest, r.rest = (guestId, recipe) :: rest → ∀ id ∈ rest.map Prod.fst, id ≠ 0 := by
        intro guestId recipe rest shape id member
        refine prepared.2 id ?_
        rw [shape]
        exact List.mem_cons_of_mem _ member
      unfold replayTurn
      split
      · trivial
      · rename_i guestId recipe rest shape
        split
        · trivial
        · exact ⟨prepared.1, fewer _ _ _ shape⟩
        · exact ⟨prepared.1, fewer _ _ _ shape⟩
  | reconnect s ambient outcomes frozen =>
      exact begin_recovery_prepared _ _ _ (fresh_bump s.objects ready.null).null

theorem relay_turn_named (s next : Session) (direction : Direction) (ambient : Ambient) (disposal : Disposal)
    (turned : relayTurn env ambient direction s = some (disposal, next))
    (picks : direction = .clientToHost → ∀ msg consumed, takeMessage s.gtk.readBuf = some (msg, consumed) →
      PicksFresh env.protocol s.objects msg) (named : s.graph.Named) : next.graph.Named := by
  obtain ⟨msg, consumed, handled, taken, handling, rfl⟩ := relay_turn_some env ambient direction s next disposal turned
  have long : headerLen ≤ msg.length := by
    rw [take_message_length _ _ _ taken]
    exact (take_message_spec _ _ _ taken).1
  have kept := relay_message_named env ambient (s.log (.took direction.src msg)) msg direction long (fun request => by
    subst request
    exact picks rfl msg consumed taken) named
  rw [handling] at kept
  exact kept

theorem transition_recipes (transition : Transition env st event next) (ready : Ready st) (picks : Picks env st event) :
    next.session.graph.Named := by
  cases transition_bookkeeping transition with
  | same books =>
      rw [books.graph]
      exact ready.recipes
  | settled r ambient replaying turns done resumed =>
      have kept : next.session.graph = st.session.graph := by
        rw [resumed]
        exact (resume_books _ _ _).graph.trans (settle_recovery_books _ _ _ _).graph
      rw [kept]
      exact ready.recipes
  | turned direction ambient disposal relaying turns turned still =>
      refine relay_turn_named _ _ direction ambient disposal turned (fun request => ?_) ready.recipes
      subst request
      subst turns
      simpa only [Picks, relaying] using picks

theorem transition_thawed (transition : Transition env st event next) (ready : Ready st)
    (relaying : next.control = .relaying .hostToClient) : next.session.frozen = false := by
  cases transition with
  | readHost s fill c thawed => exact thawed
  | relayed s next direction ambient disposal turned =>
      rw [relay_turn_frozen env ambient direction s next disposal turned]
      exact ready.thawed relaying
  | cached => exact ready.thawed relaying
  | readClient | clientGone | hostGone | registryGone | relayDone | readAck | ackGone | readRegistry | readConfigure
  | configureGone | configureLapse | ackLapse => cases relaying
  | skimRegistry s w =>
      unfold heedRegistry at relaying
      split at relaying
      · cases relaying
      · split at relaying <;> cases relaying
  | skimConfigure s h r =>
      unfold heedConfigure at relaying
      split at relaying
      · split at relaying <;> cases relaying
      · split at relaying
        · split at relaying <;> cases relaying
        · cases relaying
  | skimAck s h r =>
      unfold heedAck at relaying
      split at relaying <;> cases relaying
  | replayed s r =>
      unfold replayTurn at relaying
      split at relaying
      · cases relaying
      · split at relaying <;> cases relaying
  | reconnect s ambient outcomes =>
      simp only [beginRecovery] at relaying
      split at relaying
      · cases relaying
      · split at relaying
        · cases relaying
        · split at relaying <;> cases relaying

theorem ready_start (gtkOutcomes hostOutcomes : List WriteOutcome) (cache : ClipboardCache) :
    Ready (start gtkOutcomes hostOutcomes cache) where
  null := by
    show ShadowTable.new.interface 0 = none
    decide
  recipes := by
    intro id member
    cases member
  thawed := nofun
  fresh := nofun
  prepared := trivial

-- Every step leaves recovery's control flow ready for the next.
theorem transition_ready (covered : Covered env.protocol) (transition : Transition env st event next) (ready : Ready st)
    (picks : Picks env st event) (guests : GuestsNamed env.protocol next.session.trace) : Ready next := by
  have shift : Shift env.protocol False st next := transition_shift covered st event next transition ready picks False.elim
  exact ⟨shift_null shift ready guests, transition_recipes transition ready picks, transition_thawed transition ready,
    shift_fresh shift ready, transition_prepared transition ready⟩

end Ready

end WlResprox
