import WlResprox.Recipes
import WlResprox.Waiting

set_option autoImplicit false

namespace WlResprox

def phaseOf (st : State) : Phase :=
  match st.control with
  | .awaitingRegistry _ | .replaying _ | .awaitingConfigure _ _ | .awaitingAck _ _ => .recovering
  | _ => .ofFrozen st.session.frozen

def State.view (st : State) : View := st.session.view

-- Every id handed to the client as a new object of its host is a real one, as
-- it is until the 32-bit server ids have run out.
def GuestsNamed (p : Protocol) (history : List Traffic) : Prop :=
  ∀ m, .sent m ∈ history → m.peer = .gtk → m.newId p ≠ some 0

theorem GuestsNamed.earlier {p : Protocol} {history added : List Traffic} (named : GuestsNamed p (history ++ added)) :
    GuestsNamed p history := fun m member => named m (List.mem_append_left _ member)

theorem move_trace {p : Protocol} {named : Prop} {phase : Phase} {v v' : View} (move : Move p named phase v v') :
    ∃ added, v'.trace = v.trace ++ added := by
  cases move with
  | shrunk | phantom => exact ⟨[], by simp⟩
  | noted entry | told entry => exact ⟨[entry], rfl⟩
  | asked m | passed m => exact ⟨[.sent m], rfl⟩
  | attempted m | created m | born m | deleted m | announced m => exact ⟨[.sent m], rfl⟩

-- The null id stays without an interface.
theorem move_null {p : Protocol} {named : Prop} {phase : Phase} {v v' : View} (move : Move p named phase v v')
    (guests : GuestsNamed p v'.trace) (null : v.objects.interface 0 = none) : v'.objects.interface 0 = none := by
  cases move with
  | noted | told | asked | attempted | passed => exact null
  | shrunk _ _ shrinks => exact shrinks.null null
  | phantom _ _ _ kept => exact kept null
  | created => exact null
  | born m child guestId alive toHost makes nonzero =>
      show (ShadowTable.map _ _ _ _).interface 0 = none
      rw [ShadowTable.interface_map, if_neg (Ne.symm nonzero)]
      exact null
  | deleted m raw guestId =>
      show (ShadowTable.removeGuest _ _).interface 0 = none
      rw [ShadowTable.interface_remove_guest]
      split
      · rfl
      · exact null
  | announced m raw hostId child alive toClient relayed makes =>
      have nonzero : v.objects.nextGuestServerId ≠ 0 := by
        intro zero
        refine guests m (by simp [View.log]) toClient ?_
        rw [makes_new_id makes, zero]
      show (ShadowTable.map _ _ _ _).interface 0 = none
      rw [ShadowTable.interface_map, if_neg (Ne.symm nonzero)]
      exact null

theorem moves_trace {p : Protocol} {named : Prop} {phase : Phase} {v v' : View} (moves : Moves p named phase v v') :
    ∃ added, v'.trace = v.trace ++ added := by
  induction moves with
  | refl => exact ⟨[], by simp⟩
  | tail _ move ih =>
      obtain ⟨earlier, was⟩ := ih
      obtain ⟨later, is⟩ := move_trace move
      exact ⟨earlier ++ later, by rw [is, was, List.append_assoc]⟩

theorem moves_null {p : Protocol} {named : Prop} {phase : Phase} {v v' : View} (moves : Moves p named phase v v')
    (guests : GuestsNamed p v'.trace) (null : v.objects.interface 0 = none) : v'.objects.interface 0 = none := by
  induction moves with
  | refl => exact null
  | tail _ move ih =>
      obtain ⟨later, is⟩ := move_trace move
      rw [is] at guests
      exact move_null move (by rw [is]; exact guests) (ih guests.earlier)

-- What every step makes of the view: moves within a phase, a new connection, or
-- the registry of one coming into force.
inductive Shift (p : Protocol) (named : Prop) (st next : State) : Prop where
  | moved (moves : Moves p named (phaseOf st) st.view next.view) (settles : phaseOf st = .dead → phaseOf next = .dead)
      (stays : phaseOf next = .recovering → phaseOf st = .recovering)
  | renewed (gone : phaseOf st = .dead) (middle : View)
      (moves : Moves p named .recovering ⟨st.session.objects.bumpGeneration, st.session.trace ++ [.reconnected]⟩ middle)
      (rest : middle = next.view ∨ phaseOf next = .dead ∧ Moves p named .dead middle next.view)
  | registered (w : RegistryWait) (waits : st.control = .awaitingRegistry w) (msg : Bytes) (past : Bytes)
      (mapped : next.view = ⟨st.session.objects.map w.registryGuestId w.registryHostId w.registry,
        st.session.trace ++ [.skimmed .host msg, .waited .host past]⟩)

-- What the control flow remembers of recovery.
def Control.Prepared : Control → Prop
  | .awaitingRegistry w => w.registryGuestId ≠ 0 ∧ w.registry = wlRegistry
  | .replaying r | .awaitingConfigure _ r | .awaitingAck _ r => r.registry = wlRegistry ∧ ∀ id ∈ r.rest.map Prod.fst, id ≠ 0
  | _ => True

structure Ready (st : State) : Prop where
  null : st.session.objects.interface 0 = none
  recipes : st.session.graph.Named
  thawed : st.control = .relaying .hostToClient → st.session.frozen = false
  fresh : phaseOf st = .recovering → Fresh st.session.objects
  prepared : st.control.Prepared

-- The ids in the messages of the two waits, as the ledger has them.
structure Anchored (p : Protocol) (st : State) : Prop where
  registry : ∀ r, st.control = .replaying r →
    ∃ owner, st.view.names p owner r.registryHostId r.registry
  toplevel : ∀ h r, (st.control = .awaitingConfigure h r ∨ st.control = .awaitingAck h r) →
    st.view.names p (some h.guestId) h.hostId h.interface ∧ st.view.names p (some h.xdgSurfaceGuestId) h.xdgSurfaceHostId h.xdgSurface

-- The client picks its ids well.
def Picks (env : Env) (st : State) (event : Event) : Prop :=
  match event, st.control with
  | .turn _, .relaying .clientToHost => ∀ msg consumed, takeMessage st.session.gtk.readBuf = some (msg, consumed) →
      PicksFresh env.protocol st.session.objects msg
  | _, _ => True

section Settling

variable (p : Protocol) (order : HashOrder) (s : Session)

theorem fold_objects {β : Type} (f : Session → β → Session) (each : ∀ s b, (f s b).objects = s.objects) (rows : List β) (s : Session) :
    (rows.foldl f s).objects = s.objects := by
  induction rows generalizing s with
  | nil => rfl
  | cons b rest ih => exact (ih (f s b)).trans (each s b)

theorem release_in_flight_objects (buffer : UInt32) : (releaseInFlight p s buffer).objects = s.objects := by
  unfold releaseInFlight
  split
  · exact tell_client_objects p s _ _ _ _
  · rfl

theorem settle_recovery_objects (globals : Globals) : (settleRecovery p order globals s).objects = s.objects := by
  have released : (drainInFlight p order s).objects = s.objects :=
    fold_objects (releaseInFlight p) (fun s buffer => release_in_flight_objects p s buffer) _ _
  have answered : (drainAwaitingDone p order (drainInFlight p order s)).objects = (drainInFlight p order s).objects :=
    fold_objects (synthesizeFrameDone p) (fun s callback => synthesize_frame_done_objects p s callback) _ _
  exact answered.trans released

theorem grab_event_objects (guestId : UInt32) (interface : Interface) (event : String) (rest : Bytes) (st : UInt32 × Session) :
    (grabEvent p guestId interface event rest st).2.objects = st.2.objects := by
  unfold grabEvent
  split
  · rfl
  · exact tell_client_objects p st.2 _ _ _ _

theorem grab_fold_objects {β : Type} (f : UInt32 × Session → β → UInt32 × Session)
    (each : ∀ st b, (f st b).2.objects = st.2.objects) (rows : List β) (st : UInt32 × Session) :
    (rows.foldl f st).2.objects = st.2.objects := by
  induction rows generalizing st with
  | nil => rfl
  | cons b rest ih => exact (ih (f st b)).trans (each st b)

theorem synthesize_grab_releases_objects : (synthesizeGrabReleases p order s).objects = s.objects := by
  have pointers := grab_fold_objects (releasePointerGrab p) (fun st grab => by
    unfold releasePointerGrab
    split
    · rfl
    · refine (grab_fold_objects _ (fun st button => grab_event_objects p _ _ _ _ st) _ _).trans ?_
      split
      · rfl
      · exact grab_event_objects p _ _ _ _ st) (s.grabs.activePointerGrabs order) (1, s)
  have keyboards := grab_fold_objects (releaseKeyboardGrab p) (fun st grab => by
    unfold releaseKeyboardGrab
    split
    · rfl
    · exact grab_event_objects p _ _ _ _ st) (s.grabs.activeKeyboardGrabs order)
    ((s.grabs.activePointerGrabs order).foldl (releasePointerGrab p) (1, s))
  exact keyboards.trans pointers

variable {named : Prop} {phase : Phase}

theorem resume_moves : Moves p named phase s.view (resume p order s).view := by
  have told : Moves p named phase s.view (synthesizeGrabReleases p order s).view :=
    moves_told (synthesize_grab_releases_frame p s order) (synthesize_grab_releases_objects p order s)
  exact told.tail (.noted _ .resumed trivial)

theorem settle_recovery_moves (globals : Globals) : Moves p named phase s.view (settleRecovery p order globals s).view :=
  moves_told (settle_recovery_frame p s order globals) (settle_recovery_objects p order s globals)

end Settling

section Waits

variable {p : Protocol} (covered : Covered p) {named : Prop} {phase : Phase} (alive : phase ≠ .dead)

-- Hearing another message changes nothing about what ids mean.
theorem names_heard (v : View) (entry : Traffic) (quiet : ((ledger p v.trace).note p entry).objects = (ledger p v.trace).objects)
    (owner : Option UInt32) (hostId : UInt32) (i : Interface) (names : v.names p owner hostId i) :
    (v.log entry).names p owner hostId i := by
  obtain known | translated := names
  · refine .inl ?_
    show (ledger p (v.trace ++ [entry])).objects hostId = _
    rw [ledger_snoc, quiet]
    exact known
  · exact .inr translated

theorem skimmed_view (s : Session) (peer : Peer) (consumed : Nat) (msg : Bytes) :
    (skimmed s peer consumed msg).view = s.view.log (.skimmed peer msg) := by
  cases peer <;> rfl

theorem skimmed_heard (s : Session) (peer : Peer) (consumed : Nat) (msg : Bytes) :
    (ledger p (skimmed s peer consumed msg).trace).heard peer = some msg := by
  have grown : (skimmed s peer consumed msg).trace = s.trace ++ [.skimmed peer msg] := by cases peer <;> rfl
  rw [grown, ledger_snoc]
  exact if_pos rfl

theorem end_wait_moves (s : Session) (peer : Peer) : Moves p named phase s.view (endWait s peer).view :=
  .single (.noted s.view _ trivial)

include covered alive

theorem pass_to_client_moves (s : Session) (guestId : UInt32) (interface : Interface) (msg : Bytes)
    (heard : (ledger p s.trace).heard .host = some msg)
    (configure : some (opcodeOfMessage msg) = eventOpcode p interface "configure")
    (origin : named → s.view.names p (some guestId) (senderOf msg) interface) :
    Moves p named phase s.view (passToClient s guestId interface msg).2.view := by
  obtain ⟨desc, at_opcode, member, name⟩ := opcode_listed _ _ _ (covered.events interface) configure.symm
  have entry : ∀ call, decode p .hostToClient interface (buildMessage guestId (opcodeOfMessage msg) (msg.drop headerLen)) = some call →
      call.desc = desc := by
    intro call decoded
    obtain ⟨walk, listed, -, -⟩ := decode_inv _ _ _ _ _ decoded
    rw [opcode_of_built] at listed
    exact Option.some.inj (listed.symm.trans at_opcode)
  refine .single (.passed s.view _ alive rfl rfl ?_ ?_ fun given => ⟨msg, heard, ?_⟩)
  · unfold Sent.newId
    cases decoded : decode p _ _ _ with
    | none => rfl
    | some call =>
        refine decode_quiet _ _ _ _ _ decoded ?_
        rw [entry call decoded]
        exact covered.quietEvents interface "configure" (by simp) desc member name
  · unfold Sent.frees
    split
    · rfl
    · rename_i call decoded
      rw [Ledger.frees, entry call decoded, name]
      simp
  · rw [senderOf, build_message_sender]
    exact origin given

theorem heed_configure_moves (s : Session) (h : Handshake) (r : Replay) (msg : Bytes)
    (heard : (ledger p s.trace).heard .host = some msg)
    (toplevel : named → s.view.names p (some h.guestId) h.hostId h.interface)
    (xdgSurface : named → s.view.names p (some h.xdgSurfaceGuestId) h.xdgSurfaceHostId h.xdgSurface) :
    Moves p named phase s.view (heedConfigure p s h r msg).view := by
  unfold heedConfigure
  split
  · rename_i own
    have passed : Moves p named phase s.view _ := pass_to_client_moves covered alive s h.guestId h.interface msg heard own.2
      fun given => by rw [own.1]; exact toplevel given
    split
    · rename_i written wrote
      rw [wrote] at passed
      exact passed
    · rename_i failed wrote
      rw [wrote] at passed
      exact passed.trans (end_wait_moves failed .host)
  · split
    · rename_i own
      have passed : Moves p named phase s.view _ := pass_to_client_moves covered alive s h.xdgSurfaceGuestId h.xdgSurface msg heard own.2
        fun given => by rw [own.1]; exact xdgSurface given
      split
      · rename_i written wrote
        rw [wrote] at passed
        exact passed.trans (end_wait_moves written .host)
      · rename_i failed wrote
        rw [wrote] at passed
        exact passed.trans (end_wait_moves failed .host)
    · exact .refl

theorem heed_ack_moves (s : Session) (h : Handshake) (r : Replay) (msg : Bytes)
    (heard : (ledger p s.trace).heard .gtk = some msg)
    (xdgSurface : named → s.view.names p (some h.xdgSurfaceGuestId) h.xdgSurfaceHostId h.xdgSurface) :
    Moves p named phase s.view (heedAck p s h r msg).view := by
  unfold heedAck
  split
  · rename_i own
    obtain ⟨desc, at_opcode, member, name⟩ := opcode_listed _ _ _ (covered.requests h.xdgSurface) own.2.symm
    obtain ⟨quiet, plain⟩ := covered.quietRequests h.xdgSurface "ack_configure" (by simp)
    have reads := plain_reads h.xdgSurface h.xdgSurfaceHostId (opcodeOfMessage msg) (msg.drop headerLen) desc at_opcode
      (quiet desc member name) (plain desc member name)
    have move : Moves p named phase s.view (s.writeMessage .host .relayed h.xdgSurface
        (buildMessage h.xdgSurfaceHostId (opcodeOfMessage msg) (msg.drop headerLen)) []).2.view := by
      refine .single (.asked s.view _ alive rfl ?_ fun given => ?_)
      · unfold Sent.newId
        cases decoded : decode p _ _ _ with
        | none => rfl
        | some call => exact (reads call decoded).1
      · have sender : s.view.names p (some h.xdgSurfaceGuestId)
            (senderOf (buildMessage h.xdgSurfaceHostId (opcodeOfMessage msg) (msg.drop headerLen))) h.xdgSurface := by
          rw [senderOf, build_message_sender]
          exact xdgSurface given
        refine ⟨⟨_, sender⟩, fun call decoded object inside => ?_, fun _ => ⟨msg, heard, by rw [own.1]; exact sender, fun call decoded => ?_⟩⟩
        · simp [(reads call decoded).2] at inside
        · obtain ⟨walk, listed, walked, is⟩ := decode_inv _ _ _ _ _ decoded
          rw [opcode_of_built] at listed
          rw [build_message_payload] at walked
          refine ⟨_, decode_some _ _ _ _ _ _ listed walked, ?_⟩
          have none : walk.objectOffsets = [] := by
            have count := walk_object_count _ _ _ walked
            rw [Option.some.inj (listed.symm.trans at_opcode), List.count_eq_zero.mpr (plain desc member name),
              List.length_eq_zero_iff] at count
            exact count
          rw [(reads call decoded).2]
          simp [callOf, none]
    exact move.trans (end_wait_moves _ .gtk)
  · exact .refl

end Waits

section Asking

variable {p : Protocol} (covered : Covered p) {named : Prop}

include covered

-- Asking for the globals takes the first two ids of the connection, in order.
theorem ask_for_globals_moves (s : Session) (registryGuestId : UInt32)
    (display : named → (ledger p s.trace).objects 1 = some ⟨some 1, wlDisplay⟩) (apart : s.objects.nextHostId ≠ 1) (done : Bool)
    (t : Session) (result : askForGlobals s registryGuestId = (done, t)) :
    (∃ middle, Moves p named .recovering s.view middle ∧ (middle = t.view ∨ Moves p named .dead middle t.view)) ∧
      (done = true → Moves p named .recovering s.view t.view ∧
        (ledger p t.trace).objects s.objects.nextHostId = some ⟨some registryGuestId, wlRegistry⟩ ∧
        t.objects = s.objects.allocateHostId.2.allocateHostId.2) := by
  have small := word_small s.objects.nextHostId
  have small' := word_small (s.objects.nextHostId + 1)
  have encoded := encoded_new_id s.objects.nextHostId
  have encoded' := encoded_new_id (s.objects.nextHostId + 1)
  have reads := decode_encoded p wlDisplay 1 1 _ _ _ _ covered.getRegistry encoded small
  have reads' := decode_encoded p wlDisplay 1 0 _ _ _ _ covered.sync encoded' small'
  let first (outcome : WriteOutcome) : Sent :=
    ⟨.host, .replayed registryGuestId, wlDisplay, buildMessage 1 1 (putU32 [] s.objects.nextHostId), [], outcome⟩
  let second (outcome : WriteOutcome) : Sent :=
    ⟨.host, .own, wlDisplay, buildMessage 1 0 (putU32 [] (s.objects.nextHostId + 1)), [], outcome⟩
  have makes : ∀ outcome, (first outcome).Makes p s.objects.nextHostId wlRegistry := fun outcome => ⟨_, reads, rfl, rfl⟩
  have makes' : ∀ outcome, (second outcome).Makes p (s.objects.nextHostId + 1) ⟨"wl_callback"⟩ := fun outcome => ⟨_, reads', rfl, rfl⟩
  have asking : ∀ outcome, Move p named .recovering s.view
      (View.log ⟨s.objects.allocateHostId.2, s.trace⟩ (.sent (first outcome))) := fun outcome =>
    .created s.view _ _ (by decide) rfl (makes outcome) fun given => by
      refine replayed_addressed _ _ _ _ _ _ _ _ _ ⟨some 1, .inl (display given)⟩ fun call decoded object inside => ?_
      rw [reads] at decoded
      cases decoded
      simp [objectValue] at inside
  have known : ∀ outcome query, (ledger p (s.trace ++ [.sent (first outcome)])).objects query =
      if query = s.objects.nextHostId then some ⟨some registryGuestId, wlRegistry⟩ else (ledger p s.trace).objects query := by
    intro outcome query
    rw [ledger_snoc]
    exact write_request p _ _ rfl _ _ (makes outcome) query
  have syncing : ∀ outcome outcome', Move p named .recovering
      (View.log ⟨s.objects.allocateHostId.2, s.trace⟩ (.sent (first outcome)))
      (View.log (View.log ⟨s.objects.allocateHostId.2.allocateHostId.2, s.trace⟩ (.sent (first outcome))) (.sent (second outcome'))) :=
    fun outcome outcome' => .created (View.log ⟨s.objects.allocateHostId.2, s.trace⟩ (.sent (first outcome))) _ _ (by decide) rfl
      (makes' outcome') fun given => by
        refine own_request_addressed _ _ wlDisplay 1 0 _ outcome' (some 1) (.inl ?_) fun call decoded object inside => ?_
        · show (ledger p (s.trace ++ [.sent (first outcome)])).objects 1 = _
          rw [known, if_neg (Ne.symm apart)]
          exact display given
        · rw [reads'] at decoded
          cases decoded
          simp [objectValue] at inside
  simp only [askForGlobals] at result
  split at result
  · rename_i failed wrote
    obtain rfl : _ = failed := congrArg Prod.snd wrote
    cases result
    refine ⟨⟨_, .single (asking s.host.nextWrite), .inr ?_⟩, by simp⟩
    exact .single (.phantom (View.log ⟨s.objects.allocateHostId.2, s.trace⟩ (.sent (first s.host.nextWrite)))
      s.objects.allocateHostId.2.allocateHostId.2 rfl rfl fun absent => absent)
  · rename_i asked wrote
    obtain rfl : _ = asked := congrArg Prod.snd wrote
    obtain rfl : _ = t := congrArg Prod.snd result
    have both : Moves p named .recovering s.view _ :=
      .tail (.single (asking s.host.nextWrite)) (syncing s.host.nextWrite s.host.spendWrite.nextWrite)
    refine ⟨⟨_, both, .inl rfl⟩, fun _ => ⟨both, ?_, rfl⟩⟩
    show (ledger p ((s.trace ++ [.sent (first s.host.nextWrite)]) ++ [.sent (second s.host.spendWrite.nextWrite)])).objects _ = _
    rw [ledger_snoc]
    refine (write_request p _ _ rfl _ _ (makes' _) _).trans ?_
    rw [if_neg (by simp), known, if_pos rfl]

end Asking

section Transitions

variable {env : Env} (covered : Covered env.protocol) {named : Prop}

theorem reconnected_view (s : Session) (outcomes : List WriteOutcome) :
    (reconnected s outcomes).view = ⟨s.objects.bumpGeneration, s.trace ++ [.reconnected]⟩ := rfl

include covered

theorem begin_recovery_shift (s : Session) (order : HashOrder) (outcomes : List WriteOutcome) (frozen : s.frozen = true) :
    Shift env.protocol named ⟨s, .selecting⟩ (beginRecovery env.protocol order (reconnected s outcomes)) := by
  have gone : phaseOf ⟨s, .selecting⟩ = .dead := by simp [phaseOf, Phase.ofFrozen, frozen]
  have display : named → (ledger env.protocol (reconnected s outcomes).trace).objects 1 = some ⟨some 1, wlDisplay⟩ := by
    intro _
    show (ledger env.protocol (s.trace ++ [.reconnected])).objects 1 = _
    rw [ledger_snoc]
    rfl
  simp only [beginRecovery]
  split
  · exact .renewed gone _ (resume_moves env.protocol order { reconnected s outcomes with
      reclaim := { (reconnected s outcomes).reclaim with activeSourceHostId := none } }) (.inl rfl)
  · split
    · exact .renewed gone _ .refl (.inl rfl)
    · rename_i registryGuestId _ _ registry _
      have asks := fun done t => @ask_for_globals_moves _ covered named
        { reconnected s outcomes with reclaim := { (reconnected s outcomes).reclaim with activeSourceHostId := none } }
        registryGuestId display (by show (2 : UInt32) ≠ 1; decide) done t
      split
      · rename_i failed result
        have frame := ask_for_globals_frame { reconnected s outcomes with
          reclaim := { (reconnected s outcomes).reclaim with activeSourceHostId := none } } registryGuestId
        rw [result] at frame
        have dead : phaseOf ⟨failed, .selecting⟩ = .dead := by
          have still : failed.frozen = true := frame.frozen.trans frozen
          simp [phaseOf, Phase.ofFrozen, still]
        obtain ⟨⟨middle, moves, rest⟩, -⟩ := asks _ _ result
        refine .renewed gone middle moves ?_
        rcases rest with same | later
        · exact .inl same
        · exact .inr ⟨dead, later⟩
      · rename_i asked result
        exact .renewed gone _ ((asks _ _ result).2 rfl).1 (.inl rfl)

theorem replay_turn_shift (s : Session) (order : HashOrder) (r : Replay) (ready : Ready ⟨s, .replaying r⟩)
    (anchored : named → Anchored env.protocol ⟨s, .replaying r⟩) :
    Moves env.protocol named .recovering s.view (replayTurn env.protocol order s r).view := by
  unfold replayTurn
  split
  · exact (settle_recovery_moves env.protocol order s r.globals).trans (resume_moves env.protocol order _)
  · rename_i guestId recipe rest shape
    obtain ⟨isRegistry, nonzero⟩ := ready.prepared
    have here : guestId ≠ 0 := nonzero guestId (by rw [shape]; exact List.mem_cons_self)
    have moves := fun t handshake => @replay_recipe_moves _ named covered s t (ready.fresh rfl) guestId here
      r.globals r.registry r.registryHostId recipe handshake isRegistry fun given => (anchored given).registry r rfl
    split
    · exact .refl
    · rename_i t result
      exact (moves t _ result).1
    · rename_i t h result
      exact (moves t _ result).1

theorem relay_turn_moves (s next : Session) (direction : Direction) (ambient : Ambient) (disposal : Disposal)
    (turned : relayTurn env ambient direction s = some (disposal, next))
    (picks : direction = .clientToHost → ∀ msg consumed, takeMessage s.gtk.readBuf = some (msg, consumed) →
      PicksFresh env.protocol s.objects msg)
    (thawed : direction = .hostToClient → s.frozen = false) :
    Moves env.protocol named (.ofFrozen s.frozen) s.view next.view := by
  obtain ⟨msg, consumed, handled, taken, handling, rfl⟩ := relay_turn_some env ambient direction s next disposal turned
  have long : headerLen ≤ msg.length := by
    rw [take_message_length _ _ _ taken]
    exact (take_message_spec _ _ _ taken).1
  have heard : (ledger env.protocol (s.log (.took direction.src msg)).trace).heard direction.src = some msg := by
    show (ledger env.protocol (s.trace ++ [.took direction.src msg])).heard direction.src = _
    rw [ledger_snoc]
    exact if_pos rfl
  have moves : Moves env.protocol named (.ofFrozen s.frozen) _ _ :=
    relay_message_moves env covered ambient direction (s.log (.took direction.src msg)) msg long heard (fun request => by
      subst request
      exact picks rfl msg consumed taken) thawed
  rw [handling] at moves
  have drained : (handled.drainBuf direction.src consumed).view = handled.view := by cases direction <;> rfl
  rw [drained]
  exact .head (.noted s.view (.took direction.src msg) trivial) moves

theorem transition_shift (st : State) (event : Event) (next : State) (transition : Transition env st event next)
    (ready : Ready st) (picks : Picks env st event) (anchored : named → Anchored env.protocol st) :
    Shift env.protocol named st next := by
  cases transition with
  | readClient s fill c filled => exact .moved .refl (fun dead => dead) fun recovers => recovers
  | clientGone s fill gone => exact .moved .refl (fun dead => dead) fun recovers => recovers
  | readHost s fill c thawed filled => exact .moved .refl (fun dead => dead) fun recovers => recovers
  | readAck | readRegistry | readConfigure => exact .moved .refl (by simp [phaseOf]) fun _ => rfl
  | ackGone | registryGone | configureGone | configureLapse | ackLapse => exact .moved (end_wait_moves _ _) (by simp [phaseOf]) fun _ => rfl
  | hostGone s fill thawed gone => exact .moved (.single (.noted s.view .lost trivial)) (fun _ => rfl) (by simp [phaseOf, freeze, Phase.ofFrozen, Session.log])
  | relayed s next direction ambient disposal turned =>
      have frozen := relay_turn_frozen env ambient direction s next disposal turned
      refine .moved ?_ (fun dead => ?_) fun recovers => absurd recovers (of_frozen_settled _)
      · refine relay_turn_moves covered s next direction ambient disposal turned (fun request => ?_) fun event => ?_
        · subst request
          exact picks
        · subst event
          exact ready.thawed rfl
      · show Phase.ofFrozen next.frozen = .dead
        rw [frozen]
        exact dead
  | relayDone s direction ambient starved => exact .moved .refl (fun dead => dead) fun recovers => recovers
  | skimRegistry s w ambient msg consumed taken =>
      have skims : Move env.protocol named .recovering s.view (skimmed s .host consumed msg).view := .noted s.view _ trivial
      unfold heedRegistry
      split
      · exact .moved (.single skims) (by simp [phaseOf]) fun _ => rfl
      · split
        · exact .registered w rfl msg _ (by
            simp only [State.view, Session.view, endWait, Session.log, skimmed, Session.drainBuf, Session.setConn, List.append_assoc]
            rfl)
        · exact .moved (.single skims) (by simp [phaseOf]) fun _ => rfl
  | skimConfigure s h r ambient msg consumed taken =>
      have heard := skimmed_heard (p := env.protocol) s .host consumed msg
      have kept := fun given => (anchored given).toplevel h r (.inl rfl)
      have moves : Moves env.protocol named .recovering _ _ :=
        heed_configure_moves covered (by decide) (skimmed s .host consumed msg) h r msg heard
          (fun given => names_heard s.view _ rfl _ _ _ (kept given).1) fun given => names_heard s.view _ rfl _ _ _ (kept given).2
      exact .moved (.head (.noted s.view (.skimmed .host msg) trivial) moves) (by simp [phaseOf]) fun _ => rfl
  | skimAck s h r ambient msg consumed taken =>
      have heard := skimmed_heard (p := env.protocol) s .gtk consumed msg
      have kept := fun given => (anchored given).toplevel h r (.inr rfl)
      have moves : Moves env.protocol named .recovering _ _ :=
        heed_ack_moves covered (by decide) (skimmed s .gtk consumed msg) h r msg heard
          fun given => names_heard s.view _ rfl _ _ _ (kept given).2
      exact .moved (.head (.noted s.view (.skimmed .gtk msg) trivial) moves) (by simp [phaseOf]) fun _ => rfl
  | replayed s r ambient => exact .moved (replay_turn_shift covered s ambient.order r ready anchored) (by simp [phaseOf]) fun _ => rfl
  | reconnect s ambient outcomes frozen => exact begin_recovery_shift covered s ambient.order outcomes frozen
  | cached s control mimeType bytes =>
      refine .moved ?_ (fun dead => ?_) fun recovers => ?_
      · exact .refl
      · exact dead
      · exact recovers

end Transitions

end WlResprox
