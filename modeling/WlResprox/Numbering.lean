import WlResprox.Readiness

set_option autoImplicit false

namespace WlResprox

-- The entries since the last new host connection.
def sinceReconnect (since : List Traffic) : Traffic → List Traffic
  | .reconnected => []
  | entry => since ++ [entry]

def connection (history : List Traffic) : List Traffic := history.foldl sinceReconnect []

def entryNewId (p : Protocol) (peer : Peer) : Traffic → Option UInt32
  | .sent m => if m.peer = peer then m.newId p else none
  | _ => none

-- The values in NewId position of what the proxy writes to a peer, in order.
def newIds (p : Protocol) (peer : Peer) (history : List Traffic) : List UInt32 := history.filterMap (entryNewId p peer)

def HostWritesSucceed (history : List Traffic) : Prop := ∀ m, .sent m ∈ history → m.peer = .host → m.outcome = .complete

def countFrom (first : UInt32) (count : Nat) : List UInt32 := (List.range count).map fun k => first + UInt32.ofNat k

def firstHostId : UInt32 := 2

def firstGuestServerId : UInt32 := 0xff000000

def nextNewId (p : Protocol) (peer : Peer) (first : UInt32) (history : List Traffic) : UInt32 :=
  first + UInt32.ofNat (newIds p peer history).length

-- No id is left out and none is used twice.
structure InOrder (p : Protocol) (history : List Traffic) : Prop where
  guests : newIds p .gtk history = countFrom firstGuestServerId (newIds p .gtk history).length
  hosts : HostWritesSucceed (connection history) →
    newIds p .host (connection history) = countFrom firstHostId (newIds p .host (connection history)).length

theorem count_from_succ (first : UInt32) (count : Nat) :
    countFrom first (count + 1) = countFrom first count ++ [first + UInt32.ofNat count] := by
  simp [countFrom, List.range_succ]

theorem count_from_snoc (first id : UInt32) (ids : List UInt32) (before : ids = countFrom first ids.length)
    (next : id = first + UInt32.ofNat ids.length) : ids ++ [id] = countFrom first (ids ++ [id]).length := by
  rw [List.length_append, List.length_singleton, count_from_succ, ← before, next]

-- Sixteen million server ids run up to the last 32-bit number.
theorem count_from_guests_nonzero (count : Nat) (few : count ≤ 2 ^ 24) : ∀ id ∈ countFrom firstGuestServerId count, id ≠ 0 := by
  intro id member
  obtain ⟨k, inside, rfl⟩ := List.mem_map.mp member
  have small : k < 2 ^ 24 := lt_of_lt_of_le (List.mem_range.mp inside) few
  intro zero
  have word := congrArg UInt32.toNat zero
  have wraps : (0xff000000 + k) % 2 ^ 32 = 0 := by
    simpa [firstGuestServerId, UInt32.toNat_add] using word
  omega

section Snoc

variable (p : Protocol) (peer : Peer) (history : List Traffic) (entry : Traffic)

theorem connection_snoc : connection (history ++ [entry]) = sinceReconnect (connection history) entry := by
  simp [connection]

theorem new_ids_snoc : newIds p peer (history ++ [entry]) = newIds p peer history ++ (entryNewId p peer entry).toList := by
  rw [newIds, List.filterMap_append]
  cases named : entryNewId p peer entry <;> simp [List.filterMap, named, newIds]

theorem new_ids_quiet (quiet : entryNewId p peer entry = none) : newIds p peer (history ++ [entry]) = newIds p peer history := by
  rw [new_ids_snoc, quiet]
  simp

theorem next_new_id_quiet (first : UInt32) (quiet : entryNewId p peer entry = none) :
    nextNewId p peer first (history ++ [entry]) = nextNewId p peer first history := by
  rw [nextNewId, new_ids_quiet p peer history entry quiet, nextNewId]

theorem next_new_id_taken (first id : UInt32) (taken : entryNewId p peer entry = some id) :
    nextNewId p peer first (history ++ [entry]) = nextNewId p peer first history + 1 := by
  rw [nextNewId, new_ids_snoc, taken, nextNewId]
  simp [UInt32.add_assoc]

theorem connection_grows (goes : entry ≠ .reconnected) : connection (history ++ [entry]) = connection history ++ [entry] := by
  rw [connection_snoc]
  cases entry <;> first | rfl | exact absurd rfl goes

theorem connection_sent (m : Sent) : connection (history ++ [.sent m]) = connection history ++ [.sent m] :=
  connection_grows history (.sent m) (by simp)

theorem host_writes_before (succeed : HostWritesSucceed (history ++ [entry])) : HostWritesSucceed history :=
  fun m member => succeed m (List.mem_append_left _ member)

end Snoc

theorem guests_named_of_few (p : Protocol) (history : List Traffic) (ordered : InOrder p history)
    (few : (newIds p .gtk history).length ≤ 2 ^ 24) : GuestsNamed p history := by
  intro m member toClient zero
  have listed : (0 : UInt32) ∈ newIds p .gtk history :=
    List.mem_filterMap.mpr ⟨.sent m, member, by rw [entryNewId, if_pos toClient, zero]⟩
  rw [ordered.guests] at listed
  exact count_from_guests_nonzero _ few 0 listed rfl

-- The table's counters are where the history says they are.
structure Numbered (p : Protocol) (phase : Phase) (v : View) : Prop where
  ordered : ∀ past, past <+: v.trace → InOrder p past
  guests : v.objects.nextGuestServerId = nextNewId p .gtk firstGuestServerId v.trace
  hosts : phase ≠ .dead → HostWritesSucceed (connection v.trace) →
    v.objects.nextHostId = nextNewId p .host firstHostId (connection v.trace)

namespace Numbered

variable {p : Protocol} {phase : Phase} {v : View}

-- A table with the same counters is as well numbered.
theorem recounted (numbered : Numbered p phase v) (objects : ShadowTable)
    (guests : objects.nextGuestServerId = v.objects.nextGuestServerId)
    (hosts : phase ≠ .dead → objects.nextHostId = v.objects.nextHostId) : Numbered p phase ⟨objects, v.trace⟩ where
  ordered := numbered.ordered
  guests := guests.trans numbered.guests
  hosts alive succeed := (hosts alive).trans (numbered.hosts alive succeed)

-- An entry without a new id changes no count.
theorem quiet (numbered : Numbered p phase v) (objects : ShadowTable) (entry : Traffic) (goes : entry ≠ .reconnected)
    (none : ∀ peer, entryNewId p peer entry = none) (guests : objects.nextGuestServerId = v.objects.nextGuestServerId)
    (hosts : objects.nextHostId = v.objects.nextHostId) : Numbered p phase (View.log ⟨objects, v.trace⟩ entry) where
  ordered past earlier := by
    rcases List.prefix_concat_iff.mp earlier with whole | before
    · have last := numbered.ordered v.trace List.prefix_rfl
      rw [whole]
      refine ⟨?_, ?_⟩
      · rw [new_ids_quiet p .gtk _ _ (none .gtk)]
        exact last.guests
      · rw [connection_grows _ _ goes, new_ids_quiet p .host _ _ (none .host)]
        exact fun succeed => last.hosts (host_writes_before _ _ succeed)
    · exact numbered.ordered past before
  guests := by
    rw [log_trace, log_objects, next_new_id_quiet p .gtk _ _ _ (none .gtk), guests]
    exact numbered.guests
  hosts alive succeed := by
    rw [log_trace, connection_grows _ _ goes] at succeed
    rw [log_trace, log_objects, connection_grows _ _ goes, next_new_id_quiet p .host _ _ _ (none .host), hosts]
    exact numbered.hosts alive (host_writes_before _ _ succeed)

-- A write that failed leaves nothing to say about its connection.
theorem broken (numbered : Numbered p phase v) (m : Sent) (toHost : m.peer = .host) (failed : m.outcome ≠ .complete) :
    Numbered p phase (v.log (.sent m)) := by
  have silent : entryNewId p .gtk (.sent m) = none := by simp [entryNewId, toHost]
  have fails : ¬ HostWritesSucceed (connection (v.trace ++ [.sent m])) := by
    rw [connection_sent]
    exact fun succeed => failed (succeed m (by simp) toHost)
  refine ⟨fun past earlier => ?_, ?_, fun alive succeed => absurd succeed fails⟩
  · rcases List.prefix_concat_iff.mp earlier with whole | before
    · rw [whole]
      refine ⟨?_, fun succeed => absurd succeed fails⟩
      rw [new_ids_quiet p .gtk _ _ silent]
      exact (numbered.ordered v.trace List.prefix_rfl).guests
    · exact numbered.ordered past before
  · rw [log_trace, log_objects, next_new_id_quiet p .gtk _ _ _ silent]
    exact numbered.guests

-- A creation takes the next id of the connection and moves the counter on.
theorem created (numbered : Numbered p phase v) (alive : phase ≠ .dead) (objects : ShadowTable) (m : Sent)
    (toHost : m.peer = .host) (takes : m.newId p = some v.objects.nextHostId)
    (guests : objects.nextGuestServerId = v.objects.nextGuestServerId)
    (hosts : objects.nextHostId = v.objects.nextHostId + 1) : Numbered p phase (View.log ⟨objects, v.trace⟩ (.sent m)) := by
  have silent : entryNewId p .gtk (.sent m) = none := by simp [entryNewId, toHost]
  have taken : entryNewId p .host (.sent m) = some v.objects.nextHostId := by simp [entryNewId, toHost, takes]
  have grown : newIds p .host (connection v.trace ++ [.sent m]) =
      newIds p .host (connection v.trace) ++ [v.objects.nextHostId] := by
    rw [new_ids_snoc, taken]
    rfl
  have last := numbered.ordered v.trace List.prefix_rfl
  refine ⟨fun past earlier => ?_, ?_, fun _ succeed => ?_⟩
  · rcases List.prefix_concat_iff.mp earlier with whole | before
    · rw [whole]
      refine ⟨?_, ?_⟩
      · rw [new_ids_quiet p .gtk _ _ silent]
        exact last.guests
      · rw [connection_sent, grown]
        intro succeed
        have sooner := host_writes_before _ _ succeed
        exact count_from_snoc _ _ _ (last.hosts sooner) (numbered.hosts alive sooner)
    · exact numbered.ordered past before
  · rw [log_trace, log_objects, next_new_id_quiet p .gtk _ _ _ silent, guests]
    exact numbered.guests
  · rw [log_trace, connection_sent] at succeed
    rw [log_trace, log_objects, connection_sent, next_new_id_taken p .host _ _ _ _ taken, hosts,
      numbered.hosts alive (host_writes_before _ _ succeed)]

theorem announced (numbered : Numbered p phase v) (objects : ShadowTable) (m : Sent) (toClient : m.peer = .gtk)
    (takes : m.newId p = some v.objects.nextGuestServerId) (guests : objects.nextGuestServerId = v.objects.nextGuestServerId + 1)
    (hosts : objects.nextHostId = v.objects.nextHostId) : Numbered p phase (View.log ⟨objects, v.trace⟩ (.sent m)) := by
  have silent : entryNewId p .host (.sent m) = none := by simp [entryNewId, toClient]
  have taken : entryNewId p .gtk (.sent m) = some v.objects.nextGuestServerId := by simp [entryNewId, toClient, takes]
  have grown : newIds p .gtk (v.trace ++ [.sent m]) = newIds p .gtk v.trace ++ [v.objects.nextGuestServerId] := by
    rw [new_ids_snoc, taken]
    rfl
  have last := numbered.ordered v.trace List.prefix_rfl
  refine ⟨fun past earlier => ?_, ?_, fun alive succeed => ?_⟩
  · rcases List.prefix_concat_iff.mp earlier with whole | before
    · rw [whole]
      refine ⟨?_, ?_⟩
      · rw [grown]
        exact count_from_snoc _ _ _ last.guests numbered.guests
      · rw [connection_sent, new_ids_quiet p .host _ _ silent]
        exact fun succeed => last.hosts (host_writes_before _ _ succeed)
    · exact numbered.ordered past before
  · rw [log_trace, log_objects, next_new_id_taken p .gtk _ _ _ _ taken, guests, numbered.guests]
  · rw [log_trace, connection_sent] at succeed
    rw [log_trace, log_objects, connection_sent, next_new_id_quiet p .host _ _ _ silent, hosts]
    exact numbered.hosts alive (host_writes_before _ _ succeed)

end Numbered

theorem silent_quiet (p : Protocol) (entry : Traffic) (silent : entry.Silent) (peer : Peer) : entryNewId p peer entry = none := by
  cases entry <;> first | rfl | exact silent.elim

theorem quiet_of_no_new_id (p : Protocol) (m : Sent) (none : m.newId p = none) (peer : Peer) :
    entryNewId p peer (.sent m) = .none := by
  simp only [entryNewId, none, ite_self]

theorem move_numbered {p : Protocol} (covered : Covered p) {named : Prop} {phase : Phase} {v v' : View}
    (move : Move p named phase v v') (numbered : Numbered p phase v) : Numbered p phase v' := by
  cases move with
  | noted entry silent =>
      refine numbered.quiet v.objects entry ?_ (silent_quiet p entry silent) rfl rfl
      rintro rfl
      exact silent.elim
  | told entry tells =>
      obtain ⟨m, rfl, -, -, none⟩ := tells_spec p covered entry tells
      exact numbered.quiet v.objects _ nofun (quiet_of_no_new_id p m none) rfl rfl
  | shrunk objects settled shrinks =>
      exact numbered.recounted objects shrinks.nextGuestServerId fun _ => shrinks.nextHostId
  | phantom objects gone counter null => exact numbered.recounted objects counter fun alive => absurd gone alive
  | asked m alive toHost none addressed => exact numbered.quiet v.objects _ nofun (quiet_of_no_new_id p m none) rfl rfl
  | attempted m child alive toHost failed makes addressed => exact numbered.broken m toHost failed
  | created m child alive toHost makes addressed => exact numbered.created alive _ m toHost (makes_new_id makes) rfl rfl
  | born m child guestId alive toHost makes nonzero owner listed addressed =>
      exact numbered.created alive _ m toHost (makes_new_id makes) rfl rfl
  | passed m alive toClient relayed none keeps delivered =>
      exact numbered.quiet v.objects _ nofun (quiet_of_no_new_id p m none) rfl rfl
  | deleted m raw guestId alive toClient relayed none frees heard found delivered =>
      exact numbered.quiet _ _ nofun (quiet_of_no_new_id p m none) rfl rfl
  | announced m raw hostId child alive toClient relayed makes keeps heard origin delivered =>
      exact numbered.announced _ m toClient (makes_new_id makes) rfl rfl

theorem moves_numbered {p : Protocol} (covered : Covered p) {named : Prop} {phase : Phase} {v v' : View}
    (moves : Moves p named phase v v') (numbered : Numbered p phase v) : Numbered p phase v' :=
  moves.invariant (Numbered p phase) (fun _ _ => move_numbered covered) numbered

-- A new connection starts counting again.
theorem reconnected_numbered {p : Protocol} {phase : Phase} {v : View} (numbered : Numbered p phase v) :
    Numbered p .recovering ⟨v.objects.bumpGeneration, v.trace ++ [.reconnected]⟩ where
  ordered past earlier := by
    rcases List.prefix_concat_iff.mp earlier with whole | before
    · rw [whole]
      refine ⟨?_, fun _ => ?_⟩
      · rw [new_ids_quiet p .gtk _ _ rfl]
        exact (numbered.ordered v.trace List.prefix_rfl).guests
      · rw [connection_snoc]
        rfl
    · exact numbered.ordered past before
  guests := by
    rw [next_new_id_quiet p .gtk _ _ _ rfl]
    exact numbered.guests
  hosts _ _ := by
    rw [connection_snoc]
    rfl

theorem numbered_in_phase {p : Protocol} {phase phase' : Phase} {v : View} (numbered : Numbered p phase v)
    (dies : phase = .dead → phase' = .dead) : Numbered p phase' v where
  ordered := numbered.ordered
  guests := numbered.guests
  hosts alive := numbered.hosts fun dead => alive (dies dead)

theorem shift_numbered {p : Protocol} (covered : Covered p) {named : Prop} {st next : State} (shift : Shift p named st next)
    (numbered : Numbered p (phaseOf st) st.view) : Numbered p (phaseOf next) next.view := by
  cases shift with
  | moved moves settles stays => exact numbered_in_phase (moves_numbered covered moves numbered) settles
  | renewed gone middle moves rest =>
      have after := moves_numbered covered moves (reconnected_numbered numbered)
      rcases rest with same | ⟨dead, later⟩
      · rw [same] at after
        exact numbered_in_phase after (by simp)
      · rw [dead]
        exact moves_numbered covered later (numbered_in_phase after (by simp))
  | registered w waits msg past mapped =>
      have alive : phaseOf st ≠ .dead := by simp [phaseOf, waits]
      have skimmed := numbered.quiet (st.session.objects.map w.registryGuestId w.registryHostId w.registry)
        (.skimmed .host msg) (by simp) (fun _ => rfl) rfl rfl
      have waited := skimmed.quiet _ (.waited .host past) (by simp) (fun _ => rfl) rfl rfl
      rw [mapped]
      refine numbered_in_phase ?_ fun dead => absurd dead alive
      simpa [View.log, State.view, Session.view] using waited

-- The part of the history that the ids have lasted for.
def Few (p : Protocol) (history : List Traffic) : Prop := (newIds p .gtk history).length ≤ 2 ^ 24

theorem Few.earlier {p : Protocol} {past history : List Traffic} (few : Few p history) (earlier : past <+: history) :
    Few p past := le_trans (List.IsPrefix.length_le (earlier.filterMap _)) few

structure Counting (p : Protocol) (st : State) : Prop where
  ordered : ∀ past, past <+: st.session.trace → Few p past → InOrder p past
  current : Few p st.session.trace → Ready st ∧ Numbered p (phaseOf st) st.view

theorem counting_start (p : Protocol) (gtkOutcomes hostOutcomes : List WriteOutcome) (cache : ClipboardCache) :
    Counting p (start gtkOutcomes hostOutcomes cache) := by
  have empty : InOrder p [] := ⟨rfl, fun _ => rfl⟩
  have only : ∀ past, past <+: [] → InOrder p past := by
    intro past earlier
    rw [List.prefix_nil.mp earlier]
    exact empty
  exact ⟨fun past earlier _ => only past earlier, fun _ => ⟨ready_start gtkOutcomes hostOutcomes cache, only, rfl, fun _ _ => rfl⟩⟩

section Growing

theorem Frame.grows {kept : Peer → Prop} {allowed : Traffic → Prop} {s s' : Session} (frame : Frame kept allowed s s') :
    s.trace <+: s'.trace := by
  obtain ⟨added, -, grown⟩ := frame.trace
  exact ⟨added, grown.symm⟩

theorem log_grows (s : Session) (entry : Traffic) : s.trace <+: (s.log entry).trace := List.prefix_append _ _

theorem wrote_grows {s s' : Session} {peer : Peer} {origin : Origin} {interface : Interface} {msg : Bytes} {fds : List Fd}
    {done : Bool} (result : s.writeMessage peer origin interface msg fds = (done, s')) : s.trace <+: s'.trace := by
  obtain rfl : _ = s' := congrArg Prod.snd result
  exact List.prefix_append _ _

theorem heed_registry_grows (s : Session) (w : RegistryWait) (msg : Bytes) : s.trace <+: (heedRegistry s w msg).session.trace := by
  unfold heedRegistry
  split
  · exact List.prefix_rfl
  · split
    · exact log_grows s _
    · exact List.prefix_rfl

theorem heed_configure_grows (p : Protocol) (s : Session) (h : Handshake) (r : Replay) (msg : Bytes) :
    s.trace <+: (heedConfigure p s h r msg).session.trace := by
  unfold heedConfigure
  split
  · split
    · rename_i written wrote
      exact wrote_grows wrote
    · rename_i failed wrote
      exact (wrote_grows wrote).trans (log_grows failed _)
  · split
    · split
      · rename_i written wrote
        exact (wrote_grows wrote).trans (log_grows written _)
      · rename_i failed wrote
        exact (wrote_grows wrote).trans (log_grows failed _)
    · exact List.prefix_rfl

theorem heed_ack_grows (p : Protocol) (s : Session) (h : Handshake) (r : Replay) (msg : Bytes) :
    s.trace <+: (heedAck p s h r msg).session.trace := by
  unfold heedAck
  split
  · exact (log_grows (s.setConn .host s.host.spendWrite) _).trans (log_grows _ _)
  · exact List.prefix_rfl

theorem skim_grows (s : Session) (peer : Peer) (consumed : Nat) (msg : Bytes) : s.trace <+: (skimmed s peer consumed msg).trace :=
  log_grows (s.drainBuf peer consumed) _

theorem resume_grows (p : Protocol) (order : HashOrder) (s : Session) : s.trace <+: (resume p order s).session.trace :=
  (synthesize_grab_releases_frame p s order).grows.trans (List.prefix_append _ _)

theorem begin_recovery_grows (p : Protocol) (order : HashOrder) (s : Session) :
    s.trace <+: (beginRecovery p order s).session.trace := by
  simp only [beginRecovery]
  split
  · exact resume_grows p order { s with reclaim := { s.reclaim with activeSourceHostId := none } }
  · split
    · exact List.prefix_rfl
    · rename_i registryGuestId _ _ registry _
      have asks := (ask_for_globals_frame { s with reclaim := { s.reclaim with activeSourceHostId := none } } registryGuestId).grows
      split
      · rename_i failed result
        rw [result] at asks
        exact asks
      · rename_i asked result
        rw [result] at asks
        exact asks

theorem replay_turn_grows (p : Protocol) (order : HashOrder) (s : Session) (r : Replay) :
    s.trace <+: (replayTurn p order s r).session.trace := by
  unfold replayTurn
  split
  · exact (settle_recovery_frame p s order r.globals).grows.trans (resume_grows p order _)
  · split
    · exact List.prefix_rfl
    · rename_i t result
      exact (replay_recipe_frame p s _ _ _ _ _ _ _ result).frame.grows
    · rename_i t h result
      exact (replay_recipe_frame p s _ _ _ _ _ _ _ result).frame.grows

theorem relay_turn_grows (env : Env) (ambient : Ambient) (direction : Direction) (s next : Session) (disposal : Disposal)
    (turned : relayTurn env ambient direction s = some (disposal, next)) : s.trace <+: next.trace := by
  obtain ⟨msg, consumed, handled, taken, handling, rfl⟩ := relay_turn_some env ambient direction s next disposal turned
  have relays := (relay_message_frame (s.log (.took direction.src msg)) env ambient direction (headerOf msg) msg).grows
  rw [handling] at relays
  exact (log_grows s _).trans relays

-- Whatever a step does, the history only grows.
theorem transition_grows {env : Env} {st next : State} {event : Event} (transition : Transition env st event next) :
    st.session.trace <+: next.session.trace := by
  cases transition with
  | clientGone | relayDone | readClient | readHost | readAck | readRegistry | readConfigure | cached => exact List.prefix_rfl
  | hostGone s | ackGone s | registryGone s | configureGone s | configureLapse s | ackLapse s => exact List.prefix_append _ _
  | relayed s next direction ambient disposal turned => exact relay_turn_grows env ambient direction s next disposal turned
  | skimRegistry s w ambient msg consumed taken =>
      exact (skim_grows s .host consumed msg).trans (heed_registry_grows _ w msg)
  | skimConfigure s h r ambient msg consumed taken =>
      exact (skim_grows s .host consumed msg).trans (heed_configure_grows env.protocol _ h r msg)
  | skimAck s h r ambient msg consumed taken =>
      exact (skim_grows s .gtk consumed msg).trans (heed_ack_grows env.protocol _ h r msg)
  | replayed s r ambient => exact replay_turn_grows env.protocol ambient.order s r
  | reconnect s ambient outcomes frozen =>
      have renewed : s.trace <+: (reconnected s outcomes).trace := List.prefix_append _ _
      exact renewed.trans (begin_recovery_grows env.protocol ambient.order _)

end Growing

section Runs

variable {env : Env} (covered : Covered env.protocol)

include covered

theorem transition_counting (st : State) (event : Event) (next : State) (transition : Transition env st event next)
    (picks : Picks env st event) (counting : Counting env.protocol st) : Counting env.protocol next := by
  have trace := transition_grows transition
  have onward : Few env.protocol st.session.trace → Numbered env.protocol (phaseOf next) next.view := by
    intro few
    obtain ⟨ready, numbered⟩ := counting.current few
    exact shift_numbered covered (@transition_shift _ covered False st event next transition ready picks False.elim) numbered
  refine ⟨fun past earlier few => ?_, fun few => ?_⟩
  · rcases List.prefix_or_prefix_of_prefix earlier trace with before | after
    · exact counting.ordered past before few
    · exact (onward (few.earlier after)).ordered past earlier
  · have numbered := onward (few.earlier trace)
    obtain ⟨ready, -⟩ := counting.current (few.earlier trace)
    have guests := guests_named_of_few _ _ (numbered.ordered next.session.trace List.prefix_rfl) few
    exact ⟨transition_ready covered transition ready picks guests, numbered⟩

end Runs

theorem counting_of_run (env : Env) (covered : Covered env.protocol) (gtkOutcomes hostOutcomes : List WriteOutcome)
    (cache : ClipboardCache) (events : List Event) (st : State)
    (run : Runs (step env) (Picks env) (start gtkOutcomes hostOutcomes cache) events st) : Counting env.protocol st := by
  refine run.invariant (Counting env.protocol) (counting_start env.protocol gtkOutcomes hostOutcomes cache) ?_
  intro s event next counting picks taken
  have transition := step_transition env s event next taken
  exact transition_counting covered s event next transition picks counting

-- At every moment of a run the ids handed to the host since it was connected
-- count up from 2, whatever was dropped in between, and those handed to the
-- client over the whole session from 0xff000000.
theorem new_ids_count_up (env : Env) (covered : Covered env.protocol) (gtkOutcomes hostOutcomes : List WriteOutcome)
    (cache : ClipboardCache) (events : List Event) (st : State)
    (run : Runs (step env) (Picks env) (start gtkOutcomes hostOutcomes cache) events st) (past : List Traffic)
    (earlier : past <+: st.session.trace) (few : (newIds env.protocol .gtk past).length ≤ 2 ^ 24) :
    InOrder env.protocol past :=
  (counting_of_run env covered gtkOutcomes hostOutcomes cache events st run).ordered past earlier few

def picksFresh (p : Protocol) (objects : ShadowTable) (msg : Bytes) : Bool :=
  match objects.interface (senderOf msg) with
  | none => true
  | some interface =>
      match (decode p .clientToHost interface msg).bind Call.newId with
      | none => true
      | some newId => newId ≠ 0 ∧ newId ≠ senderOf msg

def picksWell (st : State) (event : Event) : Bool :=
  match event, st.control with
  | .turn _, .relaying .clientToHost =>
      match takeMessage st.session.gtk.readBuf with
      | none => true
      | some (msg, _) => picksFresh coreProtocol st.session.objects msg
  | _, _ => true

theorem picks_well_sound (st : State) (event : Event) (checked : picksWell st event = true) : Picks coreEnv st event := by
  unfold Picks
  split
  · rename_i ambient control
    intro msg consumed taken interface newId known named
    have known' : st.session.objects.interface (senderOf msg) = some interface := known
    simp only [picksWell, control, taken, picksFresh, known'] at checked
    rw [show (decode coreProtocol .clientToHost interface msg).bind Call.newId = some newId from named] at checked
    simpa using checked
  · trivial

-- A surface asked of an unknown object and one created while the host is gone
-- cost the connections they fall into no id.
def droppedCreations : List Event :=
  .gtkReadable (.data (requestRegistry 2 ++ bindGlobal 1 "wl_compositor" 3 ++ buildMessage 9 0 (putU32 [] 4) ++ createSurface 5) []) ::
    turns 5 ++ [.hostReadable .error, .gtkReadable (.data (createSurface 6) [])] ++ turns 2 ++
    [reconnectCore, .hostReadable (.data (globalEvent 1 "wl_compositor" ++ registryDone) [])] ++ turns 6

theorem new_ids_count_up_dropped : ∃ st, Runs (step coreEnv) (Picks coreEnv) coreStart droppedCreations st ∧
    newIds coreProtocol .host (connection st.session.trace) = [2, 3, 4, 5, 6] ∧ InOrder coreProtocol st.session.trace := by
  have fold : ((coreRun picksWell droppedCreations).map fun st =>
      (newIds coreProtocol .host (connection st.session.trace), newIds coreProtocol .gtk st.session.trace)) =
        some ([2, 3, 4, 5, 6], []) := by decide +kernel
  obtain ⟨st, reached, facts⟩ := Option.map_eq_some_iff.mp fold
  simp only [Prod.mk.injEq] at facts
  have run := Runs.of_checked picksWell picks_well_sound reached
  refine ⟨st, run, facts.1, ?_⟩
  refine new_ids_count_up coreEnv core_covered [] [] ClipboardCache.new _ st run _ List.prefix_rfl ?_
  show (newIds coreProtocol .gtk st.session.trace).length ≤ 2 ^ 24
  rw [facts.2]
  exact Nat.zero_le _

end WlResprox
