import WlResprox.Effects
import WlResprox.Letters

set_option autoImplicit false

namespace WlResprox

def noteSkim (peer : Peer) (count : Nat) : Traffic → Nat
  | .reconnected => 0
  | .skimmed skimmed _ => if skimmed = peer then count + 1 else count
  | _ => count

-- How many messages the waits of the current recovery took from a peer.
def skims (peer : Peer) (history : List Traffic) : Nat := history.foldl (noteSkim peer) 0

def Control.recovering : Control → Bool
  | .awaitingRegistry _ | .replaying _ | .awaitingConfigure _ _ | .awaitingAck _ _ => true
  | _ => false

-- A step of recovery whose reads bring what the two senders put on the wire.
def Reading (hostLetters gtkLetters : List Letter) (st : State) (event : Event) : Prop :=
  st.control.recovering = true ∧
    match event with
    | .hostReadable (.data bytes fds) =>
        Delivers (hostLetters.drop (skims .host st.session.trace)) st.session.host.readBuf bytes fds
    | .gtkReadable (.data bytes fds) =>
        Delivers (gtkLetters.drop (skims .gtk st.session.trace)) st.session.gtk.readBuf bytes fds
    | _ => True

-- The letters recovery took from a peer left their descriptors in its queue.
def Queued (letters : List Letter) (peer : Peer) (s : Session) : Prop :=
  Lagging (fdsOf (letters.take (skims peer s.trace))) (letters.drop (skims peer s.trace)) (s.conn peer).readBuf
    (s.conn peer).readFds

def FdsAligned (letters : List Letter) (peer : Peer) (s : Session) : Prop :=
  Aligned (letters.drop (skims peer s.trace)) (s.conn peer).readBuf (s.conn peer).readFds

variable (letters : List Letter) (peer : Peer) (s : Session)

theorem Frame.queued {s s' : Session} (frame : Frame everyPeer Handles s s') (queued : Queued letters peer s) :
    Queued letters peer s' := by
  have count : skims peer s'.trace = skims peer s.trace := by
    obtain ⟨added, handled, grown⟩ := frame.trace
    rw [skims, grown, fold_quiet, skims]
    intro entry member last
    have fine := handled entry member
    cases entry with
    | sent | served => rfl
    | _ => exact fine.elim
  rw [Queued, count, frame.readBuf peer, frame.readFds peer trivial]
  exact queued

theorem queued_log (entry : Traffic) (quiet : ∀ count, noteSkim peer count entry = count) (queued : Queued letters peer s) :
    Queued letters peer (s.log entry) := by
  have count : skims peer (s.log entry).trace = skims peer s.trace := by
    rw [skims, Session.log, fold_quiet _ _ _ [entry] (by simpa using quiet), skims]
  rw [Queued, count, Session.conn_log]
  exact queued

theorem queued_end_wait (waited : Peer) (queued : Queued letters peer s) : Queued letters peer (endWait s waited) :=
  queued_log letters peer s _ (fun _ => rfl) queued

theorem queued_set_other (changed : Peer) (c : Conn) (other : peer ≠ changed) (queued : Queued letters peer s) :
    Queued letters peer (s.setConn changed c) := by
  rw [Queued, Session.conn_set_conn, if_neg other]
  exact queued

theorem queued_fill (bytes : Bytes) (fds : List Fd) (c : Conn) (filled : (s.conn peer).fill (.data bytes fds) = some c)
    (delivers : Delivers (letters.drop (skims peer s.trace)) (s.conn peer).readBuf bytes fds) (queued : Queued letters peer s) :
    Queued letters peer (s.setConn peer c) := by
  have grown : c.readBuf = (s.conn peer).readBuf ++ bytes ∧ c.readFds = (s.conn peer).readFds ++ fds := by
    cases bytes with
    | nil => cases filled
    | cons byte rest => cases filled; exact ⟨rfl, rfl⟩
  rw [Queued, Session.conn_set_conn, if_pos rfl, grown.1, grown.2]
  exact Lagging.fill queued delivers

theorem skims_skimmed (taken : Peer) (consumed : Nat) (msg : Bytes) :
    skims peer (skimmed s taken consumed msg).trace = if taken = peer then skims peer s.trace + 1 else skims peer s.trace := by
  simp [skims, skimmed, Session.log, Session.drainBuf, Session.setConn, noteSkim]

theorem queued_skim (msg : Bytes) (consumed : Nat) (taken : takeMessage (s.conn peer).readBuf = some (msg, consumed))
    (queued : Queued letters peer s) : Queued letters peer (skimmed s peer consumed msg) := by
  obtain ⟨letter, rest, pending, -, -, next⟩ := Lagging.skim queued taken
  have later : letters.drop (skims peer s.trace + 1) = rest := by
    rw [← List.drop_drop, pending]
    rfl
  have earlier : letters.take (skims peer s.trace + 1) = letters.take (skims peer s.trace) ++ [letter] := by
    rw [List.take_add, pending]
    rfl
  rw [Queued, skims_skimmed, if_pos rfl, later, earlier, skimmed, Session.conn_log, Session.drainBuf, Session.conn_set_conn,
    if_pos rfl]
  simpa [fdsOf] using next

theorem queued_skim_other (taken : Peer) (msg : Bytes) (consumed : Nat) (other : peer ≠ taken) (queued : Queued letters peer s) :
    Queued letters peer (skimmed s taken consumed msg) := by
  rw [skimmed]
  refine queued_log letters peer _ _ (fun count => ?_) (queued_set_other letters peer s taken _ other queued)
  simp [noteSkim, Ne.symm other]

theorem heed_registry_queued (w : RegistryWait) (msg : Bytes) (queued : Queued letters peer s) :
    Queued letters peer (heedRegistry s w msg).session := by
  unfold heedRegistry
  split
  · exact queued
  · split
    · exact Frame.queued letters peer (.same rfl rfl rfl rfl) (queued_end_wait letters peer s .host queued)
    · exact queued

theorem heed_configure_queued (p : Protocol) (h : Handshake) (r : Replay) (msg : Bytes) (queued : Queued letters peer s) :
    Queued letters peer (heedConfigure p s h r msg).session := by
  have passed : ∀ t done guestId interface, passToClient s guestId interface msg = (done, t) → Queued letters peer t :=
    fun t done guestId interface result => Frame.queued letters peer (.wrote result fun _ => trivial) queued
  unfold heedConfigure
  split
  · split
    · rename_i result
      exact passed _ _ _ _ result
    · rename_i result
      exact queued_end_wait letters peer _ .host (passed _ _ _ _ result)
  · split
    · split
      · rename_i result
        exact queued_end_wait letters peer _ .host (passed _ _ _ _ result)
      · rename_i result
        exact queued_end_wait letters peer _ .host (passed _ _ _ _ result)
    · exact queued

theorem heed_ack_queued (p : Protocol) (h : Handshake) (r : Replay) (msg : Bytes) (queued : Queued letters peer s) :
    Queued letters peer (heedAck p s h r msg).session := by
  unfold heedAck
  split
  · exact queued_end_wait letters peer _ .gtk (Frame.queued letters peer (.write s _ _ _ _ _ fun _ => trivial) queued)
  · exact queued

theorem resume_queued (p : Protocol) (order : HashOrder) (queued : Queued letters peer s) :
    Queued letters peer (resume p order s).session := by
  refine queued_log letters peer _ _ (fun _ => rfl) ?_
  have released := Frame.queued letters peer (synthesize_grab_releases_frame p s order).told.handles queued
  cases peer <;> exact released

theorem replay_turn_queued (p : Protocol) (order : HashOrder) (r : Replay) (queued : Queued letters peer s) :
    Queued letters peer (replayTurn p order s r).session := by
  unfold replayTurn
  split
  · exact resume_queued letters peer _ p order (Frame.queued letters peer (settle_recovery_frame p s order r.globals).told.handles queued)
  · split
    · exact queued
    · rename_i next replayed
      exact Frame.queued letters peer (replay_recipe_frame p s _ _ _ _ _ _ _ replayed).frame.handles queued
    · rename_i next h replayed
      exact Frame.queued letters peer (replay_recipe_frame p s _ _ _ _ _ _ _ replayed).frame.handles queued

theorem begin_recovery_queued (p : Protocol) (order : HashOrder) (queued : Queued letters peer s) :
    Queued letters peer (beginRecovery p order s).session := by
  simp only [beginRecovery]
  split
  · exact resume_queued letters peer _ p order (Frame.queued letters peer (.same rfl rfl rfl rfl) queued)
  · split
    · exact Frame.queued letters peer (.same rfl rfl rfl rfl) queued
    · rename_i registryGuestId _ _ registry _
      have frame : Frame everyPeer Handles _ _ := (ask_for_globals_frame
        { s with reclaim := { s.reclaim with activeSourceHostId := none } } registryGuestId).handles
      have asked := Frame.queued letters peer frame (Frame.queued letters peer (.same rfl rfl rfl rfl) queued)
      split
      · rename_i result
        rwa [result] at asked
      · rename_i result
        rwa [result] at asked

theorem fill_data (c filled : Conn) (fill : Fill) (read : c.fill fill = some filled) : ∃ bytes fds, fill = .data bytes fds := by
  cases fill with
  | data bytes fds => exact ⟨bytes, fds, rfl⟩
  | error => cases read

theorem step_queued (env : Env) (hostLetters gtkLetters : List Letter) (st next : State) (event : Event)
    (host : Queued hostLetters .host st.session) (gtk : Queued gtkLetters .gtk st.session)
    (reading : Reading hostLetters gtkLetters st event) (taken : Transition env st event next) :
    Queued hostLetters .host next.session ∧ Queued gtkLetters .gtk next.session := by
  obtain ⟨recovering, honest⟩ := reading
  cases taken with
  | readClient | clientGone | readHost | hostGone | relayed | relayDone | reconnect => cases recovering
  | readAck s fill c h r starved filled =>
      obtain ⟨bytes, fds, rfl⟩ := fill_data _ _ _ filled
      exact ⟨queued_set_other _ .host s .gtk c (by decide) host, queued_fill _ .gtk s bytes fds c filled honest gtk⟩
  | ackGone s fill h r starved gone => exact ⟨queued_end_wait _ _ s .gtk host, queued_end_wait _ _ s .gtk gtk⟩
  | readRegistry s fill c w starved filled =>
      obtain ⟨bytes, fds, rfl⟩ := fill_data _ _ _ filled
      exact ⟨queued_fill _ .host s bytes fds c filled honest host, queued_set_other _ .gtk s .host c (by decide) gtk⟩
  | registryGone s fill w starved gone => exact ⟨queued_end_wait _ _ s .host host, queued_end_wait _ _ s .host gtk⟩
  | readConfigure s fill c h r starved filled =>
      obtain ⟨bytes, fds, rfl⟩ := fill_data _ _ _ filled
      exact ⟨queued_fill _ .host s bytes fds c filled honest host, queued_set_other _ .gtk s .host c (by decide) gtk⟩
  | configureGone s fill h r starved gone => exact ⟨queued_end_wait _ _ s .host host, queued_end_wait _ _ s .host gtk⟩
  | skimRegistry s w ambient msg consumed taken =>
      exact ⟨heed_registry_queued _ _ _ w msg (queued_skim _ .host s msg consumed taken host),
        heed_registry_queued _ _ _ w msg (queued_skim_other _ .gtk s .host msg consumed (by decide) gtk)⟩
  | skimConfigure s h r ambient msg consumed taken =>
      exact ⟨heed_configure_queued _ _ _ _ h r msg (queued_skim _ .host s msg consumed taken host),
        heed_configure_queued _ _ _ _ h r msg (queued_skim_other _ .gtk s .host msg consumed (by decide) gtk)⟩
  | skimAck s h r ambient msg consumed taken =>
      exact ⟨heed_ack_queued _ _ _ _ h r msg (queued_skim_other _ .host s .gtk msg consumed (by decide) host),
        heed_ack_queued _ _ _ _ h r msg (queued_skim _ .gtk s msg consumed taken gtk)⟩
  | replayed s r ambient => exact ⟨replay_turn_queued _ _ s _ _ r host, replay_turn_queued _ _ s _ _ r gtk⟩
  | configureLapse s h r => exact ⟨queued_end_wait _ _ s .host host, queued_end_wait _ _ s .host gtk⟩
  | ackLapse s h r => exact ⟨queued_end_wait _ _ s .gtk host, queued_end_wait _ _ s .gtk gtk⟩
  | cached s control mimeType bytes =>
      exact ⟨Frame.queued _ _ (.same rfl rfl rfl rfl) host, Frame.queued _ _ (.same rfl rfl rfl rfl) gtk⟩

theorem reconnected_queued (s : Session) (outcomes : List WriteOutcome) (hostLetters gtkLetters : List Letter)
    (gtk : Aligned gtkLetters s.gtk.readBuf s.gtk.readFds) :
    Queued hostLetters .host (reconnected s outcomes) ∧ Queued gtkLetters .gtk (reconnected s outcomes) := by
  have none : ∀ peer, skims peer (reconnected s outcomes).trace = 0 := by
    intro peer
    simp [skims, reconnected, Session.log, noteSkim]
  constructor
  · rw [Queued, none]
    exact ⟨List.nil_prefix, by simp [reconnected, Session.log, Session.conn, Conn.new, fdsOf]⟩
  · rw [Queued, none]
    exact gtk

-- From any frozen state whose client queue is aligned, over every step until
-- recovery returns: the queues are aligned just when no letter the waits took
-- had a descriptor attached.
theorem recovery_keeps_fds_aligned_iff (env : Env) (ambient : Ambient) (s : Session) (outcomes : List WriteOutcome)
    (hostLetters gtkLetters : List Letter) (gtk : Aligned gtkLetters s.gtk.readBuf s.gtk.readFds) (events : List Event)
    (st : State)
    (run : Runs (step env) (Reading hostLetters gtkLetters)
      (beginRecovery env.protocol ambient.order (reconnected s outcomes)) events st) :
    FdsAligned hostLetters .host st.session ∧ FdsAligned gtkLetters .gtk st.session ↔
      (∀ letter ∈ hostLetters.take (skims .host st.session.trace), letter.fds = []) ∧
        ∀ letter ∈ gtkLetters.take (skims .gtk st.session.trace), letter.fds = [] := by
  have begun := reconnected_queued s outcomes hostLetters gtkLetters gtk
  have queued := run.invariant (fun st => Queued hostLetters .host st.session ∧ Queued gtkLetters .gtk st.session)
    ⟨begin_recovery_queued _ _ _ _ _ begun.1, begin_recovery_queued _ _ _ _ _ begun.2⟩
    fun st event next both reading taken =>
      step_queued env hostLetters gtkLetters st next event both.1 both.2 reading (step_transition env st event next taken)
  have host := Lagging.aligned_iff queued.1
  have client := Lagging.aligned_iff queued.2
  simp only [fdsOf, List.flatMap_eq_nil_iff] at host client
  exact and_congr host client

def delivers (pending : List Letter) (readBuf bytes : Bytes) (fds : List Fd) : Bool :=
  (readBuf ++ bytes).isPrefixOf (bytesOf pending) &&
    fds = fdsOf ((begun pending (readBuf ++ bytes).length).drop (begun pending readBuf.length).length)

def reading (hostLetters gtkLetters : List Letter) (st : State) (event : Event) : Bool :=
  st.control.recovering &&
    match event with
    | .hostReadable (.data bytes fds) => delivers (hostLetters.drop (skims .host st.session.trace)) st.session.host.readBuf bytes fds
    | .gtkReadable (.data bytes fds) => delivers (gtkLetters.drop (skims .gtk st.session.trace)) st.session.gtk.readBuf bytes fds
    | _ => true

theorem delivers_sound (pending : List Letter) (readBuf bytes : Bytes) (fds : List Fd)
    (checked : delivers pending readBuf bytes fds = true) : Delivers pending readBuf bytes fds := by
  simp only [delivers, Bool.and_eq_true, List.isPrefixOf_iff_prefix, decide_eq_true_eq] at checked
  exact ⟨checked.1, checked.2⟩

theorem reading_sound (hostLetters gtkLetters : List Letter) (st : State) (event : Event)
    (checked : reading hostLetters gtkLetters st event = true) : Reading hostLetters gtkLetters st event := by
  simp only [reading, Bool.and_eq_true] at checked
  refine ⟨checked.1, ?_⟩
  have honest := checked.2
  split <;> first
    | exact delivers_sound _ _ _ _ honest
    | trivial

def recoveryStart (s : Session) : State := beginRecovery coreEnv.protocol ordinary.order (reconnected s [])

-- The compositor's whole answer to a client that holds a registry only.
def registryLetters : List Letter := [⟨registryDone, [], by decide +kernel⟩, ⟨deleteSyncCallback, [], by decide +kernel⟩]

def registryRecovery : List Event := .hostReadable (.data registryDone []) :: turns 2

theorem recovery_keeps_fds_aligned_registry : ∃ st₀ st, Runs (step coreEnv) (fun _ _ => True) coreStart registryLost st₀ ∧
    Runs (step coreEnv) (Reading registryLetters []) (recoveryStart st₀.session) registryRecovery st ∧
    st.control = .selecting ∧ FdsAligned registryLetters .host st.session := by
  have fold : ((coreRun unchecked registryLost).bind fun st₀ =>
      (checkedRun (reading registryLetters []) (recoveryStart st₀.session) registryRecovery).map fun st =>
        (st₀.session.gtk.readBuf, st₀.session.gtk.readFds, st.control.isSelecting)) = some ([], [], true) := by decide +kernel
  obtain ⟨st₀, lost, rest⟩ := Option.bind_eq_some_iff.mp fold
  obtain ⟨st, recovered, facts⟩ := Option.map_eq_some_iff.mp rest
  simp only [Prod.mk.injEq] at facts
  have run := Runs.of_checked _ (reading_sound registryLetters []) recovered
  have gtk : Aligned [] st₀.session.gtk.readBuf st₀.session.gtk.readFds := by
    rw [facts.1, facts.2.1]
    exact ⟨List.nil_prefix, rfl⟩
  have aligned := recovery_keeps_fds_aligned_iff coreEnv ordinary st₀.session [] registryLetters [] gtk registryRecovery st run
  refine ⟨st₀, st, unchecked_run lost, run, Control.eq_selecting facts.2.2, (aligned.mpr ⟨?_, by simp⟩).1⟩
  intro letter taken
  have bare : ∀ letter ∈ registryLetters, letter.fds = [] := by decide
  exact bare letter (List.mem_of_mem_take taken)

-- A compositor sends the keymap of the replayed keyboard before it configures
-- the replayed toplevel. The configure wait drops the keymap, and its
-- descriptor stays at the head of the queue.
def windowLetters : List Letter :=
  [⟨globalEvent 1 "wl_compositor", [], by decide +kernel⟩, ⟨globalEvent 2 "xdg_wm_base", [], by decide +kernel⟩,
   ⟨globalEvent 3 "wl_seat", [], by decide +kernel⟩, ⟨registryDone, [], by decide +kernel⟩,
   ⟨buildMessage 7 0 (putU32 (putU32 [] 1) 16), [.received 0], by decide +kernel⟩,
   ⟨buildMessage 10 0 (putArray (putU32 (putU32 [] 0) 0) []), [], by decide +kernel⟩,
   ⟨buildMessage 9 0 (putU32 [] 5), [], by decide +kernel⟩]

def ackLetter : Letter := ⟨buildMessage 8 4 (putU32 [] 5), [], by decide +kernel⟩

def windowRecovery : List Event :=
  .hostReadable (.data (bytesOf (windowLetters.take 4)) []) :: turns 11 ++
    [.hostReadable (.data (bytesOf (windowLetters.drop 4)) [.received 0])] ++ turns 3 ++
    [.gtkReadable (.data ackLetter.msg [])] ++ turns 2

theorem recovery_leaves_keymap_fd : ∃ st₀ st, Runs (step coreEnv) (fun _ _ => True) coreStart windowLost st₀ ∧
    st₀.session.frozen = true ∧ Aligned [ackLetter] st₀.session.gtk.readBuf st₀.session.gtk.readFds ∧
    Runs (step coreEnv) (Reading windowLetters [ackLetter]) (recoveryStart st₀.session) windowRecovery st ∧
    st.control = .selecting ∧ st.session.frozen = false ∧ ¬ FdsAligned windowLetters .host st.session := by
  have fold : ((coreRun unchecked windowLost).bind fun st₀ =>
      (checkedRun (reading windowLetters [ackLetter]) (recoveryStart st₀.session) windowRecovery).map fun st =>
        ((st₀.session.frozen, st₀.session.gtk.readBuf, st₀.session.gtk.readFds),
          (st.control.isSelecting, st.session.frozen, st.session.host.readBuf, st.session.host.readFds))) =
      some ((true, [], []), (true, false, [], [.received 0])) := by decide +kernel
  obtain ⟨st₀, lost, rest⟩ := Option.bind_eq_some_iff.mp fold
  obtain ⟨st, recovered, facts⟩ := Option.map_eq_some_iff.mp rest
  simp only [Prod.mk.injEq] at facts
  obtain ⟨⟨frozen, gtkBuf, gtkFds⟩, selecting, thawed, hostBuf, hostFds⟩ := facts
  refine ⟨st₀, st, unchecked_run lost, frozen, ?_, Runs.of_checked _ (reading_sound windowLetters [ackLetter]) recovered,
    Control.eq_selecting selecting, thawed, fun aligned => ?_⟩
  · rw [gtkBuf, gtkFds]
    exact ⟨List.nil_prefix, rfl⟩
  · have expected := aligned.fds
    rw [show (st.session.conn .host).readFds = [.received 0] from hostFds,
      show (st.session.conn .host).readBuf = [] from hostBuf] at expected
    simp [fdsOf] at expected

end WlResprox
