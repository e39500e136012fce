import WlResprox.Effects

set_option autoImplicit false

namespace WlResprox

def noteWait (peer : Peer) (last : Option Bytes) : Traffic → Option Bytes
  | .reconnected => none
  | .waited waiting past => if waiting = peer then some past else last
  | _ => last

-- What the last wait of the current recovery on a peer had read past its end.
def lastWait (peer : Peer) (history : List Traffic) : Option Bytes := history.foldl (noteWait peer) none

theorem last_wait_snoc (peer : Peer) (history : List Traffic) (entry : Traffic) :
    lastWait peer (history ++ [entry]) = noteWait peer (lastWait peer history) entry := by
  simp [lastWait]

def Quiet (s : Session) (peer : Peer) : Prop := takeMessage (s.conn peer).readBuf = none

-- Nothing was read from the peer since the last wait on it ended.
def Behind (s : Session) (peer : Peer) : Prop :=
  match lastWait peer s.trace with
  | none => Quiet s peer
  | some past => past = (s.conn peer).readBuf

-- At the select of a relaying connection no complete message is left waiting.
def Attentive (st : State) : Prop :=
  st.control = .selecting → st.session.frozen = false → Quiet st.session .gtk ∧ Quiet st.session .host

def Attending (st : State) : Prop :=
  match st.control with
  | .selecting => Quiet st.session .gtk ∧ (st.session.frozen = false → Quiet st.session .host)
  | .relaying .clientToHost => st.session.frozen = false → Quiet st.session .host
  | .relaying .hostToClient => Quiet st.session .gtk ∧ st.session.frozen = false
  | .awaitingRegistry _ => lastWait .gtk st.session.trace = none ∧ Quiet st.session .gtk ∧ st.session.frozen = true
  | .replaying _ => Behind st.session .gtk ∧ Behind st.session .host
  | .awaitingConfigure _ _ => Behind st.session .gtk
  | .awaitingAck _ _ => Behind st.session .host
  | .ended | .panicked => True

-- When the last recipe is done, the last wait on either socket had read no
-- complete message past the registry done, configure or ack it ended at.
def ReadsNoFurther (st : State) (event : Event) : Prop :=
  match event, st.control with
  | .turn _, .replaying r =>
      r.rest = [] → ∀ peer past, lastWait peer st.session.trace = some past → takeMessage past = none
  | _, _ => True

section Frames

variable {kept : Peer → Prop} {s s' : Session}

theorem Frame.quiet {allowed : Traffic → Prop} (frame : Frame kept allowed s s') (peer : Peer) : Quiet s' peer ↔ Quiet s peer := by
  rw [Quiet, Quiet, frame.readBuf peer]

theorem Frame.last_wait (frame : Frame kept Handles s s') (peer : Peer) : lastWait peer s'.trace = lastWait peer s.trace := by
  obtain ⟨added, handled, grown⟩ := frame.trace
  rw [lastWait, grown, fold_quiet, lastWait]
  intro entry member last
  have fine := handled entry member
  cases entry with
  | sent | served => rfl
  | _ => exact fine.elim

theorem Frame.behind (frame : Frame kept Handles s s') (peer : Peer) : Behind s' peer ↔ Behind s peer := by
  rw [Behind, Behind, frame.last_wait peer, frame.quiet peer, frame.readBuf peer]

end Frames

theorem quiet_log (s : Session) (entry : Traffic) (peer : Peer) : Quiet (s.log entry) peer ↔ Quiet s peer := by
  rw [Quiet, Quiet, Session.conn_log]

theorem quiet_set_other (s : Session) (changed peer : Peer) (c : Conn) (other : peer ≠ changed) :
    Quiet (s.setConn changed c) peer ↔ Quiet s peer := by
  rw [Quiet, Quiet, Session.conn_set_conn, if_neg other]

theorem behind_set_other (s : Session) (changed peer : Peer) (c : Conn) (other : peer ≠ changed) :
    Behind (s.setConn changed c) peer ↔ Behind s peer := by
  rw [Behind, Behind, quiet_set_other s changed peer c other, Session.conn_set_conn, if_neg other]
  rfl

theorem behind_skimmed (s : Session) (taken peer : Peer) (msg : Bytes) : Behind (s.log (.skimmed taken msg)) peer ↔ Behind s peer := by
  rw [Behind, Behind, quiet_log, Session.conn_log]
  show (match lastWait peer (s.trace ++ [_]) with | none => _ | some past => _) ↔ _
  rw [last_wait_snoc]
  rfl

theorem behind_end_wait (s : Session) (waited peer : Peer) :
    Behind (endWait s waited) peer ↔ peer = waited ∨ Behind s peer := by
  rw [Behind, endWait, Session.conn_log, quiet_log]
  show (match lastWait peer (s.trace ++ [_]) with | none => _ | some past => _) ↔ _
  rw [last_wait_snoc]
  by_cases same : waited = peer
  · subst same
    simp [noteWait]
  · have other : peer ≠ waited := fun back => same back.symm
    simp [noteWait, same, other, Behind]

theorem relay_turn_frozen (env : Env) (ambient : Ambient) (direction : Direction) (s next : Session) (disposal : Disposal)
    (turned : relayTurn env ambient direction s = some (disposal, next)) : next.frozen = s.frozen := by
  obtain ⟨msg, consumed, handled, taken, handling, rfl⟩ := relay_turn_some env ambient direction s next disposal turned
  have frame := relay_message_frame (s.log (.took direction.src msg)) env ambient direction (headerOf msg) msg
  rw [handling] at frame
  exact frame.frozen

theorem relay_turn_quiet (env : Env) (ambient : Ambient) (direction : Direction) (s next : Session) (disposal : Disposal)
    (turned : relayTurn env ambient direction s = some (disposal, next)) (peer : Peer) (other : peer ≠ direction.src) :
    Quiet next peer ↔ Quiet s peer := by
  obtain ⟨msg, consumed, handled, taken, handling, rfl⟩ := relay_turn_some env ambient direction s next disposal turned
  have frame := relay_message_frame (s.log (.took direction.src msg)) env ambient direction (headerOf msg) msg
  rw [handling] at frame
  rw [Session.drainBuf, quiet_set_other _ _ _ _ other, frame.quiet, quiet_log]

theorem resume_attending (p : Protocol) (order : HashOrder) (s : Session) (gtk : Quiet s .gtk) (host : Quiet s .host) :
    Attending (resume p order s) := by
  have frame := synthesize_grab_releases_frame p s order
  have both : ∀ peer, Quiet s peer → Quiet (resume p order s).session peer := by
    intro peer quiet
    have kept := (frame.quiet peer).mpr quiet
    rw [resume, quiet_log]
    cases peer <;> exact kept
  exact ⟨both .gtk gtk, fun _ => both .host host⟩

theorem begin_recovery_attending (p : Protocol) (order : HashOrder) (s : Session) (gtk : Quiet s .gtk) (host : Quiet s .host)
    (frozen : s.frozen = true) (fresh : lastWait .gtk s.trace = none) : Attending (beginRecovery p order s) := by
  simp only [beginRecovery]
  split
  · apply resume_attending
    · exact gtk
    · exact host
  · split
    · trivial
    · rename_i registryGuestId _ _ registry _
      have frame := ask_for_globals_frame { s with reclaim := { s.reclaim with activeSourceHostId := none } } registryGuestId
      split
      · rename_i failed asked
        rw [asked] at frame
        refine ⟨(frame.quiet .gtk).mpr gtk, fun thawed => ?_⟩
        rw [frame.frozen] at thawed
        simp [frozen] at thawed
      · rename_i asking asked
        rw [asked] at frame
        have handles : Frame everyPeer Handles _ _ := frame.handles
        exact ⟨(handles.last_wait .gtk).trans fresh, (frame.quiet .gtk).mpr gtk, frame.frozen.trans frozen⟩

theorem replay_turn_attending (p : Protocol) (order : HashOrder) (s : Session) (r : Replay) (gtk : Behind s .gtk)
    (host : Behind s .host)
    (reads : r.rest = [] → ∀ peer past, lastWait peer s.trace = some past → takeMessage past = none) :
    Attending (replayTurn p order s r) := by
  unfold replayTurn
  split
  · rename_i done
    have frame := settle_recovery_frame p s order r.globals
    have quiet : ∀ peer, Behind s peer → Quiet (settleRecovery p order r.globals s) peer := by
      intro peer behind
      rw [frame.quiet peer]
      unfold Behind at behind
      split at behind
      · exact behind
      · rename_i past last
        rw [Quiet, ← behind]
        exact reads done peer past last
    exact resume_attending p order _ (quiet .gtk gtk) (quiet .host host)
  · rename_i guestId recipe rest _
    split
    · trivial
    · rename_i next replayed
      have frame : Frame everyPeer Handles _ _ := (replay_recipe_frame p s _ _ _ _ _ _ _ replayed).frame.handles
      exact ⟨(frame.behind .gtk).mpr gtk, (frame.behind .host).mpr host⟩
    · rename_i next h replayed
      have frame : Frame everyPeer Handles _ _ := (replay_recipe_frame p s _ _ _ _ _ _ _ replayed).frame.handles
      exact (frame.behind .gtk).mpr gtk

theorem behind_skim (s : Session) (taken peer : Peer) (consumed : Nat) (msg : Bytes) (other : peer ≠ taken) :
    Behind (skimmed s taken consumed msg) peer ↔ Behind s peer := by
  rw [skimmed, behind_skimmed, Session.drainBuf, behind_set_other _ _ _ _ other]

theorem quiet_skim (s : Session) (taken peer : Peer) (consumed : Nat) (msg : Bytes) (other : peer ≠ taken) :
    Quiet (skimmed s taken consumed msg) peer ↔ Quiet s peer := by
  rw [skimmed, quiet_log, Session.drainBuf, quiet_set_other _ _ _ _ other]

theorem heed_registry_attending (s : Session) (w : RegistryWait) (msg : Bytes) (fresh : lastWait .gtk s.trace = none)
    (gtk : Quiet s .gtk) (frozen : s.frozen = true) : Attending (heedRegistry s w msg) := by
  unfold heedRegistry
  split
  · exact ⟨fresh, gtk, frozen⟩
  · split
    · have behind : Behind s .gtk := by simpa [Behind, fresh] using gtk
      exact ⟨(behind_end_wait s .host .gtk).mpr (.inr behind), (behind_end_wait s .host .host).mpr (.inl rfl)⟩
    · exact ⟨fresh, gtk, frozen⟩

theorem pass_to_client_frame (s t : Session) (guestId : UInt32) (interface : Interface) (msg : Bytes) (done : Bool)
    (passed : passToClient s guestId interface msg = (done, t)) : Frame everyPeer Handles s t :=
  .wrote passed fun _ => trivial

theorem heed_configure_attending (p : Protocol) (s : Session) (h : Handshake) (r : Replay) (msg : Bytes)
    (gtk : Behind s .gtk) : Attending (heedConfigure p s h r msg) := by
  have ended : ∀ t, Frame everyPeer Handles s t → Attending ⟨endWait t .host, .replaying r⟩ := fun t frame =>
    ⟨(behind_end_wait t .host .gtk).mpr (.inr ((frame.behind .gtk).mpr gtk)), (behind_end_wait t .host .host).mpr (.inl rfl)⟩
  unfold heedConfigure
  split
  · split
    · rename_i written passed
      exact ((pass_to_client_frame _ _ _ _ _ _ passed).behind .gtk).mpr gtk
    · rename_i failed passed
      exact ended failed (pass_to_client_frame _ _ _ _ _ _ passed)
  · split
    · split
      · rename_i written passed
        exact (behind_end_wait written .host .host).mpr (.inl rfl)
      · rename_i failed passed
        exact ended failed (pass_to_client_frame _ _ _ _ _ _ passed)
    · exact gtk

theorem heed_ack_attending (p : Protocol) (s : Session) (h : Handshake) (r : Replay) (msg : Bytes) (host : Behind s .host) :
    Attending (heedAck p s h r msg) := by
  unfold heedAck
  split
  · have frame : Frame everyPeer Handles s (s.writeMessage .host .relayed h.xdgSurface
        (buildMessage h.xdgSurfaceHostId (opcodeOfMessage msg) (msg.drop headerLen)) []).2 :=
      .write s _ _ _ _ _ fun _ => trivial
    exact ⟨(behind_end_wait _ .gtk .gtk).mpr (.inl rfl), (behind_end_wait _ .gtk .host).mpr (.inr ((frame.behind .host).mpr host))⟩
  · exact host

theorem relayed_attending (env : Env) (ambient : Ambient) (direction : Direction) (s next : Session) (disposal : Disposal)
    (attending : Attending ⟨s, .relaying direction⟩)
    (turned : relayTurn env ambient direction s = some (disposal, next)) : Attending ⟨next, .relaying direction⟩ := by
  have frozen := relay_turn_frozen env ambient direction s next disposal turned
  have other := relay_turn_quiet env ambient direction s next disposal turned
  cases direction with
  | clientToHost => exact fun thawed => (other .host (by decide)).mpr (attending (frozen ▸ thawed))
  | hostToClient => exact ⟨(other .gtk (by decide)).mpr attending.1, frozen.trans attending.2⟩

theorem relay_done_attending (direction : Direction) (s : Session) (attending : Attending ⟨s, .relaying direction⟩)
    (starved : takeMessage (s.conn direction.src).readBuf = none) : Attending ⟨s, .selecting⟩ := by
  cases direction with
  | clientToHost => exact ⟨starved, attending⟩
  | hostToClient => exact ⟨attending.1, fun _ => starved⟩

theorem host_wait_over (s : Session) (r : Replay) (gtk : Behind s .gtk) : Attending ⟨endWait s .host, .replaying r⟩ :=
  ⟨(behind_end_wait s .host .gtk).mpr (.inr gtk), (behind_end_wait s .host .host).mpr (.inl rfl)⟩

theorem gtk_wait_over (s : Session) (r : Replay) (host : Behind s .host) : Attending ⟨endWait s .gtk, .replaying r⟩ :=
  ⟨(behind_end_wait s .gtk .gtk).mpr (.inl rfl), (behind_end_wait s .gtk .host).mpr (.inr host)⟩

theorem step_attending (env : Env) (st next : State) (event : Event) (attending : Attending st)
    (reads : ReadsNoFurther st event) (taken : Transition env st event next) : Attending next := by
  cases taken with
  | readClient s fill c filled => exact fun thawed => (quiet_set_other s .gtk .host _ (by decide)).mpr (attending.2 thawed)
  | clientGone s fill gone => trivial
  | readAck s fill c h r starved filled => exact (behind_set_other s .gtk .host _ (by decide)).mpr attending
  | ackGone s fill h r starved gone => exact gtk_wait_over s r attending
  | readHost s fill c thawed filled =>
      exact ⟨(quiet_set_other s .host .gtk _ (by decide)).mpr attending.1, thawed⟩
  | hostGone s fill thawed gone => exact ⟨(quiet_log _ _ .gtk).mpr attending.1, fun unfrozen => by cases unfrozen⟩
  | readRegistry s fill c w starved filled =>
      exact ⟨attending.1, (quiet_set_other s .host .gtk _ (by decide)).mpr attending.2.1, attending.2.2⟩
  | registryGone s fill w starved gone =>
      refine ⟨(quiet_log _ _ .gtk).mpr attending.2.1, fun thawed => ?_⟩
      have frozen : s.frozen = true := attending.2.2
      have still : s.frozen = false := thawed
      simp [still] at frozen
  | readConfigure s fill c h r starved filled => exact (behind_set_other s .host .gtk _ (by decide)).mpr attending
  | configureGone s fill h r starved gone => exact host_wait_over s r attending
  | relayed s next direction ambient disposal turned => exact relayed_attending env ambient direction s next disposal attending turned
  | relayDone s direction ambient starved => exact relay_done_attending direction s attending starved
  | skimRegistry s w ambient msg consumed taken =>
      obtain ⟨fresh, gtk, frozen⟩ := attending
      refine heed_registry_attending _ w msg ?_ ((quiet_skim s .host .gtk consumed msg (by decide)).mpr gtk) frozen
      exact (last_wait_snoc .gtk s.trace (.skimmed .host msg)).trans fresh
  | skimConfigure s h r ambient msg consumed taken =>
      exact heed_configure_attending _ _ h r msg ((behind_skim s .host .gtk consumed msg (by decide)).mpr attending)
  | skimAck s h r ambient msg consumed taken =>
      exact heed_ack_attending _ _ h r msg ((behind_skim s .gtk .host consumed msg (by decide)).mpr attending)
  | replayed s r ambient => exact replay_turn_attending env.protocol ambient.order s r attending.1 attending.2 reads
  | reconnect s ambient outcomes frozen =>
      exact begin_recovery_attending _ _ _ ((quiet_log _ _ .gtk).mpr attending.1) rfl frozen
        (last_wait_snoc .gtk s.trace .reconnected)
  | configureLapse s h r => exact host_wait_over s r attending
  | ackLapse s h r => exact gtk_wait_over s r attending
  | cached s control mimeType bytes =>
      cases control with
      | relaying direction => cases direction <;> exact attending
      | _ => exact attending

theorem attending_attentive (st : State) (attending : Attending st) : Attentive st := by
  obtain ⟨s, control⟩ := st
  rintro rfl thawed
  exact ⟨attending.1, attending.2 thawed⟩

-- A recovery whose last wait read further unfreezes with that message waiting.
theorem resumes_behind (env : Env) (st next : State) (event : Event) (attending : Attending st)
    (taken : Transition env st event next) (attentive : Attentive next) : ReadsNoFurther st event := by
  cases taken with
  | replayed s r ambient =>
      intro done peer past last
      have frame := (settle_recovery_frame env.protocol s ambient.order r.globals).trans
        (synthesize_grab_releases_frame env.protocol _ ambient.order)
      have behind : past = (s.conn peer).readBuf := by
        have both : Behind s peer := by
          cases peer
          · exact attending.1
          · exact attending.2
        simpa [Behind, last] using both
      have quiet : ∀ peer, Quiet (replayTurn env.protocol ambient.order s r).session peer ↔ Quiet s peer := by
        intro peer
        simp only [replayTurn, done, resume]
        rw [quiet_log, ← frame.quiet peer]
        cases peer <;> rfl
      have still := attentive (by simp only [replayTurn, done, resume]) (by simp only [replayTurn, done, resume]; rfl)
      rw [behind]
      cases peer
      · exact (quiet .gtk).mp still.1
      · exact (quiet .host).mp still.2
  | _ => trivial

theorem start_attending (gtkOutcomes hostOutcomes : List WriteOutcome) (cache : ClipboardCache) :
    Attending (start gtkOutcomes hostOutcomes cache) := ⟨rfl, fun _ => rfl⟩

theorem attending_of_run (env : Env) (gtkOutcomes hostOutcomes : List WriteOutcome) (cache : ClipboardCache)
    (events : List Event) (st : State) (run : Runs (step env) ReadsNoFurther (start gtkOutcomes hostOutcomes cache) events st) :
    Attending st :=
  run.invariant Attending (start_attending gtkOutcomes hostOutcomes cache)
    fun s event next attending reads taken => step_attending env s next event attending reads (step_transition env s event next taken)

theorem no_message_left_waiting (env : Env) (gtkOutcomes hostOutcomes : List WriteOutcome) (cache : ClipboardCache)
    (events : List Event) (st : State) (run : Runs (step env) ReadsNoFurther (start gtkOutcomes hostOutcomes cache) events st) :
    Attentive st ∧ ∀ event next, step env st event = some next → (Attentive next ↔ ReadsNoFurther st event) := by
  have attending := attending_of_run env gtkOutcomes hostOutcomes cache events st run
  refine ⟨attending_attentive st attending, fun event next taken => ⟨resumes_behind env st next event attending (step_transition env st event next taken), ?_⟩⟩
  intro reads
  exact attending_attentive next (step_attending env st next event attending reads (step_transition env st event next taken))

def readsNoFurther (st : State) (event : Event) : Bool :=
  match event, st.control with
  | .turn _, .replaying r =>
      !r.rest.isEmpty || [Peer.gtk, Peer.host].all fun peer =>
        (lastWait peer st.session.trace).all fun past => (takeMessage past).isNone
  | _, _ => true

theorem reads_no_further_sound (st : State) (event : Event) (checked : readsNoFurther st event = true) :
    ReadsNoFurther st event := by
  unfold ReadsNoFurther
  split
  · rename_i ambient r control
    intro done peer past last
    simp only [readsNoFurther, control, done, List.isEmpty_nil, Bool.not_true, Bool.false_or, List.all_cons, List.all_nil,
      Bool.and_true, Bool.and_eq_true] at checked
    have each : (lastWait peer st.session.trace).all fun past => (takeMessage past).isNone := by
      cases peer
      · exact checked.1
      · exact checked.2
    simpa [last] using each
  · trivial

-- The registry sync's done ends a chunk; the delete_id of its callback is the
-- compositor's next one.
def calmRecovery : List Event :=
  registryLost ++ [reconnectCore, .hostReadable (.data registryDone [])] ++ turns 2

theorem no_message_left_waiting_calm : ∃ st, Runs (step coreEnv) ReadsNoFurther coreStart calmRecovery st ∧
    st.session.frozen = false ∧ Attentive st := by
  have fold : ((coreRun readsNoFurther calmRecovery).map fun st => st.session.frozen) = some false := by decide +kernel
  obtain ⟨st, reached, thawed⟩ := Option.map_eq_some_iff.mp fold
  have run := Runs.of_checked readsNoFurther reads_no_further_sound reached
  exact ⟨st, run, thawed, (no_message_left_waiting coreEnv [] [] ClipboardCache.new _ st run).1⟩

-- Both come in one chunk, as a compositor flushes them, and the delete_id is
-- left waiting.
def hastyRecovery : List Event :=
  registryLost ++ [reconnectCore, .hostReadable (.data (registryDone ++ deleteSyncCallback) [])] ++ turns 2

theorem recovery_leaves_message_waiting :
    ∃ st, Runs (step coreEnv) (fun _ _ => True) coreStart hastyRecovery st ∧ ¬ Attentive st := by
  have fold : ((coreRun unchecked hastyRecovery).map fun st =>
      (st.session.frozen, st.control.isSelecting, (takeMessage st.session.host.readBuf).isNone)) =
        some (false, true, false) := by decide +kernel
  obtain ⟨st, reached, facts⟩ := Option.map_eq_some_iff.mp fold
  simp only [Prod.mk.injEq] at facts
  refine ⟨st, unchecked_run reached, fun attentive => ?_⟩
  have quiet : takeMessage st.session.host.readBuf = none := (attentive (Control.eq_selecting facts.2.1) facts.1).2
  simp [quiet] at facts

end WlResprox
