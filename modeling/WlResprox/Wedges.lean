import WlResprox.Readiness
import WlResprox.Framing

set_option autoImplicit false

namespace WlResprox

-- The header, once it is there, declares no less than its own length.
def Completable (buf : Bytes) : Prop :=
  match MessageHeader.parse buf with
  | none => True
  | some header => headerLen ≤ header.messageLen

instance (buf : Bytes) : Decidable (Completable buf) := by
  unfold Completable
  split <;> infer_instance

theorem header_parse_append (buf more : Bytes) (header : MessageHeader) (parsed : MessageHeader.parse buf = some header) :
    MessageHeader.parse (buf ++ more) = some header := by
  by_cases long : headerLen ≤ buf.length
  · have words : ∀ offset, offset + 4 ≤ headerLen → wordAt (buf ++ more) offset = wordAt buf offset :=
      fun offset inside => word_at_append_left buf more offset (by omega)
    rw [parse_isSome _ (by simp; omega), words 0 (by decide), words 4 (by decide), ← parse_isSome buf long, parsed]
  · simp [MessageHeader.parse, Nat.not_le.mp long] at parsed

theorem take_message_complete (buf : Bytes) (header : MessageHeader) (parsed : MessageHeader.parse buf = some header)
    (long : headerLen ≤ header.messageLen) (arrived : header.messageLen ≤ buf.length) :
    takeMessage buf = some (buf.take header.messageLen, header.messageLen) := by
  rw [takeMessage, parsed]
  exact if_neg (by omega)

theorem declared_length (a b c d : UInt8) : (fromNeBytes a b c d >>> 16).toUInt16.toNat = c.toNat + 256 * d.toNat := by
  have first := a.toNat_lt
  have second := b.toNat_lt
  have third := c.toNat_lt
  have fourth := d.toNat_lt
  rw [UInt32.toNat_toUInt16, UInt32.toNat_shiftRight, Nat.shiftRight_eq_div_pow, fromNeBytes, UInt32.toNat_ofNat']
  simp
  omega

-- The last byte of a header that has not fully arrived is free: a one there
-- makes the length at least 256.
theorem short_buffer_completes (buf : Bytes) (short : buf.length < headerLen) :
    ∃ byte rest, takeMessage (buf ++ byte :: rest) ≠ none := by
  simp only [headerLen] at short
  obtain ⟨tail, size⟩ : ∃ tail : Bytes, tail.length = 600 := ⟨List.replicate 600 0, List.length_replicate⟩
  obtain ⟨byte, rest, made⟩ : ∃ byte rest, List.replicate (7 - buf.length) 0 ++ (1 :: tail) = (byte :: rest : Bytes) := by
    cases List.replicate (7 - buf.length) (0 : UInt8) with
    | nil => exact ⟨_, _, rfl⟩
    | cons byte rest => exact ⟨_, _, rfl⟩
  refine ⟨byte, rest, ?_⟩
  rw [← made]
  generalize filled : buf ++ (List.replicate (7 - buf.length) 0 ++ (1 :: tail)) = whole
  have long : whole.length = 608 := by
    rw [← filled]
    simp
    omega
  have last : byteAt whole 7 = 1 := by
    have before : (buf ++ List.replicate (7 - buf.length) (0 : UInt8)).length = 7 := by
      simp
      omega
    rw [← filled, byteAt, ← List.append_assoc, List.getElem?_append_right (Nat.le_of_eq before), before]
    rfl
  have parsed := parse_isSome whole (by simp [long, headerLen])
  have declared := declared_length (byteAt whole 4) (byteAt whole 5) (byteAt whole 6) (byteAt whole 7)
  rw [last] at declared
  have third := (byteAt whole 6).toNat_lt
  have length : (wordAt whole 4 >>> 16).toUInt16.toNat = (byteAt whole 6).toNat + 256 := by
    rw [wordAt, last, declared]
    rfl
  rw [take_message_complete whole _ parsed (by simp [MessageHeader.messageLen, length, headerLen])
    (by simp [MessageHeader.messageLen, length, long]; omega)]
  simp

theorem completable_completes (buf : Bytes) (completable : Completable buf) :
    ∃ byte rest, takeMessage (buf ++ byte :: rest) ≠ none := by
  unfold Completable at completable
  split at completable
  · rename_i unparsed
    apply short_buffer_completes
    by_contra long
    rw [parse_isSome buf (Nat.not_lt.mp long)] at unparsed
    cases unparsed
  · rename_i header parsed
    refine ⟨0, List.replicate header.messageLen 0, ?_⟩
    rw [take_message_complete _ header (header_parse_append buf _ header parsed) completable (by simp; omega)]
    simp

theorem uncompletable_append (buf more : Bytes) (wedged : ¬ Completable buf) : ¬ Completable (buf ++ more) := by
  unfold Completable at wedged ⊢
  split at wedged
  · exact absurd trivial wedged
  · rename_i header parsed
    rw [header_parse_append buf more header parsed]
    exact wedged

theorem uncompletable_none (buf : Bytes) (wedged : ¬ Completable buf) : takeMessage buf = none := by
  unfold Completable at wedged
  unfold takeMessage
  revert wedged
  cases MessageHeader.parse buf with
  | none => exact fun wedged => absurd trivial wedged
  | some header => exact fun wedged => if_pos (.inl (Nat.not_le.mp wedged))

def heard (peer : Peer) (history : List Traffic) : List Bytes :=
  history.filterMap fun
    | .took source msg | .skimmed source msg => if source = peer then some msg else none
    | _ => none

-- A stretch that hears nothing from the peer: its buffer keeps what it holds
-- and may only grow.
structure Deaf (peer : Peer) (s s' : Session) : Prop where
  grown : ∃ more, (s'.conn peer).readBuf = (s.conn peer).readBuf ++ more
  heard : heard peer s'.trace = heard peer s.trace

namespace Deaf

variable {peer : Peer} {s s' s'' : Session}

theorem same (gtk : s'.gtk = s.gtk) (host : s'.host = s.host) (trace : s'.trace = s.trace) : Deaf peer s s' := by
  refine ⟨⟨[], ?_⟩, by rw [trace]⟩
  cases peer <;> simp only [Session.conn, gtk, host, List.append_nil]

theorem refl (s : Session) : Deaf peer s s := same rfl rfl rfl

theorem trans (first : Deaf peer s s') (second : Deaf peer s' s'') : Deaf peer s s'' := by
  obtain ⟨more, before⟩ := first.grown
  obtain ⟨later, after⟩ := second.grown
  exact ⟨⟨more ++ later, by rw [after, before, List.append_assoc]⟩, second.heard.trans first.heard⟩

theorem log (s : Session) (entry : Traffic) (silent : WlResprox.heard peer [entry] = []) : Deaf peer s (s.log entry) := by
  refine ⟨⟨[], by simp⟩, ?_⟩
  show WlResprox.heard peer (s.trace ++ [entry]) = _
  rw [WlResprox.heard, List.filterMap_append]
  show _ ++ WlResprox.heard peer [entry] = _
  rw [silent, List.append_nil]
  rfl

theorem frame {kept : Peer → Prop} (frame : Frame kept Handles s s') : Deaf peer s s' := by
  refine ⟨⟨[], by rw [frame.readBuf peer, List.append_nil]⟩, ?_⟩
  obtain ⟨added, handles, grown⟩ := frame.trace
  have nothing : WlResprox.heard peer added = [] := by
    rw [WlResprox.heard, List.filterMap_eq_nil_iff]
    intro entry member
    have fine := handles entry member
    cases entry with
    | took | skimmed => exact fine.elim
    | _ => rfl
  rw [WlResprox.heard, grown, List.filterMap_append]
  show _ ++ WlResprox.heard peer added = _
  rw [nothing, List.append_nil]
  rfl

theorem fill (s : Session) (source : Peer) (fill : Fill) (c : Conn) (filled : (s.conn source).fill fill = some c) :
    Deaf peer s (s.setConn source c) := by
  refine ⟨?_, rfl⟩
  rw [Session.conn_set_conn]
  split
  · rename_i same
    subst same
    unfold Conn.fill at filled
    split at filled
    · cases filled
    · cases filled
      exact ⟨_, rfl⟩
    · cases filled
  · exact ⟨[], by simp⟩

theorem drained (s : Session) (source : Peer) (consumed : Nat) (other : peer ≠ source) : Deaf peer s (s.drainBuf source consumed) := by
  refine ⟨⟨[], ?_⟩, rfl⟩
  rw [Session.drainBuf, Session.conn_set_conn, if_neg other, List.append_nil]

theorem skimmed (s : Session) (source : Peer) (consumed : Nat) (msg : Bytes) (other : peer ≠ source) :
    Deaf peer s (skimmed s source consumed msg) :=
  (drained s source consumed other).trans (log _ _ (by simp [WlResprox.heard, Ne.symm other]))

theorem ended (s : Session) (waited : Peer) : Deaf peer s (endWait s waited) := log s _ rfl

end Deaf

section Steps

variable {peer : Peer} (s : Session)

theorem heed_registry_deaf (w : RegistryWait) (msg : Bytes) : Deaf peer s (heedRegistry s w msg).session := by
  unfold heedRegistry
  split
  · exact .refl s
  · split
    · exact (Deaf.ended s .host).trans (.same rfl rfl rfl)
    · exact .refl s

theorem heed_configure_deaf (p : Protocol) (h : Handshake) (r : Replay) (msg : Bytes) :
    Deaf peer s (heedConfigure p s h r msg).session := by
  unfold heedConfigure
  split
  · split
    · rename_i passed
      exact .frame (pass_to_client_frame _ _ _ _ _ _ passed)
    · rename_i passed
      exact (Deaf.frame (pass_to_client_frame _ _ _ _ _ _ passed)).trans (.ended _ _)
  · split
    · split
      · rename_i passed
        exact (Deaf.frame (pass_to_client_frame _ _ _ _ _ _ passed)).trans (.ended _ _)
      · rename_i passed
        exact (Deaf.frame (pass_to_client_frame _ _ _ _ _ _ passed)).trans (.ended _ _)
    · exact .refl s

theorem heed_ack_deaf (p : Protocol) (h : Handshake) (r : Replay) (msg : Bytes) : Deaf peer s (heedAck p s h r msg).session := by
  unfold heedAck
  split
  · have acked : Frame everyPeer Handles s (s.writeMessage .host .relayed h.xdgSurface
        (buildMessage h.xdgSurfaceHostId (opcodeOfMessage msg) (msg.drop headerLen)) []).2 := .write s _ _ _ _ _ fun _ => trivial
    exact (Deaf.frame acked).trans (.ended _ _)
  · exact .refl s

theorem resume_deaf (p : Protocol) (order : HashOrder) : Deaf peer s (resume p order s).session := by
  have released : Frame everyPeer Handles s (synthesizeGrabReleases p order s) := (synthesize_grab_releases_frame p s order).told.handles
  have thawed : Deaf peer (synthesizeGrabReleases p order s) { synthesizeGrabReleases p order s with frozen := false } := .same rfl rfl rfl
  exact ((Deaf.frame released).trans thawed).trans (.log _ _ rfl)

theorem replay_turn_deaf (p : Protocol) (order : HashOrder) (r : Replay) : Deaf peer s (replayTurn p order s r).session := by
  unfold replayTurn
  split
  · have settled : Frame everyPeer Handles s (settleRecovery p order r.globals s) := (settle_recovery_frame p s order r.globals).told.handles
    exact (Deaf.frame settled).trans (resume_deaf _ p order)
  · split
    · exact .refl s
    · rename_i replayed
      have frame : Frame everyPeer Handles _ _ := (replay_recipe_frame p s _ _ _ _ _ _ _ replayed).frame.handles
      exact .frame frame
    · rename_i replayed
      have frame : Frame everyPeer Handles _ _ := (replay_recipe_frame p s _ _ _ _ _ _ _ replayed).frame.handles
      exact .frame frame

theorem begin_recovery_deaf (p : Protocol) (order : HashOrder) : Deaf peer s (beginRecovery p order s).session := by
  have unclaimed : Deaf peer s { s with reclaim := { s.reclaim with activeSourceHostId := none } } :=
    .same rfl rfl rfl
  simp only [beginRecovery]
  split
  · exact unclaimed.trans (resume_deaf _ p order)
  · split
    · exact unclaimed
    · rename_i registryGuestId _ _ registry _
      have frame : Frame everyPeer Handles _ _ := (ask_for_globals_frame
        { s with reclaim := { s.reclaim with activeSourceHostId := none } } registryGuestId).handles
      have asked : Deaf peer _ _ := .frame frame
      split
      · rename_i result
        rw [result] at asked
        exact unclaimed.trans asked
      · rename_i result
        rw [result] at asked
        exact unclaimed.trans asked

end Steps

-- Only a reconnect replaces a connection, and only the host's.
def SameConnection (peer : Peer) (event : Event) : Prop :=
  match event with
  | .reconnect _ _ => peer = .gtk
  | _ => True

-- No step takes a message from a buffer that frames none.
theorem step_deaf (env : Env) (peer : Peer) (st next : State) (event : Event) (same : SameConnection peer event)
    (starved : takeMessage (st.session.conn peer).readBuf = none) (taken : Transition env st event next) :
    Deaf peer st.session next.session := by
  have apart : ∀ source msg consumed, takeMessage (st.session.conn source).readBuf = some (msg, consumed) → peer ≠ source := by
    intro source msg consumed found equal
    rw [← equal, starved] at found
    cases found
  cases taken with
  | readClient s fill c filled => exact .fill s .gtk fill c filled
  | readAck s fill c h r _ filled => exact .fill s .gtk fill c filled
  | readHost s fill c thawed filled => exact .fill s .host fill c filled
  | readRegistry s fill c w _ filled => exact .fill s .host fill c filled
  | readConfigure s fill c h r _ filled => exact .fill s .host fill c filled
  | clientGone s fill gone => exact .refl s
  | hostGone s fill thawed gone =>
      have frozen : Deaf peer s { s with frozen := true } := .same rfl rfl rfl
      exact frozen.trans (.log _ _ rfl)
  | ackGone s fill h r _ gone => exact .ended s .gtk
  | registryGone s fill w _ gone => exact .ended s .host
  | configureGone s fill h r _ gone => exact .ended s .host
  | relayed s next direction ambient disposal turned =>
      obtain ⟨msg, consumed, handled, found, handling, rfl⟩ := relay_turn_some env ambient direction s next disposal turned
      have other := apart direction.src msg consumed found
      have frame := relay_message_frame (s.log (.took direction.src msg)) env ambient direction (headerOf msg) msg
      rw [handling] at frame
      exact ((Deaf.log s (.took direction.src msg) (by simp [heard, Ne.symm other])).trans (.frame frame)).trans (.drained _ _ _ other)
  | relayDone s direction ambient _ => exact .refl s
  | skimRegistry s w ambient msg consumed found =>
      exact (Deaf.skimmed s .host consumed msg (apart .host _ _ found)).trans (heed_registry_deaf _ w msg)
  | skimConfigure s h r ambient msg consumed found =>
      exact (Deaf.skimmed s .host consumed msg (apart .host _ _ found)).trans (heed_configure_deaf _ _ h r msg)
  | skimAck s h r ambient msg consumed found =>
      exact (Deaf.skimmed s .gtk consumed msg (apart .gtk _ _ found)).trans (heed_ack_deaf _ _ h r msg)
  | replayed s r ambient => exact replay_turn_deaf s _ _ r
  | reconnect s ambient outcomes frozen =>
      cases same
      have fresh : Deaf .gtk s { s with host := Conn.new outcomes, objects := s.objects.bumpGeneration } := ⟨⟨[], (List.append_nil _).symm⟩, rfl⟩
      exact (fresh.trans (.log _ .reconnected rfl)).trans (begin_recovery_deaf _ _ _)
  | configureLapse s h r => exact .ended s .host
  | ackLapse s h r => exact .ended s .gtk
  | cached s control mimeType bytes => exact .same rfl rfl rfl

-- A header that declares too little stops its direction for good: whatever
-- arrives stays behind it in the buffer.
theorem wedged_run (env : Env) (peer : Peer) (st reached : State) (events : List Event)
    (wedged : ¬ Completable (st.session.conn peer).readBuf)
    (run : Runs (step env) (fun _ event => SameConnection peer event) st events reached) :
    Deaf peer st.session reached.session := by
  refine run.invariant (fun reached => Deaf peer st.session reached.session) (.refl _) ?_
  intro s event next deaf same taken
  obtain ⟨more, grown⟩ := deaf.grown
  have still := uncompletable_none _ (uncompletable_append _ more wedged)
  rw [← grown] at still
  exact deaf.trans (step_deaf env peer s next event same still (step_transition env s event next taken))

-- What the two loops make of none: they read on, and some read gives them a
-- message to handle.
def RelayReadsOn (env : Env) (direction : Direction) (s : Session) : Prop :=
  ∀ ambient, relayTurn env ambient direction s = none →
    ∃ fill c, (s.conn direction.src).fill fill = some c ∧ relayTurn env ambient direction (s.setConn direction.src c) ≠ none

def WaitReadsOn (peer : Peer) (s : Session) : Prop :=
  ∀ heed, skim s peer heed = none → ∃ fill c, (s.conn peer).fill fill = some c ∧ skim (s.setConn peer c) peer heed ≠ none

theorem skim_none (s : Session) (peer : Peer) (heed : Session → Bytes → State) :
    skim s peer heed = none ↔ takeMessage (s.conn peer).readBuf = none := by
  unfold skim
  split
  · rename_i starved
    simp [starved]
  · rename_i msg consumed taken
    simp [taken]

theorem reads_on (s : Session) (peer : Peer) (completable : Completable (s.conn peer).readBuf) :
    ∃ fill c, (s.conn peer).fill fill = some c ∧ takeMessage ((s.setConn peer c).conn peer).readBuf ≠ none := by
  obtain ⟨byte, rest, taken⟩ := completable_completes _ completable
  refine ⟨.data (byte :: rest) [], _, rfl, ?_⟩
  rw [Session.conn_set_conn, if_pos rfl]
  exact taken

theorem wedged_reads (s : Session) (peer : Peer) (fill : Fill) (c : Conn) (wedged : ¬ Completable (s.conn peer).readBuf)
    (filled : (s.conn peer).fill fill = some c) : takeMessage ((s.setConn peer c).conn peer).readBuf = none := by
  obtain ⟨more, grown⟩ := (Deaf.fill s peer fill c filled).grown
  rw [grown]
  exact uncompletable_none _ (uncompletable_append _ more wedged)

theorem relay_reads_on_iff (env : Env) (direction : Direction) (s : Session) :
    RelayReadsOn env direction s ↔ Completable (s.conn direction.src).readBuf := by
  constructor
  · intro readsOn
    by_contra wedged
    obtain ⟨fill, c, filled, turned⟩ := readsOn ordinary ((relay_turn_none _ _ _ _).mpr (uncompletable_none _ wedged))
    exact turned ((relay_turn_none _ _ _ _).mpr (wedged_reads s _ fill c wedged filled))
  · intro completable ambient _
    obtain ⟨fill, c, filled, taken⟩ := reads_on s direction.src completable
    exact ⟨fill, c, filled, fun starved => taken ((relay_turn_none _ _ _ _).mp starved)⟩

theorem wait_reads_on_iff (peer : Peer) (s : Session) : WaitReadsOn peer s ↔ Completable (s.conn peer).readBuf := by
  constructor
  · intro readsOn
    by_contra wedged
    obtain ⟨fill, c, filled, skimmed⟩ := readsOn (fun s _ => ⟨s, .selecting⟩) ((skim_none _ _ _).mpr (uncompletable_none _ wedged))
    exact skimmed ((skim_none _ _ _).mpr (wedged_reads s _ fill c wedged filled))
  · intro completable heed _
    obtain ⟨fill, c, filled, taken⟩ := reads_on s peer completable
    exact ⟨fill, c, filled, fun starved => taken ((skim_none _ _ _).mp starved)⟩

theorem malformed_header_exact (env : Env) :
    (∀ buf, (takeMessage buf = none → ∃ more, takeMessage (buf ++ more) ≠ none) ↔ Completable buf) ∧
      (∀ direction s, RelayReadsOn env direction s ↔ Completable (s.conn direction.src).readBuf) ∧
      (∀ peer s, WaitReadsOn peer s ↔ Completable (s.conn peer).readBuf) ∧
      ∀ peer st events reached, ¬ Completable (st.session.conn peer).readBuf →
        Runs (step env) (fun _ event => SameConnection peer event) st events reached → Deaf peer st.session reached.session := by
  refine ⟨fun buf => ?_, relay_reads_on_iff env, wait_reads_on_iff, fun peer st events reached wedged run =>
    wedged_run env peer st reached events wedged run⟩
  constructor
  · intro completes
    by_contra wedged
    obtain ⟨more, taken⟩ := completes (uncompletable_none buf wedged)
    exact taken (uncompletable_none _ (uncompletable_append buf more wedged))
  · intro completable _
    obtain ⟨byte, rest, taken⟩ := completable_completes buf completable
    exact ⟨_, taken⟩

-- A header that declares four bytes, and a good request behind it: neither is
-- ever handled.
theorem four_byte_message_wedges :
    let malformed : Bytes := toNeBytes 1 ++ toNeBytes 0x00040001
    ¬ (takeMessage malformed = none → ∃ more, takeMessage (malformed ++ more) ≠ none) ∧
      ∃ st, coreRun unchecked [.gtkReadable (.data (malformed ++ requestRegistry 2) []), .turn ordinary] = some st ∧
        st.control.isSelecting = true ∧ st.session.trace = [] ∧ st.session.gtk.readBuf = malformed ++ requestRegistry 2 := by
  have wedged : ¬ Completable (toNeBytes 1 ++ toNeBytes 0x00040001) := by decide
  refine ⟨fun completes => ?_, _, rfl, ?_⟩
  · obtain ⟨more, taken⟩ := completes (uncompletable_none _ wedged)
    exact taken (uncompletable_none _ (uncompletable_append _ more wedged))
  · decide

end WlResprox
