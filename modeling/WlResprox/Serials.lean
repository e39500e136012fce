import WlResprox.Client
import WlResprox.Reasons

set_option autoImplicit false

namespace WlResprox

def xdgSurface : Interface := ⟨"xdg_surface"⟩

-- The serial of a configure event the host sent from one of its objects.
def configureSerial (p : Protocol) (hostId : UInt32) : Traffic → Option UInt32
  | .took .host msg | .skimmed .host msg =>
      if senderOf msg = hostId ∧ some (opcodeOfMessage msg) = eventOpcode p xdgSurface "configure" then
        readU32 (msg.drop headerLen) 0
      else none
  | _ => none

-- The serials the compositor of the current connection issued for one of its
-- xdg_surfaces.
def issuedSerials (p : Protocol) (history : List Traffic) (hostId : UInt32) : List UInt32 :=
  (connection history).filterMap (configureSerial p hostId)

def ackSerial (p : Protocol) (msg : Bytes) : Option UInt32 :=
  if some (opcodeOfMessage msg) = requestOpcode p xdgSurface "ack_configure" then readU32 (msg.drop headerLen) 0 else none

-- Every ack_configure on a host connection carries a serial which that very
-- connection issued for the xdg_surface it is addressed to.
def GenuineAck (p : Protocol) (past : List Traffic) : Traffic → Prop
  | .sent sent => sent.peer = .host → sent.interface = xdgSurface →
      ∀ serial ∈ ackSerial p sent.msg, serial ∈ issuedSerials p past (senderOf sent.msg)
  | _ => True

def AcksGenuine (p : Protocol) (history : List Traffic) : Prop := Lawful (GenuineAck p) [] history

-- The ack of an xdg_surface, if it is one, answers a configure of the
-- compositor it is going to.
def AnswersCurrent (p : Protocol) (s : Session) (hostId : UInt32) (msg : Bytes) : Prop :=
  ∀ serial ∈ ackSerial p msg, serial ∈ issuedSerials p s.trace hostId

def AcksCurrent (env : Env) (st : State) (event : Event) : Prop :=
  match event, st.control with
  | .turn _, .relaying .clientToHost => ∀ taken ∈ takeMessage st.session.gtk.readBuf, st.session.frozen = false →
      st.session.objects.interface (senderOf taken.1) = some xdgSurface →
        ∀ hostId ∈ st.session.objects.hostId (senderOf taken.1), AnswersCurrent env.protocol st.session hostId taken.1
  | .turn _, .awaitingAck h _ => ∀ taken ∈ takeMessage st.session.gtk.readBuf, senderOf taken.1 = h.xdgSurfaceGuestId →
      h.xdgSurface = xdgSurface → AnswersCurrent env.protocol st.session h.xdgSurfaceHostId taken.1
  | _, _ => True

section Connection

variable (p : Protocol)

theorem connection_append (history added : List Traffic) (goes : ∀ entry ∈ added, entry ≠ .reconnected) :
    connection (history ++ added) = connection history ++ added := by
  induction added using List.reverseRecOn with
  | nil => simp
  | append_singleton before entry ih =>
      rw [← List.append_assoc, connection_grows _ _ (goes entry (by simp)), ih fun e member => goes e (by simp [member]),
        List.append_assoc]

theorem issued_later {history : List Traffic} {hostId serial : UInt32} (issued : serial ∈ issuedSerials p history hostId)
    (added : List Traffic) (goes : ∀ entry ∈ added, entry ≠ .reconnected) : serial ∈ issuedSerials p (history ++ added) hostId := by
  rw [issuedSerials, connection_append _ _ goes, List.filterMap_append]
  exact List.mem_append_left _ issued

end Connection

theorem opcode_of_injective (table : List MessageDesc) (indexed : Indexed table) (a b : String) (opcode : UInt16)
    (first : opcodeOf table a = some opcode) (second : opcodeOf table b = some opcode) : a = b := by
  obtain ⟨desc, at_opcode, -, named⟩ := opcode_listed table a opcode indexed first
  obtain ⟨desc', at_opcode', -, named'⟩ := opcode_listed table b opcode indexed second
  rw [at_opcode] at at_opcode'
  rw [← named, ← named', Option.some.inj at_opcode']

section Steps

variable {env : Env} (covered : Covered env.protocol) {st next : State} {event : Event}

theorem ack_serial_opcode {p : Protocol} {msg : Bytes} {serial : UInt32} (acks : ackSerial p msg = some serial) :
    requestOpcode p xdgSurface "ack_configure" = some (opcodeOfMessage msg) ∧ readU32 (msg.drop headerLen) 0 = some serial := by
  unfold ackSerial at acks
  split at acks
  · rename_i is
    exact ⟨is.symm, acks⟩
  · cases acks

include covered

-- What recovery replays is no ack.
theorem recreates_no_ack (r : Replay) (guestId : UInt32) (on : r.registry = wlRegistry) (sent : Sent) (serial : UInt32)
    (recreates : Recreates env.protocol r.globals r.registry r.registryHostId guestId (.sent sent))
    (interface : sent.interface = xdgSurface) (acks : ackSerial env.protocol sent.msg = some serial) : False := by
  obtain ⟨opcode, -⟩ := ack_serial_opcode acks
  rcases recreates with ⟨-, -, request, listed, hostId, payload, known, found, bytes⟩ | ⟨-, -, same, -⟩
  · rw [bytes, opcode_of_built] at opcode
    rw [interface] at found
    have same := opcode_of_injective _ (covered.requests xdgSurface) _ _ _ found opcode
    rw [same] at listed
    revert listed
    decide
  · rw [interface, on] at same
    revert same
    decide

theorem forwards_ack (m : Inbound) (msg : Bytes) (s : Session) (sent : Sent) (serial : UInt32)
    (forwards : Forwards env s msg m sent) (interface : sent.interface = xdgSurface)
    (acks : ackSerial env.protocol sent.msg = some serial) :
    s.objects.interface (senderOf msg) = some xdgSurface ∧ s.objects.hostId (senderOf msg) = some (senderOf sent.msg) ∧
      ackSerial env.protocol msg = some serial := by
  obtain ⟨opcode, reads⟩ := ack_serial_opcode acks
  have resolved := forwards.resolved
  have kind : m.interface = xdgSurface := forwards.interface.symm.trans interface
  obtain ⟨desc, at_opcode, member, named⟩ := opcode_listed _ _ _ (covered.requests xdgSurface) opcode
  have listed := resolved_listed env s.objects .clientToHost msg m resolved
  rw [kind, ← forwards.opcode] at listed
  have same : desc = m.desc := Option.some.inj (at_opcode.symm.trans listed)
  obtain ⟨quiet, plain⟩ := covered.quietRequests xdgSurface "ack_configure" (by decide)
  have noNewId : ArgumentType.newId ∉ m.desc.signature := by
    rw [← same]
    exact quiet desc member named
  have noObject : ArgumentType.object ∉ m.desc.signature := by
    rw [← same]
    exact plain desc member named
  have payload : sent.msg.drop headerLen = msg.drop headerLen := by
    refine agree_plain m.walk _ _ (forwards.payload ?_) ?_ ?_
    · simp [Inbound.isRequest, kind, xdgSurface]
    · have count := walk_object_count _ _ _ resolved.walk
      rw [List.count_eq_zero.mpr noObject] at count
      exact List.length_eq_zero_iff.mp count
    · have located := walk_new_id _ _ _ resolved.walk
      simpa [noNewId] using located
  refine ⟨?_, forwards.sender noNewId, ?_⟩
  · rw [← resolved_request env s.objects _ msg m resolved rfl, ← kind]
    exact resolved_interface env s.objects _ msg m resolved
  · rw [ackSerial, ← forwards.opcode, if_pos opcode.symm, ← payload]
    exact reads

theorem host_write_genuine (on : st.control.OnRegistry) (current : AcksCurrent env st event) (sent : Sent)
    (write : HostWrite env st event sent) (interface : sent.interface = xdgSurface) (serial : UInt32)
    (acks : ackSerial env.protocol sent.msg = some serial) :
    serial ∈ issuedSerials env.protocol st.session.trace (senderOf sent.msg) ∧ st.control ≠ .selecting := by
  cases write with
  | own listed =>
      have other : xdgSurface.name ∉ ownInterfaces := by decide
      rw [interface] at listed
      exact absurd listed other
  | recreated r guestId replaying turns recreates =>
      rw [replaying] at on
      exact (recreates_no_ack covered r guestId on sent serial recreates interface acks).elim
  | forwarded msg consumed m relaying turns thawed taken forwards =>
      obtain ⟨kind, translated, client⟩ := forwards_ack covered m msg st.session sent serial forwards interface acks
      cases event with
      | turn ambient =>
          simp only [AcksCurrent, relaying] at current
          exact ⟨current _ taken thawed kind _ translated _ client, by simp [relaying]⟩
      | _ => exact turns.elim
  | acked h r msg consumed waiting turns taken sender asks same bytes =>
      cases event with
      | turn ambient =>
          simp only [AcksCurrent, waiting] at current
          have client : ackSerial env.protocol msg = some serial := by
            rw [ackSerial, bytes, opcode_of_built, build_message_payload] at acks
            exact acks
          have addressed : senderOf sent.msg = h.xdgSurfaceHostId := by
            rw [bytes]
            exact build_message_sender _ _ _
          rw [addressed]
          exact ⟨current _ taken sender (same.symm.trans interface) _ client, by simp [waiting]⟩
      | _ => exact turns.elim

-- The step lemma: a step that takes no stale ack writes none.
theorem transition_genuine (transition : Transition env st event next) (on : st.control.OnRegistry)
    (current : AcksCurrent env st event) (genuine : AcksGenuine env.protocol st.session.trace) :
    AcksGenuine env.protocol next.session.trace := by
  obtain ⟨added, accounted, grown⟩ := transition_accounted covered transition
  rw [grown, AcksGenuine, lawful_append]
  refine ⟨genuine, ?_⟩
  rw [List.nil_append]
  refine lawful_of_each _ _ _ fun before entry after split => ?_
  have account : Accounted env st event entry := accounted _ (by simp [split])
  cases entry with
  | sent sent =>
      intro toHost interface serial acks
      obtain ⟨issued, moving⟩ := host_write_genuine covered on current sent (account toHost) interface serial acks
      refine issued_later env.protocol issued before fun entry member reconnects => moving ?_
      have entered := accounted entry (by simp [split, member])
      rwa [reconnects] at entered
  | _ => trivial

end Steps

theorem acks_genuine (env : Env) (covered : Covered env.protocol) (gtkOutcomes hostOutcomes : List WriteOutcome)
    (cache : ClipboardCache) (events : List Event) (st : State)
    (run : Runs (step env) (AcksCurrent env) (start gtkOutcomes hostOutcomes cache) events st) :
    AcksGenuine env.protocol st.session.trace := by
  have initial : AcksGenuine env.protocol [] := trivial
  have both : st.control.OnRegistry ∧ AcksGenuine env.protocol st.session.trace :=
    run.invariant (fun st => st.control.OnRegistry ∧ AcksGenuine env.protocol st.session.trace) ⟨trivial, initial⟩
      fun st event next holds current taken =>
        have transition := step_transition env st event next taken
        ⟨transition_on_registry transition holds.1, transition_genuine covered transition holds.1 current holds.2⟩
  exact both.2

section Checking

variable (p : Protocol) (past : List Traffic)

def receivedSerial (guestId : UInt32) : Traffic → Option UInt32
  | .sent sent =>
      if sent.peer = .gtk ∧ sent.interface = xdgSurface ∧ senderOf sent.msg = guestId ∧
          some (opcodeOfMessage sent.msg) = eventOpcode p xdgSurface "configure" then
        readU32 (sent.msg.drop headerLen) 0
      else none
  | _ => none

-- A client acks only the serials that its xdg_surface was given.
def ReceivedAck : Traffic → Prop
  | .took .gtk msg | .skimmed .gtk msg => (client p past).Holds (senderOf msg) xdgSurface →
      ∀ serial ∈ ackSerial p msg, serial ∈ past.filterMap (receivedSerial p (senderOf msg))
  | _ => True

def AcksReceived (history : List Traffic) : Prop := Lawful (ReceivedAck p) [] history

instance (entry : Traffic) : Decidable (GenuineAck p past entry) :=
  match entry with
  | .sent sent => inferInstanceAs (Decidable (sent.peer = .host → sent.interface = xdgSurface →
      ∀ serial ∈ ackSerial p sent.msg, serial ∈ issuedSerials p past (senderOf sent.msg)))
  | .took _ _ | .skimmed _ _ | .waited _ _ | .served _ _ _ | .lost | .reconnected | .resumed => .isTrue trivial

instance (entry : Traffic) : Decidable (ReceivedAck p past entry) :=
  match entry with
  | .took .gtk msg | .skimmed .gtk msg => inferInstanceAs (Decidable ((client p past).Holds (senderOf msg) xdgSurface →
      ∀ serial ∈ ackSerial p msg, serial ∈ past.filterMap (receivedSerial p (senderOf msg))))
  | .took .host _ | .skimmed .host _ | .sent _ | .waited _ _ | .served _ _ _ | .lost | .reconnected | .resumed => .isTrue trivial

instance : DecidablePred (AcksGenuine p) := fun history => inferInstanceAs (Decidable (Lawful (GenuineAck p) [] history))

instance : DecidablePred (AcksReceived p) := fun history => inferInstanceAs (Decidable (Lawful (ReceivedAck p) [] history))

end Checking

instance (p : Protocol) (s : Session) (hostId : UInt32) (msg : Bytes) : Decidable (AnswersCurrent p s hostId msg) :=
  inferInstanceAs (Decidable (∀ serial ∈ ackSerial p msg, serial ∈ issuedSerials p s.trace hostId))

def acksCurrent (st : State) (event : Event) : Bool :=
  match event, st.control with
  | .turn _, .relaying .clientToHost => decide (∀ taken ∈ takeMessage st.session.gtk.readBuf, st.session.frozen = false →
      st.session.objects.interface (senderOf taken.1) = some xdgSurface →
        ∀ hostId ∈ st.session.objects.hostId (senderOf taken.1), AnswersCurrent coreProtocol st.session hostId taken.1)
  | .turn _, .awaitingAck h _ => decide (∀ taken ∈ takeMessage st.session.gtk.readBuf, senderOf taken.1 = h.xdgSurfaceGuestId →
      h.xdgSurface = xdgSurface → AnswersCurrent coreProtocol st.session h.xdgSurfaceHostId taken.1)
  | _, _ => true

theorem acks_current_sound (st : State) (event : Event) (checked : acksCurrent st event = true) : AcksCurrent coreEnv st event := by
  unfold acksCurrent at checked
  unfold AcksCurrent
  split at checked
  · simpa [coreEnv] using checked
  · simpa [coreEnv] using checked
  · trivial

def configureWindow (hostId serial : UInt32) : Bytes := buildMessage hostId 0 (putU32 [] serial)

def ackWindow (serial : UInt32) : Bytes := buildMessage 8 4 (putU32 [] serial)

-- The client's xdg_surface 8 hears serial 5 from one compositor and, once it
-- stands for 9, serial 7 from the next; then it acks.
def windowReconfigured (serial : UInt32) : List Event :=
  .gtkReadable (.data openWindow []) :: turns 9 ++ [.hostReadable (.data (configureWindow 8 5) [])] ++ turns 2 ++
    [.hostReadable .error, reconnectCore, .hostReadable (.data (globalEvent 1 "wl_compositor" ++ globalEvent 2 "xdg_wm_base" ++
      globalEvent 3 "wl_seat" ++ registryDone) [])] ++ turns 11 ++
    [.hostReadable (.data (configureWindow 9 7) [])] ++ turns 1 ++ [.gtkReadable (.data (ackWindow serial) [])] ++ turns 2

theorem acks_genuine_window : ∃ st, Runs (step coreEnv) (AcksCurrent coreEnv) coreStart (windowReconfigured 7) st ∧
    AcksGenuine coreProtocol st.session.trace ∧ st.control = .selecting := by
  have fold : (coreRun acksCurrent (windowReconfigured 7)).map (fun st => st.control.isSelecting) = some true := by
    decide +kernel
  obtain ⟨st, reached, selecting⟩ := Option.map_eq_some_iff.mp fold
  have run := Runs.of_checked acksCurrent acks_current_sound reached
  exact ⟨st, run, acks_genuine coreEnv core_covered [] [] ClipboardCache.new _ st run, Control.eq_selecting selecting⟩

-- The old serial crosses over: the wait takes the first ack it sees.
theorem stale_ack_crosses : ∃ st, Runs (step coreEnv) (fun _ _ => True) coreStart (windowReconfigured 5) st ∧
    AcksReceived coreProtocol st.session.trace ∧ ¬ AcksGenuine coreProtocol st.session.trace := by
  have fold : (coreRun unchecked (windowReconfigured 5)).map (fun st =>
      (decide (AcksReceived coreProtocol st.session.trace), decide (AcksGenuine coreProtocol st.session.trace))) =
        some (true, false) := by
    decide +kernel
  obtain ⟨st, reached, facts⟩ := Option.map_eq_some_iff.mp fold
  simp only [Prod.mk.injEq, decide_eq_true_eq, decide_eq_false_iff_not] at facts
  exact ⟨st, unchecked_run reached, facts.1, facts.2⟩

end WlResprox
