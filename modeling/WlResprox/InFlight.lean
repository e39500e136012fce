import WlResprox.Listings

set_option autoImplicit false

namespace WlResprox

def wlSurface : Interface := ⟨"wl_surface"⟩

-- What the client's requests and the releases it heard come to: the buffer a
-- surface attached last, with its birth, and the buffers that some surface
-- committed and no release has come for. A new surface has nothing attached.
structure Usage where
  client : Client
  attached : UInt32 → Option (UInt32 × Nat)
  committed : UInt32 → Option Nat

namespace Usage

def start : Usage := ⟨Client.start, fun _ => none, fun _ => none⟩

def alive (u : Usage) (buffer : UInt32) (born : Nat) : Bool :=
  (u.client.objects buffer).any fun o => o.born = born ∧ o.destroyed = false ∧ o.deleted = false

def attach (u : Usage) (surface buffer : UInt32) : Usage :=
  { u with attached := Function.update u.attached surface ((u.client.objects buffer).map fun o => (buffer, o.born)) }

def commit (u : Usage) (surface : UInt32) : Usage :=
  match u.attached surface with
  | none => u
  | some (buffer, born) =>
      if u.alive buffer born then { u with committed := Function.update u.committed buffer (some born) } else u

def create (u : Usage) (call : Call) : Usage :=
  match call.newId with
  | none => u
  | some id => { u with attached := Function.update u.attached id none }

def request (p : Protocol) (u : Usage) (msg : Bytes) : Usage :=
  match u.client.objects (senderOf msg), u.client.call p msg with
  | some o, some call =>
      if o.interface = wlSurface ∧ call.desc.name = "attach" then u.attach (senderOf msg) (call.objects.headD 0)
      else if o.interface = wlSurface ∧ call.desc.name = "commit" ∧ o.destroyed = false then u.commit (senderOf msg)
      else u.create call
  | _, _ => u

end Usage

def Traffic.releases (p : Protocol) : Traffic → Option UInt32
  | .sent m =>
      if m.peer = .gtk ∧ m.interface.name = "wl_buffer" ∧
        (decode p .hostToClient m.interface m.msg).any (fun call => call.desc.name = "release") = true then some (senderOf m.msg)
      else none
  | _ => none

namespace Usage

def hear (p : Protocol) (u : Usage) (entry : Traffic) : Usage :=
  match entry with
  | .took .gtk msg | .skimmed .gtk msg => u.request p msg
  | _ =>
      match entry.releases p with
      | none => u
      | some buffer => { u with committed := Function.update u.committed buffer none }

def note (p : Protocol) (u : Usage) (entry : Traffic) : Usage := { u.hear p entry with client := u.client.note p entry }

end Usage

def usage (p : Protocol) (history : List Traffic) : Usage := history.foldl (Usage.note p) Usage.start

-- A wl_buffer the client still has that a surface committed after its last
-- release.
def InUse (p : Protocol) (history : List Traffic) (buffer : UInt32) : Prop :=
  ∃ o, (client p history).objects buffer = some o ∧ o.interface.name = "wl_buffer" ∧ o.destroyed = false ∧ o.deleted = false ∧
    (usage p history).committed buffer = some o.born

-- What a recovery would release, the client has in use.
def InFlightExact (p : Protocol) (s : Session) : Prop :=
  ∀ order, ∀ buffer ∈ (s.bufferFlow.drainInFlight order).1, InUse p s.trace buffer

-- The attach the tracker has for a surface is the surface's own last one, and
-- its buffer is there.
def AttachStands (p : Protocol) (history : List Traffic) (surface buffer : UInt32) : Prop :=
  (∃ o, (client p history).objects surface = some o ∧ o.destroyed = false) ∧
    ∃ o, (client p history).objects buffer = some o ∧ o.interface.name = "wl_buffer" ∧ o.destroyed = false ∧ o.deleted = false ∧
      (usage p history).attached surface = some (buffer, o.born)

def CommitsOwn (p : Protocol) (s : Session) (msg : Bytes) : Prop :=
  s.objects.interface (senderOf msg) = some wlSurface →
    (decode p .clientToHost wlSurface msg).any (fun call => call.desc.name = "commit") = true →
      ∀ buffer ∈ s.bufferFlow.pendingAttach.lookup (senderOf msg), buffer ≠ 0 → AttachStands p s.trace (senderOf msg) buffer

-- No buffer in flight goes away, and a commit that finds an attach pending
-- finds its own.
def BuffersKept (env : Env) (st : State) (event : Event) : Prop :=
  match event, st.control with
  | .turn _, .relaying .clientToHost => ∀ taken ∈ takeMessage st.session.gtk.readBuf,
      (∀ buffer ∈ st.session.bufferFlow.inFlight.keys,
        Traffic.destroys env.protocol (client env.protocol st.session.trace) (.took .gtk taken.1) ≠ some buffer) ∧
      CommitsOwn env.protocol st.session taken.1
  | .turn _, .awaitingAck _ _ => ∀ taken ∈ takeMessage st.session.gtk.readBuf, ∀ buffer ∈ st.session.bufferFlow.inFlight.keys,
      Traffic.destroys env.protocol (client env.protocol st.session.trace) (.skimmed .gtk taken.1) ≠ some buffer
  | .turn _, .relaying .hostToClient => ∀ taken ∈ takeMessage st.session.host.readBuf, ∀ buffer ∈ st.session.bufferFlow.inFlight.keys,
      ¬ HostDeletes env.protocol st.session.objects taken.1 buffer
  | _, _ => True

section Uses

variable {p : Protocol}

theorem usage_snoc (history : List Traffic) (entry : Traffic) : usage p (history ++ [entry]) = (usage p history).note p entry := by
  simp [usage]

theorem usage_client (history : List Traffic) : (usage p history).client = client p history := by
  induction history using List.reverseRecOn with
  | nil => rfl
  | append_singleton history entry ih => rw [usage_snoc, client_snoc, Usage.note, ih]

theorem note_committed (u : Usage) (entry : Traffic) : (u.note p entry).committed = (u.hear p entry).committed := rfl

theorem alive_born {u : Usage} {buffer : UInt32} {born : Nat} {o : ClientObject} (here : u.client.objects buffer = some o)
    (alive : u.alive buffer born = true) : born = o.born := by
  simp only [Usage.alive, here, Option.any_some, decide_eq_true_eq] at alive
  exact alive.1.symm

theorem request_committed (u : Usage) (msg : Bytes) {buffer : UInt32} {o : ClientObject} (here : u.client.objects buffer = some o)
    (used : u.committed buffer = some o.born) : (u.request p msg).committed buffer = some o.born := by
  unfold Usage.request
  split
  · split
    · exact used
    · split
      · unfold Usage.commit
        split
        · exact used
        · rename_i other born _
          split
          · rename_i alive
            by_cases same : buffer = other
            · subst same
              rw [alive_born here alive]
              exact Function.update_self _ _ _
            · exact (Function.update_of_ne same _ _).trans used
          · exact used
      · unfold Usage.create
        split <;> exact used
  · exact used

theorem in_use_along {past : List Traffic} {buffer : UInt32} (uses : InUse p past buffer) (entry : Traffic)
    (lawful : UnusedId p past entry) (spared : entry.deletes p ≠ some buffer)
    (kept : entry.destroys p (client p past) ≠ some buffer) (unreleased : entry.releases p ≠ some buffer) :
    InUse p (past ++ [entry]) buffer := by
  obtain ⟨o, here, kind, alive, present, used⟩ := uses
  refine ⟨o, client_kept here entry lawful spared kept, kind, alive, present, ?_⟩
  rw [usage_snoc, note_committed]
  have here' : (usage p past).client.objects buffer = some o := by rw [usage_client]; exact here
  have other : (match entry.releases p with
      | none => usage p past
      | some released => { usage p past with committed := Function.update (usage p past).committed released none }).committed buffer =
        some o.born := by
    split
    · exact used
    · rename_i released found
      have apart : buffer ≠ released := fun same => unreleased (by rw [found, same])
      exact (Function.update_of_ne apart _ _).trans used
  cases entry with
  | took peer msg =>
      cases peer
      · exact request_committed _ msg here' used
      · exact used
  | skimmed peer msg =>
      cases peer
      · exact request_committed _ msg here' used
      · exact used
  | sent m => exact other
  | _ => exact used

-- A stretch that is about no buffer in use.
theorem in_use_onward {past : List Traffic} {buffer : UInt32} (uses : InUse p past buffer) (added : List Traffic)
    (unused : IdsUnused p (past ++ added)) (each : ∀ entry ∈ added, entry.deletes p ≠ some buffer ∧
      entry.releases p ≠ some buffer ∧ ∀ c, entry.destroys p c ≠ some buffer) : InUse p (past ++ added) buffer := by
  induction added using List.reverseRecOn with
  | nil =>
      rw [List.append_nil]
      exact uses
  | append_singleton added entry ih =>
      rw [← List.append_assoc] at unused ⊢
      obtain ⟨before, lawful⟩ := (ids_unused_append _ _).mp unused
      obtain ⟨spared, unreleased, kept⟩ := each entry (by simp)
      exact in_use_along (ih before fun e member => each e (List.mem_append_left _ member)) entry lawful.1 spared (kept _) unreleased

-- A commit of a surface whose own attach stands puts the buffer to use.
theorem committed_in_use {past : List Traffic} {msg : Bytes} {surface : ClientObject} {call : Call} {buffer : UInt32}
    (here : (client p past).objects (senderOf msg) = some surface) (kind : surface.interface = wlSurface)
    (called : (client p past).call p msg = some call) (commit : call.desc.name = "commit") (plain : call.desc.isDestructor = false)
    (quiet : call.newId = none) (stands : AttachStands p past (senderOf msg) buffer) :
    InUse p (past ++ [.took .gtk msg]) buffer := by
  obtain ⟨⟨o, there, alive⟩, b, found, isBuffer, kept, present, attached⟩ := stands
  rw [here] at there
  cases there
  have same : ((client p past).request p msg) = client p past := by
    unfold Client.request
    rw [called]
    simp [plain, Client.create, quiet]
  have living : (usage p past).alive buffer b.born = true := by simp [Usage.alive, usage_client, found, kept, present]
  refine ⟨b, ?_, isBuffer, kept, present, ?_⟩
  · rw [client_snoc]
    show ((client p past).request p msg).objects buffer = some b
    rw [same]
    exact found
  · rw [usage_snoc, note_committed]
    show ((usage p past).request p msg).committed buffer = some b.born
    unfold Usage.request
    rw [usage_client, here, called]
    simp only [kind, commit, alive, true_and, if_true, Usage.commit, attached, living]
    simp [Function.update_self]

-- Entries that are about no buffer of the client's.
def Traffic.Idle (p : Protocol) (buffer : UInt32) (entry : Traffic) : Prop :=
  entry.deletes p ≠ some buffer ∧ entry.releases p ≠ some buffer ∧ ∀ c, entry.destroys p c ≠ some buffer

theorem to_host_idle (buffer : UInt32) (entry : Traffic) (writes : Writes .host (fun _ => True) entry) : entry.Idle p buffer := by
  cases entry with
  | sent m => exact ⟨by simp [Traffic.deletes, writes.1], by simp [Traffic.releases, writes.1], fun _ => nofun⟩
  | _ => cases writes

theorem told_idle (covered : Covered p) {fine : Interface → String → UInt32 → Bytes → Prop} (buffer : UInt32) (entry : Traffic)
    (told : entry.Told p fine) (other : ∀ interface guestId payload, ¬ fine interface "release" guestId payload)
    (spares : entry.deletes p ≠ some buffer) : entry.Idle p buffer := by
  cases entry with
  | sent m =>
      obtain ⟨peer, origin, interface, bytes, fds, outcome⟩ := m
      obtain ⟨toClient, own, event, guestId, opcode, payload, listed, built, stands⟩ := told
      dsimp only at toClient own listed built stands
      subst toClient own built
      refine ⟨spares, fun releases => ?_, fun _ => nofun⟩
      simp only [Traffic.releases, true_and] at releases
      split at releases
      · rename_i both
        obtain ⟨call, decoded, named⟩ := (Option.any_eq_true _ _).mp both.2
        have reads := (told_reads covered interface event guestId opcode payload listed call decoded).1
        simp only [decide_eq_true_eq] at named
        rw [← reads, named] at stands
        exact other interface guestId payload stands
      · cases releases
  | _ => cases told

theorem quiet_idle (covered : Covered p) (buffer : UInt32) (entry : Traffic) (quiet : entry.Quiet p) : entry.Idle p buffer := by
  cases entry with
  | sent m =>
      obtain ⟨peer, origin, interface, bytes, fds, outcome⟩ := m
      cases peer with
      | host => exact to_host_idle buffer _ ⟨rfl, trivial⟩
      | gtk =>
          obtain ⟨guestId, opcode, payload, listed, built⟩ := quiet rfl
          dsimp only at listed built
          subst built
          refine ⟨fun deletes => ?_, fun releases => ?_, fun _ => nofun⟩
          · exact absurd (told_deletes covered _ _ _ _ _ _ _ _ _ _ listed deletes).1 (by decide)
          · simp only [Traffic.releases, true_and] at releases
            split at releases
            · rename_i both
              obtain ⟨call, decoded, named⟩ := (Option.any_eq_true _ _).mp both.2
              have reads := (told_reads covered interface "configure" guestId opcode payload listed call decoded).1
              simp [reads] at named
            · cases releases
  | took peer msg =>
      cases peer
      · cases quiet
      · exact ⟨nofun, nofun, fun _ => nofun⟩
  | skimmed peer msg =>
      cases peer
      · cases quiet
      · exact ⟨nofun, nofun, fun _ => nofun⟩
  | resumed => cases quiet
  | _ => exact ⟨nofun, nofun, fun _ => nofun⟩

end Uses

section Steps

variable {env : Env} (detailed : Detailed env.protocol)

-- The in-flight set after an observed message.
theorem observed_in_flight (flow : BufferFlowTracker) (m : Inbound) (buffer : UInt32)
    (member : buffer ∈ (observeBuffers flow m).inFlight.keys) :
    (buffer ∈ flow.inFlight.keys ∧ ¬(m.isEvent "wl_buffer" "release" = true ∧ m.sender = buffer)) ∨
      (m.isRequest "wl_surface" "commit" = true ∧ flow.pendingAttach.lookup m.sender = some buffer ∧ buffer ≠ 0) := by
  unfold observeBuffers at member
  split at member
  · rename_i attach
    refine .inl ⟨member, fun release => ?_⟩
    have request := ((is_request_iff _ _ _).mp attach).1
    rw [((is_event_iff _ _ _).mp release.1).1] at request
    cases request
  · split at member
    · rename_i commit
      have request := ((is_request_iff _ _ _).mp commit).1
      have kept : ¬(m.isEvent "wl_buffer" "release" = true ∧ m.sender = buffer) := fun release => by
        rw [((is_event_iff _ _ _).mp release.1).1] at request
        cases request
      unfold BufferFlowTracker.onCommit at member
      split at member
      · exact .inl ⟨member, kept⟩
      · rename_i pending found
        split at member
        · rename_i named
          rw [HashMap.mem_keys, HashMap.lookup_insert] at member
          split at member
          · rename_i same
            subst same
            exact .inr ⟨commit, found, named⟩
          · exact .inl ⟨(HashMap.mem_keys _ _).mpr member, kept⟩
        · exact .inl ⟨member, kept⟩
    · split at member
      · simp only [BufferFlowTracker.onRelease] at member
        rw [HashMap.mem_keys, HashMap.lookup_erase] at member
        split at member
        · simp at member
        · rename_i other
          exact .inl ⟨(HashMap.mem_keys _ _).mpr member, fun release => other release.2.symm⟩
      · rename_i other
        exact .inl ⟨member, fun release => other release.1⟩

theorem request_turn_flow (env : Env) (ambient : Ambient) (s next : Session) (msg : Bytes)
    (turn : RequestTurn env ambient s msg next) : next.bufferFlow = s.bufferFlow ∨
      ∃ m, Resolved env.protocol s.objects .clientToHost (headerOf msg) msg m ∧ next.bufferFlow = observeBuffers s.bufferFlow m := by
  rcases request_turn_trackers env ambient s next msg turn with same | ⟨m, created, translated, rewritten, noted, noting, flow, -⟩
  · exact .inl (by rw [same])
  · exact .inr ⟨m, noting.resolved, flow.trans noting.bufferFlow⟩

include detailed

-- What follows a request touches no buffer but a destroyed or a new one.
theorem after_request_idle (ambient : Ambient) (s : Session) (msg : Bytes) (past : List Traffic) (buffer : UInt32)
    (agrees : Agrees env.protocol s.objects s.graph past) (lawful : UnusedId env.protocol past (.took .gtk msg)) (o : ClientObject)
    (here : (client env.protocol past).objects buffer = some o)
    (kept : Traffic.destroys env.protocol (client env.protocol past) (.took .gtk msg) ≠ some buffer) (entry : Traffic)
    (after : AfterRequest env ambient s msg entry) : entry.Idle env.protocol buffer := by
  have spares : entry.deletes env.protocol ≠ some buffer := by
    intro gone
    rcases after_request_deletes env detailed ambient s msg past agrees entry after buffer gone with introduced | ⟨destroyed, -⟩
    · have free := (lawful buffer introduced).2
      rw [here] at free
      cases free
    · exact kept destroyed
  rcases after with writes | ⟨m, created, translated, rewritten, noted, noting, -, told⟩
  · exact to_host_idle buffer entry writes
  · exact told_idle detailed.toCovered buffer entry told (fun interface guestId payload answer => absurd (stale_answer_event answer) (by decide))
      spares

theorem request_in_flight (s handled : Session) (ambient : Ambient) (msg : Bytes) (consumed : Nat)
    (taken : takeMessage s.gtk.readBuf = some (msg, consumed))
    (turn : RequestTurn env ambient (s.log (.took .gtk msg)) msg handled) (tended : Tended env.protocol ⟨s, .relaying .clientToHost⟩)
    (kept : BuffersKept env ⟨s, .relaying .clientToHost⟩ (.turn ambient)) (unused : IdsUnused env.protocol handled.trace)
    (exact' : ∀ buffer ∈ s.bufferFlow.inFlight.keys, InUse env.protocol s.trace buffer) (buffer : UInt32)
    (member : buffer ∈ handled.bufferFlow.inFlight.keys) : InUse env.protocol handled.trace buffer := by
  obtain ⟨spares, commits⟩ := kept (msg, consumed) taken
  obtain ⟨added, after, grown⟩ := request_turn_adds env ambient (s.log (.took .gtk msg)) msg handled turn
  have trace : handled.trace = (s.trace ++ [.took .gtk msg]) ++ added := grown
  rw [trace] at unused ⊢
  have lawful : UnusedId env.protocol s.trace (.took .gtk msg) :=
    ((ids_unused_append _ _).mp (unused.earlier (List.prefix_append _ _))).2.1
  have onward : ∀ o, (client env.protocol s.trace).objects buffer = some o →
      Traffic.destroys env.protocol (client env.protocol s.trace) (.took .gtk msg) ≠ some buffer →
      InUse env.protocol (s.trace ++ [.took .gtk msg]) buffer → InUse env.protocol ((s.trace ++ [.took .gtk msg]) ++ added) buffer :=
    fun o here other uses => in_use_onward uses added unused fun entry among =>
      after_request_idle detailed ambient (s.log (.took .gtk msg)) msg s.trace buffer tended.agrees lawful o here other entry (after entry among)
  have before : buffer ∈ s.bufferFlow.inFlight.keys → InUse env.protocol ((s.trace ++ [.took .gtk msg]) ++ added) buffer := by
    intro inside
    have uses := exact' buffer inside
    obtain ⟨o, here, -⟩ := id uses
    exact onward o here (spares buffer inside)
      (in_use_along uses _ lawful nofun (spares buffer inside) nofun)
  rcases request_turn_flow env ambient (s.log (.took .gtk msg)) handled msg turn with same | ⟨m, resolved, observed⟩
  · rw [same] at member
    exact before member
  · rw [observed] at member
    rcases observed_in_flight _ m buffer member with ⟨inside, -⟩ | ⟨commit, pending, named⟩
    · exact before inside
    · obtain ⟨-, surface, asks⟩ := (is_request_iff _ _ _).mp commit
      have sender := resolved_request env s.objects _ msg m resolved rfl
      have kind : m.interface = wlSurface := interface_named _ _ surface
      have known : s.objects.interface (senderOf msg) = some wlSurface := by
        rw [← sender, ← kind]
        exact resolved_interface env s.objects _ msg m resolved
      have entry : m.desc = ⟨"commit", false, [], none⟩ := by
        have member : m.desc ∈ env.protocol.requests m.interface := resolved_member env s.objects .clientToHost msg m resolved
        rw [kind] at member
        exact find_entry _ (detailed.requests _) _ _ detailed.commit member asks
      have decoded : decode env.protocol .clientToHost wlSurface msg = some (callOf env.protocol m.desc m.walk msg) := by
        rw [← kind]
        exact resolved_decode env s.objects .clientToHost msg m resolved
      rw [sender] at pending
      have stands := commits known (by rw [decoded]; simp [callOf, asks]) buffer pending named
      obtain ⟨o, here, isSurface, -⟩ := sender_held env detailed s msg m resolved tended.agrees
      have called : (client env.protocol s.trace).call env.protocol msg = some (callOf env.protocol m.desc m.walk msg) := by
        rw [Client.call, here, Option.bind_some, isSurface, kind]
        exact decoded
      have plain : (callOf env.protocol m.desc m.walk msg).desc.isDestructor = false := by
        show m.desc.isDestructor = false
        rw [entry]
      have quiet : (callOf env.protocol m.desc m.walk msg).newId = none :=
        decode_quiet _ _ _ _ _ decoded (by show ArgumentType.newId ∉ m.desc.signature; rw [entry]; simp)
      have other : Traffic.destroys env.protocol (client env.protocol s.trace) (.took .gtk msg) ≠ some buffer := by
        simp [Traffic.destroys, called, plain]
      obtain ⟨b, found, -⟩ := stands.2
      exact onward b found other (committed_in_use here (by rw [isSurface, kind]) called asks plain quiet stands)

omit detailed in
theorem event_in_flight (s handled : Session) (ambient : Ambient) (msg : Bytes) (consumed : Nat)
    (taken : takeMessage s.host.readBuf = some (msg, consumed))
    (turn : EventTurn env ambient (s.log (.took .host msg)) msg handled)
    (kept : BuffersKept env ⟨s, .relaying .hostToClient⟩ (.turn ambient)) (unused : IdsUnused env.protocol handled.trace)
    (exact' : ∀ buffer ∈ s.bufferFlow.inFlight.keys, InUse env.protocol s.trace buffer) (buffer : UInt32)
    (member : buffer ∈ handled.bufferFlow.inFlight.keys) : InUse env.protocol handled.trace buffer := by
  have took : ∀ added, IdsUnused env.protocol (s.trace ++ .took .host msg :: added) → buffer ∈ s.bufferFlow.inFlight.keys →
      (∀ entry ∈ added, entry.Idle env.protocol buffer) → InUse env.protocol (s.trace ++ .took .host msg :: added) buffer := by
    intro added unused inside each
    refine in_use_onward (exact' buffer inside) _ unused fun entry among => ?_
    rcases List.mem_cons.mp among with rfl | later
    · exact ⟨by simp [Traffic.deletes], by simp [Traffic.releases], fun _ => by simp [Traffic.destroys]⟩
    · exact each entry later
  cases turn with
  | unheard table books grabs trace =>
      obtain ⟨added, served, grown⟩ := trace
      have is : handled.trace = s.trace ++ .took .host msg :: added := by rw [grown]; simp [Session.log]
      rw [books.bufferFlow] at member
      rw [is] at unused ⊢
      refine took added unused member fun entry among => ?_
      have fine := served entry among
      cases entry with
      | served => exact ⟨by simp [Traffic.deletes], by simp [Traffic.releases], fun _ => by simp [Traffic.destroys]⟩
      | _ => cases fine
  | heard m created deleted renamed noted noting outgoing names is =>
      obtain ⟨asked, sent, asks, trace, relays⟩ := heard_adds env ambient (s.log (.took .host msg)) msg handled m created deleted renamed noted
        noting outgoing is
      have flow : handled.bufferFlow = observeBuffers s.bufferFlow m := by
        rw [is, (forward_parts ambient noted m created (writeSenderId renamed m.sender)).2.2.1]
        exact noting.bufferFlow
      have whole : handled.trace = s.trace ++ .took .host msg :: (asked ++ [.sent sent]) := by rw [trace]; simp [Session.log]
      rw [flow] at member
      rcases observed_in_flight _ m buffer member with ⟨inside, unreleased⟩ | ⟨commit, -⟩
      · rw [whole] at unused ⊢
        refine took _ unused inside fun entry among => ?_
        rcases List.mem_append.mp among with own | last
        · have fine := asks entry own
          refine to_host_idle buffer entry ?_
          cases entry with
          | sent m => exact ⟨fine.1, trivial⟩
          | _ => cases fine
        · obtain rfl := List.mem_singleton.mp last
          refine ⟨fun deletes => ?_, fun releases => ?_, fun _ => by simp [Traffic.destroys]⟩
          · exact kept (msg, consumed) taken buffer inside (relays.deletes noted noting names buffer deletes).1
          · simp only [Traffic.releases] at releases
            split at releases
            · rename_i facts
              obtain ⟨call, decoded, named⟩ := (Option.any_eq_true _ _).mp facts.2.2
              obtain ⟨desc, sender⟩ := relays.reads noting.resolved call decoded
              refine unreleased ⟨(is_event_iff _ _ _).mpr ⟨noting.resolved.way, ?_, ?_⟩, ?_⟩
              · rw [← relays.interface]
                exact facts.2.1
              · rw [← desc]
                simpa using named
              · rw [← sender]
                exact Option.some.inj releases
            · cases releases
      · have request := ((is_request_iff _ _ _).mp commit).1
        rw [noting.resolved.way] at request
        cases request

theorem transition_in_flight {st next : State} {event : Event} (transition : Transition env st event next) (tidy : Tidy env st)
    (kept : BuffersKept env st event) (unused : IdsUnused env.protocol next.session.trace)
    (exact' : ∀ buffer ∈ st.session.bufferFlow.inFlight.keys, InUse env.protocol st.session.trace buffer) :
    ∀ buffer ∈ next.session.bufferFlow.inFlight.keys, InUse env.protocol next.session.trace buffer := by
  have stays : ∀ s s' : Session, Still env.protocol s s' → IdsUnused env.protocol s'.trace → ∀ buffer ∈ s'.bufferFlow.inFlight.keys,
      (buffer ∈ s.bufferFlow.inFlight.keys → InUse env.protocol s.trace buffer) → InUse env.protocol s'.trace buffer := by
    intro s s' still unused buffer member uses
    obtain ⟨added, quiet, grown⟩ := still.adds
    rw [still.books.bufferFlow] at member
    rw [grown] at unused ⊢
    exact in_use_onward (uses member) added unused fun entry among => quiet_idle detailed.toCovered buffer entry (quiet entry among)
  cases transition_course detailed transition tidy with
  | request s handled ambient msg consumed taken long turn =>
      exact request_in_flight detailed s handled ambient msg consumed taken turn tidy.tended kept unused exact'
  | event s handled ambient msg consumed taken long turn =>
      exact event_in_flight s handled ambient msg consumed taken turn kept unused exact'
  | discarded s h r ambient msg consumed taken _ still =>
      refine fun buffer member => stays _ _ still unused buffer member fun inside => ?_
      obtain ⟨added, -, grown⟩ := still.adds
      have earlier : IdsUnused env.protocol (s.trace ++ [.skimmed .gtk msg]) := by
        rw [grown] at unused
        exact unused.earlier (List.prefix_append _ _)
      exact in_use_along (exact' buffer inside) _ ((ids_unused_append _ _).mp earlier).2.1 nofun (kept (msg, consumed) taken buffer inside) nofun
  | settled s r ambient done =>
      intro buffer member
      have flow : (resume env.protocol ambient.order (settleRecovery env.protocol ambient.order r.globals s)).session.bufferFlow =
          (s.bufferFlow.drainInFlight ambient.order).2 :=
        (resume_books _ _ _).bufferFlow.trans (settle_recovery_books _ _ _ _).bufferFlow
      rw [flow] at member
      cases member
  | unregistered s begun ambient outcomes absent still table =>
      intro buffer member
      have told := synthesize_grab_releases_told (p := env.protocol) ambient.order begun
      obtain ⟨added, tells, grown⟩ := told.trace
      have trace : (resume env.protocol ambient.order begun).session.trace = begun.trace ++ (added ++ [.resumed]) := by
        rw [← List.append_assoc, ← grown]
        rfl
      have flow := (resume_books env.protocol ambient.order begun).bufferFlow
      rw [flow] at member
      rw [trace] at unused ⊢
      refine in_use_onward (stays _ _ still (unused.earlier (List.prefix_append _ _)) buffer member (exact' buffer)) _ unused
        fun entry among => ?_
      rcases List.mem_append.mp among with released | last
      · exact told_idle detailed.toCovered buffer entry (tells entry released)
          (fun _ _ _ release => absurd (grab_release_event release) (by decide)) fun gone => by
            obtain ⟨_, _, _, release, -⟩ := (tells entry released).deletes detailed.toCovered gone
            exact absurd (grab_release_event release) (by decide)
      · obtain rfl := List.mem_singleton.mp last
        exact ⟨nofun, nofun, fun _ => nofun⟩
  | still _ _ _ still => exact fun buffer member => stays _ _ still unused buffer member (exact' buffer)

end Steps

instance (p : Protocol) (objects : ShadowTable) (msg : Bytes) (g : UInt32) : Decidable (HostDeletes p objects msg g) :=
  decidable_of_iff (∃ sender ∈ objects.guestId (senderOf msg), ∃ display ∈ objects.interface sender,
      ∃ call ∈ decode p .hostToClient display msg, Ledger.frees display call = true ∧ objects.guestId (wordAt msg headerLen) = some g) (by
    constructor
    · rintro ⟨sender, found, display, known, call, decoded, facts⟩
      exact ⟨sender, display, call, found, known, decoded, facts⟩
    · rintro ⟨sender, display, call, found, known, decoded, facts⟩
      exact ⟨sender, found, display, known, call, decoded, facts⟩)

instance (p : Protocol) (history : List Traffic) (surface buffer : UInt32) : Decidable (AttachStands p history surface buffer) :=
  decidable_of_iff ((∃ o ∈ (client p history).objects surface, o.destroyed = false) ∧
    ∃ o ∈ (client p history).objects buffer, o.interface.name = "wl_buffer" ∧ o.destroyed = false ∧ o.deleted = false ∧
      (usage p history).attached surface = some (buffer, o.born)) Iff.rfl

instance (p : Protocol) (s : Session) (msg : Bytes) : Decidable (CommitsOwn p s msg) :=
  inferInstanceAs (Decidable (s.objects.interface (senderOf msg) = some wlSurface →
    (decode p .clientToHost wlSurface msg).any (fun call => call.desc.name = "commit") = true →
      ∀ buffer ∈ s.bufferFlow.pendingAttach.lookup (senderOf msg), buffer ≠ 0 → AttachStands p s.trace (senderOf msg) buffer))

instance (p : Protocol) (history : List Traffic) (buffer : UInt32) : Decidable (InUse p history buffer) :=
  decidable_of_iff (∃ o ∈ (client p history).objects buffer, o.interface.name = "wl_buffer" ∧ o.destroyed = false ∧ o.deleted = false ∧
    (usage p history).committed buffer = some o.born) Iff.rfl

def buffersKept (st : State) (event : Event) : Bool :=
  match event, st.control with
  | .turn _, .relaying .clientToHost => decide (∀ taken ∈ takeMessage st.session.gtk.readBuf,
      (∀ buffer ∈ st.session.bufferFlow.inFlight.keys,
        Traffic.destroys coreProtocol (client coreProtocol st.session.trace) (.took .gtk taken.1) ≠ some buffer) ∧
      CommitsOwn coreProtocol st.session taken.1)
  | .turn _, .awaitingAck _ _ => decide (∀ taken ∈ takeMessage st.session.gtk.readBuf, ∀ buffer ∈ st.session.bufferFlow.inFlight.keys,
      Traffic.destroys coreProtocol (client coreProtocol st.session.trace) (.skimmed .gtk taken.1) ≠ some buffer)
  | .turn _, .relaying .hostToClient => decide (∀ taken ∈ takeMessage st.session.host.readBuf,
      ∀ buffer ∈ st.session.bufferFlow.inFlight.keys, ¬ HostDeletes coreProtocol st.session.objects taken.1 buffer)
  | _, _ => true

theorem buffers_kept_sound (st : State) (event : Event) (checked : (drained st event && buffersKept st event) = true) :
    Drained coreProtocol st event ∧ BuffersKept coreEnv st event := by
  obtain ⟨drains, keeps⟩ := Bool.and_eq_true_iff.mp checked
  refine ⟨drained_sound st event drains, ?_⟩
  unfold buffersKept at keeps
  unfold BuffersKept
  split at keeps
  · exact of_decide_eq_true keeps
  · exact of_decide_eq_true keeps
  · exact of_decide_eq_true keeps
  · trivial

-- A surface (7) shows a buffer (6) of a pool (5).
def bufferShown : Bytes :=
  requestRegistry 2 ++ bindGlobal 1 "wl_compositor" 3 ++ bindGlobal 2 "wl_shm" 4 ++ buildMessage 4 0 (putU32 (putU32 [] 5) 4096) ++
    buildMessage 5 0 (putU32 (putU32 (putU32 (putU32 (putU32 (putU32 [] 6) 0) 16) 16) 64) 1) ++ createSurface 7 ++
    buildMessage 7 1 (putU32 (putU32 (putU32 [] 6) 0) 0) ++ buildMessage 7 6 []

def showBuffer : List Event := .gtkReadable (.data bufferShown [.received 1]) :: turns 9

-- The compositor goes, and recovery is about to settle with the next one.
def shmRecovered : List Event :=
  [.hostReadable .error, reconnectCore, .hostReadable (.data (globalEvent 1 "wl_compositor" ++ globalEvent 2 "wl_shm" ++ registryDone) [])] ++
    turns 8

-- The compositor releases the buffer and the surface is destroyed. A new
-- surface under its id commits without a buffer.
def surfaceReused : List Event :=
  showBuffer ++ [.hostReadable (.data (buildMessage 6 0 []) [])] ++ turns 2 ++
    [.gtkReadable (.data (buildMessage 7 0 []) [])] ++ turns 2 ++ [.hostReadable (.data (buildMessage 1 1 (putU32 [] 7)) [])] ++ turns 2 ++
    [.gtkReadable (.data (createSurface 7 ++ buildMessage 7 6 []) [])] ++ turns 3

def Control.isSettling : Control → Bool
  | .replaying r => r.rest.isEmpty
  | _ => false

end WlResprox
