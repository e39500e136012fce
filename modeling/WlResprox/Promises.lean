import WlResprox.Backing

set_option autoImplicit false

namespace WlResprox

-- The callback that a frame of a surface or a sync asks for.
def Traffic.promises (p : Protocol) (c : Client) : Traffic → Option UInt32
  | .took .gtk msg | .skimmed .gtk msg =>
      (c.objects (senderOf msg)).bind fun o => (c.call p msg).bind fun call =>
        if o.deleted = false ∧ (o.interface = wlSurface ∧ call.desc.name = "frame" ∨ o.interface = wlDisplay ∧ call.desc.name = "sync") then
          call.newId
        else none
  | _ => none

-- The callback that the client hears is done or deleted.
def Traffic.answers (p : Protocol) (entry : Traffic) : Option UInt32 :=
  match entry with
  | .sent m =>
      if m.peer = .gtk ∧ m.interface = wlCallback ∧
        (decode p .hostToClient m.interface m.msg).any (fun call => call.desc.name = "done") = true then some (senderOf m.msg)
      else entry.deletes p
  | _ => none

-- The callbacks the client waits for: asked for, neither done nor deleted.
structure Promises where
  client : Client
  owed : UInt32 → Bool

namespace Promises

def start : Promises := ⟨Client.start, fun _ => false⟩

def note (p : Protocol) (h : Promises) (entry : Traffic) : Promises where
  client := h.client.note p entry
  owed := fun c => if entry.promises p h.client = some c then true else if entry.answers p = some c then false else h.owed c

end Promises

def promises (p : Protocol) (history : List Traffic) : Promises := history.foldl (Promises.note p) Promises.start

def owed (p : Protocol) (history : List Traffic) (callback : UInt32) : Bool := (promises p history).owed callback

-- The request that made a callback was written to this connection.
def AskedHere (p : Protocol) (s : Session) (callback : UInt32) : Prop :=
  s.frozen = false ∧ ∃ hostId ∈ s.objects.hostId callback, ∃ entry ∈ connection s.trace,
    match entry with | .sent m => m.peer = .host ∧ m.newId p = some hostId | _ => False

-- No recovery ends with a callback that is owed.
def Settles (p : Protocol) (past : List Traffic) (entry : Traffic) : Prop :=
  entry = .resumed → ∀ callback, owed p past callback = false

-- The claim on callbacks at a moment.
def NoneForgotten (p : Protocol) (s : Session) : Prop :=
  (∀ callback, owed p s.trace callback = true → AskedHere p s callback ∨ callback ∈ s.pendingFrames.awaitingDone.keys) ∧
    Lawful (Settles p) [] s.trace

-- A request for a callback finds its sender in the table, and a sync one can be
-- passed on.
def Heeds (p : Protocol) (s : Session) (msg : Bytes) : Prop :=
  (Traffic.promises p (client p s.trace) (.took .gtk msg)).isSome = true →
    s.objects.interface (senderOf msg) = some wlSurface ∨ s.objects.interface (senderOf msg) = some wlDisplay ∧
      ∃ hostId ∈ s.objects.hostId (senderOf msg), hostId ≠ s.objects.nextHostId

-- Requests for callbacks are heeded, none is asked for while recovery waits for
-- an ack, and no recovery that has no registry starts while one is awaited.
def CallbacksHeeded (env : Env) (st : State) (event : Event) : Prop :=
  match event, st.control with
  | .turn _, .relaying .clientToHost => ∀ taken ∈ takeMessage st.session.gtk.readBuf, Heeds env.protocol st.session taken.1
  | .turn _, .awaitingAck _ _ => ∀ taken ∈ takeMessage st.session.gtk.readBuf,
      Traffic.promises env.protocol (client env.protocol st.session.trace) (.skimmed .gtk taken.1) = none
  | .reconnect ambient _, .selecting =>
      st.session.objects.bumpGeneration.findGuestIdByInterfaceName ambient.order "wl_registry" = none →
        st.session.pendingFrames.awaitingDone.keys = []
  | _, _ => True

section Folding

variable {p : Protocol}

theorem promises_snoc (history : List Traffic) (entry : Traffic) :
    promises p (history ++ [entry]) = (promises p history).note p entry := by
  simp [promises]

theorem promises_client (history : List Traffic) : (promises p history).client = client p history := by
  induction history using List.reverseRecOn with
  | nil => rfl
  | append_singleton history entry ih => rw [promises_snoc, client_snoc, Promises.note, ih]

theorem owed_snoc (history : List Traffic) (entry : Traffic) (c : UInt32) : owed p (history ++ [entry]) c =
    if entry.promises p (client p history) = some c then true else if entry.answers p = some c then false else owed p history c := by
  rw [owed, promises_snoc, Promises.note, promises_client]
  rfl

-- A stretch in which the client asks for no callback.
abbrev Unasked (p : Protocol) : List Traffic → List Traffic → Prop := Lawful fun past entry => entry.promises p (client p past) = none

theorem unasked_of_each {past added : List Traffic} (each : ∀ entry ∈ added, ∀ d, entry.promises p d = none) : Unasked p past added :=
  lawful_of_each _ _ _ fun before entry after split => each entry (by rw [split]; simp) _

-- What is owed after such a stretch was owed all along.
theorem owed_back {past added : List Traffic} {c : UInt32} (unasked : Unasked p past added)
    (after : owed p (past ++ added) c = true) : owed p past c = true ∧ ∀ entry ∈ added, entry.answers p ≠ some c := by
  induction added using List.reverseRecOn with
  | nil =>
      rw [List.append_nil] at after
      exact ⟨after, nofun⟩
  | append_singleton added entry ih =>
      obtain ⟨early, last, -⟩ := (lawful_append _ _ _ _).mp unasked
      rw [← List.append_assoc, owed_snoc, last, if_neg nofun] at after
      split at after
      · cases after
      · rename_i unanswered
        obtain ⟨before, none⟩ := ih early after
        refine ⟨before, fun e member => ?_⟩
        rcases List.mem_append.mp member with early | last
        · exact none e early
        · rw [List.mem_singleton.mp last]
          exact unanswered

theorem answers_deletes {entry : Traffic} {c : UInt32} (gone : entry.deletes p = some c) : entry.answers p = some c := by
  cases entry with
  | sent m =>
      have deletes := gone
      simp only [Traffic.deletes] at gone
      split at gone
      · rename_i both
        have display : m.interface ≠ wlCallback := by
          intro same
          have frees := both.2
          simp only [Sent.frees] at frees
          split at frees
          · cases frees
          · rw [same] at frees
            simp [Ledger.frees, wlCallback] at frees
        rw [Traffic.answers, if_neg fun done => display done.2.1]
        exact deletes
      · cases gone
  | _ => cases gone

theorem no_promise_of_sent (m : Sent) (d : Client) : Traffic.promises p d (.sent m) = none := rfl

end Folding

section Lasting

variable {p : Protocol} (detailed : Detailed p) {past added : List Traffic} {c : UInt32}

include detailed

-- A callback destroys nothing of its own accord.
theorem callback_destroys {o : ClientObject} (here : (client p past).objects c = some o) (kind : o.interface = wlCallback) (entry : Traffic) :
    entry.destroys p (client p past) ≠ some c := by
  have asked : ∀ msg, ((client p past).call p msg).bind (fun call => if call.desc.isDestructor then some (senderOf msg) else none) ≠ some c := by
    intro msg destroys
    obtain ⟨call, called, destroys⟩ := Option.bind_eq_some_iff.mp destroys
    split at destroys
    · cases destroys
      obtain ⟨o', there, decoded⟩ := Option.bind_eq_some_iff.mp called
      rw [here] at there
      cases there
      obtain ⟨walk, listed, -, -⟩ := decode_inv _ _ _ _ _ decoded
      have none : p.messages .clientToHost o.interface = [] := by
        rw [kind]
        exact detailed.callbackRequests
      rw [none] at listed
      cases listed
    · cases destroys
  cases entry with
  | took peer msg | skimmed peer msg =>
      cases peer
      · exact asked msg
      · nofun
  | _ => nofun

-- A callback that is not answered stays.
theorem callback_steady (holds : (client p past).Holds c wlCallback) (unused : Lawful (UnusedId p) past added)
    (unanswered : ∀ entry ∈ added, entry.answers p ≠ some c) : Steady p c past added := by
  obtain ⟨o, here, kind, present⟩ := holds
  have lasting := lasting_unused added here present unused fun entry among gone => unanswered entry among (answers_deletes gone)
  refine lasting.steady (lawful_of_each _ _ _ fun before entry after split => ?_)
  rw [split] at lasting
  obtain ⟨destroyed, there⟩ := lasting_kept before ((lawful_append _ _ _ _).mp lasting).1 here present
  exact callback_destroys detailed there kind entry

end Lasting

-- Whatever is owed is awaited, and listed as the callback it is.
structure Minded (p : Protocol) (s : Session) (c : UInt32) : Prop where
  awaited : c ∈ s.pendingFrames.awaitingDone.keys
  listed : s.objects.interface c = some wlCallback
  held : (client p s.trace).Holds c wlCallback

section Steps

variable {env : Env} (detailed : Detailed env.protocol) {st next : State} {event : Event}

include detailed

-- A stretch without new promises, in which the tracker forgets none that are
-- not answered.
theorem minded_along (course : Course env st event next) (tidy : Tidy env st) (tidy' : Tidy env next)
    (unused : IdsUnused env.protocol next.session.trace) (added : List Traffic)
    (grown : next.session.trace = st.session.trace ++ added) (unasked : Unasked env.protocol st.session.trace added)
    (keeps : ∀ c, (∀ entry ∈ added, entry.answers env.protocol ≠ some c) → c ∈ st.session.pendingFrames.awaitingDone.keys →
      c ∈ next.session.pendingFrames.awaitingDone.keys)
    (minded : ∀ c, owed env.protocol st.session.trace c = true → Minded env.protocol st.session c) (c : UInt32)
    (still : owed env.protocol next.session.trace c = true) : Minded env.protocol next.session c := by
  rw [grown] at still
  obtain ⟨before, unanswered⟩ := owed_back unasked still
  obtain ⟨awaited, listed, held⟩ := minded c before
  rw [grown] at unused
  have steady := callback_steady detailed held ((ids_unused_append _ _).mp unused).2 unanswered
  obtain ⟨listed', held'⟩ := listed_along detailed course tidy tidy' added grown c steady wlCallback held listed
  exact ⟨keeps c unanswered awaited, listed', held'⟩

end Steps

section Asking

variable {env : Env} (detailed : Detailed env.protocol) {s : Session} {msg : Bytes} {past : List Traffic} {c : UInt32}

-- What the client reads of a request, the relay resolves when it lists the
-- sender so.
theorem decode_resolved {objects : ShadowTable} {interface : Interface} (known : objects.interface (senderOf msg) = some interface)
    {call : Call} (decoded : decode env.protocol .clientToHost interface msg = some call) :
    ∃ m, Resolved env.protocol objects .clientToHost (headerOf msg) msg m := by
  obtain ⟨walk, listed, walks, -⟩ := decode_inv _ _ _ _ _ decoded
  refine ⟨⟨.clientToHost, headerOf msg, senderOf msg, interface, call.desc, walk,
    walk.objectOffsets.map fun offset => wordAt msg (headerLen + offset)⟩, rfl, rfl, ?_, walks, rfl⟩
  have known' : objects.interface (headerOf msg).senderId = some interface := known
  have listed' : (env.protocol.messages .clientToHost interface)[(headerOf msg).opcode.toNat]? = some call.desc := listed
  simp only [resolveSender, known', listed', Option.map_some]
  rfl

theorem promise_inv (promised : Traffic.promises env.protocol (client env.protocol past) (.took .gtk msg) = some c) :
    ∃ o call, (client env.protocol past).objects (senderOf msg) = some o ∧ (client env.protocol past).call env.protocol msg = some call ∧
      o.deleted = false ∧ (o.interface = wlSurface ∧ call.desc.name = "frame" ∨ o.interface = wlDisplay ∧ call.desc.name = "sync") ∧
      call.newId = some c := by
  obtain ⟨o, here, promised⟩ := Option.bind_eq_some_iff.mp promised
  obtain ⟨call, called, promised⟩ := Option.bind_eq_some_iff.mp promised
  split at promised
  · rename_i asks
    exact ⟨o, call, here, called, asks.1, asks.2, promised⟩
  · cases promised

theorem promise_introduces (promised : Traffic.promises env.protocol (client env.protocol past) (.took .gtk msg) = some c) :
    Traffic.introduces env.protocol (client env.protocol past) (.took .gtk msg) = some c := by
  obtain ⟨o, call, -, called, -, -, newId⟩ := promise_inv promised
  simp only [Traffic.introduces, called, Option.bind_some]
  exact newId

-- A request for a callback, as the relay has it.
structure AsksFor (p : Protocol) (m : Inbound) (msg : Bytes) (c : UInt32) : Prop where
  request : m.isRequest "wl_surface" "frame" = true ∧ m.interface = wlSurface ∨
    m.isRequest "wl_display" "sync" = true ∧ m.interface = wlDisplay
  signature : m.desc.signature = [.newId]
  plain : m.desc.isDestructor = false
  newId : (callOf p m.desc m.walk msg).newId = some c
  child : (callOf p m.desc m.walk msg).child = some wlCallback

include detailed in
theorem promised_asks (agrees : Agrees env.protocol s.objects s.graph past) (m : Inbound)
    (resolved : Resolved env.protocol s.objects .clientToHost (headerOf msg) msg m)
    (promised : Traffic.promises env.protocol (client env.protocol past) (.took .gtk msg) = some c) : AsksFor env.protocol m msg c := by
  obtain ⟨o, call, here, called, present, asks, newId⟩ := promise_inv promised
  have held := sender_held env detailed s msg m resolved agrees
  have kind : o.interface = m.interface := holds_interface ⟨o, here, rfl, present⟩ held
  rw [resolved_called env detailed s msg past agrees m resolved] at called
  cases called
  have member : m.desc ∈ env.protocol.requests m.interface := resolved_member env s.objects .clientToHost msg m resolved
  have child : m.desc.childInterface = some ⟨"wl_callback"⟩ → (callOf env.protocol m.desc m.walk msg).child = some wlCallback := by
    intro fixed
    simp [callOf, resolveChildInterface, fixed, wlCallback]
  rw [kind] at asks
  rcases asks with ⟨surface, frame⟩ | ⟨display, sync⟩
  · rw [surface] at member
    have desc := find_entry _ (detailed.requests _) ⟨"frame", false, [.newId], some ⟨"wl_callback"⟩⟩ m.desc detailed.frame member frame
    refine ⟨.inl ⟨(is_request_iff _ _ _).mpr ⟨resolved.way, by rw [surface]; rfl, frame⟩, surface⟩, by rw [desc], by rw [desc], newId, child ?_⟩
    rw [desc]
  · rw [display] at member
    have listed := detailed.sync
    have desc : m.desc = ⟨"sync", false, [.newId], some ⟨"wl_callback"⟩⟩ :=
      List.inj_on_of_nodup_map (detailed.requests wlDisplay).distinct member (List.mem_of_getElem? listed) sync
    refine ⟨.inr ⟨(is_request_iff _ _ _).mpr ⟨resolved.way, by rw [display]; rfl, sync⟩, display⟩, by rw [desc], by rw [desc], newId, child ?_⟩
    rw [desc]

-- Such a request has no object to translate.
theorem AsksFor.translates {m : Inbound} (asks : AsksFor env.protocol m msg c) {objects : ShadowTable}
    (resolved : Resolved env.protocol objects .clientToHost (headerOf msg) msg m) :
    translateObjects objects .clientToHost m.walk.objectOffsets msg = some msg := by
  have none : m.walk.objectOffsets = [] := by
    refine List.length_eq_zero_iff.mp ?_
    rw [walk_object_count _ _ _ resolved.walk, asks.signature]
    rfl
  rw [none]
  rfl

end Asking

section Answering

variable {p : Protocol} (detailed : Detailed p)

theorem OwnEvent.answers {callback : UInt32} {payload : Bytes} {sent : Sent} (told : OwnEvent p callback wlCallback "done" payload sent) :
    Traffic.answers p (.sent sent) = some callback := by
  obtain ⟨call, decoded, named⟩ := told.reads
  have done : sent.peer = .gtk ∧ sent.interface = wlCallback ∧
      (decode p .hostToClient sent.interface sent.msg).any (fun call => call.desc.name = "done") = true := by
    rw [told.known, decoded]
    exact ⟨told.toClient, rfl, by simp [named]⟩
  simp only [Traffic.answers, if_pos done, told.sender]

include detailed

-- A callback that is listed is answered.
theorem frame_done_reaches (s : Session) (callback : UInt32) (listed : s.objects.interface callback = some wlCallback) :
    Reaches (fun entry => entry.answers p = some callback) s (synthesizeFrameDone p s callback) := by
  simp only [synthesizeFrameDone, listed]
  obtain ⟨sent, trace, told⟩ := tell_client_writes detailed.toCovered callback wlCallback ⟨"done", false, [.uint], none⟩ (putU32 [] 0)
    detailed.callbackDone ⟨⟨none, [], 0, none⟩, rfl⟩ s
  have reaches : Reaches (fun entry => entry.answers p = some callback) s (tellClient p s callback wlCallback "done" (putU32 [] 0)) :=
    ⟨_, trace, _, List.mem_singleton_self _, told.answers⟩
  exact reaches.before (frame_grows (synthesize_delete_id_frame p _ callback))

end Answering

section Requests

variable {env : Env} (detailed : Detailed env.protocol) (s handled : Session) (ambient : Ambient) (msg : Bytes)

-- What follows a request is written.
theorem after_request_unasked (entry : Traffic) (after : AfterRequest env ambient (s.log (.took .gtk msg)) msg entry) (d : Client) :
    entry.promises env.protocol d = none := by
  cases entry with
  | took | skimmed =>
      rcases after with writes | ⟨m, created, translated, rewritten, noted, noting, failed, told⟩
      · cases writes
      · cases told
  | _ => rfl

theorem observed_request_awaits (frames : PendingFrameTracker) (m : Inbound) (created : Option Creation) (request : m.direction = .clientToHost)
    (c : UInt32) (awaited : c ∈ frames.awaitingDone.keys) : c ∈ (observeCallbacks frames m created).awaitingDone.keys := by
  have inserted : ∀ other, c ∈ (frames.awaitingDone.insert other ()).keys := by
    intro other
    rw [HashMap.mem_keys, HashMap.lookup_insert] at *
    split
    · rfl
    · exact awaited
  have quiet : m.isEvent "wl_callback" "done" = false := by simp [Inbound.isEvent, request]
  unfold observeCallbacks
  rw [quiet]
  split
  · split
    · exact awaited
    · exact inserted _
  · split
    · split
      · exact awaited
      · exact inserted _
    · exact awaited

theorem asked_awaits (frames : PendingFrameTracker) (m : Inbound) (c : Creation)
    (request : m.isRequest "wl_surface" "frame" = true ∨ m.isRequest "wl_display" "sync" = true) :
    c.guestId ∈ (observeCallbacks frames m (some c)).awaitingDone.keys := by
  have inserted : c.guestId ∈ (frames.awaitingDone.insert c.guestId ()).keys := by
    rw [HashMap.mem_keys, HashMap.lookup_insert, if_pos rfl]
    rfl
  unfold observeCallbacks
  split
  · exact inserted
  · rename_i other
    rw [if_pos (request.resolve_left other)]
    exact inserted

-- The new callback is the client's.
theorem promise_held {past : List Traffic} {m : Inbound} {c : UInt32} (asks : AsksFor env.protocol m msg c)
    (called : (client env.protocol past).call env.protocol msg = some (callOf env.protocol m.desc m.walk msg)) :
    (client env.protocol (past ++ [.took .gtk msg])).Holds c wlCallback := by
  rw [client_snoc]
  refine ⟨⟨wlCallback, (client env.protocol past).clock, false, false⟩, ?_, rfl, rfl⟩
  show ((client env.protocol past).request env.protocol msg).objects c = _
  have plain : (callOf env.protocol m.desc m.walk msg).desc.isDestructor = false := asks.plain
  simp only [Client.request, called, plain, Client.create, asks.newId, asks.child]
  exact Client.introduce_same _ _ _

-- The new callback in the table.
theorem promised_made {m : Inbound} {created : Option Creation} {translated rewritten : Bytes} {noted : Session} {c : UInt32}
    (noting : RequestNoted env ambient (s.log (.took .gtk msg)) msg m created translated rewritten noted)
    (asks : AsksFor env.protocol m msg c) :
    ∃ made, created = some made ∧ made.guestId = c ∧ noted.objects.interface c = some wlCallback ∧
      (m.sender ≠ c → ∀ hostId ∈ s.objects.hostId m.sender, hostId ≠ s.objects.nextHostId → noted.objects.hostId m.sender = some hostId) := by
  obtain ⟨graph, creates, -⟩ := noting.creates
  generalize table : noted.objects = objects at creates ⊢
  generalize noted.pendingDmabufPlanes = planes at creates
  cases creates with
  | nothing quiet =>
      rw [asks.newId] at quiet
      cases quiet
  | object made offset recipe planes located newId child next captured =>
      have same : made.guestId = c := Option.some.inj (newId.symm.trans asks.newId)
      have kind : made.interface = wlCallback := Option.some.inj (child.symm.trans asks.child)
      refine ⟨made, rfl, same, ?_, fun apart hostId found other => ?_⟩
      · rw [ShadowTable.interface_map, same, if_pos rfl, kind]
      · by_cases null : m.sender = 0
        · rw [null] at found ⊢
          rw [ShadowTable.host_id_null] at found ⊢
          exact found
        · rw [same, ShadowTable.host_id_map _ _ _ _ _ _ null]
          refine .inr ⟨apart, other, ?_⟩
          rw [ShadowTable.allocate_host_id_host_id]
          exact found

include detailed

-- A new callback that the turn does not answer is awaited and listed.
theorem promised_noted (turn : RequestTurn env ambient (s.log (.took .gtk msg)) msg handled) (heeds : Heeds env.protocol s msg)
    (agrees : Agrees env.protocol s.objects s.graph s.trace) (lawful : UnusedId env.protocol s.trace (.took .gtk msg)) (added : List Traffic)
    (grown : handled.trace = (s.trace ++ [.took .gtk msg]) ++ added) {c : UInt32}
    (promised : Traffic.promises env.protocol (client env.protocol s.trace) (.took .gtk msg) = some c)
    (unanswered : ∀ entry ∈ added, entry.answers env.protocol ≠ some c) :
    c ∈ handled.pendingFrames.awaitingDone.keys ∧ handled.objects.interface c = some wlCallback ∧
      (client env.protocol (s.trace ++ [.took .gtk msg])).Holds c wlCallback := by
  have known := heeds (by rw [promised]; rfl)
  have asks : ∀ m, Resolved env.protocol s.objects .clientToHost (headerOf msg) msg m → AsksFor env.protocol m msg c :=
    fun m resolved => promised_asks detailed agrees m resolved promised
  obtain ⟨o, call, here, called, present, -, -⟩ := promise_inv promised
  cases turn with
  | dropped table rest unseen =>
      obtain ⟨interface, listed, plain⟩ : ∃ i, s.objects.interface (senderOf msg) = some i ∧ i ≠ wlCallback := by
        rcases known with surface | ⟨display, -⟩
        · exact ⟨_, surface, by decide⟩
        · exact ⟨_, display, by decide⟩
      have kind : o.interface = interface := by
        rcases agrees.table _ _ listed with holds | spent
        · exact holds_interface ⟨o, here, rfl, present⟩ holds
        · exact absurd spent.1 plain
      rw [Client.call, here, Option.bind_some, kind] at called
      obtain ⟨m, resolved⟩ := decode_resolved listed called
      have asked := asks m resolved
      rcases unseen m resolved with failed | ⟨-, childless⟩
      · cases (asked.translates resolved).symm.trans failed
      · rw [asked.child] at childless
        cases childless
  | stale m created translated rewritten noted noting failed is =>
      have asked := asks m noting.resolved
      have sender := resolved_request env s.objects _ msg m noting.resolved rfl
      obtain ⟨made, rfl, same, listed, kept⟩ := promised_made s ambient msg noting asked
      rcases asked.request with ⟨frame, -⟩ | ⟨-, display⟩
      · have reaches := frame_done_reaches detailed noted c listed
        have answers : answerStaleSender env.protocol noted m (some made) = synthesizeFrameDone env.protocol noted c := by
          rw [answerStaleSender, asked.plain, ← same]
          simp [frame]
        obtain ⟨told, trace, entry, among, answered⟩ := reaches
        have whole : handled.trace = noted.trace ++ told := by
          rw [is, dropStaleSender, roll_back_creation_trace, answers]
          exact trace
        rw [noting.trace] at whole
        have split : told = added := List.append_cancel_left (whole.symm.trans grown)
        rw [split] at among
        exact absurd answered (unanswered entry among)
      · have apart : m.sender ≠ c := by
          intro same
          have free := (lawful c (promise_introduces promised)).2
          rw [← same, sender, here] at free
          cases free
        rcases known with surface | ⟨-, hostId, found, other⟩
        · have listed := resolved_interface env s.objects _ msg m noting.resolved
          rw [sender, show s.objects.interface (senderOf msg) = some wlSurface from surface, display] at listed
          exact absurd listed (by decide)
        · rw [← sender] at found
          rw [kept apart hostId found other] at failed
          cases failed
  | passed m created translated rewritten out noted otherSide noting found outgoing is =>
      have asked := asks m noting.resolved
      obtain ⟨made, rfl, same, listed, -⟩ := promised_made s ambient msg noting asked
      obtain ⟨objects, -, -, frames, -⟩ := forward_parts ambient noted m (some made) (writeSenderId out otherSide)
      refine ⟨?_, ?_, promise_held msg asked (resolved_called env detailed s msg s.trace agrees m noting.resolved)⟩
      · rw [is, frames, noting.pendingFrames, ← same]
        exact asked_awaits _ m made (asked.request.imp And.left And.left)
      · rw [is, objects]
        exact listed

theorem request_turn_minded (turn : RequestTurn env ambient (s.log (.took .gtk msg)) msg handled) (heeds : Heeds env.protocol s msg)
    (agrees : Agrees env.protocol s.objects s.graph s.trace) (unused : IdsUnused env.protocol handled.trace)
    (along : ∀ added, handled.trace = s.trace ++ added → ∀ c, Steady env.protocol c s.trace added →
      (client env.protocol s.trace).Holds c wlCallback → s.objects.interface c = some wlCallback →
        handled.objects.interface c = some wlCallback ∧ (client env.protocol handled.trace).Holds c wlCallback)
    (minded : ∀ c, owed env.protocol s.trace c = true → Minded env.protocol s c) (c : UInt32)
    (still : owed env.protocol handled.trace c = true) : Minded env.protocol handled c := by
  obtain ⟨added, after, grown⟩ := request_turn_adds env ambient (s.log (.took .gtk msg)) msg handled turn
  have whole : handled.trace = (s.trace ++ [.took .gtk msg]) ++ added := grown
  rw [whole] at still unused
  obtain ⟨owes, unanswered⟩ := owed_back (unasked_of_each fun entry among => after_request_unasked s ambient msg entry (after entry among)) still
  obtain ⟨earlier, later⟩ := (ids_unused_append _ _).mp unused
  rw [owed_snoc] at owes
  split at owes
  · rename_i promised
    obtain ⟨awaited, listed, held⟩ := promised_noted detailed s handled ambient msg turn heeds agrees ((ids_unused_append _ _).mp earlier).2.1
      added whole promised unanswered
    refine ⟨awaited, listed, ?_⟩
    rw [whole]
    exact steady_holds added (callback_steady detailed held later unanswered) held
  · rw [if_neg nofun] at owes
    obtain ⟨awaited, listed, held⟩ := minded c owes
    have split : handled.trace = s.trace ++ .took .gtk msg :: added := by rw [whole]; simp
    rw [List.append_assoc] at unused
    have steady := callback_steady detailed held ((ids_unused_append _ _).mp unused).2 fun entry among => by
      rcases List.mem_cons.mp among with rfl | among
      · nofun
      · exact unanswered entry among
    obtain ⟨listed', held'⟩ := along _ split c steady held listed
    refine ⟨?_, listed', held'⟩
    rcases request_turn_trackers env ambient _ handled msg turn with same | ⟨m, created, translated, rewritten, noted, noting, -, frames, -⟩
    · rw [same]
      exact awaited
    · rw [frames, noting.pendingFrames]
      exact observed_request_awaits _ m created noting.resolved.way c awaited

end Requests

section Events

variable {env : Env} (s handled : Session) (ambient : Ambient) (msg : Bytes)

-- An event ends the wait for the callback it is done with, which the client
-- hears.
theorem event_turn_awaits (turn : EventTurn env ambient (s.log (.took .host msg)) msg handled) :
    ∃ added, handled.trace = s.trace ++ added ∧ (∀ entry ∈ added, ∀ d, entry.promises env.protocol d = none) ∧
      ∀ c, (∀ entry ∈ added, entry.answers env.protocol ≠ some c) → c ∈ s.pendingFrames.awaitingDone.keys →
        c ∈ handled.pendingFrames.awaitingDone.keys := by
  cases turn with
  | unheard table books grabs trace =>
      obtain ⟨added, served, grown⟩ := trace
      refine ⟨.took .host msg :: added, by rw [grown]; simp [Session.log], fun entry among d => ?_, fun c _ awaited => ?_⟩
      · rcases List.mem_cons.mp among with rfl | later
        · rfl
        · have fine := served entry later
          cases entry with
          | served => rfl
          | _ => cases fine
      · rw [books.pendingFrames]
        exact awaited
  | heard m created deleted renamed noted noting outgoing names is =>
      obtain ⟨asked, sent, asks, trace, relays⟩ := heard_adds env ambient (s.log (.took .host msg)) msg handled m created deleted renamed noted
        noting outgoing is
      have whole : handled.trace = s.trace ++ ((.took .host msg :: asked) ++ [.sent sent]) := by rw [trace]; simp [Session.log]
      refine ⟨_, whole, fun entry among d => ?_, fun c unanswered awaited => ?_⟩
      · rcases List.mem_append.mp among with early | last
        · rcases List.mem_cons.mp early with rfl | later
          · rfl
          · have fine := asks entry later
            cases entry with
            | sent m => rfl
            | _ => cases fine
        · rw [List.mem_singleton.mp last]
          rfl
      · rw [is, (forward_parts ambient noted m created (writeSenderId renamed m.sender)).2.2.2.1, noting.pendingFrames]
        have event := noting.resolved.way
        have noFrame : m.isRequest "wl_surface" "frame" = false := by simp [Inbound.isRequest, event]
        have noSync : m.isRequest "wl_display" "sync" = false := by simp [Inbound.isRequest, event]
        unfold observeCallbacks
        rw [noFrame, noSync]
        simp only [Bool.false_eq_true, if_false]
        split
        · rename_i done
          obtain ⟨-, callback, named⟩ := (is_event_iff _ _ _).mp done
          have other : c ≠ m.sender := by
            rintro rfl
            refine unanswered (.sent sent) (by simp) ?_
            have decoded := relays.decodes noted noting
            have answers : sent.peer = .gtk ∧ sent.interface = wlCallback ∧
                (decode env.protocol .hostToClient sent.interface sent.msg).any (fun call => call.desc.name = "done") = true := by
              refine ⟨relays.toClient, relays.interface.trans (interface_named _ _ callback), ?_⟩
              rw [decoded]
              simp [callOf, named]
            simp only [Traffic.answers, if_pos answers]
            rw [relays.bytes, sender_of_written _ _ relays.outgoing.long]
          rw [PendingFrameTracker.onDoneReceived, HashMap.mem_keys, HashMap.lookup_erase, if_neg other]
          exact (HashMap.mem_keys _ _).mp awaited
        · exact awaited

end Events

section Settling

variable {p : Protocol} (detailed : Detailed p)

include detailed

-- The end of a recovery answers what is awaited.
theorem settle_reaches (order : HashOrder) (globals : Globals) (s : Session) (c : UInt32) (awaited : c ∈ s.pendingFrames.awaitingDone.keys)
    (listed : s.objects.interface c = some wlCallback) :
    Reaches (fun entry => entry.answers p = some c) s (settleRecovery p order globals s) := by
  have released := frame_grows (drain_in_flight_told (p := p) order s)
  let emptied := { drainInFlight p order s with
    pendingFrames := ((drainInFlight p order s).pendingFrames.drainAwaitingDone order).2 }
  have member : c ∈ ((drainInFlight p order s).pendingFrames.drainAwaitingDone order).1 := by
    rw [drain_in_flight_frames]
    exact (HashOrder.mem_arrange _ _ _).mpr awaited
  have answered := fold_reaches id s.objects (synthesizeFrameDone p) _ c member emptied (drain_in_flight_objects order s)
    (fun t callback => synthesize_frame_done_objects p t callback) (fun t callback => frame_grows (synthesize_frame_done_frame p t callback))
    fun t table => frame_done_reaches detailed t c (by rw [← listed]; exact congrArg (fun objects => objects.interface c) table)
  exact Reaches.after released answered

end Settling

section Transitions

variable {env : Env} (detailed : Detailed env.protocol) {st next : State} {event : Event}

-- Nothing is owed when a recovery ends.
structure Faithful (p : Protocol) (s : Session) : Prop where
  minded : ∀ c, owed p s.trace c = true → Minded p s c
  lawful : Lawful (Settles p) [] s.trace

theorem settles_onward {p : Protocol} {past added : List Traffic} (lawful : Lawful (Settles p) [] past)
    (going : ∀ entry ∈ added, entry ≠ .resumed) : Lawful (Settles p) [] (past ++ added) :=
  (lawful_append _ _ _ _).mpr ⟨lawful, lawful_of_each _ _ _ fun before entry after split same =>
    absurd same (going entry (by rw [split]; simp))⟩

-- A recovery that ends after everything owed was answered.
theorem resumed_faithful {p : Protocol} (order : HashOrder) (t : Session) (past added : List Traffic) (grown : t.trace = past ++ added)
    (sent : ∀ entry ∈ added, entry ≠ .resumed ∧ ∀ d, entry.promises p d = none) (lawful : Lawful (Settles p) [] past)
    (answered : ∀ c, owed p past c = true → ∃ entry ∈ added, entry.answers p = some c) : Faithful p (resume p order t).session := by
  obtain ⟨released, tells, trace⟩ := (synthesize_grab_releases_told (p := p) order t).trace
  have whole : (resume p order t).session.trace = past ++ (added ++ released) ++ [.resumed] := by
    rw [← List.append_assoc, ← grown, ← trace]
    rfl
  have plain : ∀ entry ∈ added ++ released, entry ≠ .resumed ∧ ∀ d, entry.promises p d = none := by
    intro entry among
    rcases List.mem_append.mp among with early | late
    · exact sent entry early
    · have told := tells entry late
      cases entry with
      | sent => exact ⟨nofun, fun d => rfl⟩
      | _ => cases told
  have none : ∀ c, owed p (past ++ (added ++ released)) c = false := by
    intro c
    by_contra owes
    obtain ⟨before, unanswered⟩ := owed_back (unasked_of_each fun entry among => (plain entry among).2) (eq_true_of_ne_false owes)
    obtain ⟨entry, among, answers⟩ := answered c before
    exact unanswered entry (List.mem_append_left _ among) answers
  refine ⟨fun c owes => ?_, ?_⟩
  · rw [whole] at owes
    have before := (owed_back (unasked_of_each (by simp [Traffic.promises])) owes).1
    rw [none c] at before
    cases before
  · rw [whole, lawful_append]
    exact ⟨settles_onward lawful fun entry among => (plain entry among).1, fun _ => none, trivial⟩

theorem quiet_unasked {p : Protocol} {entry : Traffic} (quiet : entry.Quiet p) : entry ≠ .resumed ∧ ∀ d, entry.promises p d = none := by
  cases entry with
  | took peer msg | skimmed peer msg =>
      cases peer
      · cases quiet
      · exact ⟨nofun, fun _ => rfl⟩
  | resumed => cases quiet
  | _ => exact ⟨nofun, fun _ => rfl⟩

theorem event_turn_goes_on (s handled : Session) (ambient : Ambient) (msg : Bytes)
    (turn : EventTurn env ambient (s.log (.took .host msg)) msg handled) (added : List Traffic) (grown : handled.trace = s.trace ++ added) :
    ∀ entry ∈ added, entry ≠ .resumed := by
  cases turn with
  | unheard table books grabs trace =>
      obtain ⟨more, whole, aloof⟩ := unheard_adds env s handled msg trace
      rw [← List.append_cancel_left (whole.symm.trans grown)]
      exact fun entry among => (aloof entry among).plain.2.2
  | heard m created deleted renamed noted noting outgoing names is =>
      obtain ⟨more, sent, whole, aloof, -⟩ := heard_event s handled ambient msg noting outgoing is
      rw [← List.append_cancel_left (whole.symm.trans grown)]
      intro entry among
      rcases List.mem_append.mp among with early | last
      · exact (aloof entry early).plain.2.2
      · rw [List.mem_singleton.mp last]
        nofun

include detailed

theorem transition_faithful (transition : Transition env st event next) (tidy : Tidy env st) (tidy' : Tidy env next)
    (heeded : CallbacksHeeded env st event) (unused : IdsUnused env.protocol next.session.trace)
    (faithful : Faithful env.protocol st.session) : Faithful env.protocol next.session := by
  have course := transition_course detailed transition tidy
  obtain ⟨minded, lawful⟩ := faithful
  cases id course with
  | request s handled ambient msg consumed taken long turn =>
      have along : ∀ added, handled.trace = s.trace ++ added → ∀ c, Steady env.protocol c s.trace added →
          (client env.protocol s.trace).Holds c wlCallback → s.objects.interface c = some wlCallback →
            handled.objects.interface c = some wlCallback ∧ (client env.protocol handled.trace).Holds c wlCallback :=
        fun added grown c steady held listed => listed_along detailed course tidy tidy' added grown c steady wlCallback held listed
      refine ⟨fun c owes => ?_, ?_⟩
      · obtain ⟨awaited, listed, held⟩ := request_turn_minded detailed s handled ambient msg turn (heeded (msg, consumed) taken)
          tidy.tended.agrees unused along minded c owes
        exact ⟨awaited, listed, held⟩
      · obtain ⟨added, after, grown⟩ := request_turn_adds env ambient (s.log (.took .gtk msg)) msg handled turn
        have whole : handled.trace = s.trace ++ .took .gtk msg :: added := by rw [grown]; simp [Session.log]
        rw [drain_buf_trace, whole]
        refine settles_onward lawful fun entry among => ?_
        rcases List.mem_cons.mp among with rfl | later
        · simp
        · rcases after entry later with writes | ⟨m, created, translated, rewritten, noted, noting, failed, told⟩
          · rintro rfl
            cases writes
          · rintro rfl
            cases told
  | event s handled ambient msg consumed taken long turn =>
      obtain ⟨added, grown, unasked, keeps⟩ := event_turn_awaits s handled ambient msg turn
      refine ⟨minded_along detailed course tidy tidy' unused added grown (unasked_of_each unasked) keeps minded, ?_⟩
      rw [drain_buf_trace, grown]
      exact settles_onward lawful (event_turn_goes_on s handled ambient msg turn added grown)
  | discarded s h r ambient msg consumed taken _ stays =>
      obtain ⟨added, quiet, grown⟩ := stays.adds
      have whole : next.session.trace = s.trace ++ .skimmed .gtk msg :: added := by rw [grown]; simp [skimmed, Session.log]
      have unasked : Unasked env.protocol s.trace (.skimmed .gtk msg :: added) :=
        ⟨heeded (msg, consumed) taken, unasked_of_each fun entry among => (quiet_unasked (quiet entry among)).2⟩
      refine ⟨minded_along detailed course tidy tidy' unused _ whole unasked
        (fun c _ awaited => by rw [stays.books.pendingFrames]; exact awaited) minded, ?_⟩
      rw [whole]
      refine settles_onward lawful fun entry among => ?_
      rcases List.mem_cons.mp among with rfl | later
      · simp
      · exact (quiet_unasked (quiet entry later)).1
  | settled s r ambient done =>
      obtain ⟨added, told, grown⟩ := (settle_recovery_told (p := env.protocol) ambient.order r.globals s).trace
      refine resumed_faithful ambient.order _ s.trace added grown (fun entry among => ?_) lawful fun c owes => ?_
      · have fine := told entry among
        cases entry with
        | sent => exact ⟨by simp, fun _ => rfl⟩
        | _ => cases fine
      · obtain ⟨awaited, listed, -⟩ := minded c owes
        obtain ⟨written, is, reached⟩ := settle_reaches detailed ambient.order r.globals s c awaited listed
        rwa [List.append_cancel_left (is.symm.trans grown)] at reached
  | unregistered s begun ambient outcomes absent stays table =>
      obtain ⟨added, quiet, grown⟩ := stays.adds
      refine resumed_faithful ambient.order begun s.trace added grown (fun entry among => quiet_unasked (quiet entry among)) lawful
        fun c owes => ?_
      have awaited := (minded c owes).awaited
      rw [show s.pendingFrames.awaitingDone.keys = [] from heeded absent] at awaited
      cases awaited
  | still _ _ _ stays =>
      obtain ⟨added, quiet, grown⟩ := stays.adds
      refine ⟨minded_along detailed course tidy tidy' unused added grown (unasked_of_each fun entry among => (quiet_unasked (quiet entry among)).2)
        (fun c _ awaited => by rw [stays.books.pendingFrames]; exact awaited) minded, ?_⟩
      rw [grown]
      exact settles_onward lawful fun entry among => (quiet_unasked (quiet entry among)).1

end Transitions

instance (p : Protocol) (s : Session) (msg : Bytes) : Decidable (Heeds p s msg) :=
  inferInstanceAs (Decidable ((Traffic.promises p (client p s.trace) (.took .gtk msg)).isSome = true →
    s.objects.interface (senderOf msg) = some wlSurface ∨ s.objects.interface (senderOf msg) = some wlDisplay ∧
      ∃ hostId ∈ s.objects.hostId (senderOf msg), hostId ≠ s.objects.nextHostId))

def callbacksHeeded (st : State) (event : Event) : Bool :=
  match event, st.control with
  | .turn _, .relaying .clientToHost => decide (∀ taken ∈ takeMessage st.session.gtk.readBuf, Heeds coreProtocol st.session taken.1)
  | .turn _, .awaitingAck _ _ => decide (∀ taken ∈ takeMessage st.session.gtk.readBuf,
      Traffic.promises coreProtocol (client coreProtocol st.session.trace) (.skimmed .gtk taken.1) = none)
  | .reconnect ambient _, .selecting => decide (
      st.session.objects.bumpGeneration.findGuestIdByInterfaceName ambient.order "wl_registry" = none →
        st.session.pendingFrames.awaitingDone.keys = [])
  | _, _ => true

theorem callbacks_heeded_sound (st : State) (event : Event) (checked : (drained st event && callbacksHeeded st event) = true) :
    Drained coreProtocol st event ∧ CallbacksHeeded coreEnv st event := by
  obtain ⟨drains, heeds⟩ := Bool.and_eq_true_iff.mp checked
  refine ⟨drained_sound st event drains, ?_⟩
  unfold callbacksHeeded at heeds
  unfold CallbacksHeeded
  split at heeds
  · exact of_decide_eq_true heeds
  · exact of_decide_eq_true heeds
  · exact of_decide_eq_true heeds
  · trivial

-- A frame (5) of a surface (4) and a sync (6), neither answered.
def callbacksAsked : List Event :=
  .gtkReadable (.data (requestRegistry 2 ++ bindGlobal 1 "wl_compositor" 3 ++ createSurface 4 ++ buildMessage 4 3 (putU32 [] 5) ++
    buildMessage 1 0 (putU32 [] 6)) []) :: turns 6

-- A client asks for a sync (2) before it has a registry. The recovery has
-- nothing to recover, and ends with the sync unanswered.
def syncAlone : List Event :=
  .gtkReadable (.data (buildMessage 1 0 (putU32 [] 2)) []) :: turns 2 ++ [.hostReadable .error, reconnectCore]

end WlResprox
