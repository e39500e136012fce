import WlResprox.Numbering

set_option autoImplicit false

namespace WlResprox

-- A stretch of a run adds only such entries to the history.
def Adds (allowed : Traffic → Prop) (s s' : Session) : Prop :=
  ∃ added, (∀ entry ∈ added, allowed entry) ∧ s'.trace = s.trace ++ added

namespace Adds

variable {allowed : Traffic → Prop} {s s' s'' : Session}

theorem same (trace : s'.trace = s.trace) : Adds allowed s s' := ⟨[], by simp, by simp [trace]⟩

theorem trans (first : Adds allowed s s') (second : Adds allowed s' s'') : Adds allowed s s'' := by
  obtain ⟨earlier, fine, was⟩ := first
  obtain ⟨later, fine', is⟩ := second
  refine ⟨earlier ++ later, fun entry member => ?_, by rw [is, was, List.append_assoc]⟩
  exact (List.mem_append.mp member).elim (fine entry) (fine' entry)

theorem mono {more : Traffic → Prop} (adds : Adds allowed s s') (implied : ∀ entry, allowed entry → more entry) : Adds more s s' := by
  obtain ⟨added, fine, grown⟩ := adds
  exact ⟨added, fun entry member => implied entry (fine entry member), grown⟩

theorem log (s : Session) (entry : Traffic) (fine : allowed entry) : Adds allowed s (s.log entry) :=
  ⟨[entry], by simpa using fine, rfl⟩

theorem wrote {peer : Peer} {origin : Origin} {interface : Interface} {msg : Bytes} {fds : List Fd} {done : Bool}
    (result : s.writeMessage peer origin interface msg fds = (done, s'))
    (fine : ∀ outcome, allowed (.sent ⟨peer, origin, interface, msg, fds, outcome⟩)) : Adds allowed s s' := by
  cases result
  exact ⟨[_], by simpa using fine _, rfl⟩

theorem skimmed (s : Session) (peer : Peer) (consumed : Nat) (msg : Bytes) (fine : allowed (.skimmed peer msg)) :
    Adds allowed s (skimmed s peer consumed msg) := log (s.drainBuf peer consumed) _ fine

theorem ended (s : Session) (peer : Peer) (fine : ∀ past, allowed (.waited peer past)) : Adds allowed s (endWait s peer) :=
  log s _ (fine _)

end Adds

-- What a wait of the recovery adds: the messages it passes on, and its own end.
section Heeding

variable {allowed : Traffic → Prop} (s : Session) (msg : Bytes) (waits : ∀ peer past, allowed (.waited peer past))

include waits

theorem heed_registry_adds (w : RegistryWait) : Adds allowed s (heedRegistry s w msg).session := by
  unfold heedRegistry
  split
  · exact .same rfl
  · split
    · exact (Adds.ended s .host (waits _)).trans (.same rfl)
    · exact .same rfl

theorem heed_configure_adds (p : Protocol) (h : Handshake) (r : Replay)
    (passes : ∀ guestId interface, some (opcodeOfMessage msg) = eventOpcode p interface "configure" → ∀ outcome,
      allowed (.sent ⟨.gtk, .relayed, interface, buildMessage guestId (opcodeOfMessage msg) (msg.drop headerLen), [], outcome⟩)) :
    Adds allowed s (heedConfigure p s h r msg).session := by
  have passed : ∀ guestId interface, some (opcodeOfMessage msg) = eventOpcode p interface "configure" → ∀ done t,
      passToClient s guestId interface msg = (done, t) → Adds allowed s t :=
    fun guestId interface heeds done t result => .wrote result (passes guestId interface heeds)
  unfold heedConfigure
  split
  · rename_i heeds
    split
    · rename_i written wrote
      exact passed _ _ heeds.2 _ _ wrote
    · rename_i failed wrote
      exact (passed _ _ heeds.2 _ _ wrote).trans (.ended failed .host (waits _))
  · split
    · rename_i heeds
      split
      · rename_i written wrote
        exact (passed _ _ heeds.2 _ _ wrote).trans (.ended written .host (waits _))
      · rename_i failed wrote
        exact (passed _ _ heeds.2 _ _ wrote).trans (.ended failed .host (waits _))
    · exact .same rfl

theorem heed_ack_adds (p : Protocol) (h : Handshake) (r : Replay)
    (passes : senderOf msg = h.xdgSurfaceGuestId → some (opcodeOfMessage msg) = requestOpcode p h.xdgSurface "ack_configure" →
      ∀ outcome, allowed (.sent ⟨.host, .relayed, h.xdgSurface,
        buildMessage h.xdgSurfaceHostId (opcodeOfMessage msg) (msg.drop headerLen), [], outcome⟩)) :
    Adds allowed s (heedAck p s h r msg).session := by
  unfold heedAck
  split
  · rename_i acks
    have acked : Adds allowed s (s.writeMessage .host .relayed h.xdgSurface
        (buildMessage h.xdgSurfaceHostId (opcodeOfMessage msg) (msg.drop headerLen)) []).2 := .wrote rfl (passes acks.1 acks.2)
    exact acked.trans (.ended _ .gtk (waits _))
  · exact .same rfl

end Heeding

section Asking

variable {allowed : Traffic → Prop} (s : Session)
  (asks : ∀ origin msg outcome, allowed (.sent ⟨.host, origin, wlDisplay, msg, [], outcome⟩))

include asks

theorem ask_for_globals_adds (registryGuestId : UInt32) : Adds allowed s (askForGlobals s registryGuestId).2 := by
  have allocated : Adds allowed s { s with objects := s.objects.allocateHostId.2.allocateHostId.2 } := .same rfl
  simp only [askForGlobals]
  split
  · rename_i failed wrote
    exact allocated.trans (.wrote wrote (asks _ _))
  · rename_i asked wrote
    exact (allocated.trans (.wrote wrote (asks _ _))).trans (.wrote rfl (asks _ _))

theorem begin_recovery_adds (p : Protocol) (order : HashOrder) (resumes : ∀ t, Adds allowed t (resume p order t).session) :
    Adds allowed s (beginRecovery p order s).session := by
  have begun : Adds allowed s { s with reclaim := { s.reclaim with activeSourceHostId := none } } := .same rfl
  simp only [beginRecovery]
  split
  · exact begun.trans (resumes _)
  · split
    · exact begun
    · rename_i registryGuestId _ _ registry _
      have asked := ask_for_globals_adds { s with reclaim := { s.reclaim with activeSourceHostId := none } } asks registryGuestId
      split
      · rename_i failed result
        rw [result] at asked
        exact begun.trans asked
      · rename_i written result
        rw [result] at asked
        exact begun.trans asked

end Asking

theorem Frame.adds {kept : Peer → Prop} {fewer allowed : Traffic → Prop} {s s' : Session} (frame : Frame kept fewer s s')
    (implied : ∀ entry, fewer entry → allowed entry) : Adds allowed s s' := by
  obtain ⟨added, fine, grown⟩ := frame.trace
  exact ⟨added, fun entry member => implied entry (fine entry member), grown⟩

-- A request of the client's as the relay passes it on: the sender and the
-- located words are the host's, the rest is the client's own.
structure Forwards (env : Env) (s : Session) (msg : Bytes) (m : Inbound) (sent : Sent) : Prop where
  resolved : Resolved env.protocol s.objects .clientToHost (headerOf msg) msg m
  interface : sent.interface = m.interface
  opcode : opcodeOfMessage sent.msg = opcodeOfMessage msg
  sender : ArgumentType.newId ∉ m.desc.signature → s.objects.hostId (senderOf msg) = some (senderOf sent.msg)
  standing : (s.objects.hostId (senderOf msg)).isSome = true ∨
    (decode env.protocol .clientToHost m.interface msg).bind Call.newId = some (senderOf msg)
  payload : m.isRequest "xdg_toplevel" "set_app_id" = false → AgreeOutside m.walk (msg.drop headerLen) (sent.msg.drop headerLen)

def Event.Turns : Event → Prop
  | .turn _ => True
  | _ => False

-- Why a step writes to the host.
inductive HostWrite (env : Env) (st : State) (event : Event) (sent : Sent) : Prop where
  | own (listed : sent.interface.name ∈ ownInterfaces) (origin : sent.origin = .own ∨ sent.interface = wlDisplay)
  | recreated (r : Replay) (guestId : UInt32) (replaying : st.control = .replaying r) (turns : event.Turns)
      (recreates : Recreates env.protocol r.globals r.registry r.registryHostId guestId (.sent sent))
  | forwarded (msg : Bytes) (consumed : Nat) (m : Inbound) (relaying : st.control = .relaying .clientToHost)
      (turns : event.Turns) (thawed : st.session.frozen = false) (taken : takeMessage st.session.gtk.readBuf = some (msg, consumed))
      (forwards : Forwards env st.session msg m sent)
  | acked (h : Handshake) (r : Replay) (msg : Bytes) (consumed : Nat) (waiting : st.control = .awaitingAck h r)
      (turns : event.Turns) (taken : takeMessage st.session.gtk.readBuf = some (msg, consumed)) (sender : senderOf msg = h.xdgSurfaceGuestId)
      (acks : some (opcodeOfMessage msg) = requestOpcode env.protocol h.xdgSurface "ack_configure")
      (interface : sent.interface = h.xdgSurface)
      (bytes : sent.msg = buildMessage h.xdgSurfaceHostId (opcodeOfMessage msg) (msg.drop headerLen))

-- What a step may add to the history.
def Accounted (env : Env) (st : State) (event : Event) : Traffic → Prop
  | .sent sent => sent.peer = .host → HostWrite env st event sent
  | .reconnected => st.control = .selecting
  | _ => True

-- Recovery binds through a wl_registry.
def Control.OnRegistry : Control → Prop
  | .awaitingRegistry w => w.registry = wlRegistry
  | .replaying r | .awaitingConfigure _ r | .awaitingAck _ r => r.registry = wlRegistry
  | _ => True

theorem begin_recovery_on_registry (p : Protocol) (order : HashOrder) (s : Session) :
    (beginRecovery p order s).control.OnRegistry := by
  simp only [beginRecovery]
  split
  · trivial
  · rename_i registryGuestId found
    split
    · trivial
    · rename_i registry known
      split
      · trivial
      · obtain ⟨i, listed, name⟩ := ShadowTable.find_guest_id_spec _ order _ _ found
        rw [known] at listed
        obtain rfl := Option.some.inj listed
        exact interface_named _ _ name

theorem transition_on_registry {env : Env} {st next : State} {event : Event} (transition : Transition env st event next)
    (on : st.control.OnRegistry) : next.control.OnRegistry := by
  cases transition with
  | readClient | clientGone | readHost | hostGone | registryGone | relayed | relayDone => trivial
  | readAck | ackGone | readRegistry | readConfigure | configureGone | configureLapse | ackLapse | cached => exact on
  | skimRegistry s w =>
      unfold heedRegistry
      split
      · exact on
      · split <;> exact on
  | skimConfigure s h r =>
      unfold heedConfigure
      split
      · split <;> exact on
      · split
        · split <;> exact on
        · exact on
  | skimAck s h r =>
      unfold heedAck
      split <;> exact on
  | replayed s r =>
      unfold replayTurn
      split
      · trivial
      · split
        · trivial
        · exact on
        · exact on
  | reconnect s ambient outcomes frozen => exact begin_recovery_on_registry _ _ _

section Frames

variable {env : Env} {st : State} {event : Event} {s s' : Session}

theorem Frame.accounted (frame : Observes s s') : Adds (Accounted env st event) s s' :=
  frame.adds fun entry fine => by
    cases entry with
    | sent sent => exact fun toHost => .own (fine.2 toHost) (.inl fine.1)
    | _ => exact fine.elim

theorem Frame.told_accounted {p : Protocol} (frame : TellsClient p s s') : Adds (Accounted env st event) s s' := frame.tells.accounted

end Frames

section Relaying

variable (env : Env) (covered : Covered env.protocol) (ambient : Ambient) (s : Session) (msg : Bytes) (m : Inbound)
  (resolved : Resolved env.protocol s.objects .clientToHost (headerOf msg) msg m) (long : headerLen ≤ msg.length)
  (translated rewritten renamed : Bytes) (created : Option Creation) (introduced forgotten : Session)
  (translating : translateObjects s.objects .clientToHost m.walk.objectOffsets msg = some translated)
  (introducing : introduceObject env.protocol s m translated = .ok (created, introduced, rewritten))
  (forgetting : forgetDeleted introduced m rewritten = some (forgotten, renamed))

include covered resolved long translating introducing forgetting

theorem request_forwards (graph : RecreationGraph) (otherSide : UInt32)
    (found : forgotten.objects.hostId m.sender = some otherSide) (fds : List Fd) (outcome : WriteOutcome) :
    Forwards env s msg m
      ⟨.host, .relayed, m.interface, writeSenderId (updateRecipes env ambient graph m renamed).2 otherSide, fds, outcome⟩ := by
  have outgoing := relayed_outgoing env covered s.objects .clientToHost msg m resolved long s introduced forgotten translated rewritten
    renamed created translating introducing forgetting ambient graph
  have sending := outgoing.send otherSide
  refine ⟨resolved, rfl, ?_, fun quiet => ?_, ?_, fun other => ?_⟩
  · show opcodeOfMessage (writeSenderId _ otherSide) = _
    rw [sending.opcode, resolved.head]
    rfl
  · have nothing : forgotten = s := by
      have kept := request_deletes_nothing env covered s msg m resolved rewritten renamed introduced forgotten forgetting
      obtain ⟨-, -, same, -⟩ | ⟨offset, child, version, located, -, -, -, -⟩ := introduce_object_ok _ _ _ _ _ _ _ introducing
      · rw [kept, same]
      · have absent := walk_new_id _ _ _ resolved.walk
        simp [located, quiet] at absent
    rw [nothing] at found
    rw [← resolved_request env s.objects _ msg m resolved rfl, found]
    exact congrArg some (sender_of_written _ otherSide outgoing.long).symm
  · have kept := request_deletes_nothing env covered s msg m resolved rewritten renamed introduced forgotten forgetting
    rw [← resolved_request env s.objects _ msg m resolved rfl]
    rw [kept] at found
    obtain ⟨-, -, same, -⟩ | ⟨offset, child, version, located, -, -, same, -⟩ := introduce_object_ok _ _ _ _ _ _ _ introducing
    · rw [same] at found
      exact .inl (by rw [found]; rfl)
    · have original := original_new_id env s .clientToHost msg m resolved long translated offset located translating
      by_cases own : m.sender = wordAt translated (headerLen + offset)
      · exact .inr (original.trans (congrArg some own.symm))
      · refine .inl ?_
        have mapped : introduced.objects =
            s.objects.allocateHostId.2.map (wordAt translated (headerLen + offset)) s.objects.nextHostId child := by
          rw [same]
          show (createObject s.objects m.direction (wordAt translated (headerLen + offset)) child).2 = _
          rw [show m.direction = .clientToHost from resolved.way]
          rfl
        rw [mapped] at found
        by_cases null : m.sender = 0
        · rw [null]
          rfl
        · rw [ShadowTable.host_id_map _ _ _ _ _ _ null] at found
          obtain ⟨is, -⟩ | ⟨-, -, was⟩ := found
          · exact absurd is own
          · rw [ShadowTable.allocate_host_id_host_id] at was
            rw [was]
            rfl
  · have same := update_recipes_other env ambient graph m renamed other
    have kept : renamed = rewritten := by
      by_cases deletes : m.interface.name = "wl_display" ∧ m.desc.name = "delete_id"
      · have event := (delete_id_plain env covered s.objects .clientToHost msg m resolved deletes.1 deletes.2).1
        cases event
      · exact (forget_deleted_other _ _ _ _ _ forgetting deletes).2
    have rewrites := introduced_rewrites env s.objects .clientToHost (headerOf msg) msg m resolved long s introduced translated rewritten
      created translating introducing
    have sized : headerLen ≤ rewritten.length := by
      rw [rewrites.lengths]
      exact long
    show AgreeOutside m.walk _ ((writeSenderId (updateRecipes env ambient graph m renamed).2 otherSide).drop headerLen)
    rw [same, kept]
    exact (rewrites.trans (.set_sender m.walk rewritten otherSide sized)).payload

end Relaying

section Steps

variable {env : Env} {st : State} {event : Event}

theorem forward_accounted (ambient : Ambient) (s : Session) (m : Inbound) (created : Option Creation) (msg : Bytes)
    (fine : live s m.direction = true → ∀ fds outcome,
      Accounted env st event (.sent ⟨m.direction.dst, .relayed, m.interface, msg, fds, outcome⟩)) :
    Adds (Accounted env st event) s (forward ambient s m created msg).2 := by
  obtain ⟨fds, outcome, forwards⟩ := forward_view ambient s m created msg
  have trace := congrArg View.trace forwards
  split at trace
  · rename_i lives
    exact ⟨[_], by simpa using fine lives fds outcome, trace⟩
  · exact .same trace

-- The turn of a request: what it was taken from fixes what is written.
theorem request_passed_accounted (covered : Covered env.protocol) (ambient : Ambient) (s : Session) (msg : Bytes)
    (consumed : Nat) (relaying : st.control = .relaying .clientToHost) (turns : event.Turns) (objects : s.objects = st.session.objects)
    (frozen : s.frozen = st.session.frozen) (taken : takeMessage st.session.gtk.readBuf = some (msg, consumed))
    (long : headerLen ≤ msg.length) (m : Inbound)
    (resolved : Resolved env.protocol s.objects .clientToHost (headerOf msg) msg m) (translated rewritten renamed : Bytes)
    (created : Option Creation) (introduced forgotten : Session)
    (translating : translateObjects s.objects .clientToHost m.walk.objectOffsets msg = some translated)
    (introducing : introduceObject env.protocol s m translated = .ok (created, introduced, rewritten))
    (forgetting : forgetDeleted introduced m rewritten = some (forgotten, renamed)) (disposal : Disposal) (next : Session)
    (passing : PassedOn env ambient forgotten m created renamed disposal next) : Adds (Accounted env st event) s next := by
  have request : m.direction = .clientToHost := resolved.way
  have started := ((introduce_object_frame env.protocol s m _ _ _ _ introducing).trans
    (forget_deleted_frame introduced m _ _ _ forgetting)).frozen
  have before : Adds (Accounted env st event) s forgotten :=
    (introduce_object_frame env.protocol s m _ _ _ _ introducing).accounted.trans
      (forget_deleted_frame introduced m _ _ _ forgetting).accounted
  cases passing with
  | staleGeneration updated observed stale =>
      rw [observed]
      exact before.trans (observe_recipes_frame forgotten env ambient m renamed).accounted
  | untranslatedSender noted observed failed =>
      have flowed := observe_flow_frame forgotten env ambient m created renamed
      rw [← observed] at flowed
      exact (before.trans flowed.accounted).trans (drop_stale_sender_frame env.protocol noted m created).accounted
  | forwarded noted otherSide observed fresh found =>
      have flowed := observe_flow_frame forgotten env ambient m created renamed
      rw [← observed] at flowed
      refine (before.trans flowed.accounted).trans (forward_accounted ambient noted m created _ fun lives fds outcome _ => ?_)
      have thawed : st.session.frozen = false := by
        have same := flowed.frozen.trans (started.trans frozen)
        simpa [live, request, same] using lives
      have table : noted.objects = forgotten.objects := by
        rw [observed]
        exact congrArg View.objects (observe_input_view ambient forgotten m (request_carries_no_serial m request) _)
      simp only [otherSideSenderId, request, table] at found
      have forwards := request_forwards env covered ambient s msg m resolved long translated rewritten renamed created introduced
        forgotten translating introducing forgetting (observeInput ambient forgotten m (renamed.drop headerLen)).graph otherSide found
        fds outcome
      rw [request]
      refine .forwarded msg consumed m relaying turns thawed taken ⟨?_, forwards.interface, forwards.opcode, fun quiet => ?_, ?_,
        forwards.payload⟩
      · rw [← objects]
        exact resolved
      · rw [← objects]
        exact forwards.sender quiet
      · rw [← objects]
        exact forwards.standing

-- An event goes to the client.
theorem event_passed_accounted (ambient : Ambient) (s : Session) (m : Inbound) (toClient : m.direction = .hostToClient)
    (created : Option Creation) (msg : Bytes) (disposal : Disposal) (next : Session)
    (passing : PassedOn env ambient s m created msg disposal next) : Adds (Accounted env st event) s next := by
  cases passing with
  | staleGeneration updated observed stale =>
      rw [observed]
      exact (observe_recipes_frame s env ambient m msg).accounted
  | untranslatedSender noted observed failed =>
      have flowed := observe_flow_frame s env ambient m created msg
      rw [← observed] at flowed
      exact flowed.accounted.trans (drop_stale_sender_frame env.protocol noted m created).accounted
  | forwarded noted otherSide observed fresh found =>
      have flowed := observe_flow_frame s env ambient m created msg
      rw [← observed] at flowed
      refine flowed.accounted.trans (forward_accounted ambient noted m created _ fun _ fds outcome toHost => ?_)
      rw [toClient] at toHost
      cases toHost

theorem handle_synthetic_accounted (ambient : Ambient) (s : Session) (msg : Bytes) (opcode : UInt16) :
    Adds (Accounted env st event) s (handleSyntheticClipboardEvent ambient s msg opcode) := by
  unfold handleSyntheticClipboardEvent
  split
  · split
    · exact .same rfl
    · dsimp only
      split
      · exact .same rfl
      · split
        · exact .same rfl
        · split
          · exact .log (s.setReadFds .host _) _ trivial
          · exact .same rfl
  · split
    · exact .same rfl
    · exact .same rfl

theorem relay_turn_accounted (covered : Covered env.protocol) (ambient : Ambient) (direction : Direction) (next : Session)
    (disposal : Disposal) (relaying : st.control = .relaying direction) (turns : event.Turns)
    (turned : relayTurn env ambient direction st.session = some (disposal, next)) : Adds (Accounted env st event) st.session next := by
  obtain ⟨msg, consumed, handled, taken, handling, rfl⟩ := relay_turn_some env ambient direction st.session next disposal turned
  have took : Adds (Accounted env st event) st.session (st.session.log (.took direction.src msg)) := .log _ _ trivial
  refine took.trans (.trans ?_ (.same (s := handled) (by cases direction <;> rfl)))
  have result := relay_message_handled env ambient direction (st.session.log (.took direction.src msg)) (headerOf msg) msg
  rw [handling] at result
  cases result with
  | intercepted => exact handle_synthetic_accounted ambient _ msg _
  | unknown | parseError | untranslatable => exact .same rfl
  | unresolvableChild m translated dropped resolved translating failed =>
      obtain ⟨-, -, rfl | ⟨guest, name, rfl⟩⟩ := introduce_object_error _ _ _ _ _ failed
      · exact .same rfl
      · exact .same rfl
  | untrackedDeleteId m translated rewritten created introduced resolved translating introducing failed =>
      exact (introduce_object_frame env.protocol _ m _ _ _ _ introducing).accounted
  | passedOn m translated rewritten renamed created introduced forgotten next disposal spared resolved translating introducing
      forgetting passing =>
      cases direction with
      | clientToHost =>
          have long : headerLen ≤ msg.length := by
            rw [take_message_length _ _ _ taken]
            exact (take_message_spec _ _ _ taken).1
          exact request_passed_accounted covered ambient (st.session.log (.took .gtk msg)) msg consumed relaying turns rfl rfl taken
            long m resolved translated rewritten renamed created introduced forgotten translating introducing forgetting disposal _ passing
      | hostToClient =>
          have before : Adds (Accounted env st event) (st.session.log (.took .host msg)) forgotten :=
            (introduce_object_frame env.protocol _ m _ _ _ _ introducing).accounted.trans
              (forget_deleted_frame introduced m _ _ _ forgetting).accounted
          exact before.trans (event_passed_accounted ambient forgotten m resolved.way created renamed disposal _ passing)

theorem resume_accounted (p : Protocol) (order : HashOrder) (s : Session) :
    Adds (Accounted env st event) s (resume p order s).session :=
  (synthesize_grab_releases_frame p s order).told_accounted.trans (.log _ _ trivial)

theorem replay_turn_accounted (order : HashOrder) (s : Session) (r : Replay) (replaying : st.control = .replaying r) (turns : event.Turns) :
    Adds (Accounted env st event) s (replayTurn env.protocol order s r).session := by
  have redone : ∀ guestId t, Performs (Recreates env.protocol r.globals r.registry r.registryHostId guestId) s t →
      Adds (Accounted env st event) s t := fun guestId t performs => performs.frame.adds fun entry fine => by
    cases entry with
    | sent sent => exact fun _ => .recreated r guestId replaying turns fine
    | _ => exact (fine.elim id id).elim
  unfold replayTurn
  split
  · exact (settle_recovery_frame env.protocol s order r.globals).told_accounted.trans (resume_accounted env.protocol order _)
  · split
    · exact .same rfl
    · rename_i t result
      exact redone _ _ (replay_recipe_recreates env.protocol s _ _ _ _ _ _ _ result)
    · rename_i t h result
      exact redone _ _ (replay_recipe_recreates env.protocol s _ _ _ _ _ _ _ result)

theorem begin_recovery_accounted (p : Protocol) (order : HashOrder) (s : Session) :
    Adds (Accounted env st event) s (beginRecovery p order s).session :=
  begin_recovery_adds s (fun _ _ _ _ => .own (show wlDisplay.name ∈ ownInterfaces by decide) (.inr rfl)) p order (resume_accounted p order)

-- Every entry a step adds to the history has a reason in the state before it.
theorem transition_accounted (covered : Covered env.protocol) {next : State}
    (transition : Transition env st event next) : Adds (Accounted env st event) st.session next.session := by
  cases transition with
  | clientGone | relayDone | readClient | readHost | readAck | readRegistry | readConfigure | cached => exact .same rfl
  | hostGone s fill thawed gone => exact (Adds.log s .lost trivial).trans (.same rfl)
  | ackGone s | ackLapse s => exact .ended s .gtk fun _ => trivial
  | registryGone s | configureGone s | configureLapse s => exact .ended s .host fun _ => trivial
  | relayed s next direction ambient disposal turned =>
      exact relay_turn_accounted covered ambient direction next disposal rfl trivial turned
  | skimRegistry s w ambient msg consumed taken =>
      exact (Adds.skimmed s .host consumed msg trivial).trans (heed_registry_adds _ msg (fun _ _ => trivial) w)
  | skimConfigure s h r ambient msg consumed taken =>
      exact (Adds.skimmed s .host consumed msg trivial).trans (heed_configure_adds _ msg (fun _ _ => trivial) env.protocol h r
        fun _ _ _ _ toHost => by cases toHost)
  | skimAck s h r ambient msg consumed taken =>
      exact (Adds.skimmed s .gtk consumed msg trivial).trans (heed_ack_adds _ msg (fun _ _ => trivial) env.protocol h r
        fun sender acks _ _ => .acked h r msg consumed rfl trivial taken sender acks rfl rfl)
  | replayed s r ambient => exact replay_turn_accounted ambient.order s r rfl trivial
  | reconnect s ambient outcomes frozen =>
      have renewed : Adds (Accounted env ⟨s, .selecting⟩ (.reconnect ambient outcomes)) s (reconnected s outcomes) := ⟨[.reconnected], by simp [Accounted], rfl⟩
      exact renewed.trans (begin_recovery_accounted env.protocol ambient.order _)

end Steps

end WlResprox
