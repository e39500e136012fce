import WlResprox.Lifetimes

set_option autoImplicit false

namespace WlResprox

-- The ids whose object comes or goes with an entry.
def Traffic.turnover (p : Protocol) (c : Client) (entry : Traffic) : List UInt32 :=
  (entry.introduces p c).toList ++ (entry.destroys p c).toList ++ (entry.deletes p).toList

-- A stretch in which the object under an id neither comes nor goes.
abbrev Steady (p : Protocol) (g : UInt32) : List Traffic → List Traffic → Prop :=
  Lawful fun past entry => g ∉ entry.turnover p (client p past)

theorem mem_turnover {p : Protocol} {c : Client} {entry : Traffic} {g : UInt32} :
    g ∈ entry.turnover p c ↔ entry.introduces p c = some g ∨ entry.destroys p c = some g ∨ entry.deletes p = some g := by
  simp [Traffic.turnover]

theorem not_mem_turnover {p : Protocol} {c : Client} {entry : Traffic} (none : entry.turnover p c = []) (g : UInt32) :
    g ∉ entry.turnover p c := by
  rw [none]
  exact List.not_mem_nil

theorem steady_holds {p : Protocol} {g : UInt32} {i : Interface} {past : List Traffic} (added : List Traffic)
    (steady : Steady p g past added) (holds : (client p past).Holds g i) : (client p (past ++ added)).Holds g i := by
  induction added generalizing past with
  | nil =>
      rw [List.append_nil]
      exact holds
  | cons entry rest ih =>
      obtain ⟨apart, onward⟩ := steady
      simp only [mem_turnover, not_or] at apart
      have next : (client p (past ++ [entry])).Holds g i := by
        rw [client_snoc]
        exact Client.note_holds entry holds apart.1 (.inl apart.2.2)
      rw [show past ++ entry :: rest = past ++ [entry] ++ rest by simp]
      exact ih onward next

theorem steady_kept {p : Protocol} {g : UInt32} {o : ClientObject} {past : List Traffic} (added : List Traffic)
    (steady : Steady p g past added) (here : (client p past).objects g = some o) : (client p (past ++ added)).objects g = some o := by
  induction added generalizing past with
  | nil =>
      rw [List.append_nil]
      exact here
  | cons entry rest ih =>
      obtain ⟨apart, onward⟩ := steady
      simp only [mem_turnover, not_or] at apart
      have next : (client p (past ++ [entry])).objects g = some o := by
        rw [client_snoc]
        exact Client.note_kept entry here apart.1 apart.2.2 apart.2.1
      rw [show past ++ entry :: rest = past ++ [entry] ++ rest by simp]
      exact ih onward next

-- A stretch in which no object comes under an id and none is deleted there.
abbrev Lasting (p : Protocol) (g : UInt32) : List Traffic → List Traffic → Prop :=
  Lawful fun past entry => entry.introduces p (client p past) ≠ some g ∧ entry.deletes p ≠ some g

theorem Steady.lasting {p : Protocol} {g : UInt32} {past added : List Traffic} (steady : Steady p g past added) : Lasting p g past added := by
  induction added generalizing past with
  | nil => trivial
  | cons entry rest ih =>
      obtain ⟨apart, onward⟩ := steady
      simp only [mem_turnover, not_or] at apart
      exact ⟨⟨apart.1, apart.2.2⟩, ih onward⟩

theorem lasting_kept {p : Protocol} {g : UInt32} {o : ClientObject} {past : List Traffic} (added : List Traffic)
    (lasting : Lasting p g past added) (here : (client p past).objects g = some o) (present : o.deleted = false) :
    ∃ destroyed, (client p (past ++ added)).objects g = some { o with destroyed := destroyed } := by
  induction added generalizing past o with
  | nil =>
      rw [List.append_nil]
      exact ⟨o.destroyed, here⟩
  | cons entry rest ih =>
      obtain ⟨⟨fresh, spared⟩, onward⟩ := lasting
      obtain ⟨destroyed, next⟩ := Client.note_lasts entry here present fresh spared
      rw [← client_snoc] at next
      rw [show past ++ entry :: rest = past ++ [entry] ++ rest by simp]
      obtain ⟨later, there⟩ := ih onward next present
      exact ⟨later, there⟩

-- After a request the trackers are as the observers left them.
theorem request_turn_trackers (env : Env) (ambient : Ambient) (s next : Session) (msg : Bytes) (turn : RequestTurn env ambient s msg next) :
    (next = { s with objects := next.objects }) ∨ ∃ m created translated rewritten noted,
      RequestNoted env ambient s msg m created translated rewritten noted ∧ next.bufferFlow = noted.bufferFlow ∧
        next.pendingFrames = noted.pendingFrames ∧ next.grabs = noted.grabs := by
  cases turn with
  | dropped table rest unseen => exact .inl rest
  | stale m created translated rewritten noted noting failed is =>
      refine .inr ⟨m, created, translated, rewritten, noted, noting, ?_⟩
      have answered : (answerStaleSender env.protocol noted m created).bufferFlow = noted.bufferFlow ∧
          (answerStaleSender env.protocol noted m created).pendingFrames = noted.pendingFrames ∧
          (answerStaleSender env.protocol noted m created).grabs = noted.grabs := by
        unfold answerStaleSender
        split
        · have aside := synthesize_delete_id_aside env.protocol noted m.sender
          exact ⟨aside.bufferFlow, aside.pendingFrames, aside.grabs⟩
        · split
          · split
            · exact ⟨rfl, rfl, rfl⟩
            · rename_i c
              have aside := synthesize_frame_done_aside env.protocol noted c.guestId
              exact ⟨aside.bufferFlow, aside.pendingFrames, aside.grabs⟩
          · exact ⟨rfl, rfl, rfl⟩
      rw [is]
      cases created with
      | none => exact answered
      | some phantom =>
          obtain ⟨objects, -, rolled⟩ := roll_back_creation_some (answerStaleSender env.protocol noted m (some phantom)) m phantom
          rw [dropStaleSender, rolled]
          exact answered
  | passed m created translated rewritten out noted otherSide noting found outgoing is =>
      obtain ⟨-, grabs, flow, frames, -⟩ := forward_parts ambient noted m created (writeSenderId out otherSide)
      exact .inr ⟨m, created, translated, rewritten, noted, noting, by rw [is]; exact ⟨flow, frames, grabs⟩⟩

section Requests

variable (env : Env) (detailed : Detailed env.protocol) (ambient : Ambient) (s : Session) (msg : Bytes) (past : List Traffic)
  (agrees : Agrees env.protocol s.objects s.graph past)

include detailed agrees

-- The client reads its request as the proxy does.
theorem resolved_called (m : Inbound) (resolved : Resolved env.protocol s.objects .clientToHost (headerOf msg) msg m) :
    (client env.protocol past).call env.protocol msg = some (callOf env.protocol m.desc m.walk msg) := by
  obtain ⟨o, here, kind, -⟩ := sender_held env detailed s msg m resolved agrees
  rw [Client.call, here, Option.bind_some, kind]
  exact resolved_decode env s.objects .clientToHost msg m resolved

theorem resolved_destroys (m : Inbound) (resolved : Resolved env.protocol s.objects .clientToHost (headerOf msg) msg m)
    (destructor : m.desc.isDestructor = true) :
    Traffic.destroys env.protocol (client env.protocol past) (.took .gtk msg) = some m.sender := by
  simp only [Traffic.destroys, resolved_called env detailed s msg past agrees m resolved, Option.bind_some]
  rw [show (callOf env.protocol m.desc m.walk msg).desc.isDestructor = true from destructor,
    resolved_request env s.objects .clientToHost msg m resolved rfl]
  rfl

theorem noted_introduces (m : Inbound) (c : Creation) (translated rewritten : Bytes) (noted : Session)
    (noting : RequestNoted env ambient s msg m (some c) translated rewritten noted) :
    Traffic.introduces env.protocol (client env.protocol past) (.took .gtk msg) = some c.guestId := by
  simp only [Traffic.introduces, resolved_called env detailed s msg past agrees m noting.resolved, Option.bind_some]
  exact (noted_creation env ambient s msg m c translated rewritten noted noting).1

-- What follows a request deletes a new callback, or the sender that an
-- out-of-date destructor destroys.
theorem after_request_deletes (entry : Traffic) (after : AfterRequest env ambient s msg entry) (g : UInt32)
    (gone : entry.deletes env.protocol = some g) :
    Traffic.introduces env.protocol (client env.protocol past) (.took .gtk msg) = some g ∨
      Traffic.destroys env.protocol (client env.protocol past) (.took .gtk msg) = some g ∧
        (Traffic.introduces env.protocol (client env.protocol past) (.took .gtk msg) = none → s.objects.hostId g = none) := by
  rcases after with writes | ⟨m, created, translated, rewritten, noted, noting, failed, told⟩
  · cases entry with
    | sent m => simp [Traffic.deletes, writes.1] at gone
    | _ => cases writes
  · obtain ⟨interface, guestId, payload, answer, word⟩ := told.deletes detailed.toCovered gone
    rcases stale_answer_deletes answer rfl with ⟨destroys, sender⟩ | ⟨c, made, callback⟩
    · have same : m.sender = g := sender.symm.trans word
      refine .inr ⟨?_, fun absent => ?_⟩
      · rw [← same]
        exact resolved_destroys env detailed s msg past agrees m noting.resolved destroys
      · cases created with
        | some c =>
            rw [noted_introduces env detailed ambient s msg past agrees m c translated rewritten noted noting] at absent
            cases absent
        | none =>
            obtain ⟨graph, creates, -⟩ := noting.creates
            generalize noted.objects = objects at creates failed
            generalize noted.pendingDmabufPlanes = planes at creates
            cases creates with
            | nothing => rw [← same]; exact failed
    · subst made
      rw [noted_introduces env detailed ambient s msg past agrees m c translated rewritten noted noting, ← callback, word]
      exact .inl rfl

theorem noted_interface (m : Inbound) (created : Option Creation) (translated rewritten : Bytes) (noted : Session)
    (noting : RequestNoted env ambient s msg m created translated rewritten noted) (g : UInt32)
    (apart : Traffic.introduces env.protocol (client env.protocol past) (.took .gtk msg) ≠ some g) :
    noted.objects.interface g = s.objects.interface g := by
  obtain ⟨graph, creates, -⟩ := noting.creates
  generalize table : noted.objects = objects at creates
  generalize noted.pendingDmabufPlanes = planes at creates
  cases creates with
  | nothing quiet => rfl
  | object c offset recipe planes' located newId child next captured =>
      rw [ShadowTable.interface_map]
      split
      · rename_i same
        rw [same] at apart
        exact absurd (noted_introduces env detailed ambient s msg past agrees m c translated rewritten noted noting) apart
      · rfl

-- A request takes from the table only what it creates or destroys.
theorem request_turn_interface (next : Session) (turn : RequestTurn env ambient s msg next) (g : UInt32)
    (apart : g ∉ Traffic.turnover env.protocol (client env.protocol past) (.took .gtk msg)) :
    next.objects.interface g = s.objects.interface g := by
  simp only [mem_turnover, not_or] at apart
  obtain ⟨fresh, kept, -⟩ := apart
  cases turn with
  | dropped table rest unseen => exact table.interface g
  | stale m created translated rewritten noted noting failed is =>
      have before := noted_interface env detailed ambient s msg past agrees m created translated rewritten noted noting g fresh
      have answered : (answerStaleSender env.protocol noted m created).objects.interface g = noted.objects.interface g := by
        unfold answerStaleSender
        split
        · rename_i destructor
          have own : g ≠ m.sender := fun same => by
            rw [same] at kept
            exact kept (resolved_destroys env detailed s msg past agrees m noting.resolved destructor.2)
          rw [ShadowTable.interface_remove_guest, if_neg own, synthesize_delete_id_objects]
        · split
          · split
            · rfl
            · rw [synthesize_frame_done_objects]
          · rfl
      rw [is]
      cases created with
      | none => exact answered.trans before
      | some phantom =>
          obtain ⟨objects, same, rolled⟩ := roll_back_creation_some (answerStaleSender env.protocol noted m (some phantom)) m phantom
          have own : g ≠ phantom.guestId := fun same => by
            rw [same] at fresh
            exact fresh (noted_introduces env detailed ambient s msg past agrees m phantom translated rewritten noted noting)
          rw [dropStaleSender, rolled, ShadowTable.interface_remove_guest, if_neg own, same.interface]
          exact answered.trans before
  | passed m created translated rewritten out noted otherSide noting found outgoing is =>
      rw [is, (forward_parts ambient noted m created (writeSenderId out otherSide)).1]
      exact noted_interface env detailed ambient s msg past agrees m created translated rewritten noted noting g fresh

end Requests

section Events

variable (env : Env) (ambient : Ambient) (s : Session) (msg : Bytes) (next : Session)

theorem Relays.introduces {m : Inbound} {c : Creation} {deleted : Option UInt32} {renamed : Bytes} {sent : Sent}
    (relays : Relays env s msg m (some c) deleted renamed sent) (noted : Session)
    (noting : EventNoted env s msg m (some c) deleted renamed noted) (past : List Traffic) :
    Traffic.introduces env.protocol (client env.protocol past) (.sent sent) = some c.guestId := by
  have decoded := relays.decodes noted noting
  have event : m.direction = .hostToClient := noting.resolved.way
  have newId := (relays.outgoing.send m.sender).newId (callOf env.protocol m.desc m.walk sent.msg)
  rw [event, ← relays.interface, ← relays.bytes] at newId
  simp only [Traffic.introduces, relays.toClient, if_true, Sent.newId, Peer.toward, decoded, Option.bind_some]
  exact newId decoded

theorem Relays.announces_deletion {m : Inbound} {created : Option Creation} {guestId : UInt32} {renamed : Bytes} {sent : Sent}
    (relays : Relays env s msg m created (some guestId) renamed sent) (noted : Session)
    (noting : EventNoted env s msg m created (some guestId) renamed noted) (display : m.interface.name = "wl_display")
    (deletes : m.desc.name = "delete_id") (names : wordAt renamed headerLen = guestId) :
    Traffic.deletes env.protocol (.sent sent) = some guestId := by
  have decoded := relays.decodes noted noting
  have word : wordAt sent.msg headerLen = guestId := by
    rw [relays.bytes, word_at_write_sender _ _ _ relays.outgoing.long (by decide)]
    exact names
  have frees : Sent.frees env.protocol sent = true := by
    simp only [Sent.frees, relays.toClient, Peer.toward, decoded]
    simp [Ledger.frees, callOf, relays.interface, display, deletes]
  rw [Traffic.deletes, if_pos ⟨relays.toClient, frees⟩, word]

-- An event takes from the table only what the client is told is deleted.
theorem event_turn_interface (turn : EventTurn env ambient s msg next) (added : List Traffic) (grown : next.trace = s.trace ++ added)
    (g : UInt32) (steady : Steady env.protocol g s.trace added) : next.objects.interface g = s.objects.interface g := by
  cases turn with
  | unheard table books grabs trace => exact table.interface g
  | heard m created deleted renamed noted noting outgoing names is =>
      obtain ⟨asked, sent, asks, trace, relays⟩ := heard_adds env ambient s msg next m created deleted renamed noted noting outgoing is
      have whole : added = asked ++ [.sent sent] := by
        rw [trace, List.append_assoc] at grown
        exact (List.append_cancel_left grown).symm
      rw [whole] at steady
      have apart := ((lawful_append _ _ _ _).mp steady).2.1
      simp only [mem_turnover, not_or] at apart
      rw [is, (forward_parts ambient noted m created (writeSenderId renamed m.sender)).1]
      obtain ⟨objects, announces, same⟩ := noting.table
      rw [same.interface]
      cases announces with
      | nothing => rfl
      | deleted guestId display deletes found =>
          have own : g ≠ guestId := fun same => by
            rw [same] at apart
            exact apart.2.2 (relays.announces_deletion env s msg noted noting display deletes (names guestId rfl))
          rw [ShadowTable.interface_remove_guest, if_neg own]
      | announced c counted keeps =>
          have own : g ≠ s.objects.nextGuestServerId := fun same => by
            rw [same, ← counted] at apart
            exact apart.1 (relays.introduces env s msg noted noting _)
          rw [ShadowTable.interface_map, if_neg own]
          rfl

end Events

-- An object that neither comes nor goes stays listed.
theorem course_lists {env : Env} (detailed : Detailed env.protocol) {st next : State} {event : Event} (course : Course env st event next)
    (tidy : Tidy env st) (added : List Traffic) (grown : next.session.trace = st.session.trace ++ added) (g : UInt32)
    (steady : Steady env.protocol g st.session.trace added) (i : Interface) (known : st.session.objects.interface g = some i) :
    ∃ i', next.session.objects.interface g = some i' ∧ (i' = i ∨ i' ≠ wlCallback) := by
  cases course with
  | request s handled ambient msg consumed taken long turn =>
      have grows := request_turn_grows env ambient (s.log (.took .gtk msg)) msg handled turn
      have apart : g ∉ Traffic.turnover env.protocol (client env.protocol s.trace) (.took .gtk msg) := by
        obtain ⟨more, is⟩ := grows
        have whole : s.trace ++ .took .gtk msg :: more = s.trace ++ added := by
          rw [← grown, drain_buf_trace, ← is]
          simp [Session.log]
        rw [← List.append_cancel_left whole] at steady
        exact steady.1
      refine ⟨i, ?_, .inl rfl⟩
      rw [drain_buf_objects, request_turn_interface env detailed ambient (s.log (.took .gtk msg)) msg s.trace tidy.tended.agrees handled turn g apart]
      exact known
  | event s handled ambient msg consumed taken long turn =>
      obtain ⟨more, is⟩ := event_turn_grows env ambient (s.log (.took .host msg)) msg handled turn
      have whole : s.trace ++ .took .host msg :: more = s.trace ++ added := by
        rw [← grown, drain_buf_trace, ← is]
        simp [Session.log]
      rw [← List.append_cancel_left whole] at steady
      refine ⟨i, ?_, .inl rfl⟩
      rw [drain_buf_objects, event_turn_interface env ambient (s.log (.took .host msg)) msg handled turn more is.symm g steady.2]
      exact known
  | discarded s h r ambient msg consumed taken _ still => exact still.lists g i known
  | settled s r ambient done =>
      refine ⟨i, ?_, .inl rfl⟩
      rw [show (resume env.protocol ambient.order (settleRecovery env.protocol ambient.order r.globals s)).session.objects = s.objects from
        (synthesize_grab_releases_objects _ _ _).trans (settle_recovery_objects _ _ _ _)]
      exact known
  | unregistered s begun ambient outcomes absent still table =>
      obtain ⟨i', kept⟩ := still.lists g i known
      refine ⟨i', ?_⟩
      rw [show (resume env.protocol ambient.order begun).session.objects = begun.objects from synthesize_grab_releases_objects _ _ _]
      exact kept
  | still _ _ _ still => exact still.lists g i known

-- Under the interface it has.
theorem listed_along {env : Env} (detailed : Detailed env.protocol) {st next : State} {event : Event} (course : Course env st event next)
    (tidy : Tidy env st) (tidy' : Tidy env next) (added : List Traffic) (grown : next.session.trace = st.session.trace ++ added)
    (g : UInt32) (steady : Steady env.protocol g st.session.trace added) (i : Interface)
    (held : (client env.protocol st.session.trace).Holds g i) (listed : st.session.objects.interface g = some i) :
    next.session.objects.interface g = some i ∧ (client env.protocol next.session.trace).Holds g i := by
  have held' : (client env.protocol next.session.trace).Holds g i := by
    rw [grown]
    exact steady_holds added steady held
  obtain ⟨i', known, same | other⟩ := course_lists detailed course tidy added grown g steady i listed
  · exact ⟨by rw [known, same], held'⟩
  · rcases tidy'.tended.agrees.table g i' known with holds | spent
    · exact ⟨by rw [known, holds_interface holds held'], held'⟩
    · exact absurd spent.1 other

end WlResprox
