import WlResprox.Told

set_option autoImplicit false

namespace WlResprox

-- The object an entry has the client destroy: a destructor's sender.
def Traffic.destroys (p : Protocol) (c : Client) : Traffic → Option UInt32
  | .took .gtk msg | .skimmed .gtk msg => (c.call p msg).bind fun call => if call.desc.isDestructor then some (senderOf msg) else none
  | _ => none

-- The host says that the object the client has under this id is deleted.
def HostDeletes (p : Protocol) (objects : ShadowTable) (msg : Bytes) (g : UInt32) : Prop :=
  ∃ sender display call, objects.guestId (senderOf msg) = some sender ∧ objects.interface sender = some display ∧
    decode p .hostToClient display msg = some call ∧ Ledger.frees display call = true ∧
    objects.guestId (wordAt msg headerLen) = some g

section Objects

variable {p : Protocol} {c : Client} {g : UInt32} {o : ClientObject}

theorem Client.create_kept (call : Call) (here : c.objects g = some o) (other : call.newId ≠ some g) :
    (c.create call).objects g = some o := by
  rw [Client.create_other call other]
  exact here

theorem Client.destroy_other (id : UInt32) (other : id ≠ g) : (c.destroy id).objects g = c.objects g := by
  unfold Client.destroy
  split
  · rfl
  · exact Client.set_other _ _ _ _ fun same => other same.symm

theorem Client.delete_other (id : UInt32) (other : id ≠ g) : (c.delete id).objects g = c.objects g := by
  unfold Client.delete
  split
  · rfl
  · split
    · rfl
    · exact Client.set_other _ _ _ _ fun same => other same.symm

-- An entry about other objects leaves this one as it is.
theorem Client.note_kept (entry : Traffic) (here : c.objects g = some o) (fresh : entry.introduces p c ≠ some g)
    (spared : entry.deletes p ≠ some g) (kept : entry.destroys p c ≠ some g) : (c.note p entry).objects g = some o := by
  have asked : ∀ msg, (c.call p msg).bind Call.newId ≠ some g →
      ((c.call p msg).bind fun call => if call.desc.isDestructor then some (senderOf msg) else none) ≠ some g →
      (c.request p msg).objects g = some o := by
    intro msg unused other
    unfold Client.request
    split
    · exact here
    · rename_i call called
      rw [called, Option.bind_some] at unused other
      split
      · rename_i destructor
        rw [if_pos destructor] at other
        rw [Client.destroy_other _ fun same => other (by rw [same])]
        exact Client.create_kept call here unused
      · exact Client.create_kept call here unused
  show (c.hear p entry).objects g = some o
  cases entry with
  | took peer msg =>
      cases peer
      · exact asked msg fresh kept
      · exact here
  | skimmed peer msg =>
      cases peer
      · exact asked msg fresh kept
      · exact here
  | sent m =>
      simp only [Client.hear]
      split
      · rename_i toClient
        have unused : m.newId p ≠ some g := by simpa [Traffic.introduces, toClient] using fresh
        unfold Client.event
        split
        · exact here
        · rename_i call decoded
          have decoded' : decode p m.peer.toward m.interface m.msg = some call := by
            rw [toClient]
            exact decoded
          split
          · rename_i frees
            rw [Client.delete_other _ fun same => spared ?_]
            · exact here
            · simp [Traffic.deletes, toClient, Sent.frees, Peer.toward, decoded, frees, same]
          · refine Client.create_kept call here ?_
            simpa [Sent.newId, decoded'] using unused
      · exact here
  | _ => exact here

-- An object that is neither replaced nor deleted lasts, destroyed or not.
theorem Client.note_lasts (entry : Traffic) (here : c.objects g = some o) (present : o.deleted = false)
    (fresh : entry.introduces p c ≠ some g) (spared : entry.deletes p ≠ some g) :
    ∃ destroyed, (c.note p entry).objects g = some { o with destroyed := destroyed } := by
  have asked : ∀ msg, (c.call p msg).bind Call.newId ≠ some g →
      ∃ destroyed, (c.request p msg).objects g = some { o with destroyed := destroyed } := by
    intro msg unused
    unfold Client.request
    split
    · exact ⟨o.destroyed, here⟩
    · rename_i call called
      rw [called, Option.bind_some] at unused
      have created := Client.create_kept call here unused
      split
      · by_cases own : senderOf msg = g
        · refine ⟨true, ?_⟩
          rw [own, Client.destroy, created]
          simp [Client.set, present]
        · exact ⟨o.destroyed, (Client.destroy_other _ own).trans created⟩
      · exact ⟨o.destroyed, created⟩
  have same : ∀ d : Client, d.objects g = some o → ∃ destroyed, d.objects g = some { o with destroyed := destroyed } :=
    fun d here => ⟨o.destroyed, here⟩
  show ∃ destroyed, (c.hear p entry).objects g = some { o with destroyed := destroyed }
  cases entry with
  | took peer msg =>
      cases peer
      · exact asked msg fresh
      · exact same _ here
  | skimmed peer msg =>
      cases peer
      · exact asked msg fresh
      · exact same _ here
  | sent m => exact same _ (Client.note_kept (.sent m) here fresh spared nofun)
  | _ => exact same _ here

end Objects

theorem client_kept {p : Protocol} {past : List Traffic} {g : UInt32} {o : ClientObject} (here : (client p past).objects g = some o)
    (entry : Traffic) (lawful : UnusedId p past entry) (spared : entry.deletes p ≠ some g)
    (kept : entry.destroys p (client p past) ≠ some g) : (client p (past ++ [entry])).objects g = some o := by
  rw [client_snoc]
  refine Client.note_kept entry here (fun introduced => ?_) spared kept
  have free := (lawful g introduced).2
  rw [here] at free
  cases free

-- What a turn on a request adds after the request itself.
def AfterRequest (env : Env) (ambient : Ambient) (s : Session) (msg : Bytes) (entry : Traffic) : Prop :=
  Writes .host (fun _ => True) entry ∨ ∃ m created translated rewritten noted,
    RequestNoted env ambient s msg m created translated rewritten noted ∧ noted.objects.hostId m.sender = none ∧
      entry.Told env.protocol (StaleAnswer m created)

section Turning

variable (env : Env) (ambient : Ambient) (s : Session) (msg : Bytes) (next : Session)

theorem request_turn_adds (turn : RequestTurn env ambient s msg next) : Adds (AfterRequest env ambient s msg) s next := by
  cases turn with
  | dropped table rest unseen => exact .same (by rw [rest])
  | stale m created translated rewritten noted noting failed is =>
      have told : Adds (AfterRequest env ambient s msg) noted next := by
        rw [is]
        exact (drop_stale_sender_told noted m created).adds fun entry answers =>
          .inr ⟨m, created, translated, rewritten, noted, noting, failed, answers⟩
      exact (Adds.same noting.trace).trans told
  | passed m created translated rewritten out noted otherSide noting found outgoing is =>
      obtain ⟨fds, outcome, trace⟩ := forward_trace ambient noted m created (writeSenderId out otherSide)
      have request : m.direction = .clientToHost := noting.resolved.way
      refine ⟨if live noted m.direction then [.sent ⟨m.direction.dst, .relayed, m.interface, writeSenderId out otherSide, fds, outcome⟩]
        else [], fun entry member => .inl ?_, ?_⟩
      · split at member
        · rw [List.mem_singleton.mp member, request]
          exact ⟨rfl, trivial⟩
        · cases member
      · rw [is, trace, noting.trace]
        split
        · rfl
        · rw [List.append_nil]

-- A relayed event, as it is written to the client.
structure Relays (env : Env) (s : Session) (msg : Bytes) (m : Inbound) (created : Option Creation) (deleted : Option UInt32)
    (renamed : Bytes) (sent : Sent) : Prop where
  toClient : sent.peer = .gtk
  relayed : sent.origin = .relayed
  interface : sent.interface = m.interface
  bytes : sent.msg = writeSenderId renamed m.sender
  outgoing : Outgoing env.protocol s.objects m created renamed

theorem heard_adds (m : Inbound) (created : Option Creation) (deleted : Option UInt32) (renamed : Bytes) (noted : Session)
    (noting : EventNoted env s msg m created deleted renamed noted) (outgoing : Outgoing env.protocol s.objects m created renamed)
    (is : next = (forward ambient noted m created (writeSenderId renamed m.sender)).2) :
    ∃ asked sent, (∀ entry ∈ asked, OwnRequest entry) ∧ next.trace = s.trace ++ asked ++ [.sent sent] ∧
      Relays env s msg m created deleted renamed sent := by
  obtain ⟨fds, outcome, trace⟩ := forward_trace ambient noted m created (writeSenderId renamed m.sender)
  obtain ⟨asked, asks, grown⟩ := noting.trace
  have event : m.direction = .hostToClient := noting.resolved.way
  have passes : live noted m.direction = true := by rw [event]; rfl
  rw [if_pos passes, grown] at trace
  refine ⟨asked, _, asks, by rw [is]; exact trace, ?_, rfl, rfl, rfl, outgoing⟩
  rw [event]
  rfl

-- What the client reads of a relayed event.
theorem Relays.reads {env : Env} {s : Session} {msg : Bytes} {m : Inbound} {created : Option Creation} {deleted : Option UInt32}
    {renamed : Bytes} {sent : Sent} (relays : Relays env s msg m created deleted renamed sent)
    (resolved : Resolved env.protocol s.objects .hostToClient (headerOf msg) msg m) (call : Call)
    (decoded : decode env.protocol .hostToClient sent.interface sent.msg = some call) :
    call.desc = m.desc ∧ senderOf sent.msg = m.sender := by
  have opcode := (relays.outgoing.send m.sender).opcode
  have listed := resolved_listed env s.objects .hostToClient msg m resolved
  rw [relays.interface, relays.bytes] at decoded
  obtain ⟨walk, here, -, -⟩ := decode_inv _ _ _ _ _ decoded
  rw [opcode, resolved.head] at here
  refine ⟨(Option.some.inj (listed.symm.trans here)).symm, ?_⟩
  rw [relays.bytes]
  exact sender_of_written renamed m.sender relays.outgoing.long

theorem Relays.decodes {env : Env} {s : Session} {msg : Bytes} {m : Inbound} {created : Option Creation} {deleted : Option UInt32}
    {renamed : Bytes} {sent : Sent} (relays : Relays env s msg m created deleted renamed sent) (noted : Session)
    (noting : EventNoted env s msg m created deleted renamed noted) :
    decode env.protocol .hostToClient sent.interface sent.msg = some (callOf env.protocol m.desc m.walk sent.msg) := by
  have opcode := (relays.outgoing.send m.sender).opcode
  have listed := resolved_listed env s.objects .hostToClient msg m noting.resolved
  rw [relays.interface, relays.bytes]
  refine decode_some _ _ _ _ _ _ ?_ ?_
  · rw [opcode, noting.resolved.head]
    exact listed
  · rw [payload_of_written]
    exact noting.walks

-- A relayed event that deletes says what the host said.
theorem Relays.deletes {env : Env} {s : Session} {msg : Bytes} {m : Inbound} {created : Option Creation} {deleted : Option UInt32}
    {renamed : Bytes} {sent : Sent} (relays : Relays env s msg m created deleted renamed sent) (noted : Session)
    (noting : EventNoted env s msg m created deleted renamed noted)
    (names : ∀ guestId, deleted = some guestId → wordAt renamed headerLen = guestId) (g : UInt32)
    (gone : Traffic.deletes env.protocol (.sent sent) = some g) : HostDeletes env.protocol s.objects msg g ∧ deleted = some g := by
  have resolved := noting.resolved
  have frees : (m.interface.name = "wl_display" ∧ m.desc.name = "delete_id") ∧ g = wordAt renamed headerLen := by
    obtain ⟨peer, origin, interface, bytes, fds, outcome⟩ := sent
    obtain ⟨rfl, rfl, rfl, rfl, outgoing⟩ := relays
    exact relayed_event_deletes env s msg m resolved created renamed outgoing fds outcome g gone
  obtain ⟨table, announces, -⟩ := noting.table
  cases announces with
  | nothing quiet keeps => exact absurd frees.1 keeps
  | announced c next keeps => exact absurd frees.1 keeps
  | deleted guestId display deletes found =>
      have same : g = guestId := frees.2.trans (names guestId rfl)
      rw [same]
      exact ⟨⟨m.sender, m.interface, _, resolved_event env s.objects _ msg m resolved rfl, resolved_interface env s.objects _ msg m resolved,
        resolved_decode env s.objects _ msg m resolved, by simp [Ledger.frees, callOf, display, deletes], found⟩, rfl⟩

end Turning

end WlResprox
