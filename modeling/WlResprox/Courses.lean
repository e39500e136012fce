import WlResprox.Tending

set_option autoImplicit false

namespace WlResprox

-- Entries that take nothing from the client and tell it of nothing but a
-- configure.
def Traffic.Quiet (p : Protocol) : Traffic → Prop
  | .took .gtk _ | .skimmed .gtk _ | .resumed => False
  | .sent m => m.peer = .gtk → ∃ guestId opcode payload, eventOpcode p m.interface "configure" = some opcode ∧
      m.msg = buildMessage guestId opcode payload
  | _ => True

-- What is listed stays listed. Recovery lists no callbacks.
def Lists (t t' : ShadowTable) : Prop :=
  ∀ g i, t.interface g = some i → ∃ i', t'.interface g = some i' ∧ (i' = i ∨ i' ≠ wlCallback)

theorem Lists.same {t t' : ShadowTable} (interface : ∀ g, t'.interface g = t.interface g) : Lists t t' :=
  fun g i known => ⟨i, by rw [interface]; exact known, .inl rfl⟩

theorem Lists.trans {t t' t'' : ShadowTable} (first : Lists t t') (second : Lists t' t'') : Lists t t'' := by
  intro g i known
  obtain ⟨i', known', same | other⟩ := first g i known
  · subst same
    exact second g i' known'
  · obtain ⟨i'', known'', same | other'⟩ := second g i' known'
    · exact ⟨i'', known'', .inr (by rw [same]; exact other)⟩
    · exact ⟨i'', known'', .inr other'⟩

-- A stretch that leaves the trackers as they are.
structure Still (p : Protocol) (s s' : Session) : Prop where
  lists : Lists s.objects s'.objects
  books : SameBooks s s'
  grabs : s'.grabs = s.grabs
  adds : Adds (Traffic.Quiet p) s s'

namespace Still

variable {p : Protocol} {s s' s'' : Session}

theorem refl (s : Session) : Still p s s := ⟨.same fun _ => rfl, .refl s, rfl, .same rfl⟩

theorem trans (first : Still p s s') (second : Still p s' s'') : Still p s s'' :=
  ⟨first.lists.trans second.lists, first.books.trans second.books, second.grabs.trans first.grabs, first.adds.trans second.adds⟩

theorem same (objects : s'.objects = s.objects) (books : SameBooks s s') (grabs : s'.grabs = s.grabs)
    (adds : Adds (Traffic.Quiet p) s s') : Still p s s' := ⟨.same fun _ => by rw [objects], books, grabs, adds⟩

theorem read (s : Session) (peer : Peer) (c : Conn) : Still p s (s.setConn peer c) := .same rfl (.read s peer c) rfl (.same rfl)

theorem log (s : Session) (entry : Traffic) (quiet : entry.Quiet p) : Still p s (s.log entry) :=
  .same rfl ⟨rfl, rfl, rfl, rfl⟩ rfl (.log s entry quiet)

theorem ended (s : Session) (peer : Peer) : Still p s (endWait s peer) := .log s _ trivial

theorem skimmed (s : Session) (consumed : Nat) (msg : Bytes) : Still p s (skimmed s .host consumed msg) :=
  .same rfl (.took s .host consumed msg) rfl (.skimmed s .host consumed msg trivial)

theorem wrote {peer : Peer} {origin : Origin} {interface : Interface} {msg : Bytes} {fds : List Fd} {done : Bool}
    (result : s.writeMessage peer origin interface msg fds = (done, s'))
    (quiet : ∀ outcome, Traffic.Quiet p (.sent ⟨peer, origin, interface, msg, fds, outcome⟩)) : Still p s s' := by
  have adds : Adds (Traffic.Quiet p) s s' := .wrote result quiet
  cases result
  exact .same rfl ⟨rfl, rfl, rfl, rfl⟩ rfl adds

theorem objects (s : Session) (objects : ShadowTable) (lists : Lists s.objects objects) : Still p s { s with objects := objects } :=
  ⟨lists, ⟨rfl, rfl, rfl, rfl⟩, rfl, .same rfl⟩

end Still

theorem lists_map (t : ShadowTable) (guestId hostId : UInt32) (interface : Interface) (other : interface ≠ wlCallback) :
    Lists t (t.map guestId hostId interface) := by
  intro g i known
  rw [ShadowTable.interface_map]
  split
  · exact ⟨interface, rfl, .inr other⟩
  · exact ⟨i, known, .inl rfl⟩

section Waiting

variable (p : Protocol) (s : Session)

theorem heed_registry_still (w : RegistryWait) (registry : w.registry = wlRegistry) (msg : Bytes) :
    Still p s (heedRegistry s w msg).session := by
  unfold heedRegistry
  split
  · exact .refl s
  · split
    · exact (Still.ended s .host).trans (.objects (endWait s .host) _ (lists_map _ _ _ _ (by rw [registry]; decide)))
    · exact .refl s

theorem heed_configure_still (h : Handshake) (r : Replay) (msg : Bytes) : Still p s (heedConfigure p s h r msg).session := by
  have passes : ∀ guestId interface, some (opcodeOfMessage msg) = eventOpcode p interface "configure" →
      ∀ done s', passToClient s guestId interface msg = (done, s') → Still p s s' :=
    fun guestId interface heeds done s' result => .wrote result fun outcome _ => ⟨guestId, _, _, heeds.symm, rfl⟩
  unfold heedConfigure
  split
  · rename_i heeds
    split
    · rename_i written wrote
      exact passes _ _ heeds.2 _ _ wrote
    · rename_i failed wrote
      exact (passes _ _ heeds.2 _ _ wrote).trans (.ended _ _)
  · split
    · rename_i heeds
      split
      · rename_i written wrote
        exact (passes _ _ heeds.2 _ _ wrote).trans (.ended _ _)
      · rename_i failed wrote
        exact (passes _ _ heeds.2 _ _ wrote).trans (.ended _ _)
    · exact .refl s

theorem heed_ack_still (h : Handshake) (r : Replay) (msg : Bytes) : Still p s (heedAck p s h r msg).session := by
  unfold heedAck
  split
  · have acked : Still p s (s.writeMessage .host .relayed h.xdgSurface
        (buildMessage h.xdgSurfaceHostId (opcodeOfMessage msg) (msg.drop headerLen)) []).2 := .wrote rfl nofun
    exact acked.trans (.ended _ _)
  · exact .refl s

theorem ask_for_globals_still (registryGuestId : UInt32) : Still p s (askForGlobals s registryGuestId).2 := by
  have toHost : ∀ {origin interface msg fds} outcome, Traffic.Quiet p (.sent ⟨.host, origin, interface, msg, fds, outcome⟩) :=
    fun _ toClient => by cases toClient
  have allocated : Still p s { s with objects := s.objects.allocateHostId.2.allocateHostId.2 } := .objects s _ (.same fun _ => rfl)
  simp only [askForGlobals]
  split
  · rename_i failed wrote
    exact allocated.trans (.wrote wrote toHost)
  · rename_i asked wrote
    exact (allocated.trans (.wrote wrote toHost)).trans (.wrote rfl toHost)

end Waiting

-- What a step is to an observer of the client's objects.
inductive Course (env : Env) : State → Event → State → Prop where
  | request (s handled : Session) (ambient : Ambient) (msg : Bytes) (consumed : Nat)
      (taken : takeMessage s.gtk.readBuf = some (msg, consumed)) (long : headerLen ≤ msg.length)
      (turn : RequestTurn env ambient (s.log (.took .gtk msg)) msg handled) :
      Course env ⟨s, .relaying .clientToHost⟩ (.turn ambient) ⟨handled.drainBuf .gtk consumed, .relaying .clientToHost⟩
  | event (s handled : Session) (ambient : Ambient) (msg : Bytes) (consumed : Nat)
      (taken : takeMessage s.host.readBuf = some (msg, consumed)) (long : headerLen ≤ msg.length)
      (turn : EventTurn env ambient (s.log (.took .host msg)) msg handled) :
      Course env ⟨s, .relaying .hostToClient⟩ (.turn ambient) ⟨handled.drainBuf .host consumed, .relaying .hostToClient⟩
  | discarded (s : Session) (h : Handshake) (r : Replay) (ambient : Ambient) (msg : Bytes) (consumed : Nat)
      (taken : takeMessage s.gtk.readBuf = some (msg, consumed)) (next : State)
      (still : Still env.protocol (skimmed s .gtk consumed msg) next.session) :
      Course env ⟨s, .awaitingAck h r⟩ (.turn ambient) next
  | settled (s : Session) (r : Replay) (ambient : Ambient) (done : r.rest = []) :
      Course env ⟨s, .replaying r⟩ (.turn ambient)
        (resume env.protocol ambient.order (settleRecovery env.protocol ambient.order r.globals s))
  | unregistered (s begun : Session) (ambient : Ambient) (outcomes : List WriteOutcome)
      (absent : s.objects.bumpGeneration.findGuestIdByInterfaceName ambient.order "wl_registry" = none)
      (still : Still env.protocol s begun) (table : begun.objects = s.objects.bumpGeneration) :
      Course env ⟨s, .selecting⟩ (.reconnect ambient outcomes) (resume env.protocol ambient.order begun)
  | still (st : State) (event : Event) (next : State) (still : Still env.protocol st.session next.session) : Course env st event next

section Stepping

variable {env : Env} (detailed : Detailed env.protocol) {st next : State} {event : Event}

include detailed

theorem replay_turn_course (ambient : Ambient) (s : Session) (r : Replay) (tidy : Tidy env ⟨s, .replaying r⟩) :
    Course env ⟨s, .replaying r⟩ (.turn ambient) (replayTurn env.protocol ambient.order s r) := by
  unfold replayTurn
  split
  · rename_i done
    exact .settled s r ambient done
  · rename_i guestId recipe rest more
    have replays : ∀ t handshake, replayRecipe env.protocol r.globals r.registry r.registryHostId s guestId recipe = some (t, handshake) →
        Still env.protocol s t := by
      intro t handshake replayed
      have frame := replay_recipe_frame env.protocol s r.globals r.registry r.registryHostId guestId recipe t _ replayed
      have remaps := replay_recipe_remaps detailed.toCovered (tidy.ready.fresh rfl) guestId t r.globals r.registry r.registryHostId recipe _ replayed
      have listed := (tidy.tended.agrees.recipes _ (tidy.tended.rest (guestId, recipe) (by rw [Control.rest, more]; exact List.mem_cons_self))).2
      have other : recipe.interface ≠ wlCallback := by
        intro callback
        rw [callback] at listed
        exact absurd listed (by decide)
      refine ⟨?_, Replays.books frame, frame.kept.grabs, frame.frame.adds fun entry writes => ?_⟩
      · generalize t.objects = objects at remaps
        cases remaps with
        | left => exact .same fun _ => rfl
        | mapped =>
            refine Lists.trans ?_ (lists_map _ _ _ _ other)
            exact .same fun _ => rfl
      · cases entry with
        | sent m =>
            intro toClient
            rw [writes.1] at toClient
            cases toClient
        | _ => cases writes
    split
    · exact .still _ _ _ (.refl s)
    · rename_i t replayed
      exact .still _ _ _ (replays t _ replayed)
    · rename_i t handshake replayed
      exact .still _ _ _ (replays t _ replayed)

omit detailed in
theorem begin_recovery_course (ambient : Ambient) (outcomes : List WriteOutcome) (s : Session) :
    Course env ⟨s, .selecting⟩ (.reconnect ambient outcomes) (beginRecovery env.protocol ambient.order (reconnected s outcomes)) := by
  let begun := { reconnected s outcomes with reclaim := { s.reclaim with activeSourceHostId := none } }
  have still : Still env.protocol s begun :=
    ⟨lists_map s.objects 1 1 wlDisplay (by decide), ⟨rfl, rfl, rfl, rfl⟩, rfl, ⟨[.reconnected], by simp [Traffic.Quiet], rfl⟩⟩
  simp only [beginRecovery]
  split
  · rename_i absent
    exact .unregistered s begun ambient outcomes absent still rfl
  · rename_i registryGuestId found
    split
    · exact .still _ _ _ still
    · have asks := ask_for_globals_still env.protocol begun registryGuestId
      split
      · rename_i failed asked
        rw [show askForGlobals begun registryGuestId = (false, failed) from asked] at asks
        exact .still _ _ _ (still.trans asks)
      · rename_i written asked
        rw [show askForGlobals begun registryGuestId = (true, written) from asked] at asks
        exact .still _ _ _ (still.trans asks)

theorem transition_course (transition : Transition env st event next) (tidy : Tidy env st) : Course env st event next := by
  cases transition with
  | readClient s fill c | readAck s fill c => exact .still _ _ _ (Still.read s .gtk c)
  | readHost s fill c | readRegistry s fill c | readConfigure s fill c => exact .still _ _ _ (Still.read s .host c)
  | clientGone | relayDone => exact .still _ _ _ (.refl _)
  | hostGone s =>
      have froze : Still env.protocol s { s with frozen := true } := .same rfl ⟨rfl, rfl, rfl, rfl⟩ rfl (.same rfl)
      exact .still _ _ _ (froze.trans (.log _ _ trivial))
  | ackGone s | ackLapse s => exact .still _ _ _ (Still.ended s .gtk)
  | registryGone s | configureGone s | configureLapse s => exact .still _ _ _ (Still.ended s .host)
  | relayed s handled direction ambient disposal turned =>
      cases direction with
      | clientToHost =>
          obtain ⟨msg, consumed, answered, taken, long, turn, rfl⟩ := relay_turn_request env detailed.toCovered ambient s handled disposal turned
          exact .request s answered ambient msg consumed taken long turn
      | hostToClient =>
          obtain ⟨msg, consumed, answered, taken, long, turn, rfl⟩ := relay_turn_event env detailed.toCovered ambient s handled disposal turned
          exact .event s answered ambient msg consumed taken long turn
  | skimRegistry s w ambient msg consumed => exact .still _ _ _ ((Still.skimmed s consumed msg).trans (heed_registry_still _ _ w tidy.ready.prepared.2 msg))
  | skimConfigure s h r ambient msg consumed =>
      exact .still _ _ _ ((Still.skimmed s consumed msg).trans (heed_configure_still _ _ h r msg))
  | skimAck s h r ambient msg consumed taken => exact .discarded s h r ambient msg consumed taken _ (heed_ack_still _ _ h r msg)
  | replayed s r ambient => exact replay_turn_course detailed ambient s r tidy
  | reconnect s ambient outcomes frozen => exact begin_recovery_course ambient outcomes s
  | cached s control mimeType bytes => exact .still _ _ _ (.same rfl ⟨rfl, rfl, rfl, rfl⟩ rfl (.same rfl))

end Stepping

end WlResprox
