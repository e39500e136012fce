import WlResprox.Assembly

set_option autoImplicit false

namespace WlResprox

theorem quiet_not_client {p : Protocol} (entry : Traffic) (quiet : entry.Quiet p) : entry.fromClient = false := by
  cases entry with
  | took peer msg | skimmed peer msg =>
      cases peer
      · cases quiet
      · rfl
  | _ => rfl

section Events

variable {env : Env} (ambient : Ambient) (s next : Session) (msg : Bytes) {attached : Nat → List Fd}

theorem event_turn_gathers (turn : EventTurn env ambient s msg next)
    (gathers : Gathers env.protocol attached s.objects s.graph s.pendingDmabufPlanes s.trace) :
    Gathers env.protocol attached next.objects next.graph next.pendingDmabufPlanes next.trace := by
  cases turn with
  | unheard table books grabs trace =>
      obtain ⟨added, served, grown⟩ := trace
      rw [books.graph, books.pendingDmabufPlanes, grown]
      refine (gathers.fewer (.same table) fun _ member _ => member).onward added fun entry member => ?_
      have serves := served entry member
      cases entry with
      | served => rfl
      | _ => cases serves
  | heard m created deleted renamed noted noting outgoing names is =>
      have event : m.direction = .hostToClient := noting.resolved.way
      obtain ⟨fds, graph, planes⟩ := forward_retains ambient noted m created (writeSenderId renamed m.sender)
      have pools : retainPool noted.graph m ((writeSenderId renamed m.sender).drop headerLen) created fds = noted.graph := by
        simp [retainPool, Inbound.isRequest, event]
      have kept : retainPlane noted.pendingDmabufPlanes m ((writeSenderId renamed m.sender).drop headerLen) fds =
          noted.pendingDmabufPlanes := by
        simp [retainPlane, Inbound.isRequest, event]
      obtain ⟨asked, sent, asks, trace, relays⟩ := heard_adds env ambient s msg next m created deleted renamed noted noting outgoing is
      have idle : ∀ entry ∈ asked, entry.fromClient = false := by
        intro entry member
        have own := asks entry member
        cases entry with
        | sent => rfl
        | _ => cases own
      have idles : ∀ entry ∈ [Traffic.sent sent], entry.fromClient = false := fun entry member => by
        obtain rfl := List.mem_singleton.mp member
        rfl
      rw [trace]
      rw [is, (forward_parts ambient noted m created (writeSenderId renamed m.sender)).1, graph, planes, pools, kept, noting.graph,
        noting.pendingDmabufPlanes]
      have onward := gathers.onward asked idle
      obtain ⟨objects, announces, same⟩ := noting.table
      refine Gathers.fewer ?_ (.same same) fun _ member _ => member
      cases announces with
      | nothing => exact onward.onward _ idles
      | deleted guestId display deletes found => exact (onward.removed guestId).onward _ idles
      | announced c counted keeps =>
          refine ⟨fun g x opened after => ?_, ((onward.onward _ idles).fewer (.same (.refl _)) fun _ member _ => member).buffers⟩
          rcases opens_mapped _ _ _ _ g opened with before | ⟨own, -⟩
          · exact (onward.onward _ idles).params g x before after
          · -- What the host creates comes without planes.
            have introduces := relays.introduces env s msg noted noting (s.trace ++ asked)
            rw [counted, ← own] at introduces
            rw [(gatherings_idle (s.trace ++ asked) (.sent sent) (not_asked rfl _)).1, introduces] at after
            simp [Gatherings.renew] at after

end Events

-- Recovery brings no params object back.
theorem replayed_opens {p : Protocol} (covered : Covered p) (s t : Session) (fresh : Fresh s.objects) (globals : Globals)
    (registry : Interface) (registryHostId guestId : UInt32) (recipe : Recreatable) (handshake : Option Handshake)
    (replayed : replayRecipe p globals registry registryHostId s guestId recipe = some (t, handshake)) :
    OpensNoMore s.objects t.objects := by
  have remaps := replay_recipe_remaps covered fresh guestId t globals registry registryHostId recipe handshake replayed
  have mapped : recipe.interface ≠ bufferParams → OpensNoMore s.objects t.objects := by
    intro other
    generalize t.objects = objects at remaps
    cases remaps with
    | left => exact .same ⟨fun _ => rfl, fun _ => rfl, fun _ => rfl, fun _ => rfl⟩
    | mapped hostId own =>
        have numbered : SameTable s.objects (s.objects.numbered (hostId + 1)) := ⟨fun _ => rfl, fun _ => rfl, fun _ => rfl, fun _ => rfl⟩
        exact (OpensNoMore.same numbered).trans (opens_mapped_other _ _ _ _ other)
  cases recipe with
  | global interface version =>
      by_cases params : interface = bufferParams
      · subst params
        have spared : ¬ bufferParams.name ∈ recreatableGlobals := by decide
        simp only [replayRecipe, recreateGlobal, if_neg spared, Option.map_some, Option.some.injEq, Prod.mk.injEq] at replayed
        rw [← replayed.1]
        exact fun _ opened => opened
      · exact mapped params
  | seatDevice seat kind => cases kind <;> exact mapped (by simp [Recreatable.interface, SeatDeviceKind.interface, bufferParams])
  | _ => exact mapped (by simp [Recreatable.interface, bufferParams])

theorem bumped_closed (t : ShadowTable) (null : t.interface 0 = none) (g : UInt32) : ¬ OpenParams t.bumpGeneration g := by
  rintro ⟨listed, hosted⟩
  have known : (t.map 1 1 wlDisplay).interface g = some bufferParams := listed
  have named : g ≠ 0 := by
    rintro rfl
    rw [ShadowTable.interface_map, if_neg (by decide), null] at known
    cases known
  obtain ⟨h, found⟩ := Option.isSome_iff_exists.mp hosted
  obtain ⟨display, -⟩ := (ShadowTable.host_id_bump t g h named).mp found
  rw [ShadowTable.interface_map, if_pos display] at known
  exact absurd known (by decide)

-- Each add comes with its descriptor, and finds it at the head of the queue.
def AddsArrive (p : Protocol) (attached : Nat → List Fd) (st : State) (event : Event) : Prop :=
  match event, st.control with
  | .turn _, .relaying .clientToHost => ∀ taken, takeMessage st.session.gtk.readBuf = some taken →
      ∀ a, Traffic.asked p (client p st.session.trace) (.took .gtk taken.1) = some a → a.isA bufferParams "add" = true →
        ∃ fd, attached (gatherings p attached st.session.trace).read = [fd] ∧ st.session.gtk.readFds.head? = some fd
  | _, _ => True

structure Assembles (p : Protocol) (attached : Nat → List Fd) (st : State) : Prop where
  gathers : Gathers p attached st.session.objects st.session.graph st.session.pendingDmabufPlanes st.session.trace
  closed : phaseOf st = .recovering → ∀ g, ¬ OpenParams st.session.objects g

-- A stretch in which no params object is opened and the client asks nothing.
structure Lull (s s' : Session) : Prop where
  opens : OpensNoMore s.objects s'.objects
  graph : s'.graph = s.graph
  planes : s'.pendingDmabufPlanes = s.pendingDmabufPlanes
  adds : Adds (fun entry => entry.fromClient = false) s s'

namespace Lull

variable {p : Protocol} {attached : Nat → List Fd} {st next : State} {s s' s'' : Session}

theorem still (still : Still p s s') (opens : OpensNoMore s.objects s'.objects) : Lull s s' :=
  ⟨opens, still.books.graph, still.books.pendingDmabufPlanes, still.adds.mono quiet_not_client⟩

theorem trans (first : Lull s s') (second : Lull s' s'') : Lull s s'' :=
  ⟨first.opens.trans second.opens, second.graph.trans first.graph, second.planes.trans first.planes, first.adds.trans second.adds⟩

theorem gathers (lull : Lull s s') (gathers : Gathers p attached s.objects s.graph s.pendingDmabufPlanes s.trace) :
    Gathers p attached s'.objects s'.graph s'.pendingDmabufPlanes s'.trace := by
  obtain ⟨added, idle, grown⟩ := lull.adds
  rw [lull.graph, lull.planes, grown]
  exact (gathers.fewer lull.opens fun _ member _ => member).onward added idle

theorem assembles (lull : Lull st.session next.session) (assembles : Assembles p attached st)
    (recovering : phaseOf next = .recovering → phaseOf st = .recovering) : Assembles p attached next where
  gathers := lull.gathers assembles.gathers
  closed recovers g opened := assembles.closed (recovering recovers) g (lull.opens g opened)

theorem told (told : TellsClient p s s') (objects : s'.objects = s.objects) (graph : s'.graph = s.graph)
    (planes : s'.pendingDmabufPlanes = s.pendingDmabufPlanes) : Lull s s' :=
  ⟨by rw [objects]; exact fun _ opened => opened, graph, planes, told.adds fun entry tells => by
    cases entry with
    | sent => rfl
    | _ => cases tells⟩

end Lull

theorem resume_lull (p : Protocol) (order : HashOrder) (s : Session) : Lull s (resume p order s).session := by
  have books := synthesize_grab_releases_books p order s
  have released := Lull.told (synthesize_grab_releases_frame p s order) (synthesize_grab_releases_objects p order s) books.graph
    books.pendingDmabufPlanes
  exact released.trans ⟨fun _ opened => opened, rfl, rfl, .log _ _ rfl⟩

theorem settle_lull (p : Protocol) (order : HashOrder) (globals : Globals) (s : Session) : Lull s (settleRecovery p order globals s) := by
  have books := settle_recovery_books p order globals s
  exact .told (settle_recovery_frame p s order globals) (settle_recovery_objects p order s globals) books.graph books.pendingDmabufPlanes

section Transitions

variable {env : Env} (detailed : Detailed env.protocol) {attached : Nat → List Fd} {st next : State} {event : Event}

theorem heed_registry_opens (s : Session) (w : RegistryWait) (registry : w.registry = wlRegistry) (msg : Bytes) :
    OpensNoMore s.objects (heedRegistry s w msg).session.objects := by
  unfold heedRegistry
  split
  · exact fun _ opened => opened
  · split
    · exact opens_mapped_other _ _ _ _ (by rw [registry]; decide)
    · exact fun _ opened => opened

-- The client's messages that the wait for its ack throws away: no params object
-- is open then.
theorem skimmed_assembles (s : Session) (h : Handshake) (r : Replay) (msg : Bytes) (consumed : Nat)
    (agrees : Agrees env.protocol s.objects s.graph s.trace) (lawful : UnusedId env.protocol s.trace (.skimmed .gtk msg))
    (assembles : Assembles env.protocol attached ⟨s, .awaitingAck h r⟩) :
    Assembles env.protocol attached ⟨skimmed s .gtk consumed msg, .awaitingAck h r⟩ where
  gathers := by
    refine ⟨fun g x opened => absurd opened (assembles.closed rfl g), fun entry member takes r after => ?_⟩
    refine assembles.gathers.buffers entry member takes r (gatherings_buffers_before after fun introduced => ?_)
    obtain ⟨o, here, -⟩ := (agrees.recipes entry member).1
    rw [(lawful entry.1 introduced).2] at here
    cases here
  closed _ := assembles.closed rfl

theorem begin_recovery_table (p : Protocol) (order : HashOrder) (s : Session) :
    SameTable s.objects (beginRecovery p order s).session.objects := by
  let begun := { s with reclaim := { s.reclaim with activeSourceHostId := none } }
  have asked : ∀ registryGuestId, SameTable s.objects (askForGlobals begun registryGuestId).2.objects := by
    intro registryGuestId
    rw [ask_for_globals_objects]
    exact ⟨fun _ => rfl, fun _ => rfl, fun _ => rfl, fun _ => rfl⟩
  simp only [beginRecovery]
  split
  · rw [show (resume p order begun).session.objects = s.objects from synthesize_grab_releases_objects p order begun]
    exact .refl _
  · rename_i registryGuestId found
    split
    · exact .refl _
    · split
      · rename_i failed wrote
        rw [show failed = (askForGlobals begun registryGuestId).2 from (Prod.ext_iff.mp wrote).2.symm]
        exact asked registryGuestId
      · rename_i written wrote
        rw [show written = (askForGlobals begun registryGuestId).2 from (Prod.ext_iff.mp wrote).2.symm]
        exact asked registryGuestId

theorem begun_assembles (s : Session) (ambient : Ambient) (outcomes : List WriteOutcome) (null : s.objects.interface 0 = none)
    (assembles : Assembles env.protocol attached ⟨s, .selecting⟩) :
    Assembles env.protocol attached (beginRecovery env.protocol ambient.order (reconnected s outcomes)) := by
  have table := begin_recovery_table env.protocol ambient.order (reconnected s outcomes)
  have closed : ∀ g, ¬ OpenParams (beginRecovery env.protocol ambient.order (reconnected s outcomes)).session.objects g :=
    fun g opened => bumped_closed s.objects null g (OpensNoMore.same table g opened)
  have course := @begin_recovery_course env ambient outcomes s
  have books : SameBooks s (beginRecovery env.protocol ambient.order (reconnected s outcomes)).session :=
    @SameBooks.trans s (reconnected s outcomes) _ ⟨rfl, rfl, rfl, rfl⟩ (begin_recovery_books env.protocol _ ambient.order)
  generalize beginRecovery env.protocol ambient.order (reconnected s outcomes) = begun at course books closed ⊢
  have adds : Adds (fun entry => entry.fromClient = false) s begun.session := by
    cases course with
    | unregistered _ asked _ _ absent still =>
        exact (still.adds.mono quiet_not_client).trans (resume_lull env.protocol ambient.order asked).adds
    | still _ _ _ still => exact still.adds.mono quiet_not_client
  have lull : Lull s begun.session := ⟨fun g opened => absurd opened (closed g), books.graph, books.pendingDmabufPlanes, adds⟩
  exact ⟨lull.gathers assembles.gathers, fun _ => closed⟩

include detailed

theorem replay_turn_assembles (s : Session) (r : Replay) (ambient : Ambient) (tidy : Tidy env ⟨s, .replaying r⟩)
    (assembles : Assembles env.protocol attached ⟨s, .replaying r⟩) :
    Assembles env.protocol attached (replayTurn env.protocol ambient.order s r) := by
  unfold replayTurn
  split
  · have lull := (settle_lull env.protocol ambient.order r.globals s).trans (resume_lull env.protocol ambient.order _)
    exact lull.assembles assembles fun _ => rfl
  · rename_i guestId recipe rest more
    have replays : ∀ t handshake, replayRecipe env.protocol r.globals r.registry r.registryHostId s guestId recipe = some (t, handshake) →
        Lull s t := by
      intro t handshake replayed
      have frame := replay_recipe_frame env.protocol s r.globals r.registry r.registryHostId guestId recipe t _ replayed
      have books := Replays.books frame
      refine ⟨replayed_opens detailed.toCovered s t (tidy.ready.fresh rfl) _ _ _ _ _ _ replayed, books.graph, books.pendingDmabufPlanes,
        frame.frame.adds fun entry writes => ?_⟩
      cases entry with
      | sent => rfl
      | _ => cases writes
    split
    · exact ⟨assembles.gathers, fun _ => assembles.closed rfl⟩
    · rename_i t replayed
      exact (replays t _ replayed).assembles assembles fun _ => rfl
    · rename_i t handshake replayed
      exact (replays t _ replayed).assembles assembles fun _ => rfl

theorem transition_assembles (transition : Transition env st event next) (tidy : Tidy env st)
    (arrives : AddsArrive env.protocol attached st event) (unused : IdsUnused env.protocol next.session.trace)
    (assembles : Assembles env.protocol attached st) : Assembles env.protocol attached next := by
  have same : ∀ {s s' : Session}, Still env.protocol s s' → s'.objects = s.objects → Lull s s' := fun still objects =>
    .still still (by rw [objects]; exact fun _ opened => opened)
  cases transition with
  | readClient s fill c => exact (same (.read s .gtk c) rfl).assembles assembles id
  | readAck s fill c => exact (same (.read s .gtk c) rfl).assembles assembles fun _ => rfl
  | readHost s fill c => exact (same (.read s .host c) rfl).assembles assembles id
  | readRegistry s fill c | readConfigure s fill c => exact (same (.read s .host c) rfl).assembles assembles fun _ => rfl
  | clientGone | relayDone => exact ⟨assembles.gathers, assembles.closed⟩
  | hostGone s =>
      have froze : Still env.protocol s { s with frozen := true } := .same rfl ⟨rfl, rfl, rfl, rfl⟩ rfl (.same rfl)
      have stopped : Still env.protocol s (freeze s) := froze.trans (.log _ _ trivial)
      exact (same stopped rfl).assembles assembles fun recovers => absurd recovers (of_frozen_settled _)
  | ackGone s | ackLapse s => exact (same (.ended s .gtk) rfl).assembles assembles fun _ => rfl
  | registryGone s | configureGone s | configureLapse s => exact (same (.ended s .host) rfl).assembles assembles fun _ => rfl
  | relayed s handled direction ambient disposal turned =>
      obtain ⟨msg, consumed, answered, taken, handling, rfl⟩ := relay_turn_some env ambient direction s handled disposal turned
      have long : headerLen ≤ msg.length := by
        rw [take_message_length _ _ _ taken]
        exact (take_message_spec _ _ _ taken).1
      have result := relay_message_handled env ambient direction (s.log (.took direction.src msg)) (headerOf msg) msg
      rw [handling] at result
      refine ⟨?_, fun recovers => absurd recovers (of_frozen_settled _)⟩
      cases direction with
      | clientToHost =>
          have grows := request_turn_grows env ambient (s.log (.took .gtk msg)) msg answered
            (request_turn env detailed.toCovered ambient _ msg long disposal answered result)
          have earlier : IdsUnused env.protocol (s.trace ++ [.took .gtk msg]) := unused.earlier grows
          exact request_turn_gathers detailed (s.log (.took .gtk msg)) msg s.trace tidy.tended.agrees ambient answered long
            ((ids_unused_append _ _).mp earlier).2.1 rfl disposal result (arrives (msg, consumed) taken) assembles.gathers
      | hostToClient =>
          have turn := event_turn env detailed.toCovered ambient (s.log (.took .host msg)) msg long disposal answered result
          have took := assembles.gathers.onward [.took .host msg] (by simp [Traffic.fromClient])
          exact event_turn_gathers ambient (s.log (.took .host msg)) answered msg turn took
  | skimRegistry s w ambient msg consumed =>
      have still := (Still.skimmed s consumed msg).trans (heed_registry_still env.protocol _ w tidy.ready.prepared.2 msg)
      exact (Lull.still still (heed_registry_opens (skimmed s .host consumed msg) w tidy.ready.prepared.2 msg)).assembles assembles fun _ => rfl
  | skimConfigure s h r ambient msg consumed =>
      exact (same ((Still.skimmed s consumed msg).trans (heed_configure_still _ _ h r msg))
        (heed_configure_leaves env.protocol (skimmed s .host consumed msg) h r msg).1).assembles assembles fun _ => rfl
  | skimAck s h r ambient msg consumed taken =>
      have earlier : IdsUnused env.protocol (s.trace ++ [.skimmed .gtk msg]) :=
        unused.earlier (heed_ack_grows env.protocol (skimmed s .gtk consumed msg) h r msg)
      have thrown := skimmed_assembles s h r msg consumed tidy.tended.agrees ((ids_unused_append _ _).mp earlier).2.1 assembles
      exact (same (heed_ack_still env.protocol (skimmed s .gtk consumed msg) h r msg)
        (heed_ack_leaves env.protocol (skimmed s .gtk consumed msg) h r msg).1).assembles thrown fun _ => rfl
  | replayed s r ambient => exact replay_turn_assembles detailed s r ambient tidy assembles
  | reconnect s ambient outcomes frozen => exact begun_assembles s ambient outcomes tidy.ready.null assembles
  | cached s control mimeType bytes => exact ⟨assembles.gathers, assembles.closed⟩

end Transitions

end WlResprox
