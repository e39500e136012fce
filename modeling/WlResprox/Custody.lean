import WlResprox.Attribution
import WlResprox.InFlight

set_option autoImplicit false

namespace WlResprox

def bufferParams : Interface := ⟨"zwp_linux_buffer_params_v1"⟩

-- The planes gathered under an id that no recipe has taken yet.
def planesUnder (planes : HashMap (UInt32 × List DmabufPlane)) (g : UInt32) : List DmabufPlane :=
  match planes.lookup g with
  | none => []
  | some (_, gathered) => gathered

-- Whatever keeps descriptors stands for an object the table lists: a recipe for
-- the object it brings back, gathered planes for their params object.
structure Entrusted (t : ShadowTable) (graph : RecreationGraph) (planes : HashMap (UInt32 × List DmabufPlane)) : Prop where
  recipes : ∀ entry ∈ graph.recipes, t.interface entry.1 = some entry.2.interface
  planes : ∀ g, planesUnder planes g ≠ [] → t.interface g = some bufferParams

-- No planes are gathered but those there were.
def GathersNoMore (planes planes' : HashMap (UInt32 × List DmabufPlane)) : Prop :=
  ∀ g, planesUnder planes' g = planesUnder planes g ∨ planesUnder planes' g = []

theorem GathersNoMore.empty {planes planes' : HashMap (UInt32 × List DmabufPlane)} (fewer : GathersNoMore planes planes') (g : UInt32)
    (none : planesUnder planes g = []) : planesUnder planes' g = [] := by
  rcases fewer g with same | gone
  · rw [same, none]
  · exact gone

namespace Entrusted

variable {t t' : ShadowTable} {graph graph' : RecreationGraph} {planes planes' : HashMap (UInt32 × List DmabufPlane)}

theorem relisted (entrusted : Entrusted t graph planes) (interface : ∀ g, t'.interface g = t.interface g) :
    Entrusted t' graph planes where
  recipes entry member := by rw [interface]; exact entrusted.recipes entry member
  planes g some := by rw [interface]; exact entrusted.planes g some

theorem fewer (entrusted : Entrusted t graph planes) (recipes : ∀ entry ∈ graph'.recipes, ∃ recipe, (entry.1, recipe) ∈ graph.recipes ∧
    recipe.interface = entry.2.interface) (fewer : GathersNoMore planes planes') : Entrusted t graph' planes' where
  recipes entry member := by
    obtain ⟨recipe, before, same⟩ := recipes entry member
    rw [← same]
    exact entrusted.recipes _ before
  planes g some := by
    rcases fewer g with same | none
    · rw [same] at some
      exact entrusted.planes g some
    · exact absurd none some

-- What is let go of had no planes waiting.
theorem removed (entrusted : Entrusted t graph planes) (g : UInt32) (none : planesUnder planes g = []) :
    Entrusted (t.removeGuest g) (graph.remove g) planes where
  recipes entry member := by
    obtain ⟨other, before⟩ := (RecreationGraph.mem_remove _ _ _ _).mp member
    rw [ShadowTable.interface_remove_guest, if_neg other]
    exact entrusted.recipes entry before
  planes a some := by
    have other : a ≠ g := fun same => some (by rw [same]; exact none)
    rw [ShadowTable.interface_remove_guest, if_neg other]
    exact entrusted.planes a some

theorem mapped (entrusted : Entrusted t graph planes) (g h : UInt32) (i : Interface)
    (same : ∀ j, t.interface g = some j → (planesUnder planes g ≠ [] ∨ ∃ entry ∈ graph.recipes, entry.1 = g) → j = i) :
    Entrusted (t.map g h i) graph planes where
  recipes entry member := by
    have listed := entrusted.recipes entry member
    rw [ShadowTable.interface_map]
    split
    · rename_i own
      rw [own] at listed
      rw [same _ listed (.inr ⟨entry, member, own⟩)]
    · exact listed
  planes a some := by
    have listed := entrusted.planes a some
    rw [ShadowTable.interface_map]
    split
    · rename_i own
      rw [own] at listed some
      rw [same _ listed (.inl some)]
    · exact listed

theorem recorded (entrusted : Entrusted t graph planes) (g : UInt32) (recipe : Recreatable)
    (listed : t.interface g = some recipe.interface) : Entrusted t (graph.record g recipe) planes where
  recipes entry member := by
    rcases List.mem_append.mp member with before | new
    · exact entrusted.recipes entry before
    · rw [List.mem_singleton] at new
      subst new
      exact listed
  planes := entrusted.planes

end Entrusted

theorem planes_under_insert (planes : HashMap (UInt32 × List DmabufPlane)) (key g : UInt32) (value : UInt32 × List DmabufPlane) :
    planesUnder (planes.insert key value) g = if g = key then value.2 else planesUnder planes g := by
  by_cases own : g = key
  · subst own
    simp [planesUnder]
  · simp [planesUnder, own]

theorem planes_under_erase (planes : HashMap (UInt32 × List DmabufPlane)) (key g : UInt32) :
    planesUnder (planes.erase key) g = if g = key then [] else planesUnder planes g := by
  by_cases own : g = key
  · subst own
    simp [planesUnder]
  · simp [planesUnder, own]

theorem captured_gathers {p : Protocol} {m : Inbound} {msg : Bytes} {offset : Nat} {created : Creation}
    {planes : HashMap (UInt32 × List DmabufPlane)} {result : Option Recreatable × HashMap (UInt32 × List DmabufPlane)}
    (captured : Captured p m msg offset created planes result) : GathersNoMore planes result.2 := by
  intro g
  cases captured with
  | params =>
      rw [planes_under_insert]
      split
      · exact .inr rfl
      · exact .inl rfl
  | dmabufBuffer =>
      rw [planes_under_erase]
      split
      · exact .inr rfl
      · exact .inl rfl
  | _ => exact .inl rfl

-- Only an add gathers, under its own params object.
theorem retain_plane_gathers (planes : HashMap (UInt32 × List DmabufPlane)) (m : Inbound) (payload : Bytes) (fds : List Fd) (g : UInt32) :
    planesUnder (retainPlane planes m payload fds) g = planesUnder planes g ∨
      g = m.sender ∧ m.isRequest "zwp_linux_buffer_params_v1" "add" = true := by
  unfold retainPlane
  split
  · rename_i adds
    split
    · rw [planes_under_insert]
      split
      · rename_i own
        exact .inr ⟨own, adds⟩
      · exact .inl rfl
    · exact .inl rfl
  · exact .inl rfl

theorem forward_retains (ambient : Ambient) (s : Session) (m : Inbound) (created : Option Creation) (msg : Bytes) :
    ∃ fds, (forward ambient s m created msg).2.graph = retainPool s.graph m (msg.drop headerLen) created fds ∧
      (forward ambient s m created msg).2.pendingDmabufPlanes = retainPlane s.pendingDmabufPlanes m (msg.drop headerLen) fds := by
  unfold forward
  dsimp only
  split
  · exact ⟨_, rfl, rfl⟩
  · exact ⟨_, rfl, rfl⟩

-- An id the client is free to use keeps nothing.
theorem free_keeps_nothing {p : Protocol} {t : ShadowTable} {graph : RecreationGraph} {planes : HashMap (UInt32 × List DmabufPlane)}
    {past : List Traffic} (agrees : Agrees p t graph past) (entrusted : Entrusted t graph planes) (g : UInt32)
    (free : (client p past).objects g = none) : planesUnder planes g = [] ∧ ∀ entry ∈ graph.recipes, entry.1 ≠ g := by
  have unheld : ∀ i, ¬ (client p past).Holds g i := by
    rintro i ⟨o, here, -⟩
    rw [free] at here
    cases here
  refine ⟨by_contra fun some => ?_, fun entry member same => ?_⟩
  · rcases agrees.table g bufferParams (entrusted.planes g some) with held | ⟨callback, -⟩
    · exact unheld _ held
    · exact absurd callback (by decide)
  · have held := (agrees.recipes entry member).1
    rw [same] at held
    exact unheld _ held

-- A destructor of an object the host does not have: the proxy answers it.
def Abandons (p : Protocol) (objects : ShadowTable) (msg : Bytes) (g : UInt32) : Prop :=
  senderOf msg = g ∧ ∃ interface call, objects.interface g = some interface ∧ decode p .clientToHost interface msg = some call ∧
    call.desc.isDestructor = true ∧ (call.newId = none → objects.hostId g = none)

section Requests

variable {env : Env} (detailed : Detailed env.protocol) (ambient : Ambient) (s : Session) (msg : Bytes) (past : List Traffic)
  (agrees : Agrees env.protocol s.objects s.graph past) (entrusted : Entrusted s.objects s.graph s.pendingDmabufPlanes)
  (lawful : UnusedId env.protocol past (.took .gtk msg))

include detailed agrees entrusted lawful

theorem noted_entrusted (m : Inbound) (created : Option Creation) (translated rewritten : Bytes) (noted : Session)
    (noting : RequestNoted env ambient s msg m created translated rewritten noted) :
    Entrusted noted.objects noted.graph noted.pendingDmabufPlanes ∧ GathersNoMore s.pendingDmabufPlanes noted.pendingDmabufPlanes ∧
      ∀ c, created = some c → planesUnder noted.pendingDmabufPlanes c.guestId = [] := by
  obtain ⟨graph, creates, updated⟩ := noting.creates
  have made : Entrusted noted.objects graph noted.pendingDmabufPlanes ∧ GathersNoMore s.pendingDmabufPlanes noted.pendingDmabufPlanes ∧
      ∀ c, created = some c → planesUnder noted.pendingDmabufPlanes c.guestId = [] := by
    cases created with
    | none =>
        generalize noted.objects = objects at creates
        generalize noted.pendingDmabufPlanes = planes at creates
        cases creates with
        | nothing quiet => exact ⟨entrusted, fun _ => .inl rfl, nofun⟩
    | some c =>
        obtain ⟨nonzero, free⟩ := lawful _ (noted_introduces env detailed ambient s msg past agrees m c translated rewritten noted noting)
        obtain ⟨bare, unrecorded⟩ := free_keeps_nothing agrees entrusted c.guestId free
        generalize noted.objects = objects at creates
        generalize noted.pendingDmabufPlanes = planes at creates
        cases creates with
        | object _ offset recipe planes' located newId child next captured =>
            have gathers := captured_gathers captured
            have allocated : Entrusted s.objects.allocateHostId.2 s.graph s.pendingDmabufPlanes := entrusted.relisted fun _ => rfl
            have mapped := allocated.mapped c.guestId s.objects.nextHostId c.interface fun j listed kept => by
              rcases kept with some | ⟨entry, member, same⟩
              · exact absurd bare some
              · exact absurd same (unrecorded entry member)
            have fewer := mapped.fewer (fun entry member => ⟨entry.2, member, rfl⟩) gathers
            refine ⟨?_, gathers, fun c' same => by cases same; exact gathers.empty _ bare⟩
            cases recipe with
            | none => exact fewer
            | some recipe =>
                have typed := (captured_typed env detailed msg m translated offset c _ _ recipe child
                  (resolved_member env s.objects .clientToHost msg m noting.resolved) captured).1
                exact fewer.recorded c.guestId recipe (by rw [ShadowTable.interface_map, if_pos rfl, typed])
  refine ⟨?_, made.2⟩
  rw [updated]
  exact made.1.fewer (update_recipes_interfaces env ambient graph m rewritten) fun _ => .inl rfl

omit detailed agrees entrusted lawful in
theorem stale_destructor (m : Inbound) (created : Option Creation) (translated rewritten : Bytes) (noted : Session)
    (noting : RequestNoted env ambient s msg m created translated rewritten noted) (failed : noted.objects.hostId m.sender = none)
    (destructor : m.desc.isDestructor = true) : Abandons env.protocol s.objects msg m.sender := by
  refine ⟨(resolved_request env s.objects .clientToHost msg m noting.resolved rfl).symm, m.interface, _,
    resolved_interface env s.objects .clientToHost msg m noting.resolved, resolved_decode env s.objects .clientToHost msg m noting.resolved,
    destructor, fun quiet => ?_⟩
  obtain ⟨graph, creates, -⟩ := noting.creates
  generalize noted.objects = objects at creates failed
  generalize noted.pendingDmabufPlanes = planes at creates
  cases creates with
  | nothing => exact failed
  | object c offset recipe planes' located newId child next captured =>
      rw [newId] at quiet
      cases quiet

theorem retained_entrusted (m : Inbound) (created : Option Creation) (translated rewritten : Bytes) (noted : Session)
    (noting : RequestNoted env ambient s msg m created translated rewritten noted) (payload : Bytes) (fds : List Fd) :
    Entrusted noted.objects (retainPool noted.graph m payload created fds) (retainPlane noted.pendingDmabufPlanes m payload fds) := by
  have kept := (noted_entrusted detailed ambient s msg past agrees entrusted lawful m created translated rewritten noted noting).1
  have recipes : ∀ entry ∈ (retainPool noted.graph m payload created fds).recipes, noted.objects.interface entry.1 = some entry.2.interface := by
    unfold retainPool
    split
    · rename_i asks
      split
      · rename_i c fd _
        obtain ⟨-, shm, named⟩ := (is_request_iff _ _ _).mp asks
        obtain ⟨newId, child⟩ := noted_creation env ambient s msg m c translated rewritten noted noting
        have pool := creates_child detailed.createPool m.interface (by rw [shm]; decide) m.desc
          (resolved_member env s.objects .clientToHost msg m noting.resolved) named m.walk msg
        rw [child] at pool
        refine (kept.recorded c.guestId _ ?_).recipes
        obtain ⟨graph, creates, -⟩ := noting.creates
        generalize noted.objects = objects at creates
        generalize noted.pendingDmabufPlanes = planes at creates
        cases creates with
        | object _ offset recipe planes' located newId child next captured =>
            rw [ShadowTable.interface_map, if_pos rfl]
            exact pool
      · exact kept.recipes
    · exact kept.recipes
  refine ⟨recipes, fun g some => ?_⟩
  rcases retain_plane_gathers noted.pendingDmabufPlanes m payload fds g with same | ⟨own, adds⟩
  · rw [same] at some
    exact kept.planes g some
  · have known := resolved_interface env s.objects .clientToHost msg m noting.resolved
    have held := sender_held env detailed s msg m noting.resolved agrees
    have apart : Traffic.introduces env.protocol (client env.protocol past) (.took .gtk msg) ≠ Option.some m.sender := by
      intro introduced
      obtain ⟨o, here, -⟩ := held
      rw [resolved_request env s.objects .clientToHost msg m noting.resolved rfl] at introduced
      rw [(lawful _ introduced).2] at here
      cases here
    rw [own, noted_interface env detailed ambient s msg past agrees m created translated rewritten noted noting m.sender apart, known]
    have named := ((is_request_iff _ _ _).mp adds).2.1
    exact congrArg Option.some (congrArg Interface.mk named)

theorem request_turn_entrusted (next : Session) (turn : RequestTurn env ambient s msg next)
    (spared : ∀ g, Abandons env.protocol s.objects msg g → planesUnder s.pendingDmabufPlanes g = []) :
    Entrusted next.objects next.graph next.pendingDmabufPlanes := by
  cases turn with
  | dropped table rest unseen =>
      rw [rest]
      exact entrusted.relisted table.interface
  | stale m created translated rewritten noted noting failed is =>
      obtain ⟨kept, gathers, bare⟩ :=
        noted_entrusted detailed ambient s msg past agrees entrusted lawful m created translated rewritten noted noting
      have answered : Entrusted (answerStaleSender env.protocol noted m created).objects (answerStaleSender env.protocol noted m created).graph
          noted.pendingDmabufPlanes ∧ (answerStaleSender env.protocol noted m created).pendingDmabufPlanes = noted.pendingDmabufPlanes := by
        unfold answerStaleSender
        split
        · rename_i destroys
          have abandons := stale_destructor ambient s msg m created translated rewritten noted noting failed destroys.2
          have aside := synthesize_delete_id_aside env.protocol noted m.sender
          refine ⟨?_, aside.pendingDmabufPlanes⟩
          dsimp only
          rw [synthesize_delete_id_objects, aside.graph]
          exact kept.removed m.sender (gathers.empty m.sender (spared m.sender abandons))
        · split
          · split
            · exact ⟨kept, rfl⟩
            · rename_i callback
              have aside := synthesize_frame_done_aside env.protocol noted callback.guestId
              rw [synthesize_frame_done_objects, aside.graph]
              exact ⟨kept, aside.pendingDmabufPlanes⟩
          · exact ⟨kept, rfl⟩
      rw [is]
      cases created with
      | none =>
          show Entrusted _ _ (answerStaleSender env.protocol noted m none).pendingDmabufPlanes
          rw [answered.2]
          exact answered.1
      | some phantom =>
          obtain ⟨objects, same, rolled⟩ := roll_back_creation_some (answerStaleSender env.protocol noted m (some phantom)) m phantom
          rw [dropStaleSender, rolled]
          dsimp only
          rw [answered.2]
          exact (answered.1.relisted same.interface).removed phantom.guestId (bare phantom rfl)
  | passed m created translated rewritten out noted otherSide noting found outgoing is =>
      obtain ⟨fds, graph, planes⟩ := forward_retains ambient noted m created (writeSenderId out otherSide)
      rw [is, (forward_parts ambient noted m created (writeSenderId out otherSide)).1, graph, planes]
      exact retained_entrusted detailed ambient s msg past agrees entrusted lawful m created translated rewritten noted noting _ fds

end Requests

section Events

variable {env : Env} (ambient : Ambient) (s next : Session) (msg : Bytes)

theorem event_turn_entrusted (agrees : Agrees env.protocol s.objects s.graph s.trace)
    (entrusted : Entrusted s.objects s.graph s.pendingDmabufPlanes) (turn : EventTurn env ambient s msg next)
    (unused : IdsUnused env.protocol next.trace)
    (spared : ∀ g, HostDeletes env.protocol s.objects msg g → planesUnder s.pendingDmabufPlanes g = []) :
    Entrusted next.objects next.graph next.pendingDmabufPlanes := by
  cases turn with
  | unheard table books grabs trace =>
      rw [books.graph, books.pendingDmabufPlanes]
      exact entrusted.relisted table.interface
  | heard m created deleted renamed noted noting outgoing names is =>
      have event : m.direction = .hostToClient := noting.resolved.way
      obtain ⟨fds, graph, planes⟩ := forward_retains ambient noted m created (writeSenderId renamed m.sender)
      have pools : retainPool noted.graph m ((writeSenderId renamed m.sender).drop headerLen) created fds = noted.graph := by
        simp [retainPool, Inbound.isRequest, event]
      have gathers : retainPlane noted.pendingDmabufPlanes m ((writeSenderId renamed m.sender).drop headerLen) fds =
          noted.pendingDmabufPlanes := by
        simp [retainPlane, Inbound.isRequest, event]
      obtain ⟨asked, sent, asks, trace, relays⟩ := heard_adds env ambient s msg next m created deleted renamed noted noting outgoing is
      rw [trace] at unused
      rw [is, (forward_parts ambient noted m created (writeSenderId renamed m.sender)).1, graph, planes, pools, gathers, noting.graph,
        noting.pendingDmabufPlanes]
      obtain ⟨objects, announces, same⟩ := noting.table
      refine Entrusted.relisted ?_ same.interface
      cases announces with
      | nothing => exact entrusted
      | deleted guestId display deletes found =>
          refine entrusted.removed guestId (spared guestId ⟨m.sender, m.interface, callOf env.protocol m.desc m.walk msg,
            resolved_event env s.objects _ msg m noting.resolved rfl, resolved_interface env s.objects _ msg m noting.resolved,
            resolved_decode env s.objects _ msg m noting.resolved, ?_, found⟩)
          simp [Ledger.frees, callOf, display, deletes]
      | announced c counted keeps =>
          have earlier : Agrees env.protocol s.objects s.graph (s.trace ++ asked) :=
            agrees.onward asked (unused.earlier (List.prefix_append _ _)) fun entry member g deleted => by
              have none : entry.deletes env.protocol = .none := own_request_spares _ entry (asks entry member)
              rw [none] at deleted
              cases deleted
          obtain ⟨nonzero, free⟩ := ((ids_unused_append _ _).mp unused).2.1 _ (relays.introduces env s msg noted noting (s.trace ++ asked))
          rw [counted] at free
          obtain ⟨bare, unrecorded⟩ := free_keeps_nothing earlier entrusted s.objects.nextGuestServerId free
          have allocated : Entrusted s.objects.allocateGuestServerId.2 s.graph s.pendingDmabufPlanes := entrusted.relisted fun _ => rfl
          exact allocated.mapped _ _ _ fun j listed kept => by
            rcases kept with some | ⟨entry, member, same⟩
            · exact absurd bare some
            · exact absurd same (unrecorded entry member)

end Events

-- Recovery lists again, under the interface the client has it by, what it
-- listed before.
theorem Entrusted.listed {p : Protocol} {t t' : ShadowTable} {graph : RecreationGraph} {planes : HashMap (UInt32 × List DmabufPlane)}
    {history : List Traffic} (entrusted : Entrusted t graph planes) (lists : Lists t t') (agrees : Agrees p t' graph history)
    (held : ∀ g, planesUnder planes g ≠ [] → (client p history).Holds g bufferParams) : Entrusted t' graph planes := by
  have again : ∀ g i, t.interface g = some i → (client p history).Holds g i → t'.interface g = some i := by
    intro g i known holds
    obtain ⟨i', known', same | other⟩ := lists g i known
    · rw [known', same]
    · rcases agrees.table g i' known' with holds' | ⟨callback, -⟩
      · rw [known', holds_interface holds' holds]
      · exact absurd callback other
  exact ⟨fun entry member => again _ _ (entrusted.recipes entry member) (agrees.recipes entry member).1,
    fun g some => again _ _ (entrusted.planes g some) (held g some)⟩

theorem Entrusted.held {p : Protocol} {t : ShadowTable} {graph : RecreationGraph} {planes : HashMap (UInt32 × List DmabufPlane)}
    {past : List Traffic} (entrusted : Entrusted t graph planes) (agrees : Agrees p t graph past) (g : UInt32)
    (some : planesUnder planes g ≠ []) : (client p past).Holds g bufferParams := by
  rcases agrees.table g bufferParams (entrusted.planes g some) with held | ⟨callback, -⟩
  · exact held
  · exact absurd callback (by decide)

-- No id is deleted, by the host or by the proxy itself, under which planes wait
-- for the create_immed that takes them.
def LeavesNoPlanes (env : Env) (st : State) (event : Event) : Prop :=
  match event, st.control with
  | .turn _, .relaying .clientToHost => ∀ taken, takeMessage st.session.gtk.readBuf = some taken →
      ∀ g, Abandons env.protocol st.session.objects taken.1 g → planesUnder st.session.pendingDmabufPlanes g = []
  | .turn _, .relaying .hostToClient => ∀ taken, takeMessage st.session.host.readBuf = some taken →
      ∀ g, HostDeletes env.protocol st.session.objects taken.1 g → planesUnder st.session.pendingDmabufPlanes g = []
  | _, _ => True

def State.Entrusts (st : State) : Prop := Entrusted st.session.objects st.session.graph st.session.pendingDmabufPlanes

section Transitions

variable {env : Env} (detailed : Detailed env.protocol) {st next : State} {event : Event}

theorem still_entrusted (tidy : Tidy env st) (tidy' : Tidy env next) (added : List Traffic)
    (grown : next.session.trace = st.session.trace ++ added) (spares : ∀ entry ∈ added, ∀ g, entry.deletes env.protocol ≠ some g)
    (lists : Lists st.session.objects next.session.objects) (books : SameBooks st.session next.session)
    (unused : IdsUnused env.protocol next.session.trace) (entrusted : st.Entrusts) : next.Entrusts := by
  have agrees := tidy'.tended.agrees
  rw [State.Entrusts, books.graph, books.pendingDmabufPlanes]
  rw [books.graph] at agrees
  refine entrusted.listed lists agrees fun g some => ?_
  rw [grown] at unused ⊢
  exact client_holds (entrusted.held tidy.tended.agrees g some) added ((ids_unused_append _ _).mp unused).2
    (.inl fun entry member => spares entry member g)

include detailed

theorem transition_entrusted (transition : Transition env st event next) (tidy : Tidy env st) (tidy' : Tidy env next)
    (leaves : LeavesNoPlanes env st event) (unused : IdsUnused env.protocol next.session.trace) (entrusted : st.Entrusts) :
    next.Entrusts := by
  cases id (transition_course detailed transition tidy) with
  | request s handled ambient msg consumed taken long turn =>
      have grows := request_turn_grows env ambient (s.log (.took .gtk msg)) msg handled turn
      have earlier : IdsUnused env.protocol (s.trace ++ [.took .gtk msg]) := unused.earlier grows
      exact request_turn_entrusted detailed ambient (s.log (.took .gtk msg)) msg s.trace tidy.tended.agrees entrusted
        ((ids_unused_append _ _).mp earlier).2.1 handled turn (leaves (msg, consumed) taken)
  | event s handled ambient msg consumed taken long turn =>
      have earlier : IdsUnused env.protocol (s.log (.took .host msg)).trace :=
        unused.earlier (event_turn_grows env ambient (s.log (.took .host msg)) msg handled turn)
      have took : Adds (Traffic.Spares env.protocol) s (s.log (.took .host msg)) := .log _ _ rfl
      exact event_turn_entrusted ambient (s.log (.took .host msg)) handled msg (tidy.tended.agrees.spared took earlier) entrusted turn
        unused (leaves (msg, consumed) taken)
  | discarded s h r ambient msg consumed taken _ still =>
      obtain ⟨added, quiet, grown⟩ := still.adds
      refine still_entrusted tidy tidy' (.skimmed .gtk msg :: added) (by rw [grown]; simp [skimmed, Session.log])
        (fun entry among g => ?_) still.lists ((SameBooks.took s .gtk consumed msg).trans still.books) unused entrusted
      rcases List.mem_cons.mp among with rfl | later
      · simp [Traffic.deletes]
      · exact (quiet_idle detailed.toCovered g entry (quiet entry later)).1
  | settled s r ambient done =>
      have settled := settle_recovery_books env.protocol ambient.order r.globals s
      have resumed := resume_books env.protocol ambient.order (settleRecovery env.protocol ambient.order r.globals s)
      have table : (resume env.protocol ambient.order (settleRecovery env.protocol ambient.order r.globals s)).session.objects = s.objects :=
        (synthesize_grab_releases_objects _ _ _).trans (settle_recovery_objects _ _ _ _)
      rw [State.Entrusts, resumed.graph, resumed.pendingDmabufPlanes, settled.graph, settled.pendingDmabufPlanes, table]
      exact entrusted
  | unregistered s begun ambient outcomes absent still table =>
      have resumed := resume_books env.protocol ambient.order begun
      have objects : (resume env.protocol ambient.order begun).session.objects = s.objects.bumpGeneration :=
        (synthesize_grab_releases_objects _ _ _).trans table
      rw [State.Entrusts, resumed.graph, resumed.pendingDmabufPlanes, still.books.graph, still.books.pendingDmabufPlanes, objects]
      have earlier : IdsUnused env.protocol s.trace := by
        obtain ⟨added, -, grown⟩ := transition_accounted detailed.toCovered transition
        rw [grown] at unused
        exact unused.earlier (List.prefix_append _ _)
      exact entrusted.listed (lists_map s.objects 1 1 wlDisplay (by decide)) (tidy.tended.agrees.bumped earlier)
        (entrusted.held tidy.tended.agrees)
  | still _ _ _ still =>
      obtain ⟨added, quiet, grown⟩ := still.adds
      exact still_entrusted tidy tidy' added grown (fun entry among g => (quiet_idle detailed.toCovered g entry (quiet entry among)).1)
        still.lists still.books unused entrusted

end Transitions

-- An object the client has not been told is deleted, whose creation stands.
structure Stands (p : Protocol) (st : State) (g : UInt32) (i : Interface) : Prop where
  held : (client p st.session.trace).Holds g i
  listed : st.session.objects.interface g = some i

-- Every descriptor the proxy retains belongs to an object that stands.
structure RetainsForLive (p : Protocol) (st : State) : Prop where
  recipes : ∀ entry ∈ st.session.graph.recipes, ∀ fd, entry.2.Keeps fd → Stands p st entry.1 entry.2.interface
  planes : ∀ g dmabuf gathered, st.session.pendingDmabufPlanes.lookup g = some (dmabuf, gathered) → gathered ≠ [] →
    Stands p st g bufferParams

def leavesNoPlanes (st : State) (event : Event) : Bool :=
  let gathered := planesUnder st.session.pendingDmabufPlanes
  match event, st.control with
  | .turn _, .relaying .clientToHost => (takeMessage st.session.gtk.readBuf).all fun taken =>
      gathered (senderOf taken.1) = [] || (st.session.objects.interface (senderOf taken.1)).all fun interface =>
        (decode coreProtocol .clientToHost interface taken.1).all fun call =>
          !call.desc.isDestructor || (call.newId = none && (st.session.objects.hostId (senderOf taken.1)).isSome)
  | .turn _, .relaying .hostToClient => (takeMessage st.session.host.readBuf).all fun taken =>
      (st.session.objects.guestId (wordAt taken.1 headerLen)).all fun g => gathered g = []
  | _, _ => true

theorem leaves_no_planes_sound (st : State) (event : Event) (checked : (drained st event && leavesNoPlanes st event) = true) :
    Drained coreProtocol st event ∧ LeavesNoPlanes coreEnv st event := by
  obtain ⟨drains, leaves⟩ := Bool.and_eq_true_iff.mp checked
  refine ⟨drained_sound st event drains, ?_⟩
  unfold leavesNoPlanes at leaves
  unfold LeavesNoPlanes
  dsimp only at leaves
  split at leaves
  · rintro taken is g ⟨rfl, interface, call, known, decoded, destructor, lost⟩
    simp only [is, Option.all_some, Bool.or_eq_true, decide_eq_true_eq] at leaves
    rcases leaves with none | alive
    · exact none
    · have decoded' : decode coreProtocol .clientToHost interface taken.1 = some call := decoded
      simp only [known, Option.all_some, decoded', destructor, Bool.not_true, Bool.false_or, Bool.and_eq_true, decide_eq_true_eq] at alive
      rw [lost alive.1] at alive
      cases alive.2
  · rintro taken is g ⟨sender, display, call, -, -, -, -, found⟩
    simpa [is, found] using leaves
  · trivial

def planeWords : Bytes := putU32 (putU32 (putU32 (putU32 (putU32 [] 0) 0) 256) 0) 0

-- Buffer params (4) with one plane added.
def planeAdded : Bytes :=
  requestRegistry 2 ++ bindGlobal 1 "zwp_linux_dmabuf_v1" 3 ++ buildMessage 3 1 (putU32 [] 4) ++ buildMessage 4 1 planeWords

def bufferWords : Bytes := putU32 (putU32 (putU32 (putU32 [] 64) 64) 875713112) 0

def paramsDeleted : List Event := [.hostReadable (.data (buildMessage 1 1 (putU32 [] 4)) [])] ++ turns 2

-- The buffer (5) has taken the plane when its params object is destroyed and
-- deleted.
def bufferTaken : List Event :=
  [.gtkReadable (.data (planeAdded ++ buildMessage 4 3 (putU32 [] 5 ++ bufferWords) ++ buildMessage 4 0 []) [.received 7])] ++ turns 7 ++
    paramsDeleted

-- The client asks for its buffer with the asynchronous create and is done with
-- the params object. The plane stays.
def bufferAwaited : List Event :=
  [.gtkReadable (.data (planeAdded ++ buildMessage 4 2 bufferWords ++ buildMessage 4 0 []) [.received 7])] ++ turns 7 ++ paramsDeleted

end WlResprox
