import WlResprox.Gathering
import WlResprox.Promises

set_option autoImplicit false

namespace WlResprox

def Recreatable.takesPlanes : Recreatable → Bool
  | .dmabufBuffer .. => true
  | _ => false

-- A params object the host has.
def OpenParams (t : ShadowTable) (g : UInt32) : Prop := t.interface g = some bufferParams ∧ (t.hostId g).isSome = true

-- Params objects do not come open but by being created.
def OpensNoMore (t t' : ShadowTable) : Prop := ∀ g, OpenParams t' g → OpenParams t g

-- The proxy has of the client's dmabuf buffers what the client's requests say.
structure Gathers (p : Protocol) (attached : Nat → List Fd) (t : ShadowTable) (graph : RecreationGraph)
    (planes : HashMap (UInt32 × List DmabufPlane)) (history : List Traffic) : Prop where
  params : ∀ g x, OpenParams t g → (gatherings p attached history).params g = some x → planes.lookup g = some x
  buffers : ∀ entry ∈ graph.recipes, entry.2.takesPlanes = true →
    ∀ r, (gatherings p attached history).buffers entry.1 = some r → entry.2 = r

section Tables

variable {t t' : ShadowTable}

theorem OpensNoMore.same (same : SameTable t t') : OpensNoMore t t' := by
  rintro g ⟨listed, hosted⟩
  rw [same.interface] at listed
  rw [same.hostId] at hosted
  exact ⟨listed, hosted⟩

theorem OpensNoMore.trans {t'' : ShadowTable} (first : OpensNoMore t t') (second : OpensNoMore t' t'') : OpensNoMore t t'' :=
  fun g opens => first g (second g opens)

theorem opens_removed (t : ShadowTable) (g : UInt32) : OpensNoMore t (t.removeGuest g) := by
  rintro a ⟨listed, hosted⟩
  rw [ShadowTable.interface_remove_guest] at listed
  split at listed
  · cases listed
  · refine ⟨listed, ?_⟩
    by_cases null : a = 0
    · rw [null]
      rfl
    · obtain ⟨h, found⟩ := Option.isSome_iff_exists.mp hosted
      rw [((ShadowTable.host_id_remove_guest t g a h null).mp found).2]
      rfl

-- A mapping opens its own id at most.
theorem opens_mapped (t : ShadowTable) (g h : UInt32) (i : Interface) (a : UInt32) (opens : OpenParams (t.map g h i) a) :
    OpenParams t a ∨ a = g ∧ i = bufferParams := by
  obtain ⟨listed, hosted⟩ := opens
  rw [ShadowTable.interface_map] at listed
  split at listed
  · rename_i own
    cases listed
    exact .inr ⟨own, rfl⟩
  · rename_i other
    refine .inl ⟨listed, ?_⟩
    by_cases null : a = 0
    · rw [null]
      rfl
    · obtain ⟨b, found⟩ := Option.isSome_iff_exists.mp hosted
      obtain ⟨same, -⟩ | ⟨-, -, before⟩ := (ShadowTable.host_id_map t g h a b i null).mp found
      · exact absurd same other
      · rw [before]
        rfl

theorem opens_mapped_other (t : ShadowTable) (g h : UInt32) (i : Interface) (other : i ≠ bufferParams) : OpensNoMore t (t.map g h i) := by
  intro a opens
  rcases opens_mapped t g h i a opens with before | ⟨-, same⟩
  · exact before
  · exact absurd same other

end Tables

namespace Gathers

variable {p : Protocol} {attached : Nat → List Fd} {t t' : ShadowTable} {graph graph' : RecreationGraph}
  {planes : HashMap (UInt32 × List DmabufPlane)} {past : List Traffic}

theorem fewer (gathers : Gathers p attached t graph planes past) (opens : OpensNoMore t t')
    (recipes : ∀ entry ∈ graph'.recipes, entry.2.takesPlanes = true → entry ∈ graph.recipes) : Gathers p attached t' graph' planes past where
  params g x opened := gathers.params g x (opens g opened)
  buffers entry member takes := gathers.buffers entry (recipes entry member takes) takes

theorem onward (gathers : Gathers p attached t graph planes past) (added : List Traffic)
    (quiet : ∀ entry ∈ added, entry.fromClient = false) : Gathers p attached t graph planes (past ++ added) where
  params g x opened after := gathers.params g x opened ((gatherings_before quiet).1 g x after)
  buffers entry member takes r after := gathers.buffers entry member takes r ((gatherings_before quiet).2 entry.1 r after)

theorem removed (gathers : Gathers p attached t graph planes past) (g : UInt32) :
    Gathers p attached (t.removeGuest g) (graph.remove g) planes past :=
  gathers.fewer (opens_removed t g) fun _ member _ => ((RecreationGraph.mem_remove _ _ _ _).mp member).2

end Gathers

-- Bringing a recipe up to date leaves the dmabuf buffers as they are.
theorem update_recipes_planes (env : Env) (ambient : Ambient) (graph : RecreationGraph) (m : Inbound) (msg : Bytes)
    (entry : UInt32 × Recreatable) (member : entry ∈ (updateRecipes env ambient graph m msg).1.recipes)
    (takes : entry.2.takesPlanes = true) : entry ∈ graph.recipes := by
  rcases update_recipes_revises env ambient graph m msg with same | ⟨change, updated, revises⟩
  · rwa [same] at member
  · rw [updated] at member
    rcases mem_update graph m.sender change entry member with same | ⟨old, -, changed, -⟩
    · exact same
    · generalize entry.2 = new at takes changed
      cases revises old new changed <;> cases takes

-- What answering a request without a sender lets go of, its creation for one.
structure Discards (s next : Session) (created : Option Creation) : Prop where
  opens : OpensNoMore s.objects next.objects
  recipes : ∀ entry ∈ next.graph.recipes, entry ∈ s.graph.recipes
  planes : next.pendingDmabufPlanes = s.pendingDmabufPlanes
  creation : ∀ c, created = some c → next.objects.interface c.guestId = none ∧ ∀ entry ∈ next.graph.recipes, entry.1 ≠ c.guestId

theorem drop_stale_sender_discards (p : Protocol) (s : Session) (m : Inbound) (created : Option Creation) :
    Discards s (dropStaleSender p s m created) created := by
  have answered : OpensNoMore s.objects (answerStaleSender p s m created).objects ∧
      (∀ entry ∈ (answerStaleSender p s m created).graph.recipes, entry ∈ s.graph.recipes) ∧
        (answerStaleSender p s m created).pendingDmabufPlanes = s.pendingDmabufPlanes := by
    unfold answerStaleSender
    split
    · have aside := synthesize_delete_id_aside p s m.sender
      refine ⟨?_, fun entry member => ?_, aside.pendingDmabufPlanes⟩
      · dsimp only
        rw [synthesize_delete_id_objects]
        exact opens_removed s.objects m.sender
      · have kept := ((RecreationGraph.mem_remove _ _ _ _).mp member).2
        rwa [aside.graph] at kept
    · split
      · split
        · exact ⟨fun _ opened => opened, fun _ member => member, rfl⟩
        · rename_i callback
          have aside := synthesize_frame_done_aside p s callback.guestId
          rw [synthesize_frame_done_objects, aside.graph]
          exact ⟨fun _ opened => opened, fun _ member => member, aside.pendingDmabufPlanes⟩
      · exact ⟨fun _ opened => opened, fun _ member => member, rfl⟩
  obtain ⟨opens, recipes, planes⟩ := answered
  cases created with
  | none => exact ⟨opens, recipes, planes, nofun⟩
  | some phantom =>
      obtain ⟨objects, same, rolled⟩ := roll_back_creation_some (answerStaleSender p s m (some phantom)) m phantom
      rw [dropStaleSender, rolled]
      refine ⟨opens.trans ((OpensNoMore.same same).trans (opens_removed objects phantom.guestId)), fun entry member => ?_, planes,
        fun c made => ?_⟩
      · exact recipes entry ((RecreationGraph.mem_remove _ _ _ _).mp member).2
      · cases made
        refine ⟨?_, fun entry member => ((RecreationGraph.mem_remove _ _ _ _).mp member).1⟩
        rw [ShadowTable.interface_remove_guest, if_pos rfl]

section Noting

variable {env : Env} (ambient : Ambient) (s : Session) (msg : Bytes) (m : Inbound) (created : Option Creation)
  (translated rewritten : Bytes) (noted : Session) (noting : RequestNoted env ambient s msg m created translated rewritten noted)

include noting

theorem noted_opens (g : UInt32) (opened : OpenParams noted.objects g) :
    OpenParams s.objects g ∨ ∃ c, created = some c ∧ g = c.guestId := by
  obtain ⟨graph, creates, -⟩ := noting.creates
  generalize noted.objects = objects at creates opened
  generalize noted.pendingDmabufPlanes = planes at creates
  cases creates with
  | nothing => exact .inl opened
  | object c offset recipe planes' located newId child next captured =>
      rcases opens_mapped _ _ _ _ g opened with before | ⟨own, -⟩
      · exact .inl before
      · exact .inr ⟨c, rfl, own⟩

theorem noted_lookup (g : UInt32) (fresh : ∀ c, created = some c → g ≠ c.guestId)
    (kept : ∀ c, created = some c → m.isRequest "zwp_linux_buffer_params_v1" "create_immed" = true → g ≠ m.sender) :
    noted.pendingDmabufPlanes.lookup g = s.pendingDmabufPlanes.lookup g := by
  obtain ⟨graph, creates, -⟩ := noting.creates
  generalize noted.objects = objects at creates
  generalize noted.pendingDmabufPlanes = planes at creates
  cases creates with
  | nothing => rfl
  | object c offset recipe planes' located newId child next captured =>
      generalize result : (recipe, planes) = pair at captured
      cases captured with
      | params =>
          cases result
          rw [HashMap.lookup_insert, if_neg (fresh c rfl)]
      | dmabufBuffer immed =>
          cases result
          rw [HashMap.lookup_erase, if_neg (kept c rfl immed)]
      | _ =>
          cases result
          rfl

theorem noted_buffers (entry : UInt32 × Recreatable) (member : entry ∈ noted.graph.recipes) (takes : entry.2.takesPlanes = true) :
    entry ∈ s.graph.recipes ∨ ∃ c offset, created = some c ∧ entry.1 = c.guestId ∧
      m.isRequest "zwp_linux_buffer_params_v1" "create_immed" = true ∧ m.walk.newIdOffset = some offset ∧
        dmabufBufferRecipe (s.pendingDmabufPlanes.lookup m.sender) (translated.drop headerLen) offset = some entry.2 := by
  obtain ⟨graph, creates, updated⟩ := noting.creates
  rw [updated] at member
  have before := update_recipes_planes env ambient graph m rewritten entry member takes
  generalize noted.objects = objects at creates
  generalize noted.pendingDmabufPlanes = planes at creates
  cases creates with
  | nothing => exact .inl before
  | object c offset recipe planes' located newId child next captured =>
      cases recipe with
      | none => exact .inl before
      | some recipe =>
          rcases List.mem_append.mp before with old | new
          · exact .inl old
          · rw [List.mem_singleton] at new
            subst new
            generalize result : (some recipe, planes) = pair at captured
            cases captured with
            | dmabufBuffer immed => exact .inr ⟨c, offset, rfl, rfl, immed, located, (Prod.ext_iff.mp result).1.symm⟩
            | shmBuffer =>
                have is : shmBufferRecipe m.sender (translated.drop headerLen) offset = some recipe := (Prod.ext_iff.mp result).1.symm
                unfold shmBufferRecipe at is
                split at is <;> cases is
                cases takes
            | xdgSurface | viewport | fractionalScale =>
                obtain ⟨_, -, rfl⟩ := Option.map_eq_some_iff.mp (Prod.ext_iff.mp result).1.symm
                cases takes
            | _ =>
                cases result
                first | done | cases takes

end Noting

section Asking

variable {p : Protocol} {attached : Nat → List Fd} {past : List Traffic} {entry : Traffic} {a : Requested}
  (asks : entry.asked p (client p past) = some a)

include asks

-- A new object has planes when it is a params object, and none yet.
theorem gatherings_new {g : UInt32} {x : UInt32 × List DmabufPlane}
    (after : (gatherings p attached (past ++ [entry])).params g = some x) (named : a.call.newId = some g) (other : senderOf a.msg ≠ g) :
    a.isA linuxDmabuf "create_params" = true ∧ x = (senderOf a.msg, []) := by
  have nothing : ((gatherings p attached past).renew (some g)).params g = none := by simp [Gatherings.renew]
  rw [(gatherings_ask past entry a asks).1, named, Gatherings.ask] at after
  split at after
  · rename_i creates
    simp only [named, Function.update_self, Option.some.injEq] at after
    exact ⟨creates, after.symm⟩
  · split at after
    · dsimp only at after
      rw [Function.update_of_ne other.symm, nothing] at after
      cases after
    · split at after
      · simp only [named] at after
        rw [Function.update_of_ne other.symm, nothing] at after
        cases after
      · rw [nothing] at after
        cases after

theorem gatherings_added {g : UInt32} {x : UInt32 × List DmabufPlane}
    (after : (gatherings p attached (past ++ [entry])).params g = some x) (adds : a.isA bufferParams "add" = true)
    (own : senderOf a.msg = g) :
    ∃ y, (gatherings p attached past).params g = some y ∧
      x = (y.1, y.2 ++ (attached (gatherings p attached past).read).map (addedPlane a.msg)) := by
  have other : a.isA linuxDmabuf "create_params" = false := by
    simp only [Requested.isA, decide_eq_true_eq] at adds
    simp [Requested.isA, adds.2]
  rw [(gatherings_ask past entry a asks).1, Gatherings.ask, own] at after
  simp only [other, adds, if_true, Bool.false_eq_true, if_false, Function.update_self] at after
  obtain ⟨y, before, is⟩ := Option.map_eq_some_iff.mp after
  exact ⟨y, renew_params before, is.symm⟩

-- A create_immed uses its params object up.
theorem gatherings_taken {id : UInt32} (immed : a.isA bufferParams "create_immed" = true) (named : a.call.newId = some id) :
    (gatherings p attached (past ++ [entry])).params (senderOf a.msg) = none ∧
      ∀ r, (gatherings p attached (past ++ [entry])).buffers id = some r →
        ∃ y, (gatherings p attached past).params (senderOf a.msg) = some y ∧ r = immediateBuffer a.msg y := by
  have others : a.isA linuxDmabuf "create_params" = false ∧ a.isA bufferParams "add" = false := by
    simp only [Requested.isA, decide_eq_true_eq] at immed
    exact ⟨by simp [Requested.isA, immed.2], by simp [Requested.isA, immed.2]⟩
  rw [(gatherings_ask past entry a asks).1, (gatherings_ask past entry a asks).2, Gatherings.ask]
  simp only [others.1, others.2, immed, named, if_true, Bool.false_eq_true, if_false, Function.update_self, true_and]
  intro r is
  obtain ⟨y, before, same⟩ := Option.map_eq_some_iff.mp is
  exact ⟨y, renew_params before, same.symm⟩

end Asking

section Requests

variable {env : Env} (detailed : Detailed env.protocol) (s : Session) (msg : Bytes) (past : List Traffic)
  (agrees : Agrees env.protocol s.objects s.graph past)

include detailed agrees

theorem resolved_asked (m : Inbound) (resolved : Resolved env.protocol s.objects .clientToHost (headerOf msg) msg m) :
    Traffic.asked env.protocol (client env.protocol past) (.took .gtk msg) = some ⟨msg, m.interface, callOf env.protocol m.desc m.walk msg⟩ := by
  obtain ⟨o, here, kind, -⟩ := sender_held env detailed s msg m resolved agrees
  simp only [Traffic.asked, here, Option.bind_some, kind, resolved_decode env s.objects .clientToHost msg m resolved, Option.map_some]

omit detailed in
theorem open_held (g : UInt32) (opened : OpenParams s.objects g) : (client env.protocol past).Holds g bufferParams := by
  rcases agrees.table g bufferParams opened.1 with held | ⟨callback, -⟩
  · exact held
  · exact absurd callback (by decide)

omit detailed in
theorem open_not_new (lawful : UnusedId env.protocol past (.took .gtk msg)) (g : UInt32) (opened : OpenParams s.objects g) :
    Traffic.introduces env.protocol (client env.protocol past) (.took .gtk msg) ≠ some g := by
  intro introduced
  obtain ⟨o, here, -⟩ := open_held s past agrees g opened
  rw [(lawful g introduced).2] at here
  cases here

-- An add that the client issues on an open params object, the relay resolves.
theorem open_add_resolved (g : UInt32) (opened : OpenParams s.objects g) (a : Requested)
    (asks : Traffic.asked env.protocol (client env.protocol past) (.took .gtk msg) = some a) (adds : a.isA bufferParams "add" = true)
    (own : senderOf a.msg = g) : ∃ m, Resolved env.protocol s.objects .clientToHost (headerOf msg) msg m ∧
      m.isRequest "zwp_linux_buffer_params_v1" "add" = true ∧ m.sender = g := by
  obtain ⟨o, here, mapped⟩ := Option.bind_eq_some_iff.mp asks
  obtain ⟨call, decoded, rfl⟩ := Option.map_eq_some_iff.mp mapped
  simp only [Requested.isA, decide_eq_true_eq] at adds own
  have known : s.objects.interface (senderOf msg) = some o.interface := by
    rw [own, opened.1, adds.1]
  obtain ⟨m, resolved⟩ := decode_resolved known decoded
  have same := resolved_asked detailed s msg past agrees m resolved
  rw [asks] at same
  simp only [Option.some.injEq, Requested.mk.injEq, true_and] at same
  obtain ⟨kind, rfl⟩ := same
  refine ⟨m, resolved, (is_request_iff _ _ _).mpr ⟨resolved.way, ?_, adds.2⟩, ?_⟩
  · rw [← kind, adds.1]
    rfl
  · rw [resolved_request env s.objects .clientToHost msg m resolved rfl, own]

variable (ambient : Ambient) (next : Session) {attached : Nat → List Fd} (long : headerLen ≤ msg.length)
  (lawful : UnusedId env.protocol past (.took .gtk msg))
  (gathers : Gathers env.protocol attached s.objects s.graph s.pendingDmabufPlanes past)

include lawful

omit detailed in
-- An add that is dropped was not on an open params object.
theorem dropped_gathers (table : SameTable s.objects next.objects) (rest : next = { s with objects := next.objects })
    (gathers : Gathers env.protocol attached s.objects s.graph s.pendingDmabufPlanes past)
    (spared : ∀ g a, OpenParams s.objects g → Traffic.asked env.protocol (client env.protocol past) (.took .gtk msg) = some a →
      a.isA bufferParams "add" = true → senderOf a.msg ≠ g) :
    Gathers env.protocol attached next.objects next.graph next.pendingDmabufPlanes (past ++ [.took .gtk msg]) := by
  rw [rest]
  refine ⟨fun g x opened after => ?_, fun entry member takes r after => ?_⟩
  · have before := OpensNoMore.same table g opened
    exact gathers.params g x before (gatherings_params_before after (open_not_new s msg past agrees lawful g before)
      fun a asks adds => spared g a before asks adds)
  · refine gathers.buffers entry member takes r (gatherings_buffers_before after fun introduced => ?_)
    obtain ⟨o, here, -⟩ := (agrees.recipes entry member).1
    rw [(lawful entry.1 introduced).2] at here
    cases here

section Noting

variable (m : Inbound) (created : Option Creation) (translated rewritten : Bytes) (noted : Session)
  (noting : RequestNoted env ambient s msg m created translated rewritten noted)

include noting

theorem created_new (c : Creation) (made : created = some c) :
    (callOf env.protocol m.desc m.walk msg).newId = some c.guestId ∧ (client env.protocol past).objects c.guestId = none := by
  subst made
  have introduces := noted_introduces env detailed ambient s msg past agrees m c translated rewritten noted noting
  exact ⟨(noted_creation env ambient s msg m c translated rewritten noted noting).1, (lawful _ introduces).2⟩

theorem sender_not_new (c : Creation) (made : created = some c) : m.sender ≠ c.guestId := by
  intro same
  obtain ⟨o, here, -⟩ := sender_held env detailed s msg m noting.resolved agrees
  have free := (created_new detailed s msg past agrees ambient lawful m created translated rewritten noted noting c made).2
  rw [← same, resolved_request env s.objects .clientToHost msg m noting.resolved rfl, here] at free
  cases free

theorem sender_open (found : (noted.objects.hostId m.sender).isSome = true) (params : m.interface.name = "zwp_linux_buffer_params_v1") :
    OpenParams s.objects m.sender := by
  have resolved := noting.resolved
  have apart : Traffic.introduces env.protocol (client env.protocol past) (.took .gtk msg) ≠ some m.sender := by
    intro introduced
    obtain ⟨o, here, -⟩ := sender_held env detailed s msg m resolved agrees
    rw [resolved_request env s.objects .clientToHost msg m resolved rfl] at introduced
    rw [(lawful _ introduced).2] at here
    cases here
  have listed : noted.objects.interface m.sender = some bufferParams := by
    rw [noted_interface env detailed ambient s msg past agrees m created translated rewritten noted noting m.sender apart,
      resolved_interface env s.objects .clientToHost msg m resolved, interface_named _ _ params]
    rfl
  rcases noted_opens ambient s msg m created translated rewritten noted noting m.sender ⟨listed, found⟩ with before | ⟨c, made, same⟩
  · exact before
  · exact absurd same (sender_not_new detailed s msg past agrees ambient lawful m created translated rewritten noted noting c made)

-- The buffers in the graph are as the client created them.
theorem noted_gathers_buffers (found : (noted.objects.hostId m.sender).isSome = true) (entry : UInt32 × Recreatable)
    (gathers : Gathers env.protocol attached s.objects s.graph s.pendingDmabufPlanes past)
    (member : entry ∈ noted.graph.recipes) (takes : entry.2.takesPlanes = true) (r : Recreatable)
    (after : (gatherings env.protocol attached (past ++ [.took .gtk msg])).buffers entry.1 = some r) : entry.2 = r := by
  have resolved := noting.resolved
  rcases noted_buffers ambient s msg m created translated rewritten noted noting entry member takes with
    before | ⟨c, offset, made, own, immed, located, recipe⟩
  · refine gathers.buffers entry before takes r (gatherings_buffers_before after fun introduced => ?_)
    obtain ⟨o, here, -⟩ := (agrees.recipes entry before).1
    rw [(lawful entry.1 introduced).2] at here
    cases here
  · obtain ⟨newId, -⟩ := created_new detailed s msg past agrees ambient lawful m created translated rewritten noted noting c made
    obtain ⟨-, params, named⟩ := (is_request_iff _ _ _).mp immed
    have asks := resolved_asked detailed s msg past agrees m resolved
    have isImmed : Requested.isA ⟨msg, m.interface, callOf env.protocol m.desc m.walk msg⟩ bufferParams "create_immed" = true := by
      simp only [Requested.isA, decide_eq_true_eq]
      exact ⟨interface_named _ _ params, named⟩
    rw [own] at after
    obtain ⟨y, gathered, is⟩ := (gatherings_taken asks isImmed newId).2 r after
    have sender : m.sender = senderOf msg := resolved_request env s.objects .clientToHost msg m resolved rfl
    have opened := sender_open detailed s msg past agrees ambient lawful m created translated rewritten noted noting found params
    have tracked := gathers.params m.sender y opened (by rw [sender]; exact gathered)
    rw [tracked, immediate_captured env detailed.toCovered s msg m resolved immed offset located translated noting.translation y] at recipe
    rw [is]
    exact (Option.some.inj recipe).symm

theorem stale_gathers (failed : noted.objects.hostId m.sender = none)
    (gathers : Gathers env.protocol attached s.objects s.graph s.pendingDmabufPlanes past) (discards : Discards noted next created) :
    Gathers env.protocol attached next.objects next.graph next.pendingDmabufPlanes (past ++ [.took .gtk msg]) := by
  have resolved := noting.resolved
  refine ⟨fun g x opened after => ?_, fun entry member takes r after => ?_⟩
  · have opened' := discards.opens g opened
    have sender : m.sender ≠ g := by
      rintro rfl
      have hosted := opened'.2
      rw [failed] at hosted
      cases hosted
    have apart : ∀ c, created = some c → g ≠ c.guestId := by
      intro c made same
      have listed := opened.1
      rw [same, (discards.creation c made).1] at listed
      cases listed
    rcases noted_opens ambient s msg m created translated rewritten noted noting g opened' with before | ⟨c, made, same⟩
    · rw [discards.planes, noted_lookup ambient s msg m created translated rewritten noted noting g apart fun _ _ _ => sender.symm]
      refine gathers.params g x before (gatherings_params_before after (open_not_new s msg past agrees lawful g before) fun a asks _ => ?_)
      rw [resolved_asked detailed s msg past agrees m resolved] at asks
      cases asks
      rw [← resolved_request env s.objects .clientToHost msg m resolved rfl]
      exact sender
    · exact absurd same (apart c made)
  · rcases noted_buffers ambient s msg m created translated rewritten noted noting entry (discards.recipes entry member) takes with
      before | ⟨c, _, made, own, -⟩
    · refine gathers.buffers entry before takes r (gatherings_buffers_before after fun introduced => ?_)
      obtain ⟨o, here, -⟩ := (agrees.recipes entry before).1
      rw [(lawful entry.1 introduced).2] at here
      cases here
    · exact absurd own ((discards.creation c made).2 entry member)

-- An open params object that was there before has the planes it had, and those
-- that an add brings.
theorem passed_params (disposal : Disposal) (payload : Bytes) (fds : List Fd)
    (planes : next.pendingDmabufPlanes = retainPlane noted.pendingDmabufPlanes m payload fds)
    (handled : Handled env ambient .clientToHost s (headerOf msg) msg disposal next)
    (found : (noted.objects.hostId m.sender).isSome = true)
    (arrives : ∀ a, Traffic.asked env.protocol (client env.protocol past) (.took .gtk msg) = some a → a.isA bufferParams "add" = true →
      ∃ fd, attached (gatherings env.protocol attached past).read = [fd] ∧ s.gtk.readFds.head? = some fd)
    (gathers : Gathers env.protocol attached s.objects s.graph s.pendingDmabufPlanes past) (g : UInt32) (x : UInt32 × List DmabufPlane)
    (opened : OpenParams s.objects g) (after : (gatherings env.protocol attached (past ++ [.took .gtk msg])).params g = some x) :
    next.pendingDmabufPlanes.lookup g = some x := by
  have resolved := noting.resolved
  have asks := resolved_asked detailed s msg past agrees m resolved
  have sender : m.sender = senderOf msg := resolved_request env s.objects .clientToHost msg m resolved rfl
  have fresh := open_not_new s msg past agrees lawful g opened
  by_cases adds : m.isRequest "zwp_linux_buffer_params_v1" "add" = true ∧ m.sender = g
  · obtain ⟨adds, rfl⟩ := adds
    obtain ⟨-, params, named⟩ := (is_request_iff _ _ _).mp adds
    have isAdd : Requested.isA ⟨msg, m.interface, callOf env.protocol m.desc m.walk msg⟩ bufferParams "add" = true := by
      simp only [Requested.isA, decide_eq_true_eq]
      exact ⟨interface_named _ _ params, named⟩
    obtain ⟨y, gathered, is⟩ := gatherings_added asks after isAdd sender.symm
    obtain ⟨fd, sent, queued⟩ := arrives _ asks isAdd
    obtain ⟨otherSide, hosted⟩ := Option.isSome_iff_exists.mp
      (sender_open detailed s msg past agrees ambient lawful m created translated rewritten noted noting found params).2
    have head : s.gtk.readFds.take 1 = [fd] := by
      obtain ⟨rest, queue⟩ := List.head?_eq_some_iff.mp queued
      rw [queue]
      rfl
    have long := (add_plain env detailed.toCovered s msg m resolved adds).2.2.2
    have tracked := gathers.params m.sender y opened gathered
    rw [add_turn env detailed.toCovered ambient s msg m resolved adds otherSide hosted disposal next handled, head, is, sent]
    simp only [retainPlane, adds, if_true, List.getLast?_singleton, Option.bind_some, plane_of_words msg fd long, tracked]
    rw [HashMap.lookup_insert, if_pos rfl]
    rfl
  · have gathered : (gatherings env.protocol attached past).params g = some x := by
      refine gatherings_params_before after fresh fun a asks' isAdd own => adds ?_
      rw [asks] at asks'
      cases asks'
      simp only [Requested.isA, decide_eq_true_eq] at isAdd
      exact ⟨(is_request_iff _ _ _).mpr ⟨resolved.way, by rw [isAdd.1]; rfl, isAdd.2⟩, sender.trans own⟩
    have kept : next.pendingDmabufPlanes.lookup g = noted.pendingDmabufPlanes.lookup g := by
      rw [planes]
      unfold retainPlane
      split
      · rename_i adding
        split
        · rw [HashMap.lookup_insert, if_neg fun same => adds ⟨adding, same.symm⟩]
        · rfl
      · rfl
    rw [kept, noted_lookup ambient s msg m created translated rewritten noted noting g]
    · exact gathers.params g x opened gathered
    · intro c made same
      have free := (created_new detailed s msg past agrees ambient lawful m created translated rewritten noted noting c made).2
      obtain ⟨o, here, -⟩ := open_held s past agrees g opened
      rw [← same, here] at free
      cases free
    · intro c made immed same
      obtain ⟨newId, -⟩ := created_new detailed s msg past agrees ambient lawful m created translated rewritten noted noting c made
      obtain ⟨-, params, named⟩ := (is_request_iff _ _ _).mp immed
      have isImmed : Requested.isA ⟨msg, m.interface, callOf env.protocol m.desc m.walk msg⟩ bufferParams "create_immed" = true := by
        simp only [Requested.isA, decide_eq_true_eq]
        exact ⟨interface_named _ _ params, named⟩
      have taken := (@gatherings_taken _ attached _ _ _ asks _ isImmed newId).1
      rw [same, sender] at after
      rw [taken] at after
      cases after

include long in
theorem passed_gathers (disposal : Disposal) (payload : Bytes) (fds : List Fd)
    (planes : next.pendingDmabufPlanes = retainPlane noted.pendingDmabufPlanes m payload fds)
    (objects : next.objects = noted.objects) (graph : next.graph = retainPool noted.graph m payload created fds)
    (handled : Handled env ambient .clientToHost s (headerOf msg) msg disposal next)
    (found : (noted.objects.hostId m.sender).isSome = true)
    (arrives : ∀ a, Traffic.asked env.protocol (client env.protocol past) (.took .gtk msg) = some a → a.isA bufferParams "add" = true →
      ∃ fd, attached (gatherings env.protocol attached past).read = [fd] ∧ s.gtk.readFds.head? = some fd)
    (gathers : Gathers env.protocol attached s.objects s.graph s.pendingDmabufPlanes past) :
    Gathers env.protocol attached next.objects next.graph next.pendingDmabufPlanes (past ++ [.took .gtk msg]) := by
  have resolved := noting.resolved
  refine ⟨fun g x opened after => ?_, fun entry member takes r after => ?_⟩
  · have opened' := opened
    rw [objects] at opened'
    rcases noted_opens ambient s msg m created translated rewritten noted noting g opened' with before | ⟨c, made, rfl⟩
    · exact passed_params detailed s msg past agrees ambient next lawful m created translated rewritten noted noting disposal payload fds
        planes handled found arrives gathers g x before after
    · -- A params object that has just come is open, so its create_params went through.
      obtain ⟨newId, free⟩ := created_new detailed s msg past agrees ambient lawful m created translated rewritten noted noting c made
      have sender : m.sender = senderOf msg := resolved_request env s.objects .clientToHost msg m resolved rfl
      have apart := sender_not_new detailed s msg past agrees ambient lawful m created translated rewritten noted noting c made
      obtain ⟨creates, is⟩ := gatherings_new (resolved_asked detailed s msg past agrees m resolved) after newId
        (by rw [← sender]; exact apart)
      simp only [Requested.isA, decide_eq_true_eq] at creates
      have asks : m.isRequest "zwp_linux_dmabuf_v1" "create_params" = true :=
        (is_request_iff _ _ _).mpr ⟨resolved.way, by rw [creates.1]; rfl, creates.2⟩
      rcases params_turn env ambient s msg m resolved long asks c.guestId newId disposal next handled with fresh | gone | same
      · rw [fresh, is, sender]
      · rw [opened.1] at gone
        cases gone
      · have known : s.objects.interface c.guestId = some bufferParams := same.symm.trans opened.1
        rcases agrees.table _ _ known with ⟨o, here, -⟩ | ⟨callback, -⟩
        · rw [free] at here
          cases here
        · exact absurd callback (by decide)
  · have before : entry ∈ noted.graph.recipes := by
      rw [graph] at member
      unfold retainPool at member
      split at member
      · split at member
        · rcases List.mem_append.mp member with old | new
          · exact old
          · rw [List.mem_singleton] at new
            subst new
            cases takes
        · exact member
      · exact member
    exact noted_gathers_buffers detailed s msg past agrees ambient lawful m created translated rewritten noted noting found entry gathers
      before takes r after

end Noting

include long in
theorem request_turn_gathers (grown : s.trace = past ++ [.took .gtk msg]) (disposal : Disposal)
    (handled : Handled env ambient .clientToHost s (headerOf msg) msg disposal next)
    (arrives : ∀ a, Traffic.asked env.protocol (client env.protocol past) (.took .gtk msg) = some a → a.isA bufferParams "add" = true →
      ∃ fd, attached (gatherings env.protocol attached past).read = [fd] ∧ s.gtk.readFds.head? = some fd)
    (gathers : Gathers env.protocol attached s.objects s.graph s.pendingDmabufPlanes past) :
    Gathers env.protocol attached next.objects next.graph next.pendingDmabufPlanes next.trace := by
  cases request_turn env detailed.toCovered ambient s msg long disposal next handled with
  | dropped table rest unseen =>
      have kept := dropped_gathers s msg past agrees next lawful table rest gathers fun g a opened asks adds own => by
        -- An add creates nothing and names no other object, so there is nothing to drop it for.
        obtain ⟨m, resolved, isAdd, -⟩ := open_add_resolved detailed s msg past agrees g opened a asks adds own
        obtain ⟨objects, newId, -⟩ := add_plain env detailed.toCovered s msg m resolved isAdd
        rcases unseen m resolved with failed | ⟨named, -⟩
        · rw [objects] at failed
          cases failed
        · exact named (by simp [callOf, newId])
      rwa [show next.trace = past ++ [.took .gtk msg] by rw [rest]; exact grown]
  | stale m created translated rewritten noted noting failed is =>
      obtain ⟨added, told, trace⟩ := (drop_stale_sender_frame env.protocol noted m created).trace
      have discards := drop_stale_sender_discards env.protocol noted m created
      rw [← is] at discards trace
      have kept := stale_gathers detailed s msg past agrees ambient next lawful m created translated rewritten noted noting failed gathers
        discards
      rw [trace, noting.trace, grown]
      exact kept.onward added fun entry member => by
        have own := told entry member
        cases entry with
        | sent => rfl
        | _ => cases own
  | passed m created translated rewritten out noted otherSide noting found outgoing is =>
      obtain ⟨objects, -⟩ := forward_parts ambient noted m created (writeSenderId out otherSide)
      obtain ⟨fds, graph, planes⟩ := forward_retains ambient noted m created (writeSenderId out otherSide)
      obtain ⟨sentFds, outcome, trace⟩ := forward_trace ambient noted m created (writeSenderId out otherSide)
      rw [← is] at objects graph planes trace
      have kept := passed_gathers detailed s msg past agrees ambient next long lawful m created translated rewritten noted noting disposal _ fds
        planes objects graph handled (by rw [found]; rfl) arrives gathers
      rw [trace, noting.trace, grown]
      split
      · exact kept.onward _ fun entry member => by
          obtain rfl := List.mem_singleton.mp member
          rfl
      · exact kept

end Requests

end WlResprox
