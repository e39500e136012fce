import Mathlib.Data.List.Induction
import WlResprox.Courses

set_option autoImplicit false

namespace WlResprox

def Traffic.toHost : Traffic → Bool
  | .sent m => m.peer = .host
  | _ => false

-- A request of the client's that did not get to the host whole.
def Sent.Severs (m : Sent) : Prop := m.peer = .host ∧ m.origin = .relayed ∧ m.outcome ≠ .complete

instance (m : Sent) : Decidable m.Severs := inferInstanceAs (Decidable (_ ∧ _))

def Traffic.severs : Traffic → Bool
  | .sent m => m.Severs
  | _ => false

-- Such a request is the last the connection has heard of.
def severed (history : List Traffic) : Bool :=
  history.foldl (fun cut entry => match entry with
    | .reconnected => false
    | entry => cut || entry.severs) false

-- After it nothing is written to the host until the connection is a new one.
def Silent (history : List Traffic) : Prop :=
  ∀ past failed between m later, history = past ++ .sent failed :: (between ++ .sent m :: later) → failed.Severs → m.peer = .host →
    .reconnected ∈ between

-- The law of a history in which that is so.
def Hush (past : List Traffic) (entry : Traffic) : Prop := entry.toHost = true → severed past = false

def Hushed (history : List Traffic) : Prop := Lawful Hush [] history

section Histories

variable (past : List Traffic)

theorem severed_snoc (entry : Traffic) :
    severed (past ++ [entry]) = match entry with
      | .reconnected => false
      | entry => severed past || entry.severs := by
  simp only [severed, List.foldl_append, List.foldl_cons, List.foldl_nil]

theorem severed_sent (m : Sent) (severs : m.Severs) : severed (past ++ [.sent m]) = true := by
  rw [severed_snoc]
  simp [Traffic.severs, severs]

theorem severed_stays (cut : severed past = true) (added : List Traffic) (same : .reconnected ∉ added) : severed (past ++ added) = true := by
  induction added using List.reverseRecOn with
  | nil => rwa [List.append_nil]
  | append_singleton added entry ih =>
      have earlier := ih fun member => same (List.mem_append_left _ member)
      rw [← List.append_assoc, severed_snoc]
      split
      · exact absurd (by simp) same
      · rw [earlier, Bool.true_or]

theorem severed_quiet (whole : severed past = false) (added : List Traffic) (quiet : ∀ entry ∈ added, entry.severs = false) :
    severed (past ++ added) = false := by
  induction added using List.reverseRecOn with
  | nil => rwa [List.append_nil]
  | append_singleton added entry ih =>
      have earlier := ih fun other member => quiet other (List.mem_append_left _ member)
      rw [← List.append_assoc, severed_snoc]
      split
      · rfl
      · rw [earlier, Bool.false_or]
        exact quiet entry (by simp)

end Histories

theorem Hushed.silent {history : List Traffic} (hushed : Hushed history) : Silent history := by
  intro past failed between m later split severs toHost
  by_contra same
  have cut := severed_stays _ (severed_sent past failed severs) between same
  have whole : severed (past ++ [.sent failed] ++ between) = false :=
    lawful_split Hush _ later (.sent m) history hushed (by rw [split]; simp) (by simp [Traffic.toHost, toHost])
  rw [whole] at cut
  cases cut

-- A stretch writes to the host only while no request has failed.
def Hushes (s s' : Session) : Prop := ∃ added, s'.trace = s.trace ++ added ∧ Lawful Hush s.trace added

namespace Hushes

variable {s s' s'' : Session}

theorem hushed (hushes : Hushes s s') (hushed : Hushed s.trace) : Hushed s'.trace := by
  obtain ⟨added, grown, fine⟩ := hushes
  rw [Hushed, grown, lawful_append]
  exact ⟨hushed, fine⟩

theorem trans (first : Hushes s s') (second : Hushes s' s'') : Hushes s s'' := by
  obtain ⟨added, grown, fine⟩ := first
  obtain ⟨more, grows, fine'⟩ := second
  rw [grown] at fine'
  exact ⟨added ++ more, by rw [grows, grown, List.append_assoc], (lawful_append _ _ _ _).mpr ⟨fine, fine'⟩⟩

-- A stretch that writes nothing to the host.
theorem mute (adds : Adds (fun entry => entry.toHost = false) s s') : Hushes s s' := by
  obtain ⟨added, quiet, grown⟩ := adds
  refine ⟨added, grown, lawful_of_each _ _ _ fun before entry after split toHost => ?_⟩
  have none := quiet entry (by rw [split]; simp)
  rw [none] at toHost
  cases toHost

-- A stretch in which the proxy writes on its own account, as long as nothing
-- has failed.
theorem unrelayed (whole : severed s.trace = false) (adds : Adds (fun entry => entry.severs = false) s s') : Hushes s s' := by
  obtain ⟨added, quiet, grown⟩ := adds
  refine ⟨added, grown, lawful_of_each _ _ _ fun before entry after split _ => severed_quiet _ whole before fun other member => quiet other ?_⟩
  rw [split]
  exact List.mem_append_left _ member

theorem once (whole : severed s.trace = false) (entry : Traffic) (grown : s'.trace = s.trace ++ [entry]) : Hushes s s' :=
  ⟨[entry], grown, fun _ => whole, trivial⟩

end Hushes

-- A request of the client's that gets through to a host that is there.
def GoesThrough (p : Protocol) (objects : ShadowTable) (msg : Bytes) : Prop :=
  ∃ m, Resolved p objects .clientToHost (headerOf msg) msg m ∧
    (translateObjects objects .clientToHost m.walk.objectOffsets msg).isSome = true ∧
    ((callOf p m.desc m.walk msg).newId = none ∨ (callOf p m.desc m.walk msg).child ≠ none) ∧
    ((objects.hostId m.sender).isSome = true ∨ (callOf p m.desc m.walk msg).newId = some m.sender)

-- The clipboard has something to offer and the host a seat to offer it on.
def CanClaim (ambient : Ambient) (s : Session) : Prop :=
  s.clipboardCache.cachedMimeTypes ambient.order ≠ [] ∧ s.reclaim.dataDeviceManagerGlobal ≠ none ∧
    (s.objects.findGuestIdByInterfaceName ambient.order "wl_registry").bind s.objects.hostId ≠ none ∧
    (s.objects.findGuestIdByInterfaceName ambient.order "wl_seat").bind s.objects.hostId ≠ none

-- An event of the host's that sets off the splice.
def Reclaims (p : Protocol) (ambient : Ambient) (s : Session) (msg : Bytes) : Prop :=
  intercepts s .hostToClient (headerOf msg) = false ∧ s.reclaim.pending = true ∧ CanClaim ambient s ∧
    ∃ m, Resolved p s.objects .hostToClient (headerOf msg) msg m ∧ m.carriesInputSerial = true ∧
      (translateObjects s.objects .hostToClient m.walk.objectOffsets msg).isSome = true

theorem mute_unsevering (entry : Traffic) (mute : entry.toHost = false) : entry.severs = false := by
  cases entry with
  | sent m =>
      simp only [Traffic.toHost, decide_eq_false_iff_not] at mute
      exact decide_eq_false fun severs => mute severs.1
  | _ => rfl

theorem tells_not_host {p : Protocol} (entry : Traffic) (tells : Tells p entry) : entry.toHost = false := by
  cases entry with
  | sent m => simp [Traffic.toHost, tells.1]
  | _ => rfl

section Relaying

variable (env : Env) (covered : Covered env.protocol) (ambient : Ambient) (s next : Session) (msg : Bytes)

-- Whatever is noted and has a sender for the host goes through.
theorem noted_goes_through (m : Inbound) (created : Option Creation) (translated rewritten : Bytes) (noted : Session)
    (noting : RequestNoted env ambient s msg m created translated rewritten noted)
    (found : (noted.objects.hostId m.sender).isSome = true) : GoesThrough env.protocol s.objects msg := by
  refine ⟨m, noting.resolved, by rw [noting.translating]; rfl, ?_⟩
  obtain ⟨graph, creates, -⟩ := noting.creates
  generalize noted.objects = objects at creates found
  generalize noted.pendingDmabufPlanes = planes at creates
  cases creates with
  | nothing quiet => exact ⟨.inl quiet, .inl found⟩
  | object c offset recipe planes' located newId child =>
      refine ⟨.inr (by simp [child]), ?_⟩
      by_cases own : m.sender = c.guestId
      · exact .inr (by rw [own]; exact newId)
      · by_cases null : m.sender = 0
        · exact .inl (by rw [null]; rfl)
        · obtain ⟨h, hosted⟩ := Option.isSome_iff_exists.mp found
          obtain ⟨same, -⟩ | ⟨-, -, before⟩ := (ShadowTable.host_id_map _ _ _ _ _ _ null).mp hosted
          · exact absurd same own
          · exact .inl (Option.isSome_iff_exists.mpr ⟨h, before⟩)

theorem request_turn_hushes (turn : RequestTurn env ambient s msg next)
    (calm : severed s.trace = true → s.frozen = false → ¬ GoesThrough env.protocol s.objects msg) : Hushes s next := by
  cases turn with
  | dropped table rest unseen => exact .mute (.same (by rw [rest]))
  | stale m created translated rewritten noted noting failed is =>
      have told : Adds (fun entry => entry.toHost = false) noted (answerStaleSender env.protocol noted m created) :=
        (answer_stale_sender_spec env.protocol noted m created).1.adds tells_not_host
      rw [is]
      exact .mute (.trans (.same noting.trace) (told.trans (.same (roll_back_creation_trace _ m created))))
  | passed m created translated rewritten out noted otherSide noting found outgoing is =>
      obtain ⟨fds, outcome, trace⟩ := forward_trace ambient noted m created (writeSenderId out otherSide)
      rw [← is, noting.trace] at trace
      have request : m.direction = .clientToHost := noting.resolved.way
      split at trace
      · rename_i alive
        have thawed : s.frozen = false := by
          rw [← noting.frozen]
          simpa [live, request] using alive
        refine .once ?_ _ trace
        by_contra cut
        exact calm (by simpa using cut) thawed (noted_goes_through env ambient s msg m created translated rewritten noted noting
          (by rw [found]; rfl))
      · exact .mute (.same trace)

-- Nothing but the splice asks the host for anything while an event is handled.
theorem splice_mute (m : Inbound) (payload : Bytes) (calm : s.reclaim.pending = true → m.carriesInputSerial = true → ¬ CanClaim ambient s) :
    (spliceOnInput ambient s m payload).trace = s.trace := by
  unfold spliceOnInput
  split
  · rename_i carries
    obtain ⟨pending, serial⟩ := Bool.and_eq_true_iff.mp carries
    have idle := calm pending serial
    split
    · rfl
    · unfold attemptClipboardSplice
      dsimp only
      split
      · rfl
      · rename_i offers
        split
        · rename_i ddm registry seat known bound seated
          split
          · rename_i registryHost seatHost translated seatTranslated
            exact absurd ⟨offers, by rw [known]; nofun, by rw [bound, Option.bind_some, translated]; nofun,
              by rw [seated, Option.bind_some, seatTranslated]; nofun⟩ idle
          · rfl
        · rfl
  · rfl

include covered in
-- An input event creates nothing and deletes nothing.
theorem serial_event_changes_nothing (m : Inbound) (resolved : Resolved env.protocol s.objects .hostToClient (headerOf msg) msg m)
    (serial : m.carriesInputSerial = true) (translated rewritten renamed : Bytes) (created : Option Creation)
    (introduced forgotten : Session) (introducing : introduceObject env.protocol s m translated = .ok (created, introduced, rewritten))
    (forgetting : forgetDeleted introduced m rewritten = some (forgotten, renamed)) : forgotten = s := by
  obtain ⟨quiet, other⟩ := serial_event_quiet env covered s msg m resolved serial
  obtain ⟨-, same⟩ := quiet_event_creates_nothing env s msg m resolved translated rewritten created introduced introducing quiet
  obtain ⟨kept, -⟩ := forget_deleted_other _ _ _ _ _ forgetting fun deletes => other deletes.1
  rw [kept, same]

include covered in
theorem event_turn_mute (disposal : Disposal) (handled : Handled env ambient .hostToClient s (headerOf msg) msg disposal next)
    (calm : ¬ Reclaims env.protocol ambient s msg) : Adds (fun entry => entry.toHost = false) s next := by
  cases handled with
  | intercepted intercepting =>
      refine (handle_synthetic_served ambient s msg (headerOf msg).opcode).2.2.2.mono fun entry served => ?_
      cases entry with
      | served => rfl
      | _ => cases served
  | unknown | parseError | untranslatable => exact .same rfl
  | unresolvableChild m translated dropped resolved translating failed =>
      obtain ⟨-, -, rfl | ⟨guest, name, rfl⟩⟩ := introduce_object_error _ _ _ _ _ failed
      · exact .same rfl
      · exact .same rfl
  | untrackedDeleteId m translated rewritten created next resolved translating introducing failed =>
      obtain ⟨-, -, rfl, -⟩ | ⟨_, _, _, -, -, -, rfl, -⟩ := introduce_object_ok _ _ _ _ _ _ _ introducing
      · exact .same rfl
      · exact .same rfl
  | passedOn m translated rewritten renamed created introduced forgotten next disposal spared resolved translating introducing
      forgetting passing =>
      have event : m.direction = .hostToClient := resolved.way
      have kept : forgotten.trace = s.trace := by
        have first : introduced.trace = s.trace := by
          obtain ⟨-, -, rfl, -⟩ | ⟨_, _, _, -, -, -, rfl, -⟩ := introduce_object_ok _ _ _ _ _ _ _ introducing <;> rfl
        obtain ⟨rfl, -⟩ | ⟨_, _, -, -, -, -, rfl, -⟩ := forget_deleted_some _ _ _ _ _ forgetting <;> exact first
      have calmed : (observeInput ambient forgotten m (renamed.drop headerLen)).trace = s.trace := by
        rw [← kept]
        refine splice_mute ambient _ m _ fun pending serial claims => ?_
        rw [serial_event_changes_nothing env covered s msg m resolved serial translated rewritten renamed created introduced forgotten
          introducing forgetting] at pending claims
        exact calm ⟨spared, pending, claims, m, resolved, serial, by rw [translating]; rfl⟩
      cases passing with
      | staleGeneration updated is stale => exact .same (by rw [is]; exact calmed)
      | untranslatedSender noted is failed =>
          rw [otherSideSenderId, event] at failed
          cases failed
      | forwarded noted otherSide is fresh found =>
          obtain ⟨fds, outcome, trace⟩ := forward_trace ambient noted m created
            (writeSenderId (updateRecipes env ambient (observeInput ambient forgotten m (renamed.drop headerLen)).graph m renamed).2 otherSide)
          have observed : noted.trace = s.trace := by rw [is]; exact calmed
          rw [observed] at trace
          split at trace
          · exact ⟨[_], by simp [Traffic.toHost, event, Direction.dst], trace⟩
          · exact .same trace

-- While it handles an event the proxy relays nothing to the host.
theorem event_turn_unrelayed (turn : EventTurn env ambient s msg next) : Adds (fun entry => entry.severs = false) s next := by
  cases turn with
  | unheard table books grabs trace =>
      refine trace.mono fun entry served => ?_
      cases entry with
      | served => rfl
      | _ => cases served
  | heard m created deleted renamed noted noting outgoing names is =>
      have event : m.direction = .hostToClient := noting.resolved.way
      obtain ⟨fds, outcome, trace⟩ := forward_trace ambient noted m created (writeSenderId renamed m.sender)
      have asked : Adds (fun entry => entry.severs = false) s noted := noting.trace.mono fun entry asks => by
        cases entry with
        | sent m => exact decide_eq_false fun severs => absurd (asks.2.1.symm.trans severs.2.1) (by decide)
        | _ => cases asks
      rw [← is] at trace
      refine asked.trans ?_
      split at trace
      · exact ⟨[_], by simp [Traffic.severs, Sent.Severs, event, Direction.dst], trace⟩
      · exact .same trace

end Relaying

-- What a recipe other than a global's is asked of, the object it is to go with,
-- and the request.
def Recreatable.request : Recreatable → Option (UInt32 × Option UInt32 × String)
  | .global _ _ => none
  | .surface parent => some (parent, none, "create_surface")
  | .xdgSurface parent other => some (parent, some other, "get_xdg_surface")
  | .xdgToplevel parent _ _ => some (parent, none, "get_toplevel")
  | .shmPool wlShm _ _ => some (wlShm, none, "create_pool")
  | .shmBuffer pool _ _ _ _ _ => some (pool, none, "create_buffer")
  | .dmabufBuffer dmabuf _ _ _ _ _ => some (dmabuf, none, "create_params")
  | .seatDevice seat kind => some (seat, none, kind.requestName)
  | .viewport viewporter other _ => some (viewporter, some other, "get_viewport")
  | .fractionalScale manager other => some (manager, some other, "get_fractional_scale")

-- What the recipe needs is there again, so that its replay gets to writing.
def Remakes (p : Protocol) (globals : Globals) (objects : ShadowTable) (recipe : Recreatable) : Prop :=
  match recipe, recipe.request with
  | .global interface _, _ => interface.name ∈ recreatableGlobals ∧ globals.lookup interface.name ≠ none
  | _, some (parent, other, request) => objects.hostId parent ≠ none ∧ objects.hostId (other.getD 0) ≠ none ∧
      (objects.interface parent).bind (fun interface => requestOpcode p interface request) ≠ none
  | _, none => False

section Replaying

variable {p : Protocol} (s : Session)

theorem recreate_child_idle (guestId parent : UInt32) (other : Option UInt32) (request : String) (values : UInt32 → UInt32 → List WaylandValue)
    (lacks : ¬(s.objects.hostId parent ≠ none ∧ s.objects.hostId (other.getD 0) ≠ none ∧
      (s.objects.interface parent).bind (fun interface => requestOpcode p interface request) ≠ none)) :
    recreateChild p s guestId parent other request values = .skipped s := by
  unfold recreateChild
  split
  · rename_i interface parentHostId otherHostId known hosted otherHosted
    have unable : requestOpcode p interface request = none := by
      by_contra able
      exact lacks ⟨by rw [hosted]; nofun, by rw [otherHosted]; nofun, by rw [known]; exact able⟩
    rw [requestChild, unable]
  · rfl

theorem replay_recipe_idle (globals : Globals) (registry : Interface) (registryHostId guestId : UInt32) (recipe : Recreatable)
    (lacks : ¬ Remakes p globals s.objects recipe) (t : Session) (handshake : Option Handshake)
    (replayed : replayRecipe p globals registry registryHostId s guestId recipe = some (t, handshake)) : t = s := by
  have plain : ∀ {outcome : Option Session}, outcome = some s → outcome.map (fun s => (s, (none : Option Handshake))) = some (t, handshake) →
      t = s := by
    intro outcome is reached
    rw [is] at reached
    cases reached
    rfl
  have child : ∀ parent other request (values : UInt32 → UInt32 → List WaylandValue), recipe.request = some (parent, other, request) →
      recreateChild p s guestId parent other request values = .skipped s := by
    intro parent other request values asks
    refine recreate_child_idle s guestId parent other request values fun able => lacks ?_
    unfold Remakes
    split
    · cases asks
    · rename_i asks'
      rw [asks] at asks'
      cases asks'
      exact able
    · rename_i asks'
      rw [asks] at asks'
      cases asks'
  cases recipe with
  | global interface version =>
      have absent : (if interface.name ∈ recreatableGlobals then globals.lookup interface.name else none) = none := by
        split
        · rename_i listed
          by_contra some
          exact lacks ⟨listed, some⟩
        · rfl
      exact plain (by rw [recreateGlobal, absent]) replayed
  | xdgToplevel parent title appId =>
      rw [replayRecipe, recreateXdgToplevel, child _ _ _ _ rfl] at replayed
      cases replayed
      rfl
  | viewport viewporter other destination =>
      exact plain (by rw [recreateViewport, child _ _ _ _ rfl]; rfl) replayed
  | dmabufBuffer dmabuf width height format flags planes =>
      refine plain ?_ replayed
      unfold recreateDmabufBuffer
      split
      · rename_i interface hostId known hosted
        have unable : requestOpcode p interface "create_params" = none := by
          by_contra able
          exact lacks ⟨by rw [hosted]; nofun, by simp, by rw [known]; exact able⟩
        rw [requestChild, unable]
        rfl
      · rfl
  | surface parent => exact plain (by rw [recreateSurface, child _ _ _ _ rfl]; rfl) replayed
  | xdgSurface parent other => exact plain (by rw [recreateXdgSurface, child _ _ _ _ rfl]; rfl) replayed
  | shmPool wlShm fd size => exact plain (by rw [recreateShmPool, child _ _ _ _ rfl]; rfl) replayed
  | shmBuffer pool offset width height stride format => exact plain (by rw [recreateShmBuffer, child _ _ _ _ rfl]; rfl) replayed
  | seatDevice seat kind => exact plain (by rw [recreateSeatDevice, child _ _ _ _ rfl]; rfl) replayed
  | fractionalScale manager other => exact plain (by rw [recreateFractionalScale, child _ _ _ _ rfl]; rfl) replayed

end Replaying

-- The step has no cause to write to the host.
def Writeless (env : Env) (st : State) (event : Event) : Prop :=
  match event, st.control with
  | .turn _, .relaying .clientToHost => st.session.frozen = false → ∀ taken, takeMessage st.session.gtk.readBuf = some taken →
      ¬ GoesThrough env.protocol st.session.objects taken.1
  | .turn ambient, .relaying .hostToClient => ∀ taken, takeMessage st.session.host.readBuf = some taken →
      ¬ Reclaims env.protocol ambient st.session taken.1
  | .turn _, .awaitingAck h _ => ∀ taken, takeMessage st.session.gtk.readBuf = some taken →
      ¬(senderOf taken.1 = h.xdgSurfaceGuestId ∧
        some (opcodeOfMessage taken.1) = requestOpcode env.protocol h.xdgSurface "ack_configure")
  | .turn _, .replaying r => ∀ entry rest, r.rest = entry :: rest →
      ¬ Remakes env.protocol r.globals st.session.objects entry.2
  | _, _ => True

-- Once a request did not get through whole, nothing comes up that would have
-- to be written.
def LeavesOff (env : Env) (st : State) (event : Event) : Prop := severed st.session.trace = true → Writeless env st event

section Transitions

variable {env : Env} (covered : Covered env.protocol) {st next : State} {event : Event}

theorem heed_ack_hushes (s : Session) (h : Handshake) (r : Replay) (msg : Bytes)
    (calm : severed s.trace = true → ¬(senderOf msg = h.xdgSurfaceGuestId ∧
      some (opcodeOfMessage msg) = requestOpcode env.protocol h.xdgSurface "ack_configure")) :
    Hushes s (heedAck env.protocol s h r msg).session := by
  unfold heedAck
  split
  · rename_i acks
    have whole : severed s.trace = false := by
      by_contra cut
      exact calm (by simpa using cut) acks
    have acked : Hushes s (s.writeMessage .host .relayed h.xdgSurface
        (buildMessage h.xdgSurfaceHostId (opcodeOfMessage msg) (msg.drop headerLen)) []).2 := .once whole _ rfl
    exact acked.trans (.mute (.ended _ _ fun _ => rfl))
  · exact .mute (.same rfl)

theorem resume_mute (p : Protocol) (order : HashOrder) (s : Session) :
    Adds (fun entry => entry.toHost = false) s (resume p order s).session :=
  ((synthesize_grab_releases_frame p s order).adds tells_not_host).trans (.log _ _ rfl)

theorem replay_turn_hushes (order : HashOrder) (s : Session) (r : Replay)
    (calm : severed s.trace = true → ∀ entry rest, r.rest = entry :: rest → ¬ Remakes env.protocol r.globals s.objects entry.2) :
    Hushes s (replayTurn env.protocol order s r).session := by
  unfold replayTurn
  split
  · exact .mute (((settle_recovery_frame env.protocol s order r.globals).adds tells_not_host).trans (resume_mute _ _ _))
  · rename_i guestId recipe rest more
    have replays : ∀ t handshake, replayRecipe env.protocol r.globals r.registry r.registryHostId s guestId recipe = some (t, handshake) →
        Hushes s t := by
      intro t handshake replayed
      by_cases cut : severed s.trace = true
      · have idle := replay_recipe_idle s _ _ _ _ recipe (calm cut (guestId, recipe) rest more) t handshake replayed
        exact .mute (.same (by rw [idle]))
      · have frame := replay_recipe_frame env.protocol s r.globals r.registry r.registryHostId guestId recipe t _ replayed
        refine .unrelayed (by simpa using cut) (frame.frame.adds fun entry writes => ?_)
        cases entry with
        | sent m => simp [Traffic.severs, Sent.Severs, writes.2]
        | _ => rfl
    split
    · exact .mute (.same rfl)
    · rename_i t replayed
      exact replays t _ replayed
    · rename_i t handshake replayed
      exact replays t _ replayed

theorem begin_recovery_unrelayed (p : Protocol) (order : HashOrder) (s : Session) :
    Adds (fun entry => entry.severs = false) s (beginRecovery p order s).session := by
  have resumed : ∀ s', Adds (fun entry => entry.severs = false) s' (resume p order s').session := fun s' =>
    (resume_mute p order s').mono mute_unsevering
  let begun := { s with reclaim := { s.reclaim with activeSourceHostId := none } }
  have asks : ∀ registryGuestId, Adds (fun entry => entry.severs = false) s (askForGlobals begun registryGuestId).2 := by
    intro registryGuestId
    have asked := (ask_for_globals_frame begun registryGuestId).adds fun entry writes => show entry.severs = false by
      cases entry with
      | sent m => exact decide_eq_false fun severs => writes.2 severs.2.1
      | _ => rfl
    exact Adds.trans (.same rfl) asked
  simp only [beginRecovery]
  split
  · exact resumed begun
  · rename_i registryGuestId found
    split
    · exact .same rfl
    · split
      · rename_i failed wrote
        rw [show failed = (askForGlobals begun registryGuestId).2 from (Prod.ext_iff.mp wrote).2.symm]
        exact asks registryGuestId
      · rename_i written wrote
        rw [show written = (askForGlobals begun registryGuestId).2 from (Prod.ext_iff.mp wrote).2.symm]
        exact asks registryGuestId

include covered

theorem transition_hushes (transition : Transition env st event next) (leaves : LeavesOff env st event) :
    Hushes st.session next.session := by
  cases transition with
  | readClient | clientGone | readAck | readHost | readRegistry | readConfigure | relayDone | cached => exact .mute (.same rfl)
  | hostGone s => exact .mute ⟨[.lost], by simp [Traffic.toHost], rfl⟩
  | ackGone | registryGone | configureGone | configureLapse | ackLapse => exact .mute (.ended _ _ fun _ => rfl)
  | relayed s handled direction ambient disposal turned =>
      obtain ⟨msg, consumed, answered, taken, handling, rfl⟩ := relay_turn_some env ambient direction s handled disposal turned
      have long : headerLen ≤ msg.length := by
        rw [take_message_length _ _ _ taken]
        exact (take_message_spec _ _ _ taken).1
      have result := relay_message_handled env ambient direction (s.log (.took direction.src msg)) (headerOf msg) msg
      rw [handling] at result
      have took : Hushes s (s.log (.took direction.src msg)) := .mute (.log _ _ rfl)
      have same : severed (s.log (.took direction.src msg)).trace = severed s.trace := by
        rw [Session.log, severed_snoc]
        exact Bool.or_false _
      refine took.trans ?_
      cases direction with
      | clientToHost =>
          refine request_turn_hushes env ambient _ answered msg (request_turn env covered ambient _ msg long disposal answered result) ?_
          rw [same]
          exact fun cut thawed => leaves cut thawed (msg, consumed) taken
      | hostToClient =>
          by_cases cut : severed s.trace = true
          · exact .mute (event_turn_mute env covered ambient _ answered msg disposal result (leaves cut (msg, consumed) taken))
          · exact .unrelayed (by rw [same]; simpa using cut) (event_turn_unrelayed env ambient _ answered msg
              (event_turn env covered ambient _ msg long disposal answered result))
  | skimRegistry s w ambient msg consumed =>
      exact .mute (.trans (.skimmed s .host consumed msg rfl) (heed_registry_adds _ msg (fun _ _ => rfl) w))
  | skimConfigure s h r ambient msg consumed =>
      exact .mute (.trans (.skimmed s .host consumed msg rfl) (heed_configure_adds _ msg (fun _ _ => rfl) env.protocol h r fun _ _ _ _ => rfl))
  | skimAck s h r ambient msg consumed taken =>
      have skims : Hushes s (skimmed s .gtk consumed msg) := .mute (.skimmed s .gtk consumed msg rfl)
      have same : severed (skimmed s .gtk consumed msg).trace = severed s.trace := (severed_snoc s.trace (.skimmed .gtk msg)).trans (Bool.or_false _)
      refine skims.trans (heed_ack_hushes _ h r msg ?_)
      rw [same]
      exact fun cut => leaves cut (msg, consumed) taken
  | replayed s r ambient => exact replay_turn_hushes ambient.order s r leaves
  | reconnect s ambient outcomes frozen =>
      have renewed : Hushes s (reconnected s outcomes) := .mute ⟨[.reconnected], by simp [Traffic.toHost], rfl⟩
      exact renewed.trans (.unrelayed (severed_snoc s.trace .reconnected) (begin_recovery_unrelayed env.protocol ambient.order _))

end Transitions

-- In every run that leaves off once a request has failed.
theorem silent_once_severed (env : Env) (covered : Covered env.protocol) (gtkOutcomes hostOutcomes : List WriteOutcome)
    (cache : ClipboardCache) (events : List Event) (st : State)
    (run : Runs (step env) (LeavesOff env) (start gtkOutcomes hostOutcomes cache) events st) : Silent st.session.trace := by
  have hushed : Hushed st.session.trace := run.invariant (fun st => Hushed st.session.trace) (show Hushed [] from trivial)
    fun s event next hushed leaves taken => (transition_hushes covered (step_transition env s event next taken) leaves).hushed hushed
  exact hushed.silent

def leavesOff (st : State) (event : Event) : Bool :=
  !severed st.session.trace ||
    match event, st.control with
    | .turn _, .relaying .clientToHost => (takeMessage st.session.gtk.readBuf).isNone
    | .turn _, _ => false
    | _, _ => true

theorem leaves_off_sound (st : State) (event : Event) (checked : leavesOff st event = true) : LeavesOff coreEnv st event := by
  intro cut
  simp only [leavesOff, cut, Bool.not_true, Bool.false_or] at checked
  unfold Writeless
  split
  · rename_i relaying
    simp only [relaying, Option.isNone_iff_eq_none] at checked
    intro _ taken is
    rw [checked] at is
    cases is
  all_goals first | trivial | (rename_i waits; simp only [waits, Bool.false_eq_true] at checked)

-- The client's first request is cut short on the way to the host.
def cutShort : State := start [] [.failed 4] ClipboardCache.new

-- The host closes the connection, and the requests after it go to the new one.
def cutThenRestarted : List Event :=
  .gtkReadable (.data (requestRegistry 2) []) :: turns 2 ++ [.hostReadable .error, reconnectCore, .hostReadable (.data registryDone [])] ++
    turns 2 ++ [.gtkReadable (.data (buildMessage 1 0 (putU32 [] 3)) [])] ++ turns 1

theorem silent_once_severed_restarted : ∃ st, Runs (step coreEnv) (LeavesOff coreEnv) cutShort cutThenRestarted st ∧
    Silent st.session.trace ∧ st.session.trace.any Traffic.severs = true ∧ st.session.frozen = false := by
  have fold : (checkedRun leavesOff cutShort cutThenRestarted).map (fun st =>
      (st.session.trace.any Traffic.severs, st.session.frozen)) = some (true, false) := by
    decide +kernel
  obtain ⟨st, reached, facts⟩ := Option.map_eq_some_iff.mp fold
  simp only [Prod.mk.injEq] at facts
  have run := Runs.of_checked leavesOff leaves_off_sound reached
  exact ⟨st, run, silent_once_severed coreEnv core_covered [] [.failed 4] ClipboardCache.new _ st run, facts⟩

-- The host has read half a get_registry, and then gets the sync.
theorem cut_request_followed : ∃ st, Runs (step coreEnv) (fun _ _ => True) cutShort
      (.gtkReadable (.data (requestRegistry 2 ++ buildMessage 1 0 (putU32 [] 3)) []) :: turns 2) st ∧ ¬ Silent st.session.trace := by
  have fold : (checkedRun unchecked cutShort
      (.gtkReadable (.data (requestRegistry 2 ++ buildMessage 1 0 (putU32 [] 3)) []) :: turns 2)).map (fun st => decide (st.session.trace =
        [.took .gtk (requestRegistry 2), .sent ⟨.host, .relayed, wlDisplay, requestRegistry 2, [], .failed 4⟩,
          .took .gtk (buildMessage 1 0 (putU32 [] 3)),
          .sent ⟨.host, .relayed, wlDisplay, buildMessage 1 0 (putU32 [] 3), [], .complete⟩])) = some true := by
    decide +kernel
  obtain ⟨st, reached, traced⟩ := Option.map_eq_some_iff.mp fold
  rw [decide_eq_true_eq] at traced
  refine ⟨st, unchecked_run reached, fun silent => ?_⟩
  have renewed := silent [_] _ [_] _ [] traced (by decide) rfl
  simp at renewed

end WlResprox
