import WlResprox.Courses

set_option autoImplicit false

namespace WlResprox

-- An event of the proxy's own making, by its interface, name, object and
-- payload.
def Traffic.Told (p : Protocol) (fine : Interface → String → UInt32 → Bytes → Prop) : Traffic → Prop
  | .sent m => m.peer = .gtk ∧ m.origin = .own ∧ ∃ event guestId opcode payload, eventOpcode p m.interface event = some opcode ∧
      m.msg = buildMessage guestId opcode payload ∧ fine m.interface event guestId payload
  | _ => False

abbrev Tell (p : Protocol) (fine : Interface → String → UInt32 → Bytes → Prop) (s s' : Session) : Prop :=
  Frame everyPeer (Traffic.Told p fine) s s'

variable {p : Protocol} {fine : Interface → String → UInt32 → Bytes → Prop}

theorem Traffic.Told.mono {fine' : Interface → String → UInt32 → Bytes → Prop} {entry : Traffic} (told : entry.Told p fine)
    (more : ∀ interface event guestId payload, fine interface event guestId payload → fine' interface event guestId payload) :
    entry.Told p fine' := by
  cases entry with
  | sent m =>
      obtain ⟨toClient, own, event, guestId, opcode, payload, listed, built, stands⟩ := told
      exact ⟨toClient, own, event, guestId, opcode, payload, listed, built, more _ _ _ _ stands⟩
  | _ => cases told

-- What the client reads of an event built for it is that event.
theorem told_reads (covered : Covered p) (interface : Interface) (event : String) (guestId : UInt32) (opcode : UInt16)
    (payload : Bytes) (listed : eventOpcode p interface event = some opcode) (call : Call)
    (decoded : decode p .hostToClient interface (buildMessage guestId opcode payload) = some call) :
    call.desc.name = event ∧ call.desc ∈ p.events interface := by
  obtain ⟨desc, at_opcode, member, named⟩ := opcode_listed _ _ _ (covered.events interface) listed
  obtain ⟨walk, here, -, -⟩ := decode_inv _ _ _ _ _ decoded
  rw [opcode_of_built] at here
  have same : desc = call.desc := Option.some.inj (at_opcode.symm.trans here)
  exact ⟨by rw [← same]; exact named, by rw [← same]; exact member⟩

theorem Traffic.Told.deletes (covered : Covered p) {entry : Traffic} (told : entry.Told p fine) {g : UInt32}
    (gone : entry.deletes p = some g) : ∃ interface guestId payload, fine interface "delete_id" guestId payload ∧ wordAt payload 0 = g := by
  cases entry with
  | sent m =>
      obtain ⟨peer, origin, interface, bytes, fds, outcome⟩ := m
      obtain ⟨toClient, own, event, guestId, opcode, payload, listed, built, stands⟩ := told
      dsimp only at toClient own listed built stands
      subst toClient own built
      obtain ⟨named, word⟩ := told_deletes covered _ _ _ _ _ _ _ _ _ _ listed gone
      rw [named] at stands
      exact ⟨interface, guestId, payload, stands, word.symm⟩
  | _ => cases told

theorem tell_client_told (s : Session) (guestId : UInt32) (interface : Interface) (event : String) (payload : Bytes)
    (stands : fine interface event guestId payload) : Tell p fine s (tellClient p s guestId interface event payload) := by
  unfold tellClient
  split
  · exact .refl s
  · rename_i opcode listed
    exact .write s _ _ _ _ _ fun outcome => ⟨rfl, rfl, event, guestId, opcode, payload, listed, rfl, stands⟩

theorem synthesize_delete_id_told (s : Session) (guestId : UInt32)
    (stands : ∀ display, s.objects.interface 1 = some display → fine display "delete_id" 1 (putU32 [] guestId)) :
    Tell p fine s (synthesizeDeleteId p s guestId) := by
  unfold synthesizeDeleteId
  split
  · exact .refl s
  · rename_i display known
    exact tell_client_told s _ _ _ _ (stands display known)

theorem synthesize_frame_done_told (s : Session) (callback : UInt32)
    (done : ∀ interface, s.objects.interface callback = some interface → fine interface "done" callback (putU32 [] 0))
    (deleted : (s.objects.interface callback).isSome = true →
      ∀ display, s.objects.interface 1 = some display → fine display "delete_id" 1 (putU32 [] callback)) :
    Tell p fine s (synthesizeFrameDone p s callback) := by
  unfold synthesizeFrameDone
  split
  · exact .refl s
  · rename_i interface known
    refine (tell_client_told s _ _ _ _ (done interface known)).trans (synthesize_delete_id_told _ callback fun display shown => ?_)
    rw [tell_client_objects] at shown
    exact deleted (by rw [known]; rfl) display shown

-- The answers to a request that found no sender: a destructor's own id is
-- deleted, a frame's callback is done and deleted.
inductive StaleAnswer (m : Inbound) (created : Option Creation) : Interface → String → UInt32 → Bytes → Prop where
  | destroyed (destroys : m.desc.isDestructor = true) (display : Interface) :
      StaleAnswer m created display "delete_id" 1 (putU32 [] m.sender)
  | done (c : Creation) (made : created = some c) (frame : m.isRequest "wl_surface" "frame" = true) (interface : Interface) :
      StaleAnswer m created interface "done" c.guestId (putU32 [] 0)
  | deleted (c : Creation) (made : created = some c) (frame : m.isRequest "wl_surface" "frame" = true) (display : Interface) :
      StaleAnswer m created display "delete_id" 1 (putU32 [] c.guestId)

theorem stale_answer_event {m : Inbound} {created : Option Creation} {interface : Interface} {event : String} {guestId : UInt32}
    {payload : Bytes} (answer : StaleAnswer m created interface event guestId payload) : event = "done" ∨ event = "delete_id" := by
  cases answer with
  | done => exact .inl rfl
  | destroyed | deleted => exact .inr rfl

theorem stale_answer_deletes {m : Inbound} {created : Option Creation} {interface : Interface} {event : String} {guestId : UInt32}
    {payload : Bytes} (answer : StaleAnswer m created interface event guestId payload) (deletes : event = "delete_id") :
    (m.desc.isDestructor = true ∧ wordAt payload 0 = m.sender) ∨ ∃ c, created = some c ∧ wordAt payload 0 = c.guestId := by
  cases answer with
  | destroyed destroys => exact .inl ⟨destroys, word_at_to_ne_bytes m.sender []⟩
  | done => exact absurd deletes (by decide)
  | deleted c made => exact .inr ⟨c, made, word_at_to_ne_bytes c.guestId []⟩

theorem drop_stale_sender_told (s : Session) (m : Inbound) (created : Option Creation) :
    Tell p (StaleAnswer m created) s (dropStaleSender p s m created) := by
  have answered : Tell p (StaleAnswer m created) s (answerStaleSender p s m created) := by
    unfold answerStaleSender
    split
    · rename_i destroys
      exact (synthesize_delete_id_told s m.sender fun display _ => .destroyed destroys.2 display).then_same rfl rfl rfl rfl
    · split
      · rename_i frame
        split
        · exact .refl s
        · rename_i c
          exact synthesize_frame_done_told s c.guestId (fun interface _ => .done c rfl frame interface)
            fun _ display _ => .deleted c rfl frame display
      · exact .refl s
  refine answered.trans ?_
  cases created with
  | none => exact .refl _
  | some phantom =>
      obtain ⟨objects, -, rolled⟩ := roll_back_creation_some (answerStaleSender p s m (some phantom)) m phantom
      rw [dropStaleSender, rolled]
      exact .same rfl rfl rfl rfl

section Settling

-- What a recovery that settles tells: buffers are released, and the callbacks
-- that wait are done and deleted.
inductive SettleAnswer (s : Session) : Interface → String → UInt32 → Bytes → Prop where
  | release (buffer : UInt32) (interface : Interface) (inFlight : buffer ∈ s.bufferFlow.inFlight.keys)
      (known : s.objects.interface buffer = some interface) : SettleAnswer s interface "release" buffer []
  | done (callback : UInt32) (interface : Interface) (awaited : callback ∈ s.pendingFrames.awaitingDone.keys)
      (known : s.objects.interface callback = some interface) : SettleAnswer s interface "done" callback (putU32 [] 0)
  | deleted (callback : UInt32) (display : Interface) (awaited : callback ∈ s.pendingFrames.awaitingDone.keys)
      (known : (s.objects.interface callback).isSome = true) (shown : s.objects.interface 1 = some display) :
      SettleAnswer s display "delete_id" 1 (putU32 [] callback)

theorem settle_answer_event {s : Session} {interface : Interface} {event : String} {guestId : UInt32} {payload : Bytes}
    (answer : SettleAnswer s interface event guestId payload) : event ∈ ["release", "done", "delete_id"] := by
  cases answer with
  | release | done | deleted => decide

theorem fold_keeps_told {β : Type} (objects : ShadowTable) (f : Session → β → Session) (rows : List β) (s : Session)
    (at_start : s.objects = objects) (keeps : ∀ s b, (f s b).objects = s.objects)
    (each : ∀ s b, b ∈ rows → s.objects = objects → Tell p fine s (f s b)) : Tell p fine s (rows.foldl f s) := by
  induction rows generalizing s with
  | nil => exact .refl _
  | cons b rest ih =>
      exact (each s b List.mem_cons_self at_start).trans (ih (f s b) ((keeps s b).trans at_start)
        fun s c member => each s c (List.mem_cons_of_mem _ member))

theorem drain_in_flight_objects (order : HashOrder) (s : Session) : (drainInFlight p order s).objects = s.objects :=
  fold_objects (releaseInFlight p) (fun s buffer => release_in_flight_objects p s buffer) _ _

theorem drain_in_flight_frames (order : HashOrder) (s : Session) : (drainInFlight p order s).pendingFrames = s.pendingFrames := by
  have aside : Aside { s with bufferFlow := (s.bufferFlow.drainInFlight order).2 } (drainInFlight p order s) :=
    Aside.fold _ (release_in_flight_aside p) _ _
  exact aside.pendingFrames

theorem drain_in_flight_told (order : HashOrder) (s : Session) : Tell p (SettleAnswer s) s (drainInFlight p order s) := by
  let emptied := { s with bufferFlow := (s.bufferFlow.drainInFlight order).2 }
  have opened : Tell p (SettleAnswer s) s emptied := .same rfl rfl rfl rfl
  refine opened.trans (fold_keeps_told s.objects (releaseInFlight p) _ emptied rfl
    (fun s buffer => release_in_flight_objects p s buffer) fun t buffer member table => ?_)
  unfold releaseInFlight
  rw [table]
  split
  · rename_i interface hostId known found
    exact tell_client_told t _ _ _ _ (.release buffer interface ((HashOrder.mem_arrange _ _ _).mp member) known)
  · exact .refl _

theorem settle_recovery_told (order : HashOrder) (globals : Globals) (s : Session) :
    Tell p (SettleAnswer s) s (settleRecovery p order globals s) := by
  have answered : Tell p (SettleAnswer s) (drainInFlight p order s) (drainAwaitingDone p order (drainInFlight p order s)) := by
    let emptied := { drainInFlight p order s with
      pendingFrames := ((drainInFlight p order s).pendingFrames.drainAwaitingDone order).2 }
    have opened : Tell p (SettleAnswer s) (drainInFlight p order s) emptied := .same rfl rfl rfl rfl
    refine opened.trans (fold_keeps_told s.objects (synthesizeFrameDone p) _ emptied (drain_in_flight_objects order s)
      (fun s callback => synthesize_frame_done_objects p s callback) fun t callback member table => ?_)
    have awaited : callback ∈ s.pendingFrames.awaitingDone.keys := by
      rw [← drain_in_flight_frames (p := p) order s]
      exact (HashOrder.mem_arrange _ _ _).mp member
    refine synthesize_frame_done_told t callback (fun interface known => ?_) fun known display shown => ?_
    · rw [table] at known
      exact .done callback interface awaited known
    · rw [table] at known shown
      exact .deleted callback display awaited known shown
  exact ((drain_in_flight_told order s).trans answered).then_same rfl rfl rfl rfl

end Settling

section Grabs

-- The events that let go of the grabs a tracker has.
inductive GrabRelease (objects : ShadowTable) (grabs : GrabTracker) : Interface → String → UInt32 → Bytes → Prop where
  | pointerLeave (pointer : UInt32) (state : PointerState) (surface : UInt32) (interface : Interface) (serial : UInt32)
      (tracked : grabs.pointers.lookup pointer = some state) (entered : state.enteredSurface = some surface)
      (known : objects.interface pointer = some interface) :
      GrabRelease objects grabs interface "leave" pointer (putU32 [] serial ++ putU32 [] surface)
  | button (pointer : UInt32) (state : PointerState) (button : UInt32) (interface : Interface) (serial : UInt32)
      (tracked : grabs.pointers.lookup pointer = some state) (pressed : button ∈ state.pressedButtons)
      (known : objects.interface pointer = some interface) :
      GrabRelease objects grabs interface "button" pointer (putU32 [] serial ++ putU32 (putU32 (putU32 [] 0) button) 0)
  | keyboardLeave (keyboard surface : UInt32) (interface : Interface) (serial : UInt32)
      (tracked : grabs.keyboards.lookup keyboard = some ⟨some surface⟩)
      (known : objects.interface keyboard = some interface) :
      GrabRelease objects grabs interface "leave" keyboard (putU32 [] serial ++ putU32 [] surface)

theorem grab_release_event {objects : ShadowTable} {grabs : GrabTracker} {interface : Interface} {event : String} {guestId : UInt32}
    {payload : Bytes} (release : GrabRelease objects grabs interface event guestId payload) : event = "leave" ∨ event = "button" := by
  cases release with
  | button => exact .inr rfl
  | pointerLeave | keyboardLeave => exact .inl rfl

theorem grab_event_told (guestId : UInt32) (interface : Interface) (event : String) (rest : Bytes) (st : UInt32 × Session)
    (stands : ∀ serial, fine interface event guestId (putU32 [] serial ++ rest)) :
    Tell p fine st.2 (grabEvent p guestId interface event rest st).2 := by
  unfold grabEvent
  split
  · exact .refl _
  · exact tell_client_told _ _ _ _ _ (stands st.1)

-- A fold whose steps keep the table can speak of the table it began with.
theorem fold_told {β : Type} (objects : ShadowTable) (f : UInt32 × Session → β → UInt32 × Session) (rows : List β)
    (st : UInt32 × Session) (at_start : st.2.objects = objects)
    (keeps : ∀ st b, b ∈ rows → (f st b).2.objects = st.2.objects)
    (each : ∀ st b, b ∈ rows → st.2.objects = objects → Tell p fine st.2 (f st b).2) : Tell p fine st.2 (rows.foldl f st).2 := by
  induction rows generalizing st with
  | nil => exact .refl _
  | cons b rest ih =>
      refine (each st b List.mem_cons_self at_start).trans (ih (f st b) ((keeps st b List.mem_cons_self).trans at_start) ?_ ?_)
      · exact fun st c member => keeps st c (List.mem_cons_of_mem _ member)
      · exact fun st c member => each st c (List.mem_cons_of_mem _ member)

theorem release_pointer_grab_objects (st : UInt32 × Session) (grab : UInt32 × Option UInt32 × List UInt32) :
    (releasePointerGrab p st grab).2.objects = st.2.objects := by
  unfold releasePointerGrab
  split
  · rfl
  · refine (grab_fold_objects _ (fun st button => grab_event_objects _ _ _ _ _ st) _ _).trans ?_
    split
    · rfl
    · exact grab_event_objects _ _ _ _ _ st

theorem release_keyboard_grab_objects (st : UInt32 × Session) (grab : UInt32 × UInt32) :
    (releaseKeyboardGrab p st grab).2.objects = st.2.objects := by
  unfold releaseKeyboardGrab
  split
  · rfl
  · exact grab_event_objects _ _ _ _ _ st

theorem mem_active_pointer_grabs (grabs : GrabTracker) (order : HashOrder) (grab : UInt32 × Option UInt32 × List UInt32) :
    grab ∈ grabs.activePointerGrabs order ↔ ∃ state, grabs.pointers.lookup grab.1 = some state ∧
      (state.enteredSurface.isSome || !state.pressedButtons.isEmpty) = true ∧ grab.2 = (state.enteredSurface, state.pressedButtons) := by
  simp only [GrabTracker.activePointerGrabs, List.mem_map, List.mem_filter, HashOrder.mem_arrange]
  constructor
  · rintro ⟨⟨id, state⟩, ⟨member, active⟩, rfl⟩
    exact ⟨state, (HashMap.mem_entries _ _ _).mp member, active, rfl⟩
  · rintro ⟨state, found, active, same⟩
    exact ⟨⟨grab.1, state⟩, ⟨(HashMap.mem_entries _ _ _).mpr found, active⟩, Prod.ext rfl same.symm⟩

theorem mem_active_keyboard_grabs (grabs : GrabTracker) (order : HashOrder) (grab : UInt32 × UInt32) :
    grab ∈ grabs.activeKeyboardGrabs order ↔ grabs.keyboards.lookup grab.1 = some ⟨some grab.2⟩ := by
  simp only [GrabTracker.activeKeyboardGrabs, List.mem_filterMap, HashOrder.mem_arrange]
  constructor
  · rintro ⟨⟨id, ⟨entered⟩⟩, member, found⟩
    obtain ⟨surface, rfl, rfl⟩ := Option.map_eq_some_iff.mp found
    exact (HashMap.mem_entries _ _ _).mp member
  · intro found
    exact ⟨⟨grab.1, ⟨some grab.2⟩⟩, (HashMap.mem_entries _ _ _).mpr found, rfl⟩

theorem synthesize_grab_releases_told (order : HashOrder) (s : Session) :
    Tell p (GrabRelease s.objects s.grabs) s (synthesizeGrabReleases p order s) := by
  have pointers : Tell p (GrabRelease s.objects s.grabs) s ((s.grabs.activePointerGrabs order).foldl (releasePointerGrab p) (1, s)).2 := by
    refine fold_told s.objects (releasePointerGrab p) _ (1, s) rfl (fun st grab _ => release_pointer_grab_objects st grab)
      fun st grab member table => ?_
    obtain ⟨state, tracked, -, same⟩ := (mem_active_pointer_grabs _ _ _).mp member
    unfold releasePointerGrab
    rw [table, same]
    split
    · exact .refl _
    · rename_i interface known
      refine Frame.trans ?_ (fold_told s.objects _ state.pressedButtons _ ?_ (fun st button _ => grab_event_objects _ _ _ _ _ st)
        fun st button pressed _ => grab_event_told _ _ _ _ st fun serial => .button grab.1 state button interface serial tracked pressed known)
      · split
        · exact .refl _
        · rename_i surface entered
          exact grab_event_told _ _ _ _ st fun serial => .pointerLeave grab.1 state surface interface serial tracked entered known
      · split
        · exact table
        · exact (grab_event_objects _ _ _ _ _ st).trans table
  have table : ((s.grabs.activePointerGrabs order).foldl (releasePointerGrab p) (1, s)).2.objects = s.objects :=
    grab_fold_objects _ release_pointer_grab_objects _ _
  have keyboards : Tell p (GrabRelease s.objects s.grabs) ((s.grabs.activePointerGrabs order).foldl (releasePointerGrab p) (1, s)).2
      ((s.grabs.activeKeyboardGrabs order).foldl (releaseKeyboardGrab p)
        ((s.grabs.activePointerGrabs order).foldl (releasePointerGrab p) (1, s))).2 := by
    refine fold_told s.objects (releaseKeyboardGrab p) _ _ table (fun st grab _ => release_keyboard_grab_objects st grab)
      fun st grab member table => ?_
    have tracked := (mem_active_keyboard_grabs _ _ _).mp member
    unfold releaseKeyboardGrab
    rw [table]
    split
    · exact .refl _
    · rename_i interface known
      exact grab_event_told _ _ _ _ st fun serial => .keyboardLeave grab.1 grab.2 interface serial tracked known
  exact (pointers.trans keyboards).then_same rfl rfl rfl rfl

end Grabs

end WlResprox
