import WlResprox.Hands

set_option autoImplicit false

namespace WlResprox

-- A stretch in which an entry of this kind is written.
def Reaches (kind : Traffic → Prop) (s s' : Session) : Prop :=
  ∃ added, s'.trace = s.trace ++ added ∧ ∃ entry ∈ added, kind entry

section Releasing

variable {p : Protocol} {kind : Traffic → Prop} {s s' s'' : Session}

theorem Reaches.after (earlier : s.trace <+: s'.trace) (reaches : Reaches kind s' s'') : Reaches kind s s'' := by
  obtain ⟨first, grown⟩ := earlier
  obtain ⟨added, is, entry, member, fine⟩ := reaches
  exact ⟨first ++ added, by rw [is, ← grown, List.append_assoc], entry, List.mem_append_right _ member, fine⟩

theorem Reaches.before (reaches : Reaches kind s s') (later : s'.trace <+: s''.trace) : Reaches kind s s'' := by
  obtain ⟨last, grown⟩ := later
  obtain ⟨added, is, entry, member, fine⟩ := reaches
  exact ⟨added ++ last, by rw [← grown, is, List.append_assoc], entry, List.mem_append_left _ member, fine⟩

theorem frame_grows {kept : Peer → Prop} {allowed : Traffic → Prop} (frame : Frame kept allowed s s') : s.trace <+: s'.trace := by
  obtain ⟨added, -, grown⟩ := frame.trace
  exact ⟨added, grown.symm⟩

-- Folds over a session, or over one with a serial beside it.
theorem fold_grows {σ β : Type} (view : σ → Session) (f : σ → β → σ) (grows : ∀ st b, (view st).trace <+: (view (f st b)).trace)
    (rows : List β) (st : σ) : (view st).trace <+: (view (rows.foldl f st)).trace := by
  induction rows generalizing st with
  | nil => exact List.prefix_rfl
  | cons b rest ih => exact (grows st b).trans (ih (f st b))

-- What one row of a fold reaches, the fold reaches.
theorem fold_reaches {σ β : Type} (view : σ → Session) (objects : ShadowTable) (f : σ → β → σ) (rows : List β) (row : β)
    (member : row ∈ rows) (st : σ) (at_start : (view st).objects = objects)
    (keeps : ∀ st b, (view (f st b)).objects = (view st).objects) (grows : ∀ st b, (view st).trace <+: (view (f st b)).trace)
    (reach : ∀ st, (view st).objects = objects → Reaches kind (view st) (view (f st row))) :
    Reaches kind (view st) (view (rows.foldl f st)) := by
  induction rows generalizing st with
  | nil => cases member
  | cons b rest ih =>
      rcases List.mem_cons.mp member with rfl | later
      · exact (reach st at_start).before (fold_grows view f grows rest _)
      · exact (ih later (f st b) ((keeps st b).trans at_start)).after (grows st b)

theorem grab_event_grows (guestId : UInt32) (interface : Interface) (event : String) (rest : Bytes) (st : UInt32 × Session) :
    st.2.trace <+: (grabEvent p guestId interface event rest st).2.trace := by
  refine frame_grows (@grab_event_told p (fun _ _ _ _ => True) guestId interface event rest st fun _ => trivial)

theorem release_pointer_grab_grows (st : UInt32 × Session) (grab : UInt32 × Option UInt32 × List UInt32) :
    st.2.trace <+: (releasePointerGrab p st grab).2.trace := by
  unfold releasePointerGrab
  split
  · exact List.prefix_rfl
  · rename_i interface known
    refine List.IsPrefix.trans ?_ (fold_grows Prod.snd _ (fun st button => grab_event_grows _ _ _ _ st) _ _)
    split
    · exact List.prefix_rfl
    · exact grab_event_grows _ _ _ _ st

theorem release_keyboard_grab_grows (st : UInt32 × Session) (grab : UInt32 × UInt32) :
    st.2.trace <+: (releaseKeyboardGrab p st grab).2.trace := by
  unfold releaseKeyboardGrab
  split
  · exact List.prefix_rfl
  · exact grab_event_grows _ _ _ _ st

-- An event of the proxy's own, as the client reads it.
structure OwnEvent (p : Protocol) (device : UInt32) (interface : Interface) (event : String) (payload : Bytes) (sent : Sent) : Prop where
  toClient : sent.peer = .gtk
  own : sent.origin = .own
  known : sent.interface = interface
  sender : senderOf sent.msg = device
  carries : sent.msg.drop headerLen = payload
  reads : ∃ call, decode p .hostToClient interface sent.msg = some call ∧ call.desc.name = event

-- The event is written when the tables list it.
theorem tell_client_writes (covered : Covered p) (guestId : UInt32) (interface : Interface) (desc : MessageDesc) (payload : Bytes)
    (listed : (p.events interface).find? (fun other => other.name = desc.name) = some desc)
    (walks : ∃ walk, walkSignature payload desc.signature = .ok walk) (s : Session) :
    ∃ sent, (tellClient p s guestId interface desc.name payload).trace = s.trace ++ [.sent sent] ∧
      OwnEvent p guestId interface desc.name payload sent := by
  obtain ⟨walk, fits⟩ := walks
  obtain ⟨opcode, found, decoded⟩ := built_decodes covered interface desc listed guestId payload walk fits
  simp only [tellClient, found]
  exact ⟨_, Session.write_trace _ _ _ _ _ _, rfl, rfl, rfl, sender_of_built _ _ _, build_message_payload _ _ _, _, decoded, rfl⟩

theorem grab_event_releases (covered : Covered p) (guestId : UInt32) (interface : Interface) (desc : MessageDesc) (rest : Bytes)
    (listed : (p.events interface).find? (fun other => other.name = desc.name) = some desc)
    (walks : ∀ serial, ∃ walk, walkSignature (putU32 [] serial ++ rest) desc.signature = .ok walk) (st : UInt32 × Session) :
    ∃ sent, (grabEvent p guestId interface desc.name rest st).2.trace = st.2.trace ++ [.sent sent] ∧
      OwnEvent p guestId interface desc.name (putU32 [] st.1 ++ rest) sent := by
  obtain ⟨walk, fits⟩ := walks st.1
  obtain ⟨opcode, found, -⟩ := built_decodes covered interface desc listed guestId (putU32 [] st.1 ++ rest) walk fits
  simp only [grabEvent, found, reduceCtorEq, if_false]
  exact tell_client_writes covered guestId interface desc _ listed (walks st.1) st.2

theorem OwnEvent.gesture {device : UInt32} {interface : Interface} {event : String} {payload : Bytes} {sent : Sent}
    (releases : OwnEvent p device interface event payload sent) :
    Traffic.gesture p (.sent sent) = (gestureOf interface event payload).map fun gesture => (device, gesture) := by
  obtain ⟨call, decoded, named⟩ := releases.reads
  simp only [Traffic.gesture, releases.toClient, if_true, releases.known, decoded, Option.bind_some, releases.carries, releases.sender,
    named]

theorem grab_event_reaches (covered : Covered p) (guestId : UInt32) (interface : Interface) (desc : MessageDesc) (rest : Bytes)
    (gesture : Gesture) (listed : (p.events interface).find? (fun other => other.name = desc.name) = some desc)
    (walks : ∀ serial, ∃ walk, walkSignature (putU32 [] serial ++ rest) desc.signature = .ok walk)
    (felt : ∀ serial, gestureOf interface desc.name (putU32 [] serial ++ rest) = some gesture) (st : UInt32 × Session) :
    Reaches (fun entry => entry.gesture p = some (guestId, gesture)) st.2 (grabEvent p guestId interface desc.name rest st).2 := by
  obtain ⟨sent, trace, releases⟩ := grab_event_releases covered guestId interface desc rest listed walks st
  have gesture := releases.gesture
  rw [felt st.1] at gesture
  exact ⟨_, trace, _, List.mem_singleton_self _, gesture⟩

theorem leave_walks (surface serial : UInt32) : ∃ walk, walkSignature (putU32 [] serial ++ putU32 [] surface) [.uint, .object] = .ok walk :=
  ⟨⟨none, [4], 0, none⟩, rfl⟩

theorem button_walks (button serial : UInt32) :
    ∃ walk, walkSignature (putU32 [] serial ++ putU32 (putU32 (putU32 [] 0) button) 0) [.uint, .uint, .uint, .uint] = .ok walk :=
  ⟨⟨none, [], 0, none⟩, rfl⟩

theorem button_gesture (button serial : UInt32) :
    gestureOf ⟨"wl_pointer"⟩ "button" (putU32 [] serial ++ putU32 (putU32 (putU32 [] 0) button) 0) = some (.button button 0) := by
  simp only [gestureOf]
  rw [show wordAt (putU32 [] serial ++ putU32 (putU32 (putU32 [] 0) button) 0) 8 = button from word_at_to_ne_bytes button []]
  rfl

variable (order : HashOrder) (s : Session)

theorem pointers_reach (grab : UInt32 × Option UInt32 × List UInt32) (active : grab ∈ s.grabs.activePointerGrabs order)
    (gesture : Gesture) (reach : ∀ st : UInt32 × Session, st.2.objects = s.objects →
      Reaches (fun entry => entry.gesture p = some (grab.1, gesture)) st.2 (releasePointerGrab p st grab).2) :
    Reaches (fun entry => entry.gesture p = some (grab.1, gesture)) s (synthesizeGrabReleases p order s) := by
  have pointers := fold_reaches Prod.snd s.objects (releasePointerGrab p) _ grab active (1, s) rfl release_pointer_grab_objects
    release_pointer_grab_grows reach
  exact pointers.before (fold_grows Prod.snd (releaseKeyboardGrab p) release_keyboard_grab_grows _ _)

variable (detailed : Detailed p)

include detailed

-- A focus the tracker has is let go of.
theorem focus_released (kind : SeatDeviceKind) (device surface : UInt32) (focused : s.grabs.focus kind device = some surface)
    (known : s.objects.interface device = some kind.interface) :
    Reaches (fun entry => entry.gesture p = some (device, .leave)) s (synthesizeGrabReleases p order s) := by
  cases kind with
  | pointer =>
      have tracked : ∃ state, s.grabs.pointers.lookup device = some state ∧ state.enteredSurface = some surface := by
        simp only [GrabTracker.focus, GrabTracker.pointer] at focused
        cases found : s.grabs.pointers.lookup device with
        | none => simp [found] at focused
        | some state => exact ⟨state, rfl, by simpa [found] using focused⟩
      obtain ⟨state, tracked, entered⟩ := tracked
      have active := (mem_active_pointer_grabs s.grabs order (device, state.enteredSurface, state.pressedButtons)).mpr
        ⟨state, tracked, by simp [entered], rfl⟩
      refine pointers_reach order s _ active .leave fun st table => ?_
      simp only [releasePointerGrab, table, known, entered]
      exact Reaches.before (grab_event_reaches detailed.toCovered device _ ⟨"leave", false, [.uint, .object], none⟩ (putU32 [] surface) .leave
        detailed.pointerLeave (leave_walks surface) (fun _ => rfl) st) (fold_grows Prod.snd _ (fun st button => grab_event_grows _ _ _ _ st) _ _)
  | keyboard =>
      have tracked : s.grabs.keyboards.lookup device = some ⟨some surface⟩ := by
        obtain ⟨⟨entered⟩, found, is⟩ := Option.bind_eq_some_iff.mp focused
        cases is
        exact found
      have active := (mem_active_keyboard_grabs s.grabs order (device, surface)).mpr tracked
      have table : ((s.grabs.activePointerGrabs order).foldl (releasePointerGrab p) (1, s)).2.objects = s.objects :=
        grab_fold_objects _ release_pointer_grab_objects _ _
      have keyboards := @fold_reaches (fun entry => entry.gesture p = some (device, .leave)) _ _ Prod.snd s.objects (releaseKeyboardGrab p) _
        (device, surface) active ((s.grabs.activePointerGrabs order).foldl (releasePointerGrab p) (1, s)) table
        release_keyboard_grab_objects release_keyboard_grab_grows fun st table => by
          simp only [releaseKeyboardGrab, table, known]
          exact grab_event_reaches detailed.toCovered device _ ⟨"leave", false, [.uint, .object], none⟩ (putU32 [] surface) .leave
            detailed.keyboardLeave (leave_walks surface) (fun _ => rfl) st
      exact Reaches.after (fold_grows Prod.snd (releasePointerGrab p) release_pointer_grab_grows _ (1, s)) keyboards
  | touch => cases focused

-- A button the tracker has is let go of.
theorem button_released (device button : UInt32) (pressed : s.grabs.pressed device button = true)
    (known : s.objects.interface device = some SeatDeviceKind.pointer.interface) :
    Reaches (fun entry => entry.gesture p = some (device, .button button 0)) s (synthesizeGrabReleases p order s) := by
  have tracked : ∃ state, s.grabs.pointers.lookup device = some state ∧ button ∈ state.pressedButtons := by
    simp only [GrabTracker.pressed, GrabTracker.pointer] at pressed
    cases found : s.grabs.pointers.lookup device with
    | none => simp [found] at pressed
    | some state => exact ⟨state, rfl, by simpa [found] using pressed⟩
  obtain ⟨state, tracked, down⟩ := tracked
  have active := (mem_active_pointer_grabs s.grabs order (device, state.enteredSurface, state.pressedButtons)).mpr
    ⟨state, tracked, by simp [List.ne_nil_of_mem down], rfl⟩
  refine pointers_reach order s _ active (.button button 0) fun st table => ?_
  simp only [releasePointerGrab, table, known]
  have reach : ∀ st : UInt32 × Session, Reaches (fun entry => entry.gesture p = some (device, .button button 0)) st.2
      (grabEvent p device SeatDeviceKind.pointer.interface "button" (putU32 (putU32 (putU32 [] 0) button) 0) st).2 := fun st =>
    grab_event_reaches detailed.toCovered device _ ⟨"button", false, [.uint, .uint, .uint, .uint], none⟩ _ (.button button 0)
      detailed.pointerButton (button_walks button) (button_gesture button) st
  refine Reaches.after ?_ (fold_reaches Prod.snd s.objects _ state.pressedButtons button down _ ?_
    (fun st button => grab_event_objects _ _ _ _ _ st) (fun st button => grab_event_grows _ _ _ _ st) fun st _ => reach st)
  · split
    · exact List.prefix_rfl
    · exact grab_event_grows _ _ _ _ st
  · split
    · exact table
    · exact (grab_event_objects _ _ _ _ _ st).trans table

end Releasing

section Connected

-- Whether a host is connected: from a recovery's end to the next loss.
def connected (history : List Traffic) : Bool :=
  history.foldl (fun up entry => match entry with | .lost | .reconnected => false | .resumed => true | _ => up) true

-- A session is frozen while it has no host.
def Upright (s : Session) : Prop := connected s.trace = !s.frozen

variable {s s' : Session}

theorem connected_along (history added : List Traffic) (plain : ∀ entry ∈ added, entry ≠ .lost ∧ entry ≠ .reconnected ∧ entry ≠ .resumed) :
    connected (history ++ added) = connected history :=
  fold_quiet _ _ _ _ fun entry member up => by
    obtain ⟨present, renewed, stopped⟩ := plain entry member
    cases entry with
    | lost | reconnected | resumed => contradiction
    | _ => rfl

theorem upright_log (upright : Upright s) (entry : Traffic) (plain : entry ≠ .lost ∧ entry ≠ .reconnected ∧ entry ≠ .resumed) :
    Upright (s.log entry) :=
  (connected_along s.trace [entry] fun e member => by rw [List.mem_singleton.mp member]; exact plain).trans upright

theorem handles_plain (entry : Traffic) (handles : Handles entry) : entry ≠ .lost ∧ entry ≠ .reconnected ∧ entry ≠ .resumed := by
  cases entry with
  | sent | served => exact ⟨nofun, nofun, nofun⟩
  | _ => cases handles

theorem Frame.upright {kept : Peer → Prop} (frame : Frame kept Handles s s') (upright : Upright s) : Upright s' := by
  obtain ⟨added, fine, grown⟩ := frame.trace
  rw [Upright, grown, connected_along _ _ fun entry member => handles_plain entry (fine entry member), frame.frozen]
  exact upright

theorem resume_upright (p : Protocol) (order : HashOrder) (s : Session) : Upright (resume p order s).session := by
  simp [Upright, connected, resume, Session.log]

theorem begin_recovery_upright (p : Protocol) (order : HashOrder) (upright : Upright s) :
    Upright (beginRecovery p order s).session := by
  have asks : ∀ (t : Session) registryGuestId, Upright t → Upright (askForGlobals t registryGuestId).2 := by
    intro t registryGuestId before
    have frame : Frame everyPeer Handles t (askForGlobals t registryGuestId).2 := (ask_for_globals_frame t registryGuestId).handles
    exact frame.upright before
  simp only [beginRecovery]
  split
  · exact resume_upright _ _ _
  · split
    · exact upright
    · split
      · rename_i failed asked
        rw [← show _ = failed from congrArg Prod.snd asked]
        exact asks _ _ upright
      · rename_i written asked
        rw [← show _ = written from congrArg Prod.snd asked]
        exact asks _ _ upright

theorem transition_upright {env : Env} {st next : State} {event : Event} (transition : Transition env st event next)
    (upright : Upright st.session) : Upright next.session := by
  have ended : ∀ (s : Session) peer, Upright s → Upright (endWait s peer) := fun s peer upright =>
    upright_log upright _ (by simp)
  have took : ∀ (s : Session) peer consumed msg, Upright s → Upright (skimmed s peer consumed msg) := fun s peer consumed msg upright =>
    upright_log upright _ (by simp)
  cases transition with
  | readClient | clientGone | readAck | readHost | readRegistry | readConfigure | relayDone | cached => exact upright
  | ackGone | registryGone | configureGone | configureLapse | ackLapse => exact ended _ _ upright
  | hostGone => simp [Upright, connected, freeze, Session.log]
  | relayed s next direction ambient disposal turned =>
      obtain ⟨msg, consumed, handled, taken, handling, rfl⟩ := relay_turn_some env ambient direction s next disposal turned
      have frame := relay_message_frame (s.log (.took direction.src msg)) env ambient direction (headerOf msg) msg
      rw [handling] at frame
      exact frame.upright (upright_log upright (.took direction.src msg) (by simp))
  | skimRegistry s w ambient msg consumed =>
      have skim := took s .host consumed msg upright
      unfold heedRegistry
      split
      · exact skim
      · split
        · exact ended _ _ skim
        · exact skim
  | skimConfigure s h r ambient msg consumed =>
      have skim := took s .host consumed msg upright
      unfold heedConfigure
      split
      · split
        · rename_i written passed
          exact (pass_to_client_frame _ _ _ _ _ _ passed).upright skim
        · rename_i failed passed
          exact ended _ _ ((pass_to_client_frame _ _ _ _ _ _ passed).upright skim)
      · split
        · split
          · rename_i written passed
            exact ended _ _ ((pass_to_client_frame _ _ _ _ _ _ passed).upright skim)
          · rename_i failed passed
            exact ended _ _ ((pass_to_client_frame _ _ _ _ _ _ passed).upright skim)
        · exact skim
  | skimAck s h r ambient msg consumed =>
      have skim := took s .gtk consumed msg upright
      unfold heedAck
      split
      · exact ended _ _ (upright_log skim (.sent _) (by simp))
      · exact skim
  | replayed s r ambient =>
      unfold replayTurn
      split
      · exact resume_upright _ _ _
      · rename_i guestId recipe rest _
        have replays : ∀ t handshake, replayRecipe env.protocol r.globals r.registry r.registryHostId s guestId recipe = some (t, handshake) →
            Upright t := by
          intro t handshake replayed
          have frame : Frame everyPeer Handles s t := (replay_recipe_frame env.protocol s _ _ _ _ _ t _ replayed).frame.handles
          exact frame.upright upright
        split
        · exact upright
        · rename_i t replayed
          exact replays t _ replayed
        · rename_i t handshake replayed
          exact replays t _ replayed
  | reconnect s ambient outcomes frozen =>
      refine begin_recovery_upright _ _ ?_
      simp [Upright, connected, reconnected, Session.log, frozen]

end Connected

-- A device of this kind, to the client and in the table.
structure Seated (p : Protocol) (s : Session) (kind : SeatDeviceKind) (device : UInt32) : Prop where
  held : (client p s.trace).Holds device kind.interface
  listed : s.objects.interface device = some kind.interface

-- What the client's devices hold the tracker knows of.
structure Felt (p : Protocol) (s : Session) : Prop where
  focus : ∀ device surface born, (hands p s.trace).focus device = some (surface, born) →
    ∃ kind, Seated p s kind device ∧ s.grabs.focus kind device = some surface
  pressed : ∀ device button, (hands p s.trace).pressed device button = true →
    Seated p s .pointer device ∧ s.grabs.pressed device button = true

theorem kind_not_callback (kind : SeatDeviceKind) : kind.interface ≠ wlCallback := by
  cases kind <;> decide

theorem kind_interface_injective (kind other : SeatDeviceKind) (same : kind.interface = other.interface) : kind = other := by
  cases kind <;> cases other <;> first | rfl | exact absurd same (by decide)

theorem Felt.along {p : Protocol} {s s' : Session} (felt : Felt p s) (added : List Traffic) (grown : s'.trace = s.trace ++ added)
    (easy : ∀ entry ∈ added, entry.Easy p) (grabs : s'.grabs = s.grabs)
    (seats : ∀ kind device, Steady p device s.trace added → Seated p s kind device → Seated p s' kind device) : Felt p s' where
  focus device surface born held := by
    rw [grown] at held
    obtain ⟨before, steady, -⟩ := hands_focus_back easy held
    obtain ⟨kind, seated, tracked⟩ := felt.focus device surface born before
    exact ⟨kind, seats kind device steady seated, by rw [grabs]; exact tracked⟩
  pressed device button held := by
    rw [grown] at held
    obtain ⟨before, steady, -⟩ := hands_pressed_back easy held
    obtain ⟨seated, tracked⟩ := felt.pressed device button before
    exact ⟨seats .pointer device steady seated, by rw [grabs]; exact tracked⟩

-- A gesture that is written comes to the client's hands and the tracker alike.
theorem gesture_felt {p : Protocol} {s s' : Session} (felt : Felt p s) (added : List Traffic) (entry : Traffic)
    (grown : s'.trace = s.trace ++ (added ++ [entry])) (none : ∀ entry ∈ added, entry.gesture p = none) (device : UInt32)
    (gesture : Gesture) (is : entry.gesture p = some (device, gesture)) (kept : entry.turnover p (client p (s.trace ++ added)) = [])
    (kind : SeatDeviceKind) (button : (∃ button state, gesture = .button button state) → kind = .pointer)
    (follows : Follows s.grabs s'.grabs kind.interface device gesture)
    (seats : ∀ kind device, Seated p s kind device → Seated p s' kind device) (seated : Seated p s kind device) : Felt p s' where
  focus query surface born held := by
    rw [grown, ← List.append_assoc, note_focus, is, kept] at held
    simp only [List.not_mem_nil, if_false] at held
    have before : ∀ held, (hands p (s.trace ++ added)).focus query = some held → (hands p s.trace).focus query = some held :=
      fun held after => (hands_focus_back (fun entry member => easy_of_none (none entry member)) after).1
    split at held
    · rename_i same
      subst same
      cases gesture with
      | enter entered =>
          cases held
          exact ⟨kind, seats _ _ seated, by rw [follows.focus, if_pos ⟨rfl, rfl⟩]; rfl⟩
      | leave => cases held
      | button other state =>
          obtain ⟨kind', seated', tracked⟩ := felt.focus query surface born (before _ held)
          have agree : kind' = kind := kind_interface_injective _ _ (holds_interface seated'.held seated.held)
          subst agree
          exact ⟨kind', seats _ _ seated', by rw [follows.focus, if_pos ⟨rfl, rfl⟩]; exact tracked⟩
    · rename_i other
      obtain ⟨kind', seated', tracked⟩ := felt.focus query surface born (before _ held)
      exact ⟨kind', seats _ _ seated', by rw [follows.focus, if_neg fun both => other both.2]; exact tracked⟩
  pressed query down held := by
    rw [grown, ← List.append_assoc, note_pressed, is, kept] at held
    simp only [List.not_mem_nil, if_false] at held
    have before : (hands p (s.trace ++ added)).pressed query down = true → (hands p s.trace).pressed query down = true :=
      fun after => (hands_pressed_back (fun entry member => easy_of_none (none entry member)) after).1
    rw [follows.pressed]
    split at held
    · rename_i same
      subst same
      rw [if_pos rfl]
      have kept : (hands p (s.trace ++ added)).pressed query down = true →
          Seated p s' .pointer query ∧ s.grabs.pressed query down = true := fun after =>
        (felt.pressed query down (before after)).imp_left (seats _ _)
      cases gesture with
      | enter | leave => exact kept held
      | button other state =>
          have pointer := button ⟨other, state, rfl⟩
          subst pointer
          simp only [Gesture.presses] at held ⊢
          split at held
          · rename_i same
            rw [if_pos same]
            exact ⟨seats _ _ seated, held⟩
          · rename_i away
            rw [if_neg away]
            exact kept held
    · rename_i away
      rw [if_neg away]
      exact (felt.pressed query down (before held)).imp_left (seats _ _)

section Steps

variable {env : Env} (detailed : Detailed env.protocol) {st next : State} {event : Event}

include detailed in
theorem seated_along (course : Course env st event next) (tidy : Tidy env st) (tidy' : Tidy env next) (added : List Traffic)
    (grown : next.session.trace = st.session.trace ++ added) (kind : SeatDeviceKind) (device : UInt32)
    (steady : Steady env.protocol device st.session.trace added) (seated : Seated env.protocol st.session kind device) :
    Seated env.protocol next.session kind device := by
  obtain ⟨listed, held⟩ := listed_along detailed course tidy tidy' added grown device steady kind.interface seated.held seated.listed
  exact ⟨held, listed⟩

theorem request_turn_grabs (env : Env) (ambient : Ambient) (s next : Session) (msg : Bytes) (turn : RequestTurn env ambient s msg next) :
    next.grabs = s.grabs := by
  rcases request_turn_trackers env ambient s next msg turn with same | ⟨m, created, translated, rewritten, noted, noting, -, -, grabs⟩
  · rw [same]
  · exact grabs.trans noting.grabs

theorem after_request_gesture (covered : Covered env.protocol) (ambient : Ambient) (s : Session) (msg : Bytes) (entry : Traffic)
    (after : AfterRequest env ambient s msg entry) : entry.gesture env.protocol = none := by
  rcases after with writes | ⟨m, created, translated, rewritten, noted, noting, -, told⟩
  · exact to_host_gesture entry writes
  · refine told_gesture_none covered entry told fun interface event guestId payload answer => ?_
    rcases stale_answer_event answer with rfl | rfl <;> decide

-- The gesture of a relayed event is the one the tracker saw.
theorem Relays.gesture {env : Env} {s : Session} {msg : Bytes} {m : Inbound} {created : Option Creation} {deleted : Option UInt32}
    {renamed : Bytes} {sent : Sent} (relays : Relays env s msg m created deleted renamed sent) (noted : Session)
    (noting : EventNoted env s msg m created deleted renamed noted) :
    Traffic.gesture env.protocol (.sent sent) = (gestureOf m.interface m.desc.name (renamed.drop headerLen)).map fun gesture => (m.sender, gesture) := by
  have decoded := relays.decodes noted noting
  simp only [Traffic.gesture, relays.toClient, if_true, decoded, Option.bind_some]
  rw [relays.interface, relays.bytes, payload_of_written, sender_of_written _ _ relays.outgoing.long]
  rfl

-- Entries that say nothing to the client, and bring and take no object.
structure Traffic.Aloof (p : Protocol) (entry : Traffic) : Prop where
  away : ∀ m, entry = .sent m → m.peer = .host
  quiet : entry.gesture p = none
  keeps : ∀ c, entry.turnover p c = []
  plain : entry ≠ .lost ∧ entry ≠ .reconnected ∧ entry ≠ .resumed

theorem aloof_of_taken (p : Protocol) (msg : Bytes) : Traffic.Aloof p (.took .host msg) :=
  ⟨nofun, rfl, fun _ => rfl, nofun, nofun, nofun⟩

theorem aloof_of_asked (p : Protocol) (entry : Traffic) (asks : OwnRequest entry) : entry.Aloof p := by
  cases entry with
  | sent m =>
      refine ⟨fun m' same => by cases same; exact asks.1, to_host_gesture _ ⟨asks.1, trivial⟩, fun c => ?_, nofun, nofun, nofun⟩
      simp [Traffic.turnover, Traffic.introduces, Traffic.destroys, Traffic.deletes, asks.1]
  | _ => cases asks

theorem aloof_of_served (p : Protocol) (entry : Traffic) (served : entry.Served) : entry.Aloof p := by
  cases entry with
  | served => exact ⟨nofun, rfl, fun _ => rfl, nofun, nofun, nofun⟩
  | _ => cases served

theorem aloof_steady {p : Protocol} {added : List Traffic} (aloof : ∀ entry ∈ added, entry.Aloof p) (past : List Traffic) (g : UInt32) :
    Steady p g past added :=
  lawful_of_each _ _ _ fun before entry after split => not_mem_turnover ((aloof entry (by rw [split]; simp)).keeps _) g

variable (s handled : Session) (ambient : Ambient) (msg : Bytes)

theorem unheard_adds (env : Env) (s handled : Session) (msg : Bytes) (trace : Adds Traffic.Served (s.log (.took .host msg)) handled) :
    ∃ added, handled.trace = s.trace ++ added ∧ ∀ entry ∈ added, entry.Aloof env.protocol := by
  obtain ⟨added, served, grown⟩ := trace
  refine ⟨.took .host msg :: added, by rw [grown]; simp [Session.log], fun entry among => ?_⟩
  rcases List.mem_cons.mp among with rfl | later
  · exact aloof_of_taken _ msg
  · exact aloof_of_served _ entry (served entry later)

section Heard

variable {m : Inbound} {created : Option Creation} {deleted : Option UInt32} {renamed : Bytes} {noted : Session}
  (noting : EventNoted env (s.log (.took .host msg)) msg m created deleted renamed noted)
  (outgoing : Outgoing env.protocol s.objects m created renamed)
  (is : handled = (forward ambient noted m created (writeSenderId renamed m.sender)).2)

include noting outgoing is

theorem heard_event : ∃ added sent, handled.trace = s.trace ++ (added ++ [.sent sent]) ∧ (∀ entry ∈ added, entry.Aloof env.protocol) ∧
    Relays env (s.log (.took .host msg)) msg m created deleted renamed sent ∧
    handled.grabs = observeGrabs s.grabs m (renamed.drop headerLen) := by
  obtain ⟨asked, sent, asks, trace, relays⟩ := heard_adds env ambient (s.log (.took .host msg)) msg handled m created deleted renamed noted
    noting outgoing is
  refine ⟨.took .host msg :: asked, sent, by rw [trace]; simp [Session.log], fun entry among => ?_, relays, ?_⟩
  · rcases List.mem_cons.mp among with rfl | later
    · exact aloof_of_taken _ msg
    · exact aloof_of_asked _ entry (asks entry later)
  · rw [is, (forward_parts ambient noted m created (writeSenderId renamed m.sender)).2.1]
    exact noting.grabs

-- What a heard event of a grab comes to.
structure HeardGesture (env : Env) (s handled : Session) (kind : SeatDeviceKind) (device : UInt32) (gesture : Gesture) : Prop where
  listed : s.objects.interface device = some kind.interface
  button : (∃ button state, gesture = .button button state) → kind = .pointer
  follows : Follows s.grabs handled.grabs kind.interface device gesture

omit outgoing is in
include detailed in
theorem heard_gesture (grabs : handled.grabs = observeGrabs s.grabs m (renamed.drop headerLen)) {gesture : Gesture}
    (found : gestureOf m.interface m.desc.name (renamed.drop headerLen) = some gesture) :
    ∃ kind : SeatDeviceKind, m.interface = kind.interface ∧ HeardGesture env s handled kind m.sender gesture := by
  obtain ⟨kind, kind_is, button⟩ := gesture_kind found
  have resolved := noting.resolved
  have sized := walked_sized detailed m.interface m.desc (resolved_member env s.objects .hostToClient msg m resolved) _ m.walk noting.walks
  have follows := observe_grabs_follows s.grabs m _ resolved.way sized gesture found
  rw [← grabs, kind_is] at follows
  refine ⟨kind, kind_is, ?_, button, follows⟩
  rw [← kind_is]
  exact resolved_interface env s.objects .hostToClient msg m resolved

end Heard

theorem listed_seated {p : Protocol} {s : Session} {graph : RecreationGraph} (agrees : Agrees p s.objects graph s.trace) (kind : SeatDeviceKind)
    (device : UInt32) (listed : s.objects.interface device = some kind.interface) : Seated p s kind device := by
  rcases agrees.table _ _ listed with holds | spent
  · exact ⟨holds, listed⟩
  · exact absurd spent.1 (kind_not_callback kind)

include detailed

-- What an event turn adds, and what it says of a grab.
theorem event_turn_felt (turn : EventTurn env ambient (s.log (.took .host msg)) msg handled) (agrees : Agrees env.protocol s.objects s.graph s.trace)
    (seats : ∀ added, handled.trace = s.trace ++ added → ∀ kind device, Steady env.protocol device s.trace added →
      Seated env.protocol s kind device → Seated env.protocol handled kind device)
    (felt : Felt env.protocol s) : Felt env.protocol handled := by
  cases turn with
  | unheard table books grabs trace =>
      obtain ⟨added, whole, aloof⟩ := unheard_adds env s handled msg trace
      exact felt.along _ whole (fun entry among => easy_of_none (aloof entry among).quiet) grabs (seats _ whole)
  | heard m created deleted renamed noted noting outgoing names is =>
      obtain ⟨added, sent, whole, aloof, relays, grabs⟩ := heard_event s handled ambient msg noting outgoing is
      have gesture := relays.gesture noted noting
      cases found : gestureOf m.interface m.desc.name (renamed.drop headerLen) with
      | none =>
          rw [found] at gesture
          rw [observe_grabs_quiet s.grabs m _ noting.resolved.way found] at grabs
          refine felt.along _ whole (fun entry among => easy_of_none ?_) grabs (seats _ whole)
          rcases List.mem_append.mp among with early | last
          · exact (aloof entry early).quiet
          · rw [List.mem_singleton.mp last]
            exact gesture
      | some felt_gesture =>
          rw [found] at gesture
          obtain ⟨kind, -, heard⟩ := heard_gesture detailed s handled msg noting grabs found
          have kept := fun past => gesture_turnover detailed.toCovered past gesture
          have steady : ∀ device, Steady env.protocol device s.trace (added ++ [.sent sent]) := fun device =>
            (lawful_append _ _ _ _).mpr ⟨aloof_steady aloof _ _, not_mem_turnover (kept _) device, trivial⟩
          exact gesture_felt felt _ _ whole (fun entry among => (aloof entry among).quiet) m.sender felt_gesture gesture (kept _) kind
            heard.button heard.follows (fun kind device => seats _ whole kind device (steady device))
            (listed_seated agrees kind m.sender heard.listed)

end Steps

-- When a recovery ends no device of the client's holds anything, and the
-- compositor's word on a grab is passed on only while it is connected.
def NothingStuck (p : Protocol) (past : List Traffic) : Traffic → Prop
  | .resumed => ∀ device, (hands p past).focus device = none ∧ ∀ button, (hands p past).pressed device button = false
  | .sent m => m.origin = .relayed → (Traffic.gesture p (.sent m)).isSome = true → connected past = true
  | _ => True

section Resuming

variable {p : Protocol}

theorem not_stuck_of_none (past : List Traffic) (entry : Traffic) (none : entry.gesture p = none) (going : entry ≠ .resumed) :
    NothingStuck p past entry := by
  cases entry with
  | sent m => exact fun _ some => by rw [none] at some; cases some
  | resumed => exact absurd rfl going
  | _ => trivial

theorem not_stuck_told {fine : Interface → String → UInt32 → Bytes → Prop} (past : List Traffic) (entry : Traffic) (told : entry.Told p fine) :
    NothingStuck p past entry := by
  cases entry with
  | sent m => exact fun relayed => by rw [told.2.1] at relayed; cases relayed
  | _ => cases told

-- What the tracker knows of, the end of a recovery lets go of.
theorem resume_releases (detailed : Detailed p) (order : HashOrder) (t : Session) (past added : List Traffic) (grown : t.trace = past ++ added)
    (easy : ∀ entry ∈ added, entry.Easy p)
    (focus : ∀ more device surface born, (synthesizeGrabReleases p order t).trace = past ++ more → Steady p device past more →
      (hands p past).focus device = some (surface, born) →
        ∃ kind : SeatDeviceKind, t.objects.interface device = some kind.interface ∧ t.grabs.focus kind device = some surface)
    (pressed : ∀ more device button, (synthesizeGrabReleases p order t).trace = past ++ more → Steady p device past more →
      (hands p past).pressed device button = true →
        t.objects.interface device = some SeatDeviceKind.pointer.interface ∧ t.grabs.pressed device button = true) (device : UInt32) :
    (hands p (synthesizeGrabReleases p order t).trace).focus device = none ∧
      ∀ button, (hands p (synthesizeGrabReleases p order t).trace).pressed device button = false := by
  obtain ⟨released, tells, trace⟩ := (synthesize_grab_releases_told (p := p) order t).trace
  have whole : (synthesizeGrabReleases p order t).trace = past ++ (added ++ released) := by rw [trace, grown, List.append_assoc]
  have eases : ∀ entry ∈ added ++ released, entry.Easy p := by
    intro entry member
    rcases List.mem_append.mp member with early | late
    · exact easy entry early
    · exact release_easy detailed.toCovered entry (tells entry late)
  have among : ∀ kind, Reaches kind t (synthesizeGrabReleases p order t) → ∃ entry ∈ added ++ released, kind entry := by
    rintro kind ⟨written, is, entry, member, fine⟩
    have same : written = released := List.append_cancel_left (is.symm.trans trace)
    rw [same] at member
    exact ⟨entry, List.mem_append_right _ member, fine⟩
  constructor
  · cases held : (hands p (synthesizeGrabReleases p order t).trace).focus device with
    | none => rfl
    | some both =>
        rw [whole] at held
        obtain ⟨before, steady, kept⟩ := hands_focus_back eases held
        obtain ⟨kind, known, tracked⟩ := focus _ device both.1 both.2 whole steady before
        obtain ⟨entry, member, leaves⟩ := among _ (focus_released order t detailed kind device both.1 tracked known)
        exact absurd leaves (kept entry member)
  · intro button
    cases held : (hands p (synthesizeGrabReleases p order t).trace).pressed device button with
    | false => rfl
    | true =>
        rw [whole] at held
        obtain ⟨before, steady, kept⟩ := hands_pressed_back eases held
        obtain ⟨known, tracked⟩ := pressed _ device button whole steady before
        obtain ⟨entry, member, releases⟩ := among _ (button_released order t detailed device button tracked known)
        exact absurd releases (kept entry member 0)

end Resuming

-- The tracker keeps up with the client and nothing has been stuck so far.
structure Unstuck (p : Protocol) (s : Session) : Prop where
  felt : Felt p s
  upright : Upright s
  lawful : Lawful (NothingStuck p) [] s.trace
  cleared : s.trace.getLast? = some .resumed → s.grabs = GrabTracker.new

theorem settle_recovery_grabs (p : Protocol) (order : HashOrder) (globals : Globals) (s : Session) :
    (settleRecovery p order globals s).grabs = s.grabs := by
  have released : Aside _ (drainInFlight p order s) := Aside.fold _ (release_in_flight_aside p) _ _
  have answered : Aside _ (drainAwaitingDone p order (drainInFlight p order s)) := Aside.fold _ (synthesize_frame_done_aside p) _ _
  exact answered.grabs.trans released.grabs

section Transitions

variable {env : Env} (detailed : Detailed env.protocol) {st next : State} {event : Event}

include detailed

theorem resumed_released (order : HashOrder) (t : Session) (course : Course env st event (resume env.protocol order t)) (tidy : Tidy env st)
    (tidy' : Tidy env (resume env.protocol order t)) (felt : Felt env.protocol st.session) (added : List Traffic)
    (grown : t.trace = st.session.trace ++ added) (easy : ∀ entry ∈ added, entry.Easy env.protocol) (grabs : t.grabs = st.session.grabs)
    (device : UInt32) : (hands env.protocol (synthesizeGrabReleases env.protocol order t).trace).focus device = none ∧
      ∀ button, (hands env.protocol (synthesizeGrabReleases env.protocol order t).trace).pressed device button = false := by
  have seated : ∀ more kind device, (synthesizeGrabReleases env.protocol order t).trace = st.session.trace ++ more →
      Steady env.protocol device st.session.trace more → Seated env.protocol st.session kind device →
      t.objects.interface device = some kind.interface := by
    intro more kind device is steady seated
    have whole : (resume env.protocol order t).session.trace = st.session.trace ++ (more ++ [.resumed]) := by
      rw [← List.append_assoc, ← is]
      rfl
    have onward : Steady env.protocol device st.session.trace (more ++ [.resumed]) :=
      (lawful_append _ _ _ _).mpr ⟨steady, by simp [mem_turnover, Traffic.introduces, Traffic.destroys, Traffic.deletes], trivial⟩
    have listed := (seated_along detailed course tidy tidy' _ whole kind device onward seated).listed
    rwa [show (resume env.protocol order t).session.objects = t.objects from synthesize_grab_releases_objects _ _ _] at listed
  refine resume_releases detailed order t st.session.trace added grown easy (fun more device surface born is steady held => ?_)
    (fun more device button is steady held => ?_) device
  · obtain ⟨kind, sits, tracked⟩ := felt.focus device surface born held
    exact ⟨kind, seated more kind device is steady sits, by rw [grabs]; exact tracked⟩
  · obtain ⟨sits, tracked⟩ := felt.pressed device button held
    exact ⟨seated more .pointer device is steady sits, by rw [grabs]; exact tracked⟩

omit detailed in
theorem resumed_felt {p : Protocol} (order : HashOrder) (t : Session)
    (released : ∀ device, (hands p (synthesizeGrabReleases p order t).trace).focus device = none ∧
      ∀ button, (hands p (synthesizeGrabReleases p order t).trace).pressed device button = false) :
    Felt p (resume p order t).session := by
  have trace : (resume p order t).session.trace = (synthesizeGrabReleases p order t).trace ++ [.resumed] := rfl
  have easy : ∀ entry ∈ [Traffic.resumed], entry.Easy p := fun entry member => by
    rw [List.mem_singleton.mp member]
    exact easy_of_none rfl
  constructor
  · intro device surface born held
    rw [trace] at held
    have before := (hands_focus_back easy held).1
    rw [(released device).1] at before
    cases before
  · intro device button held
    rw [trace] at held
    have before := (hands_pressed_back easy held).1
    rw [(released device).2] at before
    cases before

omit detailed in
theorem resumed_unstuck {p : Protocol} (order : HashOrder) (t : Session) (past added : List Traffic) (grown : t.trace = past ++ added)
    (lawful : Lawful (NothingStuck p) [] past) (none : ∀ entry ∈ added, entry.gesture p = none ∧ entry ≠ .resumed)
    (released : ∀ device, (hands p (synthesizeGrabReleases p order t).trace).focus device = Option.none ∧
      ∀ button, (hands p (synthesizeGrabReleases p order t).trace).pressed device button = false) :
    Unstuck p (resume p order t).session where
  felt := resumed_felt order t released
  upright := resume_upright p order t
  lawful := by
    obtain ⟨told, tells, trace⟩ := (synthesize_grab_releases_told (p := p) order t).trace
    have whole : (resume p order t).session.trace = (synthesizeGrabReleases p order t).trace ++ [.resumed] := rfl
    rw [whole, lawful_append]
    refine ⟨?_, released, trivial⟩
    rw [trace, grown, lawful_append, lawful_append]
    refine ⟨⟨lawful, lawful_of_each _ _ _ fun before entry after split => ?_⟩, lawful_of_each _ _ _ fun before entry after split => ?_⟩
    · obtain ⟨quiet, going⟩ := none entry (by rw [split]; simp)
      exact not_stuck_of_none _ entry quiet going
    · exact not_stuck_told _ entry (tells entry (by rw [split]; simp))
  cleared _ := rfl

omit detailed in
-- A stretch that says nothing of grabs.
theorem Unstuck.quietly {p : Protocol} {s s' : Session} (unstuck : Unstuck p s) (added : List Traffic) (grown : s'.trace = s.trace ++ added)
    (none : ∀ entry ∈ added, entry.gesture p = none ∧ entry ≠ .resumed) (grabs : s'.grabs = s.grabs) (felt : Felt p s') (upright : Upright s') :
    Unstuck p s' where
  felt := felt
  upright := upright
  lawful := by
    rw [grown, lawful_append]
    refine ⟨unstuck.lawful, lawful_of_each _ _ _ fun before entry after split => ?_⟩
    obtain ⟨quiet, going⟩ := none entry (by rw [split]; simp)
    exact not_stuck_of_none _ entry quiet going
  cleared last := by
    rw [grabs]
    refine unstuck.cleared ?_
    rw [grown] at last
    cases added using List.reverseRecOn with
    | nil => simpa using last
    | append_singleton added entry =>
        rw [← List.append_assoc, List.getLast?_append] at last
        exact absurd (by simpa using last) (none entry (by simp)).2

omit detailed in
theorem event_turn_unstuck (s handled : Session) (ambient : Ambient) (msg : Bytes) (turn : EventTurn env ambient (s.log (.took .host msg)) msg handled)
    (thawed : s.frozen = false) (unstuck : Unstuck env.protocol s) (felt : Felt env.protocol handled) (upright : Upright handled) :
    Unstuck env.protocol handled := by
  cases turn with
  | unheard table books grabs trace =>
      obtain ⟨added, whole, aloof⟩ := unheard_adds env s handled msg trace
      exact unstuck.quietly _ whole (fun entry among => ⟨(aloof entry among).quiet, (aloof entry among).plain.2.2⟩) grabs felt upright
  | heard m created deleted renamed noted noting outgoing names is =>
      obtain ⟨added, sent, whole, aloof, relays, -⟩ := heard_event s handled ambient msg noting outgoing is
      refine ⟨felt, upright, ?_, fun last => ?_⟩
      · rw [whole, lawful_append, lawful_append]
        refine ⟨unstuck.lawful, lawful_of_each _ _ _ fun before entry after split => ?_, fun _ _ => ?_, trivial⟩
        · have apart := aloof entry (by rw [split]; simp)
          exact not_stuck_of_none _ entry apart.quiet apart.plain.2.2
        · rw [List.nil_append, connected_along _ _ fun entry among => (aloof entry among).plain, unstuck.upright, thawed]
          rfl
      · rw [whole, ← List.append_assoc, List.getLast?_append] at last
        simp at last

theorem transition_unstuck (transition : Transition env st event next) (tidy : Tidy env st) (tidy' : Tidy env next)
    (unstuck : Unstuck env.protocol st.session) : Unstuck env.protocol next.session := by
  have covered := detailed.toCovered
  have course := transition_course detailed transition tidy
  have upright := transition_upright transition unstuck.upright
  have still : ∀ s s', Still env.protocol s s' → ∃ added, s'.trace = s.trace ++ added ∧
      ∀ entry ∈ added, entry.gesture env.protocol = none ∧ entry ≠ .resumed := by
    intro s s' still
    obtain ⟨added, quiet, grown⟩ := still.adds
    refine ⟨added, grown, fun entry among => ⟨quiet_gesture covered entry (quiet entry among), fun same => ?_⟩⟩
    have fine := quiet entry among
    rw [same] at fine
    exact fine
  have quietly : ∀ added, next.session.trace = st.session.trace ++ added →
      (∀ entry ∈ added, entry.gesture env.protocol = none ∧ entry ≠ .resumed) → next.session.grabs = st.session.grabs →
      Unstuck env.protocol next.session := fun added grown none grabs =>
    unstuck.quietly added grown none grabs (unstuck.felt.along added grown (fun entry among => easy_of_none (none entry among).1) grabs
      fun kind device => seated_along detailed course tidy tidy' added grown kind device) upright
  cases id course with
  | request s handled ambient msg consumed taken long turn =>
      obtain ⟨added, after, grown⟩ := request_turn_adds env ambient (s.log (.took .gtk msg)) msg handled turn
      have whole : handled.trace = s.trace ++ .took .gtk msg :: added := by rw [grown]; simp [Session.log]
      refine quietly _ whole (fun entry among => ?_) (request_turn_grabs env ambient (s.log (.took .gtk msg)) handled msg turn)
      rcases List.mem_cons.mp among with rfl | later
      · exact ⟨rfl, by simp⟩
      · refine ⟨after_request_gesture covered ambient _ msg entry (after entry later), fun same => ?_⟩
        have fine := after entry later
        rw [same] at fine
        rcases fine with writes | ⟨m, created, translated, rewritten, noted, noting, failed, told⟩
        · cases writes
        · cases told
  | event s handled ambient msg consumed taken long turn =>
      have felt := event_turn_felt detailed s handled ambient msg turn tidy.tended.agrees
        (fun added grown kind device steady seated =>
          have along := seated_along detailed course tidy tidy' added grown kind device steady seated
          ⟨along.held, along.listed⟩) unstuck.felt
      have turned := event_turn_unstuck s handled ambient msg turn (tidy.ready.thawed rfl) unstuck felt upright
      refine turned.quietly [] (by simp) (by simp) rfl (felt.along [] (by simp) (by simp) rfl fun kind device _ seated => ?_) upright
      exact ⟨seated.held, seated.listed⟩
  | discarded s h r ambient msg consumed taken _ stays =>
      obtain ⟨added, grown, none⟩ := still _ _ stays
      have whole : next.session.trace = s.trace ++ .skimmed .gtk msg :: added := by rw [grown]; simp [skimmed, Session.log]
      refine quietly _ whole (fun entry among => ?_) stays.grabs
      rcases List.mem_cons.mp among with rfl | later
      · exact ⟨rfl, by simp⟩
      · exact none entry later
  | settled s r ambient done =>
      obtain ⟨added, told, grown⟩ := (settle_recovery_told (p := env.protocol) ambient.order r.globals s).trace
      have none : ∀ entry ∈ added, entry.gesture env.protocol = none ∧ entry ≠ .resumed := fun entry among =>
        ⟨told_gesture_none covered entry (told entry among) fun _ _ _ _ answer => settle_answer_event answer,
          fun same => by have fine := told entry among; rw [same] at fine; exact fine⟩
      exact resumed_unstuck _ _ s.trace added grown unstuck.lawful none
        (resumed_released detailed _ _ course tidy tidy' unstuck.felt added grown (fun entry among => easy_of_none (none entry among).1)
          (settle_recovery_grabs _ _ _ _))
  | unregistered s begun ambient outcomes absent stays table =>
      obtain ⟨added, grown, none⟩ := still _ _ stays
      exact resumed_unstuck _ _ s.trace added grown unstuck.lawful none
        (resumed_released detailed _ _ course tidy tidy' unstuck.felt added grown (fun entry among => easy_of_none (none entry among).1)
          stays.grabs)
  | still _ _ _ stays =>
      obtain ⟨added, grown, none⟩ := still _ _ stays
      exact quietly added grown none stays.grabs

end Transitions

-- The claim on grabs at a moment: no recovery so far left one behind, and the
-- tracker is empty when one has just ended.
def NoStuckGrab (p : Protocol) (s : Session) : Prop :=
  Lawful (NothingStuck p) [] s.trace ∧ (s.trace.getLast? = some .resumed → s.grabs = GrabTracker.new)

-- A client with a pointer (6) and a surface (7), and a compositor that has all
-- it bound.
def pointerBound : Bytes :=
  requestRegistry 2 ++ bindGlobal 1 "wl_compositor" 3 ++ bindGlobal 2 "xdg_wm_base" 4 ++ bindGlobal 3 "wl_seat" 5 ++
    buildMessage 5 0 (putU32 [] 6) ++ createSurface 7

def pointerServed : Bytes := globalEvent 1 "wl_compositor" ++ globalEvent 2 "xdg_wm_base" ++ globalEvent 3 "wl_seat" ++ registryDone

def enterSurface (pointer surface : UInt32) : Bytes := buildMessage pointer 0 (putU32 (putU32 (putU32 (putU32 [] 5) surface) 0) 0)

def compositorChanged (globals : Bytes) : List Event := [.hostReadable .error, reconnectCore, .hostReadable (.data globals [])]

-- A compositor without wl_compositor comes: the surface is out of date. Its
-- frame callback (10) is answered at once, and still waits for the next
-- recovery, which deletes the xdg_wm_base that got its id meanwhile.
def callbackReused : List Event :=
  [.gtkReadable (.data pointerBound [])] ++ turns 7 ++
    compositorChanged (globalEvent 2 "xdg_wm_base" ++ globalEvent 3 "wl_seat" ++ registryDone) ++ turns 9 ++
    [.gtkReadable (.data (buildMessage 7 3 (putU32 [] 10) ++ bindGlobal 2 "xdg_wm_base" 10) [])] ++ turns 3 ++
    compositorChanged pointerServed ++ turns 11

-- The client destroys it, and creates a surface (10) while the next recovery
-- waits for an ack: the proxy still takes 10 for an xdg_wm_base.
def surfaceMistaken : List Event :=
  [.gtkReadable (.data (buildMessage 10 0 [] ++ buildMessage 4 2 (putU32 (putU32 [] 8) 7) ++ buildMessage 8 1 (putU32 [] 9)) [])] ++
    turns 4 ++ compositorChanged pointerServed ++ turns 12 ++ [.hostReadable (.data (buildMessage 10 0 (putU32 [] 77)) [])] ++ turns 1 ++
    [.gtkReadable (.data (createSurface 10 ++ buildMessage 8 4 (putU32 [] 77)) [])] ++ turns 3

-- The pointer enters, and a damage of surface 10 passes for a request that
-- creates an xdg_surface under the pointer's id.
def pointerMistaken : List Event :=
  [.hostReadable (.data (enterSurface 7 8) [])] ++ turns 2 ++
    [.gtkReadable (.data (buildMessage 10 2 (putU32 (putU32 (putU32 (putU32 [] 6) 0) 16) 16)) [])] ++ turns 2 ++
    compositorChanged pointerServed ++ turns 12 ++ [.lapse] ++ turns 2

end WlResprox
