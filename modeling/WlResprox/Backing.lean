import WlResprox.Grabs
import WlResprox.InFlight

set_option autoImplicit false

namespace WlResprox

-- An object the client has neither destroyed nor been told is deleted.
def Client.Alive (c : Client) (g : UInt32) (i : Interface) : Prop :=
  ∃ o ∈ c.objects g, o.interface = i ∧ o.destroyed = false ∧ o.deleted = false

-- A device is on a surface that is still there, the very object it entered.
def OnSurface (p : Protocol) (history : List Traffic) (device surface : UInt32) : Prop :=
  ∃ o ∈ (client p history).objects surface, o.interface = wlSurface ∧ o.deleted = false ∧
    (hands p history).focus device = some (surface, some o.born)

def LetsGo (p : Protocol) (past : List Traffic) (device : UInt32) (payload : Bytes) : Gesture → Prop
  | .enter _ => False
  | .leave => OnSurface p past device (wordAt payload 4)
  | .button button state => state ≠ buttonStatePressed ∧ (hands p past).pressed device button = true

-- A leave or a release of the proxy's own is for a device the client has, and
-- lets go of what that device holds.
def GenuineRelease (p : Protocol) (past : List Traffic) : Traffic → Prop
  | .sent m => m.peer = .gtk → m.origin = .own → ∀ call ∈ decode p .hostToClient m.interface m.msg, call.desc.name ∈ ["leave", "button"] →
      (client p past).Alive (senderOf m.msg) m.interface ∧
        ∃ gesture ∈ gestureOf m.interface call.desc.name (m.msg.drop headerLen), LetsGo p past (senderOf m.msg) (m.msg.drop headerLen) gesture
  | _ => True

namespace GrabTracker

-- The devices with a grab, and the surfaces they entered.
def grabbed (t : GrabTracker) : List UInt32 :=
  (t.activePointerGrabs .insertionOrder).map Prod.fst ++ (t.activeKeyboardGrabs .insertionOrder).map Prod.fst

def entered (t : GrabTracker) : List UInt32 :=
  (t.activePointerGrabs .insertionOrder).filterMap (fun grab => grab.2.1) ++ (t.activeKeyboardGrabs .insertionOrder).map Prod.snd

end GrabTracker

def Gesture.surface : Gesture → Option UInt32
  | .enter surface => some surface
  | _ => none

-- An event that starts a grab is for a device the client has, on a surface of
-- its own.
def GestureFits (p : Protocol) (s : Session) (msg : Bytes) : Prop :=
  ∀ device ∈ s.objects.guestId (senderOf msg), ∀ interface ∈ s.objects.interface device, ∀ call ∈ decode p .hostToClient interface msg,
    ∀ gesture ∈ gestureOf interface call.desc.name (msg.drop headerLen), gesture.eases = false →
      (client p s.trace).Alive device interface ∧
        ∀ raw ∈ gesture.surface, ∃ surface ∈ s.objects.guestId raw, (client p s.trace).Holds surface wlSurface

-- No device with a grab is destroyed and no surface it entered is deleted, and
-- grabs start between the client's own objects.
def GrabsKept (env : Env) (st : State) (event : Event) : Prop :=
  match event, st.control with
  | .turn _, .relaying .clientToHost => ∀ taken ∈ takeMessage st.session.gtk.readBuf,
      (∀ device ∈ st.session.grabs.grabbed,
        Traffic.destroys env.protocol (client env.protocol st.session.trace) (.took .gtk taken.1) ≠ some device) ∧
      ∀ surface ∈ st.session.grabs.entered,
        Traffic.destroys env.protocol (client env.protocol st.session.trace) (.took .gtk taken.1) = some surface →
          Traffic.introduces env.protocol (client env.protocol st.session.trace) (.took .gtk taken.1) = none ∧
            (st.session.objects.hostId surface).isSome = true
  | .turn _, .awaitingAck _ _ => ∀ taken ∈ takeMessage st.session.gtk.readBuf, ∀ device ∈ st.session.grabs.grabbed,
      Traffic.destroys env.protocol (client env.protocol st.session.trace) (.skimmed .gtk taken.1) ≠ some device
  | .turn _, .relaying .hostToClient => ∀ taken ∈ takeMessage st.session.host.readBuf,
      (∀ g ∈ st.session.grabs.grabbed ++ st.session.grabs.entered, ¬ HostDeletes env.protocol st.session.objects taken.1 g) ∧
      GestureFits env.protocol st.session taken.1
  | _, _ => True

section Lasting

variable {p : Protocol} {past : List Traffic} {device : UInt32}

theorem alive_along {i : Interface} (added : List Traffic) (steady : Steady p device past added) (alive : (client p past).Alive device i) :
    (client p (past ++ added)).Alive device i := by
  obtain ⟨o, here, facts⟩ := alive
  exact ⟨o, steady_kept added steady here, facts⟩

theorem on_surface_along {surface : UInt32} (added : List Traffic) (steady : Steady p device past added)
    (none : ∀ entry ∈ added, ∀ gesture, entry.gesture p ≠ some (device, gesture)) (lasting : Lasting p surface past added)
    (stands : OnSurface p past device surface) : OnSurface p (past ++ added) device surface := by
  obtain ⟨o, here, kind, present, focus⟩ := stands
  obtain ⟨destroyed, there⟩ := lasting_kept added lasting here present
  refine ⟨_, there, kind, present, ?_⟩
  rw [(hands_steady added steady none).1]
  exact focus

theorem pressed_along {button : UInt32} (added : List Traffic) (steady : Steady p device past added)
    (none : ∀ entry ∈ added, ∀ gesture, entry.gesture p ≠ some (device, gesture)) (pressed : (hands p past).pressed device button = true) :
    (hands p (past ++ added)).pressed device button = true := by
  rw [(hands_steady added steady none).2]
  exact pressed

-- What is there lasts while it is not deleted.
theorem lasting_unused {g : UInt32} {o : ClientObject} (added : List Traffic) (here : (client p past).objects g = some o)
    (present : o.deleted = false) (unused : Lawful (UnusedId p) past added) (spared : ∀ entry ∈ added, entry.deletes p ≠ some g) :
    Lasting p g past added := by
  induction added generalizing past o with
  | nil => trivial
  | cons entry rest ih =>
      obtain ⟨lawful, onward⟩ := unused
      have fresh : entry.introduces p (client p past) ≠ some g := by
        intro introduced
        have free := (lawful g introduced).2
        rw [here] at free
        cases free
      have kept := spared entry List.mem_cons_self
      obtain ⟨destroyed, next⟩ := Client.note_lasts entry here present fresh kept
      rw [← client_snoc] at next
      exact ⟨⟨fresh, kept⟩, ih next present onward fun e member => spared e (List.mem_cons_of_mem _ member)⟩

theorem Lasting.steady {g : UInt32} {added : List Traffic} (lasting : Lasting p g past added)
    (kept : Lawful (fun past entry => entry.destroys p (client p past) ≠ some g) past added) : Steady p g past added := by
  induction added generalizing past with
  | nil => trivial
  | cons entry rest ih =>
      exact ⟨by simp only [mem_turnover, not_or]; exact ⟨lasting.1.1, kept.1, lasting.1.2⟩, ih lasting.2 kept.2⟩

-- A stretch of gestures brings and takes no object.
theorem gestures_steady (covered : Covered p) (added : List Traffic) (felt : ∀ entry ∈ added, (entry.gesture p).isSome = true) (g : UInt32) :
    Steady p g past added := by
  refine lawful_of_each _ _ _ fun before entry after split => ?_
  obtain ⟨both, found⟩ := Option.isSome_iff_exists.mp (felt entry (by rw [split]; simp))
  exact not_mem_turnover (gesture_turnover covered _ found) g

end Lasting

section Releasing

variable {p : Protocol} (detailed : Detailed p)

-- A written release that lets go is genuine.
theorem releases_genuine {device : UInt32} {interface : Interface} {event : String} {payload : Bytes} {sent : Sent} {past : List Traffic}
    (releases : OwnEvent p device interface event payload sent) (alive : (client p past).Alive device interface) (gesture : Gesture)
    (felt : gestureOf interface event payload = some gesture) (lets : LetsGo p past device payload gesture) :
    GenuineRelease p past (.sent sent) := by
  intro _ _ call decoded _
  obtain ⟨call', decoded', named⟩ := releases.reads
  rw [releases.known] at decoded ⊢
  have same : call' = call := Option.some.inj (decoded'.symm.trans decoded)
  rw [← same, named, releases.sender, releases.carries]
  exact ⟨alive, gesture, felt, lets⟩

-- A stretch of genuine releases for some devices.
def Frees (p : Protocol) (among : UInt32 → Prop) (s s' : Session) : Prop :=
  ∃ added, s'.trace = s.trace ++ added ∧ Lawful (GenuineRelease p) s.trace added ∧
    ∀ entry ∈ added, ∃ device gesture, entry.gesture p = some (device, gesture) ∧ among device

theorem Frees.refl (among : UInt32 → Prop) (s : Session) : Frees p among s s := ⟨[], by simp, trivial, nofun⟩

theorem Frees.trans {among : UInt32 → Prop} {s s' s'' : Session} (first : Frees p among s s') (second : Frees p among s' s'') :
    Frees p among s s'' := by
  obtain ⟨a, grown, genuine, felt⟩ := first
  obtain ⟨b, grown', genuine', felt'⟩ := second
  refine ⟨a ++ b, by rw [grown', grown, List.append_assoc], (lawful_append _ _ _ _).mpr ⟨genuine, ?_⟩, fun entry member => ?_⟩
  · rw [← grown]
    exact genuine'
  · exact (List.mem_append.mp member).elim (felt entry) (felt' entry)

theorem Frees.mono {among more : UInt32 → Prop} {s s' : Session} (frees : Frees p among s s') (implied : ∀ device, among device → more device) :
    Frees p more s s' := by
  obtain ⟨added, grown, genuine, felt⟩ := frees
  refine ⟨added, grown, genuine, fun entry member => ?_⟩
  obtain ⟨device, gesture, found, fine⟩ := felt entry member
  exact ⟨device, gesture, found, implied device fine⟩

theorem grab_event_frees (device : UInt32) (interface : Interface) (desc : MessageDesc) (rest : Bytes) (gesture : Gesture)
    (listed : (p.events interface).find? (fun other => other.name = desc.name) = some desc)
    (walks : ∀ serial, ∃ walk, walkSignature (putU32 [] serial ++ rest) desc.signature = .ok walk)
    (felt : ∀ serial, gestureOf interface desc.name (putU32 [] serial ++ rest) = some gesture) (covered : Covered p)
    (st : UInt32 × Session) (alive : (client p st.2.trace).Alive device interface)
    (lets : ∀ serial, LetsGo p st.2.trace device (putU32 [] serial ++ rest) gesture) :
    ∃ sent, (grabEvent p device interface desc.name rest st).2.trace = st.2.trace ++ [.sent sent] ∧
      Traffic.gesture p (.sent sent) = some (device, gesture) ∧ GenuineRelease p st.2.trace (.sent sent) := by
  obtain ⟨sent, trace, releases⟩ := grab_event_releases covered device interface desc rest listed walks st
  refine ⟨sent, trace, ?_, releases_genuine releases alive gesture (felt st.1) (lets st.1)⟩
  rw [releases.gesture, felt st.1]
  rfl

theorem frees_one {device : UInt32} {s s' : Session} {sent : Sent} {gesture : Gesture} (trace : s'.trace = s.trace ++ [.sent sent])
    (felt : Traffic.gesture p (.sent sent) = some (device, gesture)) (genuine : GenuineRelease p s.trace (.sent sent)) :
    Frees p (· = device) s s' :=
  ⟨_, trace, ⟨genuine, trivial⟩, fun entry member => ⟨device, gesture, by rw [List.mem_singleton.mp member]; exact felt, rfl⟩⟩

-- Releases for other devices leave a device's grab as it is.
theorem Frees.spares (covered : Covered p) {among : UInt32 → Prop} {s s' : Session} (frees : Frees p among s s') (device : UInt32) :
    (∀ i, (client p s.trace).Alive device i → (client p s'.trace).Alive device i) ∧ (¬ among device →
      (∀ surface, OnSurface p s.trace device surface → OnSurface p s'.trace device surface) ∧
      ∀ button, (hands p s.trace).pressed device button = true → (hands p s'.trace).pressed device button = true) := by
  obtain ⟨added, grown, -, felt⟩ := frees
  have steady := @gestures_steady p s.trace covered added fun entry member => by
    obtain ⟨device, gesture, found, -⟩ := felt entry member
    rw [found]
    rfl
  rw [grown]
  refine ⟨fun i => alive_along added (steady device), fun other => ?_⟩
  have none : ∀ entry ∈ added, ∀ gesture, entry.gesture p ≠ some (device, gesture) := by
    intro entry member gesture same
    obtain ⟨device', gesture', found, fine⟩ := felt entry member
    rw [found] at same
    cases same
    exact other fine
  exact ⟨fun surface => on_surface_along added (steady device) none (steady surface).lasting,
    fun button => pressed_along added (steady device) none⟩

include detailed in
theorem buttons_free (device : UInt32) (buttons : List UInt32) (distinct : buttons.Nodup) (st : UInt32 × Session)
    (alive : (client p st.2.trace).Alive device ⟨"wl_pointer"⟩) (pressed : ∀ button ∈ buttons, (hands p st.2.trace).pressed device button = true) :
    Frees p (· = device) st.2 (buttons.foldl (fun st button =>
      grabEvent p device ⟨"wl_pointer"⟩ "button" (putU32 (putU32 (putU32 [] 0) button) 0) st) st).2 := by
  induction buttons generalizing st with
  | nil => exact .refl _ _
  | cons button rest ih =>
      obtain ⟨apart, distinct'⟩ := List.nodup_cons.mp distinct
      have down := pressed button List.mem_cons_self
      obtain ⟨sent, trace, felt, genuine⟩ := grab_event_frees device ⟨"wl_pointer"⟩ ⟨"button", false, [.uint, .uint, .uint, .uint], none⟩
        (putU32 (putU32 (putU32 [] 0) button) 0) (.button button 0) detailed.pointerButton (button_walks button) (button_gesture button)
        detailed.toCovered st alive fun serial => ⟨by decide, down⟩
      have frees := frees_one trace felt genuine
      refine frees.trans (ih distinct' _ ((frees.spares detailed.toCovered device).1 _ alive) fun other member => ?_)
      have away : other ≠ button := fun same => apart (same ▸ member)
      rw [trace, note_pressed, felt, gesture_turnover detailed.toCovered _ felt]
      simp only [List.not_mem_nil, if_false, if_true, Gesture.presses, if_neg away]
      exact pressed other (List.mem_cons_of_mem _ member)

-- What a pointer's row of the tracker says is so.
structure PointerBacked (p : Protocol) (history : List Traffic) (grab : UInt32 × Option UInt32 × List UInt32) : Prop where
  alive : (client p history).Alive grab.1 ⟨"wl_pointer"⟩
  entered : ∀ surface, grab.2.1 = some surface → OnSurface p history grab.1 surface
  pressed : ∀ button ∈ grab.2.2, (hands p history).pressed grab.1 button = true
  distinct : grab.2.2.Nodup

structure KeyboardBacked (p : Protocol) (history : List Traffic) (grab : UInt32 × UInt32) : Prop where
  alive : (client p history).Alive grab.1 ⟨"wl_keyboard"⟩
  entered : OnSurface p history grab.1 grab.2

include detailed in
theorem pointer_grab_frees (grab : UInt32 × Option UInt32 × List UInt32) (st : UInt32 × Session)
    (known : st.2.objects.interface grab.1 = some ⟨"wl_pointer"⟩) (backed : PointerBacked p st.2.trace grab) :
    Frees p (· = grab.1) st.2 (releasePointerGrab p st grab).2 := by
  simp only [releasePointerGrab, known]
  split
  · exact buttons_free detailed grab.1 grab.2.2 backed.distinct st backed.alive backed.pressed
  · rename_i surface entered
    have stands := backed.entered surface entered
    obtain ⟨sent, trace, felt, genuine⟩ := grab_event_frees grab.1 ⟨"wl_pointer"⟩ ⟨"leave", false, [.uint, .object], none⟩ (putU32 [] surface)
      .leave detailed.pointerLeave (leave_walks surface) (fun _ => rfl) detailed.toCovered st backed.alive fun serial => by
        rw [LetsGo, show wordAt (putU32 [] serial ++ putU32 [] surface) 4 = surface from word_at_to_ne_bytes surface []]
        exact stands
    have frees := frees_one trace felt genuine
    refine frees.trans (buttons_free detailed grab.1 grab.2.2 backed.distinct _ ((frees.spares detailed.toCovered grab.1).1 _ backed.alive)
      fun button member => ?_)
    rw [trace, note_pressed, felt, gesture_turnover detailed.toCovered _ felt]
    simp only [List.not_mem_nil, if_false, if_true, Gesture.presses]
    exact backed.pressed button member

include detailed in
theorem keyboard_grab_frees (grab : UInt32 × UInt32) (st : UInt32 × Session)
    (known : st.2.objects.interface grab.1 = some ⟨"wl_keyboard"⟩) (backed : KeyboardBacked p st.2.trace grab) :
    Frees p (· = grab.1) st.2 (releaseKeyboardGrab p st grab).2 := by
  simp only [releaseKeyboardGrab, known]
  obtain ⟨sent, trace, felt, genuine⟩ := grab_event_frees grab.1 ⟨"wl_keyboard"⟩ ⟨"leave", false, [.uint, .object], none⟩ (putU32 [] grab.2)
    .leave detailed.keyboardLeave (leave_walks grab.2) (fun _ => rfl) detailed.toCovered st backed.alive fun serial => by
      rw [LetsGo, show wordAt (putU32 [] serial ++ putU32 [] grab.2) 4 = grab.2 from word_at_to_ne_bytes grab.2 []]
      exact backed.entered
  exact frees_one trace felt genuine

-- A fold over rows for different devices, each backed when it starts.
theorem fold_frees {β : Type} (key : β → UInt32) (f : UInt32 × Session → β → UInt32 × Session)
    (objects : ShadowTable) (backed : List Traffic → β → Prop) (rows : List β) (distinct : (rows.map key).Nodup) (st : UInt32 × Session)
    (table : st.2.objects = objects) (keeps : ∀ st b, (f st b).2.objects = st.2.objects)
    (each : ∀ st b, b ∈ rows → st.2.objects = objects → backed st.2.trace b → Frees p (· = key b) st.2 (f st b).2)
    (stays : ∀ s s' b device, device ≠ key b → Frees p (· = device) s s' → backed s.trace b → backed s'.trace b)
    (facts : ∀ b ∈ rows, backed st.2.trace b) : Frees p (· ∈ rows.map key) st.2 (rows.foldl f st).2 := by
  induction rows generalizing st with
  | nil => exact .refl _ _
  | cons b rest ih =>
      rw [List.map_cons] at distinct
      obtain ⟨apart, distinct'⟩ := List.nodup_cons.mp distinct
      have frees := each st b List.mem_cons_self table (facts b List.mem_cons_self)
      refine Frees.trans (frees.mono fun device same => by rw [same]; exact List.mem_cons_self) (Frees.mono (ih distinct' _ ((keeps st b).trans table)
        (fun st c member => each st c (List.mem_cons_of_mem _ member)) fun c member => ?_) fun device member => List.mem_cons_of_mem _ member)
      exact stays _ _ c (key b) (fun same => apart (same ▸ List.mem_map_of_mem member)) frees (facts c (List.mem_cons_of_mem _ member))

-- The row of another device stays backed.
theorem pointer_backed_along (covered : Covered p) (s s' : Session) (grab : UInt32 × Option UInt32 × List UInt32) (device : UInt32)
    (other : device ≠ grab.1) (frees : Frees p (· = device) s s') (backed : PointerBacked p s.trace grab) : PointerBacked p s'.trace grab where
  alive := (frees.spares covered grab.1).1 _ backed.alive
  entered surface entered := ((frees.spares covered grab.1).2 (Ne.symm other)).1 surface (backed.entered surface entered)
  pressed button member := ((frees.spares covered grab.1).2 (Ne.symm other)).2 button (backed.pressed button member)
  distinct := backed.distinct

theorem keyboard_backed_along (covered : Covered p) {among : UInt32 → Prop} (s s' : Session) (grab : UInt32 × UInt32)
    (other : ¬ among grab.1) (frees : Frees p among s s') (backed : KeyboardBacked p s.trace grab) : KeyboardBacked p s'.trace grab where
  alive := (frees.spares covered grab.1).1 _ backed.alive
  entered := ((frees.spares covered grab.1).2 other).1 grab.2 backed.entered

end Releasing

-- What the tracker says of the devices the client has is so.
structure Backed (p : Protocol) (s : Session) : Prop where
  focus : ∀ kind device surface, s.grabs.focus kind device = some surface → s.objects.interface device = some kind.interface ∧
    (client p s.trace).Alive device kind.interface ∧ OnSurface p s.trace device surface
  pressed : ∀ device button, s.grabs.pressed device button = true → s.objects.interface device = some SeatDeviceKind.pointer.interface ∧
    (client p s.trace).Alive device SeatDeviceKind.pointer.interface ∧ (hands p s.trace).pressed device button = true
  distinct : ∀ device, (s.grabs.pointer device).pressedButtons.Nodup

theorem mem_grabbed (t : GrabTracker) (kind : SeatDeviceKind) (device surface : UInt32) (focused : t.focus kind device = some surface) :
    device ∈ t.grabbed ∧ surface ∈ t.entered := by
  cases kind with
  | pointer =>
      simp only [GrabTracker.focus, GrabTracker.pointer] at focused
      cases found : t.pointers.lookup device with
      | none => simp [found] at focused
      | some state =>
          have entered : state.enteredSurface = some surface := by simpa [found] using focused
          have active := (mem_active_pointer_grabs t .insertionOrder (device, state.enteredSurface, state.pressedButtons)).mpr
            ⟨state, found, by simp [entered], rfl⟩
          exact ⟨List.mem_append_left _ (List.mem_map_of_mem active),
            List.mem_append_left _ (List.mem_filterMap.mpr ⟨_, active, entered⟩)⟩
  | keyboard =>
      obtain ⟨⟨entered⟩, found, is⟩ := Option.bind_eq_some_iff.mp focused
      cases is
      have active := (mem_active_keyboard_grabs t .insertionOrder (device, surface)).mpr found
      exact ⟨List.mem_append_right _ (List.mem_map_of_mem active), List.mem_append_right _ (List.mem_map_of_mem active)⟩
  | touch => cases focused

theorem pressed_grabbed (t : GrabTracker) (device button : UInt32) (pressed : t.pressed device button = true) : device ∈ t.grabbed := by
  simp only [GrabTracker.pressed, GrabTracker.pointer] at pressed
  cases found : t.pointers.lookup device with
  | none => simp [found] at pressed
  | some state =>
      have down : button ∈ state.pressedButtons := by simpa [found] using pressed
      exact List.mem_append_left _ (List.mem_map_of_mem ((mem_active_pointer_grabs t .insertionOrder
        (device, state.enteredSurface, state.pressedButtons)).mpr ⟨state, found, by simp [List.ne_nil_of_mem down], rfl⟩))

section Resuming

variable {p : Protocol} {s : Session} (order : HashOrder)

theorem arranged_keys_differ {β : Type} (m : HashMap β) : (order.arrange m.entries).Pairwise fun a b => a.1 ≠ b.1 := by
  have distinct : (m.entries.map Sigma.fst).Nodup := m.nodupKeys
  exact List.pairwise_map.mp (((order.perm m.entries).map Sigma.fst).nodup_iff.mpr distinct)

theorem pointer_grabs_differ (grabs : GrabTracker) : ((grabs.activePointerGrabs order).map Prod.fst).Nodup := by
  rw [GrabTracker.activePointerGrabs, List.map_map, List.Nodup, List.pairwise_map]
  exact (arranged_keys_differ order grabs.pointers).filter _

theorem keyboard_grabs_differ (grabs : GrabTracker) : ((grabs.activeKeyboardGrabs order).map Prod.fst).Nodup := by
  rw [GrabTracker.activeKeyboardGrabs, List.Nodup, List.pairwise_map]
  refine List.Pairwise.filterMap _ (fun a b apart x found y found' => ?_) (arranged_keys_differ order grabs.keyboards)
  obtain ⟨-, -, rfl⟩ := Option.map_eq_some_iff.mp found
  obtain ⟨-, -, rfl⟩ := Option.map_eq_some_iff.mp found'
  exact apart

theorem backed_pointer (backed : Backed p s) (grab : UInt32 × Option UInt32 × List UInt32) (active : grab ∈ s.grabs.activePointerGrabs order) :
    s.objects.interface grab.1 = some ⟨"wl_pointer"⟩ ∧ PointerBacked p s.trace grab := by
  obtain ⟨state, tracked, some, same⟩ := (mem_active_pointer_grabs _ _ _).mp active
  have is : s.grabs.pointer grab.1 = state := by rw [GrabTracker.pointer, tracked]; rfl
  have enters : ∀ surface, state.enteredSurface = .some surface → _ := fun surface entered =>
    backed.focus .pointer grab.1 surface (by rw [GrabTracker.focus, is]; exact entered)
  have presses : ∀ button, button ∈ state.pressedButtons → _ := fun button member =>
    backed.pressed grab.1 button (by rw [GrabTracker.pressed, is]; exact decide_eq_true member)
  have seated : s.objects.interface grab.1 = .some ⟨"wl_pointer"⟩ ∧ (client p s.trace).Alive grab.1 ⟨"wl_pointer"⟩ := by
    cases entered : state.enteredSurface with
    | some surface => exact ⟨(enters surface entered).1, (enters surface entered).2.1⟩
    | none =>
        cases pressed : state.pressedButtons with
        | nil => simp [entered, pressed] at some
        | cons button rest =>
            have facts := presses button (by rw [pressed]; exact List.mem_cons_self)
            exact ⟨facts.1, facts.2.1⟩
  refine ⟨seated.1, seated.2, ?_, ?_, ?_⟩
  · rw [same]
    exact fun surface entered => (enters surface entered).2.2
  · rw [same]
    exact fun button member => (presses button member).2.2
  · rw [same, ← is]
    exact backed.distinct grab.1

theorem backed_keyboard (backed : Backed p s) (grab : UInt32 × UInt32) (active : grab ∈ s.grabs.activeKeyboardGrabs order) :
    s.objects.interface grab.1 = some ⟨"wl_keyboard"⟩ ∧ KeyboardBacked p s.trace grab := by
  have tracked := (mem_active_keyboard_grabs _ _ _).mp active
  obtain ⟨known, alive, entered⟩ := backed.focus .keyboard grab.1 grab.2 (by simp [GrabTracker.focus, tracked])
  exact ⟨known, alive, entered⟩

-- What the end of a recovery lets go of, the client's devices held.
theorem synthesize_frees (detailed : Detailed p) (backed : Backed p s) :
    Frees p (fun _ => True) s (synthesizeGrabReleases p order s) := by
  have covered := detailed.toCovered
  let pointers := (s.grabs.activePointerGrabs order).foldl (releasePointerGrab p) (1, s)
  have table : pointers.2.objects = s.objects := grab_fold_objects _ release_pointer_grab_objects _ _
  have released : Frees p (· ∈ (s.grabs.activePointerGrabs order).map Prod.fst) s pointers.2 := by
    refine fold_frees Prod.fst (releasePointerGrab p) s.objects (PointerBacked p) _ (pointer_grabs_differ order s.grabs) (1, s) rfl
      release_pointer_grab_objects (fun st grab active table facts => ?_)
      (fun s s' grab device other frees facts => pointer_backed_along covered s s' grab device other frees facts)
      fun grab active => (backed_pointer order backed grab active).2
    exact pointer_grab_frees detailed grab st (by rw [table]; exact (backed_pointer order backed grab active).1) facts
  have keyboards : Frees p (· ∈ (s.grabs.activeKeyboardGrabs order).map Prod.fst) pointers.2
      ((s.grabs.activeKeyboardGrabs order).foldl (releaseKeyboardGrab p) pointers).2 := by
    refine fold_frees Prod.fst (releaseKeyboardGrab p) s.objects (KeyboardBacked p) _ (keyboard_grabs_differ order s.grabs) pointers table
      release_keyboard_grab_objects (fun st grab active table facts => ?_)
      (fun s s' grab device other frees facts => keyboard_backed_along covered s s' grab (fun same => other same.symm) frees facts)
      fun grab active => ?_
    · exact keyboard_grab_frees detailed grab st (by rw [table]; exact (backed_keyboard order backed grab active).1) facts
    · have facts := backed_keyboard order backed grab active
      refine keyboard_backed_along covered s pointers.2 grab (fun among => ?_) released facts.2
      obtain ⟨pointer, active', same⟩ := List.mem_map.mp among
      have known := (backed_pointer order backed pointer active').1
      rw [same, facts.1] at known
      exact absurd known (by decide)
  exact (released.mono fun _ _ => trivial).trans (keyboards.mono fun _ _ => trivial)

end Resuming

section Steps

variable {p : Protocol} {s s' : Session}

theorem Client.Alive.holds {c : Client} {g : UInt32} {i : Interface} (alive : c.Alive g i) : c.Holds g i := by
  obtain ⟨o, here, kind, -, present⟩ := alive
  exact ⟨o, here, kind, present⟩

-- A stretch without a word on grabs.
theorem Backed.along (backed : Backed p s) (added : List Traffic) (grown : s'.trace = s.trace ++ added) (grabs : s'.grabs = s.grabs)
    (none : ∀ entry ∈ added, entry.gesture p = none) (devices : ∀ device ∈ s.grabs.grabbed, Steady p device s.trace added)
    (surfaces : ∀ surface ∈ s.grabs.entered, Lasting p surface s.trace added)
    (seats : ∀ kind device, Steady p device s.trace added → Seated p s kind device → Seated p s' kind device) : Backed p s' where
  focus kind device surface focused := by
    rw [grabs] at focused
    obtain ⟨known, alive, stands⟩ := backed.focus kind device surface focused
    obtain ⟨grabbed, entered⟩ := mem_grabbed s.grabs kind device surface focused
    have steady := devices device grabbed
    refine ⟨(seats kind device steady ⟨alive.holds, known⟩).listed, ?_, ?_⟩
    · rw [grown]
      exact alive_along added steady alive
    · rw [grown]
      exact on_surface_along added steady (fun entry member gesture => by rw [none entry member]; nofun) (surfaces surface entered) stands
  pressed device button pressed := by
    rw [grabs] at pressed
    obtain ⟨known, alive, down⟩ := backed.pressed device button pressed
    have steady := devices device (pressed_grabbed s.grabs device button pressed)
    refine ⟨(seats .pointer device steady ⟨alive.holds, known⟩).listed, ?_, ?_⟩
    · rw [grown]
      exact alive_along added steady alive
    · rw [grown]
      exact pressed_along added steady (fun entry member gesture => by rw [none entry member]; nofun) down
  distinct := by
    rw [grabs]
    exact backed.distinct

theorem grabbed_held (backed : Backed p s) {device : UInt32} (grabbed : device ∈ s.grabs.grabbed) :
    ∃ kind : SeatDeviceKind, (client p s.trace).Alive device kind.interface := by
  rcases List.mem_append.mp grabbed with pointer | keyboard
  · obtain ⟨grab, active, rfl⟩ := List.mem_map.mp pointer
    exact ⟨.pointer, (backed_pointer .insertionOrder backed grab active).2.alive⟩
  · obtain ⟨grab, active, rfl⟩ := List.mem_map.mp keyboard
    exact ⟨.keyboard, (backed_keyboard .insertionOrder backed grab active).2.alive⟩

theorem entered_held (backed : Backed p s) {surface : UInt32} (entered : surface ∈ s.grabs.entered) :
    (client p s.trace).Holds surface wlSurface := by
  have stood : ∀ device, OnSurface p s.trace device surface → (client p s.trace).Holds surface wlSurface := by
    rintro device ⟨o, here, kind, present, -⟩
    exact ⟨o, here, kind, present⟩
  rcases List.mem_append.mp entered with pointer | keyboard
  · obtain ⟨grab, active, enters⟩ := List.mem_filterMap.mp pointer
    exact stood _ ((backed_pointer .insertionOrder backed grab active).2.entered surface enters)
  · obtain ⟨grab, active, rfl⟩ := List.mem_map.mp keyboard
    exact stood _ (backed_keyboard .insertionOrder backed grab active).2.entered

-- A stretch without a word on grabs in which nothing they are about goes.
theorem Backed.onward (backed : Backed p s) (added : List Traffic) (grown : s'.trace = s.trace ++ added) (grabs : s'.grabs = s.grabs)
    (none : ∀ entry ∈ added, entry.gesture p = none) (unused : IdsUnused p (s.trace ++ added))
    (spared : ∀ entry ∈ added, ∀ g ∈ s.grabs.grabbed ++ s.grabs.entered, entry.deletes p ≠ some g)
    (kept : ∀ device ∈ s.grabs.grabbed, Lawful (fun past entry => entry.destroys p (client p past) ≠ some device) s.trace added)
    (seats : ∀ kind device, Steady p device s.trace added → Seated p s kind device → Seated p s' kind device) : Backed p s' := by
  have lasting : ∀ g ∈ s.grabs.grabbed ++ s.grabs.entered, Lasting p g s.trace added := by
    intro g member
    have held : ∃ i, (client p s.trace).Holds g i := (List.mem_append.mp member).elim
      (fun grabbed => (grabbed_held backed grabbed).elim fun kind alive => ⟨_, alive.holds⟩) fun entered => ⟨_, entered_held backed entered⟩
    obtain ⟨i, o, here, -, present⟩ := held
    exact lasting_unused added here present ((ids_unused_append _ _).mp unused).2 fun entry among => spared entry among g member
  exact backed.along added grown grabs none (fun device member => (lasting device (List.mem_append_left _ member)).steady (kept device member))
    (fun surface member => lasting surface (List.mem_append_right _ member)) seats

theorem observe_grabs_distinct (grabs : GrabTracker) (m : Inbound) (payload : Bytes)
    (distinct : ∀ device, (grabs.pointer device).pressedButtons.Nodup) (device : UInt32) :
    ((observeGrabs grabs m payload).pointer device).pressedButtons.Nodup := by
  have inserted : ∀ (other : UInt32) (state : PointerState), state.pressedButtons.Nodup →
      (GrabTracker.pointer { grabs with pointers := grabs.pointers.insert other state } device).pressedButtons.Nodup := by
    intro other state fine
    rw [GrabTracker.pointer_insert]
    split
    · exact fine
    · exact distinct device
  unfold observeGrabs
  split
  · exact inserted _ _ (distinct _)
  · split
    · unfold GrabTracker.onPointerLeave
      split
      · exact distinct device
      · rename_i state found
        refine inserted _ _ ?_
        have was := distinct m.sender
        rwa [GrabTracker.pointer, found] at was
    · split
      · refine inserted _ _ ?_
        dsimp only
        split
        · split
          · exact distinct _
          · rename_i up
            exact List.Nodup.append (distinct _) (List.nodup_singleton _) fun other held same => by
              rw [List.mem_singleton.mp same] at held
              exact up held
        · exact (distinct _).filter _
      · split
        · exact distinct device
        · split
          · unfold GrabTracker.onKeyboardLeave
            split <;> exact distinct device
          · exact distinct device

-- A press of a button keeps a device where it is.
theorem on_surface_felt (covered : Covered p) {past : List Traffic} {device surface other : UInt32} {entry : Traffic} {gesture : Gesture}
    (felt : entry.gesture p = some (other, gesture)) (keeps : device = other → ∃ button state, gesture = .button button state)
    (stands : OnSurface p past device surface) : OnSurface p (past ++ [entry]) device surface := by
  obtain ⟨o, here, kind, present, focus⟩ := stands
  have steady := @gestures_steady p past covered [entry] (fun e member => by rw [List.mem_singleton.mp member, felt]; rfl) surface
  refine ⟨o, steady_kept _ steady here, kind, present, ?_⟩
  rw [note_focus, felt, gesture_turnover covered _ felt]
  simp only [List.not_mem_nil, if_false]
  split
  · rename_i same
    obtain ⟨button, state, rfl⟩ := keeps same
    exact focus
  · exact focus

-- A gesture that fits comes to the tracker as it does to the client.
theorem gesture_backed (covered : Covered p) (backed : Backed p s) (entry : Traffic) (grown : s'.trace = s.trace ++ [entry])
    (device : UInt32) (gesture : Gesture) (felt : entry.gesture p = some (device, gesture)) (kind : SeatDeviceKind)
    (known : s.objects.interface device = some kind.interface)
    (button : (∃ button state, gesture = .button button state) → kind = .pointer)
    (follows : Follows s.grabs s'.grabs kind.interface device gesture)
    (table : ∀ kind device, Seated p s kind device → Seated p s' kind device)
    (distinct : ∀ device, (s'.grabs.pointer device).pressedButtons.Nodup)
    (fits : gesture.eases = false → (client p s.trace).Alive device kind.interface ∧
      ∀ surface ∈ gesture.surface, (client p s.trace).Holds surface wlSurface) : Backed p s' := by
  have steady := @gestures_steady p s.trace covered [entry] fun e member => by rw [List.mem_singleton.mp member, felt]; rfl
  have sits : ∀ (kind : SeatDeviceKind) device, s.objects.interface device = some kind.interface → (client p s.trace).Alive device kind.interface →
      s'.objects.interface device = some kind.interface ∧ (client p s'.trace).Alive device kind.interface := by
    intro kind device known alive
    refine ⟨(table kind device ⟨alive.holds, known⟩).listed, ?_⟩
    rw [grown]
    exact alive_along _ (steady device) alive
  refine ⟨fun kind' query surface focused => ?_, fun query down pressed => ?_, distinct⟩
  · rw [follows.focus] at focused
    split at focused
    · rename_i same
      obtain ⟨same, rfl⟩ := same
      have agree := kind_interface_injective _ _ same
      subst agree
      cases gesture with
      | leave => cases focused
      | enter entered =>
          cases focused
          obtain ⟨alive, holds⟩ := fits rfl
          obtain ⟨o, here, isSurface, present⟩ := holds entered rfl
          obtain ⟨known', alive'⟩ := sits kind' query known alive
          refine ⟨known', alive', o, ?_, isSurface, present, ?_⟩
          · rw [grown]
            exact steady_kept _ (steady entered) here
          · rw [grown, note_focus, felt, gesture_turnover covered _ felt]
            simp [Gesture.focus, Client.named, here]
      | button other state =>
          obtain ⟨-, alive, stands⟩ := backed.focus kind' query surface focused
          obtain ⟨known', alive'⟩ := sits kind' query known alive
          refine ⟨known', alive', ?_⟩
          rw [grown]
          exact on_surface_felt covered felt (fun _ => ⟨other, state, rfl⟩) stands
    · rename_i other
      obtain ⟨known', alive, stands⟩ := backed.focus kind' query surface focused
      have away : query ≠ device := by
        rintro rfl
        rw [known] at known'
        exact other ⟨(Option.some.inj known').symm, rfl⟩
      obtain ⟨known'', alive'⟩ := sits kind' query known' alive
      refine ⟨known'', alive', ?_⟩
      rw [grown]
      exact on_surface_felt covered felt (fun same => absurd same away) stands
  · have held : s.grabs.pressed query down = true → gesture.presses down true = true ∨ query ≠ device →
        s'.objects.interface query = some SeatDeviceKind.pointer.interface ∧
          (client p s'.trace).Alive query SeatDeviceKind.pointer.interface ∧ (hands p s'.trace).pressed query down = true := by
      intro was still
      obtain ⟨known', alive, pressed'⟩ := backed.pressed query down was
      obtain ⟨known'', alive'⟩ := sits .pointer query known' alive
      refine ⟨known'', alive', ?_⟩
      rw [grown, note_pressed, felt, gesture_turnover covered _ felt]
      simp only [List.not_mem_nil, if_false]
      split
      · rename_i same
        rw [pressed']
        exact still.resolve_right fun away => away same
      · exact pressed'
    rw [follows.pressed] at pressed
    split at pressed
    · rename_i same
      subst same
      cases gesture with
      | enter | leave => exact held pressed (.inl rfl)
      | button other state =>
          by_cases same : down = other
          · subst same
            simp only [Gesture.presses, if_true, decide_eq_true_eq] at pressed
            have pointer := button ⟨down, state, rfl⟩
            subst pointer
            obtain ⟨known', alive'⟩ := sits .pointer query known (fits (by simp [Gesture.eases, pressed])).1
            refine ⟨known', alive', ?_⟩
            rw [grown, note_pressed, felt, gesture_turnover covered _ felt]
            simp [Gesture.presses, pressed]
          · simp only [Gesture.presses, if_neg same] at pressed
            exact held pressed (.inl (by simp [Gesture.presses, same]))
    · rename_i away
      exact held pressed (.inr away)

end Steps

section Renaming

variable {env : Env} (detailed : Detailed env.protocol) {s : Session} {msg : Bytes} {m : Inbound} {created : Option Creation}
  {deleted : Option UInt32} {renamed : Bytes} {noted : Session} (noting : EventNoted env s msg m created deleted renamed noted)

include noting

-- The second field of an enter is translated.
theorem renamed_surface (outgoing : Outgoing env.protocol s.objects m created renamed) {rest : List ArgumentType}
    (signature : m.desc.signature = .uint :: .object :: rest) :
    s.objects.guestId (wordAt (msg.drop headerLen) 4) = some (wordAt (renamed.drop headerLen) 4) := by
  have resolved := noting.resolved
  have event := resolved.way
  have walks := noting.walks
  rw [signature] at walks
  obtain ⟨more, offsets⟩ := walk_second_object _ _ _ walks
  have decoded : decode env.protocol m.direction m.interface renamed = some (callOf env.protocol m.desc m.walk renamed) := by
    rw [event]
    refine decode_some _ _ _ _ _ _ ?_ noting.walks
    rw [outgoing.opcode, resolved.head]
    exact resolved_listed env s.objects .hostToClient msg m resolved
  have translated := outgoing.objects _ decoded
  rw [resolved.originals] at translated
  simp only [callOf, offsets, List.map_cons, event] at translated
  obtain ⟨first, -⟩ := List.forall₂_cons.mp translated
  rw [word_at_drop, word_at_drop]
  exact first

include detailed

-- A gesture that is passed on says what the host's did.
theorem raw_gesture (outgoing : Outgoing env.protocol s.objects m created renamed) {gesture : Gesture}
    (felt : gestureOf m.interface m.desc.name (renamed.drop headerLen) = some gesture) :
    ∃ raw, gestureOf m.interface m.desc.name (msg.drop headerLen) = some raw ∧ raw.eases = gesture.eases ∧
      ∀ surface ∈ gesture.surface, ∃ named ∈ raw.surface, s.objects.guestId named = some surface := by
  have member : m.desc ∈ env.protocol.events m.interface := resolved_member env s.objects .hostToClient msg m noting.resolved
  have entry : ∀ name known, m.interface.name = name → (env.protocol.events ⟨name⟩).find? (fun desc => desc.name = known.name) = some known →
      m.desc.name = known.name → m.desc = known := by
    intro name known is listed named
    rw [interface_named _ _ is] at member
    exact find_entry _ (detailed.events _) known _ listed member named
  unfold gestureOf at felt ⊢
  split at felt
  · rename_i device
    rw [if_pos device]
    split at felt
    · rename_i enter
      cases felt
      rw [if_pos enter]
      refine ⟨_, rfl, rfl, fun surface is => ?_⟩
      cases is
      refine ⟨_, rfl, ?_⟩
      rcases device with isPointer | isKeyboard
      · exact renamed_surface noting outgoing (by rw [entry _ ⟨"enter", _, _, _⟩ isPointer detailed.pointerEnter enter])
      · exact renamed_surface noting outgoing (by rw [entry _ ⟨"enter", _, _, _⟩ isKeyboard detailed.keyboardEnter enter])
    · rename_i enter
      rw [if_neg enter]
      split at felt
      · rename_i leave
        cases felt
        rw [if_pos leave]
        exact ⟨_, rfl, rfl, nofun⟩
      · rename_i leave
        rw [if_neg leave]
        split at felt
        · rename_i button
          cases felt
          have desc := entry _ ⟨"button", false, [.uint, .uint, .uint, .uint], none⟩ button.1 detailed.pointerButton button.2
          have walks := noting.walks
          have same : renamed.drop headerLen = msg.drop headerLen := by
            refine agree_plain m.walk _ _ (noting.rewrites fun display => ?_).payload ?_ ?_
            · rw [button.1] at display
              exact absurd display.1 (by decide)
            · refine List.length_eq_zero_iff.mp ?_
              rw [walk_object_count _ _ _ walks, desc]
              rfl
            · have absent := walk_new_id _ _ _ walks
              rw [desc] at absent
              simpa using absent
          rw [if_pos button, same]
          exact ⟨_, rfl, rfl, nofun⟩
        · cases felt
  · cases felt

end Renaming

section Turns

variable {env : Env} (detailed : Detailed env.protocol) (s handled : Session) (ambient : Ambient) (msg : Bytes)

-- Entries that take no request of the client's.
theorem none_destroyed {added : List Traffic} (each : ∀ entry ∈ added, ∀ c, entry.destroys env.protocol c = none) (past : List Traffic)
    (device : UInt32) : Lawful (fun past entry => entry.destroys env.protocol (client env.protocol past) ≠ some device) past added :=
  lawful_of_each _ _ _ fun before entry after split => by
    rw [each entry (by rw [split]; simp)]
    nofun

theorem Traffic.Aloof.spares {p : Protocol} {entry : Traffic} (aloof : entry.Aloof p) :
    entry.deletes p = none ∧ ∀ c, entry.destroys p c = none := by
  have none := fun c => aloof.keeps c
  simp only [Traffic.turnover, List.append_eq_nil_iff, Option.toList_eq_nil_iff] at none
  exact ⟨(none Client.start).2, fun c => (none c).1.2⟩

include detailed

theorem event_turn_backed (turn : EventTurn env ambient (s.log (.took .host msg)) msg handled)
    (kept : ∀ g ∈ s.grabs.grabbed ++ s.grabs.entered, ¬ HostDeletes env.protocol s.objects msg g) (fits : GestureFits env.protocol s msg)
    (unused : IdsUnused env.protocol handled.trace) (agrees : Agrees env.protocol s.objects s.graph s.trace)
    (seats : ∀ added, handled.trace = s.trace ++ added → ∀ kind device, Steady env.protocol device s.trace added →
      Seated env.protocol s kind device → Seated env.protocol handled kind device)
    (backed : Backed env.protocol s) : Backed env.protocol handled := by
  cases turn with
  | unheard table books grabs trace =>
      obtain ⟨added, whole, aloof⟩ := unheard_adds env s handled msg trace
      rw [whole] at unused
      refine backed.onward _ whole grabs (fun entry among => (aloof entry among).quiet) unused (fun entry among g _ => ?_)
        (fun device _ => none_destroyed (fun entry among => (aloof entry among).spares.2) _ device) (seats _ whole)
      rw [(aloof entry among).spares.1]
      nofun
  | heard m created deleted renamed noted noting outgoing names is =>
      obtain ⟨added, sent, whole, aloof, relays, grabs⟩ := heard_event s handled ambient msg noting outgoing is
      have gesture := relays.gesture noted noting
      rw [whole] at unused
      cases found : gestureOf m.interface m.desc.name (renamed.drop headerLen) with
      | none =>
          rw [found] at gesture
          rw [observe_grabs_quiet s.grabs m _ noting.resolved.way found] at grabs
          refine backed.onward _ whole grabs (fun entry among => ?_) unused (fun entry among g member => ?_)
            (fun device _ => none_destroyed (fun entry among => ?_) _ device) (seats _ whole)
          all_goals rcases List.mem_append.mp among with before | last
          · exact (aloof entry before).quiet
          · rw [List.mem_singleton.mp last]
            exact gesture
          · rw [(aloof entry before).spares.1]
            nofun
          · rw [List.mem_singleton.mp last]
            exact fun gone => kept g member (relays.deletes noted noting names g gone).1
          · exact (aloof entry before).spares.2
          · rw [List.mem_singleton.mp last]
            exact fun _ => rfl
      | some felt =>
          rw [found] at gesture
          obtain ⟨kind, kind_is, heard⟩ := heard_gesture detailed s handled msg noting grabs found
          have turnover := fun past => gesture_turnover detailed.toCovered past gesture
          have steady : ∀ device, Steady env.protocol device s.trace (added ++ [.sent sent]) := fun device =>
            (lawful_append _ _ _ _).mpr ⟨aloof_steady aloof _ _, not_mem_turnover (turnover _) device, trivial⟩
          -- the turn up to the event itself
          let before := { s with trace := s.trace ++ added }
          have settled : Backed env.protocol before := by
            refine backed.onward added rfl rfl (fun entry among => (aloof entry among).quiet)
              (unused.earlier ⟨[.sent sent], by simp⟩) (fun entry among g _ => ?_)
              (fun device _ => none_destroyed (fun entry among => (aloof entry among).spares.2) _ device)
              fun kind device steady seated => ⟨steady_holds added steady seated.held, seated.listed⟩
            rw [(aloof entry among).spares.1]
            nofun
          refine gesture_backed detailed.toCovered settled (.sent sent) (whole.trans (List.append_assoc _ _ _).symm) m.sender felt gesture kind
            heard.listed heard.button heard.follows
            (fun kind device seated => seats _ whole kind device (steady device) (listed_seated agrees kind device seated.listed))
            (fun device => by rw [grabs]; exact observe_grabs_distinct s.grabs m _ backed.distinct device) fun starts => ?_
          obtain ⟨raw, named, eases, surfaces⟩ := raw_gesture detailed noting outgoing found
          have resolved := noting.resolved
          obtain ⟨alive, enters⟩ := fits m.sender (resolved_event env s.objects _ msg m resolved rfl) m.interface
            (resolved_interface env s.objects _ msg m resolved) _ (resolved_decode env s.objects _ msg m resolved) raw named (by rw [eases, starts])
          rw [kind_is] at alive
          refine ⟨alive_along added (aloof_steady aloof _ _) alive, fun surface enter => ?_⟩
          obtain ⟨a, entered, is⟩ := surfaces surface enter
          obtain ⟨guest, translated, holds⟩ := enters a entered
          have same : surface = guest := Option.some.inj (is.symm.trans translated)
          rw [same]
          exact steady_holds added (aloof_steady aloof _ _) holds

omit detailed in
theorem genuine_told (covered : Covered env.protocol) {fine : Interface → String → UInt32 → Bytes → Prop} (past : List Traffic) {entry : Traffic}
    (told : entry.Told env.protocol fine) (other : ∀ interface event guestId payload, fine interface event guestId payload →
      event ∉ ["leave", "button"]) : GenuineRelease env.protocol past entry := by
  cases entry with
  | sent m =>
      obtain ⟨peer, origin, interface, bytes, fds, outcome⟩ := m
      obtain ⟨-, -, event, guestId, opcode, payload, listed, built, stands⟩ := told
      dsimp only at listed built stands
      subst built
      intro _ _ call decoded named
      rw [(told_reads covered interface event guestId opcode payload listed call decoded).1] at named
      exact absurd named (other interface event guestId payload stands)
  | _ => cases told

omit detailed in
theorem genuine_to_host (past : List Traffic) {entry : Traffic} (writes : Writes .host (fun _ => True) entry) :
    GenuineRelease env.protocol past entry := by
  cases entry with
  | sent m => exact fun toClient => by rw [writes.1] at toClient; cases toClient
  | _ => cases writes

omit detailed in
theorem genuine_quiet (covered : Covered env.protocol) (past : List Traffic) {entry : Traffic} (quiet : entry.Quiet env.protocol) :
    GenuineRelease env.protocol past entry := by
  cases entry with
  | sent m =>
      obtain ⟨peer, origin, interface, bytes, fds, outcome⟩ := m
      intro toClient _ call decoded named
      obtain ⟨guestId, opcode, payload, listed, built⟩ := quiet toClient
      dsimp only at listed built
      subst built
      rw [(told_reads covered interface "configure" guestId opcode payload listed call decoded).1] at named
      exact absurd named (by decide)
  | _ => trivial

omit detailed in
theorem quiet_destroys {p : Protocol} {entry : Traffic} (quiet : entry.Quiet p) (c : Client) : entry.destroys p c = none := by
  cases entry with
  | took peer msg | skimmed peer msg =>
      cases peer
      · cases quiet
      · rfl
  | _ => rfl

theorem request_turn_backed (turn : RequestTurn env ambient (s.log (.took .gtk msg)) msg handled)
    (devices : ∀ device ∈ s.grabs.grabbed, Traffic.destroys env.protocol (client env.protocol s.trace) (.took .gtk msg) ≠ some device)
    (surfaces : ∀ surface ∈ s.grabs.entered, Traffic.destroys env.protocol (client env.protocol s.trace) (.took .gtk msg) = some surface →
      Traffic.introduces env.protocol (client env.protocol s.trace) (.took .gtk msg) = none ∧ (s.objects.hostId surface).isSome = true)
    (unused : IdsUnused env.protocol handled.trace) (agrees : Agrees env.protocol s.objects s.graph s.trace)
    (seats : ∀ added, handled.trace = s.trace ++ added → ∀ kind device, Steady env.protocol device s.trace added →
      Seated env.protocol s kind device → Seated env.protocol handled kind device)
    (backed : Backed env.protocol s) : Backed env.protocol handled ∧ ∃ added, handled.trace = s.trace ++ added ∧
      ∀ entry ∈ added, ∀ past, GenuineRelease env.protocol past entry := by
  obtain ⟨added, after, grown⟩ := request_turn_adds env ambient (s.log (.took .gtk msg)) msg handled turn
  have whole : handled.trace = s.trace ++ .took .gtk msg :: added := by rw [grown]; simp [Session.log]
  rw [whole] at unused
  have lawful := ((ids_unused_append _ _).mp unused).2.1
  have held : ∀ g ∈ s.grabs.grabbed ++ s.grabs.entered, Traffic.introduces env.protocol (client env.protocol s.trace) (.took .gtk msg) ≠ some g := by
    intro g member introduced
    have free := (lawful g introduced).2
    rcases List.mem_append.mp member with grabbed | entered
    · obtain ⟨i, o, here, -⟩ := grabbed_held backed grabbed
      rw [free] at here
      cases here
    · obtain ⟨o, here, -⟩ := entered_held backed entered
      rw [free] at here
      cases here
  refine ⟨backed.onward _ whole (request_turn_grabs env ambient (s.log (.took .gtk msg)) handled msg turn) (fun entry among => ?_) unused
    (fun entry among g member gone => ?_) (fun device member => ?_) (seats _ whole), _, whole, fun entry among past => ?_⟩
  · rcases List.mem_cons.mp among with rfl | later
    · rfl
    · exact after_request_gesture detailed.toCovered ambient _ msg entry (after entry later)
  · rcases List.mem_cons.mp among with rfl | later
    · cases gone
    · rcases after_request_deletes env detailed ambient (s.log (.took .gtk msg)) msg s.trace agrees entry (after entry later) g gone with
        introduced | ⟨destroyed, missing⟩
      · exact held g member introduced
      · rcases List.mem_append.mp member with grabbed | entered
        · exact devices g grabbed destroyed
        · obtain ⟨absent, reaches⟩ := surfaces g entered destroyed
          rw [show s.objects.hostId g = none from missing absent] at reaches
          cases reaches
  · refine ⟨devices device member, none_destroyed (fun entry among c => ?_) _ device⟩
    have fine := after entry among
    cases entry with
    | took | skimmed =>
        rcases fine with writes | ⟨m, created, translated, rewritten, noted, noting, failed, told⟩
        · cases writes
        · cases told
    | _ => rfl
  · rcases List.mem_cons.mp among with rfl | later
    · trivial
    · rcases after entry later with writes | ⟨m, created, translated, rewritten, noted, noting, failed, told⟩
      · exact genuine_to_host past writes
      · refine genuine_told detailed.toCovered past told fun interface event guestId payload answer => ?_
        rcases stale_answer_event answer with rfl | rfl <;> decide

end Turns

theorem event_turn_genuine {env : Env} (s handled : Session) (ambient : Ambient) (msg : Bytes)
    (turn : EventTurn env ambient (s.log (.took .host msg)) msg handled) : ∃ added, handled.trace = s.trace ++ added ∧
      ∀ entry ∈ added, ∀ past, GenuineRelease env.protocol past entry := by
  have aloof_genuine : ∀ added : List Traffic, (∀ entry ∈ added, entry.Aloof env.protocol) → ∀ entry ∈ added, ∀ past,
      GenuineRelease env.protocol past entry := by
    intro added aloof entry among past
    cases entry with
    | sent m => exact fun toClient => by rw [(aloof _ among).away m rfl] at toClient; cases toClient
    | _ => trivial
  cases turn with
  | unheard table books grabs trace =>
      obtain ⟨added, whole, aloof⟩ := unheard_adds env s handled msg trace
      exact ⟨added, whole, aloof_genuine added aloof⟩
  | heard m created deleted renamed noted noting outgoing names is =>
      obtain ⟨added, sent, whole, aloof, relays, -⟩ := heard_event s handled ambient msg noting outgoing is
      refine ⟨_, whole, fun entry among past => ?_⟩
      rcases List.mem_append.mp among with early | last
      · exact aloof_genuine added aloof entry early past
      · rw [List.mem_singleton.mp last]
        exact fun _ own => by rw [relays.relayed] at own; cases own

theorem backed_new {p : Protocol} {s : Session} (empty : s.grabs = GrabTracker.new) : Backed p s := by
  refine ⟨fun kind device surface focused => ?_, fun device button pressed => ?_, fun device => ?_⟩
  · rw [empty] at focused
    cases kind <;> cases focused
  · rw [empty] at pressed
    cases pressed
  · rw [empty]
    exact List.nodup_nil

-- The tracker is backed, and every release so far was genuine.
structure Grounded (p : Protocol) (s : Session) : Prop where
  backed : Backed p s
  lawful : Lawful (GenuineRelease p) [] s.trace

section Transitions

variable {env : Env} (detailed : Detailed env.protocol) {st next : State} {event : Event}

theorem lawful_onward {p : Protocol} {past added : List Traffic} (lawful : Lawful (GenuineRelease p) [] past)
    (genuine : ∀ entry ∈ added, ∀ past, GenuineRelease p past entry) : Lawful (GenuineRelease p) [] (past ++ added) :=
  (lawful_append _ _ _ _).mpr ⟨lawful, lawful_of_each _ _ _ fun before entry after split => genuine entry (by rw [split]; simp) _⟩

theorem resumed_grounded {p : Protocol} (detailed : Detailed p) (order : HashOrder) (t : Session) (backed : Backed p t)
    (lawful : Lawful (GenuineRelease p) [] t.trace) : Grounded p (resume p order t).session := by
  obtain ⟨added, grown, genuine, -⟩ := synthesize_frees order detailed backed
  refine ⟨backed_new rfl, ?_⟩
  rw [show (resume p order t).session.trace = (synthesizeGrabReleases p order t).trace ++ [.resumed] from rfl, grown]
  exact lawful_onward ((lawful_append _ _ _ _).mpr ⟨lawful, genuine⟩) fun entry member past => by
    rw [List.mem_singleton.mp member]
    trivial

include detailed

-- What a recovery that settles deletes is no part of a grab.
theorem settled_backed (order : HashOrder) (s : Session) (r : Replay)
    (drains : ∀ c ∈ s.pendingFrames.awaitingDone.keys, (s.objects.interface c).isSome = true → (client env.protocol s.trace).Holds c wlCallback)
    (backed : Backed env.protocol s) (unused : IdsUnused env.protocol (settleRecovery env.protocol order r.globals s).trace) :
    Backed env.protocol (settleRecovery env.protocol order r.globals s) ∧ ∃ added,
      (settleRecovery env.protocol order r.globals s).trace = s.trace ++ added ∧ ∀ entry ∈ added, ∀ past, GenuineRelease env.protocol past entry := by
  have covered := detailed.toCovered
  obtain ⟨added, told, grown⟩ := (settle_recovery_told (p := env.protocol) order r.globals s).trace
  rw [grown] at unused
  refine ⟨backed.onward added grown (settle_recovery_grabs _ _ _ _) (fun entry among => ?_) unused (fun entry among g member gone => ?_)
    (fun device _ => none_destroyed (fun entry among c => ?_) _ device) (fun kind device steady seated => ⟨?_, ?_⟩), added, grown,
    fun entry among past => ?_⟩
  · exact told_gesture_none covered entry (told entry among) fun _ _ _ _ answer => settle_answer_event answer
  · obtain ⟨interface, guestId, payload, answer, word⟩ := (told entry among).deletes covered gone
    have callback : (client env.protocol s.trace).Holds g wlCallback := by
      generalize named : "delete_id" = event at answer
      cases answer with
      | release | done => exact absurd named (by decide)
      | deleted callback display awaited known shown =>
          rw [← word, show wordAt (putU32 [] callback) 0 = callback from word_at_to_ne_bytes callback []]
          exact drains callback awaited known
    rcases List.mem_append.mp member with grabbed | entered
    · obtain ⟨kind, alive⟩ := grabbed_held backed grabbed
      exact kind_not_callback kind (holds_interface alive.holds callback)
    · exact absurd (holds_interface (entered_held backed entered) callback) (by decide)
  · have fine := told entry among
    cases entry with
    | sent => rfl
    | _ => cases fine
  · rw [grown]
    exact steady_holds added steady seated.held
  · rw [settle_recovery_objects]
    exact seated.listed
  · refine genuine_told covered past (told entry among) fun interface event guestId payload answer => ?_
    cases answer with
    | release | done | deleted => decide

theorem transition_grounded (transition : Transition env st event next) (tidy : Tidy env st) (tidy' : Tidy env next)
    (drains : Drained env.protocol st event) (kept : GrabsKept env st event) (unused : IdsUnused env.protocol next.session.trace)
    (grounded : Grounded env.protocol st.session) : Grounded env.protocol next.session := by
  have covered := detailed.toCovered
  have course := transition_course detailed transition tidy
  have seats := fun added grown kind device => seated_along detailed course tidy tidy' added grown kind device
  obtain ⟨backed, lawful⟩ := grounded
  cases id course with
  | request s handled ambient msg consumed taken long turn =>
      obtain ⟨devices, surfaces⟩ := kept (msg, consumed) taken
      have seated : ∀ added, handled.trace = s.trace ++ added → ∀ kind device, Steady env.protocol device s.trace added →
          Seated env.protocol s kind device → Seated env.protocol handled kind device := fun added grown kind device steady sits =>
        have along := seats added grown kind device steady sits
        ⟨along.held, along.listed⟩
      obtain ⟨backed', added, whole, genuine⟩ := request_turn_backed detailed s handled ambient msg turn devices surfaces unused
        tidy.tended.agrees seated backed
      refine ⟨backed'.onward [] (by simp) rfl (by simp) (by simpa using unused) (by simp) (fun _ _ => trivial) fun kind device _ sits =>
        ⟨sits.held, sits.listed⟩, ?_⟩
      rw [drain_buf_trace, whole]
      exact lawful_onward lawful genuine
  | event s handled ambient msg consumed taken long turn =>
      obtain ⟨spared, fits⟩ := kept (msg, consumed) taken
      have seated : ∀ added, handled.trace = s.trace ++ added → ∀ kind device, Steady env.protocol device s.trace added →
          Seated env.protocol s kind device → Seated env.protocol handled kind device := fun added grown kind device steady sits =>
        have along := seats added grown kind device steady sits
        ⟨along.held, along.listed⟩
      have backed' := event_turn_backed detailed s handled ambient msg turn spared fits unused tidy.tended.agrees seated backed
      refine ⟨backed'.onward [] (by simp) rfl (by simp) (by simpa using unused) (by simp) (fun _ _ => trivial) fun kind device _ sits =>
        ⟨sits.held, sits.listed⟩, ?_⟩
      obtain ⟨added, whole, genuine⟩ := event_turn_genuine s handled ambient msg turn
      rw [drain_buf_trace, whole]
      exact lawful_onward lawful genuine
  | discarded s h r ambient msg consumed taken _ stays =>
      obtain ⟨added, quiet, grown⟩ := stays.adds
      have whole : next.session.trace = s.trace ++ .skimmed .gtk msg :: added := by rw [grown]; simp [skimmed, Session.log]
      have spares := kept (msg, consumed) taken
      rw [whole] at unused
      refine ⟨backed.onward _ whole stays.grabs (fun entry among => ?_) unused (fun entry among g _ => ?_)
        (fun device member => ⟨spares device member, none_destroyed (fun entry among => quiet_destroys (quiet entry among)) _ device⟩)
        (seats _ whole), ?_⟩
      · rcases List.mem_cons.mp among with rfl | later
        · rfl
        · exact quiet_gesture covered entry (quiet entry later)
      · rcases List.mem_cons.mp among with rfl | later
        · simp [Traffic.deletes]
        · exact (quiet_idle covered g entry (quiet entry later)).1
      · rw [whole]
        refine lawful_onward lawful fun entry among past => ?_
        rcases List.mem_cons.mp among with rfl | later
        · trivial
        · exact genuine_quiet covered past (quiet entry later)
  | settled s r ambient done =>
      obtain ⟨released, -, trace⟩ := (synthesize_grab_releases_told (p := env.protocol) ambient.order
        (settleRecovery env.protocol ambient.order r.globals s)).trace
      have earlier : IdsUnused env.protocol (settleRecovery env.protocol ambient.order r.globals s).trace := by
        refine unused.earlier ⟨released ++ [.resumed], ?_⟩
        rw [← List.append_assoc, ← trace]
        rfl
      obtain ⟨backed', added, grown, genuine⟩ := settled_backed detailed ambient.order s r (drains done) backed earlier
      refine resumed_grounded detailed ambient.order _ backed' ?_
      rw [grown]
      exact lawful_onward lawful genuine
  | unregistered s begun ambient outcomes absent stays table =>
      obtain ⟨added, quiet, grown⟩ := stays.adds
      obtain ⟨released, -, trace⟩ := (synthesize_grab_releases_told (p := env.protocol) ambient.order begun).trace
      have earlier : IdsUnused env.protocol begun.trace := by
        refine unused.earlier ⟨released ++ [.resumed], ?_⟩
        rw [← List.append_assoc, ← trace]
        rfl
      rw [grown] at earlier
      refine resumed_grounded detailed ambient.order begun ?_ ?_
      · refine backed.onward added grown stays.grabs (fun entry among => quiet_gesture covered entry (quiet entry among)) earlier
          (fun entry among g _ => (quiet_idle covered g entry (quiet entry among)).1)
          (fun device _ => none_destroyed (fun entry among => quiet_destroys (quiet entry among)) _ device) fun kind device steady sits => ⟨?_, ?_⟩
        · rw [grown]
          exact steady_holds added steady sits.held
        · have other : device ≠ 1 := by
            rintro rfl
            have display := client_display s.trace ((ids_unused_append _ _).mp earlier).1
            have same : kind.interface = wlDisplay := holds_interface sits.held display
            cases kind <;> exact absurd same (by decide)
          rw [table]
          show (ShadowTable.map _ 1 1 wlDisplay).interface device = some kind.interface
          rw [ShadowTable.interface_map, if_neg other]
          exact sits.listed
      · rw [grown]
        exact lawful_onward lawful fun entry among past => genuine_quiet covered past (quiet entry among)
  | still _ _ _ stays =>
      obtain ⟨added, quiet, grown⟩ := stays.adds
      rw [grown] at unused
      refine ⟨backed.onward added grown stays.grabs (fun entry among => quiet_gesture covered entry (quiet entry among)) unused
        (fun entry among g _ => (quiet_idle covered g entry (quiet entry among)).1)
        (fun device _ => none_destroyed (fun entry among => quiet_destroys (quiet entry among)) _ device) (seats _ grown), ?_⟩
      rw [grown]
      exact lawful_onward lawful fun entry among past => genuine_quiet covered past (quiet entry among)

end Transitions

instance (c : Client) (g : UInt32) (i : Interface) : Decidable (c.Alive g i) :=
  inferInstanceAs (Decidable (∃ o ∈ c.objects g, o.interface = i ∧ o.destroyed = false ∧ o.deleted = false))

instance (p : Protocol) (history : List Traffic) (device surface : UInt32) : Decidable (OnSurface p history device surface) :=
  inferInstanceAs (Decidable (∃ o ∈ (client p history).objects surface, o.interface = wlSurface ∧ o.deleted = false ∧
    (hands p history).focus device = some (surface, some o.born)))

instance (p : Protocol) (past : List Traffic) (device : UInt32) (payload : Bytes) : DecidablePred (LetsGo p past device payload)
  | .enter _ => inferInstanceAs (Decidable False)
  | .leave => inferInstanceAs (Decidable (OnSurface p past device (wordAt payload 4)))
  | .button button state => inferInstanceAs (Decidable (state ≠ buttonStatePressed ∧ (hands p past).pressed device button = true))

instance (p : Protocol) (past : List Traffic) : DecidablePred (GenuineRelease p past)
  | .sent m => inferInstanceAs (Decidable (m.peer = .gtk → m.origin = .own → ∀ call ∈ decode p .hostToClient m.interface m.msg,
      call.desc.name ∈ ["leave", "button"] → (client p past).Alive (senderOf m.msg) m.interface ∧
        ∃ gesture ∈ gestureOf m.interface call.desc.name (m.msg.drop headerLen),
          LetsGo p past (senderOf m.msg) (m.msg.drop headerLen) gesture))
  | .took _ _ => .isTrue trivial
  | .skimmed _ _ => .isTrue trivial
  | .waited _ _ => .isTrue trivial
  | .served _ _ _ => .isTrue trivial
  | .lost => .isTrue trivial
  | .reconnected => .isTrue trivial
  | .resumed => .isTrue trivial

instance (p : Protocol) (s : Session) (msg : Bytes) : Decidable (GestureFits p s msg) :=
  inferInstanceAs (Decidable (∀ device ∈ s.objects.guestId (senderOf msg), ∀ interface ∈ s.objects.interface device,
    ∀ call ∈ decode p .hostToClient interface msg, ∀ gesture ∈ gestureOf interface call.desc.name (msg.drop headerLen), gesture.eases = false →
      (client p s.trace).Alive device interface ∧
        ∀ raw ∈ gesture.surface, ∃ surface ∈ s.objects.guestId raw, (client p s.trace).Holds surface wlSurface))

def grabsKept (st : State) (event : Event) : Bool :=
  match event, st.control with
  | .turn _, .relaying .clientToHost => decide (∀ taken ∈ takeMessage st.session.gtk.readBuf,
      (∀ device ∈ st.session.grabs.grabbed,
        Traffic.destroys coreProtocol (client coreProtocol st.session.trace) (.took .gtk taken.1) ≠ some device) ∧
      ∀ surface ∈ st.session.grabs.entered,
        Traffic.destroys coreProtocol (client coreProtocol st.session.trace) (.took .gtk taken.1) = some surface →
          Traffic.introduces coreProtocol (client coreProtocol st.session.trace) (.took .gtk taken.1) = none ∧
            (st.session.objects.hostId surface).isSome = true)
  | .turn _, .awaitingAck _ _ => decide (∀ taken ∈ takeMessage st.session.gtk.readBuf, ∀ device ∈ st.session.grabs.grabbed,
      Traffic.destroys coreProtocol (client coreProtocol st.session.trace) (.skimmed .gtk taken.1) ≠ some device)
  | .turn _, .relaying .hostToClient => decide (∀ taken ∈ takeMessage st.session.host.readBuf,
      (∀ g ∈ st.session.grabs.grabbed ++ st.session.grabs.entered, ¬ HostDeletes coreProtocol st.session.objects taken.1 g) ∧
      GestureFits coreProtocol st.session taken.1)
  | _, _ => true

theorem grabs_kept_sound (st : State) (event : Event) (checked : (drained st event && grabsKept st event) = true) :
    Drained coreProtocol st event ∧ GrabsKept coreEnv st event := by
  obtain ⟨drains, keeps⟩ := Bool.and_eq_true_iff.mp checked
  refine ⟨drained_sound st event drains, ?_⟩
  unfold grabsKept at keeps
  unfold GrabsKept
  split at keeps
  · exact of_decide_eq_true keeps
  · exact of_decide_eq_true keeps
  · exact of_decide_eq_true keeps
  · trivial

-- A pointer (6) enters a surface (7), and a button goes down.
def surfaceEntered : List Event :=
  [.gtkReadable (.data pointerBound [])] ++ turns 7 ++
    [.hostReadable (.data (enterSurface 6 7 ++ buildMessage 6 3 (putU32 (putU32 (putU32 (putU32 [] 6) 0) 272) 1)) [])] ++ turns 3

end WlResprox
