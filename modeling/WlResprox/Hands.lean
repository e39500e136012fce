import WlResprox.Listings

set_option autoImplicit false

namespace WlResprox

-- What an event says of the grab of a pointer or a keyboard.
inductive Gesture where
  | enter (surface : UInt32)
  | leave
  | button (button state : UInt32)
deriving DecidableEq

namespace Gesture

def focus {α : Type} (named : UInt32 → α) (was : Option α) : Gesture → Option α
  | .enter surface => some (named surface)
  | .leave => none
  | .button _ _ => was

def presses (button : UInt32) (was : Bool) : Gesture → Bool
  | .button other state => if button = other then state = buttonStatePressed else was
  | _ => was

-- The gestures that only let go.
def eases : Gesture → Bool
  | .enter _ => false
  | .leave => true
  | .button _ state => state ≠ buttonStatePressed

end Gesture

def gestureOf (interface : Interface) (event : String) (payload : Bytes) : Option Gesture :=
  if interface.name = "wl_pointer" ∨ interface.name = "wl_keyboard" then
    if event = "enter" then some (.enter (wordAt payload 4))
    else if event = "leave" then some .leave
    else if interface.name = "wl_pointer" ∧ event = "button" then some (.button (wordAt payload 8) (wordAt payload 12))
    else none
  else none

-- A gesture that is written to the client, with its device.
def Traffic.gesture (p : Protocol) : Traffic → Option (UInt32 × Gesture)
  | .sent m =>
      if m.peer = .gtk then
        (decode p .hostToClient m.interface m.msg).bind fun call =>
          (gestureOf m.interface call.desc.name (m.msg.drop headerLen)).map fun gesture => (senderOf m.msg, gesture)
      else none
  | _ => none

-- An id with the birth of the object it names.
def Client.named (c : Client) (id : UInt32) : UInt32 × Option Nat := (id, (c.objects id).map ClientObject.born)

-- What the client's devices hold by the events that were written to it: the
-- surface of the last enter with no leave since, with its birth, and the buttons
-- whose last event was a press. A device that is gone holds nothing.
structure Hands where
  client : Client
  focus : UInt32 → Option (UInt32 × Option Nat)
  pressed : UInt32 → UInt32 → Bool

namespace Hands

def start : Hands := ⟨Client.start, fun _ => none, fun _ _ => false⟩

def renew (h : Hands) (gone : List UInt32) : Hands :=
  { h with
    focus := fun device => if device ∈ gone then none else h.focus device
    pressed := fun device button => if device ∈ gone then false else h.pressed device button }

def feel (h : Hands) : Option (UInt32 × Gesture) → Hands
  | none => h
  | some (device, gesture) =>
      { h with
        focus := Function.update h.focus device (gesture.focus h.client.named (h.focus device))
        pressed := Function.update h.pressed device fun button => gesture.presses button (h.pressed device button) }

def note (p : Protocol) (h : Hands) (entry : Traffic) : Hands :=
  { (h.renew (entry.turnover p h.client)).feel (entry.gesture p) with client := h.client.note p entry }

end Hands

def hands (p : Protocol) (history : List Traffic) : Hands := history.foldl (Hands.note p) Hands.start

section Folding

variable {p : Protocol}

theorem hands_snoc (history : List Traffic) (entry : Traffic) : hands p (history ++ [entry]) = (hands p history).note p entry := by
  simp [hands]

theorem hands_client (history : List Traffic) : (hands p history).client = client p history := by
  induction history using List.reverseRecOn with
  | nil => rfl
  | append_singleton history entry ih => rw [hands_snoc, client_snoc, Hands.note, ih]

-- What a device holds after an entry it held before, or the entry gave it.
theorem note_focus (past : List Traffic) (entry : Traffic) (device : UInt32) :
    (hands p (past ++ [entry])).focus device =
      let kept := if device ∈ entry.turnover p (client p past) then none else (hands p past).focus device
      match entry.gesture p with
      | none => kept
      | some (other, gesture) => if device = other then gesture.focus (client p past).named kept else kept := by
  rw [hands_snoc]
  simp only [Hands.note, Hands.feel, Hands.renew, hands_client]
  split
  · rfl
  · rename_i other gesture _
    simp only [Function.update_apply]
    by_cases same : device = other
    · rw [if_pos same, if_pos same, same]
    · rw [if_neg same, if_neg same]

theorem note_pressed (past : List Traffic) (entry : Traffic) (device button : UInt32) :
    (hands p (past ++ [entry])).pressed device button =
      let kept := if device ∈ entry.turnover p (client p past) then false else (hands p past).pressed device button
      match entry.gesture p with
      | none => kept
      | some (other, gesture) => if device = other then gesture.presses button kept else kept := by
  rw [hands_snoc]
  simp only [Hands.note, Hands.feel, Hands.renew, hands_client]
  split
  · rfl
  · rename_i other gesture _
    simp only [Function.update_apply]
    by_cases same : device = other
    · rw [if_pos same, if_pos same, same]
    · rw [if_neg same, if_neg same]

-- Entries that put nothing into the client's hands.
def Traffic.Easy (p : Protocol) (entry : Traffic) : Prop := ∀ device gesture, entry.gesture p = some (device, gesture) → gesture.eases = true

-- What a device holds after an easy stretch it held all along.
theorem hands_focus_back {past added : List Traffic} (easy : ∀ entry ∈ added, entry.Easy p) {device : UInt32}
    {held : UInt32 × Option Nat} (after : (hands p (past ++ added)).focus device = some held) :
    (hands p past).focus device = some held ∧ Steady p device past added ∧
      ∀ entry ∈ added, entry.gesture p ≠ some (device, .leave) := by
  induction added using List.reverseRecOn with
  | nil =>
      rw [List.append_nil] at after
      exact ⟨after, trivial, nofun⟩
  | append_singleton added entry ih =>
      rw [← List.append_assoc, note_focus] at after
      have apart : device ∉ entry.turnover p (client p (past ++ added)) ∧ entry.gesture p ≠ some (device, .leave) ∧
          (hands p (past ++ added)).focus device = some held := by
        have eases := easy entry (by simp)
        dsimp only at after
        by_cases gone : device ∈ entry.turnover p (client p (past ++ added))
        · rw [if_pos gone] at after
          split at after
          · cases after
          · rename_i other gesture found
            have eased := eases other gesture found
            split at after
            · cases gesture <;> simp [Gesture.focus, Gesture.eases] at after eased
            · cases after
        · rw [if_neg gone] at after
          split at after
          · rename_i found
            exact ⟨gone, by rw [found]; nofun, after⟩
          · rename_i other gesture found
            have eased := eases other gesture found
            rw [found]
            split at after
            · cases gesture <;> simp [Gesture.focus, Gesture.eases] at after eased ⊢
              exact ⟨gone, after⟩
            · rename_i away
              exact ⟨gone, fun same => away (by cases same; rfl), after⟩
      obtain ⟨before, steady, none⟩ := ih (fun e member => easy e (List.mem_append_left _ member)) apart.2.2
      refine ⟨before, (lawful_append _ _ _ _).mpr ⟨steady, apart.1, trivial⟩, fun e member => ?_⟩
      rcases List.mem_append.mp member with early | last
      · exact none e early
      · rw [List.mem_singleton.mp last]
        exact apart.2.1

theorem hands_pressed_back {past added : List Traffic} (easy : ∀ entry ∈ added, entry.Easy p) {device button : UInt32}
    (after : (hands p (past ++ added)).pressed device button = true) :
    (hands p past).pressed device button = true ∧ Steady p device past added ∧
      ∀ entry ∈ added, ∀ state, entry.gesture p ≠ some (device, .button button state) := by
  induction added using List.reverseRecOn with
  | nil =>
      rw [List.append_nil] at after
      exact ⟨after, trivial, nofun⟩
  | append_singleton added entry ih =>
      rw [← List.append_assoc, note_pressed] at after
      have apart : device ∉ entry.turnover p (client p (past ++ added)) ∧
          (∀ state, entry.gesture p ≠ some (device, .button button state)) ∧ (hands p (past ++ added)).pressed device button = true := by
        have eases := easy entry (by simp)
        dsimp only at after
        have kept : ∀ gesture, Gesture.eases gesture = true → ∀ was, gesture.presses button was = true →
            was = true ∧ ∀ state, gesture ≠ .button button state := by
          intro gesture eased was still
          cases gesture with
          | enter surface => cases eased
          | leave => exact ⟨still, nofun⟩
          | button other state =>
              simp only [Gesture.eases, decide_eq_true_eq] at eased
              simp only [Gesture.presses] at still
              split at still
              · exact absurd (of_decide_eq_true still) eased
              · rename_i away
                exact ⟨still, fun state same => away (by cases same; rfl)⟩
        by_cases gone : device ∈ entry.turnover p (client p (past ++ added))
        · rw [if_pos gone] at after
          split at after
          · cases after
          · rename_i other gesture found
            split at after
            · cases (kept gesture (eases other gesture found) false after).1
            · cases after
        · rw [if_neg gone] at after
          split at after
          · rename_i found
            exact ⟨gone, fun state => by rw [found]; nofun, after⟩
          · rename_i other gesture found
            rw [found]
            split at after
            · obtain ⟨was, none⟩ := kept gesture (eases other gesture found) _ after
              exact ⟨gone, fun state same => none state (by cases same; rfl), was⟩
            · rename_i away
              exact ⟨gone, fun state same => away (by cases same; rfl), after⟩
      obtain ⟨before, steady, none⟩ := ih (fun e member => easy e (List.mem_append_left _ member)) apart.2.2
      refine ⟨before, (lawful_append _ _ _ _).mpr ⟨steady, apart.1, trivial⟩, fun e member => ?_⟩
      rcases List.mem_append.mp member with early | last
      · exact none e early
      · rw [List.mem_singleton.mp last]
        exact apart.2.1

-- What a device holds it goes on holding while nothing is said of it.
theorem hands_steady {past : List Traffic} (added : List Traffic) {device : UInt32} (steady : Steady p device past added)
    (none : ∀ entry ∈ added, ∀ gesture, entry.gesture p ≠ some (device, gesture)) :
    (hands p (past ++ added)).focus device = (hands p past).focus device ∧
      ∀ button, (hands p (past ++ added)).pressed device button = (hands p past).pressed device button := by
  induction added using List.reverseRecOn with
  | nil => simp
  | append_singleton added entry ih =>
      obtain ⟨before, apart, -⟩ := (lawful_append _ _ _ _).mp steady
      obtain ⟨focus, pressed⟩ := ih before fun e member => none e (List.mem_append_left _ member)
      have unfelt := none entry (by simp)
      rw [← List.append_assoc]
      constructor
      · rw [note_focus, if_neg apart, focus]
        split
        · rfl
        · rename_i other gesture found
          exact if_neg fun same => unfelt gesture (by rw [found, same])
      · intro button
        rw [note_pressed, if_neg apart, pressed]
        split
        · rfl
        · rename_i other gesture found
          exact if_neg fun same => unfelt gesture (by rw [found, same])

end Folding

namespace GrabTracker

def focus (t : GrabTracker) : SeatDeviceKind → UInt32 → Option UInt32
  | .pointer, device => (t.pointer device).enteredSurface
  | .keyboard, device => (t.keyboards.lookup device).bind KeyboardState.enteredSurface
  | .touch, _ => none

def pressed (t : GrabTracker) (device button : UInt32) : Bool := button ∈ (t.pointer device).pressedButtons

variable (t : GrabTracker) (query device : UInt32) (state : PointerState)

theorem pointer_insert : GrabTracker.pointer { t with pointers := t.pointers.insert device state } query =
    if query = device then state else t.pointer query := by
  simp only [pointer, HashMap.lookup_insert]
  split <;> rfl

end GrabTracker

-- The tracker follows what an event says as the client does.
structure Follows (grabs grabs' : GrabTracker) (interface : Interface) (device : UInt32) (gesture : Gesture) : Prop where
  focus : ∀ kind query, grabs'.focus kind query =
    if kind.interface = interface ∧ query = device then gesture.focus id (grabs.focus kind query) else grabs.focus kind query
  pressed : ∀ query button, grabs'.pressed query button =
    if query = device then gesture.presses button (grabs.pressed query button) else grabs.pressed query button

section Observing

variable (grabs : GrabTracker) (m : Inbound) (payload : Bytes)

theorem pointer_follows (device : UInt32) (state : PointerState) (gesture : Gesture)
    (entered : state.enteredSurface = gesture.focus id (grabs.pointer device).enteredSurface)
    (presses : ∀ button, decide (button ∈ state.pressedButtons) = gesture.presses button (grabs.pressed device button)) :
    Follows grabs { grabs with pointers := grabs.pointers.insert device state } ⟨"wl_pointer"⟩ device gesture := by
  refine ⟨fun kind query => ?_, fun query button => ?_⟩
  · cases kind with
    | pointer =>
        simp only [GrabTracker.focus, GrabTracker.pointer_insert, SeatDeviceKind.interface, true_and]
        split
        · rename_i same
          rw [same]
          exact entered
        · rfl
    | keyboard => rfl
    | touch => rfl
  · simp only [GrabTracker.pressed, GrabTracker.pointer_insert]
    split
    · rename_i same
      rw [same]
      exact presses button
    · rfl

theorem keyboard_follows (device : UInt32) (entered : Option UInt32) (gesture : Gesture)
    (enters : entered = gesture.focus id (grabs.focus .keyboard device)) (plain : ∀ button was, gesture.presses button was = was) :
    Follows grabs { grabs with keyboards := grabs.keyboards.insert device ⟨entered⟩ } ⟨"wl_keyboard"⟩ device gesture := by
  refine ⟨fun kind query => ?_, fun query button => ?_⟩
  · cases kind with
    | pointer => rfl
    | keyboard =>
        simp only [GrabTracker.focus, HashMap.lookup_insert, SeatDeviceKind.interface, true_and]
        split
        · rename_i same
          rw [same]
          exact enters
        · rfl
    | touch => rfl
  · rw [plain]
    split <;> rfl

theorem on_pointer_button_follows (device button state : UInt32) :
    Follows grabs (grabs.onPointerButton device button state) ⟨"wl_pointer"⟩ device (.button button state) := by
  refine pointer_follows grabs device _ _ rfl fun query => ?_
  simp only [Gesture.presses, GrabTracker.pressed]
  by_cases same : query = button
  · subst same
    by_cases down : state = buttonStatePressed
    · by_cases held : query ∈ (grabs.pointer device).pressedButtons <;> simp [down, held]
    · simp [down]
  · by_cases down : state = buttonStatePressed
    · by_cases held : button ∈ (grabs.pointer device).pressedButtons <;> simp [down, held, same]
    · simp [down, same]

theorem on_pointer_leave_follows (device : UInt32) : Follows grabs (grabs.onPointerLeave device) ⟨"wl_pointer"⟩ device .leave := by
  unfold GrabTracker.onPointerLeave
  split
  · rename_i absent
    refine ⟨fun kind query => ?_, fun query button => ?_⟩
    · split
      · rename_i same
        obtain ⟨kind_is, rfl⟩ := same
        cases kind with
        | pointer => simp [GrabTracker.focus, GrabTracker.pointer, absent, Gesture.focus]
        | keyboard | touch => exact absurd kind_is (by decide)
      · rfl
    · simp [Gesture.presses]
  · rename_i state found
    refine pointer_follows grabs device _ _ rfl fun button => ?_
    simp [Gesture.presses, GrabTracker.pressed, GrabTracker.pointer, found]

theorem on_keyboard_leave_follows (device : UInt32) : Follows grabs (grabs.onKeyboardLeave device) ⟨"wl_keyboard"⟩ device .leave := by
  unfold GrabTracker.onKeyboardLeave
  split
  · rename_i absent
    refine ⟨fun kind query => ?_, fun query button => ?_⟩
    · split
      · rename_i same
        obtain ⟨kind_is, rfl⟩ := same
        cases kind with
        | keyboard => simp [GrabTracker.focus, absent, Gesture.focus]
        | pointer | touch => exact absurd kind_is (by decide)
      · rfl
    · simp [Gesture.presses]
  · exact keyboard_follows grabs device none .leave rfl fun _ _ => rfl

-- The payload of a grab's event is as long as its fields ask for.
def Sized (interface : Interface) (event : String) (payload : Bytes) : Prop :=
  (interface.name = "wl_pointer" ∨ interface.name = "wl_keyboard") →
    (event = "enter" → 8 ≤ payload.length) ∧ (interface.name = "wl_pointer" ∧ event = "button" → 16 ≤ payload.length)

variable (event : m.direction = .hostToClient) (sized : Sized m.interface m.desc.name payload)

include event sized

omit sized in
theorem observe_grabs_quiet (quiet : gestureOf m.interface m.desc.name payload = none) : observeGrabs grabs m payload = grabs := by
  unfold gestureOf at quiet
  unfold observeGrabs
  simp only [Inbound.isEvent, event, true_and, decide_eq_true_eq]
  split at quiet
  · split at quiet
    · cases quiet
    · split at quiet
      · cases quiet
      · split at quiet
        · cases quiet
        · rename_i enter leave button
          simp [enter, leave, button]
  · rename_i other
    obtain ⟨noPointer, noKeyboard⟩ := not_or.mp other
    simp [noPointer, noKeyboard]

theorem observe_grabs_follows (gesture : Gesture) (felt : gestureOf m.interface m.desc.name payload = some gesture) :
    Follows grabs (observeGrabs grabs m payload) m.interface m.sender gesture := by
  unfold gestureOf at felt
  unfold observeGrabs
  simp only [Inbound.isEvent, event, true_and, decide_eq_true_eq]
  split at felt
  · rename_i device
    have long := sized device
    have named := interface_named m.interface
    rcases device with isPointer | isKeyboard
    · rw [named _ isPointer]
      split at felt
      · rename_i enter
        cases felt
        rw [if_pos ⟨⟨rfl, enter⟩, long.1 enter⟩]
        exact pointer_follows grabs m.sender _ _ rfl fun button => by simp [Gesture.presses, GrabTracker.pressed]
      · rename_i enter
        split at felt
        · rename_i leave
          cases felt
          rw [if_neg (by simp [enter]), if_pos ⟨rfl, leave⟩]
          exact on_pointer_leave_follows grabs m.sender
        · rename_i leave
          split at felt
          · rename_i button
            cases felt
            rw [if_neg (by simp [enter]), if_neg (by simp [leave]), if_pos ⟨⟨rfl, button.2⟩, long.2 button⟩]
            exact on_pointer_button_follows grabs m.sender _ _
          · cases felt
    · rw [named _ isKeyboard] at felt ⊢
      split at felt
      · rename_i enter
        cases felt
        rw [if_neg (by simp), if_neg (by simp), if_neg (by simp), if_pos ⟨⟨rfl, enter⟩, long.1 enter⟩]
        exact keyboard_follows grabs m.sender _ _ rfl fun _ _ => rfl
      · rename_i enter
        split at felt
        · rename_i leave
          cases felt
          rw [if_neg (by simp), if_neg (by simp), if_neg (by simp), if_neg (by simp [enter]), if_pos ⟨rfl, leave⟩]
          exact on_keyboard_leave_follows grabs m.sender
        · simp at felt
  · cases felt

end Observing

section Built

variable {p : Protocol}

theorem sender_of_built (sender : UInt32) (opcode : UInt16) (payload : Bytes) : senderOf (buildMessage sender opcode payload) = sender :=
  word_at_to_ne_bytes sender _

-- An event the tables list is read as it was built.
theorem built_decodes (covered : Covered p) (interface : Interface) (desc : MessageDesc)
    (listed : (p.events interface).find? (fun other => other.name = desc.name) = some desc) (guestId : UInt32) (payload : Bytes)
    (walk : SignatureWalk) (walks : walkSignature payload desc.signature = .ok walk) :
    ∃ opcode, eventOpcode p interface desc.name = some opcode ∧
      decode p .hostToClient interface (buildMessage guestId opcode payload) =
        some (callOf p desc walk (buildMessage guestId opcode payload)) := by
  have known : (eventOpcode p interface desc.name).isSome = true := by
    rw [eventOpcode, opcodeOf, Option.isSome_map, List.findIdx?_isSome, List.any_eq_true]
    exact ⟨desc, List.mem_of_find?_eq_some listed, by simp⟩
  obtain ⟨opcode, found⟩ := Option.isSome_iff_exists.mp known
  obtain ⟨other, at_opcode, member, named⟩ := opcode_listed _ _ _ (covered.events interface) found
  rw [find_entry _ (covered.events interface) desc other listed member named] at at_opcode
  refine ⟨opcode, found, decode_some _ _ _ _ _ _ ?_ ?_⟩
  · rw [opcode_of_built]
    exact at_opcode
  · rw [build_message_payload]
    exact walks

-- The gesture of an event of the proxy's own is the one it was built for.
theorem told_gesture (covered : Covered p) {fine : Interface → String → UInt32 → Bytes → Prop} {entry : Traffic} (told : entry.Told p fine)
    {device : UInt32} {gesture : Gesture} (felt : entry.gesture p = some (device, gesture)) :
    ∃ interface event payload, fine interface event device payload ∧ gestureOf interface event payload = some gesture := by
  cases entry with
  | sent m =>
      obtain ⟨peer, origin, interface, bytes, fds, outcome⟩ := m
      obtain ⟨toClient, own, event, guestId, opcode, payload, listed, built, stands⟩ := told
      dsimp only at toClient own listed built stands
      subst toClient own built
      simp only [Traffic.gesture, if_true, build_message_payload, sender_of_built] at felt
      obtain ⟨call, decoded, felt⟩ := Option.bind_eq_some_iff.mp felt
      obtain ⟨gesture', named, same⟩ := Option.map_eq_some_iff.mp felt
      cases same
      rw [(told_reads covered interface event device opcode payload listed call decoded).1] at named
      exact ⟨interface, event, payload, stands, named⟩
  | _ => cases told

theorem gesture_named {interface : Interface} {event : String} {payload : Bytes} {gesture : Gesture}
    (felt : gestureOf interface event payload = some gesture) : event = "enter" ∨ event = "leave" ∨ event = "button" := by
  unfold gestureOf at felt
  split at felt
  · split at felt
    · rename_i enter
      exact .inl enter
    · split at felt
      · rename_i leave
        exact .inr (.inl leave)
      · split at felt
        · rename_i button
          exact .inr (.inr button.2)
        · cases felt
  · cases felt

theorem gesture_kind {interface : Interface} {event : String} {payload : Bytes} {gesture : Gesture}
    (felt : gestureOf interface event payload = some gesture) :
    ∃ kind : SeatDeviceKind, interface = kind.interface ∧ ((∃ button state, gesture = .button button state) → kind = .pointer) := by
  unfold gestureOf at felt
  split at felt
  · rename_i device
    rcases device with isPointer | isKeyboard
    · exact ⟨.pointer, interface_named _ _ isPointer, fun _ => rfl⟩
    · refine ⟨.keyboard, interface_named _ _ isKeyboard, ?_⟩
      rintro ⟨button, state, rfl⟩
      simp only [isKeyboard, String.reduceEq, false_and, if_false] at felt
      split at felt
      · cases felt
      · split at felt <;> cases felt
  · cases felt

-- A gesture neither brings nor takes an object.
theorem gesture_turnover (covered : Covered p) (past : List Traffic) {entry : Traffic} {both : UInt32 × Gesture}
    (felt : entry.gesture p = some both) : entry.turnover p (client p past) = [] := by
  cases entry with
  | sent m =>
      simp only [Traffic.gesture] at felt
      split at felt
      · rename_i toClient
        obtain ⟨call, decoded, felt⟩ := Option.bind_eq_some_iff.mp felt
        obtain ⟨gesture, named, -⟩ := Option.map_eq_some_iff.mp felt
        obtain ⟨kind, is, -⟩ := gesture_kind named
        obtain ⟨walk, listed, -⟩ := decode_inv _ _ _ _ _ decoded
        have input : m.interface.name ∈ ["wl_pointer", "wl_keyboard", "wl_touch"] := by
          rw [is]
          cases kind <;> decide
        have quiet : call.newId = none :=
          decode_quiet _ _ _ _ _ decoded (covered.quietInput m.interface input call.desc (List.mem_of_getElem? listed))
        have other : m.interface.name ≠ "wl_display" := fun display => by
          rw [display] at input
          exact absurd input (by decide)
        simp [Traffic.turnover, Traffic.introduces, Traffic.destroys, Traffic.deletes, toClient, Sent.newId, Sent.frees, Peer.toward,
          decoded, quiet, Ledger.frees, other]
      · cases felt
  | _ => cases felt

theorem easy_of_none {entry : Traffic} (none : entry.gesture p = .none) : entry.Easy p := by
  intro device gesture felt
  rw [none] at felt
  cases felt

theorem told_gesture_none (covered : Covered p) {fine : Interface → String → UInt32 → Bytes → Prop} (entry : Traffic)
    (told : entry.Told p fine)
    (other : ∀ interface event guestId payload, fine interface event guestId payload → event ∈ ["release", "done", "delete_id"]) :
    entry.gesture p = none := by
  cases felt : entry.gesture p with
  | none => rfl
  | some both =>
      obtain ⟨interface, event, payload, stands, named⟩ := told_gesture covered told felt
      have among := other interface event both.1 payload stands
      rcases gesture_named named with rfl | rfl | rfl <;> exact absurd among (by decide)

theorem to_host_gesture (entry : Traffic) (writes : Writes .host (fun _ => True) entry) : entry.gesture p = none := by
  cases entry with
  | sent m => simp [Traffic.gesture, writes.1]
  | _ => cases writes

theorem quiet_gesture (covered : Covered p) (entry : Traffic) (quiet : entry.Quiet p) : entry.gesture p = none := by
  cases entry with
  | sent m =>
      obtain ⟨peer, origin, interface, bytes, fds, outcome⟩ := m
      cases peer with
      | host => simp [Traffic.gesture]
      | gtk =>
          obtain ⟨guestId, opcode, payload, listed, built⟩ := quiet rfl
          dsimp only at listed built
          subst built
          simp only [Traffic.gesture, if_true, Option.bind_eq_none_iff]
          intro call decoded
          rw [(told_reads covered interface "configure" guestId opcode payload listed call decoded).1]
          cases felt : gestureOf interface "configure" ((buildMessage guestId opcode payload).drop headerLen) with
          | none => rfl
          | some gesture => exact absurd (gesture_named felt) (by decide)
  | _ => rfl

-- What lets go of a grab is easy.
theorem release_easy (covered : Covered p) {objects : ShadowTable} {grabs : GrabTracker} (entry : Traffic)
    (told : entry.Told p (GrabRelease objects grabs)) : entry.Easy p := by
  intro device gesture felt
  obtain ⟨interface, event, payload, release, named⟩ := told_gesture covered told felt
  unfold gestureOf at named
  cases release with
  | pointerLeave =>
      simp at named
      rw [← named.2]
      rfl
  | button =>
      simp at named
      rw [← named.2.2]
      rfl
  | keyboardLeave =>
      simp at named
      rw [← named.2]
      rfl

end Built

-- An event that fits its signature has all the fields the tracker looks at.
theorem walked_sized {p : Protocol} (detailed : Detailed p) (interface : Interface) (desc : MessageDesc)
    (member : desc ∈ p.events interface) (payload : Bytes) (walk : SignatureWalk)
    (walks : walkSignature payload desc.signature = .ok walk) : Sized interface desc.name payload := by
  have entry : ∀ name known, interface = ⟨name⟩ → (p.events ⟨name⟩).find? (fun desc => desc.name = known.name) = some known →
      desc.name = known.name → desc = known := by
    intro name known is listed named
    subst is
    exact find_entry _ (detailed.events _) known desc listed member named
  rintro (isPointer | isKeyboard)
  · have is := interface_named _ _ isPointer
    refine ⟨fun enter => ?_, fun button => ?_⟩
    · rw [entry _ ⟨"enter", _, _, _⟩ is detailed.pointerEnter enter] at walks
      exact walk_leading_words payload walk [.uint, .object] [.fixed, .fixed] (by simp) walks
    · rw [entry _ ⟨"button", _, _, _⟩ is detailed.pointerButton button.2] at walks
      exact walk_leading_words payload walk [.uint, .uint, .uint, .uint] [] (by simp) walks
  · have is := interface_named _ _ isKeyboard
    refine ⟨fun enter => ?_, fun button => ?_⟩
    · rw [entry _ ⟨"enter", _, _, _⟩ is detailed.keyboardEnter enter] at walks
      exact walk_leading_words payload walk [.uint, .object] [.array] (by simp) walks
    · rw [button.1] at isKeyboard
      exact absurd isKeyboard (by decide)

end WlResprox
