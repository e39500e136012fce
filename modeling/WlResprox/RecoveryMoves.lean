import WlResprox.RelayMoves

set_option autoImplicit false

namespace WlResprox

-- While recovery replays, what is current is what it brought back.
structure Fresh (t : ShadowTable) : Prop where
  null : t.interface 0 = none
  recovered : ∀ g, t.isCurrentGeneration g = true → ∃ i, t.interface g = some i ∧ i.name ∈ recoveredInterfaces

theorem Fresh.listed {t : ShadowTable} (fresh : Fresh t) (g h : UInt32) (i : Interface) (known : t.interface g = some i)
    (translated : t.hostId g = some h) : i.name ∈ recoveredInterfaces := by
  have named : g ≠ 0 := by
    intro null
    rw [null, fresh.null] at known
    cases known
  obtain ⟨j, same, listed⟩ := fresh.recovered g ((t.host_id_iff g h named).mp translated).1
  rw [known] at same
  cases same
  exact listed

theorem fresh_allocated (t : ShadowTable) (fresh : Fresh t) : Fresh t.allocateHostId.2 := ⟨fresh.null, fresh.recovered⟩

theorem fresh_map (t : ShadowTable) (fresh : Fresh t) (g h : UInt32) (i : Interface) (nonzero : g ≠ 0)
    (listed : i.name ∈ recoveredInterfaces) : Fresh (t.map g h i) where
  null := by
    rw [t.interface_map, if_neg (Ne.symm nonzero)]
    exact fresh.null
  recovered a current := by
    by_cases same : a = g
    · exact ⟨i, by rw [t.interface_map, if_pos same], listed⟩
    · rw [t.current_map, decide_eq_false same, Bool.false_or] at current
      obtain ⟨j, known, recovered⟩ := fresh.recovered a current
      exact ⟨j, by rw [t.interface_map, if_neg same]; exact known, recovered⟩

-- Only the display survives into a new generation.
theorem fresh_bump (t : ShadowTable) (null : t.interface 0 = none) : Fresh t.bumpGeneration where
  null := by
    show (t.interfaces.insert 1 wlDisplay).lookup 0 = none
    rw [HashMap.lookup_insert, if_neg (by decide)]
    exact null
  recovered a current := by
    rw [t.current_bump, decide_eq_true_eq] at current
    refine ⟨wlDisplay, ?_, by decide⟩
    show (t.interfaces.insert 1 wlDisplay).lookup a = _
    rw [HashMap.lookup_insert, if_pos current]

theorem move_fresh {p : Protocol} {named : Prop} {v v' : View} (move : Move p named .recovering v v') (fresh : Fresh v.objects) :
    Fresh v'.objects := by
  cases move with
  | noted | told | asked | attempted | passed => exact fresh
  | shrunk _ settled => exact absurd rfl settled
  | phantom _ gone => cases gone
  | created => exact fresh_allocated _ fresh
  | born m child guestId alive toHost makes nonzero owner listed addressed =>
      exact fresh_map _ (fresh_allocated _ fresh) _ _ _ nonzero (listed rfl)
  | deleted _ _ _ alive => cases alive
  | announced _ _ _ _ alive => cases alive

theorem moves_fresh {p : Protocol} {named : Prop} {v v' : View} (moves : Moves p named .recovering v v') (fresh : Fresh v.objects) :
    Fresh v'.objects := moves.invariant (fun v => Fresh v.objects) (fun _ _ => move_fresh) fresh

-- A request that recovery replays for a guest id.
structure Replayed (p : Protocol) (named : Prop) (s : Session) (guestId : UInt32) (m : Sent) : Prop where
  toHost : m.peer = .host
  origin : m.origin = .replayed guestId
  addressed : named → Addressed p ((ledger p s.trace).heard .gtk) (s.view.names p) m

section Replays

variable {p : Protocol} (named : Prop) (covered : Covered p) (s : Session)

theorem replayed_addressed (heard : Option Bytes) (names : Naming) (guestId : UInt32) (interface : Interface) (hostId : UInt32)
    (opcode : UInt16) (payload : Bytes) (fds : List Fd) (outcome : WriteOutcome)
    (sender : ∃ owner, names owner hostId interface)
    (objects : ∀ call, decode p .clientToHost interface (buildMessage hostId opcode payload) = some call → ∀ object ∈ call.objects,
      object = 0 ∨ ∃ owner interface, names owner object interface) :
    Addressed p heard names ⟨.host, .replayed guestId, interface, buildMessage hostId opcode payload, fds, outcome⟩ where
  sender := by
    obtain ⟨owner, known⟩ := sender
    exact ⟨owner, by rw [senderOf, build_message_sender]; exact known⟩
  objects := objects
  carried relayed := by cases relayed

-- What asking a parent for a child comes to: nothing, or one request that took
-- the next host id.
inductive Asked (p : Protocol) (named : Prop) (s : Session) (guestId : UInt32) (child : Interface) (parentHostId : UInt32)
    (parent : Interface) : Recreation → Prop where
  | skipped : Asked p named s guestId child parentHostId parent (.skipped s)
  | panicked : Asked p named s guestId child parentHostId parent .panicked
  | failed (t : Session) (m : Sent) (replayed : Replayed p named s guestId m) (makes : m.Makes p s.objects.nextHostId child)
      (objects : t.objects = s.objects.allocateHostId.2) (trace : t.trace = s.trace ++ [.sent m]) :
      Asked p named s guestId child parentHostId parent (.skipped t)
  | recreated (t : Session) (m : Sent) (replayed : Replayed p named s guestId m) (makes : m.Makes p s.objects.nextHostId child)
      (objects : t.objects = s.objects.allocateHostId.2) (trace : t.trace = s.trace ++ [.sent m]) :
      Asked p named s guestId child parentHostId parent (.recreated ⟨t, s.objects.nextHostId, child, parentHostId, parent⟩)

include covered

theorem request_child_asked (guestId : UInt32) (parent : Interface) (parentHostId : UInt32) (request : String)
    (signature : List ArgumentType) (child : String) (values : UInt32 → List WaylandValue) (shape : Creates p request signature child)
    (listed : parent.name ∈ recoveredInterfaces)
    (encodes : ∀ hostId, ∃ payload fds, encodeArguments signature (values hostId) = .ok (payload, fds) ∧ payload.length < 2 ^ 32)
    (newId : ∀ hostId, ((values hostId).filterMap newIdValue).getLast? = some hostId)
    (sender : named → ∃ owner, s.view.names p owner parentHostId parent)
    (objects : named → ∀ hostId, ∀ object ∈ (values hostId).filterMap objectValue,
      object = 0 ∨ ∃ owner interface, s.view.names p owner object interface) :
    Asked p named s guestId ⟨child⟩ parentHostId parent (requestChild p s guestId parent parentHostId request values) := by
  simp only [requestChild]
  split
  · exact .skipped
  · rename_i opcode found
    obtain ⟨desc, at_opcode, member, name⟩ := opcode_listed _ _ _ (covered.requests parent) found
    obtain ⟨signed, kind⟩ := shape.2 parent listed desc member name
    rw [at_opcode, Option.bind_some, kind, Option.map_some]
    obtain ⟨payload, fds, encoded, small⟩ := encodes s.objects.nextHostId
    rw [← signed] at encoded
    have allocated : s.objects.allocateHostId.1 = s.objects.nextHostId := rfl
    simp only [allocated, encoded]
    have reads := decode_encoded p parent parentHostId opcode desc _ _ _ at_opcode encoded small
    have replayed : ∀ outcome, Replayed p named s guestId
        ⟨.host, .replayed guestId, parent, buildMessage parentHostId opcode payload, fds, outcome⟩ := fun outcome =>
      ⟨rfl, rfl, fun given => replayed_addressed _ _ _ _ _ _ _ _ _ (sender given) fun call decoded object inside => by
        rw [reads] at decoded
        cases decoded
        exact objects given _ object inside⟩
    have makes : ∀ outcome, Sent.Makes p ⟨.host, .replayed guestId, parent, buildMessage parentHostId opcode payload, fds, outcome⟩
        s.objects.nextHostId ⟨child⟩ := fun outcome =>
      ⟨_, reads, newId _, by simp only [resolveChildInterface, kind, Option.map_some]⟩
    split
    · rename_i t wrote
      obtain rfl : _ = t := congrArg Prod.snd wrote
      exact .failed _ _ (replayed _) (makes _) rfl rfl
    · rename_i t wrote
      obtain rfl : _ = t := congrArg Prod.snd wrote
      exact .recreated _ _ (replayed _) (makes _) rfl rfl

omit covered

variable {named s} {guestId : UInt32} {m : Sent} {t : Session} {child : Interface}

theorem Replayed.owner (replayed : Replayed p named s guestId m) (l : Ledger) : l.owner p m = some guestId := by
  simp only [Ledger.owner, replayed.origin]

theorem Replayed.created_moves (replayed : Replayed p named s guestId m) (makes : m.Makes p s.objects.nextHostId child)
    (objects : t.objects = s.objects.allocateHostId.2) (trace : t.trace = s.trace ++ [.sent m]) :
    Moves p named .recovering s.view t.view := by
  have reached : t.view = View.log ⟨s.view.objects.allocateHostId.2, s.view.trace⟩ (.sent m) := by
    rw [Session.view, objects, trace]
    rfl
  rw [reached]
  exact .single (.created s.view m child (by decide) replayed.toHost makes replayed.addressed)

theorem Replayed.born_moves (replayed : Replayed p named s guestId m) (makes : m.Makes p s.objects.nextHostId child)
    (objects : t.objects = s.objects.allocateHostId.2) (trace : t.trace = s.trace ++ [.sent m]) (nonzero : guestId ≠ 0)
    (listed : child.name ∈ recoveredInterfaces) :
    Moves p named .recovering s.view ⟨t.objects.map guestId s.objects.nextHostId child, t.trace⟩ := by
  rw [objects, trace]
  exact .single (.born s.view m child guestId (by decide) replayed.toHost makes nonzero (replayed.owner _) (fun _ => listed)
    replayed.addressed)

theorem Replayed.known (replayed : Replayed p named s guestId m) (makes : m.Makes p s.objects.nextHostId child)
    (trace : t.trace = s.trace ++ [.sent m]) : (ledger p t.trace).objects s.objects.nextHostId = some ⟨some guestId, child⟩ := by
  rw [trace, ledger_snoc]
  show ((ledger p s.trace).write p m).objects _ = _
  rw [write_request p _ m replayed.toHost _ child makes, if_pos rfl, replayed.owner]

-- What a recreated child brings: its guest id is mapped, and the host knows it.
structure Brought (p : Protocol) (named : Prop) (s : Session) (guestId parentGuestId : UInt32) (name : String) (child : Recreated) :
    Prop where
  moves : Moves p named .recovering s.view child.session.view
  kind : child.interface = ⟨name⟩
  known : (ledger p child.session.trace).objects child.hostId = some ⟨some guestId, child.interface⟩
  parent : s.objects.interface parentGuestId = some child.parent ∧ s.objects.hostId parentGuestId = some child.parentHostId

def Recreation.Brings (p : Protocol) (named : Prop) (s : Session) (guestId parentGuestId : UInt32) (name : String) :
    Recreation → Prop
  | .skipped t => Moves p named .recovering s.view t.view
  | .panicked => True
  | .recreated child => Brought p named s guestId parentGuestId name child

theorem Recreation.Brings.moves {parentGuestId : UInt32} {name : String} {recreation : Recreation}
    (brings : recreation.Brings p named s guestId parentGuestId name) (t : Session) (reached : recreation.session = some t) :
    Moves p named .recovering s.view t.view := by
  cases recreation with
  | skipped w =>
      cases reached
      exact brings
  | panicked => cases reached
  | recreated child =>
      cases reached
      exact Brought.moves brings

include covered

theorem recreate_child_brings (fresh : Fresh s.objects) (nonzero : guestId ≠ 0) (parentGuestId : UInt32) (other : Option UInt32)
    (request : String) (signature : List ArgumentType) (name : String) (values : UInt32 → UInt32 → List WaylandValue)
    (shape : Creates p request signature name)
    (encodes : ∀ hostId otherHostId, ∃ payload fds, encodeArguments signature (values hostId otherHostId) = .ok (payload, fds) ∧
      payload.length < 2 ^ 32)
    (newId : ∀ hostId otherHostId, ((values hostId otherHostId).filterMap newIdValue).getLast? = some hostId)
    (objects : ∀ hostId otherHostId, ∀ object ∈ (values hostId otherHostId).filterMap objectValue, object = otherHostId) :
    (recreateChild p s guestId parentGuestId other request values).Brings p named s guestId parentGuestId name := by
  unfold recreateChild
  split
  · rename_i parent parentHostId otherHostId typed translated otherTranslated
    have asked := request_child_asked named covered s guestId parent parentHostId request signature name
      (fun hostId => values hostId otherHostId) shape (fresh.listed _ _ _ typed translated) (fun hostId => encodes hostId otherHostId)
      (fun hostId => newId hostId otherHostId) (fun _ => ⟨some parentGuestId, .inr ⟨parentGuestId, rfl, typed, .inl translated⟩⟩)
      (fun _ hostId object member => by
        rw [objects hostId otherHostId object member]
        rcases stands_for_translated (p := p) s.objects s.trace _ _ otherTranslated with ⟨-, null⟩ | ⟨i, names⟩
        · exact .inl null
        · exact .inr ⟨_, i, names⟩)
    generalize requestChild p s guestId parent parentHostId request (fun hostId => values hostId otherHostId) = recreation at asked
    cases asked with
    | skipped => exact .refl
    | panicked => trivial
    | failed t m replayed makes took trace => exact replayed.created_moves makes took trace
    | recreated t m replayed makes took trace =>
        exact ⟨replayed.born_moves makes took trace nonzero shape.1, rfl, replayed.known makes trace, typed, translated⟩
  · exact .refl

omit covered

-- Requests that neither create nor name an object.
def Plain (p : Protocol) (interface : Interface) (request : String) : Prop :=
  ∀ desc ∈ p.requests interface, desc.name = request → ArgumentType.newId ∉ desc.signature ∧ ArgumentType.object ∉ desc.signature

theorem plain_reads (interface : Interface) (hostId : UInt32) (opcode : UInt16) (payload : Bytes) (desc : MessageDesc)
    (at_opcode : (p.requests interface)[opcode.toNat]? = some desc) (quiet : ArgumentType.newId ∉ desc.signature)
    (plain : ArgumentType.object ∉ desc.signature) (call : Call)
    (decoded : decode p .clientToHost interface (buildMessage hostId opcode payload) = some call) :
    call.newId = none ∧ call.objects = [] := by
  obtain ⟨walk, listed, walked, is⟩ := decode_inv _ _ _ _ _ decoded
  rw [opcode_of_built] at listed
  have same : call.desc = desc := Option.some.inj (listed.symm.trans at_opcode)
  refine ⟨decode_quiet _ _ _ _ _ decoded (by rw [same]; exact quiet), ?_⟩
  have none : walk.objectOffsets = [] := by
    have count := walk_object_count _ _ _ walked
    rw [same, List.count_eq_zero.mpr plain, List.length_eq_zero_iff] at count
    exact count
  rw [is]
  simp [callOf, none]

-- A plain replayed request is one move and leaves table and ledger as they were.
structure Asks (p : Protocol) (named : Prop) (s t : Session) : Prop where
  moves : Moves p named .recovering s.view t.view
  objects : t.objects = s.objects
  ledger : (ledger p t.trace).objects = (WlResprox.ledger p s.trace).objects

theorem Asks.refl (p : Protocol) (named : Prop) (s : Session) : Asks p named s s := ⟨.refl, rfl, rfl⟩

theorem Asks.trans {u : Session} (first : Asks p named s t) (second : Asks p named t u) : Asks p named s u :=
  ⟨first.moves.trans second.moves, second.objects.trans first.objects, second.ledger.trans first.ledger⟩

theorem plain_write_asks (s : Session) (guestId hostId : UInt32) (interface : Interface) (opcode : UInt16) (payload : Bytes)
    (fds : List Fd) (desc : MessageDesc) (at_opcode : (p.requests interface)[opcode.toNat]? = some desc)
    (quiet : ArgumentType.newId ∉ desc.signature) (plain : ArgumentType.object ∉ desc.signature)
    (sender : named → ∃ owner, s.view.names p owner hostId interface) :
    Asks p named s
      (s.writeMessage .host (.replayed guestId) interface (buildMessage hostId opcode payload) fds).2 := by
  have reads := plain_reads interface hostId opcode payload desc at_opcode quiet plain
  have nothing : ∀ outcome, Sent.newId p ⟨.host, .replayed guestId, interface, buildMessage hostId opcode payload, fds, outcome⟩ =
      none := by
    intro outcome
    unfold Sent.newId
    cases decoded : decode p _ _ _ with
    | none => rfl
    | some call => exact (reads call decoded).1
  refine ⟨.single (.asked s.view _ (by decide) rfl (nothing _) fun given => ?_), rfl, ?_⟩
  · exact replayed_addressed _ _ _ _ _ _ _ _ _ (sender given) fun call decoded object member => by
      simp [(reads call decoded).2] at member
  · rw [Session.write_trace, ledger_snoc]
    exact (write_asked p _ _ rfl (nothing _))

include covered

theorem replay_request_asks (s : Session) (guestId hostId : UInt32) (interface : Interface) (request : String)
    (values : List WaylandValue) (plain : Plain p interface request)
    (sender : named → ∃ owner, s.view.names p owner hostId interface) :
    Asks p named s (replayRequest p s guestId hostId interface request values).2 := by
  unfold replayRequest
  split
  · exact .refl p named s
  · rename_i opcode found
    obtain ⟨desc, at_opcode, member, name⟩ := opcode_listed _ _ _ (covered.requests interface) found
    obtain ⟨quiet, nameless⟩ := plain desc member name
    rw [at_opcode]
    dsimp only
    split
    · exact .refl p named s
    · exact plain_write_asks s guestId hostId interface opcode _ _ desc at_opcode quiet nameless sender

theorem replay_string_asks (s : Session) (guestId hostId : UInt32) (interface : Interface) (request : String) (text : Option String)
    (plain : Plain p interface request) (sender : named → ∃ owner, s.view.names p owner hostId interface) :
    Asks p named s (replayString p s guestId hostId interface request text) := by
  cases text with
  | none => exact .refl p named s
  | some text => exact replay_request_asks covered s guestId hostId interface request _ plain sender

theorem send_initial_commit_asks (s : Session) (guestId xdgSurface : UInt32) :
    Asks p named s (sendInitialCommit p s guestId xdgSurface).2 := by
  unfold sendInitialCommit
  split
  · rename_i surfaceGuestId _
    split
    · rename_i surfaceHostId surface translated typed
      split
      · exact .refl p named s
      · rename_i opcode found
        obtain ⟨desc, at_opcode, member, name⟩ := opcode_listed _ _ _ (covered.requests surface) found
        obtain ⟨quiet, plain⟩ := covered.quietRequests surface "commit" (by simp)
        exact plain_write_asks s guestId surfaceHostId surface opcode _ _ desc at_opcode (quiet desc member name)
          (plain desc member name) fun _ => ⟨some surfaceGuestId, .inr ⟨surfaceGuestId, rfl, typed, .inl translated⟩⟩
    · exact .refl p named s
  · exact .refl p named s

theorem add_planes_asks (s : Session) (guestId params : UInt32) (interface : Interface) (planes : List DmabufPlane)
    (plain : Plain p interface "add") (owner : Option UInt32)
    (known : (ledger p s.trace).objects params = some ⟨owner, interface⟩) :
    Asks p named s (addPlanes p s guestId params interface planes).2 := by
  induction planes generalizing s with
  | nil => exact .refl p named s
  | cons plane rest ih =>
      have first : Asks p named s _ :=
        replay_request_asks covered s guestId params interface "add" (planeValues plane) plain fun _ => ⟨owner, .inl known⟩
      simp only [addPlanes]
      split
      · rename_i written added
        rw [added] at first
        exact first.trans (ih written (by rw [first.ledger]; exact known))
      · rename_i failed added
        rwa [added] at first

omit covered

theorem declared_plain (interface : Interface) (request : String) (signature : List ArgumentType) (child : Option Interface)
    (indexed : Indexed (p.requests interface)) (known : declared (p.requests interface) request = some (signature, child))
    (quiet : ArgumentType.newId ∉ signature) (plain : ArgumentType.object ∉ signature) : Plain p interface request := by
  intro desc member name
  obtain ⟨signed, -⟩ := declared_entry _ _ _ _ indexed known desc member name
  rw [signed]
  exact ⟨quiet, plain⟩

theorem encoded_pool (hostId : UInt32) (fd : Fd) (size : Int32) : ∃ payload fds,
    encodeArguments [.newId, .fd, .int] [.newId hostId, .fd fd, .int size] = .ok (payload, fds) ∧ payload.length < 2 ^ 32 :=
  ⟨_, _, rfl, by simp [putU32]⟩

theorem encoded_buffer (hostId : UInt32) (offset width height stride : Int32) (format : UInt32) : ∃ payload fds,
    encodeArguments [.newId, .int, .int, .int, .int, .uint]
      [.newId hostId, .int offset, .int width, .int height, .int stride, .uint format] = .ok (payload, fds) ∧
      payload.length < 2 ^ 32 :=
  ⟨_, _, rfl, by simp [putU32]⟩

theorem encoded_immed (hostId : UInt32) (width height : Int32) (format flags : UInt32) : ∃ payload fds,
    encodeArguments [.newId, .int, .int, .uint, .uint]
      [.newId hostId, .int width, .int height, .uint format, .uint flags] = .ok (payload, fds) ∧ payload.length < 2 ^ 32 :=
  ⟨_, _, rfl, by simp [putU32]⟩

include covered

theorem seat_device_shape (kind : SeatDeviceKind) : ∃ name, Creates p kind.requestName [.newId] name := by
  cases kind
  · exact ⟨_, covered.getPointer⟩
  · exact ⟨_, covered.getKeyboard⟩
  · exact ⟨_, covered.getTouch⟩

variable (s) (fresh : Fresh s.objects) (guestId : UInt32) (nonzero : guestId ≠ 0)

include fresh nonzero

-- The recipes that ask for one object by its new id alone.
theorem child_brings (parent : UInt32) (request name : String) (shape : Creates p request [.newId] name) :
    (recreateChild p s guestId parent none request fun hostId _ => [.newId hostId]).Brings p named s guestId parent name :=
  recreate_child_brings covered fresh nonzero parent none request _ name _ shape
    (fun hostId _ => ⟨_, _, encoded_new_id hostId, word_small hostId⟩) (fun _ _ => rfl)
    (fun _ _ object member => by simp [objectValue] at member)

-- Those that name a surface as well.
theorem child_of_brings (parent surface : UInt32) (request name : String) (shape : Creates p request [.newId, .object] name) :
    (recreateChild p s guestId parent (some surface) request fun hostId surfaceHostId =>
      [.newId hostId, .object surfaceHostId]).Brings p named s guestId parent name :=
  recreate_child_brings covered fresh nonzero parent (some surface) request _ name _ shape
    (fun hostId otherHostId => ⟨_, _, encoded_new_id_object hostId otherHostId, words_small hostId otherHostId⟩) (fun _ _ => rfl)
    (fun _ _ object member => by simpa [objectValue, eq_comm] using member)

theorem recreate_shm_pool_moves (wlShm : UInt32) (fd : Fd) (size : Int32)
    (result : recreateShmPool p s guestId wlShm fd size = some t) : Moves p named .recovering s.view t.view := by
  have brings : Recreation.Brings p named s guestId wlShm _ _ :=
    recreate_child_brings covered fresh nonzero wlShm none "create_pool" _ _ (fun hostId _ => [.newId hostId, .fd fd, .int size])
      covered.createPool (fun hostId _ => encoded_pool hostId fd size) (fun _ _ => rfl)
      (fun _ _ object member => by simp [objectValue] at member)
  exact brings.moves t result

theorem recreate_shm_buffer_moves (pool : UInt32) (offset width height stride : Int32) (format : UInt32)
    (result : recreateShmBuffer p s guestId pool offset width height stride format = some t) :
    Moves p named .recovering s.view t.view := by
  have brings : Recreation.Brings p named s guestId pool _ _ :=
    recreate_child_brings covered fresh nonzero pool none "create_buffer" _ _
      (fun hostId _ => [.newId hostId, .int offset, .int width, .int height, .int stride, .uint format]) covered.createBuffer
      (fun hostId _ => encoded_buffer hostId offset width height stride format) (fun _ _ => rfl)
      (fun _ _ object member => by simp [objectValue] at member)
  exact brings.moves t result

theorem recreate_viewport_moves (viewporter surface : UInt32) (destination : Option (Int32 × Int32))
    (result : recreateViewport p s guestId viewporter surface destination = some t) :
    Moves p named .recovering s.view t.view := by
  unfold recreateViewport at result
  have brings : Recreation.Brings p named s guestId viewporter _ _ :=
    child_of_brings covered s fresh guestId nonzero viewporter surface "get_viewport" _ covered.getViewport
  split at result
  · rename_i child recreated
    rw [recreated] at brings
    have brought : Brought p named s guestId viewporter "wp_viewport" child := brings
    split at result
    · cases result
      exact brought.moves
    · rename_i width height
      cases result
      have plain : Plain p child.interface "set_destination" := by
        rw [brought.kind]
        exact declared_plain _ _ _ _ (covered.requests _) covered.setDestination (by simp) (by simp)
      exact brought.moves.trans (replay_request_asks covered child.session guestId child.hostId child.interface "set_destination" _
        plain fun _ => ⟨_, .inl brought.known⟩).moves
  · rename_i other _
    exact brings.moves t result

theorem recreate_xdg_toplevel_moves (parent : UInt32) (title appId : Option String) (handshake : Option Handshake)
    (result : recreateXdgToplevel p s guestId parent title appId = some (t, handshake)) :
    Moves p named .recovering s.view t.view ∧ ∀ h, handshake = some h →
      (ledger p t.trace).objects h.hostId = some ⟨some h.guestId, h.interface⟩ ∧
        s.objects.interface h.xdgSurfaceGuestId = some h.xdgSurface ∧ s.objects.hostId h.xdgSurfaceGuestId = some h.xdgSurfaceHostId := by
  unfold recreateXdgToplevel at result
  have brings : Recreation.Brings p named s guestId parent _ _ :=
    child_brings covered s fresh guestId nonzero parent "get_toplevel" _ covered.getToplevel
  split at result
  · rename_i child recreated
    rw [recreated] at brings
    have brought : Brought p named s guestId parent "xdg_toplevel" child := brings
    have titlePlain : Plain p child.interface "set_title" := by
      rw [brought.kind]
      exact declared_plain _ _ _ _ (covered.requests _) covered.setTitle (by simp) (by simp)
    have appIdPlain : Plain p child.interface "set_app_id" := by
      rw [brought.kind]
      exact declared_plain _ _ _ _ (covered.requests _) covered.setAppId (by simp) (by simp)
    have titled : Asks p named child.session _ :=
      replay_string_asks covered child.session guestId child.hostId child.interface "set_title" title titlePlain
        fun _ => ⟨_, .inl brought.known⟩
    have renamed : Asks p named _ _ :=
      replay_string_asks covered _ guestId child.hostId child.interface "set_app_id" appId appIdPlain
        fun _ => ⟨some guestId, .inl (by
          show (ledger p (replayString p child.session guestId child.hostId child.interface "set_title" title).trace).objects _ = _
          rw [titled.ledger]
          exact brought.known)⟩
    have committed := (titled.trans renamed).trans (send_initial_commit_asks covered _ guestId parent)
    dsimp only at result
    split at result
    · rename_i commit
      rw [commit] at committed
      cases result
      exact ⟨brought.moves.trans committed.moves, fun h made => by cases made⟩
    · rename_i commit
      rw [commit] at committed
      cases result
      refine ⟨brought.moves.trans committed.moves, fun h made => ?_⟩
      cases made
      exact ⟨by rw [committed.ledger]; exact brought.known, brought.parent⟩
  · obtain ⟨skipped, session, same⟩ := Option.map_eq_some_iff.mp result
    cases same
    exact ⟨brings.moves _ session, fun h made => by cases made⟩

theorem recreate_dmabuf_buffer_moves (dmabuf : UInt32) (width height : Int32) (format flags : UInt32) (planes : List DmabufPlane)
    (result : recreateDmabufBuffer p s guestId dmabuf width height format flags planes = some t) :
    Moves p named .recovering s.view t.view := by
  unfold recreateDmabufBuffer at result
  split at result
  · rename_i parent parentHostId typed translated
    have asked := request_child_asked named covered s guestId parent parentHostId "create_params" _ _ (fun hostId => [.newId hostId])
      covered.createParams (fresh.listed _ _ _ typed translated) (fun hostId => ⟨_, _, encoded_new_id hostId, word_small hostId⟩)
      (fun _ => rfl) (fun _ => ⟨some dmabuf, .inr ⟨dmabuf, rfl, typed, .inl translated⟩⟩)
      (fun _ _ object member => by simp [objectValue] at member)
    generalize requestChild p s guestId parent parentHostId "create_params" (fun hostId => [.newId hostId]) = params at asked result
    cases asked with
    | skipped =>
        cases result
        exact .refl
    | panicked => cases result
    | failed w m replayed makes took trace =>
        cases result
        exact replayed.created_moves makes took trace
    | recreated w m replayed makes took trace =>
        have first := replayed.created_moves makes took trace
        have known := replayed.known makes trace
        dsimp only at result
        split at result
        · cases result
          exact first
        · have added : Asks p named w _ := add_planes_asks covered w guestId s.objects.nextHostId _ planes
            (declared_plain _ _ _ _ (covered.requests _) covered.add (by simp) (by simp)) (some guestId) known
          split at result
          · rename_i failed adding
            rw [adding] at added
            cases result
            exact first.trans added.moves
          · rename_i filled adding
            rw [adding] at added
            have before := first.trans added.moves
            have stillKnown : (ledger p filled.trace).objects s.objects.nextHostId =
                some ⟨some guestId, ⟨"zwp_linux_buffer_params_v1"⟩⟩ := by
              rw [added.ledger]
              exact known
            have used := request_child_asked named covered filled guestId _ s.objects.nextHostId "create_immed" _ _
              (fun hostId => [.newId hostId, .int width, .int height, .uint format, .uint flags]) covered.createImmed
              covered.createParams.1 (fun hostId => encoded_immed hostId width height format flags) (fun _ => rfl)
              (fun _ => ⟨some guestId, .inl stillKnown⟩) (fun _ _ object member => by simp [objectValue] at member)
            generalize requestChild p filled guestId _ s.objects.nextHostId "create_immed"
              (fun hostId => [.newId hostId, .int width, .int height, .uint format, .uint flags]) = buffer at used result
            cases used with
            | skipped =>
                cases result
                exact before
            | panicked => cases result
            | failed u n again made took' trace' =>
                cases result
                exact before.trans (again.created_moves made took' trace')
            | recreated u n again made took' trace' =>
                cases result
                exact before.trans (again.born_moves made took' trace' nonzero covered.createImmed.1)
  · cases result
    exact .refl

omit fresh in
theorem recreate_global_moves (globals : Globals) (registry : Interface) (registryHostId : UInt32) (interface : Interface)
    (version : UInt32) (isRegistry : registry = wlRegistry)
    (anchor : named → ∃ owner, s.view.names p owner registryHostId registry)
    (result : recreateGlobal p globals registry registryHostId s guestId interface version = some t) :
    Moves p named .recovering s.view t.view := by
  subst isRegistry
  unfold recreateGlobal at result
  split at result
  · cases result
    exact .refl
  · rename_i name freshMaxVersion chosen
    have global : interface.name ∈ recreatableGlobals := by
      split at chosen
      · assumption
      · cases chosen
    have lookedUp : lookupInterface interface.name = some interface := by
      have tabulated : ∀ name ∈ recreatableGlobals, name ∈ tabulatedInterfaces := by decide +kernel
      rw [lookupInterface, if_pos (tabulated _ global)]
    have short : (asBytes interface.name).length < 2 ^ 31 := by
      have each : ∀ name ∈ recreatableGlobals, (asBytes name).length < 2 ^ 31 := by decide +kernel
      exact each _ global
    have back : interface.name ∈ recoveredInterfaces := by
      have each : ∀ name ∈ recreatableGlobals, name ∈ recoveredInterfaces := by decide +kernel
      exact each _ global
    have encoded := encoded_bind name (min version freshMaxVersion) s.objects.nextHostId interface.name
    have small := bind_payload_small name (min version freshMaxVersion) s.objects.nextHostId interface.name short
    have reads := decode_encoded p wlRegistry registryHostId 0 _ _ _ _ covered.bind encoded small
    have listed : (p.requests wlRegistry)[0]? = some ⟨"bind", false, [.uint, .str, .uint, .newId], none⟩ := covered.bind
    have allocated : s.objects.allocateHostId.1 = s.objects.nextHostId := rfl
    simp only [listed, allocated, encoded] at result
    have replayed : ∀ outcome, Replayed p named s guestId ⟨.host, .replayed guestId, wlRegistry, buildMessage registryHostId 0
        (bindPayload name interface.name (min version freshMaxVersion) s.objects.nextHostId), [], outcome⟩ := fun outcome =>
      ⟨rfl, rfl, fun given => replayed_addressed _ _ _ _ _ _ _ _ _ (anchor given) fun call decoded object inside => by
        rw [reads] at decoded
        cases decoded
        simp [objectValue] at inside⟩
    have makes : ∀ outcome, Sent.Makes p ⟨.host, .replayed guestId, wlRegistry, buildMessage registryHostId 0
        (bindPayload name interface.name (min version freshMaxVersion) s.objects.nextHostId), [], outcome⟩
        s.objects.nextHostId interface := fun outcome =>
      ⟨_, reads, rfl, by
        show (resolveChildInterface p _ (some interface.name)).map Prod.fst = _
        simp only [resolveChildInterface, lookedUp, Option.map_some]⟩
    split at result
    · rename_i w wrote
      obtain rfl : _ = w := congrArg Prod.snd wrote
      cases result
      exact (replayed _).created_moves (makes _) rfl rfl
    · rename_i w wrote
      obtain rfl : _ = w := congrArg Prod.snd wrote
      cases result
      exact (replayed _).born_moves (makes _) rfl rfl nonzero back

-- Each recipe is a sequence of moves, and a handshake speaks of known objects.
theorem replay_recipe_moves (globals : Globals) (registry : Interface) (registryHostId : UInt32) (recipe : Recreatable)
    (handshake : Option Handshake) (isRegistry : registry = wlRegistry)
    (anchor : named → ∃ owner, s.view.names p owner registryHostId registry)
    (result : replayRecipe p globals registry registryHostId s guestId recipe = some (t, handshake)) :
    Moves p named .recovering s.view t.view ∧ ∀ h, handshake = some h →
      (ledger p t.trace).objects h.hostId = some ⟨some h.guestId, h.interface⟩ ∧
        s.objects.interface h.xdgSurfaceGuestId = some h.xdgSurface ∧ s.objects.hostId h.xdgSurfaceGuestId = some h.xdgSurfaceHostId := by
  cases recipe
  case xdgToplevel parent title appId =>
    exact recreate_xdg_toplevel_moves covered s fresh guestId nonzero parent title appId handshake result
  all_goals
    obtain ⟨done, arm, same⟩ := Option.map_eq_some_iff.mp result
    cases same
    refine ⟨?_, fun h made => by cases made⟩
  case global interface version =>
    exact recreate_global_moves covered s guestId nonzero globals registry registryHostId interface version isRegistry anchor arm
  case surface parent =>
    exact (child_brings covered s fresh guestId nonzero parent "create_surface" _ covered.createSurface).moves _ arm
  case xdgSurface parent surface =>
    exact (child_of_brings covered s fresh guestId nonzero parent surface "get_xdg_surface" _ covered.getXdgSurface).moves _ arm
  case shmPool wlShm fd size => exact recreate_shm_pool_moves covered s fresh guestId nonzero wlShm fd size arm
  case shmBuffer pool offset width height stride format =>
    exact recreate_shm_buffer_moves covered s fresh guestId nonzero pool offset width height stride format arm
  case dmabufBuffer dmabuf width height format flags planes =>
    exact recreate_dmabuf_buffer_moves covered s fresh guestId nonzero dmabuf width height format flags planes arm
  case seatDevice seat kind =>
    obtain ⟨name, shape⟩ := seat_device_shape covered kind
    exact (child_brings covered s fresh guestId nonzero seat kind.requestName name shape).moves _ arm
  case viewport viewporter surface destination =>
    exact recreate_viewport_moves covered s fresh guestId nonzero viewporter surface destination arm
  case fractionalScale manager surface =>
    exact (child_of_brings covered s fresh guestId nonzero manager surface "get_fractional_scale" _ covered.getFractionalScale).moves _ arm

end Replays

end WlResprox
