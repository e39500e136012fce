import WlResprox.Connection

set_option autoImplicit false

namespace WlResprox

-- What the code between two reads leaves alone: no buffer changes, no queue of
-- a kept peer does, and the history grows by allowed entries only.
structure Frame (kept : Peer → Prop) (allowed : Traffic → Prop) (s s' : Session) : Prop where
  readBuf : ∀ peer, (s'.conn peer).readBuf = (s.conn peer).readBuf
  readFds : ∀ peer, kept peer → (s'.conn peer).readFds = (s.conn peer).readFds
  frozen : s'.frozen = s.frozen
  trace : ∃ added, (∀ entry ∈ added, allowed entry) ∧ s'.trace = s.trace ++ added

namespace Frame

variable {kept : Peer → Prop} {allowed : Traffic → Prop} {s s' s'' : Session}

theorem same (gtk : s'.gtk = s.gtk) (host : s'.host = s.host) (frozen : s'.frozen = s.frozen) (trace : s'.trace = s.trace) :
    Frame kept allowed s s' where
  readBuf peer := by cases peer <;> simp only [Session.conn, gtk, host]
  readFds peer _ := by cases peer <;> simp only [Session.conn, gtk, host]
  frozen := frozen
  trace := ⟨[], by simp, by simp [trace]⟩

theorem refl (s : Session) : Frame kept allowed s s := same rfl rfl rfl rfl

theorem trans (first : Frame kept allowed s s') (second : Frame kept allowed s' s'') : Frame kept allowed s s'' where
  readBuf peer := (second.readBuf peer).trans (first.readBuf peer)
  readFds peer keep := (second.readFds peer keep).trans (first.readFds peer keep)
  frozen := second.frozen.trans first.frozen
  trace := by
    obtain ⟨earlier, fine, was⟩ := first.trace
    obtain ⟨later, fine', is⟩ := second.trace
    refine ⟨earlier ++ later, ?_, by rw [is, was, List.append_assoc]⟩
    intro entry member
    rcases List.mem_append.mp member with old | new
    · exact fine entry old
    · exact fine' entry new

theorem then_same (before : Frame kept allowed s s') (gtk : s''.gtk = s'.gtk) (host : s''.host = s'.host)
    (frozen : s''.frozen = s'.frozen) (trace : s''.trace = s'.trace) : Frame kept allowed s s'' :=
  before.trans (same gtk host frozen trace)

theorem mono {kept' : Peer → Prop} {allowed' : Traffic → Prop} (frame : Frame kept allowed s s')
    (fewer : ∀ peer, kept' peer → kept peer) (more : ∀ entry, allowed entry → allowed' entry) : Frame kept' allowed' s s' where
  readBuf := frame.readBuf
  readFds peer keep := frame.readFds peer (fewer peer keep)
  frozen := frame.frozen
  trace := by
    obtain ⟨added, fine, was⟩ := frame.trace
    exact ⟨added, fun entry member => more entry (fine entry member), was⟩

theorem write (s : Session) (peer : Peer) (origin : Origin) (interface : Interface) (msg : Bytes) (fds : List Fd)
    (fine : ∀ outcome, allowed (.sent ⟨peer, origin, interface, msg, fds, outcome⟩)) :
    Frame kept allowed s (s.writeMessage peer origin interface msg fds).2 where
  readBuf _ := Session.write_read_buf _ _ _ _ _ _ _
  readFds _ _ := Session.write_read_fds _ _ _ _ _ _ _
  frozen := rfl
  trace := ⟨_, by simpa using fine _, Session.write_trace _ _ _ _ _ _⟩

theorem wrote {peer : Peer} {origin : Origin} {interface : Interface} {msg : Bytes} {fds : List Fd} {done : Bool}
    (result : s.writeMessage peer origin interface msg fds = (done, s'))
    (fine : ∀ outcome, allowed (.sent ⟨peer, origin, interface, msg, fds, outcome⟩)) : Frame kept allowed s s' := by
  have frame : Frame kept allowed s _ := write s peer origin interface msg fds fine
  rwa [result] at frame

theorem log (s : Session) (entry : Traffic) (fine : allowed entry) : Frame kept allowed s (s.log entry) where
  readBuf _ := by rw [Session.conn_log]
  readFds _ _ := by rw [Session.conn_log]
  frozen := rfl
  trace := ⟨[entry], by simpa using fine, rfl⟩

theorem fold {β : Type} (f : Session → β → Session) (each : ∀ s b, Frame kept allowed s (f s b)) (rows : List β) (s : Session) :
    Frame kept allowed s (rows.foldl f s) := by
  induction rows generalizing s with
  | nil => exact refl s
  | cons b rest ih => exact (each s b).trans (ih (f s b))

end Frame

-- A message the proxy itself writes to one peer, and nothing else.
def Writes (peer : Peer) (origin : Origin → Prop) : Traffic → Prop
  | .sent m => m.peer = peer ∧ origin m.origin
  | _ => False

def everyPeer (_ : Peer) : Prop := True

def ownEvents : List String := ["done", "delete_id", "release", "leave", "button"]

-- An event the proxy makes up for the client.
def Tells (p : Protocol) : Traffic → Prop
  | .sent m => m.peer = .gtk ∧ m.origin = .own ∧ ∃ event ∈ ownEvents, ∃ guestId payload opcode,
      eventOpcode p m.interface event = some opcode ∧ m.msg = buildMessage guestId opcode payload
  | _ => False

abbrev TellsClient (p : Protocol) (s s' : Session) : Prop := Frame everyPeer (Tells p) s s'

def ownInterfaces : List String := ["wl_display", "wl_registry", "wl_data_device_manager", "wl_data_source", "wl_data_device"]

-- A request the proxy makes on its own account.
def OwnRequest : Traffic → Prop
  | .sent m => m.peer = .host ∧ m.origin = .own ∧ m.interface.name ∈ ownInterfaces
  | _ => False

abbrev AsksHost (s s' : Session) : Prop := Frame everyPeer OwnRequest s s'

-- What replaying leaves alone: everything but the host's connection, the table
-- and the history.
structure Kept (s s' : Session) : Prop where
  gtk : s'.gtk = s.gtk
  graph : s'.graph = s.graph
  grabs : s'.grabs = s.grabs
  bufferFlow : s'.bufferFlow = s.bufferFlow
  pendingFrames : s'.pendingFrames = s.pendingFrames
  pendingDmabufPlanes : s'.pendingDmabufPlanes = s.pendingDmabufPlanes
  clipboardCache : s'.clipboardCache = s.clipboardCache
  reclaim : s'.reclaim = s.reclaim

structure Performs (allowed : Traffic → Prop) (s s' : Session) : Prop where
  frame : Frame everyPeer allowed s s'
  kept : Kept s s'

abbrev Replays (guestId : UInt32) (s s' : Session) : Prop := Performs (Writes .host (· = .replayed guestId)) s s'

namespace Performs

variable {allowed : Traffic → Prop} {s s' s'' : Session}

theorem objects (s : Session) (objects : ShadowTable) : Performs allowed s { s with objects := objects } :=
  ⟨.same rfl rfl rfl rfl, rfl, rfl, rfl, rfl, rfl, rfl, rfl, rfl⟩

theorem refl (s : Session) : Performs allowed s s := objects s s.objects

theorem trans (first : Performs allowed s s') (second : Performs allowed s' s'') : Performs allowed s s'' where
  frame := first.frame.trans second.frame
  kept :=
    ⟨second.kept.gtk.trans first.kept.gtk, second.kept.graph.trans first.kept.graph, second.kept.grabs.trans first.kept.grabs,
      second.kept.bufferFlow.trans first.kept.bufferFlow, second.kept.pendingFrames.trans first.kept.pendingFrames,
      second.kept.pendingDmabufPlanes.trans first.kept.pendingDmabufPlanes,
      second.kept.clipboardCache.trans first.kept.clipboardCache, second.kept.reclaim.trans first.kept.reclaim⟩

theorem mono {more : Traffic → Prop} (performs : Performs allowed s s') (implied : ∀ entry, allowed entry → more entry) :
    Performs more s s' := ⟨performs.frame.mono (fun _ kept => kept) implied, performs.kept⟩

theorem write (s : Session) (origin : Origin) (interface : Interface) (msg : Bytes) (fds : List Fd)
    (fine : ∀ outcome, allowed (.sent ⟨.host, origin, interface, msg, fds, outcome⟩)) :
    Performs allowed s (s.writeMessage .host origin interface msg fds).2 :=
  ⟨.write s _ _ _ _ _ fine, rfl, rfl, rfl, rfl, rfl, rfl, rfl, rfl⟩

theorem wrote {origin : Origin} {interface : Interface} {msg : Bytes} {fds : List Fd} {done : Bool}
    (result : s.writeMessage .host origin interface msg fds = (done, s'))
    (fine : ∀ outcome, allowed (.sent ⟨.host, origin, interface, msg, fds, outcome⟩)) : Performs allowed s s' := by
  have performs : Performs allowed s _ := write s origin interface msg fds fine
  rwa [result] at performs

theorem then_objects (before : Performs allowed s s') (objects : ShadowTable) :
    Performs allowed s { s' with objects := objects } :=
  before.trans (.objects s' objects)

end Performs

def replayedRequests : List String :=
  ["create_surface", "get_xdg_surface", "get_toplevel", "set_title", "set_app_id", "commit", "create_pool", "create_buffer",
   "create_params", "add", "create_immed", "get_pointer", "get_keyboard", "get_touch", "get_viewport", "set_destination",
   "get_fractional_scale"]

-- A request that recovery makes for the client again, for the sake of a recipe.
def Redoes (p : Protocol) (guestId : UInt32) : Traffic → Prop
  | .sent m => m.peer = .host ∧ m.origin = .replayed guestId ∧ ∃ request ∈ replayedRequests, ∃ hostId payload opcode,
      requestOpcode p m.interface request = some opcode ∧ m.msg = buildMessage hostId opcode payload
  | _ => False

def Redoing (p : Protocol) (guestId : UInt32) (request : String) : Traffic → Prop
  | .sent m => m.peer = .host ∧ m.origin = .replayed guestId ∧ ∃ hostId payload opcode,
      requestOpcode p m.interface request = some opcode ∧ m.msg = buildMessage hostId opcode payload
  | _ => False

theorem redoing_redoes (p : Protocol) (guestId : UInt32) (request : String) (listed : request ∈ replayedRequests) (entry : Traffic)
    (redoing : Redoing p guestId request entry) : Redoes p guestId entry := by
  cases entry with
  | sent m =>
      obtain ⟨toHost, origin, made⟩ := redoing
      exact ⟨toHost, origin, request, listed, made⟩
  | _ => exact redoing.elim

-- The bind of a recipe's global, under the name the globals have for it.
def Rebinds (p : Protocol) (globals : Globals) (registry : Interface) (registryHostId guestId : UInt32) : Traffic → Prop
  | .sent m => m.peer = .host ∧ m.origin = .replayed guestId ∧ m.interface = registry ∧
      ∃ interface name freshMaxVersion version hostId bind payload, interface ∈ recreatableGlobals ∧
        globals.lookup interface = some (name, freshMaxVersion) ∧ (p.requests registry)[0]? = some bind ∧
        encodeArguments bind.signature [.uint name, .string interface, .uint (min version freshMaxVersion), .newId hostId] =
          .ok (payload, m.fds) ∧ m.msg = buildMessage registryHostId 0 payload
  | _ => False

def Recreates (p : Protocol) (globals : Globals) (registry : Interface) (registryHostId guestId : UInt32) (entry : Traffic) : Prop :=
  Redoes p guestId entry ∨ Rebinds p globals registry registryHostId guestId entry

theorem recreates_writes (p : Protocol) (globals : Globals) (registry : Interface) (registryHostId guestId : UInt32)
    (entry : Traffic) (recreates : Recreates p globals registry registryHostId guestId entry) :
    Writes .host (· = .replayed guestId) entry := by
  cases entry with
  | sent m => exact recreates.elim (fun redoes => ⟨redoes.1, redoes.2.1⟩) fun rebinds => ⟨rebinds.1, rebinds.2.1⟩
  | _ => exact (recreates.elim id id).elim

variable (p : Protocol) (s : Session)

theorem Frame.told {p : Protocol} {s s' : Session} (frame : TellsClient p s s') :
    Frame everyPeer (Writes .gtk (· = .own)) s s' :=
  frame.mono (fun _ kept => kept) fun entry fine => by
    cases entry with
    | sent => exact ⟨fine.1, fine.2.1⟩
    | _ => exact fine.elim

theorem tell_client_frame (guestId : UInt32) (interface : Interface) (event : String) (payload : Bytes)
    (own : event ∈ ownEvents) : TellsClient p s (tellClient p s guestId interface event payload) := by
  unfold tellClient
  split
  · exact .refl s
  · rename_i opcode listed
    exact .write s _ _ _ _ _ fun _ => ⟨rfl, rfl, event, own, guestId, payload, opcode, listed, rfl⟩

theorem synthesize_delete_id_frame (guestId : UInt32) : TellsClient p s (synthesizeDeleteId p s guestId) := by
  unfold synthesizeDeleteId
  split
  · exact .refl s
  · exact tell_client_frame p s _ _ _ _ (by decide)

theorem synthesize_frame_done_frame (callback : UInt32) : TellsClient p s (synthesizeFrameDone p s callback) := by
  unfold synthesizeFrameDone
  split
  · exact .refl s
  · exact (tell_client_frame p s _ _ _ _ (by decide)).trans (synthesize_delete_id_frame p _ _)

theorem create_own_object_frame (interface : Interface) (sender : UInt32) (opcode : UInt16) (payload : UInt32 → Bytes)
    (listed : interface.name ∈ ownInterfaces) : AsksHost s (createOwnObject s interface sender opcode payload).2 := by
  have allocated : AsksHost s { s with objects := s.objects.allocateHostId.2 } := .same rfl rfl rfl rfl
  simp only [createOwnObject]
  split
  · rename_i written result
    exact allocated.trans (.wrote result fun _ => ⟨rfl, rfl, listed⟩)
  · rename_i failed result
    exact (allocated.trans (.wrote result fun _ => ⟨rfl, rfl, listed⟩)).then_same rfl rfl rfl rfl

theorem offer_mime_types_frame (source : UInt32) (mimeTypes : List String) :
    AsksHost s (offerMimeTypes s source mimeTypes).2 := by
  have listed : wlDataSource.name ∈ ownInterfaces := by decide
  induction mimeTypes generalizing s with
  | nil => exact .refl s
  | cons mimeType rest ih =>
      simp only [offerMimeTypes]
      split
      · rename_i written result
        exact Frame.trans (.wrote result fun _ => ⟨rfl, rfl, listed⟩) (ih written)
      · rename_i failed result
        exact .wrote result fun _ => ⟨rfl, rfl, listed⟩

theorem created_frame {s t : Session} {interface : Interface} {sender : UInt32} {opcode : UInt16} {payload : UInt32 → Bytes}
    {id : Option UInt32} (listed : interface.name ∈ ownInterfaces)
    (result : createOwnObject s interface sender opcode payload = (id, t)) : AsksHost s t := by
  have frame := create_own_object_frame s interface sender opcode payload listed
  rwa [result] at frame

theorem claim_selection_frame (registry seat name version serial : UInt32) (mimeTypes : List String) :
    AsksHost s (claimSelection s registry seat name version serial mimeTypes) := by
  have listed : wlDataDevice.name ∈ ownInterfaces := by decide
  unfold claimSelection
  split
  · rename_i bound
    exact created_frame (by decide) bound
  · rename_i ddm s₁ bound
    have first : AsksHost s s₁ := created_frame (by decide) bound
    split
    · rename_i sourced
      exact first.trans (created_frame (by decide) sourced)
    · rename_i source s₂ sourced
      have second := first.trans (created_frame (by decide) sourced)
      have third := offer_mime_types_frame s₂ source mimeTypes
      split
      · rename_i offered
        rw [offered] at third
        exact second.trans third
      · rename_i s₃ offered
        rw [offered] at third
        split
        · rename_i fetched
          exact (second.trans third).trans (created_frame (by decide) fetched)
        · rename_i device s₄ fetched
          have fourth := (second.trans third).trans (created_frame (by decide) fetched)
          split
          · rename_i selected
            exact fourth.trans (.wrote selected fun _ => ⟨rfl, rfl, listed⟩)
          · rename_i selected
            exact (fourth.trans (.wrote selected fun _ => ⟨rfl, rfl, listed⟩)).then_same rfl rfl rfl rfl

theorem attempt_clipboard_splice_frame (ambient : Ambient) (serial : UInt32) :
    AsksHost s (attemptClipboardSplice ambient s serial) := by
  have spent : AsksHost s { s with reclaim := { s.reclaim with pending := false } } := .same rfl rfl rfl rfl
  simp only [attemptClipboardSplice]
  split
  · exact spent
  · split
    · split
      · exact spent.trans (claim_selection_frame _ _ _ _ _ _ _)
      · exact spent
    · exact spent

theorem request_child_redoing (guestId : UInt32) (parent : Interface) (parentHostId : UInt32) (request : String)
    (values : UInt32 → List WaylandValue) (t : Session)
    (result : (requestChild p s guestId parent parentHostId request values).session = some t) :
    Performs (Redoing p guestId request) s t := by
  have allocated : Performs (Redoing p guestId request) s { s with objects := s.objects.allocateHostId.2 } := .objects s _
  unfold requestChild at result
  split at result
  · cases result
    exact .refl s
  · rename_i opcode known
    dsimp only at result
    split at result
    · cases result
    · split at result
      · cases result
        exact allocated
      · rename_i payload fds _
        have fine : ∀ outcome, Redoing p guestId request (.sent ⟨.host, .replayed guestId, parent,
            buildMessage parentHostId opcode payload, fds, outcome⟩) :=
          fun _ => ⟨rfl, rfl, parentHostId, payload, opcode, known, rfl⟩
        split at result
        · rename_i failed written
          cases result
          exact allocated.trans (.wrote written fine)
        · rename_i done written
          cases result
          exact allocated.trans (.wrote written fine)

theorem replay_request_redoing (guestId hostId : UInt32) (interface : Interface) (request : String) (values : List WaylandValue) :
    Performs (Redoing p guestId request) s (replayRequest p s guestId hostId interface request values).2 := by
  unfold replayRequest
  split
  · exact .refl s
  · rename_i opcode known
    split
    · exact .refl s
    · split
      · exact .refl s
      · rename_i payload fds _
        exact .write s _ _ _ _ fun _ => ⟨rfl, rfl, hostId, payload, opcode, known, rfl⟩

theorem recreate_child_redoing (guestId parentGuestId : UInt32) (named : Option UInt32) (request : String)
    (values : UInt32 → UInt32 → List WaylandValue) (t : Session)
    (result : (recreateChild p s guestId parentGuestId named request values).session = some t) :
    Performs (Redoing p guestId request) s t := by
  unfold recreateChild at result
  split at result
  · rename_i interface parentHostId namedHostId _ _ _
    have asked := request_child_redoing p s guestId interface parentHostId request (fun hostId => values hostId namedHostId)
    split at result
    · rename_i skipped requested
      rw [requested] at asked
      exact asked t result
    · cases result
    · rename_i child requested
      rw [requested] at asked
      cases result
      exact (asked child.session rfl).then_objects _
  · cases result
    exact .refl s

theorem request_child_redoes (guestId : UInt32) (parent : Interface) (parentHostId : UInt32) (request : String)
    (values : UInt32 → List WaylandValue) (listed : request ∈ replayedRequests) (t : Session)
    (result : (requestChild p s guestId parent parentHostId request values).session = some t) :
    Performs (Redoes p guestId) s t :=
  (request_child_redoing p s guestId parent parentHostId request values t result).mono (redoing_redoes p guestId request listed)

theorem replay_request_redoes (guestId hostId : UInt32) (interface : Interface) (request : String) (values : List WaylandValue)
    (listed : request ∈ replayedRequests) :
    Performs (Redoes p guestId) s (replayRequest p s guestId hostId interface request values).2 :=
  (replay_request_redoing p s guestId hostId interface request values).mono (redoing_redoes p guestId request listed)

theorem recreate_child_redoes (guestId parentGuestId : UInt32) (named : Option UInt32) (request : String)
    (values : UInt32 → UInt32 → List WaylandValue) (listed : request ∈ replayedRequests) (t : Session)
    (result : (recreateChild p s guestId parentGuestId named request values).session = some t) :
    Performs (Redoes p guestId) s t :=
  (recreate_child_redoing p s guestId parentGuestId named request values t result).mono (redoing_redoes p guestId request listed)

theorem recreate_global_rebinds (globals : Globals) (registry : Interface) (registryHostId guestId : UInt32)
    (interface : Interface) (version : UInt32) (t : Session)
    (result : recreateGlobal p globals registry registryHostId s guestId interface version = some t) :
    Performs (Rebinds p globals registry registryHostId guestId) s t := by
  have allocated : Performs (Rebinds p globals registry registryHostId guestId) s
      { s with objects := s.objects.allocateHostId.2 } := .objects s _
  unfold recreateGlobal at result
  split at result
  · cases result
    exact .refl s
  · rename_i name freshMaxVersion known
    dsimp only at result
    split at result
    · cases result
    · rename_i bind first
      split at result
      · cases result
        exact allocated
      · rename_i payload fds encoded
        have listed : interface.name ∈ recreatableGlobals ∧ globals.lookup interface.name = some (name, freshMaxVersion) := by
          split at known
          · rename_i listed
            exact ⟨listed, known⟩
          · cases known
        have fine : ∀ outcome, Rebinds p globals registry registryHostId guestId (.sent ⟨.host, .replayed guestId, registry,
            buildMessage registryHostId 0 payload, fds, outcome⟩) :=
          fun _ => ⟨rfl, rfl, rfl, interface.name, name, freshMaxVersion, version, _, bind, payload, listed.1, listed.2, first,
            encoded, rfl⟩
        split at result
        · rename_i failed written
          cases result
          exact allocated.trans (.wrote written fine)
        · rename_i done written
          cases result
          exact (allocated.trans (.wrote written fine)).then_objects _

theorem recreate_viewport_redoes (guestId viewporter surface : UInt32) (destination : Option (Int32 × Int32)) (t : Session)
    (result : recreateViewport p s guestId viewporter surface destination = some t) : Performs (Redoes p guestId) s t := by
  unfold recreateViewport at result
  have created := recreate_child_redoes p s guestId viewporter (some surface) "get_viewport" (fun hostId surfaceHostId =>
    [.newId hostId, .object surfaceHostId]) (by decide)
  split at result
  · rename_i child recreated
    rw [recreated] at created
    have first := created child.session rfl
    split at result
    · cases result
      exact first
    · cases result
      exact first.trans (replay_request_redoes p _ _ _ _ _ _ (by decide))
  · exact created t result

theorem add_planes_redoes (guestId params : UInt32) (interface : Interface) (planes : List DmabufPlane) :
    Performs (Redoes p guestId) s (addPlanes p s guestId params interface planes).2 := by
  induction planes generalizing s with
  | nil => exact .refl s
  | cons plane rest ih =>
      simp only [addPlanes]
      split
      · rename_i written added
        have first := replay_request_redoes p s guestId params interface "add" (planeValues plane) (by decide)
        rw [added] at first
        exact first.trans (ih written)
      · rename_i failed added
        have first := replay_request_redoes p s guestId params interface "add" (planeValues plane) (by decide)
        rwa [added] at first

theorem recreate_dmabuf_buffer_redoes (guestId dmabuf : UInt32) (width height : Int32) (format flags : UInt32)
    (planes : List DmabufPlane) (t : Session)
    (result : recreateDmabufBuffer p s guestId dmabuf width height format flags planes = some t) :
    Performs (Redoes p guestId) s t := by
  unfold recreateDmabufBuffer at result
  split at result
  · rename_i interface hostId _ _
    have asked := request_child_redoes p s guestId interface hostId "create_params" (fun hostId => [.newId hostId]) (by decide)
    split at result
    · rename_i params requested
      rw [requested] at asked
      have first := asked params.session rfl
      split at result
      · cases result
        exact first
      · have filled := add_planes_redoes p params.session guestId params.hostId params.interface planes
        split at result
        · rename_i failed adding
          rw [adding] at filled
          cases result
          exact first.trans filled
        · rename_i added adding
          rw [adding] at filled
          have used := request_child_redoes p added guestId params.interface params.hostId "create_immed" (fun hostId =>
            [.newId hostId, .int width, .int height, .uint format, .uint flags]) (by decide)
          split at result
          · rename_i buffer requested'
            rw [requested'] at used
            cases result
            exact ((first.trans filled).trans (used buffer.session rfl)).then_objects _
          · exact (first.trans filled).trans (used t result)
    · exact asked t result
  · cases result
    exact .refl s

theorem replay_string_redoing (guestId hostId : UInt32) (interface : Interface) (request : String) (text : Option String) :
    Performs (Redoing p guestId request) s (replayString p s guestId hostId interface request text) := by
  cases text with
  | none => exact .refl s
  | some text => exact replay_request_redoing p s _ _ _ _ _

theorem send_initial_commit_redoing (guestId xdgSurface : UInt32) :
    Performs (Redoing p guestId "commit") s (sendInitialCommit p s guestId xdgSurface).2 := by
  unfold sendInitialCommit
  split
  · split
    · split
      · exact .refl s
      · rename_i opcode known
        exact .write s _ _ _ _ fun _ => ⟨rfl, rfl, _, _, opcode, known, rfl⟩
    · exact .refl s
  · exact .refl s

-- A toplevel that comes back is titled, named and committed, in this order.
theorem recreate_xdg_toplevel_some (guestId parent : UInt32) (title appId : Option String) (t : Session)
    (handshake : Option Handshake) (result : recreateXdgToplevel p s guestId parent title appId = some (t, handshake)) :
    recreateChild p s guestId parent none "get_toplevel" (fun hostId _ => [.newId hostId]) = .skipped t ∨
      ∃ child titled named, recreateChild p s guestId parent none "get_toplevel" (fun hostId _ => [.newId hostId]) = .recreated child ∧
        titled = replayString p child.session guestId child.hostId child.interface "set_title" title ∧
        named = replayString p titled guestId child.hostId child.interface "set_app_id" appId ∧
        t = (sendInitialCommit p named guestId parent).2 := by
  unfold recreateXdgToplevel at result
  split at result
  · rename_i child recreated
    refine .inr ⟨child, _, _, recreated, rfl, rfl, ?_⟩
    dsimp only at result
    split at result
    · rename_i commit
      cases result
      rw [commit]
    · rename_i commit
      cases result
      rw [commit]
  · rename_i other
    obtain ⟨skipped, session, same⟩ := Option.map_eq_some_iff.mp result
    cases same
    left
    cases made : recreateChild p s guestId parent none "get_toplevel" (fun hostId _ => [.newId hostId]) with
    | skipped s =>
        rw [made] at session
        cases session
        rfl
    | panicked =>
        rw [made] at session
        cases session
    | recreated child => exact (other child made).elim

theorem recreate_xdg_toplevel_redoes (guestId parent : UInt32) (title appId : Option String) (t : Session)
    (handshake : Option Handshake) (result : recreateXdgToplevel p s guestId parent title appId = some (t, handshake)) :
    Performs (Redoes p guestId) s t := by
  have created := recreate_child_redoes p s guestId parent none "get_toplevel" (fun hostId _ => [.newId hostId]) (by decide)
  rcases recreate_xdg_toplevel_some p s guestId parent title appId t handshake result with
    skipped | ⟨child, titled, named, recreated, writesTitle, writesAppId, rfl⟩
  · rw [skipped] at created
    exact created t rfl
  · rw [recreated] at created
    have first := replay_string_redoing p child.session guestId child.hostId child.interface "set_title" title
    have second := replay_string_redoing p titled guestId child.hostId child.interface "set_app_id" appId
    have third := send_initial_commit_redoing p named guestId parent
    rw [← writesTitle] at first
    rw [← writesAppId] at second
    exact (((created child.session rfl).trans (first.mono (redoing_redoes p guestId _ (by decide)))).trans
      (second.mono (redoing_redoes p guestId _ (by decide)))).trans (third.mono (redoing_redoes p guestId _ (by decide)))

theorem replay_recipe_recreates (globals : Globals) (registry : Interface) (registryHostId guestId : UInt32) (recipe : Recreatable)
    (t : Session) (handshake : Option Handshake)
    (result : replayRecipe p globals registry registryHostId s guestId recipe = some (t, handshake)) :
    Performs (Recreates p globals registry registryHostId guestId) s t := by
  have redone : Performs (Redoes p guestId) s t → Performs (Recreates p globals registry registryHostId guestId) s t :=
    fun performs => performs.mono fun _ => .inl
  cases recipe
  case xdgToplevel => exact redone (recreate_xdg_toplevel_redoes p s _ _ _ _ _ _ result)
  all_goals
    obtain ⟨done, arm, same⟩ := Option.map_eq_some_iff.mp result
    cases same
  case global => exact (recreate_global_rebinds p s _ _ _ _ _ _ _ arm).mono fun _ => .inr
  case viewport => exact redone (recreate_viewport_redoes p s _ _ _ _ _ arm)
  case dmabufBuffer => exact redone (recreate_dmabuf_buffer_redoes p s _ _ _ _ _ _ _ _ arm)
  case seatDevice seat kind =>
      have listed : kind.requestName ∈ replayedRequests := by cases kind <;> decide
      exact redone (recreate_child_redoes p s _ _ _ _ _ listed _ arm)
  all_goals exact redone (recreate_child_redoes p s _ _ _ _ _ (by decide) _ arm)

theorem replay_recipe_frame (globals : Globals) (registry : Interface) (registryHostId guestId : UInt32) (recipe : Recreatable)
    (t : Session) (handshake : Option Handshake)
    (result : replayRecipe p globals registry registryHostId s guestId recipe = some (t, handshake)) : Replays guestId s t :=
  (replay_recipe_recreates p s globals registry registryHostId guestId recipe t handshake result).mono
    (recreates_writes p globals registry registryHostId guestId)

theorem ask_for_globals_frame (registryGuestId : UInt32) :
    Frame everyPeer (Writes .host (· ≠ .relayed)) s (askForGlobals s registryGuestId).2 := by
  have allocated : Frame everyPeer (Writes .host (· ≠ .relayed)) s { s with objects := s.objects.allocateHostId.2.allocateHostId.2 } := .same rfl rfl rfl rfl
  simp only [askForGlobals]
  split
  · rename_i failed result
    exact allocated.trans (.wrote result fun _ => ⟨rfl, by simp⟩)
  · rename_i asked result
    exact (allocated.trans (.wrote result fun _ => ⟨rfl, by simp⟩)).trans (.write asked _ _ _ _ _ fun _ => ⟨rfl, by simp⟩)

theorem settle_recovery_frame (order : HashOrder) (globals : Globals) : TellsClient p s (settleRecovery p order globals s) := by
  have released : TellsClient p s (drainInFlight p order s) := by
    have drained : TellsClient p s { s with bufferFlow := (s.bufferFlow.drainInFlight order).2 } := .same rfl rfl rfl rfl
    refine drained.trans (.fold _ (fun s buffer => ?_) _ _)
    unfold releaseInFlight
    split
    · exact tell_client_frame p s _ _ _ _ (by decide)
    · exact .refl s
  have answered : TellsClient p (drainInFlight p order s) (drainAwaitingDone p order (drainInFlight p order s)) := by
    have drained : TellsClient p (drainInFlight p order s) { drainInFlight p order s with
        pendingFrames := ((drainInFlight p order s).pendingFrames.drainAwaitingDone order).2 } := .same rfl rfl rfl rfl
    exact drained.trans (.fold _ (fun s callback => synthesize_frame_done_frame p s callback) _ _)
  exact (released.trans answered).then_same rfl rfl rfl rfl

theorem grab_event_frame (guestId : UInt32) (interface : Interface) (event : String) (rest : Bytes) (serial : UInt32)
    (own : event ∈ ownEvents) : TellsClient p s (grabEvent p guestId interface event rest (serial, s)).2 := by
  unfold grabEvent
  split
  · exact .refl s
  · exact tell_client_frame p s _ _ _ _ own

theorem grab_fold_frame {β : Type} (f : UInt32 × Session → β → UInt32 × Session)
    (each : ∀ st b, TellsClient p st.2 (f st b).2) (rows : List β) (st : UInt32 × Session) :
    TellsClient p st.2 (rows.foldl f st).2 := by
  induction rows generalizing st with
  | nil => exact .refl _
  | cons b rest ih => exact (each st b).trans (ih (f st b))

theorem release_pointer_grab_frame (st : UInt32 × Session) (grab : UInt32 × Option UInt32 × List UInt32) :
    TellsClient p st.2 (releasePointerGrab p st grab).2 := by
  unfold releasePointerGrab
  split
  · exact .refl _
  · rename_i interface _
    refine Frame.trans ?_ (grab_fold_frame p _ (fun st button => grab_event_frame p st.2 _ _ _ _ _ (by decide)) _ _)
    split
    · exact .refl _
    · exact grab_event_frame p st.2 _ _ _ _ _ (by decide)

theorem synthesize_grab_releases_frame (order : HashOrder) : TellsClient p s (synthesizeGrabReleases p order s) := by
  have pointers := grab_fold_frame p (releasePointerGrab p) (release_pointer_grab_frame p) (s.grabs.activePointerGrabs order) (1, s)
  have keyboards := grab_fold_frame p (releaseKeyboardGrab p) (fun st grab => by
    unfold releaseKeyboardGrab
    split
    · exact .refl _
    · exact grab_event_frame p st.2 _ _ _ _ _ (by decide)) (s.grabs.activeKeyboardGrabs order)
    ((s.grabs.activePointerGrabs order).foldl (releasePointerGrab p) (1, s))
  exact (pointers.trans keyboards).then_same rfl rfl rfl rfl

-- A message the proxy makes up, to either peer.
def MakesUp : Traffic → Prop
  | .sent m => m.origin = .own ∧ (m.peer = .host → m.interface.name ∈ ownInterfaces)
  | _ => False

abbrev Observes (s s' : Session) : Prop := Frame everyPeer MakesUp s s'

-- What handling one message may add to the history, and the queue it may pop.
def Handles : Traffic → Prop
  | .sent _ => True
  | .served _ _ _ => True
  | _ => False

abbrev HandlesOne (direction : Direction) (s s' : Session) : Prop := Frame (· = direction.dst) Handles s s'

theorem Frame.asks {s s' : Session} (frame : AsksHost s s') : Observes s s' :=
  frame.mono (fun _ _ => trivial) fun entry fine => by
    cases entry with
    | sent => exact ⟨fine.2.1, fun _ => fine.2.2⟩
    | _ => exact fine.elim

theorem Frame.tells {p : Protocol} {s s' : Session} (frame : TellsClient p s s') : Observes s s' :=
  frame.mono (fun _ _ => trivial) fun entry fine => by
    cases entry with
    | sent m => exact ⟨fine.2.1, fun toHost => by rw [fine.1] at toHost; cases toHost⟩
    | _ => exact fine.elim

theorem Frame.handles {kept : Peer → Prop} {peer : Peer} {origin : Origin → Prop} {s s' : Session}
    (frame : Frame everyPeer (Writes peer origin) s s') : Frame kept Handles s s' :=
  frame.mono (fun _ _ => trivial) fun entry fine => by
    cases entry with
    | sent => trivial
    | _ => exact fine.elim

theorem Frame.handles_one {direction : Direction} {s s' : Session} (frame : Observes s s') : HandlesOne direction s s' :=
  frame.mono (fun _ _ => trivial) fun entry fine => by
    cases entry with
    | sent => trivial
    | _ => exact fine.elim

theorem set_read_fds_frame (direction : Direction) (fds : List Fd) : HandlesOne direction s (s.setReadFds direction.src fds) where
  readBuf peer := by cases direction <;> cases peer <;> rfl
  readFds peer kept := by subst kept; cases direction <;> rfl
  frozen := rfl
  trace := ⟨[], by simp, by simp [Session.setReadFds, Session.setConn]⟩

theorem handle_synthetic_frame (ambient : Ambient) (msg : Bytes) (opcode : UInt16) :
    HandlesOne .hostToClient s (handleSyntheticClipboardEvent ambient s msg opcode) := by
  unfold handleSyntheticClipboardEvent
  split
  · split
    · exact .refl s
    · rename_i fd rest _
      have popped := set_read_fds_frame s .hostToClient rest
      dsimp only
      split
      · exact popped
      · split
        · exact popped
        · split
          · exact popped.trans (.log _ _ trivial)
          · exact popped
  · split
    · exact .same rfl rfl rfl rfl
    · exact .refl s

theorem introduce_object_frame (m : Inbound) (msg rewritten : Bytes) (created : Option Creation) (t : Session)
    (result : introduceObject p s m msg = .ok (created, t, rewritten)) : Observes s t := by
  obtain ⟨-, -, rfl, -⟩ | ⟨offset, child, version, -, -, -, rfl, -⟩ := introduce_object_ok _ _ _ _ _ _ _ result
  · exact .refl _
  · exact .same rfl rfl rfl rfl

theorem forget_deleted_frame (m : Inbound) (msg renamed : Bytes) (t : Session)
    (result : forgetDeleted s m msg = some (t, renamed)) : Observes s t := by
  obtain ⟨rfl, -⟩ | ⟨_, _, -, -, -, -, rfl, -⟩ := forget_deleted_some s t m msg renamed result
  · exact .refl t
  · exact .same rfl rfl rfl rfl

theorem splice_on_input_frame (ambient : Ambient) (m : Inbound) (payload : Bytes) :
    Observes s (spliceOnInput ambient s m payload) := by
  unfold spliceOnInput
  split
  · split
    · exact .refl s
    · exact (attempt_clipboard_splice_frame s ambient _).asks
  · exact .refl s

theorem answer_stale_sender_frame (m : Inbound) (created : Option Creation) : Observes s (answerStaleSender p s m created) := by
  unfold answerStaleSender
  split
  · exact (synthesize_delete_id_frame p s m.sender).tells.then_same rfl rfl rfl rfl
  · split
    · split
      · exact .refl s
      · exact (synthesize_frame_done_frame p s _).tells
    · exact .refl s

theorem roll_back_creation_frame (m : Inbound) (created : Option Creation) : Observes s (rollBackCreation s m created) := by
  cases created with
  | none => exact .refl s
  | some phantom => exact .same rfl rfl rfl rfl

theorem forward_popped_frame (ambient : Ambient) (m : Inbound) (created : Option Creation) (msg : Bytes) :
    Frame everyPeer Handles (s.setReadFds m.direction.src ((s.conn m.direction.src).readFds.drop m.walk.fdCount))
      (forward ambient s m created msg).2 := by
  simp only [forward]
  split
  · exact (Frame.write _ _ _ _ _ _ fun _ => trivial).then_same rfl rfl rfl rfl
  · exact .same rfl rfl rfl rfl

theorem forward_frame (ambient : Ambient) (m : Inbound) (created : Option Creation) (msg : Bytes) :
    HandlesOne m.direction s (forward ambient s m created msg).2 :=
  (set_read_fds_frame s m.direction _).trans
    ((forward_popped_frame s ambient m created msg).mono (fun _ _ => trivial) fun _ fine => fine)

theorem forward_queue (ambient : Ambient) (m : Inbound) (created : Option Creation) (msg : Bytes) :
    ((forward ambient s m created msg).2.conn m.direction.src).readFds =
      (s.conn m.direction.src).readFds.drop m.walk.fdCount := by
  rw [(forward_popped_frame s ambient m created msg).readFds _ trivial, Session.setReadFds, Session.conn_set_conn, if_pos rfl]

theorem observe_input_frame (ambient : Ambient) (m : Inbound) (payload : Bytes) :
    Observes s (observeInput ambient s m payload) := by
  have noted : Observes s { s with grabs := observeGrabs s.grabs m payload } := .same rfl rfl rfl rfl
  exact noted.trans (splice_on_input_frame _ ambient m payload)

theorem observe_recipes_frame (env : Env) (ambient : Ambient) (m : Inbound) (msg : Bytes) :
    Observes s (observeRecipes env ambient (observeInput ambient s m (msg.drop headerLen)) m msg) :=
  (observe_input_frame s ambient m (msg.drop headerLen)).then_same rfl rfl rfl rfl

theorem observe_flow_frame (env : Env) (ambient : Ambient) (m : Inbound) (created : Option Creation) (msg : Bytes) :
    Observes s
      (observeFlow (observeRecipes env ambient (observeInput ambient s m (msg.drop headerLen)) m msg) m created) :=
  (observe_recipes_frame s env ambient m msg).then_same rfl rfl rfl rfl

theorem drop_stale_sender_frame (m : Inbound) (created : Option Creation) : Observes s (dropStaleSender p s m created) :=
  (answer_stale_sender_frame p s m created).trans (roll_back_creation_frame _ m created)

theorem passed_on_frame (env : Env) (ambient : Ambient) (m : Inbound) (created : Option Creation) (msg : Bytes)
    (disposal : Disposal) (t : Session) (passed : PassedOn env ambient s m created msg disposal t) :
    HandlesOne m.direction s t := by
  have noted := observe_flow_frame s env ambient m created msg
  cases passed with
  | staleGeneration updated observed stale =>
      subst observed
      exact (observe_recipes_frame s env ambient m msg).handles_one
  | untranslatedSender noted observed failed =>
      subst observed
      exact (noted.trans (drop_stale_sender_frame env.protocol _ m created)).handles_one
  | forwarded noted otherSide observed fresh translated =>
      subst observed
      exact noted.handles_one.trans (forward_frame _ ambient m created _)

theorem handled_frame (env : Env) (ambient : Ambient) (direction : Direction) (header : MessageHeader) (msg : Bytes)
    (disposal : Disposal) (t : Session) (handled : Handled env ambient direction s header msg disposal t) :
    HandlesOne direction s t := by
  cases handled with
  | intercepted intercepting =>
      simp only [intercepts, decide_eq_true_eq] at intercepting
      obtain ⟨rfl, -⟩ := intercepting
      exact handle_synthetic_frame s ambient msg _
  | unknown | parseError | untranslatable => exact .refl s
  | unresolvableChild m translated dropped resolved translating failed =>
      obtain ⟨-, -, rfl | ⟨guest, name, rfl⟩⟩ := introduce_object_error _ _ _ _ _ failed
      · exact .refl _
      · exact .same rfl rfl rfl rfl
  | untrackedDeleteId m translated rewritten created introduced resolved translating introducing failed =>
      exact (introduce_object_frame _ _ _ _ _ _ _ introducing).handles_one
  | passedOn m translated rewritten renamed created introduced forgotten next disposal spared resolved translating
      introducing forgetting passing =>
      have first := introduce_object_frame _ _ _ _ _ _ _ introducing
      have second := forget_deleted_frame _ _ _ _ _ forgetting
      have third := passed_on_frame _ _ _ _ _ _ _ _ passing
      rw [resolved.way] at third
      exact (first.trans second).handles_one.trans third

theorem relay_message_frame (env : Env) (ambient : Ambient) (direction : Direction) (header : MessageHeader) (msg : Bytes) :
    HandlesOne direction s (relayMessage env ambient direction s header msg).2 :=
  handled_frame s env ambient direction header msg _ _ (relay_message_handled env ambient direction s header msg)

end WlResprox
