import WlResprox.Session

set_option autoImplicit false

namespace WlResprox

-- A message the relay has read and could resolve. `originals` are its object
-- arguments before translation overwrites them.
structure Inbound where
  direction : Direction
  header : MessageHeader
  sender : UInt32
  interface : Interface
  desc : MessageDesc
  walk : SignatureWalk
  originals : List UInt32

structure Creation where
  guestId : UInt32
  hostId : UInt32
  interface : Interface
deriving DecidableEq, Repr

def resolveSender (p : Protocol) (objects : ShadowTable) (direction : Direction) (header : MessageHeader) :
    Option (UInt32 × Interface × MessageDesc) :=
  let guestSenderId := match direction with
    | .clientToHost => some header.senderId
    | .hostToClient => objects.guestId header.senderId
  match guestSenderId with
  | none => none
  | some guest =>
      match objects.interface guest with
      | none => none
      | some interface => ((p.messages direction interface)[header.opcode.toNat]?).map fun desc => (guest, interface, desc)

def translate (objects : ShadowTable) : Direction → UInt32 → Option UInt32
  | .clientToHost => objects.hostId
  | .hostToClient => objects.guestId

def translateObjects (objects : ShadowTable) (direction : Direction) : List Nat → Bytes → Option Bytes
  | [], msg => some msg
  | offset :: rest, msg =>
      match translate objects direction (wordAt msg (headerLen + offset)) with
      | none => none
      | some translated => translateObjects objects direction rest (setWord msg (headerLen + offset) translated)

def createObject (objects : ShadowTable) (direction : Direction) (original : UInt32) (child : Interface) :
    Creation × ShadowTable :=
  match direction with
  | .clientToHost =>
      let (hostNewId, allocated) := objects.allocateHostId
      (⟨original, hostNewId, child⟩, allocated.map original hostNewId child)
  | .hostToClient =>
      let (guestNewId, allocated) := objects.allocateGuestServerId
      (⟨guestNewId, original, child⟩, allocated.map guestNewId original child)

def Creation.rewritten (c : Creation) : Direction → UInt32
  | .clientToHost => c.hostId
  | .hostToClient => c.guestId

namespace Inbound

def isRequest (m : Inbound) (interface request : String) : Bool :=
  m.direction = .clientToHost ∧ m.interface.name = interface ∧ m.desc.name = request

def isEvent (m : Inbound) (interface event : String) : Bool :=
  m.direction = .hostToClient ∧ m.interface.name = interface ∧ m.desc.name = event

end Inbound

def recreatableGlobals : List String :=
  ["wl_compositor", "xdg_wm_base", "wl_shm", "zwp_linux_dmabuf_v1", "wl_seat", "wp_viewporter",
   "wp_fractional_scale_manager_v1", "xdg_activation_v1"]

-- The version word of a bind sits four bytes before its new id.
def requestedVersion (p : Protocol) (msg : Bytes) (offset : Nat) (child : Interface) : UInt32 :=
  (readU32 msg (headerLen + offset - 4)).getD (p.version child)

def shmBufferRecipe (pool : UInt32) (payload : Bytes) (offset : Nat) : Option Recreatable :=
  match readU32 payload (offset + 4), readU32 payload (offset + 8), readU32 payload (offset + 12),
    readU32 payload (offset + 16), readU32 payload (offset + 20) with
  | some bufOffset, some width, some height, some stride, some format =>
      some (.shmBuffer pool bufOffset.toInt32 width.toInt32 height.toInt32 stride.toInt32 format)
  | _, _, _, _, _ => none

def dmabufBufferRecipe (params : Option (UInt32 × List DmabufPlane)) (payload : Bytes) (offset : Nat) : Option Recreatable :=
  match readU32 payload (offset + 4), readU32 payload (offset + 8), readU32 payload (offset + 12),
    readU32 payload (offset + 16), params with
  | some width, some height, some format, some flags, some (dmabuf, planes) =>
      some (.dmabufBuffer dmabuf width.toInt32 height.toInt32 format flags planes)
  | _, _, _, _, _ => none

def captureRecipe (p : Protocol) (m : Inbound) (msg : Bytes) (offset : Nat) (created : Creation)
    (planes : HashMap (UInt32 × List DmabufPlane)) : Option Recreatable × HashMap (UInt32 × List DmabufPlane) :=
  if m.isRequest "wl_registry" "bind" then
    if created.interface.name ∈ recreatableGlobals then
      (some (.global created.interface (requestedVersion p msg offset created.interface)), planes)
    else (none, planes)
  else if m.isRequest "wl_compositor" "create_surface" then (some (.surface m.sender), planes)
  else if m.isRequest "xdg_wm_base" "get_xdg_surface" then
    (m.originals.head?.map fun surface => .xdgSurface m.sender surface, planes)
  else if m.isRequest "xdg_surface" "get_toplevel" then (some (.xdgToplevel m.sender none none), planes)
  else if m.isRequest "wl_shm_pool" "create_buffer" then (shmBufferRecipe m.sender (msg.drop headerLen) offset, planes)
  else if m.isRequest "zwp_linux_dmabuf_v1" "create_params" then
    -- The params object is never replayed; its planes gather under its id.
    (none, planes.insert created.guestId (m.sender, []))
  else if m.isRequest "zwp_linux_buffer_params_v1" "create_immed" then
    (dmabufBufferRecipe (planes.lookup m.sender) (msg.drop headerLen) offset, planes.erase m.sender)
  else if m.isRequest "wl_seat" "get_pointer" then (some (.seatDevice m.sender .pointer), planes)
  else if m.isRequest "wl_seat" "get_keyboard" then (some (.seatDevice m.sender .keyboard), planes)
  else if m.isRequest "wl_seat" "get_touch" then (some (.seatDevice m.sender .touch), planes)
  else if m.isRequest "wp_viewporter" "get_viewport" then
    (m.originals.head?.map fun surface => .viewport m.sender surface none, planes)
  else if m.isRequest "wp_fractional_scale_manager_v1" "get_fractional_scale" then
    (m.originals.head?.map fun surface => .fractionalScale m.sender surface, planes)
  else (none, planes)

def recordCaptured (graph : RecreationGraph) (guestId : UInt32) : Option Recreatable → RecreationGraph
  | none => graph
  | some recipe => graph.record guestId recipe

def observeGrabs (grabs : GrabTracker) (m : Inbound) (payload : Bytes) : GrabTracker :=
  if m.isEvent "wl_pointer" "enter" ∧ 8 ≤ payload.length then grabs.onPointerEnter m.sender (wordAt payload 4)
  else if m.isEvent "wl_pointer" "leave" then grabs.onPointerLeave m.sender
  else if m.isEvent "wl_pointer" "button" ∧ 16 ≤ payload.length then
    grabs.onPointerButton m.sender (wordAt payload 8) (wordAt payload 12)
  else if m.isEvent "wl_keyboard" "enter" ∧ 8 ≤ payload.length then grabs.onKeyboardEnter m.sender (wordAt payload 4)
  else if m.isEvent "wl_keyboard" "leave" then grabs.onKeyboardLeave m.sender
  else grabs

-- The events whose first argument is an input serial the splice may borrow.
def Inbound.carriesInputSerial (m : Inbound) : Bool :=
  m.isEvent "wl_pointer" "enter" || m.isEvent "wl_pointer" "leave" || m.isEvent "wl_pointer" "button" ||
    m.isEvent "wl_keyboard" "enter" || m.isEvent "wl_keyboard" "leave" || m.isEvent "wl_keyboard" "key" ||
    m.isEvent "wl_touch" "down"

def correctedAppId (env : Env) (ambient : Ambient) (appId : String) : Option String :=
  if env.desktopApps.hasId appId then none
  else
    match ambient.clientBinary with
    | none => none
    | some binary => (env.desktopApps.resolveByBinary binary).filter (· ≠ appId)

def forwardedAppId (env : Env) (ambient : Ambient) (appId : String) : String := (correctedAppId env ambient appId).getD appId

-- Only a corrected app id changes the message itself.
def updateRecipes (env : Env) (ambient : Ambient) (graph : RecreationGraph) (m : Inbound) (msg : Bytes) :
    RecreationGraph × Bytes :=
  let payload := msg.drop headerLen
  if m.isRequest "wl_shm_pool" "resize" then
    match readU32 payload 0 with
    | none => (graph, msg)
    | some size => (graph.updateShmPoolSize m.sender size.toInt32, msg)
  else if m.isRequest "xdg_toplevel" "set_title" then
    match readStr payload 0 with
    | none => (graph, msg)
    | some (title, _) => (graph.updateToplevelTitle m.sender title, msg)
  else if m.isRequest "xdg_toplevel" "set_app_id" then
    match readStr payload 0 with
    | none => (graph, msg)
    | some (appId, _) =>
        match correctedAppId env ambient appId with
        | none => (graph.updateToplevelAppId m.sender appId, msg)
        | some corrected =>
            (graph.updateToplevelAppId m.sender corrected,
              buildMessage m.header.senderId m.header.opcode (putStr [] corrected))
  else if m.isRequest "wp_viewport" "set_destination" then
    match readU32 payload 0, readU32 payload 4 with
    | some width, some height => (graph.updateViewportDestination m.sender width.toInt32 height.toInt32, msg)
    | _, _ => (graph, msg)
  else (graph, msg)

def observeBuffers (flow : BufferFlowTracker) (m : Inbound) : BufferFlowTracker :=
  if m.isRequest "wl_surface" "attach" then flow.onAttach m.sender (m.originals.headD 0)
  else if m.isRequest "wl_surface" "commit" then flow.onCommit m.sender
  else if m.isEvent "wl_buffer" "release" then flow.onRelease m.sender
  else flow

def observeCallbacks (frames : PendingFrameTracker) (m : Inbound) (created : Option Creation) : PendingFrameTracker :=
  if m.isRequest "wl_surface" "frame" then
    match created with
    | none => frames
    | some c => frames.onFrameRequested c.guestId
  else if m.isRequest "wl_display" "sync" then
    match created with
    | none => frames
    | some c => frames.onSyncRequested c.guestId
  else if m.isEvent "wl_callback" "done" then frames.onDoneReceived m.sender
  else frames

-- The client is handed the write end of the proxy's own pipe instead.
def substituteTee (ambient : Ambient) (m : Inbound) (payload : Bytes) (fds : List Fd) : List Fd :=
  if m.isEvent "wl_data_source" "send" then
    match readStr payload 0 with
    | none => fds
    | some (mimeType, _) =>
        if isCacheableMime mimeType then
          match fds.getLast? with
          | none => fds
          | some realFd => fds.dropLast ++ if ambient.teeSucceeds then [.tee realFd] else []
        else fds
  else fds

def retainPool (graph : RecreationGraph) (m : Inbound) (payload : Bytes) (created : Option Creation) (fds : List Fd) :
    RecreationGraph :=
  if m.isRequest "wl_shm" "create_pool" then
    match created, fds.getLast? with
    | some c, some fd =>
        let size := (m.walk.newIdOffset.bind fun offset => readU32 payload (offset + 4)).getD 0
        graph.record c.guestId (.shmPool m.sender fd size.toInt32)
    | _, _ => graph
  else graph

def planeOf (payload : Bytes) (fd : Fd) : Option DmabufPlane :=
  match readU32 payload 0, readU32 payload 4, readU32 payload 8, readU32 payload 12, readU32 payload 16 with
  | some planeIdx, some offset, some stride, some modifierHi, some modifierLo =>
      some ⟨fd, planeIdx, offset, stride, (modifierHi.toUInt64 <<< 32) ||| modifierLo.toUInt64⟩
  | _, _, _, _, _ => none

def retainPlane (planes : HashMap (UInt32 × List DmabufPlane)) (m : Inbound) (payload : Bytes) (fds : List Fd) :
    HashMap (UInt32 × List DmabufPlane) :=
  if m.isRequest "zwp_linux_buffer_params_v1" "add" then
    match fds.getLast?.bind (planeOf payload), planes.lookup m.sender with
    | some plane, some (dmabuf, gathered) => planes.insert m.sender (dmabuf, gathered ++ [plane])
    | _, _ => planes
  else planes

-- Everything a creation can capture, one constructor for each recreatable kind.
inductive Captured (p : Protocol) (m : Inbound) (msg : Bytes) (offset : Nat) (created : Creation)
    (planes : HashMap (UInt32 × List DmabufPlane)) : Option Recreatable × HashMap (UInt32 × List DmabufPlane) → Prop where
  | nothing : Captured p m msg offset created planes (none, planes)
  | global (request : m.isRequest "wl_registry" "bind" = true) (listed : created.interface.name ∈ recreatableGlobals) :
      Captured p m msg offset created planes
        (some (.global created.interface (requestedVersion p msg offset created.interface)), planes)
  | surface (request : m.isRequest "wl_compositor" "create_surface" = true) :
      Captured p m msg offset created planes (some (.surface m.sender), planes)
  | xdgSurface (request : m.isRequest "xdg_wm_base" "get_xdg_surface" = true) :
      Captured p m msg offset created planes (m.originals.head?.map fun surface => .xdgSurface m.sender surface, planes)
  | xdgToplevel (request : m.isRequest "xdg_surface" "get_toplevel" = true) :
      Captured p m msg offset created planes (some (.xdgToplevel m.sender none none), planes)
  | shmBuffer (request : m.isRequest "wl_shm_pool" "create_buffer" = true) :
      Captured p m msg offset created planes (shmBufferRecipe m.sender (msg.drop headerLen) offset, planes)
  | params (request : m.isRequest "zwp_linux_dmabuf_v1" "create_params" = true) :
      Captured p m msg offset created planes (none, planes.insert created.guestId (m.sender, []))
  | dmabufBuffer (request : m.isRequest "zwp_linux_buffer_params_v1" "create_immed" = true) :
      Captured p m msg offset created planes
        (dmabufBufferRecipe (planes.lookup m.sender) (msg.drop headerLen) offset, planes.erase m.sender)
  | seatDevice (kind : SeatDeviceKind) (request : m.isRequest "wl_seat" kind.requestName = true) :
      Captured p m msg offset created planes (some (.seatDevice m.sender kind), planes)
  | viewport (request : m.isRequest "wp_viewporter" "get_viewport" = true) :
      Captured p m msg offset created planes (m.originals.head?.map fun surface => .viewport m.sender surface none, planes)
  | fractionalScale (request : m.isRequest "wp_fractional_scale_manager_v1" "get_fractional_scale" = true) :
      Captured p m msg offset created planes (m.originals.head?.map fun surface => .fractionalScale m.sender surface, planes)

theorem capture_recipe_captured (p : Protocol) (m : Inbound) (msg : Bytes) (offset : Nat) (created : Creation)
    (planes : HashMap (UInt32 × List DmabufPlane)) :
    Captured p m msg offset created planes (captureRecipe p m msg offset created planes) := by
  unfold captureRecipe
  refine iteInduction (fun bind => ?_) fun _ => ?_
  · exact iteInduction (fun listed => .global bind listed) fun _ => .nothing
  refine iteInduction (fun request => .surface request) fun _ => ?_
  refine iteInduction (fun request => .xdgSurface request) fun _ => ?_
  refine iteInduction (fun request => .xdgToplevel request) fun _ => ?_
  refine iteInduction (fun request => .shmBuffer request) fun _ => ?_
  refine iteInduction (fun request => .params request) fun _ => ?_
  refine iteInduction (fun request => .dmabufBuffer request) fun _ => ?_
  refine iteInduction (fun request => .seatDevice .pointer request) fun _ => ?_
  refine iteInduction (fun request => .seatDevice .keyboard request) fun _ => ?_
  refine iteInduction (fun request => .seatDevice .touch request) fun _ => ?_
  refine iteInduction (fun request => .viewport request) fun _ => ?_
  exact iteInduction (fun request => .fractionalScale request) fun _ => .nothing

theorem is_request_iff (m : Inbound) (interface request : String) :
    m.isRequest interface request = true ↔
      m.direction = .clientToHost ∧ m.interface.name = interface ∧ m.desc.name = request := by
  simp [Inbound.isRequest]

theorem is_event_iff (m : Inbound) (interface event : String) :
    m.isEvent interface event = true ↔
      m.direction = .hostToClient ∧ m.interface.name = interface ∧ m.desc.name = event := by
  simp [Inbound.isEvent]

end WlResprox
