import WlResprox.Relay

set_option autoImplicit false

namespace WlResprox

def senderOf (msg : Bytes) : UInt32 := wordAt msg 0

def opcodeOfMessage (msg : Bytes) : UInt16 := (wordAt msg 4).toUInt16

-- The latest (name, version) the new compositor advertised for an interface.
abbrev Globals := AList fun _ : String => UInt32 × UInt32

def awaitedGlobals : List String := recreatableGlobals ++ ["wl_data_device_manager"]

def noteGlobal (globals : Globals) (payload : Bytes) : Globals :=
  match readU32 payload 0, readStr payload 4 with
  | some name, some (interface, next) =>
      match readU32 payload next with
      | none => globals
      | some version => if interface ∈ awaitedGlobals then globals.insert interface (name, version) else globals
  | _, _ => globals

structure Recreated where
  session : Session
  hostId : UInt32
  interface : Interface
  parentHostId : UInt32
  parent : Interface

-- `none` is the panic of an `expect` on a static child interface.
inductive Recreation where
  | skipped (s : Session)
  | panicked
  | recreated (child : Recreated)

def requestChild (p : Protocol) (s : Session) (guestId : UInt32) (parent : Interface) (parentHostId : UInt32)
    (request : String) (values : UInt32 → List WaylandValue) : Recreation :=
  match requestOpcode p parent request with
  | none => .skipped s
  | some opcode =>
  match (p.requests parent)[opcode.toNat]?.bind fun desc => desc.childInterface.map fun child => (desc.signature, child) with
  | none => .panicked
  | some (signature, child) =>
  let (hostId, objects) := s.objects.allocateHostId
  let allocated := { s with objects := objects }
  match encodeArguments signature (values hostId) with
  | .error _ => .skipped allocated
  | .ok (payload, fds) =>
  match allocated.writeMessage .host (.replayed guestId) parent (buildMessage parentHostId opcode payload) fds with
  | (false, failed) => .skipped failed
  | (true, written) => .recreated ⟨written, hostId, child, parentHostId, parent⟩

def replayRequest (p : Protocol) (s : Session) (guestId hostId : UInt32) (interface : Interface) (request : String)
    (values : List WaylandValue) : Bool × Session :=
  match requestOpcode p interface request with
  | none => (false, s)
  | some opcode =>
  match (p.requests interface)[opcode.toNat]? with
  | none => (false, s)
  | some desc =>
  match encodeArguments desc.signature values with
  | .error _ => (false, s)
  | .ok (payload, fds) => s.writeMessage .host (.replayed guestId) interface (buildMessage hostId opcode payload) fds

def mapRecreated (guestId : UInt32) (child : Recreated) : Session :=
  { child.session with objects := child.session.objects.map guestId child.hostId child.interface }

-- The arm that most recipes share: resolve the parent and the named object,
-- ask the parent for a child, and map the guest id onto it.
def recreateChild (p : Protocol) (s : Session) (guestId parentGuestId : UInt32) (namedGuestId : Option UInt32)
    (request : String) (values : UInt32 → UInt32 → List WaylandValue) : Recreation :=
  match s.objects.interface parentGuestId, s.objects.hostId parentGuestId, s.objects.hostId (namedGuestId.getD 0) with
  | some interface, some parentHostId, some namedHostId =>
      match requestChild p s guestId interface parentHostId request (fun hostId => values hostId namedHostId) with
      | .skipped s => .skipped s
      | .panicked => .panicked
      | .recreated child => .recreated { child with session := mapRecreated guestId child }
  | _, _, _ => .skipped s

def Recreation.session : Recreation → Option Session
  | .skipped s => some s
  | .panicked => none
  | .recreated child => some child.session

def recreateGlobal (p : Protocol) (globals : Globals) (registry : Interface) (registryHostId : UInt32) (s : Session)
    (guestId : UInt32) (interface : Interface) (version : UInt32) : Option Session :=
  match if interface.name ∈ recreatableGlobals then globals.lookup interface.name else none with
  | none => some s
  | some (name, freshMaxVersion) =>
  let (hostId, objects) := s.objects.allocateHostId
  let allocated := { s with objects := objects }
  match (p.requests registry)[0]? with
  | none => none
  | some bind =>
  match encodeArguments bind.signature
      [.uint name, .string interface.name, .uint (min version freshMaxVersion), .newId hostId] with
  | .error _ => some allocated
  | .ok (payload, fds) =>
  match allocated.writeMessage .host (.replayed guestId) registry (buildMessage registryHostId 0 payload) fds with
  | (false, failed) => some failed
  | (true, written) => some { written with objects := written.objects.map guestId hostId interface }

def recreateSurface (p : Protocol) (s : Session) (guestId parentGuestId : UInt32) : Option Session :=
  (recreateChild p s guestId parentGuestId none "create_surface" fun hostId _ => [.newId hostId]).session

def recreateXdgSurface (p : Protocol) (s : Session) (guestId parentGuestId surfaceGuestId : UInt32) : Option Session :=
  (recreateChild p s guestId parentGuestId (some surfaceGuestId) "get_xdg_surface" fun hostId surfaceHostId =>
    [.newId hostId, .object surfaceHostId]).session

def recreateShmPool (p : Protocol) (s : Session) (guestId wlShmGuestId : UInt32) (fd : Fd) (size : Int32) : Option Session :=
  (recreateChild p s guestId wlShmGuestId none "create_pool" fun hostId _ => [.newId hostId, .fd fd, .int size]).session

def recreateShmBuffer (p : Protocol) (s : Session) (guestId poolGuestId : UInt32) (offset width height stride : Int32)
    (format : UInt32) : Option Session :=
  (recreateChild p s guestId poolGuestId none "create_buffer" fun hostId _ =>
    [.newId hostId, .int offset, .int width, .int height, .int stride, .uint format]).session

def recreateSeatDevice (p : Protocol) (s : Session) (guestId seatGuestId : UInt32) (kind : SeatDeviceKind) : Option Session :=
  (recreateChild p s guestId seatGuestId none kind.requestName fun hostId _ => [.newId hostId]).session

def recreateFractionalScale (p : Protocol) (s : Session) (guestId managerGuestId surfaceGuestId : UInt32) :
    Option Session :=
  (recreateChild p s guestId managerGuestId (some surfaceGuestId) "get_fractional_scale" fun hostId surfaceHostId =>
    [.newId hostId, .object surfaceHostId]).session

def recreateViewport (p : Protocol) (s : Session) (guestId viewporterGuestId surfaceGuestId : UInt32)
    (destination : Option (Int32 × Int32)) : Option Session :=
  match recreateChild p s guestId viewporterGuestId (some surfaceGuestId) "get_viewport" fun hostId surfaceHostId =>
    [.newId hostId, .object surfaceHostId] with
  | .recreated child =>
      match destination with
      | none => some child.session
      | some (width, height) =>
          some (replayRequest p child.session guestId child.hostId child.interface "set_destination"
            [.int width, .int height]).2
  | other => other.session

def planeValues (plane : DmabufPlane) : List WaylandValue :=
  [.fd plane.fd, .uint plane.planeIdx, .uint plane.offset, .uint plane.stride,
    .uint (plane.modifier >>> 32).toUInt32, .uint plane.modifier.toUInt32]

def addPlanes (p : Protocol) (s : Session) (guestId paramsHostId : UInt32) (params : Interface) :
    List DmabufPlane → Bool × Session
  | [] => (true, s)
  | plane :: rest =>
      match replayRequest p s guestId paramsHostId params "add" (planeValues plane) with
      | (true, written) => addPlanes p written guestId paramsHostId params rest
      | (false, failed) => (false, failed)

-- The params object is asked for, filled and used up without ever being mapped.
def recreateDmabufBuffer (p : Protocol) (s : Session) (guestId dmabufGuestId : UInt32) (width height : Int32)
    (format flags : UInt32) (planes : List DmabufPlane) : Option Session :=
  match s.objects.interface dmabufGuestId, s.objects.hostId dmabufGuestId with
  | some dmabuf, some dmabufHostId =>
      match requestChild p s guestId dmabuf dmabufHostId "create_params" fun hostId => [.newId hostId] with
      | .recreated params =>
          if requestOpcode p params.interface "add" = none then some params.session
          else
            match addPlanes p params.session guestId params.hostId params.interface planes with
            | (false, failed) => some failed
            | (true, added) =>
                match requestChild p added guestId params.interface params.hostId "create_immed" fun hostId =>
                  [.newId hostId, .int width, .int height, .uint format, .uint flags] with
                | .recreated buffer => some (mapRecreated guestId buffer)
                | other => other.session
      | other => other.session
  | _, _ => some s

-- A toplevel as its configure handshake sees it.
structure Handshake where
  guestId : UInt32
  hostId : UInt32
  interface : Interface
  xdgSurfaceGuestId : UInt32
  xdgSurfaceHostId : UInt32
  xdgSurface : Interface

def sendInitialCommit (p : Protocol) (s : Session) (guestId xdgSurfaceGuestId : UInt32) : Bool × Session :=
  match s.graph.recipeFor xdgSurfaceGuestId with
  | some (.xdgSurface _ surfaceGuestId) =>
      match s.objects.hostId surfaceGuestId, s.objects.interface surfaceGuestId with
      | some surfaceHostId, some surface =>
          match requestOpcode p surface "commit" with
          | none => (false, s)
          | some opcode => s.writeMessage .host (.replayed guestId) surface (buildMessage surfaceHostId opcode []) []
      | _, _ => (false, s)
  | _ => (false, s)

def replayString (p : Protocol) (s : Session) (guestId hostId : UInt32) (interface : Interface) (request : String) :
    Option String → Session
  | none => s
  | some text => (replayRequest p s guestId hostId interface request [.string text]).2

-- A committed toplevel is followed by its configure handshake.
def recreateXdgToplevel (p : Protocol) (s : Session) (guestId parentGuestId : UInt32) (title appId : Option String) :
    Option (Session × Option Handshake) :=
  match recreateChild p s guestId parentGuestId none "get_toplevel" fun hostId _ => [.newId hostId] with
  | .recreated child =>
      let titled := replayString p child.session guestId child.hostId child.interface "set_title" title
      let named := replayString p titled guestId child.hostId child.interface "set_app_id" appId
      match sendInitialCommit p named guestId parentGuestId with
      | (false, s) => some (s, none)
      | (true, s) =>
          some (s, some ⟨guestId, child.hostId, child.interface, parentGuestId, child.parentHostId, child.parent⟩)
  | other => other.session.map fun s => (s, none)

def replayRecipe (p : Protocol) (globals : Globals) (registry : Interface) (registryHostId : UInt32) (s : Session)
    (guestId : UInt32) : Recreatable → Option (Session × Option Handshake)
  | .global interface version =>
      (recreateGlobal p globals registry registryHostId s guestId interface version).map fun s => (s, none)
  | .surface parent => (recreateSurface p s guestId parent).map fun s => (s, none)
  | .xdgSurface parent surface => (recreateXdgSurface p s guestId parent surface).map fun s => (s, none)
  | .xdgToplevel parent title appId => recreateXdgToplevel p s guestId parent title appId
  | .shmPool wlShm fd size => (recreateShmPool p s guestId wlShm fd size).map fun s => (s, none)
  | .shmBuffer pool offset width height stride format =>
      (recreateShmBuffer p s guestId pool offset width height stride format).map fun s => (s, none)
  | .dmabufBuffer dmabuf width height format flags planes =>
      (recreateDmabufBuffer p s guestId dmabuf width height format flags planes).map fun s => (s, none)
  | .seatDevice seat kind => (recreateSeatDevice p s guestId seat kind).map fun s => (s, none)
  | .viewport viewporter surface destination =>
      (recreateViewport p s guestId viewporter surface destination).map fun s => (s, none)
  | .fractionalScale manager surface => (recreateFractionalScale p s guestId manager surface).map fun s => (s, none)

-- Two writes at once: get_registry has opcode 1 and sync opcode 0. The registry
-- takes the place of the client's own.
def askForGlobals (s : Session) (registryGuestId : UInt32) : Bool × Session :=
  let (registryHostId, allocated) := s.objects.allocateHostId
  let (syncHostId, objects) := allocated.allocateHostId
  match { s with objects := objects }.writeMessage .host (.replayed registryGuestId) wlDisplay
      (buildMessage 1 1 (putU32 [] registryHostId)) [] with
  | (false, failed) => (false, failed)
  | (true, asked) => asked.writeMessage .host .own wlDisplay (buildMessage 1 0 (putU32 [] syncHostId)) []

def releaseInFlight (p : Protocol) (s : Session) (bufferGuestId : UInt32) : Session :=
  match s.objects.interface bufferGuestId, s.objects.hostId bufferGuestId with
  | some interface, some _ => tellClient p s bufferGuestId interface "release" []
  | _, _ => s

def drainInFlight (p : Protocol) (order : HashOrder) (s : Session) : Session :=
  let (buffers, bufferFlow) := s.bufferFlow.drainInFlight order
  buffers.foldl (releaseInFlight p) { s with bufferFlow := bufferFlow }

def drainAwaitingDone (p : Protocol) (order : HashOrder) (s : Session) : Session :=
  let (callbacks, pendingFrames) := s.pendingFrames.drainAwaitingDone order
  callbacks.foldl (synthesizeFrameDone p) { s with pendingFrames := pendingFrames }

def settleRecovery (p : Protocol) (order : HashOrder) (globals : Globals) (s : Session) : Session :=
  let settled := drainAwaitingDone p order (drainInFlight p order s)
  { settled with reclaim := { settled.reclaim with
    pending := true
    dataDeviceManagerGlobal := globals.lookup "wl_data_device_manager" } }

-- Serials count up over all the synthesized events.
def grabEvent (p : Protocol) (guestId : UInt32) (interface : Interface) (event : String) (rest : Bytes)
    (st : UInt32 × Session) : UInt32 × Session :=
  if eventOpcode p interface event = none then st
  else (st.1 + 1, tellClient p st.2 guestId interface event (putU32 [] st.1 ++ rest))

def releasePointerGrab (p : Protocol) (st : UInt32 × Session) (grab : UInt32 × Option UInt32 × List UInt32) :
    UInt32 × Session :=
  match st.2.objects.interface grab.1 with
  | none => st
  | some interface =>
      let left := match grab.2.1 with
        | none => st
        | some surface => grabEvent p grab.1 interface "leave" (putU32 [] surface) st
      grab.2.2.foldl (fun st button =>
        grabEvent p grab.1 interface "button" (putU32 (putU32 (putU32 [] 0) button) 0) st) left

def releaseKeyboardGrab (p : Protocol) (st : UInt32 × Session) (grab : UInt32 × UInt32) : UInt32 × Session :=
  match st.2.objects.interface grab.1 with
  | none => st
  | some interface => grabEvent p grab.1 interface "leave" (putU32 [] grab.2) st

def synthesizeGrabReleases (p : Protocol) (order : HashOrder) (s : Session) : Session :=
  let pointers := (s.grabs.activePointerGrabs order).foldl (releasePointerGrab p) (1, s)
  let keyboards := (s.grabs.activeKeyboardGrabs order).foldl (releaseKeyboardGrab p) pointers
  { keyboards.2 with grabs := keyboards.2.grabs.clear }

end WlResprox
