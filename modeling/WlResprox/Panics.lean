import WlResprox.Fidelity
import WlResprox.Checks

set_option autoImplicit false

namespace WlResprox

-- The relay once more, with every operation that can panic.
namespace Checked

def parse (buf : Bytes) : Except Panic (Option MessageHeader) :=
  if buf.length < headerLen then .ok none
  else do
    let senderId ← readWord buf 0 4
    let word2 ← readWord buf 4 8
    .ok (some ⟨senderId, word2.toUInt16, (word2 >>> 16).toUInt16⟩)

def takeMessage (buf : Bytes) : Except Panic (Option (Bytes × Nat)) := do
  match ← parse buf with
  | none => .ok none
  | some header =>
      let len := header.messageLen
      if len < headerLen ∨ buf.length < len then .ok none
      else do
        let msg ← sliced buf 0 len
        .ok (some (msg, len))

def readU32 (payload : Bytes) (offset : Nat) : Except Panic (Option UInt32) := do
  let stop ← summed offset 4
  .ok (if stop ≤ payload.length then wordOf (slice payload offset stop) else none)

def readStr (payload : Bytes) (offset : Nat) : Except Panic (Option (String × Nat)) := do
  match ← readU32 payload offset with
  | none => .ok none
  | some word =>
      let len := word.toNat
      let start ← summed offset 4
      let stop ← summed start len
      if stop ≤ payload.length then do
        let content ← sliced (slice payload start stop) 0 (len - 1)
        match fromUtf8 content with
        | none => .ok none
        | some s =>
            let padded ← nextMultiple len
            let past ← summed start padded
            .ok (some (s, past))
      else .ok none

def putStr (buf : Bytes) (s : String) : Except Panic Bytes := do
  let withNulLen ← summed (asBytes s).length 1
  let padded ← nextMultiple withNulLen
  .ok (putU32 buf (UInt32.ofNat withNulLen) ++ asBytes s ++ [0] ++ List.replicate (padded - withNulLen) 0)

def buildMessage (senderId : UInt32) (opcode : UInt16) (payload : Bytes) : Except Panic Bytes := do
  let total ← summed headerLen payload.length
  let length := UInt16.ofNat total
  .ok (putU32 (putU32 [] senderId) ((length.toUInt32 <<< 16) ||| opcode.toUInt32) ++ payload)

def writeSenderId (msg : Bytes) (newId : UInt32) : Except Panic Bytes :=
  if 4 ≤ msg.length then copied msg 0 4 (toNeBytes newId) else .error .unwrap

-- Words and lengths of a walk are added with checked_add, so only what a string
-- or an array reads can panic.
def walkArgument (payload : Bytes) (st : WalkState) (argType : ArgumentType) : Except Panic (Except String WalkState) :=
  match argType with
  | .str | .array =>
      match advance payload st.offset 4 with
      | .error e => .ok (.error e)
      | .ok lenEnd => do
          let word ← readWord payload st.offset lenEnd
          let len := word.toNat
          let padded ← nextMultiple len
          match advance payload lenEnd padded with
          | .error e => .ok (.error e)
          | .ok dataEnd =>
              if argType = .str ∧ st.walk.dynamicInterfaceName = none ∧ 0 < len then do
                let past ← summed lenEnd len
                let stop ← lessened past 1
                let content ← sliced payload lenEnd stop
                .ok (.ok ⟨dataEnd, { st.walk with dynamicInterfaceName := fromUtf8 content }⟩)
              else .ok (.ok { st with offset := dataEnd })
  | .fd => do
      let fdCount ← summed st.walk.fdCount 1
      .ok (.ok { st with walk := { st.walk with fdCount := fdCount } })
  | plain => .ok (WlResprox.walkArgument payload st plain)

def walkFrom (payload : Bytes) (st : WalkState) : List ArgumentType → Except Panic (Except String WalkState)
  | [] => .ok (.ok st)
  | argType :: rest => do
      match ← walkArgument payload st argType with
      | .error e => .ok (.error e)
      | .ok next => walkFrom payload next rest

def walkSignature (payload : Bytes) (signature : List ArgumentType) : Except Panic (Except String SignatureWalk) := do
  let walked ← walkFrom payload ⟨0, ⟨none, [], 0, none⟩⟩ signature
  .ok (walked.map WalkState.walk)

def allocateHostId (t : ShadowTable) : Except Panic (UInt32 × ShadowTable) :=
  if t.nextHostId = 0xffffffff then .error .counter else .ok t.allocateHostId

def unallocateHostId (t : ShadowTable) (id : UInt32) : Except Panic ShadowTable :=
  if t.nextHostId = 0 then .error .overflow else .ok (t.unallocateHostId id)

def allocateGuestServerId (t : ShadowTable) : Except Panic (UInt32 × ShadowTable) :=
  if t.nextGuestServerId = 0xffffffff then .error .counter else .ok t.allocateGuestServerId

def tellClient (p : Protocol) (s : Session) (guestId : UInt32) (interface : Interface) (event : String) (payload : Bytes) :
    Except Panic Session :=
  match eventOpcode p interface event with
  | none => .ok s
  | some opcode => do
      let msg ← buildMessage guestId opcode payload
      .ok (s.writeMessage .gtk .own interface msg []).2

def synthesizeDeleteId (p : Protocol) (s : Session) (guestId : UInt32) : Except Panic Session :=
  match s.objects.interface 1 with
  | none => .ok s
  | some display => tellClient p s 1 display "delete_id" (putU32 [] guestId)

def synthesizeFrameDone (p : Protocol) (s : Session) (callbackGuestId : UInt32) : Except Panic Session :=
  match s.objects.interface callbackGuestId with
  | none => .ok s
  | some callback => do
      let done ← tellClient p s callbackGuestId callback "done" (putU32 [] 0)
      synthesizeDeleteId p done callbackGuestId

def createOwnObject (s : Session) (interface : Interface) (senderHostId : UInt32) (opcode : UInt16)
    (payload : UInt32 → Except Panic Bytes) : Except Panic (Option UInt32 × Session) := do
  let (hostId, objects) ← allocateHostId s.objects
  let body ← payload hostId
  let msg ← buildMessage senderHostId opcode body
  match { s with objects := objects }.writeMessage .host .own interface msg [] with
  | (true, written) => .ok (some hostId, written)
  | (false, failed) => do
      let objects ← unallocateHostId failed.objects hostId
      .ok (none, { failed with objects := objects })

def offerMimeTypes (s : Session) (sourceHostId : UInt32) : List String → Except Panic (Bool × Session)
  | [] => .ok (true, s)
  | mimeType :: rest => do
      let payload ← putStr [] mimeType
      let msg ← buildMessage sourceHostId 0 payload
      match s.writeMessage .host .own wlDataSource msg [] with
      | (true, written) => offerMimeTypes written sourceHostId rest
      | (false, failed) => .ok (false, failed)

def bindPayload (name : UInt32) (interface : String) (version hostId : UInt32) : Except Panic Bytes := do
  let payload ← putStr (putU32 [] name) interface
  .ok (putU32 (putU32 payload version) hostId)

def claimSelection (s : Session) (registryHostId seatHostId ddmName ddmVersion serial : UInt32) (mimeTypes : List String) :
    Except Panic Session := do
  match ← createOwnObject s wlRegistry registryHostId 0 (bindPayload ddmName "wl_data_device_manager" ddmVersion) with
  | (none, s) => .ok s
  | (some ddmHostId, s) =>
  match ← createOwnObject s wlDataDeviceManager ddmHostId 0 (fun hostId => .ok (putU32 [] hostId)) with
  | (none, s) => .ok s
  | (some sourceHostId, s) =>
  match ← offerMimeTypes s sourceHostId mimeTypes with
  | (false, s) => .ok s
  | (true, s) =>
  match ← createOwnObject s wlDataDeviceManager ddmHostId 1 (fun hostId => .ok (putU32 (putU32 [] hostId) seatHostId)) with
  | (none, s) => .ok s
  | (some deviceHostId, s) => do
  let msg ← buildMessage deviceHostId 1 (putU32 (putU32 [] sourceHostId) serial)
  match s.writeMessage .host .own wlDataDevice msg [] with
  | (false, s) => .ok s
  | (true, s) => .ok { s with reclaim := { s.reclaim with activeSourceHostId := some sourceHostId } }

def attemptClipboardSplice (ambient : Ambient) (s : Session) (serial : UInt32) : Except Panic Session :=
  let spent := { s with reclaim := { s.reclaim with pending := false } }
  let mimeTypes := s.clipboardCache.cachedMimeTypes ambient.order
  if mimeTypes = [] then .ok spent
  else
    match s.reclaim.dataDeviceManagerGlobal, s.objects.findGuestIdByInterfaceName ambient.order "wl_registry",
      s.objects.findGuestIdByInterfaceName ambient.order "wl_seat" with
    | some (ddmName, ddmVersion), some registryGuestId, some seatGuestId =>
        match s.objects.hostId registryGuestId, s.objects.hostId seatGuestId with
        | some registryHostId, some seatHostId =>
            claimSelection spent registryHostId seatHostId ddmName ddmVersion serial mimeTypes
        | _, _ => .ok spent
    | _, _, _ => .ok spent

def handleSyntheticClipboardEvent (ambient : Ambient) (s : Session) (msg : Bytes) (opcode : UInt16) : Except Panic Session :=
  if opcode = 1 then do
    let payload ← sliced msg headerLen msg.length
    let read ← readStr payload 0
    match s.host.readFds with
    | [] => .ok s
    | fd :: rest =>
        let popped := s.setReadFds .host rest
        match read with
        | none => .ok popped
        | some (mimeType, _) =>
            match s.clipboardCache.get mimeType with
            | none => .ok popped
            | some bytes => .ok (if ambient.pipeWritable then popped.log (.served fd mimeType bytes) else popped)
  else if opcode = 2 then .ok { s with reclaim := { s.reclaim with activeSourceHostId := none } }
  else .ok s

def originals (msg : Bytes) : List Nat → Except Panic (List UInt32)
  | [] => .ok []
  | offset :: rest => do
      let start ← summed headerLen offset
      let stop ← summed start 4
      let value ← readWord msg start stop
      let others ← originals msg rest
      .ok (value :: others)

def translateObjects (objects : ShadowTable) (direction : Direction) : List Nat → Bytes → Except Panic (Option Bytes)
  | [], msg => .ok (some msg)
  | offset :: rest, msg => do
      let start ← summed headerLen offset
      let stop ← summed start 4
      let original ← readWord msg start stop
      match translate objects direction original with
      | none => .ok none
      | some translated => do
          let written ← copied msg start stop (toNeBytes translated)
          translateObjects objects direction rest written

def createObject (objects : ShadowTable) (direction : Direction) (original : UInt32) (child : Interface) :
    Except Panic (Creation × ShadowTable) :=
  match direction with
  | .clientToHost => do
      let (hostNewId, allocated) ← allocateHostId objects
      .ok (⟨original, hostNewId, child⟩, allocated.map original hostNewId child)
  | .hostToClient => do
      let (guestNewId, allocated) ← allocateGuestServerId objects
      .ok (⟨guestNewId, original, child⟩, allocated.map guestNewId original child)

def readBehind (payload : Bytes) (offset distance : Nat) : Except Panic (Option UInt32) := do
  let behind ← summed offset distance
  readU32 payload behind

def shmBufferRecipe (pool : UInt32) (payload : Bytes) (offset : Nat) : Except Panic (Option Recreatable) := do
  match ← readBehind payload offset 4, ← readBehind payload offset 8, ← readBehind payload offset 12,
    ← readBehind payload offset 16, ← readBehind payload offset 20 with
  | some bufOffset, some width, some height, some stride, some format =>
      .ok (some (.shmBuffer pool bufOffset.toInt32 width.toInt32 height.toInt32 stride.toInt32 format))
  | _, _, _, _, _ => .ok none

def dmabufBufferRecipe (params : Option (UInt32 × List DmabufPlane)) (payload : Bytes) (offset : Nat) :
    Except Panic (Option Recreatable) := do
  match ← readBehind payload offset 4, ← readBehind payload offset 8, ← readBehind payload offset 12,
    ← readBehind payload offset 16, params with
  | some width, some height, some format, some flags, some (dmabuf, planes) =>
      .ok (some (.dmabufBuffer dmabuf width.toInt32 height.toInt32 format flags planes))
  | _, _, _, _, _ => .ok none

-- Every other recipe is made of the sender and the arguments read before.
def captureRecipe (p : Protocol) (m : Inbound) (msg : Bytes) (offset : Nat) (created : Creation)
    (planes : HashMap (UInt32 × List DmabufPlane)) :
    Except Panic (Option Recreatable × HashMap (UInt32 × List DmabufPlane)) :=
  if m.isRequest "wl_shm_pool" "create_buffer" then do
    let payload ← sliced msg headerLen msg.length
    let recipe ← shmBufferRecipe m.sender payload offset
    .ok (recipe, planes)
  else if m.isRequest "zwp_linux_buffer_params_v1" "create_immed" then do
    let payload ← sliced msg headerLen msg.length
    let recipe ← dmabufBufferRecipe (planes.lookup m.sender) payload offset
    .ok (recipe, planes.erase m.sender)
  else .ok (WlResprox.captureRecipe p m msg offset created planes)

def introduceObject (p : Protocol) (s : Session) (m : Inbound) (msg : Bytes) :
    Except Panic (Except Session (Option Creation × Session × Bytes)) :=
  match m.walk.newIdOffset with
  | none => .ok (.ok (none, s, msg))
  | some offset => do
      let start ← summed headerLen offset
      let stop ← summed start 4
      let original ← readWord msg start stop
      match resolveChildInterface p m.desc m.walk.dynamicInterfaceName with
      | none =>
          match m.direction, m.walk.dynamicInterfaceName with
          | .clientToHost, some name =>
              .ok (.error { s with objects := s.objects.rememberUnresolvableInterface original name })
          | _, _ => .ok (.error s)
      | some (child, _) => do
          let (created, objects) ← createObject s.objects m.direction original child
          let (recipe, planes) ← captureRecipe p m msg offset created s.pendingDmabufPlanes
          let recorded := { s with
            objects := objects
            graph := recordCaptured s.graph created.guestId recipe
            pendingDmabufPlanes := planes }
          let rewritten ← copied msg start stop (toNeBytes (created.rewritten m.direction))
          .ok (.ok (some created, recorded, rewritten))

-- The display's error is only logged.
def logDisplayError (m : Inbound) (msg : Bytes) : Except Panic Unit :=
  if m.interface.name = "wl_display" ∧ m.desc.name = "error" then do
    let p ← sliced msg headerLen msg.length
    if 12 ≤ p.length then do
      let _ ← readWord p 0 4
      let _ ← readWord p 4 8
      let word ← readWord p 8 12
      if 0 < word.toNat then do
        let past ← summed 12 word.toNat
        let stop ← lessened past 1
        if stop ≤ p.length then do
          let _ ← sliced p 12 stop
          .ok ()
        else .ok ()
      else .ok ()
    else .ok ()
  else .ok ()

def forgetDeleted (s : Session) (m : Inbound) (msg : Bytes) : Except Panic (Option (Session × Bytes)) :=
  if m.interface.name = "wl_display" ∧ m.desc.name = "delete_id" then
    if headerLen + 4 ≤ msg.length then do
      let hostDeletedId ← unwrapped (wordOf (slice msg headerLen (headerLen + 4)))
      match s.objects.guestId hostDeletedId with
      | none => .ok none
      | some guestDeletedId => do
          let renamed ← copied msg headerLen (headerLen + 4) (toNeBytes guestDeletedId)
          .ok (some ({ s with objects := s.objects.removeGuest guestDeletedId, graph := s.graph.remove guestDeletedId }, renamed))
    else .ok (some (s, msg))
  else .ok (some (s, msg))

def observeGrabs (grabs : GrabTracker) (m : Inbound) (payload : Bytes) : Except Panic GrabTracker :=
  if m.isEvent "wl_pointer" "enter" ∧ 8 ≤ payload.length then do
    let surface ← readWord payload 4 8
    .ok (grabs.onPointerEnter m.sender surface)
  else if m.isEvent "wl_pointer" "leave" then .ok (grabs.onPointerLeave m.sender)
  else if m.isEvent "wl_pointer" "button" ∧ 16 ≤ payload.length then do
    let button ← readWord payload 8 12
    let state ← readWord payload 12 16
    .ok (grabs.onPointerButton m.sender button state)
  else if m.isEvent "wl_keyboard" "enter" ∧ 8 ≤ payload.length then do
    let surface ← readWord payload 4 8
    .ok (grabs.onKeyboardEnter m.sender surface)
  else if m.isEvent "wl_keyboard" "leave" then .ok (grabs.onKeyboardLeave m.sender)
  else .ok grabs

def spliceOnInput (ambient : Ambient) (s : Session) (m : Inbound) (payload : Bytes) : Except Panic Session :=
  if s.reclaim.pending && m.carriesInputSerial then do
    match ← readU32 payload 0 with
    | none => .ok s
    | some serial => attemptClipboardSplice ambient s serial
  else .ok s

def updateRecipes (env : Env) (ambient : Ambient) (graph : RecreationGraph) (m : Inbound) (msg : Bytes) :
    Except Panic (RecreationGraph × Bytes) := do
  let payload ← sliced msg headerLen msg.length
  if m.isRequest "wl_shm_pool" "resize" then do
    match ← readU32 payload 0 with
    | none => .ok (graph, msg)
    | some size => .ok (graph.updateShmPoolSize m.sender size.toInt32, msg)
  else if m.isRequest "xdg_toplevel" "set_title" then do
    match ← readStr payload 0 with
    | none => .ok (graph, msg)
    | some (title, _) => .ok (graph.updateToplevelTitle m.sender title, msg)
  else if m.isRequest "xdg_toplevel" "set_app_id" then do
    match ← readStr payload 0 with
    | none => .ok (graph, msg)
    | some (appId, _) =>
        match correctedAppId env ambient appId with
        | none => .ok (graph.updateToplevelAppId m.sender appId, msg)
        | some corrected => do
            let body ← putStr [] corrected
            let rebuilt ← buildMessage m.header.senderId m.header.opcode body
            .ok (graph.updateToplevelAppId m.sender corrected, rebuilt)
  else if m.isRequest "wp_viewport" "set_destination" then do
    match ← readU32 payload 0, ← readU32 payload 4 with
    | some width, some height => .ok (graph.updateViewportDestination m.sender width.toInt32 height.toInt32, msg)
    | _, _ => .ok (graph, msg)
  else .ok (graph, msg)

def substituteTee (ambient : Ambient) (m : Inbound) (payload : Bytes) (fds : List Fd) : Except Panic (List Fd) :=
  if m.isEvent "wl_data_source" "send" then do
    match ← readStr payload 0 with
    | none => .ok fds
    | some (mimeType, _) =>
        if isCacheableMime mimeType then
          match fds.getLast? with
          | none => .ok fds
          | some realFd => .ok (fds.dropLast ++ if ambient.teeSucceeds then [.tee realFd] else [])
        else .ok fds
  else .ok fds

def retainPool (graph : RecreationGraph) (m : Inbound) (payload : Bytes) (created : Option Creation) (fds : List Fd) :
    Except Panic RecreationGraph :=
  if m.isRequest "wl_shm" "create_pool" then
    match created, fds.getLast? with
    | some c, some fd =>
        match m.walk.newIdOffset with
        | none => .ok (graph.record c.guestId (.shmPool m.sender fd 0))
        | some offset => do
            let size ← readBehind payload offset 4
            .ok (graph.record c.guestId (.shmPool m.sender fd (size.getD 0).toInt32))
    | _, _ => .ok graph
  else .ok graph

def planeOf (payload : Bytes) (fd : Fd) : Except Panic (Option DmabufPlane) := do
  match ← readU32 payload 0, ← readU32 payload 4, ← readU32 payload 8, ← readU32 payload 12, ← readU32 payload 16 with
  | some planeIdx, some offset, some stride, some modifierHi, some modifierLo =>
      .ok (some ⟨fd, planeIdx, offset, stride, (modifierHi.toUInt64 <<< 32) ||| modifierLo.toUInt64⟩)
  | _, _, _, _, _ => .ok none

def retainPlane (planes : HashMap (UInt32 × List DmabufPlane)) (m : Inbound) (payload : Bytes) (fds : List Fd) :
    Except Panic (HashMap (UInt32 × List DmabufPlane)) :=
  if m.isRequest "zwp_linux_buffer_params_v1" "add" then
    match fds.getLast? with
    | none => .ok planes
    | some fd => do
        match ← planeOf payload fd, planes.lookup m.sender with
        | some plane, some (dmabuf, gathered) => .ok (planes.insert m.sender (dmabuf, gathered ++ [plane]))
        | _, _ => .ok planes
  else .ok planes

def rollBackCreation (s : Session) (m : Inbound) : Option Creation → Except Panic Session
  | none => .ok s
  | some phantom => do
      let objects ← match m.direction, s.objects.hostId phantom.guestId with
        | .clientToHost, some phantomHostId => unallocateHostId s.objects phantomHostId
        | _, _ => .ok s.objects
      .ok { s with objects := objects.removeGuest phantom.guestId, graph := s.graph.remove phantom.guestId }

def answerStaleSender (p : Protocol) (s : Session) (m : Inbound) (created : Option Creation) : Except Panic Session :=
  if m.direction = .clientToHost ∧ m.desc.isDestructor then do
    let told ← synthesizeDeleteId p s m.sender
    .ok { told with objects := told.objects.removeGuest m.sender, graph := told.graph.remove m.sender }
  else if m.isRequest "wl_surface" "frame" then
    match created with
    | none => .ok s
    | some callback => synthesizeFrameDone p s callback.guestId
  else .ok s

def dropStaleSender (p : Protocol) (s : Session) (m : Inbound) (created : Option Creation) : Except Panic Session := do
  let answered ← answerStaleSender p s m created
  rollBackCreation answered m created

def forward (ambient : Ambient) (s : Session) (m : Inbound) (created : Option Creation) (msg : Bytes) :
    Except Panic (Disposal × Session) := do
  let queued := (s.conn m.direction.src).readFds
  let payload ← sliced msg headerLen msg.length
  let fds ← substituteTee ambient m payload (queued.take m.walk.fdCount)
  let popped := s.setReadFds m.direction.src (queued.drop m.walk.fdCount)
  let passed :=
    if live s m.direction then (popped.writeMessage m.direction.dst .relayed m.interface msg fds).2 else popped
  let graph ← retainPool passed.graph m payload created fds
  let planes ← retainPlane passed.pendingDmabufPlanes m payload fds
  .ok (if live s m.direction then .relayed else .frozen, { passed with graph := graph, pendingDmabufPlanes := planes })

def passOn (env : Env) (ambient : Ambient) (s : Session) (m : Inbound) (created : Option Creation) (msg : Bytes) :
    Except Panic (Disposal × Session) := do
  let payload ← sliced msg headerLen msg.length
  let grabs ← observeGrabs s.grabs m payload
  let observed ← spliceOnInput ambient { s with grabs := grabs } m payload
  let (graph, corrected) ← updateRecipes env ambient observed.graph m msg
  let updated := { observed with graph := graph }
  if staleRelease updated m then .ok (.staleGeneration, updated)
  else
    let noted := observeFlow updated m created
    match otherSideSenderId noted.objects m with
    | none => do
        let dropped ← dropStaleSender env.protocol noted m created
        .ok (.untranslatedSender, dropped)
    | some otherSide => do
        let addressed ← writeSenderId corrected otherSide
        forward ambient noted m created addressed

def relayResolved (env : Env) (ambient : Ambient) (s : Session) (m : Inbound) (msg : Bytes) :
    Except Panic (Disposal × Session) := do
  match ← translateObjects s.objects m.direction m.walk.objectOffsets msg with
  | none => .ok (.untranslatable, s)
  | some translated =>
  match ← introduceObject env.protocol s m translated with
  | .error dropped => .ok (.unresolvableChild, dropped)
  | .ok (created, introduced, rewritten) => do
  logDisplayError m rewritten
  match ← forgetDeleted introduced m rewritten with
  | none => .ok (.untrackedDeleteId, introduced)
  | some (forgotten, renamed) => passOn env ambient forgotten m created renamed

def relayMessage (env : Env) (ambient : Ambient) (direction : Direction) (s : Session) (header : MessageHeader) (msg : Bytes)
    (consumed : Nat) : Except Panic (Disposal × Session) :=
  if intercepts s direction header then do
    let served ← handleSyntheticClipboardEvent ambient s msg header.opcode
    .ok (.intercepted, served)
  else
    match resolveSender env.protocol s.objects direction header with
    | none => do
        let _ ← sliced (s.conn direction.src).readBuf 0 consumed
        .ok (.unknown, s)
    | some (sender, interface, desc) => do
        let payload ← sliced msg headerLen msg.length
        match ← walkSignature payload desc.signature with
        | .error _ => .ok (.parseError, s)
        | .ok walk => do
            let values ← originals msg walk.objectOffsets
            relayResolved env ambient s ⟨direction, header, sender, interface, desc, walk, values⟩ msg

def relayTurn (env : Env) (ambient : Ambient) (direction : Direction) (s : Session) :
    Except Panic (Option (Disposal × Session)) := do
  match ← takeMessage (s.conn direction.src).readBuf with
  | none => .ok none
  | some (_, consumed) => do
      let msg ← sliced (s.conn direction.src).readBuf 0 consumed
      let parsed ← parse msg
      let header ← unwrapped parsed
      let (disposal, next) ← relayMessage env ambient direction (s.log (.took direction.src msg)) header msg consumed
      -- What is drained has to be there still.
      let _ ← sliced (next.conn direction.src).readBuf 0 consumed
      .ok (some (disposal, next.drainBuf direction.src consumed))

def relayTurns (env : Env) (ambient : Ambient) (direction : Direction) : Nat → Session → Except Panic Session
  | 0, s => .ok s
  | turns + 1, s => do
      match ← relayTurn env ambient direction s with
      | none => .ok s
      | some (_, next) => relayTurns env ambient direction turns next

def relayReadyMessages (env : Env) (ambient : Ambient) (direction : Direction) (s : Session) : Except Panic Session :=
  relayTurns env ambient direction (s.conn direction.src).readBuf.length s

end Checked

theorem parse_checked (buf : Bytes) : Checked.parse buf = .ok (MessageHeader.parse buf) := by
  unfold Checked.parse MessageHeader.parse
  split
  · rfl
  · rename_i long
    have whole : 8 ≤ buf.length := by
      simp only [headerLen] at long
      omega
    rw [read_word_ok buf 0 (by omega), ok_bind, read_word_ok buf 4 whole, ok_bind]

theorem take_message_checked (buf : Bytes) : Checked.takeMessage buf = .ok (takeMessage buf) := by
  rw [Checked.takeMessage, parse_checked, ok_bind, takeMessage]
  cases MessageHeader.parse buf with
  | none => rfl
  | some header =>
    dsimp only
    split
    · rfl
    · rename_i inside
      rw [sliced_ok _ _ _ (Nat.zero_le _) (by omega), ok_bind]
      rfl

theorem read_u32_checked (payload : Bytes) (offset : Nat) (fits : offset + 4 < 2 ^ 64) :
    Checked.readU32 payload offset = .ok (readU32 payload offset) := by
  rw [Checked.readU32, summed_ok _ _ fits, ok_bind, readU32]
  split
  · rename_i inside
    rw [word_of_slice _ _ inside]
  · rfl

theorem read_str_checked (payload : Bytes) (offset : Nat) (fits : offset + 2 ^ 33 < 2 ^ 64) :
    Checked.readStr payload offset = .ok (readStr payload offset) := by
  rw [Checked.readStr, read_u32_checked _ _ (by omega), ok_bind, readStr]
  cases readU32 payload offset with
  | none => rfl
  | some word =>
      have small := word.toNat_lt
      simp only [summed_ok offset 4 (by omega), ok_bind, summed_ok (offset + 4) word.toNat (by omega)]
      split
      · rename_i inside
        have whole : (slice payload (offset + 4) (offset + 4 + word.toNat)).length = word.toNat := by
          rw [slice_length]
          omega
        have content : slice (slice payload (offset + 4) (offset + 4 + word.toNat)) 0 (word.toNat - 1) =
            slice payload (offset + 4) (offset + 4 + (word.toNat - 1)) := by
          simp only [slice, Nat.sub_zero, List.drop_zero, List.take_take]
          congr 1
          omega
        rw [sliced_ok _ _ _ (Nat.zero_le _) (by rw [whole]; omega), ok_bind, content]
        cases fromUtf8 (slice payload (offset + 4) (offset + 4 + (word.toNat - 1))) with
        | none => rfl
        | some s =>
            have padded : nextMultipleOf4 word.toNat < 2 ^ 32 + 4 := by
              simp only [nextMultipleOf4]
              omega
            simp only [next_multiple_ok word.toNat (by omega), ok_bind, summed_ok (offset + 4) (nextMultipleOf4 word.toNat) (by omega),
              Option.map_some]
      · rfl

-- A string that is in memory, and a payload made of it.
theorem put_str_checked (buf : Bytes) (s : String) (fits : (asBytes s).length + 4 < 2 ^ 64) :
    Checked.putStr buf s = .ok (putStr buf s) := by
  rw [Checked.putStr, summed_ok _ _ (by omega), ok_bind, next_multiple_ok _ (by omega), ok_bind, putStr]

theorem build_message_checked (senderId : UInt32) (opcode : UInt16) (payload : Bytes) (fits : headerLen + payload.length < 2 ^ 64) :
    Checked.buildMessage senderId opcode payload = .ok (buildMessage senderId opcode payload) := by
  rw [Checked.buildMessage, summed_ok _ _ fits, ok_bind, buildMessage]

theorem write_sender_id_checked (msg : Bytes) (newId : UInt32) (fits : headerLen ≤ msg.length) :
    Checked.writeSenderId msg newId = .ok (writeSenderId msg newId) := by
  have word : 0 + 4 ≤ msg.length := by
    simp only [headerLen] at fits
    omega
  rw [Checked.writeSenderId, if_pos word]
  exact copied_word_ok msg 0 newId word

theorem walk_argument_checked (payload : Bytes) (st : WalkState) (argType : ArgumentType) (fits : payload.length < 2 ^ 63)
    (few : st.walk.fdCount + 1 < 2 ^ 64) : Checked.walkArgument payload st argType = .ok (walkArgument payload st argType) := by
  cases argType with
  | int | uint | fixed | object | newId => rfl
  | str | array =>
      simp only [Checked.walkArgument, walkArgument]
      cases length : advance payload st.offset 4 with
      | error e => rfl
      | ok lenEnd =>
          obtain ⟨rfl, word⟩ := advance_ok _ _ _ _ length
          have small := (wordAt payload st.offset).toNat_lt
          simp only [read_word_ok _ _ word, ok_bind, next_multiple_ok (wordAt payload st.offset).toNat (by omega)]
          cases data : advance payload (st.offset + 4) (nextMultipleOf4 (wordAt payload st.offset).toNat) with
          | error e => rfl
          | ok dataEnd =>
              obtain ⟨rfl, inside⟩ := advance_ok _ _ _ _ data
              have padded : (wordAt payload st.offset).toNat ≤ nextMultipleOf4 (wordAt payload st.offset).toNat := by
                simp only [nextMultipleOf4]
                omega
              dsimp only
              split
              · rename_i naming
                rw [summed_ok _ _ (by omega), ok_bind, lessened_ok _ _ (by omega), ok_bind, sliced_ok _ _ _ (by omega) (by omega),
                  ok_bind]
              · rfl
  | fd => rw [Checked.walkArgument, summed_ok _ _ few, ok_bind, walkArgument]

theorem walk_from_checked (payload : Bytes) (signature : List ArgumentType) (st : WalkState) (fits : payload.length < 2 ^ 63)
    (few : st.walk.fdCount + signature.length < 2 ^ 64) :
    Checked.walkFrom payload st signature = .ok (walkFrom payload st signature) := by
  induction signature generalizing st with
  | nil => rfl
  | cons argType rest ih =>
      rw [List.length_cons] at few
      rw [Checked.walkFrom, walk_argument_checked payload st argType fits (by omega), ok_bind, walkFrom, List.foldlM_cons]
      cases strode : walkArgument payload st argType with
      | error e => rfl
      | ok next =>
          have counted := (walk_argument_strides payload st next argType strode).fdCount
          have one := List.count_le_length (l := [argType]) (a := ArgumentType.fd)
          rw [List.length_singleton] at one
          exact ih next (by omega)

theorem walk_signature_checked (payload : Bytes) (signature : List ArgumentType) (fits : payload.length < 2 ^ 63)
    (few : signature.length < 2 ^ 64) : Checked.walkSignature payload signature = .ok (walkSignature payload signature) := by
  rw [Checked.walkSignature, walk_from_checked payload signature _ fits (by simpa using few), ok_bind, walkSignature]

theorem allocate_host_id_spared (t : ShadowTable) : Spared (Checked.allocateHostId t) t.allocateHostId := by
  unfold Checked.allocateHostId
  split
  · exact .inr rfl
  · exact .inl rfl

theorem allocate_guest_server_id_spared (t : ShadowTable) : Spared (Checked.allocateGuestServerId t) t.allocateGuestServerId := by
  unfold Checked.allocateGuestServerId
  split
  · exact .inr rfl
  · exact .inl rfl

theorem unallocate_host_id_checked (t : ShadowTable) (id : UInt32) (counted : t.nextHostId ≠ 0) :
    Checked.unallocateHostId t id = .ok (t.unallocateHostId id) := if_neg counted

-- What an allocation that did not overflow leaves can be given back.
theorem allocated_counts (t : ShadowTable) (below : t.nextHostId ≠ 0xffffffff) : t.allocateHostId.2.nextHostId ≠ 0 := by
  intro wrapped
  have sum : (t.nextHostId + 1).toNat = 0 := by
    show (t.allocateHostId.2.nextHostId).toNat = 0
    rw [wrapped]
    rfl
  have bound := t.nextHostId.toNat_lt
  have last : t.nextHostId.toNat ≠ 0xffffffff := fun same => below (UInt32.toNat_inj.mp same)
  rw [UInt32.toNat_add] at sum
  simp at sum
  omega

theorem tell_client_checked (p : Protocol) (s : Session) (guestId : UInt32) (interface : Interface) (event : String)
    (payload : Bytes) (short : payload.length < 2 ^ 32) :
    Checked.tellClient p s guestId interface event payload = .ok (tellClient p s guestId interface event payload) := by
  unfold Checked.tellClient tellClient
  cases eventOpcode p interface event with
  | none => rfl
  | some opcode => simp only [build_message_checked guestId opcode payload (by simp only [headerLen]; omega), ok_bind]

theorem synthesize_delete_id_checked (p : Protocol) (s : Session) (guestId : UInt32) :
    Checked.synthesizeDeleteId p s guestId = .ok (synthesizeDeleteId p s guestId) := by
  unfold Checked.synthesizeDeleteId synthesizeDeleteId
  cases s.objects.interface 1 with
  | none => rfl
  | some display => exact tell_client_checked p s 1 display "delete_id" _ (by simp [putU32])

theorem synthesize_frame_done_checked (p : Protocol) (s : Session) (callback : UInt32) :
    Checked.synthesizeFrameDone p s callback = .ok (synthesizeFrameDone p s callback) := by
  unfold Checked.synthesizeFrameDone synthesizeFrameDone
  cases s.objects.interface callback with
  | none => rfl
  | some interface =>
      simp only [tell_client_checked p s callback interface "done" (putU32 [] 0) (by simp [putU32]), ok_bind,
        synthesize_delete_id_checked]

theorem create_own_object_spared (s : Session) (interface : Interface) (sender : UInt32) (opcode : UInt16)
    (checked : UInt32 → Except Panic Bytes) (payload : UInt32 → Bytes) (same : ∀ hostId, checked hostId = .ok (payload hostId))
    (short : ∀ hostId, (payload hostId).length < 2 ^ 32) :
    Spared (Checked.createOwnObject s interface sender opcode checked) (createOwnObject s interface sender opcode payload) := by
  unfold Checked.createOwnObject Checked.allocateHostId
  split
  · exact .inr rfl
  · rename_i below
    refine .ok ?_
    simp only [ok_bind, same, build_message_checked sender opcode (payload s.objects.allocateHostId.1)
      (by have bound := short s.objects.allocateHostId.1; simp only [headerLen]; omega), createOwnObject]
    rcases wrote : Session.writeMessage { s with objects := s.objects.allocateHostId.2 } .host .own interface
      (buildMessage sender opcode (payload s.objects.allocateHostId.1)) [] with ⟨_ | _, written⟩
    · have kept : written.objects = s.objects.allocateHostId.2 := congrArg (fun done => done.2.objects) wrote.symm
      have counted : written.objects.nextHostId ≠ 0 := by
        rw [kept]
        exact allocated_counts s.objects below
      simp only [unallocate_host_id_checked _ _ counted, ok_bind]
    · rfl

theorem offer_mime_types_checked (s : Session) (source : UInt32) (mimeTypes : List String)
    (fit : ∀ mimeType ∈ mimeTypes, (asBytes mimeType).length < 2 ^ 63) :
    Checked.offerMimeTypes s source mimeTypes = .ok (offerMimeTypes s source mimeTypes) := by
  induction mimeTypes generalizing s with
  | nil => rfl
  | cons mimeType rest ih =>
      have here := fit mimeType List.mem_cons_self
      have short : headerLen + (putStr [] mimeType).length < 2 ^ 64 := by
        simp only [put_str_length, headerLen, nextMultipleOf4, List.length_nil]
        omega
      simp only [Checked.offerMimeTypes, put_str_checked [] mimeType (by omega), ok_bind, build_message_checked source 0 _ short,
        offerMimeTypes]
      rcases s.writeMessage .host .own wlDataSource (buildMessage source 0 (putStr [] mimeType)) [] with ⟨_ | _, written⟩
      · rfl
      · exact ih written fun other member => fit other (List.mem_cons_of_mem _ member)

theorem claim_selection_spared (s : Session) (registry seat name version serial : UInt32) (mimeTypes : List String)
    (fit : ∀ mimeType ∈ mimeTypes, (asBytes mimeType).length < 2 ^ 63) :
    Spared (Checked.claimSelection s registry seat name version serial mimeTypes)
      (claimSelection s registry seat name version serial mimeTypes) := by
  have manager : (asBytes "wl_data_device_manager").length = 22 := by decide
  have bound : ∀ hostId, Checked.bindPayload name "wl_data_device_manager" version hostId =
      .ok (bindPayload name "wl_data_device_manager" version hostId) := fun hostId => by
    rw [Checked.bindPayload, put_str_checked _ _ (by rw [manager]; omega), ok_bind, bindPayload]
  have short : ∀ hostId, (bindPayload name "wl_data_device_manager" version hostId).length < 2 ^ 32 := fun hostId => by
    simp [bindPayload, putU32, put_str_length, manager, nextMultipleOf4]
  unfold Checked.claimSelection claimSelection
  refine .bind (create_own_object_spared s _ registry 0 _ _ bound short) ?_
  rcases createOwnObject s wlRegistry registry 0 (bindPayload name "wl_data_device_manager" version) with ⟨_ | manager, s⟩
  · exact .ok rfl
  dsimp only
  refine .bind (create_own_object_spared s _ manager 0 _ (putU32 []) (fun _ => rfl) (by simp [putU32])) ?_
  rcases createOwnObject s wlDataDeviceManager manager 0 (putU32 []) with ⟨_ | source, s⟩
  · exact .ok rfl
  dsimp only
  refine .bind (.ok (offer_mime_types_checked s source mimeTypes fit)) ?_
  rcases offerMimeTypes s source mimeTypes with ⟨_ | _, s⟩
  · exact .ok rfl
  dsimp only
  refine .bind (create_own_object_spared s _ manager 1 _ (fun hostId => putU32 (putU32 [] hostId) seat) (fun _ => rfl)
    (by simp [putU32])) ?_
  rcases createOwnObject s wlDataDeviceManager manager 1 (fun hostId => putU32 (putU32 [] hostId) seat) with ⟨_ | device, s⟩
  · exact .ok rfl
  dsimp only
  rw [build_message_checked _ _ _ (by simp [putU32, headerLen]), ok_bind]
  rcases s.writeMessage .host .own wlDataDevice (buildMessage device 1 (putU32 (putU32 [] source) serial)) [] with ⟨_ | _, s⟩
  · exact .ok rfl
  · exact .ok rfl

theorem attempt_clipboard_splice_spared (ambient : Ambient) (s : Session) (serial : UInt32)
    (fit : ∀ mimeType ∈ s.clipboardCache.cachedMimeTypes ambient.order, (asBytes mimeType).length < 2 ^ 63) :
    Spared (Checked.attemptClipboardSplice ambient s serial) (attemptClipboardSplice ambient s serial) := by
  unfold Checked.attemptClipboardSplice attemptClipboardSplice
  refine .ite (fun _ => .ok rfl) fun _ => ?_
  rcases s.reclaim.dataDeviceManagerGlobal with _ | ⟨name, version⟩
  · exact .ok rfl
  rcases s.objects.findGuestIdByInterfaceName ambient.order "wl_registry" with _ | registry
  · exact .ok rfl
  rcases s.objects.findGuestIdByInterfaceName ambient.order "wl_seat" with _ | seat
  · exact .ok rfl
  dsimp only
  rcases s.objects.hostId registry with _ | registryHost
  · exact .ok rfl
  rcases s.objects.hostId seat with _ | seatHost
  · exact .ok rfl
  exact claim_selection_spared _ _ _ _ _ _ _ fit

theorem handle_synthetic_clipboard_event_checked (ambient : Ambient) (s : Session) (msg : Bytes) (opcode : UInt16)
    (long : headerLen ≤ msg.length) : Checked.handleSyntheticClipboardEvent ambient s msg opcode =
      .ok (handleSyntheticClipboardEvent ambient s msg opcode) := by
  unfold Checked.handleSyntheticClipboardEvent handleSyntheticClipboardEvent
  split
  · rw [sliced_rest_ok _ _ long, ok_bind, read_str_checked _ _ (by omega), ok_bind]
    rcases s.host.readFds with _ | ⟨fd, rest⟩
    · rfl
    dsimp only
    rcases readStr (msg.drop headerLen) 0 with _ | ⟨mimeType, past⟩
    · rfl
    dsimp only
    rcases s.clipboardCache.get mimeType with _ | bytes
    · rfl
    · rfl
  · split
    · rfl
    · rfl

-- Every word of a message lies inside it, and its offset is far from 2^64.
theorem word_bounds {msg : Bytes} {offset : Nat} (short : msg.length < 2 ^ 16) (fits : headerLen + offset + 4 ≤ msg.length) :
    summed headerLen offset = .ok (headerLen + offset) ∧
      summed (headerLen + offset) 4 = .ok (headerLen + offset + 4) :=
  ⟨summed_ok _ _ (by omega), summed_ok _ _ (by omega)⟩

theorem originals_checked (msg : Bytes) (offsets : List Nat) (short : msg.length < 2 ^ 16)
    (fits : ∀ offset ∈ offsets, headerLen + offset + 4 ≤ msg.length) :
    Checked.originals msg offsets = .ok (offsets.map fun offset => wordAt msg (headerLen + offset)) := by
  induction offsets with
  | nil => rfl
  | cons offset rest ih =>
      have here := fits offset List.mem_cons_self
      obtain ⟨start, stop⟩ := word_bounds short here
      simp only [Checked.originals, start, ok_bind, stop, read_word_ok _ _ here,
        ih fun other member => fits other (List.mem_cons_of_mem _ member), List.map_cons]

theorem translate_objects_checked (objects : ShadowTable) (direction : Direction) (offsets : List Nat) (msg : Bytes)
    (short : msg.length < 2 ^ 16) (fits : ∀ offset ∈ offsets, headerLen + offset + 4 ≤ msg.length) :
    Checked.translateObjects objects direction offsets msg = .ok (translateObjects objects direction offsets msg) := by
  induction offsets generalizing msg with
  | nil => rfl
  | cons offset rest ih =>
      have here := fits offset List.mem_cons_self
      obtain ⟨start, stop⟩ := word_bounds short here
      simp only [Checked.translateObjects, start, ok_bind, stop, read_word_ok _ _ here, translateObjects]
      cases translate objects direction (wordAt msg (headerLen + offset)) with
      | none => rfl
      | some translated =>
          simp only [copied_word_ok _ _ _ here, ok_bind]
          refine ih _ ?_ fun other member => ?_
          · rw [set_word_length _ _ _ here]
            exact short
          · rw [set_word_length _ _ _ here]
            exact fits other (List.mem_cons_of_mem _ member)

theorem create_object_spared (objects : ShadowTable) (direction : Direction) (original : UInt32) (child : Interface) :
    Spared (Checked.createObject objects direction original child) (createObject objects direction original child) := by
  cases direction with
  | clientToHost => exact .bind (allocate_host_id_spared objects) (.ok rfl)
  | hostToClient => exact .bind (allocate_guest_server_id_spared objects) (.ok rfl)

theorem read_behind_checked (payload : Bytes) (offset distance : Nat) (near : offset + distance + 4 < 2 ^ 64) :
    Checked.readBehind payload offset distance = .ok (readU32 payload (offset + distance)) := by
  rw [Checked.readBehind, summed_ok _ _ (by omega), ok_bind, read_u32_checked _ _ near]

theorem shm_buffer_recipe_checked (pool : UInt32) (payload : Bytes) (offset : Nat) (near : offset < 2 ^ 32) :
    Checked.shmBufferRecipe pool payload offset = .ok (shmBufferRecipe pool payload offset) := by
  simp only [Checked.shmBufferRecipe, read_behind_checked payload offset 4 (by omega), read_behind_checked payload offset 8 (by omega),
    read_behind_checked payload offset 12 (by omega), read_behind_checked payload offset 16 (by omega),
    read_behind_checked payload offset 20 (by omega), ok_bind, shmBufferRecipe]
  cases readU32 payload (offset + 4) <;> cases readU32 payload (offset + 8) <;> cases readU32 payload (offset + 12) <;>
    cases readU32 payload (offset + 16) <;> cases readU32 payload (offset + 20) <;> rfl

theorem dmabuf_buffer_recipe_checked (params : Option (UInt32 × List DmabufPlane)) (payload : Bytes) (offset : Nat)
    (near : offset < 2 ^ 32) : Checked.dmabufBufferRecipe params payload offset = .ok (dmabufBufferRecipe params payload offset) := by
  simp only [Checked.dmabufBufferRecipe, read_behind_checked payload offset 4 (by omega),
    read_behind_checked payload offset 8 (by omega), read_behind_checked payload offset 12 (by omega),
    read_behind_checked payload offset 16 (by omega), ok_bind, dmabufBufferRecipe]
  cases readU32 payload (offset + 4) <;> cases readU32 payload (offset + 8) <;> cases readU32 payload (offset + 12) <;>
    cases readU32 payload (offset + 16) <;> rcases params with _ | ⟨dmabuf, planes⟩ <;> rfl

theorem capture_recipe_checked (p : Protocol) (m : Inbound) (msg : Bytes) (offset : Nat) (created : Creation)
    (planes : HashMap (UInt32 × List DmabufPlane)) (long : headerLen ≤ msg.length) (near : offset < 2 ^ 32) :
    Checked.captureRecipe p m msg offset created planes = .ok (captureRecipe p m msg offset created planes) := by
  unfold Checked.captureRecipe
  split
  · rename_i request
    obtain ⟨way, interface, named⟩ := (is_request_iff _ _ _).mp request
    rw [sliced_rest_ok _ _ long, ok_bind, shm_buffer_recipe_checked _ _ _ near, ok_bind]
    simp [captureRecipe, Inbound.isRequest, way, interface, named]
  · split
    · rename_i request
      obtain ⟨way, interface, named⟩ := (is_request_iff _ _ _).mp request
      rw [sliced_rest_ok _ _ long, ok_bind, dmabuf_buffer_recipe_checked _ _ _ near, ok_bind]
      simp [captureRecipe, Inbound.isRequest, way, interface, named]
    · rfl

theorem introduce_object_spared (p : Protocol) (s : Session) (m : Inbound) (msg : Bytes) (short : msg.length < 2 ^ 16)
    (fits : ∀ offset, m.walk.newIdOffset = some offset → headerLen + offset + 4 ≤ msg.length) :
    Spared (Checked.introduceObject p s m msg) (introduceObject p s m msg) := by
  unfold Checked.introduceObject introduceObject
  cases located : m.walk.newIdOffset with
  | none => exact .ok rfl
  | some offset =>
      have here := fits offset located
      obtain ⟨start, stop⟩ := word_bounds short here
      dsimp only
      rw [start, ok_bind, stop, ok_bind, read_word_ok _ _ here, ok_bind]
      cases resolveChildInterface p m.desc m.walk.dynamicInterfaceName with
      | none =>
          dsimp only
          cases m.direction with
          | hostToClient => exact .ok rfl
          | clientToHost => cases m.walk.dynamicInterfaceName <;> exact .ok rfl
      | some resolved =>
          refine .bind (create_object_spared _ _ _ _) ?_
          refine .bind (.ok (capture_recipe_checked p m msg offset _ _ (by omega) (by omega))) ?_
          dsimp only
          rw [copied_word_ok _ _ _ here, ok_bind]
          exact .ok rfl

theorem log_display_error_checked (m : Inbound) (msg : Bytes) (long : headerLen ≤ msg.length) :
    Checked.logDisplayError m msg = .ok () := by
  unfold Checked.logDisplayError
  split
  · rw [sliced_rest_ok _ _ long, ok_bind]
    split
    · rename_i words
      have last := (wordAt (msg.drop headerLen) 8).toNat_lt
      rw [read_word_ok _ 0 (by omega), ok_bind, read_word_ok _ 4 (by omega), ok_bind, read_word_ok _ 8 words, ok_bind]
      split
      · rename_i some
        rw [summed_ok _ _ (by omega), ok_bind, lessened_ok _ _ (by omega), ok_bind]
        split
        · rename_i inside
          rw [sliced_ok _ _ _ (by omega) inside, ok_bind]
        · rfl
      · rfl
    · rfl
  · rfl

theorem forget_deleted_checked (s : Session) (m : Inbound) (msg : Bytes) :
    Checked.forgetDeleted s m msg = .ok (forgetDeleted s m msg) := by
  unfold Checked.forgetDeleted forgetDeleted
  split
  · rw [readU32]
    split
    · rename_i inside
      rw [word_of_slice _ _ inside, unwrapped, ok_bind]
      dsimp only
      cases s.objects.guestId (wordAt msg headerLen) with
      | none => rfl
      | some guest =>
          dsimp only
          rw [copied_word_ok _ _ _ inside, ok_bind]
    · rfl
  · rfl

theorem observe_grabs_checked (grabs : GrabTracker) (m : Inbound) (payload : Bytes) :
    Checked.observeGrabs grabs m payload = .ok (observeGrabs grabs m payload) := by
  unfold Checked.observeGrabs observeGrabs
  split
  · rename_i entered
    rw [read_word_ok _ 4 entered.2, ok_bind]
  split
  · rfl
  split
  · rename_i pressed
    rw [read_word_ok _ 8 (by omega), ok_bind, read_word_ok _ 12 pressed.2, ok_bind]
  split
  · rename_i entered
    rw [read_word_ok _ 4 entered.2, ok_bind]
  split
  · rfl
  · rfl

theorem splice_on_input_spared (ambient : Ambient) (s : Session) (m : Inbound) (payload : Bytes)
    (fit : ∀ mimeType ∈ s.clipboardCache.cachedMimeTypes ambient.order, (asBytes mimeType).length < 2 ^ 63) :
    Spared (Checked.spliceOnInput ambient s m payload) (spliceOnInput ambient s m payload) := by
  unfold Checked.spliceOnInput spliceOnInput
  refine .ite (fun _ => ?_) fun _ => .ok rfl
  rw [read_u32_checked _ _ (by omega), ok_bind]
  cases readU32 payload 0 with
  | none => exact .ok rfl
  | some serial => exact attempt_clipboard_splice_spared ambient s serial fit

theorem update_recipes_checked (env : Env) (ambient : Ambient) (graph : RecreationGraph) (m : Inbound) (msg : Bytes)
    (long : headerLen ≤ msg.length)
    (fit : ∀ binary appId, env.desktopApps.resolveByBinary binary = some appId → (asBytes appId).length < 2 ^ 63) :
    Checked.updateRecipes env ambient graph m msg = .ok (updateRecipes env ambient graph m msg) := by
  unfold Checked.updateRecipes updateRecipes
  simp only [sliced_rest_ok _ _ long, ok_bind, read_u32_checked (msg.drop headerLen) 0 (by omega),
    read_u32_checked (msg.drop headerLen) 4 (by omega), read_str_checked (msg.drop headerLen) 0 (by omega)]
  split
  · cases readU32 (msg.drop headerLen) 0 <;> rfl
  split
  · cases readStr (msg.drop headerLen) 0 <;> rfl
  split
  · rcases readStr (msg.drop headerLen) 0 with _ | ⟨appId, past⟩
    · rfl
    dsimp only
    cases correction : correctedAppId env ambient appId with
    | none => rfl
    | some corrected =>
        have bound : (asBytes corrected).length < 2 ^ 63 := by
          unfold correctedAppId at correction
          split at correction
          · cases correction
          · split at correction
            · cases correction
            · rename_i binary running
              exact fit binary corrected (Option.filter_eq_some_iff.mp correction).1
        have whole : headerLen + (putStr [] corrected).length < 2 ^ 64 := by
          simp only [put_str_length, headerLen, nextMultipleOf4, List.length_nil]
          omega
        simp only [put_str_checked [] corrected (by omega), ok_bind, build_message_checked _ _ _ whole]
  split
  · cases readU32 (msg.drop headerLen) 0 <;> cases readU32 (msg.drop headerLen) 4 <;> rfl
  · rfl

-- A corrected app id still leaves a whole header.
theorem update_recipes_long (env : Env) (ambient : Ambient) (graph : RecreationGraph) (m : Inbound) (msg : Bytes)
    (long : headerLen ≤ msg.length) : headerLen ≤ (updateRecipes env ambient graph m msg).2.length := by
  have built : ∀ payload, headerLen ≤ (buildMessage m.header.senderId m.header.opcode payload).length := fun payload => by
    simp only [buildMessage, putU32, headerLen, List.length_append, to_ne_bytes_length, List.length_nil]
    omega
  unfold updateRecipes
  dsimp only
  repeat' split
  all_goals first | exact long | exact built _

theorem substitute_tee_checked (ambient : Ambient) (m : Inbound) (payload : Bytes) (fds : List Fd) :
    Checked.substituteTee ambient m payload fds = .ok (substituteTee ambient m payload fds) := by
  unfold Checked.substituteTee substituteTee
  split
  · rw [read_str_checked _ _ (by omega), ok_bind]
    rcases readStr payload 0 with _ | ⟨mimeType, past⟩
    · rfl
    dsimp only
    split
    · cases fds.getLast? <;> rfl
    · rfl
  · rfl

theorem retain_pool_checked (graph : RecreationGraph) (m : Inbound) (payload : Bytes) (created : Option Creation) (fds : List Fd)
    (near : ∀ offset, m.walk.newIdOffset = some offset → offset < 2 ^ 32) :
    Checked.retainPool graph m payload created fds = .ok (retainPool graph m payload created fds) := by
  unfold Checked.retainPool retainPool
  split
  · rcases created with _ | c
    · rfl
    rcases fds.getLast? with _ | fd
    · rfl
    dsimp only
    cases located : m.walk.newIdOffset with
    | none => rfl
    | some offset =>
        have bound := near offset located
        dsimp only
        rw [read_behind_checked _ _ _ (by omega), ok_bind]
        rfl
  · rfl

theorem plane_of_checked (payload : Bytes) (fd : Fd) : Checked.planeOf payload fd = .ok (planeOf payload fd) := by
  simp only [Checked.planeOf, read_u32_checked payload 0 (by omega), read_u32_checked payload 4 (by omega),
    read_u32_checked payload 8 (by omega), read_u32_checked payload 12 (by omega), read_u32_checked payload 16 (by omega), ok_bind,
    planeOf]
  cases readU32 payload 0 <;> cases readU32 payload 4 <;> cases readU32 payload 8 <;> cases readU32 payload 12 <;>
    cases readU32 payload 16 <;> rfl

theorem retain_plane_checked (planes : HashMap (UInt32 × List DmabufPlane)) (m : Inbound) (payload : Bytes) (fds : List Fd) :
    Checked.retainPlane planes m payload fds = .ok (retainPlane planes m payload fds) := by
  unfold Checked.retainPlane retainPlane
  split
  · rcases fds.getLast? with _ | fd
    · rfl
    dsimp only
    rw [plane_of_checked, ok_bind, Option.bind_some]
    rcases planeOf payload fd with _ | plane
    · rfl
    rcases planes.lookup m.sender with _ | ⟨dmabuf, gathered⟩
    · rfl
    · rfl
  · rfl

theorem forward_checked (ambient : Ambient) (s : Session) (m : Inbound) (created : Option Creation) (msg : Bytes)
    (long : headerLen ≤ msg.length) (near : ∀ offset, m.walk.newIdOffset = some offset → offset < 2 ^ 32) :
    Checked.forward ambient s m created msg = .ok (forward ambient s m created msg) := by
  simp only [Checked.forward, sliced_rest_ok _ _ long, ok_bind, substitute_tee_checked, retain_pool_checked _ m _ _ _ near,
    retain_plane_checked, forward]

theorem answer_stale_sender_checked (p : Protocol) (s : Session) (m : Inbound) (created : Option Creation) :
    Checked.answerStaleSender p s m created = .ok (answerStaleSender p s m created) := by
  unfold Checked.answerStaleSender answerStaleSender
  split
  · rw [synthesize_delete_id_checked, ok_bind]
  · split
    · cases created with
      | none => rfl
      | some callback => exact synthesize_frame_done_checked p s callback.guestId
    · rfl

theorem drop_stale_sender_checked (p : Protocol) (s : Session) (m : Inbound) (created : Option Creation)
    (counted : m.direction = .clientToHost → created ≠ none → s.objects.nextHostId ≠ 0) :
    Checked.dropStaleSender p s m created = .ok (dropStaleSender p s m created) := by
  rw [Checked.dropStaleSender, answer_stale_sender_checked, ok_bind, dropStaleSender]
  cases created with
  | none => rfl
  | some phantom =>
      simp only [Checked.rollBackCreation, rollBackCreation]
      cases way : m.direction with
      | hostToClient => rfl
      | clientToHost =>
          have left : (answerStaleSender p s m (some phantom)).objects.nextHostId ≠ 0 := by
            have counts := counted way (by simp)
            obtain same | removed := (answer_stale_sender_spec p s m (some phantom)).2
            · rwa [same]
            · rwa [removed]
          cases (answerStaleSender p s m (some phantom)).objects.hostId phantom.guestId with
          | none => rfl
          | some host => simp only [unallocate_host_id_checked _ _ left, ok_bind]

-- What Rust never allocates: more than isize::MAX bytes for one value.
structure InMemory (env : Env) (s : Session) : Prop where
  buffers : ∀ peer, (s.conn peer).readBuf.length < 2 ^ 63
  signatures : ∀ direction interface, ∀ desc ∈ env.protocol.messages direction interface, desc.signature.length < 2 ^ 63
  mimeTypes : ∀ mimeType ∈ s.clipboardCache.byMimeType.keys, (asBytes mimeType).length < 2 ^ 63
  appIds : ∀ binary appId, env.desktopApps.resolveByBinary binary = some appId → (asBytes appId).length < 2 ^ 63

theorem InMemory.kept {env : Env} {s s' : Session} (memory : InMemory env s)
    (buffers : ∀ peer, (s'.conn peer).readBuf.length ≤ (s.conn peer).readBuf.length)
    (cache : s'.clipboardCache = s.clipboardCache) : InMemory env s' where
  buffers peer := Nat.lt_of_le_of_lt (buffers peer) (memory.buffers peer)
  signatures := memory.signatures
  mimeTypes := by
    rw [cache]
    exact memory.mimeTypes
  appIds := memory.appIds

-- Only the pumps write to the cache; the relay never does.
theorem introduce_object_cache (p : Protocol) (s next : Session) (m : Inbound) (msg rewritten : Bytes) (created : Option Creation)
    (result : introduceObject p s m msg = .ok (created, next, rewritten)) : next.clipboardCache = s.clipboardCache := by
  obtain ⟨-, -, rfl, -⟩ | ⟨_, _, _, -, -, -, rfl, -⟩ := introduce_object_ok _ _ _ _ _ _ _ result
  · rfl
  · rfl

theorem forget_deleted_cache (s next : Session) (m : Inbound) (msg renamed : Bytes)
    (result : forgetDeleted s m msg = some (next, renamed)) : next.clipboardCache = s.clipboardCache := by
  obtain ⟨rfl, -⟩ | ⟨_, _, -, -, -, -, rfl, -⟩ := forget_deleted_some _ _ _ _ _ result
  · rfl
  · rfl

theorem drop_stale_sender_cache (p : Protocol) (s : Session) (m : Inbound) (created : Option Creation) :
    (dropStaleSender p s m created).clipboardCache = s.clipboardCache := by
  have answered : (answerStaleSender p s m created).clipboardCache = s.clipboardCache := by
    unfold answerStaleSender
    split
    · exact (synthesize_delete_id_aside p s m.sender).clipboardCache
    · split
      · split
        · rfl
        · exact (synthesize_frame_done_aside p s _).clipboardCache
      · rfl
  rw [← answered, dropStaleSender]
  cases created <;> rfl

theorem handled_cache (env : Env) (ambient : Ambient) (direction : Direction) (s next : Session) (header : MessageHeader)
    (msg : Bytes) (disposal : Disposal) (handled : Handled env ambient direction s header msg disposal next) :
    next.clipboardCache = s.clipboardCache := by
  cases handled with
  | intercepted intercepting =>
      unfold handleSyntheticClipboardEvent
      repeat' split
      all_goals rfl
  | unknown | parseError | untranslatable => rfl
  | unresolvableChild m translated dropped resolved translating failed =>
      obtain ⟨-, -, rfl | ⟨_, _, rfl⟩⟩ := introduce_object_error _ _ _ _ _ failed
      · rfl
      · rfl
  | untrackedDeleteId m translated rewritten created introduced resolved translating introducing failed =>
      exact introduce_object_cache _ _ _ _ _ _ _ introducing
  | passedOn m translated rewritten renamed created introduced forgotten next disposal spared resolved translating introducing
      forgetting passing =>
      have before := (forget_deleted_cache _ _ _ _ _ forgetting).trans (introduce_object_cache _ _ _ _ _ _ _ introducing)
      have observed := (observe_input_aside forgotten ambient m (renamed.drop headerLen)).clipboardCache.trans before
      cases passing with
      | staleGeneration updated is => rw [is]; exact observed
      | untranslatedSender noted is => rw [drop_stale_sender_cache, is]; exact observed
      | forwarded noted otherSide is =>
          have passed : ∀ sent, (forward ambient noted m created sent).2.clipboardCache = noted.clipboardCache := fun sent => by
            unfold forward
            dsimp only
            split
            · rfl
            · rfl
          rw [passed, is]
          exact observed

theorem resolve_sender_listed (p : Protocol) (objects : ShadowTable) (direction : Direction) (header : MessageHeader)
    (sender : UInt32) (interface : Interface) (desc : MessageDesc)
    (known : resolveSender p objects direction header = some (sender, interface, desc)) : desc ∈ p.messages direction interface := by
  unfold resolveSender at known
  dsimp only at known
  split at known
  · cases known
  · split at known
    · cases known
    · obtain ⟨found, listed, same⟩ := Option.map_eq_some_iff.mp known
      cases same
      exact List.mem_of_getElem? listed

theorem take_message_short (buf msg : Bytes) (consumed : Nat) (taken : takeMessage buf = some (msg, consumed)) :
    consumed < 2 ^ 16 := by
  unfold takeMessage at taken
  split at taken
  · cases taken
  · rename_i header parsed
    dsimp only at taken
    split at taken
    · cases taken
    · cases taken
      exact header.length.toNat_lt

section Turn

variable (env : Env) (ambient : Ambient) (direction : Direction)

theorem pass_on_spared (s : Session) (m : Inbound) (created : Option Creation) (msg : Bytes) (memory : InMemory env s)
    (long : headerLen ≤ msg.length) (near : ∀ offset, m.walk.newIdOffset = some offset → offset < 2 ^ 32)
    (counted : m.direction = .clientToHost → created ≠ none → s.objects.nextHostId ≠ 0) :
    Spared (Checked.passOn env ambient s m created msg) (passOn env ambient s m created msg) := by
  have spliced : Spared (Checked.spliceOnInput ambient { s with grabs := observeGrabs s.grabs m (msg.drop headerLen) } m
      (msg.drop headerLen)) (observeInput ambient s m (msg.drop headerLen)) :=
    splice_on_input_spared ambient _ m _ fun mimeType member => memory.mimeTypes mimeType
      ((ambient.order.mem_arrange _ mimeType).mp member)
  have kept : m.direction = .clientToHost → (observeInput ambient s m (msg.drop headerLen)).objects = s.objects := fun way =>
    congrArg View.objects (observe_input_view ambient s m (request_carries_no_serial m way) (msg.drop headerLen))
  have addressed := fun graph => update_recipes_long env ambient graph m msg long
  have updated := fun graph => update_recipes_checked env ambient graph m msg long memory.appIds
  unfold Checked.passOn passOn observeRecipes
  dsimp only
  rw [sliced_rest_ok _ _ long, ok_bind, observe_grabs_checked, ok_bind]
  refine .bind spliced ?_
  generalize observeInput ambient s m (msg.drop headerLen) = observed at kept ⊢
  specialize addressed observed.graph
  rw [updated observed.graph, ok_bind]
  generalize updateRecipes env ambient observed.graph m msg = update at addressed ⊢
  obtain ⟨graph, corrected⟩ := update
  refine .ite (fun _ => .ok rfl) fun _ => ?_
  dsimp only
  generalize noting : observeFlow { observed with graph := graph } m created = noted
  have same : noted.objects = observed.objects := by rw [← noting, observeFlow]
  rcases otherSideSenderId noted.objects m with _ | otherSide
  · dsimp only
    rw [drop_stale_sender_checked _ _ _ _ fun way made => by rw [same, kept way]; exact counted way made, ok_bind]
    exact .ok rfl
  · have whole : headerLen ≤ (writeSenderId corrected otherSide).length := by
      rw [writeSenderId, set_word_length _ _ _ (by simp only [headerLen] at addressed; omega)]
      exact addressed
    dsimp only
    rw [write_sender_id_checked _ _ addressed, ok_bind, forward_checked _ _ _ _ _ whole near]
    exact .ok rfl

-- A creation that is rolled back was counted: had the counter been at its end,
-- the allocation would have been the end of the turn.
theorem introduce_object_counts (s introduced : Session) (m : Inbound) (msg rewritten : Bytes) (created : Option Creation)
    (short : msg.length < 2 ^ 16) (fits : ∀ offset, m.walk.newIdOffset = some offset → headerLen + offset + 4 ≤ msg.length)
    (way : m.direction = .clientToHost) (made : created ≠ none)
    (fine : Checked.introduceObject env.protocol s m msg = .ok (.ok (created, introduced, rewritten))) :
    introduced.objects.nextHostId ≠ 0 := by
  have result : introduceObject env.protocol s m msg = .ok (created, introduced, rewritten) := by
    obtain same | stopped := introduce_object_spared env.protocol s m msg short fits
    · rw [same] at fine
      exact Except.ok.inj fine
    · rw [stopped] at fine
      cases fine
  obtain ⟨-, rfl, -⟩ | ⟨offset, child, version, located, resolved, -, rfl, -⟩ := introduce_object_ok _ _ _ _ _ _ _ result
  · exact absurd rfl made
  · have after : (WlResprox.introduced env.protocol s m msg offset child).objects.nextHostId = s.objects.allocateHostId.2.nextHostId := by
      simp only [WlResprox.introduced, way, createObject]
      rfl
    rw [after]
    refine allocated_counts s.objects fun last => ?_
    obtain ⟨start, stop⟩ := word_bounds short (fits offset located)
    rw [Checked.introduceObject, located] at fine
    simp only [start, ok_bind, stop, read_word_ok _ _ (fits offset located), resolved, way, Checked.createObject,
      Checked.allocateHostId, if_pos last] at fine
    cases fine

section Resolved

variable (s : Session) (m : Inbound) (msg : Bytes) (header : MessageHeader) (memory : InMemory env s)
  (resolved : Resolved env.protocol s.objects direction header msg m) (long : headerLen ≤ msg.length)
  (short : msg.length < 2 ^ 16)

include memory resolved long short

theorem relay_resolved_spared : Spared (Checked.relayResolved env ambient s m msg) (relayResolved env ambient s m msg) := by
  have fits := resolved_slot_fits env s.objects direction header msg m resolved long
  unfold Checked.relayResolved relayResolved
  rw [translate_objects_checked _ _ _ _ short fun offset member => fits offset (.inl member), ok_bind, resolved.way]
  cases translating : translateObjects s.objects direction m.walk.objectOffsets msg with
  | none => exact .ok rfl
  | some translated =>
      have first := (translated_rewrites env s.objects direction header msg m resolved long translated translating).lengths
      have short' : translated.length < 2 ^ 16 := by omega
      have fits' : ∀ offset, m.walk.newIdOffset = some offset → headerLen + offset + 4 ≤ translated.length := fun offset located => by
        have here := fits offset (.inr located)
        omega
      dsimp only
      refine .bind_ok (introduce_object_spared env.protocol s m translated short' fits') fun fine => ?_
      cases introducing : introduceObject env.protocol s m translated with
      | error dropped => exact .ok rfl
      | ok result =>
          obtain ⟨created, introduced, rewritten⟩ := result
          have second := (introduced_rewrites env s.objects direction header msg m resolved long s introduced translated rewritten
            created translating introducing).lengths
          rw [introducing] at fine
          dsimp only
          rw [log_display_error_checked m rewritten (by omega), ok_bind, forget_deleted_checked, ok_bind]
          cases forgetting : forgetDeleted introduced m rewritten with
          | none => exact .ok rfl
          | some result =>
              obtain ⟨forgotten, renamed⟩ := result
              have lengths : renamed.length = rewritten.length ∧ forgotten.objects.nextHostId = introduced.objects.nextHostId := by
                obtain ⟨rfl, rfl⟩ | ⟨_, _, -, -, read, -, rfl, rfl⟩ := forget_deleted_some _ _ _ _ _ forgetting
                · exact ⟨rfl, rfl⟩
                · refine ⟨set_word_length _ _ _ ?_, rfl⟩
                  unfold readU32 at read
                  split at read
                  · assumption
                  · cases read
              have cache := (forget_deleted_cache _ _ _ _ _ forgetting).trans (introduce_object_cache _ _ _ _ _ _ _ introducing)
              have frame := (introduce_object_frame _ _ _ _ _ _ _ introducing).trans (forget_deleted_frame _ _ _ _ _ forgetting)
              refine pass_on_spared env ambient forgotten m created renamed
                (memory.kept (fun peer => Nat.le_of_eq (congrArg List.length (frame.readBuf peer))) cache) (by omega)
                (fun offset located => ?_) fun way made => ?_
              · have here := fits' offset located
                omega
              · rw [lengths.2]
                exact introduce_object_counts env s introduced m translated rewritten created short' fits' way made fine

end Resolved

theorem relay_message_spared (s : Session) (header : MessageHeader) (msg : Bytes) (consumed : Nat) (memory : InMemory env s)
    (long : headerLen ≤ msg.length) (short : msg.length < 2 ^ 16) (inside : consumed ≤ (s.conn direction.src).readBuf.length) :
    Spared (Checked.relayMessage env ambient direction s header msg consumed) (relayMessage env ambient direction s header msg) := by
  unfold Checked.relayMessage relayMessage
  refine .ite (fun _ => ?_) fun _ => ?_
  · rw [handle_synthetic_clipboard_event_checked ambient s msg _ long, ok_bind]
    exact .ok rfl
  · cases known : resolveSender env.protocol s.objects direction header with
    | none =>
        dsimp only
        rw [sliced_ok _ _ _ (Nat.zero_le _) inside, ok_bind]
        exact .ok rfl
    | some found =>
        obtain ⟨sender, interface, desc⟩ := found
        have few := memory.signatures direction interface desc (resolve_sender_listed _ _ _ _ _ _ _ known)
        have payload : (msg.drop headerLen).length < 2 ^ 63 := by
          rw [List.length_drop]
          omega
        dsimp only
        rw [sliced_rest_ok _ _ long, ok_bind, walk_signature_checked _ _ payload (by omega), ok_bind]
        cases walked : walkSignature (msg.drop headerLen) desc.signature with
        | error e => exact .ok rfl
        | ok walk =>
            have fits : ∀ offset ∈ walk.objectOffsets, headerLen + offset + 4 ≤ msg.length := fun offset member => by
              have slot := walk_slot_fits _ _ _ walked offset (.inl member)
              rw [List.length_drop] at slot
              omega
            dsimp only
            rw [originals_checked msg walk.objectOffsets short fits, ok_bind]
            exact relay_resolved_spared env ambient direction s _ msg header memory ⟨rfl, rfl, known, walked, rfl⟩ long short

theorem relay_turn_spared (s : Session) (memory : InMemory env s) :
    Spared (Checked.relayTurn env ambient direction s) (relayTurn env ambient direction s) := by
  unfold Checked.relayTurn relayTurn
  rw [take_message_checked, ok_bind]
  cases taken : takeMessage (s.conn direction.src).readBuf with
  | none => exact .ok rfl
  | some result =>
      obtain ⟨msg, consumed⟩ := result
      obtain ⟨long, inside, whole⟩ := take_message_spec _ _ _ taken
      have size := take_message_length _ _ _ taken
      have front : slice (s.conn direction.src).readBuf 0 consumed = msg := by rw [whole, slice, Nat.sub_zero, List.drop_zero]
      dsimp only
      rw [sliced_ok _ _ _ (Nat.zero_le _) inside, ok_bind, front, parse_checked, ok_bind, take_message_parses _ _ _ taken, unwrapped,
        ok_bind]
      have logged : InMemory env (s.log (.took direction.src msg)) := memory.kept (fun peer => by simp) rfl
      refine .bind (relay_message_spared env ambient direction _ _ msg consumed logged (by omega)
        (by rw [size]; exact take_message_short _ _ _ taken) (by simpa using inside)) ?_
      have handled := relay_message_handled env ambient direction (s.log (.took direction.src msg)) (headerOf msg) msg
      have left := (handled_frame _ env ambient direction _ msg _ _ handled).readBuf direction.src
      simp only [Session.conn_log] at left
      have room : consumed ≤ ((relayMessage env ambient direction (s.log (.took direction.src msg)) (headerOf msg) msg).2.conn
          direction.src).readBuf.length := by
        rw [left]
        exact inside
      exact .bind (.ok (sliced_ok _ _ _ (Nat.zero_le _) room)) (.ok rfl)

theorem relay_turn_in_memory (s next : Session) (disposal : Disposal) (memory : InMemory env s)
    (turned : relayTurn env ambient direction s = some (disposal, next)) : InMemory env next := by
  obtain ⟨msg, consumed, handled, -, handling, rfl⟩ := relay_turn_some env ambient direction s next disposal turned
  have way := relay_message_handled env ambient direction (s.log (.took direction.src msg)) (headerOf msg) msg
  rw [handling] at way
  have cache := handled_cache env ambient direction _ handled _ msg disposal way
  refine memory.kept (fun peer => ?_) cache
  have frame := (handled_frame _ env ambient direction _ msg disposal handled way).readBuf peer
  rw [Session.conn_log] at frame
  rw [Session.drainBuf, Session.conn_set_conn]
  split
  · rename_i same
    rw [← same, List.length_drop, frame]
    exact Nat.sub_le _ _
  · rw [frame]

theorem relay_turns_spared (turns : Nat) (s : Session) (memory : InMemory env s) :
    Spared (Checked.relayTurns env ambient direction turns s) (relayTurns env ambient direction turns s) := by
  induction turns generalizing s with
  | zero => exact .ok rfl
  | succ turns ih =>
      rw [Checked.relayTurns, relayTurns]
      refine .bind (relay_turn_spared env ambient direction s memory) ?_
      cases turned : relayTurn env ambient direction s with
      | none => exact .ok rfl
      | some result =>
          obtain ⟨disposal, next⟩ := result
          exact ih next (relay_turn_in_memory env ambient direction s next disposal memory turned)

end Turn

-- An error event of the display whose string claims 2^32 - 1 bytes.
def hostileError : Session :=
  { coreStart.session with
    host := { coreStart.session.host with readBuf := buildMessage 1 0 (putU32 (putU32 (putU32 [] 1) 0) 0xffffffff) } }

theorem hostile_error_in_memory : InMemory coreEnv hostileError where
  buffers peer := by cases peer <;> decide
  signatures direction interface desc member := by
    have short : ∀ tables : List (String × List MessageDesc),
        (∀ entry ∈ tables, ∀ desc ∈ entry.2, desc.signature.length < 2 ^ 63) → ∀ desc ∈ tableOf tables interface,
          desc.signature.length < 2 ^ 63 := fun tables each =>
      table_of_all tables (fun table => ∀ desc ∈ table, desc.signature.length < 2 ^ 63) (fun desc absent => by cases absent) each
        interface
    cases direction with
    | clientToHost => exact short coreRequests (by decide +kernel) desc member
    | hostToClient => exact short coreEvents (by decide +kernel) desc member
  mimeTypes mimeType member := by cases member
  appIds binary appId found := by
    rw [DesktopAppIndex.resolveByBinary] at found
    cases found

end WlResprox
