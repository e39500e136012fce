import WlResprox.Inbound

set_option autoImplicit false

namespace WlResprox

inductive Disposal where
  | intercepted
  | unknown
  | parseError
  | untranslatable
  | unresolvableChild
  | untrackedDeleteId
  | staleGeneration
  | untranslatedSender
  | frozen
  | relayed
deriving DecidableEq, Repr

def wlRegistry : Interface := ⟨"wl_registry"⟩
def wlDataDeviceManager : Interface := ⟨"wl_data_device_manager"⟩
def wlDataSource : Interface := ⟨"wl_data_source"⟩
def wlDataDevice : Interface := ⟨"wl_data_device"⟩

-- A best-effort event to the client: nothing is written when the interface
-- has no such event, and a failed write changes nothing else.
def tellClient (p : Protocol) (s : Session) (guestId : UInt32) (interface : Interface) (event : String) (payload : Bytes) :
    Session :=
  match eventOpcode p interface event with
  | none => s
  | some opcode => (s.writeMessage .gtk .own interface (buildMessage guestId opcode payload) []).2

def synthesizeDeleteId (p : Protocol) (s : Session) (guestId : UInt32) : Session :=
  match s.objects.interface 1 with
  | none => s
  | some display => tellClient p s 1 display "delete_id" (putU32 [] guestId)

def synthesizeFrameDone (p : Protocol) (s : Session) (callbackGuestId : UInt32) : Session :=
  match s.objects.interface callbackGuestId with
  | none => s
  | some callback => synthesizeDeleteId p (tellClient p s callbackGuestId callback "done" (putU32 [] 0)) callbackGuestId

-- A host id is allocated right before the write that uses it and given back
-- when that write fails.
def createOwnObject (s : Session) (interface : Interface) (senderHostId : UInt32) (opcode : UInt16)
    (payload : UInt32 → Bytes) : Option UInt32 × Session :=
  let (hostId, objects) := s.objects.allocateHostId
  match { s with objects := objects }.writeMessage .host .own interface (buildMessage senderHostId opcode (payload hostId)) []
    with
  | (true, written) => (some hostId, written)
  | (false, failed) => (none, { failed with objects := failed.objects.unallocateHostId hostId })

def offerMimeTypes (s : Session) (sourceHostId : UInt32) : List String → Bool × Session
  | [] => (true, s)
  | mimeType :: rest =>
      match s.writeMessage .host .own wlDataSource (buildMessage sourceHostId 0 (putStr [] mimeType)) [] with
      | (true, written) => offerMimeTypes written sourceHostId rest
      | (false, failed) => (false, failed)

def bindPayload (name : UInt32) (interface : String) (version hostId : UInt32) : Bytes :=
  putU32 (putU32 (putStr (putU32 [] name) interface) version) hostId

def claimSelection (s : Session) (registryHostId seatHostId ddmName ddmVersion serial : UInt32) (mimeTypes : List String) :
    Session :=
  match createOwnObject s wlRegistry registryHostId 0 (bindPayload ddmName "wl_data_device_manager" ddmVersion) with
  | (none, s) => s
  | (some ddmHostId, s) =>
  match createOwnObject s wlDataDeviceManager ddmHostId 0 (putU32 []) with
  | (none, s) => s
  | (some sourceHostId, s) =>
  match offerMimeTypes s sourceHostId mimeTypes with
  | (false, s) => s
  | (true, s) =>
  match createOwnObject s wlDataDeviceManager ddmHostId 1 (fun hostId => putU32 (putU32 [] hostId) seatHostId) with
  | (none, s) => s
  | (some deviceHostId, s) =>
  match s.writeMessage .host .own wlDataDevice
      (buildMessage deviceHostId 1 (putU32 (putU32 [] sourceHostId) serial)) [] with
  | (false, s) => s
  | (true, s) => { s with reclaim := { s.reclaim with activeSourceHostId := some sourceHostId } }

def attemptClipboardSplice (ambient : Ambient) (s : Session) (serial : UInt32) : Session :=
  let spent := { s with reclaim := { s.reclaim with pending := false } }
  let mimeTypes := s.clipboardCache.cachedMimeTypes ambient.order
  if mimeTypes = [] then spent
  else
    match s.reclaim.dataDeviceManagerGlobal, s.objects.findGuestIdByInterfaceName ambient.order "wl_registry",
      s.objects.findGuestIdByInterfaceName ambient.order "wl_seat" with
    | some (ddmName, ddmVersion), some registryGuestId, some seatGuestId =>
        match s.objects.hostId registryGuestId, s.objects.hostId seatGuestId with
        | some registryHostId, some seatHostId =>
            claimSelection spent registryHostId seatHostId ddmName ddmVersion serial mimeTypes
        | _, _ => spent
    | _, _, _ => spent

def handleSyntheticClipboardEvent (ambient : Ambient) (s : Session) (msg : Bytes) (opcode : UInt16) : Session :=
  if opcode = 1 then
    match s.host.readFds with
    | [] => s
    | fd :: rest =>
        let popped := s.setReadFds .host rest
        match readStr (msg.drop headerLen) 0 with
        | none => popped
        | some (mimeType, _) =>
            match s.clipboardCache.get mimeType with
            | none => popped
            | some bytes => if ambient.pipeWritable then popped.log (.served fd mimeType bytes) else popped
  else if opcode = 2 then { s with reclaim := { s.reclaim with activeSourceHostId := none } }
  else s

-- An error carries the session of a message that is dropped here.
def introduceObject (p : Protocol) (s : Session) (m : Inbound) (msg : Bytes) :
    Except Session (Option Creation × Session × Bytes) :=
  match m.walk.newIdOffset with
  | none => .ok (none, s, msg)
  | some offset =>
      let original := wordAt msg (headerLen + offset)
      match resolveChildInterface p m.desc m.walk.dynamicInterfaceName with
      | none =>
          match m.direction, m.walk.dynamicInterfaceName with
          | .clientToHost, some name => .error { s with objects := s.objects.rememberUnresolvableInterface original name }
          | _, _ => .error s
      | some (child, _) =>
          let (created, objects) := createObject s.objects m.direction original child
          let (recipe, planes) := captureRecipe p m msg offset created s.pendingDmabufPlanes
          let recorded := { s with
            objects := objects
            graph := recordCaptured s.graph created.guestId recipe
            pendingDmabufPlanes := planes }
          .ok (some created, recorded, setWord msg (headerLen + offset) (created.rewritten m.direction))

def forgetDeleted (s : Session) (m : Inbound) (msg : Bytes) : Option (Session × Bytes) :=
  if m.interface.name = "wl_display" ∧ m.desc.name = "delete_id" then
    match readU32 msg headerLen with
    | none => some (s, msg)
    | some hostDeletedId =>
        match s.objects.guestId hostDeletedId with
        | none => none
        | some guestDeletedId =>
            some ({ s with objects := s.objects.removeGuest guestDeletedId, graph := s.graph.remove guestDeletedId },
              setWord msg headerLen guestDeletedId)
  else some (s, msg)

def spliceOnInput (ambient : Ambient) (s : Session) (m : Inbound) (payload : Bytes) : Session :=
  if s.reclaim.pending && m.carriesInputSerial then
    match readU32 payload 0 with
    | none => s
    | some serial => attemptClipboardSplice ambient s serial
  else s

def rollBackCreation (s : Session) (m : Inbound) : Option Creation → Session
  | none => s
  | some phantom =>
      let objects := match m.direction, s.objects.hostId phantom.guestId with
        | .clientToHost, some phantomHostId => s.objects.unallocateHostId phantomHostId
        | _, _ => s.objects
      { s with objects := objects.removeGuest phantom.guestId, graph := s.graph.remove phantom.guestId }

def answerStaleSender (p : Protocol) (s : Session) (m : Inbound) (created : Option Creation) : Session :=
  if m.direction = .clientToHost ∧ m.desc.isDestructor then
    let told := synthesizeDeleteId p s m.sender
    { told with objects := told.objects.removeGuest m.sender, graph := told.graph.remove m.sender }
  else if m.isRequest "wl_surface" "frame" then
    match created with
    | none => s
    | some callback => synthesizeFrameDone p s callback.guestId
  else s

def live (s : Session) : Direction → Bool
  | .clientToHost => !s.frozen
  | .hostToClient => true

def forward (ambient : Ambient) (s : Session) (m : Inbound) (created : Option Creation) (msg : Bytes) : Disposal × Session :=
  let queued := (s.conn m.direction.src).readFds
  let payload := msg.drop headerLen
  let fds := substituteTee ambient m payload (queued.take m.walk.fdCount)
  let popped := s.setReadFds m.direction.src (queued.drop m.walk.fdCount)
  let passed :=
    if live s m.direction then (popped.writeMessage m.direction.dst .relayed m.interface msg fds).2 else popped
  (if live s m.direction then .relayed else .frozen,
    { passed with
      graph := retainPool passed.graph m payload created fds
      pendingDmabufPlanes := retainPlane passed.pendingDmabufPlanes m payload fds })

def otherSideSenderId (objects : ShadowTable) (m : Inbound) : Option UInt32 :=
  match m.direction with
  | .clientToHost => objects.hostId m.sender
  | .hostToClient => some m.sender

def observeInput (ambient : Ambient) (s : Session) (m : Inbound) (payload : Bytes) : Session :=
  spliceOnInput ambient { s with grabs := observeGrabs s.grabs m payload } m payload

def observeRecipes (env : Env) (ambient : Ambient) (s : Session) (m : Inbound) (msg : Bytes) : Session :=
  { s with graph := (updateRecipes env ambient s.graph m msg).1 }

def observeFlow (s : Session) (m : Inbound) (created : Option Creation) : Session :=
  { s with
    bufferFlow := observeBuffers s.bufferFlow m
    pendingFrames := observeCallbacks s.pendingFrames m created }

def dropStaleSender (p : Protocol) (s : Session) (m : Inbound) (created : Option Creation) : Session :=
  rollBackCreation (answerStaleSender p s m created) m created

def staleRelease (s : Session) (m : Inbound) : Bool :=
  m.isEvent "wl_buffer" "release" && !s.objects.isCurrentGeneration m.sender

def passOn (env : Env) (ambient : Ambient) (s : Session) (m : Inbound) (created : Option Creation) (msg : Bytes) :
    Disposal × Session :=
  let observed := observeInput ambient s m (msg.drop headerLen)
  let updated := observeRecipes env ambient observed m msg
  if staleRelease updated m then (.staleGeneration, updated)
  else
    let noted := observeFlow updated m created
    match otherSideSenderId noted.objects m with
    | none => (.untranslatedSender, dropStaleSender env.protocol noted m created)
    | some otherSide =>
        forward ambient noted m created (writeSenderId (updateRecipes env ambient observed.graph m msg).2 otherSide)

def relayResolved (env : Env) (ambient : Ambient) (s : Session) (m : Inbound) (msg : Bytes) : Disposal × Session :=
  match translateObjects s.objects m.direction m.walk.objectOffsets msg with
  | none => (.untranslatable, s)
  | some translated =>
  match introduceObject env.protocol s m translated with
  | .error dropped => (.unresolvableChild, dropped)
  | .ok (created, introduced, rewritten) =>
  match forgetDeleted introduced m rewritten with
  | none => (.untrackedDeleteId, introduced)
  | some (forgotten, renamed) => passOn env ambient forgotten m created renamed

def intercepts (s : Session) (direction : Direction) (header : MessageHeader) : Bool :=
  direction = .hostToClient ∧ some header.senderId = s.reclaim.activeSourceHostId

def relayMessage (env : Env) (ambient : Ambient) (direction : Direction) (s : Session) (header : MessageHeader) (msg : Bytes) :
    Disposal × Session :=
  if intercepts s direction header then
    (.intercepted, handleSyntheticClipboardEvent ambient s msg header.opcode)
  else
    match resolveSender env.protocol s.objects direction header with
    | none => (.unknown, s)
    | some (sender, interface, desc) =>
        match walkSignature (msg.drop headerLen) desc.signature with
        | .error _ => (.parseError, s)
        | .ok walk =>
            relayResolved env ambient s ⟨direction, header, sender, interface, desc, walk,
              walk.objectOffsets.map fun offset => wordAt msg (headerLen + offset)⟩ msg

def relayTurn (env : Env) (ambient : Ambient) (direction : Direction) (s : Session) : Option (Disposal × Session) :=
  match takeMessage (s.conn direction.src).readBuf with
  | none => none
  | some (msg, consumed) =>
      match MessageHeader.parse msg with
      | none => none
      | some header =>
          let (disposal, next) := relayMessage env ambient direction (s.log (.took direction.src msg)) header msg
          some (disposal, next.drainBuf direction.src consumed)

-- Each turn takes at least a header off the buffer, so its length bounds the
-- number of turns.
def relayTurns (env : Env) (ambient : Ambient) (direction : Direction) : Nat → Session → Session
  | 0, s => s
  | turns + 1, s =>
      match relayTurn env ambient direction s with
      | none => s
      | some (_, next) => relayTurns env ambient direction turns next

def relayReadyMessages (env : Env) (ambient : Ambient) (direction : Direction) (s : Session) : Session :=
  relayTurns env ambient direction (s.conn direction.src).readBuf.length s

theorem introduce_object_error (p : Protocol) (s dropped : Session) (m : Inbound) (msg : Bytes)
    (result : introduceObject p s m msg = .error dropped) :
    m.walk.newIdOffset ≠ none ∧ resolveChildInterface p m.desc m.walk.dynamicInterfaceName = none ∧
      (dropped = s ∨ ∃ guest name, dropped = { s with objects := s.objects.rememberUnresolvableInterface guest name }) := by
  unfold introduceObject at result
  split at result
  · cases result
  · rename_i offset located
    dsimp only at result
    split at result
    · rename_i unresolved
      refine ⟨by simp [located], unresolved, ?_⟩
      split at result
      · rename_i name _ _
        cases result
        exact .inr ⟨_, name, rfl⟩
      · cases result
        exact .inl rfl
    · cases result

def introduced (p : Protocol) (s : Session) (m : Inbound) (msg : Bytes) (offset : Nat) (child : Interface) : Session :=
  let creation := createObject s.objects m.direction (wordAt msg (headerLen + offset)) child
  let captured := captureRecipe p m msg offset creation.1 s.pendingDmabufPlanes
  { s with
    objects := creation.2
    graph := recordCaptured s.graph creation.1.guestId captured.1
    pendingDmabufPlanes := captured.2 }

theorem introduce_object_ok (p : Protocol) (s next : Session) (m : Inbound) (msg rewritten : Bytes)
    (created : Option Creation) (result : introduceObject p s m msg = .ok (created, next, rewritten)) :
    (m.walk.newIdOffset = none ∧ created = none ∧ next = s ∧ rewritten = msg) ∨
      ∃ offset child version, m.walk.newIdOffset = some offset ∧
        resolveChildInterface p m.desc m.walk.dynamicInterfaceName = some (child, version) ∧
        created = some (createObject s.objects m.direction (wordAt msg (headerLen + offset)) child).1 ∧
        next = introduced p s m msg offset child ∧
        rewritten = setWord msg (headerLen + offset)
          ((createObject s.objects m.direction (wordAt msg (headerLen + offset)) child).1.rewritten m.direction) := by
  unfold introduceObject at result
  split at result
  · rename_i absent
    cases result
    exact .inl ⟨absent, rfl, rfl, rfl⟩
  · rename_i offset located
    dsimp only at result
    split at result
    · split at result <;> cases result
    · rename_i child version resolved
      cases result
      exact .inr ⟨offset, child, version, located, resolved, rfl, rfl, rfl⟩

theorem forget_deleted_some (s next : Session) (m : Inbound) (msg renamed : Bytes)
    (result : forgetDeleted s m msg = some (next, renamed)) :
    (next = s ∧ renamed = msg) ∨
      ∃ hostDeletedId guestDeletedId, m.interface.name = "wl_display" ∧ m.desc.name = "delete_id" ∧
        readU32 msg headerLen = some hostDeletedId ∧ s.objects.guestId hostDeletedId = some guestDeletedId ∧
        next = { s with objects := s.objects.removeGuest guestDeletedId, graph := s.graph.remove guestDeletedId } ∧
        renamed = setWord msg headerLen guestDeletedId := by
  unfold forgetDeleted at result
  split at result
  · rename_i named
    split at result
    · cases result
      exact .inl ⟨rfl, rfl⟩
    · rename_i hostDeletedId read
      split at result
      · cases result
      · rename_i guestDeletedId translated
        cases result
        exact .inr ⟨hostDeletedId, guestDeletedId, named.1, named.2, read, translated, rfl, rfl⟩
  · cases result
    exact .inl ⟨rfl, rfl⟩

theorem take_message_parses (buf msg : Bytes) (consumed : Nat) (taken : takeMessage buf = some (msg, consumed)) :
    MessageHeader.parse msg = some ⟨wordAt msg 0, (wordAt msg 4).toUInt16, (wordAt msg 4 >>> 16).toUInt16⟩ := by
  have spec := take_message_spec buf msg consumed taken
  exact parse_isSome msg (by rw [take_message_length buf msg consumed taken]; exact spec.1)

theorem relay_turn_none (env : Env) (ambient : Ambient) (direction : Direction) (s : Session) :
    relayTurn env ambient direction s = none ↔ takeMessage (s.conn direction.src).readBuf = none := by
  unfold relayTurn
  split
  · rename_i starved
    simp [starved]
  · rename_i msg consumed taken
    rw [take_message_parses _ _ _ taken]
    simp [taken]

def headerOf (msg : Bytes) : MessageHeader := ⟨wordAt msg 0, (wordAt msg 4).toUInt16, (wordAt msg 4 >>> 16).toUInt16⟩

theorem relay_turn_some (env : Env) (ambient : Ambient) (direction : Direction) (s next : Session) (disposal : Disposal)
    (turned : relayTurn env ambient direction s = some (disposal, next)) :
    ∃ msg consumed handled, takeMessage (s.conn direction.src).readBuf = some (msg, consumed) ∧
      relayMessage env ambient direction (s.log (.took direction.src msg)) (headerOf msg) msg = (disposal, handled) ∧
      next = handled.drainBuf direction.src consumed := by
  unfold relayTurn at turned
  split at turned
  · cases turned
  · rename_i msg consumed taken
    rw [take_message_parses _ _ _ taken] at turned
    cases turned
    exact ⟨msg, consumed, _, taken, rfl, rfl⟩

-- A message the relay could resolve: its sender is known, its signature walks.
structure Resolved (p : Protocol) (objects : ShadowTable) (direction : Direction) (header : MessageHeader) (msg : Bytes)
    (m : Inbound) : Prop where
  way : m.direction = direction
  head : m.header = header
  sender : resolveSender p objects direction header = some (m.sender, m.interface, m.desc)
  walk : walkSignature (msg.drop headerLen) m.desc.signature = .ok m.walk
  originals : m.originals = m.walk.objectOffsets.map fun offset => wordAt msg (headerLen + offset)

-- What becomes of a resolved message, one constructor for each way out of the
-- loop body: its objects are translated, its new object is mapped, a deleted
-- one is forgotten, and then it is dropped or forwarded.
inductive PassedOn (env : Env) (ambient : Ambient) (s : Session) (m : Inbound) (created : Option Creation) (msg : Bytes) :
    Disposal → Session → Prop where
  | staleGeneration (updated : Session)
      (observed : updated = observeRecipes env ambient (observeInput ambient s m (msg.drop headerLen)) m msg)
      (stale : staleRelease updated m = true) : PassedOn env ambient s m created msg .staleGeneration updated
  | untranslatedSender (noted : Session)
      (observed : noted =
        observeFlow (observeRecipes env ambient (observeInput ambient s m (msg.drop headerLen)) m msg) m created)
      (failed : otherSideSenderId noted.objects m = none) :
      PassedOn env ambient s m created msg .untranslatedSender (dropStaleSender env.protocol noted m created)
  | forwarded (noted : Session) (otherSide : UInt32)
      (observed : noted =
        observeFlow (observeRecipes env ambient (observeInput ambient s m (msg.drop headerLen)) m msg) m created)
      (fresh : staleRelease noted m = false) (translated : otherSideSenderId noted.objects m = some otherSide) :
      PassedOn env ambient s m created msg
        (forward ambient noted m created (writeSenderId
          (updateRecipes env ambient (observeInput ambient s m (msg.drop headerLen)).graph m msg).2 otherSide)).1
        (forward ambient noted m created (writeSenderId
          (updateRecipes env ambient (observeInput ambient s m (msg.drop headerLen)).graph m msg).2 otherSide)).2

inductive Handled (env : Env) (ambient : Ambient) (direction : Direction) (s : Session) (header : MessageHeader) (msg : Bytes) :
    Disposal → Session → Prop where
  | intercepted (intercepting : intercepts s direction header = true) :
      Handled env ambient direction s header msg .intercepted (handleSyntheticClipboardEvent ambient s msg header.opcode)
  | unknown (unresolved : resolveSender env.protocol s.objects direction header = none) :
      Handled env ambient direction s header msg .unknown s
  | parseError (sender : UInt32) (interface : Interface) (desc : MessageDesc) (error : String)
      (known : resolveSender env.protocol s.objects direction header = some (sender, interface, desc))
      (failed : walkSignature (msg.drop headerLen) desc.signature = .error error) :
      Handled env ambient direction s header msg .parseError s
  | untranslatable (m : Inbound) (resolved : Resolved env.protocol s.objects direction header msg m)
      (failed : translateObjects s.objects direction m.walk.objectOffsets msg = none) :
      Handled env ambient direction s header msg .untranslatable s
  | unresolvableChild (m : Inbound) (translated : Bytes) (dropped : Session)
      (resolved : Resolved env.protocol s.objects direction header msg m)
      (translating : translateObjects s.objects direction m.walk.objectOffsets msg = some translated)
      (failed : introduceObject env.protocol s m translated = .error dropped) :
      Handled env ambient direction s header msg .unresolvableChild dropped
  | untrackedDeleteId (m : Inbound) (translated rewritten : Bytes) (created : Option Creation) (introduced : Session)
      (resolved : Resolved env.protocol s.objects direction header msg m)
      (translating : translateObjects s.objects direction m.walk.objectOffsets msg = some translated)
      (introducing : introduceObject env.protocol s m translated = .ok (created, introduced, rewritten))
      (failed : forgetDeleted introduced m rewritten = none) :
      Handled env ambient direction s header msg .untrackedDeleteId introduced
  | passedOn (m : Inbound) (translated rewritten renamed : Bytes) (created : Option Creation)
      (introduced forgotten next : Session) (disposal : Disposal) (spared : intercepts s direction header = false)
      (resolved : Resolved env.protocol s.objects direction header msg m)
      (translating : translateObjects s.objects direction m.walk.objectOffsets msg = some translated)
      (introducing : introduceObject env.protocol s m translated = .ok (created, introduced, rewritten))
      (forgetting : forgetDeleted introduced m rewritten = some (forgotten, renamed))
      (passing : PassedOn env ambient forgotten m created renamed disposal next) :
      Handled env ambient direction s header msg disposal next

theorem pass_on_passed_on (env : Env) (ambient : Ambient) (s : Session) (m : Inbound) (created : Option Creation)
    (msg : Bytes) :
    PassedOn env ambient s m created msg (passOn env ambient s m created msg).1 (passOn env ambient s m created msg).2 := by
  simp only [passOn]
  split
  · rename_i stale
    exact .staleGeneration _ rfl stale
  · rename_i fresh
    split
    · rename_i failed
      exact .untranslatedSender _ rfl failed
    · rename_i otherSide translated
      exact .forwarded _ otherSide rfl (by simpa [staleRelease, observeFlow] using fresh) translated

theorem relay_message_handled (env : Env) (ambient : Ambient) (direction : Direction) (s : Session) (header : MessageHeader)
    (msg : Bytes) :
    Handled env ambient direction s header msg (relayMessage env ambient direction s header msg).1
      (relayMessage env ambient direction s header msg).2 := by
  unfold relayMessage
  split
  · rename_i intercepting
    exact .intercepted intercepting
  · rename_i spared
    split
    · rename_i unresolved
      exact .unknown unresolved
    · rename_i sender interface desc known
      split
      · rename_i error failed
        exact .parseError sender interface desc error known failed
      · rename_i walk walked
        let m : Inbound := ⟨direction, header, sender, interface, desc, walk,
          walk.objectOffsets.map fun offset => wordAt msg (headerLen + offset)⟩
        have resolved : Resolved env.protocol s.objects direction header msg m := ⟨rfl, rfl, known, walked, rfl⟩
        unfold relayResolved
        split
        · rename_i failed
          exact .untranslatable m resolved failed
        · rename_i translated translating
          split
          · rename_i dropped failed
            exact .unresolvableChild m translated dropped resolved translating failed
          · rename_i created introduced rewritten introducing
            split
            · rename_i failed
              exact .untrackedDeleteId m translated rewritten created introduced resolved translating introducing failed
            · rename_i forgotten renamed forgetting
              exact .passedOn m translated rewritten renamed created introduced forgotten _ _
                (Bool.eq_false_iff.mpr spared) resolved translating introducing forgetting (pass_on_passed_on env ambient forgotten m created renamed)

end WlResprox
