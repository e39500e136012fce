import WlResprox.Planes

set_option autoImplicit false

namespace WlResprox

structure HostRequest where
  interface : Interface
  msg : Bytes
  fds : List Fd

-- The words of an add as the replay writes them.
def planeBytes (plane : DmabufPlane) : Bytes :=
  putU32 (putU32 (putU32 (putU32 (putU32 [] plane.planeIdx) plane.offset) plane.stride) (plane.modifier >>> 32).toUInt32)
    plane.modifier.toUInt32

-- What makes a buffer anew: the params object under the next host id, its
-- planes, and the buffer under the id after it.
def dmabufRequests (createParams add createImmed : UInt16) (dmabuf : Interface) (dmabufHostId next : UInt32) (width height : Int32)
    (format flags : UInt32) (planes : List DmabufPlane) : List HostRequest :=
  ⟨dmabuf, buildMessage dmabufHostId createParams (putU32 [] next), []⟩ ::
    (planes.map (fun plane => ⟨bufferParams, buildMessage next add (planeBytes plane), [plane.fd]⟩) ++
      [⟨bufferParams, buildMessage next createImmed
        (putU32 (putU32 (putU32 (putU32 (putU32 [] (next + 1)) width.toUInt32) height.toUInt32) format) flags), []⟩])

def HostRequest.sent (r : HostRequest) (guestId : UInt32) (outcome : WriteOutcome) : Traffic :=
  .sent ⟨.host, .replayed guestId, r.interface, r.msg, r.fds, outcome⟩

-- Requests written one after another, up to the first that fails.
inductive InTurn (guestId : UInt32) : List HostRequest → Bool → List Traffic → Prop where
  | done : InTurn guestId [] true []
  | failed (r : HostRequest) (rest : List HostRequest) (outcome : WriteOutcome) (fails : outcome ≠ .complete) :
      InTurn guestId (r :: rest) false [r.sent guestId outcome]
  | wrote (r : HostRequest) (rest : List HostRequest) (finished : Bool) (added : List Traffic) (later : InTurn guestId rest finished added) :
      InTurn guestId (r :: rest) finished (r.sent guestId .complete :: added)

namespace InTurn

variable {guestId : UInt32} {first second : List HostRequest} {finished : Bool} {added later : List Traffic}

theorem append (wrote : InTurn guestId first finished added) (going : finished = true) {ends : Bool}
    (onward : InTurn guestId second ends later) : InTurn guestId (first ++ second) ends (added ++ later) := by
  induction wrote with
  | done => exact onward
  | failed => cases going
  | wrote r rest finished added _ ih => exact .wrote r _ ends _ (ih going)

theorem cut (wrote : InTurn guestId first finished added) (stopped : finished = false) : InTurn guestId (first ++ second) false added := by
  induction wrote with
  | done => cases stopped
  | failed r rest outcome fails => exact .failed r _ outcome fails
  | wrote r rest finished added _ ih => exact .wrote r _ false _ (ih stopped)

end InTurn

theorem packed_modifier (hi lo : UInt32) : ((hi.toUInt64 <<< 32) ||| lo.toUInt64).toNat = hi.toNat <<< 32 ||| lo.toNat := by
  have high := hi.toNat_lt
  have wide : hi.toNat <<< 32 % 2 ^ 64 = hi.toNat <<< 32 := Nat.mod_eq_of_lt (by rw [Nat.shiftLeft_eq]; omega)
  simp only [UInt64.toNat_or, UInt64.toNat_shiftLeft, UInt32.toNat_toUInt64]
  rw [show (32 : UInt64).toNat % 64 = 32 from rfl, wide]

theorem modifier_high (hi lo : UInt32) : (((hi.toUInt64 <<< 32) ||| lo.toUInt64) >>> 32).toUInt32 = hi := by
  apply UInt32.toNat_inj.mp
  have spent : lo.toNat >>> 32 = 0 := by rw [Nat.shiftRight_eq_div_pow, Nat.div_eq_of_lt lo.toNat_lt]
  rw [UInt64.toNat_toUInt32, UInt64.toNat_shiftRight, packed_modifier, show (32 : UInt64).toNat % 64 = 32 from rfl,
    Nat.shiftRight_or_distrib, Nat.shiftLeft_shiftRight, spent, Nat.or_zero, Nat.mod_eq_of_lt hi.toNat_lt]

theorem modifier_low (hi lo : UInt32) : ((hi.toUInt64 <<< 32) ||| lo.toUInt64).toUInt32 = lo := by
  apply UInt32.toNat_inj.mp
  rw [UInt64.toNat_toUInt32, packed_modifier, ← Nat.shiftLeft_add_eq_or_of_lt lo.toNat_lt, Nat.shiftLeft_eq, Nat.mul_add_mod_self_right,
    Nat.mod_eq_of_lt lo.toNat_lt]

-- The two halves of the modifier come apart as they were put together.
theorem plane_words_kept (msg : Bytes) (fd : Fd) : planeBytes (addedPlane msg fd) =
    putU32 (putU32 (putU32 (putU32 (putU32 [] (wordAt msg headerLen)) (wordAt msg (headerLen + 4))) (wordAt msg (headerLen + 8)))
      (wordAt msg (headerLen + 12))) (wordAt msg (headerLen + 16)) := by
  simp only [planeBytes, addedPlane, modifier_high, modifier_low]

-- A stretch of the replay that writes these requests.
def Wrote (guestId : UInt32) (s s' : Session) (requests : List HostRequest) (finished : Bool) : Prop :=
  ∃ added, s'.trace = s.trace ++ added ∧ InTurn guestId requests finished added

section Writing

variable {guestId : UInt32} {s s' s'' : Session} {first second : List HostRequest} {ends : Bool}

theorem Wrote.append (wrote : Wrote guestId s s' first true) (onward : Wrote guestId s' s'' second ends) :
    Wrote guestId s s'' (first ++ second) ends := by
  obtain ⟨added, grown, turn⟩ := wrote
  obtain ⟨later, grows, turns⟩ := onward
  exact ⟨added ++ later, by rw [grows, grown, List.append_assoc], turn.append rfl turns⟩

theorem Wrote.cut (wrote : Wrote guestId s s' first false) : Wrote guestId s s' (first ++ second) false := by
  obtain ⟨added, grown, turn⟩ := wrote
  exact ⟨added, grown, turn.cut rfl⟩

theorem wrote_one (r : HostRequest) (result : Bool × Session)
    (is : s.writeMessage .host (.replayed guestId) r.interface r.msg r.fds = result) : Wrote guestId s result.2 [r] result.1 := by
  subst is
  refine ⟨[r.sent guestId s.host.nextWrite], rfl, ?_⟩
  show InTurn guestId [r] (decide (s.host.nextWrite = .complete)) _
  by_cases completes : s.host.nextWrite = .complete
  · rw [completes, decide_eq_true rfl]
    exact .wrote r [] true [] .done
  · rw [decide_eq_false completes]
    exact .failed r [] _ completes

end Writing

section Asking

variable {p : Protocol} (covered : Covered p) (s : Session) (guestId : UInt32)

include covered

-- Asking for a child writes the one request, if the table has it.
theorem request_child_writes (parent : Interface) (parentHostId : UInt32) (request child : String) (signature : List ArgumentType)
    (values : UInt32 → List WaylandValue) (shape : Creates p request signature child) (listed : parent.name ∈ recoveredInterfaces)
    (opcode : UInt16) (found : requestOpcode p parent request = some opcode) (payload : Bytes) (fds : List Fd)
    (encoded : encodeArguments signature (values s.objects.nextHostId) = .ok (payload, fds)) :
    let asks : HostRequest := ⟨parent, buildMessage parentHostId opcode payload, fds⟩
    (∃ t, requestChild p s guestId parent parentHostId request values = .skipped t ∧ Wrote guestId s t [asks] false) ∨
      ∃ t, requestChild p s guestId parent parentHostId request values =
          .recreated ⟨t, s.objects.nextHostId, ⟨child⟩, parentHostId, parent⟩ ∧
        Wrote guestId s t [asks] true ∧ t.objects = s.objects.allocateHostId.2 := by
  obtain ⟨desc, at_opcode, member, named⟩ := opcode_listed _ _ _ (covered.requests parent) found
  obtain ⟨types, made⟩ := shape.2 parent listed desc member named
  have entry : (p.requests parent)[opcode.toNat]?.bind (fun desc => desc.childInterface.map fun child => (desc.signature, child)) =
      some (signature, ⟨child⟩) := by
    rw [at_opcode, Option.bind_some, made, types]
    rfl
  intro asks
  have allocated : encodeArguments signature (values s.objects.allocateHostId.1) = .ok (payload, fds) := encoded
  let spent : Session := { s with objects := s.objects.allocateHostId.2 }
  unfold requestChild
  simp only [found, entry, allocated]
  split
  · rename_i failed result
    exact .inl ⟨failed, rfl, @wrote_one guestId spent asks _ result⟩
  · rename_i written result
    refine .inr ⟨written, rfl, @wrote_one guestId spent asks _ result, ?_⟩
    cases (Prod.ext_iff.mp result).2
    rfl

-- The replay of one plane.
theorem plane_writes (paramsHostId : UInt32) (add : UInt16) (found : requestOpcode p bufferParams "add" = some add) (plane : DmabufPlane) :
    Wrote guestId s (replayRequest p s guestId paramsHostId bufferParams "add" (planeValues plane)).2
      [⟨bufferParams, buildMessage paramsHostId add (planeBytes plane), [plane.fd]⟩]
      (replayRequest p s guestId paramsHostId bufferParams "add" (planeValues plane)).1 := by
  obtain ⟨desc, at_opcode, member, named⟩ := opcode_listed _ _ _ (covered.requests bufferParams) found
  have signature := (declared_entry _ _ _ _ (covered.requests _) covered.add desc member named).1
  have encoded : encodeArguments [.fd, .uint, .uint, .uint, .uint, .uint] (planeValues plane) = .ok (planeBytes plane, [plane.fd]) := by
    simp [encodeArguments, planeValues, encodeFrom, encodeArgument, planeBytes, putU32]
  have is : replayRequest p s guestId paramsHostId bufferParams "add" (planeValues plane) =
      s.writeMessage .host (.replayed guestId) bufferParams (buildMessage paramsHostId add (planeBytes plane)) [plane.fd] := by
    simp only [replayRequest, found, at_opcode, signature, encoded]
  exact wrote_one ⟨bufferParams, buildMessage paramsHostId add (planeBytes plane), [plane.fd]⟩ _ is.symm

theorem planes_write (paramsHostId : UInt32) (add : UInt16) (found : requestOpcode p bufferParams "add" = some add)
    (planes : List DmabufPlane) :
    Wrote guestId s (addPlanes p s guestId paramsHostId bufferParams planes).2
      (planes.map fun plane => ⟨bufferParams, buildMessage paramsHostId add (planeBytes plane), [plane.fd]⟩)
      (addPlanes p s guestId paramsHostId bufferParams planes).1 := by
  induction planes generalizing s with
  | nil => exact ⟨[], (List.append_nil _).symm, .done⟩
  | cons plane rest ih =>
      have wrote := plane_writes covered s guestId paramsHostId add found plane
      unfold addPlanes
      split
      · rename_i written result
        rw [result] at wrote
        exact wrote.append (ih written)
      · rename_i failed result
        rw [result] at wrote
        exact wrote.cut

-- A buffer is made anew where its dmabuf global is back.
theorem dmabuf_rebuilt (dmabufGuestId : UInt32) (width height : Int32) (format flags : UInt32) (planes : List DmabufPlane)
    (dmabuf : Interface) (dmabufHostId : UInt32) (known : s.objects.interface dmabufGuestId = some dmabuf)
    (hosted : s.objects.hostId dmabufGuestId = some dmabufHostId) (listed : dmabuf.name ∈ recoveredInterfaces)
    (createParams add createImmed : UInt16) (params : requestOpcode p dmabuf "create_params" = some createParams)
    (adds : requestOpcode p bufferParams "add" = some add) (immed : requestOpcode p bufferParams "create_immed" = some createImmed) :
    ∃ t finished, recreateDmabufBuffer p s guestId dmabufGuestId width height format flags planes = some t ∧
      Wrote guestId s t
        (dmabufRequests createParams add createImmed dmabuf dmabufHostId s.objects.nextHostId width height format flags planes) finished := by
  have asked := request_child_writes covered s guestId dmabuf dmabufHostId "create_params" _ _ (fun hostId => [.newId hostId])
    covered.createParams listed createParams params (putU32 [] s.objects.nextHostId) [] rfl
  unfold recreateDmabufBuffer
  simp only [known, hosted]
  rcases asked with ⟨t, is, wrote⟩ | ⟨t, is, wrote, objects⟩
  · rw [is]
    exact ⟨t, false, rfl, wrote.cut⟩
  · rw [is]
    have filled := planes_write covered t guestId s.objects.nextHostId add adds planes
    have table := add_planes_objects (p := p) t guestId s.objects.nextHostId bufferParams planes
    have kind : (⟨"zwp_linux_buffer_params_v1"⟩ : Interface) = bufferParams := rfl
    have next : t.objects.nextHostId = s.objects.nextHostId + 1 := by
      rw [objects]
      rfl
    simp only [kind, adds, reduceCtorEq, if_false]
    generalize addPlanes p t guestId s.objects.nextHostId bufferParams planes = result at filled table ⊢
    obtain ⟨_ | _, u⟩ := result
    · exact ⟨u, false, rfl, wrote.append filled.cut⟩
    · have encoded : encodeArguments [.newId, .int, .int, .uint, .uint]
          [.newId u.objects.nextHostId, .int width, .int height, .uint format, .uint flags] =
            .ok (putU32 (putU32 (putU32 (putU32 (putU32 [] (s.objects.nextHostId + 1)) width.toUInt32) height.toUInt32) format) flags, []) := by
        rw [show u.objects = t.objects from table, next]
        simp [encodeArguments, encodeFrom, encodeArgument, putU32]
      rcases request_child_writes covered u guestId bufferParams s.objects.nextHostId "create_immed" _ _
        (fun hostId => [.newId hostId, .int width, .int height, .uint format, .uint flags]) covered.createImmed (by decide) createImmed
        immed _ _ encoded with ⟨v, used, wrote'⟩ | ⟨v, used, wrote', -⟩
      · refine ⟨v, false, ?_, wrote.append (filled.append wrote')⟩
        dsimp only
        rw [used]
        rfl
      · refine ⟨mapRecreated guestId ⟨v, u.objects.nextHostId, ⟨"wl_buffer"⟩, s.objects.nextHostId, bufferParams⟩, true, ?_,
          wrote.append (filled.append wrote')⟩
        dsimp only
        rw [used]

end Asking

-- The words of a create_immed, by way of the recipe's signed sizes.
theorem buffer_words_kept (msg : Bytes) (dmabuf : UInt32) (planes : List DmabufPlane) : ∃ width height format flags,
    immediateBuffer msg (dmabuf, planes) = .dmabufBuffer dmabuf width height format flags planes ∧
      putU32 (putU32 (putU32 (putU32 [] width.toUInt32) height.toUInt32) format) flags =
        putU32 (putU32 (putU32 (putU32 [] (wordAt msg (headerLen + 4))) (wordAt msg (headerLen + 8))) (wordAt msg (headerLen + 12)))
          (wordAt msg (headerLen + 16)) :=
  ⟨_, _, _, _, rfl, by rw [UInt32.toUInt32_toInt32, UInt32.toUInt32_toInt32]⟩

-- The replay of a dmabuf buffer: all of it in turn where its dmabuf global is
-- back, and nothing where it is not.
structure Rebuilt (p : Protocol) (s next : Session) (guestId dmabufGuestId : UInt32) (width height : Int32) (format flags : UInt32)
    (planes : List DmabufPlane) : Prop where
  back : ∀ dmabuf dmabufHostId createParams add createImmed, s.objects.interface dmabufGuestId = some dmabuf →
    s.objects.hostId dmabufGuestId = some dmabufHostId → requestOpcode p dmabuf "create_params" = some createParams →
    requestOpcode p bufferParams "add" = some add → requestOpcode p bufferParams "create_immed" = some createImmed →
    ∃ finished, Wrote guestId s next
      (dmabufRequests createParams add createImmed dmabuf dmabufHostId s.objects.nextHostId width height format flags planes) finished
  gone : s.objects.hostId dmabufGuestId = none ∨
      (s.objects.interface dmabufGuestId).bind (fun dmabuf => requestOpcode p dmabuf "create_params") = none →
    next.trace = s.trace

theorem recreate_dmabuf_rebuilt {p : Protocol} (covered : Covered p) (s t : Session) (fresh : Fresh s.objects)
    (guestId dmabufGuestId : UInt32) (width height : Int32) (format flags : UInt32) (planes : List DmabufPlane)
    (result : recreateDmabufBuffer p s guestId dmabufGuestId width height format flags planes = some t) :
    Rebuilt p s t guestId dmabufGuestId width height format flags planes where
  back dmabuf dmabufHostId createParams add createImmed known hosted params adds immed := by
    obtain ⟨t', finished, is, wrote⟩ := dmabuf_rebuilt covered s guestId dmabufGuestId width height format flags planes dmabuf dmabufHostId
      known hosted (fresh.listed dmabufGuestId dmabufHostId dmabuf known hosted) createParams add createImmed params adds immed
    rw [result] at is
    cases is
    exact ⟨finished, wrote⟩
  gone absent := by
    unfold recreateDmabufBuffer at result
    split at result
    · rename_i dmabuf dmabufHostId known hosted
      rcases absent with gone | none
      · rw [hosted] at gone
        cases gone
      · rw [known, Option.bind_some] at none
        simp only [requestChild, none, Recreation.session, Option.some.injEq] at result
        rw [← result]
    · cases result
      rfl

-- The buffers are recorded as the client put them together, and replayed as
-- they are recorded.
structure BuffersExact (env : Env) (attached : Nat → List Fd) (st : State) : Prop where
  recorded : ∀ entry ∈ st.session.graph.recipes, entry.2.takesPlanes = true →
    ∀ recipe, (gatherings env.protocol attached st.session.trace).buffers entry.1 = some recipe → entry.2 = recipe
  replayed : ∀ r guestId dmabufGuestId width height format flags planes rest ambient next, st.control = .replaying r →
    r.rest = (guestId, .dmabufBuffer dmabufGuestId width height format flags planes) :: rest →
    step env st (.turn ambient) = some next →
    (guestId, .dmabufBuffer dmabufGuestId width height format flags planes) ∈ st.session.graph.recipes ∧
      Rebuilt env.protocol st.session next.session guestId dmabufGuestId width height format flags planes

def addsArrive (attached : Nat → List Fd) (st : State) (event : Event) : Bool :=
  match event, st.control with
  | .turn _, .relaying .clientToHost => (takeMessage st.session.gtk.readBuf).all fun taken =>
      (Traffic.asked coreProtocol (client coreProtocol st.session.trace) (.took .gtk taken.1)).all fun a =>
        !a.isA bufferParams "add" ||
          match attached (gatherings coreProtocol attached st.session.trace).read with
          | [fd] => st.session.gtk.readFds.head? = some fd
          | _ => false
  | _, _ => true

theorem adds_arrive_sound (attached : Nat → List Fd) (st : State) (event : Event)
    (checked : (drained st event && addsArrive attached st event) = true) :
    Drained coreProtocol st event ∧ AddsArrive coreProtocol attached st event := by
  obtain ⟨drains, arrives⟩ := Bool.and_eq_true_iff.mp checked
  refine ⟨drained_sound st event drains, ?_⟩
  unfold AddsArrive
  split
  · rename_i ambient relaying
    intro taken is a asks adds
    simp only [addsArrive, relaying, is, Option.all_some, asks, adds, Bool.not_true, Bool.false_or] at arrives
    split at arrives
    · rename_i fd sent
      exact ⟨fd, sent, of_decide_eq_true arrives⟩
    · cases arrives
  · trivial

-- Two params objects (4, 5) whose adds alternate, and the buffer (6) of the
-- first.
def twoBuffers : Bytes :=
  requestRegistry 2 ++ bindGlobal 1 "zwp_linux_dmabuf_v1" 3 ++ buildMessage 3 1 (putU32 [] 4) ++ buildMessage 3 1 (putU32 [] 5) ++
    buildMessage 4 1 (planeBytes ⟨.received 7, 0, 0, 256, 72057594037927938⟩) ++
    buildMessage 5 1 (planeBytes ⟨.received 8, 0, 0, 512, 0⟩) ++
    buildMessage 4 1 (planeBytes ⟨.received 9, 1, 4096, 256, 72057594037927938⟩) ++ buildMessage 4 3 (putU32 [] 6 ++ bufferWords)

def attachedFds (n : Nat) : List Fd := if n = 4 then [.received 7] else if n = 5 then [.received 8] else if n = 6 then [.received 9] else []

def firstBuffer : Recreatable :=
  .dmabufBuffer 3 64 64 875713112 0
    [⟨.received 7, 0, 0, 256, 72057594037927938⟩, ⟨.received 9, 1, 4096, 256, 72057594037927938⟩]

def buffersLost (globals : Bytes) : List Event :=
  [.gtkReadable (.data twoBuffers [.received 7, .received 8, .received 9])] ++ turns 9 ++
    [.hostReadable .error, reconnectCore, .hostReadable (.data globals [])]

end WlResprox
