import Mathlib.Data.List.Induction
import Mathlib.Logic.Function.Basic
import WlResprox.Custody

set_option autoImplicit false

namespace WlResprox

def linuxDmabuf : Interface := ⟨"zwp_linux_dmabuf_v1"⟩

-- A request of the client's, with the interface it has the sender under.
structure Requested where
  msg : Bytes
  interface : Interface
  call : Call

def Requested.isA (a : Requested) (interface : Interface) (name : String) : Bool := a.interface = interface ∧ a.call.desc.name = name

def Traffic.asked (p : Protocol) (c : Client) : Traffic → Option Requested
  | .took .gtk msg | .skimmed .gtk msg => (c.objects (senderOf msg)).bind fun o =>
      (decode p .clientToHost o.interface msg).map fun call => ⟨msg, o.interface, call⟩
  | _ => none

def Traffic.fromClient : Traffic → Bool
  | .took .gtk _ | .skimmed .gtk _ => true
  | _ => false

-- The plane an add describes: its words, and the descriptor that came with it.
def addedPlane (msg : Bytes) (fd : Fd) : DmabufPlane :=
  ⟨fd, wordAt msg headerLen, wordAt msg (headerLen + 4), wordAt msg (headerLen + 8),
    ((wordAt msg (headerLen + 12)).toUInt64 <<< 32) ||| (wordAt msg (headerLen + 16)).toUInt64⟩

-- The buffer a create_immed describes.
def immediateBuffer (msg : Bytes) (gathered : UInt32 × List DmabufPlane) : Recreatable :=
  .dmabufBuffer gathered.1 (wordAt msg (headerLen + 4)).toInt32 (wordAt msg (headerLen + 8)).toInt32 (wordAt msg (headerLen + 12))
    (wordAt msg (headerLen + 16)) gathered.2

-- What the client's requests say of its dmabuf buffers: under the id of each
-- params object the dmabuf global it came from and the planes added to it since,
-- up to the create_immed that uses them up, and under the id of each buffer what
-- it was created from. A new object starts with nothing.
structure Gatherings where
  client : Client
  read : Nat
  params : UInt32 → Option (UInt32 × List DmabufPlane)
  buffers : UInt32 → Option Recreatable

namespace Gatherings

def start : Gatherings := ⟨Client.start, 0, fun _ => none, fun _ => none⟩

def renew (g : Gatherings) : Option UInt32 → Gatherings
  | none => g
  | some id => { g with params := Function.update g.params id none, buffers := Function.update g.buffers id none }

def ask (g : Gatherings) (attached : List Fd) (a : Requested) : Gatherings :=
  let sender := senderOf a.msg
  if a.isA linuxDmabuf "create_params" then
    match a.call.newId with
    | none => g
    | some id => { g with params := Function.update g.params id (some (sender, [])) }
  else if a.isA bufferParams "add" then
    { g with
      params := Function.update g.params sender
        ((g.params sender).map fun gathered => (gathered.1, gathered.2 ++ attached.map (addedPlane a.msg))) }
  else if a.isA bufferParams "create_immed" then
    match a.call.newId with
    | none => g
    | some id =>
        { g with
          params := Function.update g.params sender none
          buffers := Function.update g.buffers id ((g.params sender).map (immediateBuffer a.msg)) }
  else g

-- `attached n` are the descriptors the client sent with its n-th message.
def note (p : Protocol) (attached : Nat → List Fd) (g : Gatherings) (entry : Traffic) : Gatherings :=
  let renewed := g.renew (entry.introduces p g.client)
  let asked := match entry.asked p g.client with
    | none => renewed
    | some a => renewed.ask (attached g.read) a
  { asked with client := g.client.note p entry, read := if entry.fromClient then g.read + 1 else g.read }

end Gatherings

def gatherings (p : Protocol) (attached : Nat → List Fd) (history : List Traffic) : Gatherings :=
  history.foldl (Gatherings.note p attached) Gatherings.start

section Folding

variable {p : Protocol} {attached : Nat → List Fd}

theorem gatherings_snoc (history : List Traffic) (entry : Traffic) :
    gatherings p attached (history ++ [entry]) = (gatherings p attached history).note p attached entry := by
  simp [gatherings]

theorem gatherings_client (history : List Traffic) : (gatherings p attached history).client = client p history := by
  induction history using List.reverseRecOn with
  | nil => rfl
  | append_singleton history entry ih => rw [gatherings_snoc, client_snoc, Gatherings.note, ih]

theorem asked_introduces (c : Client) (entry : Traffic) (a : Requested) (asks : entry.asked p c = some a) :
    entry.introduces p c = a.call.newId := by
  have called : ∀ msg, ((c.objects (senderOf msg)).bind fun o =>
      (decode p .clientToHost o.interface msg).map fun call => (⟨msg, o.interface, call⟩ : Requested)) = some a →
      (c.call p msg).bind Call.newId = a.call.newId := by
    intro msg known
    obtain ⟨o, here, mapped⟩ := Option.bind_eq_some_iff.mp known
    obtain ⟨call, decoded, is⟩ := Option.map_eq_some_iff.mp mapped
    rw [Client.call, here, Option.bind_some, decoded, ← is]
    rfl
  cases entry with
  | took peer msg | skimmed peer msg =>
      cases peer
      · exact called msg asks
      · cases asks
  | _ => cases asks

theorem gatherings_ask (past : List Traffic) (entry : Traffic) (a : Requested) (asks : entry.asked p (client p past) = some a) :
    let before := (gatherings p attached past).renew a.call.newId
    (gatherings p attached (past ++ [entry])).params = (before.ask (attached (gatherings p attached past).read) a).params ∧
      (gatherings p attached (past ++ [entry])).buffers = (before.ask (attached (gatherings p attached past).read) a).buffers := by
  rw [gatherings_snoc, ← asked_introduces _ _ _ asks]
  simp only [Gatherings.note, gatherings_client, asks]
  exact ⟨trivial, trivial⟩

theorem gatherings_idle (past : List Traffic) (entry : Traffic) (idle : entry.asked p (client p past) = none) :
    let after := (gatherings p attached past).renew (entry.introduces p (client p past))
    (gatherings p attached (past ++ [entry])).params = after.params ∧ (gatherings p attached (past ++ [entry])).buffers = after.buffers := by
  rw [gatherings_snoc]
  simp only [Gatherings.note, gatherings_client, idle]
  exact ⟨trivial, trivial⟩

theorem renew_params {g : Gatherings} {introduced : Option UInt32} {id : UInt32} {x : UInt32 × List DmabufPlane}
    (after : (g.renew introduced).params id = some x) : g.params id = some x := by
  cases introduced with
  | none => exact after
  | some new =>
      by_cases same : id = new
      · subst same
        simp [Gatherings.renew] at after
      · simpa [Gatherings.renew, same] using after

theorem renew_buffers {g : Gatherings} {introduced : Option UInt32} {id : UInt32} {r : Recreatable}
    (after : (g.renew introduced).buffers id = some r) : g.buffers id = some r := by
  cases introduced with
  | none => exact after
  | some new =>
      by_cases same : id = new
      · subst same
        simp [Gatherings.renew] at after
      · simpa [Gatherings.renew, same] using after

-- Planes that are there after an entry were there before, but for those of a new
-- object and those an add puts there.
theorem gatherings_params_before {past : List Traffic} {entry : Traffic} {id : UInt32} {x : UInt32 × List DmabufPlane}
    (after : (gatherings p attached (past ++ [entry])).params id = some x) (fresh : entry.introduces p (client p past) ≠ some id)
    (spared : ∀ a, entry.asked p (client p past) = some a → a.isA bufferParams "add" = true → senderOf a.msg ≠ id) :
    (gatherings p attached past).params id = some x := by
  cases asks : entry.asked p (client p past) with
  | none =>
      rw [(gatherings_idle past entry asks).1] at after
      exact renew_params after
  | some a =>
      rw [(gatherings_ask past entry a asks).1] at after
      rw [asked_introduces _ _ _ asks] at fresh
      unfold Gatherings.ask at after
      dsimp only at after
      split at after
      · split at after
        · exact renew_params after
        · rename_i new named
          rw [named] at fresh
          dsimp only at after
          rw [Function.update_of_ne fun same => fresh (by rw [same])] at after
          exact renew_params after
      · split at after
        · rename_i adds
          dsimp only at after
          rw [Function.update_of_ne fun same => spared a asks adds same.symm] at after
          exact renew_params after
        · split at after
          · split at after
            · exact renew_params after
            · by_cases own : id = senderOf a.msg
              · subst own
                simp at after
              · dsimp only at after
                rw [Function.update_of_ne own] at after
                exact renew_params after
          · exact renew_params after

theorem gatherings_buffers_before {past : List Traffic} {entry : Traffic} {id : UInt32} {r : Recreatable}
    (after : (gatherings p attached (past ++ [entry])).buffers id = some r) (fresh : entry.introduces p (client p past) ≠ some id) :
    (gatherings p attached past).buffers id = some r := by
  cases asks : entry.asked p (client p past) with
  | none =>
      rw [(gatherings_idle past entry asks).2] at after
      exact renew_buffers after
  | some a =>
      rw [(gatherings_ask past entry a asks).2] at after
      rw [asked_introduces _ _ _ asks] at fresh
      unfold Gatherings.ask at after
      dsimp only at after
      split at after
      · split at after
        · exact renew_buffers after
        · exact renew_buffers after
      · split at after
        · exact renew_buffers after
        · split at after
          · split at after
            · exact renew_buffers after
            · rename_i new named
              rw [named] at fresh
              dsimp only at after
              rw [Function.update_of_ne fun same => fresh (by rw [same])] at after
              exact renew_buffers after
          · exact renew_buffers after

theorem not_asked {entry : Traffic} (quiet : entry.fromClient = false) (c : Client) : entry.asked p c = none := by
  cases entry with
  | took peer msg | skimmed peer msg => cases peer <;> first | rfl | cases quiet
  | _ => rfl

-- Only the client's own messages bring anything.
theorem gatherings_before {past added : List Traffic} (quiet : ∀ entry ∈ added, entry.fromClient = false) :
    (∀ id x, (gatherings p attached (past ++ added)).params id = some x → (gatherings p attached past).params id = some x) ∧
      ∀ id r, (gatherings p attached (past ++ added)).buffers id = some r → (gatherings p attached past).buffers id = some r := by
  induction added using List.reverseRecOn with
  | nil => simp
  | append_singleton added entry ih =>
      obtain ⟨params, buffers⟩ := ih fun other member => quiet other (List.mem_append_left _ member)
      have same := @gatherings_idle p attached (past ++ added) entry (not_asked (quiet entry (by simp)) _)
      rw [← List.append_assoc]
      refine ⟨fun id x after => params id x ?_, fun id r after => buffers id r ?_⟩
      · rw [same.1] at after
        exact renew_params after
      · rw [same.2] at after
        exact renew_buffers after

end Folding

theorem word_agrees {walk : SignatureWalk} {a b : Bytes} (agree : AgreeOutside walk a b) (at_ : Nat)
    (apart : ∀ offset, walk.Slot offset → offset + 4 ≤ at_) : wordAt b at_ = wordAt a at_ := by
  have bytes : ∀ i, byteAt b (at_ + i) = byteAt a (at_ + i) := fun i => agree.bytes _ fun offset slot => .inr (by
    have before := apart offset slot
    omega)
  simp only [wordAt]
  rw [← Nat.add_zero at_, bytes 0, bytes 1, bytes 2, bytes 3, Nat.add_zero]

theorem read_word (payload : Bytes) (offset : Nat) (inside : offset + 4 ≤ payload.length) :
    readU32 payload offset = some (wordAt payload offset) := if_pos inside

theorem create_params_captured (p : Protocol) (m : Inbound) (asks : m.isRequest "zwp_linux_dmabuf_v1" "create_params" = true) (msg : Bytes)
    (offset : Nat) (created : Creation) (planes : HashMap (UInt32 × List DmabufPlane)) :
    captureRecipe p m msg offset created planes = (none, planes.insert created.guestId (m.sender, [])) := by
  obtain ⟨request, dmabuf, named⟩ := (is_request_iff _ _ _).mp asks
  simp [captureRecipe, Inbound.isRequest, request, dmabuf, named]

section Shapes

variable (env : Env) (covered : Covered env.protocol) (ambient : Ambient) (s : Session) (msg : Bytes) (m : Inbound)
  (resolved : Resolved env.protocol s.objects .clientToHost (headerOf msg) msg m)

include covered resolved

theorem add_plain (adds : m.isRequest "zwp_linux_buffer_params_v1" "add" = true) :
    m.walk.objectOffsets = [] ∧ m.walk.newIdOffset = none ∧ m.walk.fdCount = 1 ∧ 20 ≤ (msg.drop headerLen).length := by
  obtain ⟨-, params, named⟩ := (is_request_iff _ _ _).mp adds
  have member := resolved_member env s.objects .clientToHost msg m resolved
  rw [interface_named _ _ params] at member
  have signature := (declared_entry _ _ _ _ (covered.requests _) covered.add m.desc member named).1
  refine ⟨List.length_eq_zero_iff.mp ?_, ?_, ?_, ?_⟩
  · rw [walk_object_count _ _ _ resolved.walk, signature]
    rfl
  · have located := walk_new_id _ _ _ resolved.walk
    rw [signature] at located
    exact Option.not_isSome_iff_eq_none.mp (by rw [located]; decide)
  · rw [walk_fd_count _ _ _ resolved.walk, signature]
    rfl
  · have room := walk_room _ _ _ resolved.walk
    rw [signature] at room
    exact room

-- A forwarded add gathers a plane with the first descriptor of the queue.
theorem add_turn (adds : m.isRequest "zwp_linux_buffer_params_v1" "add" = true) (otherSide : UInt32)
    (found : s.objects.hostId m.sender = some otherSide) (disposal : Disposal) (next : Session)
    (handled : Handled env ambient .clientToHost s (headerOf msg) msg disposal next) :
    next.pendingDmabufPlanes = retainPlane s.pendingDmabufPlanes m (msg.drop headerLen) (s.gtk.readFds.take 1) := by
  obtain ⟨objects, newId, fds, -⟩ := add_plain env covered s msg m resolved adds
  obtain ⟨request, params, named⟩ := (is_request_iff _ _ _).mp adds
  have translates : ∀ translated, translateObjects s.objects .clientToHost m.walk.objectOffsets msg = some translated → translated = msg := by
    intro translated is
    rw [objects] at is
    exact (Option.some.inj is).symm
  have introduces : introduceObject env.protocol s m msg = .ok (none, s, msg) := by simp only [introduceObject, newId]
  have same : ∀ m', Resolved env.protocol s.objects .clientToHost (headerOf msg) msg m' → m' = m :=
    fun m' => resolved_unique env msg s.objects _ m m' resolved
  cases handled with
  | intercepted intercepting => simp [intercepts] at intercepting
  | unknown unresolved =>
      rw [resolved.sender] at unresolved
      cases unresolved
  | parseError sender interface desc error known failed =>
      rw [resolved.sender] at known
      cases known
      rw [resolved.walk] at failed
      cases failed
  | untranslatable m' resolved' failed =>
      rw [same m' resolved', objects] at failed
      cases failed
  | unresolvableChild m' translated dropped resolved' translating failed =>
      rw [same m' resolved'] at translating failed
      rw [translates translated translating, introduces] at failed
      cases failed
  | untrackedDeleteId m' translated rewritten created introduced resolved' translating introducing failed =>
      rw [same m' resolved'] at failed
      simp [forgetDeleted, params] at failed
  | passedOn m' translated rewritten renamed created introduced forgotten next disposal spared resolved' translating introducing
      forgetting passing =>
      rw [same m' resolved'] at translating introducing forgetting passing
      rw [translates translated translating, introduces] at introducing
      cases introducing
      obtain ⟨rfl, rfl⟩ := forget_deleted_other _ _ _ _ _ forgetting (by simp [params])
      have events : ∀ interface event, m.isEvent interface event = false := by simp [Inbound.isEvent, request]
      have observed : observeInput ambient forgotten m (renamed.drop headerLen) = forgotten := by
        have quiet := request_carries_no_serial m request
        have grabs : observeGrabs forgotten.grabs m (renamed.drop headerLen) = forgotten.grabs := by simp [observeGrabs, events]
        rw [observeInput, grabs]
        simp [spliceOnInput, quiet]
      have updates : ∀ graph, updateRecipes env ambient graph m renamed = (graph, renamed) := by
        intro graph
        simp [updateRecipes, Inbound.isRequest, params]
      cases passing with
      | staleGeneration updated observed stale => simp [staleRelease, events] at stale
      | untranslatedSender noted is failed =>
          rw [observed] at is
          rw [is] at failed
          simp [otherSideSenderId, request, observeFlow, observeRecipes, found] at failed
      | forwarded noted other is fresh found' =>
          rw [observed] at is
          rw [is, updates]
          simp only [forward, payload_of_written, substitute_tee_request _ _ _ _ request, request, Direction.src, fds]
          split <;> rfl

omit covered in
-- A create_params that goes through opens its object's planes.
theorem params_turn (long : headerLen ≤ msg.length) (asks : m.isRequest "zwp_linux_dmabuf_v1" "create_params" = true) (c : UInt32)
    (newId : (callOf env.protocol m.desc m.walk msg).newId = some c) (disposal : Disposal) (next : Session)
    (handled : Handled env ambient .clientToHost s (headerOf msg) msg disposal next) :
    next.pendingDmabufPlanes.lookup c = some (m.sender, []) ∨ next.objects.interface c = none ∨
      next.objects.interface c = s.objects.interface c := by
  obtain ⟨request, dmabuf, named⟩ := (is_request_iff _ _ _).mp asks
  have same : ∀ m', Resolved env.protocol s.objects .clientToHost (headerOf msg) msg m' → m' = m :=
    fun m' => resolved_unique env msg s.objects _ m m' resolved
  cases handled with
  | intercepted intercepting => simp [intercepts] at intercepting
  | unknown | parseError | untranslatable => exact .inr (.inr rfl)
  | unresolvableChild m' translated dropped resolved' translating failed =>
      obtain ⟨-, -, rfl | ⟨guest, name, rfl⟩⟩ := introduce_object_error _ _ _ _ _ failed
      · exact .inr (.inr rfl)
      · exact .inr (.inr rfl)
  | untrackedDeleteId m' translated rewritten created introduced resolved' translating introducing failed =>
      rw [same m' resolved'] at failed
      simp [forgetDeleted, dmabuf] at failed
  | passedOn m' translated rewritten renamed created introduced forgotten next disposal spared resolved' translating introducing
      forgetting passing =>
      rw [same m' resolved'] at translating introducing forgetting passing
      obtain ⟨rfl, rfl⟩ := forget_deleted_other _ _ _ _ _ forgetting (by simp [dmabuf])
      obtain ⟨absent, -⟩ | ⟨offset, child, version, located, -, rfl, is, -⟩ := introduce_object_ok _ _ _ _ _ _ _ introducing
      · simp [callOf, absent] at newId
      · have original := original_new_id env s .clientToHost msg m resolved long translated offset located translating
        rw [resolved_decode env s.objects .clientToHost msg m resolved, Option.bind_some, newId] at original
        have guest : (createObject s.objects m.direction (wordAt translated (headerLen + offset)) child).1.guestId = c := by
          rw [request]
          exact (Option.some.inj original).symm
        have opened : forgotten.pendingDmabufPlanes = s.pendingDmabufPlanes.insert c (m.sender, []) := by
          rw [is, WlResprox.introduced]
          dsimp only
          rw [create_params_captured env.protocol m asks, guest]
        cases passing with
        | staleGeneration updated observed stale => simp [staleRelease, Inbound.isEvent, request] at stale
        | untranslatedSender noted is failed =>
            obtain ⟨objects, -, rolled⟩ := roll_back_creation_some (answerStaleSender env.protocol noted m
              (some (createObject s.objects m.direction (wordAt translated (headerLen + offset)) child).1)) m
              (createObject s.objects m.direction (wordAt translated (headerLen + offset)) child).1
            refine .inr (.inl ?_)
            rw [dropStaleSender, rolled, ShadowTable.interface_remove_guest, guest, if_pos rfl]
        | forwarded noted other noting fresh found =>
            have planes : noted.pendingDmabufPlanes = forgotten.pendingDmabufPlanes := by
              rw [noting]
              exact (observe_input_aside forgotten ambient m _).pendingDmabufPlanes
            obtain ⟨fds, -, retains⟩ := forward_retains ambient noted m
              (some (createObject s.objects m.direction (wordAt translated (headerLen + offset)) child).1)
              (writeSenderId (updateRecipes env ambient (observeInput ambient forgotten m (renamed.drop headerLen)).graph m renamed).2 other)
            refine .inl ?_
            rw [retains, planes, opened]
            simp [retainPlane, Inbound.isRequest, dmabuf]

end Shapes

-- The words of a request, read past its header.
theorem read_payload (msg : Bytes) (offset : Nat) (inside : offset + 4 ≤ (msg.drop headerLen).length) :
    readU32 (msg.drop headerLen) offset = some (wordAt msg (headerLen + offset)) := by
  rw [read_word _ offset inside, word_at_payload]

theorem plane_of_words (msg : Bytes) (fd : Fd) (long : 20 ≤ (msg.drop headerLen).length) :
    planeOf (msg.drop headerLen) fd = some (addedPlane msg fd) := by
  have first := read_payload msg 0 (by omega)
  rw [Nat.add_zero] at first
  have second := read_payload msg 4 (by omega)
  have third := read_payload msg 8 (by omega)
  have fourth := read_payload msg 12 (by omega)
  have fifth := read_payload msg 16 (by omega)
  simp only [planeOf, first, second, third, fourth, fifth, addedPlane]

section Immediate

variable (env : Env) (covered : Covered env.protocol) (s : Session) (msg : Bytes) (m : Inbound)
  (resolved : Resolved env.protocol s.objects .clientToHost (headerOf msg) msg m)

include covered resolved

-- What a create_immed captures of its message: the relay has overwritten no
-- word but the new id.
theorem immediate_captured (immed : m.isRequest "zwp_linux_buffer_params_v1" "create_immed" = true) (offset : Nat)
    (located : m.walk.newIdOffset = some offset) (translated : Bytes) (rewrites : Rewrites m.walk msg translated)
    (gathered : UInt32 × List DmabufPlane) :
    dmabufBufferRecipe (some gathered) (translated.drop headerLen) offset = some (immediateBuffer msg gathered) := by
  obtain ⟨-, params, named⟩ := (is_request_iff _ _ _).mp immed
  have member := resolved_member env s.objects .clientToHost msg m resolved
  have signature := (covered.createImmed.2 m.interface (by rw [params]; decide) m.desc member named).1
  have walked := resolved.walk
  rw [signature] at walked
  have zero : offset = 0 := Option.some.inj (located.symm.trans (walk_leading_new_id _ _ _ (by decide) walked))
  have objects : m.walk.objectOffsets = [] := List.length_eq_zero_iff.mp (walk_object_count _ _ _ walked)
  have room : 20 ≤ (msg.drop headerLen).length := walk_room _ _ _ walked
  have apart : ∀ slot, m.walk.Slot slot → slot = 0 := by
    rintro slot (object | new)
    · rw [objects] at object
      cases object
    · exact Option.some.inj (new.symm.trans (located.trans (congrArg some zero)))
  have reads : ∀ at_, 4 ≤ at_ → at_ + 4 ≤ 20 → readU32 (translated.drop headerLen) at_ = some (wordAt msg (headerLen + at_)) := by
    intro at_ past inside
    rw [read_word _ at_ (by rw [rewrites.payload.lengths]; omega), word_agrees rewrites.payload at_ fun slot is => by rw [apart slot is]; omega,
      word_at_payload]
  subst zero
  have width := reads (0 + 4) (by decide) (by decide)
  have height := reads (0 + 8) (by decide) (by decide)
  have format := reads (0 + 12) (by decide) (by decide)
  have flags := reads (0 + 16) (by decide) (by decide)
  simp only [dmabufBufferRecipe, width, height, format, flags, immediateBuffer]

end Immediate

end WlResprox
