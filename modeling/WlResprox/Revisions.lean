import WlResprox.AppIds
import WlResprox.Gathering

set_option autoImplicit false

namespace WlResprox

-- What a request says of an object that has a recipe.
inductive Revision where
  | size (bytes : Int32)
  | title (text : String)
  | appId (id : String)
  | destination (width height : Int32)
deriving DecidableEq

def Revision.apply : Revision → Recreatable → Recreatable
  | .size bytes, .shmPool wlShm fd _ => .shmPool wlShm fd bytes
  | .title text, .xdgToplevel parent _ held => .xdgToplevel parent (some text) held
  | .appId id, .xdgToplevel parent held _ => .xdgToplevel parent held (some id)
  | .destination width height, .viewport viewporter surface _ => .viewport viewporter surface (some (width, height))
  | _, recipe => recipe

def revised (said : Option (UInt32 × Revision)) (g : UInt32) (recipe : Recreatable) : Recreatable :=
  match said with
  | some (id, revision) => if id = g then revision.apply recipe else recipe
  | none => recipe

def Inbound.revision (env : Env) (ambient : Ambient) (m : Inbound) (payload : Bytes) : Option Revision :=
  if m.isRequest "wl_shm_pool" "resize" then (readU32 payload 0).map fun size => .size size.toInt32
  else if m.isRequest "xdg_toplevel" "set_title" then (readStr payload 0).map fun read => .title read.1
  else if m.isRequest "xdg_toplevel" "set_app_id" then (readStr payload 0).map fun read => .appId (forwardedAppId env ambient read.1)
  else if m.isRequest "wp_viewport" "set_destination" then
    (readU32 payload 0).bind fun width => (readU32 payload 4).map fun height => .destination width.toInt32 height.toInt32
  else none

-- What the client says in a message, by what its sender is in the table.
def revisionOf (env : Env) (ambient : Ambient) (objects : ShadowTable) (msg : Bytes) : Option (UInt32 × Revision) :=
  match resolveSender env.protocol objects .clientToHost (headerOf msg) with
  | none => none
  | some (sender, interface, desc) =>
      match walkSignature (msg.drop headerLen) desc.signature with
      | .error _ => none
      | .ok walk => (Inbound.revision env ambient ⟨.clientToHost, headerOf msg, sender, interface, desc, walk, []⟩
          (msg.drop headerLen)).map fun revision => (sender, revision)

def revising (env : Env) (st : State) : Event → Option (UInt32 × Revision)
  | .turn ambient =>
      match st.control with
      | .relaying .clientToHost => (takeMessage st.session.gtk.readBuf).bind fun taken => revisionOf env ambient st.session.objects taken.1
      | _ => none
  | _ => none

theorem revision_of_resolved (env : Env) (ambient : Ambient) (objects : ShadowTable) (msg : Bytes) (m : Inbound)
    (resolved : Resolved env.protocol objects .clientToHost (headerOf msg) msg m) :
    revisionOf env ambient objects msg = (m.revision env ambient (msg.drop headerLen)).map fun revision => (m.sender, revision) := by
  have request := resolved.way
  simp only [revisionOf, resolved.sender, resolved.walk, Inbound.revision, Inbound.isRequest, request]

section Updates

variable (env : Env) (ambient : Ambient) (graph : RecreationGraph) (m : Inbound) (msg : Bytes)

theorem recipe_for_revision (revision : Revision) (change : Recreatable → Option Recreatable)
    (same : ∀ recipe, (change recipe).getD recipe = revision.apply recipe) (g q : UInt32) :
    (graph.update g change).recipeFor q = (graph.recipeFor q).map (revised (some (g, revision)) q) := by
  rw [recipe_for_update]
  split
  · rename_i here
    cases graph.recipeFor q with
    | none => rfl
    | some recipe => simp [revised, here, same]
  · rename_i other
    cases graph.recipeFor q with
    | none => rfl
    | some recipe => simp [revised, other]

theorem recipe_for_unrevised (q : UInt32) : graph.recipeFor q = (graph.recipeFor q).map (revised none q) := by
  cases graph.recipeFor q <;> rfl

-- The update of the graph is the revision, for the recipe that replays.
theorem update_recipes_revised (q : UInt32) :
    (updateRecipes env ambient graph m msg).1.recipeFor q = (graph.recipeFor q).map
      (revised ((m.revision env ambient (msg.drop headerLen)).map fun revision => (m.sender, revision)) q) := by
  unfold updateRecipes Inbound.revision
  dsimp only
  split
  · cases read : readU32 (msg.drop headerLen) 0 with
    | none => exact recipe_for_unrevised graph q
    | some size => exact recipe_for_revision graph (.size size.toInt32) _ (fun recipe => by cases recipe <;> rfl) m.sender q
  · split
    · cases read : readStr (msg.drop headerLen) 0 with
      | none => exact recipe_for_unrevised graph q
      | some found => exact recipe_for_revision graph (.title found.1) _ (fun recipe => by cases recipe <;> rfl) m.sender q
    · split
      · cases read : readStr (msg.drop headerLen) 0 with
        | none => exact recipe_for_unrevised graph q
        | some found =>
            dsimp only [Option.map_some]
            cases corrected : correctedAppId env ambient found.1 with
            | none =>
                rw [forwardedAppId, corrected]
                exact recipe_for_revision graph (.appId found.1) _ (fun recipe => by cases recipe <;> rfl) m.sender q
            | some id =>
                rw [forwardedAppId, corrected]
                exact recipe_for_revision graph (.appId id) _ (fun recipe => by cases recipe <;> rfl) m.sender q
      · split
        · cases first : readU32 (msg.drop headerLen) 0 with
          | none => exact recipe_for_unrevised graph q
          | some width =>
              cases second : readU32 (msg.drop headerLen) 4 with
              | none => exact recipe_for_unrevised graph q
              | some height =>
                  exact recipe_for_revision graph (.destination width.toInt32 height.toInt32) _
                    (fun recipe => by cases recipe <;> rfl) m.sender q
        · exact recipe_for_unrevised graph q

end Updates

theorem walk_plain (payload : Bytes) (signature : List ArgumentType) (walk : SignatureWalk)
    (walked : walkSignature payload signature = .ok walk) (objects : signature.count .object = 0) (newId : ArgumentType.newId ∉ signature) :
    walk.objectOffsets = [] ∧ walk.newIdOffset = none := by
  constructor
  · exact List.length_eq_zero_iff.mp ((walk_object_count _ _ _ walked).trans objects)
  · have located := walk_new_id _ _ _ walked
    rw [decide_eq_false newId] at located
    exact Option.not_isSome_iff_eq_none.mp (Bool.eq_false_iff.mp located)

section Requests

variable {env : Env} (detailed : Detailed env.protocol) (ambient : Ambient) (objects : ShadowTable) (msg : Bytes) (m : Inbound)
  (resolved : Resolved env.protocol objects .clientToHost (headerOf msg) msg m)

include detailed resolved

-- The requests that say something of an object name no other.
theorem revision_plain : (∀ payload, m.revision env ambient payload = none) ∨ (m.walk.objectOffsets = [] ∧ m.walk.newIdOffset = none) := by
  have member := resolved_member env objects .clientToHost msg m resolved
  have plain : ∀ interface request signature, m.isRequest interface request = true →
      (∀ desc ∈ env.protocol.requests ⟨interface⟩, desc.name = request → desc.signature = signature) →
      signature.count .object = 0 → ArgumentType.newId ∉ signature → m.walk.objectOffsets = [] ∧ m.walk.newIdOffset = none := by
    intro interface request signature asks known objects newId
    obtain ⟨-, named, method⟩ := (is_request_iff _ _ _).mp asks
    have walked := resolved.walk
    rw [known m.desc (by rw [← interface_named _ _ named]; exact member) method] at walked
    exact walk_plain _ _ _ walked objects newId
  have declared : ∀ interface request signature child, declared (env.protocol.requests ⟨interface⟩) request = some (signature, child) →
      ∀ desc ∈ env.protocol.requests ⟨interface⟩, desc.name = request → desc.signature = signature :=
    fun interface request signature child known desc listed named =>
      (declared_entry _ _ _ _ (detailed.requests _) known desc listed named).1
  by_cases resize : m.isRequest "wl_shm_pool" "resize" = true
  · refine .inr (plain _ _ [.int] resize (fun desc listed named => ?_) (by decide) (by decide))
    rw [find_entry _ (detailed.requests _) ⟨"resize", false, [.int], none⟩ desc detailed.resize listed named]
  by_cases title : m.isRequest "xdg_toplevel" "set_title" = true
  · exact .inr (plain _ _ [.str] title (declared _ _ _ _ detailed.setTitle) (by decide) (by decide))
  by_cases appId : m.isRequest "xdg_toplevel" "set_app_id" = true
  · exact .inr (plain _ _ [.str] appId (declared _ _ _ _ detailed.setAppId) (by decide) (by decide))
  by_cases destination : m.isRequest "wp_viewport" "set_destination" = true
  · exact .inr (plain _ _ [.int, .int] destination (declared _ _ _ _ detailed.setDestination) (by decide) (by decide))
  · exact .inl fun payload => by simp [Inbound.revision, resize, title, appId, destination]

theorem revision_kept (out : Bytes) (rewrites : Rewrites m.walk msg out) :
    m.revision env ambient (out.drop headerLen) = m.revision env ambient (msg.drop headerLen) := by
  rcases revision_plain detailed ambient objects msg m resolved with never | ⟨plain, newId⟩
  · rw [never, never]
  · rw [agree_plain m.walk _ _ rewrites.payload plain newId]

end Requests

-- What a creating request says its object is made of. The descriptor of a pool
-- and the planes of a dmabuf buffer come from elsewhere.
inductive Describes (p : Protocol) (m : Inbound) (msg : Bytes) (planes : HashMap (UInt32 × List DmabufPlane)) :
    Recreatable → Prop where
  | global (request : m.isRequest "wl_registry" "bind" = true) (interface : Interface) (offset : Nat)
      (named : (callOf p m.desc m.walk msg).child = some interface) (located : m.walk.newIdOffset = some offset) :
      Describes p m msg planes (.global interface (wordAt msg (headerLen + offset - 4)))
  | surface (request : m.isRequest "wl_compositor" "create_surface" = true) : Describes p m msg planes (.surface (senderOf msg))
  | xdgSurface (request : m.isRequest "xdg_wm_base" "get_xdg_surface" = true) :
      Describes p m msg planes (.xdgSurface (senderOf msg) (wordAt msg (headerLen + 4)))
  | xdgToplevel (request : m.isRequest "xdg_surface" "get_toplevel" = true) :
      Describes p m msg planes (.xdgToplevel (senderOf msg) none none)
  | shmPool (request : m.isRequest "wl_shm" "create_pool" = true) (fd : Fd) :
      Describes p m msg planes (.shmPool (senderOf msg) fd (wordAt msg (headerLen + 4)).toInt32)
  | shmBuffer (request : m.isRequest "wl_shm_pool" "create_buffer" = true) :
      Describes p m msg planes (.shmBuffer (senderOf msg) (wordAt msg (headerLen + 4)).toInt32 (wordAt msg (headerLen + 8)).toInt32
        (wordAt msg (headerLen + 12)).toInt32 (wordAt msg (headerLen + 16)).toInt32 (wordAt msg (headerLen + 20)))
  | dmabufBuffer (request : m.isRequest "zwp_linux_buffer_params_v1" "create_immed" = true) (gathered : UInt32 × List DmabufPlane)
      (added : planes.lookup (senderOf msg) = some gathered) : Describes p m msg planes (immediateBuffer msg gathered)
  | seatDevice (kind : SeatDeviceKind) (request : m.isRequest "wl_seat" kind.requestName = true) :
      Describes p m msg planes (.seatDevice (senderOf msg) kind)
  | viewport (request : m.isRequest "wp_viewporter" "get_viewport" = true) :
      Describes p m msg planes (.viewport (senderOf msg) (wordAt msg (headerLen + 4)) none)
  | fractionalScale (request : m.isRequest "wp_fractional_scale_manager_v1" "get_fractional_scale" = true) :
      Describes p m msg planes (.fractionalScale (senderOf msg) (wordAt msg (headerLen + 4)))

theorem walk_second_after_new_id (payload : Bytes) (walk : SignatureWalk) (walked : walkSignature payload [.newId, .object] = .ok walk) :
    walk.objectOffsets = [4] := by
  obtain ⟨last, from_start, rfl⟩ := walk_signature_from payload _ walk walked
  obtain ⟨one, first, remaining⟩ := walk_from_cons payload _ last .newId _ from_start
  obtain ⟨two, second, done⟩ := walk_from_cons payload _ last .object _ remaining
  cases done
  have strides := walk_argument_strides payload _ one .newId first
  have placed : one.offset = 4 := by
    obtain (member | named) | ⟨-, stop, -⟩ := strides.slots 0 (.inr (strides.newId rfl))
    · cases member
    · cases named
    · exact stop
  rw [(walk_argument_strides payload one _ .object second).objects, strides.objects, placed]
  rfl

-- The new id of a bind comes behind its name.
theorem walk_new_id_behind (payload : Bytes) (walk : SignatureWalk) (rest : List ArgumentType) (offset : Nat)
    (walked : walkSignature payload (.uint :: rest) = .ok walk) (located : walk.newIdOffset = some offset) : 4 ≤ offset := by
  obtain ⟨last, from_start, rfl⟩ := walk_signature_from payload _ walk walked
  obtain ⟨one, first, remaining⟩ := walk_from_cons payload _ last .uint rest from_start
  have strides := walk_argument_strides payload _ one .uint first
  have stop := walk_word payload _ one .uint (.inl rfl) first
  have walks := walk_from_walks payload one last rest remaining (strides_placed payload _ one .uint strides placed_start)
  obtain earlier | later := walks.slots offset (.inr located)
  · obtain (member | named) | ⟨-, -, object | new⟩ := strides.slots offset earlier
    · cases member
    · cases named
    · cases object
    · cases new
  · omega

section Creations

variable {env : Env} (covered : Covered env.protocol) (s : Session) (msg : Bytes) (m : Inbound)
  (resolved : Resolved env.protocol s.objects .clientToHost (headerOf msg) msg m) (out : Bytes) (rewrites : Rewrites m.walk msg out)

include resolved in
theorem creating_walk (interface request child : String) (signature : List ArgumentType) (creates : Creates env.protocol request signature child)
    (asks : m.isRequest interface request = true) (recovered : interface ∈ recoveredInterfaces) :
    walkSignature (msg.drop headerLen) signature = .ok m.walk := by
  obtain ⟨-, named, method⟩ := (is_request_iff _ _ _).mp asks
  have member := resolved_member env s.objects .clientToHost msg m resolved
  have walked := resolved.walk
  rwa [(creates.2 m.interface (by rw [named]; exact recovered) m.desc member method).1] at walked

include rewrites in
-- The words behind a leading new id are the client's own.
theorem creating_words (rest : List ArgumentType) (none : ArgumentType.newId ∉ rest) (plain : rest.count .object = 0)
    (walked : walkSignature (msg.drop headerLen) (.newId :: rest) = .ok m.walk) (k : Nat) (behind : 4 ≤ k)
    (inside : k + 4 ≤ 4 * (ArgumentType.newId :: rest).countP (· ≠ .fd)) :
    readU32 (out.drop headerLen) k = some (wordAt msg (headerLen + k)) := by
  have room := walk_room _ _ _ walked
  have objects : m.walk.objectOffsets = [] := List.length_eq_zero_iff.mp ((walk_object_count _ _ _ walked).trans (by simpa using plain))
  have apart : ∀ slot, m.walk.Slot slot → slot = 0 := by
    rintro slot (object | new)
    · rw [objects] at object
      cases object
    · exact Option.some.inj (new.symm.trans (walk_leading_new_id _ _ _ none walked))
  rw [read_word _ k (by rw [rewrites.payload.lengths]; omega), word_agrees rewrites.payload k fun slot is => by rw [apart slot is]; omega,
    word_at_payload]

include resolved in
theorem original_second (interface request child : String) (creates : Creates env.protocol request [.newId, .object] child)
    (asks : m.isRequest interface request = true) (recovered : interface ∈ recoveredInterfaces) :
    m.originals.head? = some (wordAt msg (headerLen + 4)) := by
  have walked := creating_walk s msg m resolved interface request child _ creates asks recovered
  rw [resolved.originals, walk_second_after_new_id _ _ walked]
  rfl

include covered resolved rewrites in
-- The version of a bind is the word before its new id.
theorem bind_version (asks : m.isRequest "wl_registry" "bind" = true) (offset : Nat) (located : m.walk.newIdOffset = some offset)
    (interface : Interface) : requestedVersion env.protocol out offset interface = wordAt msg (headerLen + offset - 4) := by
  obtain ⟨-, registry, named⟩ := (is_request_iff _ _ _).mp asks
  have member := resolved_member env s.objects .clientToHost msg m resolved
  rw [interface_named _ _ registry] at member
  have known := covered.bind
  have entry : m.desc = ⟨"bind", false, [.uint, .str, .uint, .newId], none⟩ :=
    List.inj_on_of_nodup_map (covered.requests _).distinct member (List.mem_of_getElem? known) named
  have walked := resolved.walk
  rw [entry] at walked
  have behind := walk_new_id_behind _ _ _ offset walked located
  have inside := walk_slot_fits _ _ _ walked offset (.inr located)
  have objects : m.walk.objectOffsets = [] := List.length_eq_zero_iff.mp (walk_object_count _ _ _ walked)
  have agrees : wordAt (out.drop headerLen) (offset - 4) = wordAt (msg.drop headerLen) (offset - 4) := by
    have bytes : ∀ i, offset - 4 + i < offset → byteAt (out.drop headerLen) (offset - 4 + i) = byteAt (msg.drop headerLen) (offset - 4 + i) := by
      intro i before
      refine rewrites.payload.bytes _ fun slot is => .inl ?_
      rcases is with object | new
      · rw [objects] at object
        cases object
      · rwa [Option.some.inj (new.symm.trans located)]
    have first := bytes 0 (by omega)
    simp only [Nat.add_zero] at first
    simp only [wordAt, first, bytes 1 (by omega), bytes 2 (by omega), bytes 3 (by omega)]
  have place : headerLen + offset - 4 = headerLen + (offset - 4) := by omega
  have length := rewrites.payload.lengths
  rw [List.length_drop, List.length_drop] at length
  rw [List.length_drop] at inside
  rw [requestedVersion, read_word out _ (by omega), Option.getD_some, place, word_at_payload, agrees, ← word_at_payload]

include covered resolved rewrites in
theorem captured_describes (offset : Nat) (c : Creation) (planes planes' : HashMap (UInt32 × List DmabufPlane)) (recipe : Recreatable)
    (located : m.walk.newIdOffset = some offset) (child : (callOf env.protocol m.desc m.walk msg).child = some c.interface)
    (captured : Captured env.protocol m out offset c planes (some recipe, planes')) :
    Describes env.protocol m msg planes recipe := by
  have sender : m.sender = senderOf msg := resolved_request env s.objects .clientToHost msg m resolved rfl
  generalize made : some recipe = given at captured
  cases captured with
  | nothing | params => cases made
  | global request listed =>
      cases made
      rw [bind_version covered s msg m resolved out rewrites request offset located]
      exact .global request c.interface offset child located
  | surface request =>
      cases made
      rw [sender]
      exact .surface request
  | xdgToplevel request =>
      cases made
      rw [sender]
      exact .xdgToplevel request
  | seatDevice kind request =>
      cases made
      rw [sender]
      exact .seatDevice kind request
  | xdgSurface request =>
      rw [original_second s msg m resolved _ _ _ covered.getXdgSurface request (by decide)] at made
      cases made
      rw [sender]
      exact .xdgSurface request
  | viewport request =>
      rw [original_second s msg m resolved _ _ _ covered.getViewport request (by decide)] at made
      cases made
      rw [sender]
      exact .viewport request
  | fractionalScale request =>
      rw [original_second s msg m resolved _ _ _ covered.getFractionalScale request (by decide)] at made
      cases made
      rw [sender]
      exact .fractionalScale request
  | shmBuffer request =>
      have walked := creating_walk s msg m resolved _ _ _ _ covered.createBuffer request (by decide)
      have zero : offset = 0 := Option.some.inj (located.symm.trans (walk_leading_new_id _ _ _ (by decide) walked))
      have reads := creating_words msg m out rewrites _ (by decide) (by decide) walked
      subst zero
      have first := reads (0 + 4) (by decide) (by decide)
      have second := reads (0 + 8) (by decide) (by decide)
      have third := reads (0 + 12) (by decide) (by decide)
      have fourth := reads (0 + 16) (by decide) (by decide)
      have fifth := reads (0 + 20) (by decide) (by decide)
      simp only [shmBufferRecipe, first, second, third, fourth, fifth] at made
      cases made
      rw [sender]
      exact .shmBuffer request
  | dmabufBuffer request =>
      cases gathered : planes.lookup m.sender with
      | none =>
          rw [gathered] at made
          simp [dmabufBufferRecipe] at made
      | some added =>
          rw [gathered, immediate_captured env covered s msg m resolved request offset located out rewrites added] at made
          cases made
          exact .dmabufBuffer request added (by rw [← sender]; exact gathered)

end Creations

theorem create_pool_captured (p : Protocol) (m : Inbound) (asks : m.isRequest "wl_shm" "create_pool" = true) (msg : Bytes) (offset : Nat)
    (created : Creation) (planes : HashMap (UInt32 × List DmabufPlane)) : captureRecipe p m msg offset created planes = (none, planes) := by
  obtain ⟨request, shm, named⟩ := (is_request_iff _ _ _).mp asks
  simp [captureRecipe, Inbound.isRequest, request, shm, named]

theorem create_pool_updates (env : Env) (ambient : Ambient) (graph : RecreationGraph) (m : Inbound)
    (asks : m.isRequest "wl_shm" "create_pool" = true) (msg : Bytes) : updateRecipes env ambient graph m msg = (graph, msg) := by
  obtain ⟨request, shm, named⟩ := (is_request_iff _ _ _).mp asks
  simp [updateRecipes, Inbound.isRequest, request, shm, named]

theorem retain_pool_other (graph : RecreationGraph) (m : Inbound) (payload : Bytes) (created : Option Creation) (fds : List Fd)
    (other : m.isRequest "wl_shm" "create_pool" = false) : retainPool graph m payload created fds = graph :=
  if_neg (by simp [other])

theorem recipe_for_removed (graph : RecreationGraph) (gone g : UInt32) (r : Recreatable) (held : (graph.remove gone).recipeFor g = some r) :
    graph.recipeFor g = some r := by
  rw [recipe_for_remove] at held
  split at held
  · cases held
  · exact held

theorem drop_stale_sender_recipes (p : Protocol) (s : Session) (m : Inbound) (created : Option Creation) (g : UInt32) (r : Recreatable)
    (held : (dropStaleSender p s m created).graph.recipeFor g = some r) : s.graph.recipeFor g = some r := by
  have answered : (answerStaleSender p s m created).graph.recipeFor g = some r → s.graph.recipeFor g = some r := by
    unfold answerStaleSender
    split
    · dsimp only
      rw [(synthesize_delete_id_aside p s m.sender).graph]
      exact recipe_for_removed s.graph m.sender g r
    · split
      · split
        · exact id
        · rename_i callback
          rw [(synthesize_frame_done_aside p s callback.guestId).graph]
          exact id
      · exact id
  cases created with
  | none => exact answered held
  | some phantom =>
      obtain ⟨objects, -, rolled⟩ := roll_back_creation_some (answerStaleSender p s m (some phantom)) m phantom
      rw [dropStaleSender, rolled] at held
      exact answered (recipe_for_removed _ _ g r held)

section Turns

variable {env : Env} (covered : Covered env.protocol) (ambient : Ambient) (s : Session) (msg : Bytes) (m : Inbound)
  (resolved : Resolved env.protocol s.objects .clientToHost (headerOf msg) msg m) (long : headerLen ≤ msg.length)

include covered resolved long

-- A pool's recipe is made where the descriptor passes through.
theorem pool_turn (asks : m.isRequest "wl_shm" "create_pool" = true) (disposal : Disposal) (next : Session)
    (handled : Handled env ambient .clientToHost s (headerOf msg) msg disposal next) (g : UInt32) (r : Recreatable)
    (held : next.graph.recipeFor g = some r) : s.graph.recipeFor g = some r ∨
      ((callOf env.protocol m.desc m.walk msg).newId = some g ∧ Describes env.protocol m msg s.pendingDmabufPlanes r) := by
  obtain ⟨request, shm, named⟩ := (is_request_iff _ _ _).mp asks
  have sender : m.sender = senderOf msg := resolved_request env s.objects .clientToHost msg m resolved rfl
  have same : ∀ m', Resolved env.protocol s.objects .clientToHost (headerOf msg) msg m' → m' = m :=
    fun m' => resolved_unique env msg s.objects _ m m' resolved
  cases handled with
  | intercepted intercepting => simp [intercepts] at intercepting
  | unknown | parseError | untranslatable => exact .inl held
  | unresolvableChild m' translated dropped resolved' translating failed =>
      obtain ⟨-, -, rfl | ⟨guest, name, rfl⟩⟩ := introduce_object_error _ _ _ _ _ failed
      · exact .inl held
      · exact .inl held
  | untrackedDeleteId m' translated rewritten created introduced resolved' translating introducing failed =>
      rw [same m' resolved'] at failed
      simp [forgetDeleted, shm] at failed
  | passedOn m' translated rewritten renamed created introduced forgotten next disposal spared resolved' translating introducing
      forgetting passing =>
      rw [same m' resolved'] at translating introducing forgetting passing
      have keeps : ¬(m.interface.name = "wl_display" ∧ m.desc.name = "delete_id") := by simp [shm]
      have rewrites : Rewrites m.walk msg rewritten :=
        introduced_rewrites env s.objects _ _ msg m resolved long s introduced translated rewritten created translating introducing
      obtain ⟨rfl, rfl⟩ := forget_deleted_other _ _ _ _ _ forgetting keeps
      have walked := creating_walk s msg m resolved _ _ _ _ covered.createPool asks (by decide)
      have kept : forgotten.graph = s.graph ∧ ∀ c, created = some c → (callOf env.protocol m.desc m.walk msg).newId = some c.guestId := by
        obtain ⟨-, rfl, rfl, -⟩ | ⟨offset, child, version, located, -, rfl, is, -⟩ := introduce_object_ok _ _ _ _ _ _ _ introducing
        · exact ⟨rfl, fun c none => by cases none⟩
        · refine ⟨?_, fun c is => ?_⟩
          · rw [is, WlResprox.introduced]
            dsimp only
            rw [create_pool_captured env.protocol m asks]
            rfl
          · cases is
            have original := original_new_id env s .clientToHost msg m resolved long translated offset located translating
            rw [resolved_decode env s.objects .clientToHost msg m resolved, Option.bind_some] at original
            rw [original, request]
            rfl
      have noted : ∀ noted : Session,
          noted = observeFlow (observeRecipes env ambient (observeInput ambient forgotten m (renamed.drop headerLen)) m renamed) m created →
          noted.graph = s.graph := by
        intro noted noting
        have observed : noted.graph = (observeInput ambient forgotten m (renamed.drop headerLen)).graph := by
          rw [noting]
          show (updateRecipes env ambient (observeInput ambient forgotten m (renamed.drop headerLen)).graph m renamed).1 = _
          rw [create_pool_updates env ambient _ m asks]
        rw [observed, (observe_input_aside forgotten ambient m (renamed.drop headerLen)).graph]
        exact kept.1
      cases passing with
      | staleGeneration updated observed stale => simp [staleRelease, Inbound.isEvent, request] at stale
      | untranslatedSender noted' is failed =>
          have earlier := drop_stale_sender_recipes env.protocol noted' m created g r held
          rw [noted noted' is] at earlier
          exact .inl earlier
      | forwarded noted' other noting fresh found =>
          obtain ⟨fds, graph, -⟩ := forward_retains ambient noted' m created
            (writeSenderId (updateRecipes env ambient (observeInput ambient forgotten m (renamed.drop headerLen)).graph m renamed).2 other)
          rw [graph, noted noted' noting, create_pool_updates env ambient _ m asks, payload_of_written] at held
          unfold retainPool at held
          rw [if_pos asks] at held
          split at held
          · rename_i c fd last
            have located := walk_leading_new_id _ _ _ (by decide) walked
            have size := creating_words msg m renamed rewrites _ (by decide) (by decide) walked (0 + 4) (by decide) (by decide)
            simp only [located, Option.bind_some, size, Option.getD_some, recipe_for_record] at held
            split at held
            · rename_i here
              cases held
              rw [sender]
              exact .inr ⟨by rw [← here]; exact kept.2 c rfl, .shmPool asks fd⟩
            · exact .inl held
          · exact .inl held

end Turns

-- A message creates the object, and its words are what the recipe says.
def Founds (env : Env) (s : Session) (msg : Bytes) (g : UInt32) (r : Recreatable) : Prop :=
  ∃ m, Resolved env.protocol s.objects .clientToHost (headerOf msg) msg m ∧ (callOf env.protocol m.desc m.walk msg).newId = some g ∧
    Describes env.protocol m msg s.pendingDmabufPlanes r

-- A recipe behind a message is made by it, or is what it revises.
def Turned (env : Env) (ambient : Ambient) (s : Session) (msg : Bytes) (g : UInt32) (r : Recreatable) : Prop :=
  Founds env s msg g r ∨ ∃ earlier, s.graph.recipeFor g = some earlier ∧ r = revised (revisionOf env ambient s.objects msg) g earlier

theorem revision_of_some (env : Env) (ambient : Ambient) (objects : ShadowTable) (msg : Bytes) (said : UInt32 × Revision)
    (speaks : revisionOf env ambient objects msg = some said) : ∃ m, Resolved env.protocol objects .clientToHost (headerOf msg) msg m ∧
      m.revision env ambient (msg.drop headerLen) = some said.2 := by
  unfold revisionOf at speaks
  split at speaks
  · cases speaks
  · rename_i sender interface desc known
    split at speaks
    · cases speaks
    · rename_i walk walked
      obtain ⟨revision, reads, rfl⟩ := Option.map_eq_some_iff.mp speaks
      exact ⟨⟨.clientToHost, headerOf msg, sender, interface, desc, walk, walk.objectOffsets.map fun offset => wordAt msg (headerLen + offset)⟩,
        ⟨rfl, rfl, known, walked, rfl⟩, reads⟩

section Noted

variable {env : Env} (detailed : Detailed env.protocol) (ambient : Ambient) (s : Session) (msg : Bytes)

include detailed

theorem noted_turned (m : Inbound) (created : Option Creation) (translated rewritten : Bytes) (noted : Session)
    (noting : RequestNoted env ambient s msg m created translated rewritten noted) (g : UInt32) (r : Recreatable)
    (held : noted.graph.recipeFor g = some r) : Turned env ambient s msg g r := by
  have told := revision_of_resolved env ambient s.objects msg m noting.resolved
  obtain ⟨graph, creates, updated⟩ := noting.creates
  rw [updated, update_recipes_revised, revision_kept detailed ambient s.objects msg m noting.resolved rewritten noting.rewrites,
    ← told] at held
  obtain ⟨earlier, before, rfl⟩ := Option.map_eq_some_iff.mp held
  generalize noted.objects = objects at creates
  generalize noted.pendingDmabufPlanes = planes at creates
  cases creates with
  | nothing => exact .inr ⟨earlier, before, rfl⟩
  | object c offset recipe planes' located newId child is captured =>
      -- a request that creates says nothing of what there already is
      have silent : revisionOf env ambient s.objects msg = none := by
        rw [told]
        rcases revision_plain detailed ambient s.objects msg m noting.resolved with never | ⟨-, none⟩
        · rw [never]
          rfl
        · rw [located] at none
          cases none
      rw [silent]
      cases recipe with
      | none => exact .inr ⟨earlier, before, by rw [silent]⟩
      | some made =>
          rw [recordCaptured, recipe_for_record] at before
          split at before
          · rename_i here
            cases before
            refine .inl ⟨m, noting.resolved, by rw [← here]; exact newId, ?_⟩
            exact captured_describes detailed.toCovered s msg m noting.resolved translated noting.translation offset c _ _ _ located child
              captured
          · exact .inr ⟨earlier, before, by rw [silent]⟩

theorem dropped_says_nothing (unseen : ∀ m, Resolved env.protocol s.objects .clientToHost (headerOf msg) msg m →
    translateObjects s.objects .clientToHost m.walk.objectOffsets msg = none ∨
      ((callOf env.protocol m.desc m.walk msg).newId ≠ none ∧ (callOf env.protocol m.desc m.walk msg).child = none)) :
    revisionOf env ambient s.objects msg = none := by
  cases speaks : revisionOf env ambient s.objects msg with
  | none => rfl
  | some said =>
      obtain ⟨m, resolved, reads⟩ := revision_of_some env ambient s.objects msg said speaks
      obtain never | ⟨objects, newId⟩ := revision_plain detailed ambient s.objects msg m resolved
      · rw [never] at reads
        cases reads
      · rcases unseen m resolved with untranslated | ⟨creates, -⟩
        · rw [objects] at untranslated
          cases untranslated
        · exact absurd (by simp [callOf, newId]) creates

omit detailed in
theorem pool_says_nothing (m : Inbound) (resolved : Resolved env.protocol s.objects .clientToHost (headerOf msg) msg m)
    (asks : m.isRequest "wl_shm" "create_pool" = true) : revisionOf env ambient s.objects msg = none := by
  obtain ⟨request, shm, named⟩ := (is_request_iff _ _ _).mp asks
  rw [revision_of_resolved env ambient s.objects msg m resolved]
  simp [Inbound.revision, Inbound.isRequest, shm]

theorem request_turned (long : headerLen ≤ msg.length) (disposal : Disposal) (next : Session)
    (handled : Handled env ambient .clientToHost s (headerOf msg) msg disposal next) (g : UInt32) (r : Recreatable)
    (held : next.graph.recipeFor g = some r) : Turned env ambient s msg g r := by
  have turn := request_turn env detailed.toCovered ambient s msg long disposal next handled
  cases turn with
  | dropped table rest unseen =>
      rw [rest] at held
      exact .inr ⟨r, held, by rw [dropped_says_nothing detailed ambient s msg unseen]; rfl⟩
  | stale m created translated rewritten noted noting failed is =>
      rw [is] at held
      exact noted_turned detailed ambient s msg m created translated rewritten noted noting g r
        (drop_stale_sender_recipes env.protocol noted m created g r held)
  | passed m created translated rewritten out noted otherSide noting found outgoing is =>
      by_cases asks : m.isRequest "wl_shm" "create_pool" = true
      · rcases pool_turn detailed.toCovered ambient s msg m noting.resolved long asks disposal next handled g r held with kept | founds
        · exact .inr ⟨r, kept, by rw [pool_says_nothing ambient s msg m noting.resolved asks]; rfl⟩
        · exact .inl ⟨m, noting.resolved, founds⟩
      · obtain ⟨fds, graph, -⟩ := forward_retains ambient noted m created (writeSenderId out otherSide)
        have kept := retain_pool_other noted.graph m ((writeSenderId out otherSide).drop headerLen) created fds (by simpa using asks)
        rw [is, graph, kept] at held
        exact noted_turned detailed ambient s msg m created translated rewritten noted noting g r held

omit detailed in
theorem event_turned (next : Session) (turn : EventTurn env ambient s msg next) (g : UInt32) (r : Recreatable)
    (held : next.graph.recipeFor g = some r) : s.graph.recipeFor g = some r := by
  cases turn with
  | unheard table books grabs trace =>
      rw [books.graph] at held
      exact held
  | heard m created deleted renamed noted noting outgoing names is =>
      obtain ⟨fds, graph, -⟩ := forward_retains ambient noted m created (writeSenderId renamed m.sender)
      have request : m.isRequest "wl_shm" "create_pool" = false := by simp [Inbound.isRequest, noting.resolved.way]
      rw [is, graph, retain_pool_other noted.graph m _ created fds request, noting.graph] at held
      cases deleted with
      | none => exact held
      | some guestId => exact recipe_for_removed s.graph guestId g r held

end Noted

-- The step takes a message of the client's that creates the object.
def Founding (env : Env) (st : State) (event : Event) (g : UInt32) (r : Recreatable) : Prop :=
  ∃ ambient msg consumed, event = .turn ambient ∧ st.control = .relaying .clientToHost ∧
    takeMessage st.session.gtk.readBuf = some (msg, consumed) ∧ Founds env st.session msg g r

theorem revising_unrelayed {env : Env} {st : State} {event : Event} (unrelayed : st.control ≠ .relaying .clientToHost) :
    revising env st event = none := by
  unfold revising
  split
  · split
    · rename_i relaying
      exact absurd relaying unrelayed
    · rfl
  · rfl

theorem transition_turned {env : Env} (detailed : Detailed env.protocol) {st next : State} {event : Event}
    (transition : Transition env st event next) (g : UInt32) (r : Recreatable) (held : next.session.graph.recipeFor g = some r) :
    Founding env st event g r ∨ ∃ earlier, st.session.graph.recipeFor g = some earlier ∧ r = revised (revising env st event) g earlier := by
  by_cases relaying : ∃ direction, st.control = .relaying direction
  · cases transition with
    | relayed s next direction ambient disposal turned =>
        cases direction with
        | clientToHost =>
            obtain ⟨msg, consumed, handled, taken, handling, rfl⟩ := relay_turn_some env ambient .clientToHost s next disposal turned
            have long : headerLen ≤ msg.length := by
              rw [take_message_length _ _ _ taken]
              exact (take_message_spec _ _ _ taken).1
            have result := relay_message_handled env ambient .clientToHost (s.log (.took .gtk msg)) (headerOf msg) msg
            rw [show relayMessage env ambient .clientToHost (s.log (.took .gtk msg)) (headerOf msg) msg = (disposal, handled) from handling]
              at result
            have told : revising env ⟨s, .relaying .clientToHost⟩ (.turn ambient) = revisionOf env ambient s.objects msg := by
              simp [revising, show takeMessage s.gtk.readBuf = some (msg, consumed) from taken]
            rw [told]
            rcases request_turned detailed ambient (s.log (.took .gtk msg)) msg long disposal handled result g r held with founds | kept
            · exact .inl ⟨ambient, msg, consumed, rfl, rfl, taken, founds⟩
            · exact .inr kept
        | hostToClient =>
            obtain ⟨msg, consumed, handled, taken, long, turn, rfl⟩ :=
              relay_turn_event env detailed.toCovered ambient s next disposal turned
            exact .inr ⟨r, event_turned ambient (s.log (.took .host msg)) msg handled turn g r held, rfl⟩
    | relayDone s direction ambient starved =>
        have silent : revising env ⟨s, .relaying direction⟩ (.turn ambient) = none := by
          cases direction with
          | clientToHost => simp [revising, show takeMessage s.gtk.readBuf = none from starved]
          | hostToClient => rfl
        rw [silent]
        exact .inr ⟨r, held, rfl⟩
    | cached => exact .inr ⟨r, held, rfl⟩
    | _ => exact absurd relaying (by simp)
  · have unrelayed : ∀ direction, st.control ≠ .relaying direction := fun direction is => relaying ⟨direction, is⟩
    rw [revising_unrelayed (unrelayed .clientToHost)]
    rw [unrelayed_graph transition unrelayed] at held
    exact .inr ⟨r, held, rfl⟩

-- What the client says of its objects in a run, message by message.
def spoken (env : Env) (st : State) : List Event → List (Option (UInt32 × Revision))
  | [] => []
  | event :: rest => revising env st event :: ((step env st event).map fun next => spoken env next rest).getD []

theorem spoken_snoc {env : Env} {allowed : State → Event → Prop} {st s : State} {events : List Event}
    (run : Runs (step env) allowed st events s) (event : Event) :
    spoken env st (events ++ [event]) = spoken env st events ++ [revising env s event] := by
  have reached := run.fold
  clear run
  induction events generalizing st with
  | nil =>
      cases reached
      cases taken : step env s event <;> simp [spoken, taken]
  | cons first rest ih =>
      obtain ⟨middle, taken, onward⟩ := Option.bind_eq_some_iff.mp reached
      simp only [List.cons_append, spoken, taken, Option.map_some, Option.getD_some, ih onward]

-- The recipe of an object as the client's words make it: the request that
-- created it, and everything said of it since.
def Dictated (env : Env) (start : State) (events : List Event) (g : UInt32) (r : Recreatable) : Prop :=
  ∃ before s event next after first, events = before ++ event :: after ∧ Runs (step env) (fun _ _ => True) start before s ∧
    step env s event = some next ∧ Founding env s event g first ∧
    r = (spoken env next after).foldl (fun recipe said => revised said g recipe) first

theorem Dictated.snoc {env : Env} {start st : State} {events : List Event} {g : UInt32} {r : Recreatable}
    (dictated : Dictated env start events g r) (run : Runs (step env) (fun _ _ => True) start events st) (event : Event) :
    Dictated env start (events ++ [event]) g (revised (revising env st event) g r) := by
  obtain ⟨before, s, made, s', after, first, split, earlier, stepped, founding, rfl⟩ := dictated
  refine ⟨before, s, made, s', after ++ [event], first, by rw [split]; simp, earlier, stepped, founding, ?_⟩
  have later : Runs (step env) (fun _ _ => True) s' after st := by
    have whole := run.fold
    exact Runs.of_fold (by simpa [split, List.foldlM_append, earlier.fold, stepped] using whole)
  rw [spoken_snoc later, List.foldl_append]
  rfl

-- The window is titled twice over.
def windowTitled : List Event :=
  .gtkReadable (.data (openWindow ++ buildMessage 9 2 (putStr [] "note") ++ buildMessage 9 2 (putStr [] "notes")) []) :: turns 10

end WlResprox
