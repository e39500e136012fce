import WlResprox.AppIdReplays

set_option autoImplicit false

namespace WlResprox

-- A message its receiver can read: as long as its header says, with an opcode
-- its interface lists and a payload that walks as that signature, and with no
-- descriptor more than the signature declares.
structure Sent.Legible (p : Protocol) (m : Sent) : Prop where
  framed : Framed m.msg
  read : ∃ call, decode p m.peer.toward m.interface m.msg = some call ∧ m.fds.length ≤ call.desc.signature.count .fd

-- Of what goes to the client only the relayed events: the proxy's own follow
-- the interface a tracked id has by then.
def Traffic.Legible (p : Protocol) : Traffic → Prop
  | .sent m => m.peer = .host ∨ m.origin = .relayed → m.Legible p
  | _ => True

-- What wayland.xml says of the one request recovery writes out by hand.
def CommitsPlainly (p : Protocol) : Prop :=
  ∀ i : Interface, i.name ∈ recoveredInterfaces → ∀ desc ∈ p.requests i, desc.name = "commit" → desc.signature = []

theorem recreatable_global_short (name : String) (listed : name ∈ recreatableGlobals) : (putStr [] name).length ≤ 64 := by
  revert name
  decide +kernel

section Encoded

variable {p : Protocol}

theorem encoded_fds (signature : List ArgumentType) (values : List WaylandValue) (payload : Bytes) (fds : List Fd)
    (encoded : encodeArguments signature values = .ok (payload, fds)) : fds.length = signature.count .fd := by
  obtain ⟨rfl, -, rfl⟩ := (encode_arguments_iff _ _ _ _).mp encoded
  clear encoded
  induction values with
  | nil => rfl
  | cons value rest ih =>
      rw [List.flatMap_cons, List.length_append, ih, List.map_cons, List.count_cons, Nat.add_comm]
      cases value <;> rfl

theorem encoded_length (signature : List ArgumentType) (values : List WaylandValue) (payload : Bytes) (fds : List Fd)
    (encoded : encodeArguments signature values = .ok (payload, fds)) : payload.length = extent values := by
  obtain ⟨-, rfl, -⟩ := (encode_arguments_iff _ _ _ _).mp encoded
  rfl

-- What the proxy composes itself can be read, whatever it is for.
theorem composed_legible (origin : Origin) (interface : Interface) (sender : UInt32) (opcode : UInt16) (desc : MessageDesc)
    (values : List WaylandValue) (payload : Bytes) (fds : List Fd) (outcome : WriteOutcome)
    (listed : (p.requests interface)[opcode.toNat]? = some desc)
    (encoded : encodeArguments desc.signature values = .ok (payload, fds)) (short : extent values ≤ 65527) :
    Sent.Legible p ⟨.host, origin, interface, buildMessage sender opcode payload, fds, outcome⟩ := by
  have length := encoded_length _ _ _ _ encoded
  refine ⟨built_framed _ _ _ (by omega), _, decode_encoded p interface sender opcode desc values payload fds listed encoded (by omega), ?_⟩
  exact Nat.le_of_eq (encoded_fds _ _ _ _ encoded)

end Encoded

section Replaying

variable (p : Protocol) (s : Session) (guestId : UInt32)

theorem request_child_legible (parent : Interface) (parentHostId : UInt32) (request : String) (values : UInt32 → List WaylandValue)
    (short : ∀ hostId, extent (values hostId) ≤ 65527) (t : Session)
    (result : (requestChild p s guestId parent parentHostId request values).session = some t) : Adds (Traffic.Legible p) s t := by
  have allocated : Adds (Traffic.Legible p) s { s with objects := s.objects.allocateHostId.2 } := .same rfl
  unfold requestChild at result
  split at result
  · cases result
    exact .same rfl
  · rename_i opcode known
    dsimp only at result
    split at result
    · cases result
    · rename_i signature child shape
      split at result
      · cases result
        exact allocated
      · rename_i payload fds encoded
        obtain ⟨desc, listed, typed⟩ := Option.bind_eq_some_iff.mp shape
        obtain ⟨_, -, same⟩ := Option.map_eq_some_iff.mp typed
        cases same
        have fine : ∀ outcome, Traffic.Legible p (.sent ⟨.host, .replayed guestId, parent,
            buildMessage parentHostId opcode payload, fds, outcome⟩) :=
          fun outcome _ => composed_legible _ _ _ _ desc _ _ _ outcome listed encoded (short _)
        split at result
        · rename_i failed written
          cases result
          exact allocated.trans (.wrote written fine)
        · rename_i done written
          cases result
          exact allocated.trans (.wrote written fine)

theorem replay_request_legible (hostId : UInt32) (interface : Interface) (request : String) (values : List WaylandValue)
    (short : extent values ≤ 65527) :
    Adds (Traffic.Legible p) s (replayRequest p s guestId hostId interface request values).2 := by
  unfold replayRequest
  split
  · exact .same rfl
  · rename_i opcode known
    split
    · exact .same rfl
    · rename_i desc listed
      split
      · exact .same rfl
      · rename_i payload fds encoded
        exact .wrote rfl fun outcome _ => composed_legible _ _ _ _ desc _ _ _ outcome listed encoded short

theorem recreate_child_legible (parentGuestId : UInt32) (named : Option UInt32) (request : String)
    (values : UInt32 → UInt32 → List WaylandValue) (short : ∀ hostId otherHostId, extent (values hostId otherHostId) ≤ 65527)
    (t : Session) (result : (recreateChild p s guestId parentGuestId named request values).session = some t) :
    Adds (Traffic.Legible p) s t := by
  unfold recreateChild at result
  split at result
  · rename_i interface parentHostId namedHostId _ _ _
    have asked := request_child_legible p s guestId interface parentHostId request (fun hostId => values hostId namedHostId)
      (fun hostId => short hostId namedHostId)
    split at result
    · rename_i skipped requested
      rw [requested] at asked
      exact asked t result
    · cases result
    · rename_i child requested
      rw [requested] at asked
      cases result
      exact (asked child.session rfl).trans (.same rfl)
  · cases result
    exact .same rfl

theorem recreate_global_legible (globals : Globals) (registryHostId : UInt32) (interface : Interface) (version : UInt32) (t : Session)
    (result : recreateGlobal p globals wlRegistry registryHostId s guestId interface version = some t) :
    Adds (Traffic.Legible p) s t := by
  have allocated : Adds (Traffic.Legible p) s { s with objects := s.objects.allocateHostId.2 } := .same rfl
  unfold recreateGlobal at result
  split at result
  · cases result
    exact .same rfl
  · rename_i name freshMaxVersion chosen
    have listed : interface.name ∈ recreatableGlobals := by
      split at chosen
      · assumption
      · cases chosen
    dsimp only at result
    split at result
    · cases result
    · rename_i bind first
      split at result
      · cases result
        exact allocated
      · rename_i payload fds encoded
        have short : extent [.uint name, .string interface.name, .uint (min version freshMaxVersion),
            .newId s.objects.allocateHostId.1] ≤ 65527 := by
          have bounded := recreatable_global_short interface.name listed
          simp only [extent, WaylandValue.bytes, List.flatMap_cons, List.flatMap_nil, List.length_append, List.length_nil,
            to_ne_bytes_length]
          omega
        have fine : ∀ outcome, Traffic.Legible p (.sent ⟨.host, .replayed guestId, wlRegistry,
            buildMessage registryHostId 0 payload, fds, outcome⟩) :=
          fun outcome _ => composed_legible _ _ _ 0 bind _ _ _ outcome first encoded short
        split at result
        · rename_i failed written
          cases result
          exact allocated.trans (.wrote written fine)
        · rename_i done written
          cases result
          exact (allocated.trans (.wrote written fine)).trans (.same rfl)

theorem recreate_viewport_legible (viewporter surface : UInt32) (destination : Option (Int32 × Int32)) (t : Session)
    (result : recreateViewport p s guestId viewporter surface destination = some t) : Adds (Traffic.Legible p) s t := by
  unfold recreateViewport at result
  have created := recreate_child_legible p s guestId viewporter (some surface) "get_viewport" (fun hostId surfaceHostId =>
    [.newId hostId, .object surfaceHostId]) (fun _ _ => by simp [extent, WaylandValue.bytes, to_ne_bytes_length])
  split at result
  · rename_i child recreated
    rw [recreated] at created
    have first := created child.session rfl
    split at result
    · cases result
      exact first
    · cases result
      exact first.trans (replay_request_legible p _ _ _ _ _ _ (by simp [extent, WaylandValue.bytes, to_ne_bytes_length]))
  · exact created t result

theorem add_planes_legible (params : UInt32) (interface : Interface) (planes : List DmabufPlane) :
    Adds (Traffic.Legible p) s (addPlanes p s guestId params interface planes).2 := by
  induction planes generalizing s with
  | nil => exact .same rfl
  | cons plane rest ih =>
      have first := replay_request_legible p s guestId params interface "add" (planeValues plane)
        (by simp [planeValues, extent, WaylandValue.bytes, to_ne_bytes_length])
      simp only [addPlanes]
      split
      · rename_i written added
        rw [added] at first
        exact first.trans (ih written)
      · rename_i failed added
        rwa [added] at first

theorem recreate_dmabuf_buffer_legible (dmabuf : UInt32) (width height : Int32) (format flags : UInt32) (planes : List DmabufPlane)
    (t : Session) (result : recreateDmabufBuffer p s guestId dmabuf width height format flags planes = some t) :
    Adds (Traffic.Legible p) s t := by
  unfold recreateDmabufBuffer at result
  split at result
  · rename_i interface hostId _ _
    have asked := request_child_legible p s guestId interface hostId "create_params" (fun hostId => [.newId hostId])
      (fun _ => by simp [extent, WaylandValue.bytes, to_ne_bytes_length])
    split at result
    · rename_i params requested
      rw [requested] at asked
      have first := asked params.session rfl
      split at result
      · cases result
        exact first
      · have filled := add_planes_legible p params.session guestId params.hostId params.interface planes
        split at result
        · rename_i failed adding
          rw [adding] at filled
          cases result
          exact first.trans filled
        · rename_i added adding
          rw [adding] at filled
          have used := request_child_legible p added guestId params.interface params.hostId "create_immed" (fun hostId =>
            [.newId hostId, .int width, .int height, .uint format, .uint flags])
            (fun _ => by simp [extent, WaylandValue.bytes, to_ne_bytes_length])
          split at result
          · rename_i buffer requested'
            rw [requested'] at used
            cases result
            exact ((first.trans filled).trans (used buffer.session rfl)).trans (.same rfl)
          · exact (first.trans filled).trans (used t result)
    · exact asked t result
  · cases result
    exact .same rfl

theorem replay_string_legible (hostId : UInt32) (interface : Interface) (request : String) (text : Option String)
    (short : ∀ known, text = some known → (putStr [] known).length ≤ 65527) :
    Adds (Traffic.Legible p) s (replayString p s guestId hostId interface request text) := by
  cases text with
  | none => exact .same rfl
  | some text =>
      have fits := short text rfl
      exact replay_request_legible p s _ _ _ _ _ (by simpa [extent, WaylandValue.bytes] using fits)

-- A commit is written out by hand, so its signature has to be the empty one.
theorem send_initial_commit_legible (covered : Covered p) (commits : CommitsPlainly p) (fresh : Fresh s.objects) (xdgSurface : UInt32) :
    Adds (Traffic.Legible p) s (sendInitialCommit p s guestId xdgSurface).2 := by
  unfold sendInitialCommit
  split
  · rename_i surfaceGuestId _
    split
    · rename_i surfaceHostId surface translated typed
      split
      · exact .same rfl
      · rename_i opcode known
        obtain ⟨desc, listed, member, named⟩ := opcode_listed _ _ _ (covered.requests surface) known
        have empty := commits surface (fresh.listed _ _ _ typed translated) desc member named
        have encoded : encodeArguments desc.signature [] = .ok ([], []) := by
          rw [empty]
          rfl
        exact .wrote rfl fun outcome _ => composed_legible _ _ _ _ desc _ _ _ outcome listed encoded (by simp [extent])
    · exact .same rfl
  · exact .same rfl

theorem recreate_xdg_toplevel_legible (covered : Covered p) (commits : CommitsPlainly p) (fresh : Fresh s.objects)
    (nonzero : guestId ≠ 0) (parent : UInt32) (title appId : Option String) (t : Session) (handshake : Option Handshake)
    (titles : ∀ known, title = some known → (putStr [] known).length ≤ 65527)
    (appIds : ∀ known, appId = some known → (putStr [] known).length ≤ 65527)
    (result : recreateXdgToplevel p s guestId parent title appId = some (t, handshake)) : Adds (Traffic.Legible p) s t := by
  have created := recreate_child_legible p s guestId parent none "get_toplevel" (fun hostId _ => [.newId hostId])
    (fun _ _ => by simp [extent, WaylandValue.bytes, to_ne_bytes_length])
  have brings : Recreation.Brings p True s guestId parent _ _ :=
    child_brings covered s fresh guestId nonzero parent "get_toplevel" _ covered.getToplevel
  rcases recreate_xdg_toplevel_some p s guestId parent title appId t handshake result with
    skipped | ⟨child, titled, named, recreated, writesTitle, writesAppId, rfl⟩
  · rw [skipped] at created
    exact created t rfl
  · rw [recreated] at created brings
    have still : Fresh named.objects := by
      rw [writesAppId, replay_string_objects, writesTitle, replay_string_objects]
      exact moves_fresh (Brought.moves brings) fresh
    have first := replay_string_legible p child.session guestId child.hostId child.interface "set_title" title titles
    have second := replay_string_legible p titled guestId child.hostId child.interface "set_app_id" appId appIds
    have third := send_initial_commit_legible p named guestId covered commits still parent
    rw [← writesTitle] at first
    rw [← writesAppId] at second
    exact (((created child.session rfl).trans first).trans second).trans third

-- A recipe's texts came in a message each, so they fit into one.
def Recreatable.FitsText : Recreatable → Prop
  | .xdgToplevel _ title appId => (∀ known, title = some known → (putStr [] known).length ≤ 65527) ∧
      ∀ known, appId = some known → (putStr [] known).length ≤ 65527
  | _ => True

theorem replay_recipe_legible (covered : Covered p) (commits : CommitsPlainly p) (fresh : Fresh s.objects) (nonzero : guestId ≠ 0)
    (globals : Globals) (registryHostId : UInt32) (recipe : Recreatable) (fits : recipe.FitsText) (t : Session)
    (handshake : Option Handshake)
    (result : replayRecipe p globals wlRegistry registryHostId s guestId recipe = some (t, handshake)) :
    Adds (Traffic.Legible p) s t := by
  cases recipe
  case xdgToplevel parent title appId =>
    exact recreate_xdg_toplevel_legible p s guestId covered commits fresh nonzero parent title appId t handshake fits.1 fits.2 result
  all_goals
    obtain ⟨done, arm, same⟩ := Option.map_eq_some_iff.mp result
    cases same
  case global => exact recreate_global_legible p s guestId globals registryHostId _ _ t arm
  case viewport => exact recreate_viewport_legible p s guestId _ _ _ t arm
  case dmabufBuffer => exact recreate_dmabuf_buffer_legible p s guestId _ _ _ _ _ _ t arm
  all_goals
    exact recreate_child_legible p s guestId _ _ _ _ (fun _ _ => by simp [extent, WaylandValue.bytes, to_ne_bytes_length]) t arm

theorem ask_for_globals_legible (covered : Covered p) (registryGuestId : UInt32) :
    Adds (Traffic.Legible p) s (askForGlobals s registryGuestId).2 := by
  have allocated : Adds (Traffic.Legible p) s { s with objects := s.objects.allocateHostId.2.allocateHostId.2 } := .same rfl
  have asks : ∀ origin opcode desc id outcome, (p.requests wlDisplay)[opcode.toNat]? = some desc → desc.signature = [.newId] →
      Traffic.Legible p (.sent ⟨.host, origin, wlDisplay, buildMessage 1 opcode (putU32 [] id), [], outcome⟩) := by
    intro origin opcode desc id outcome listed signature _
    refine composed_legible origin wlDisplay 1 opcode desc [.newId id] _ _ outcome listed ?_ ?_
    · rw [signature]
      exact encoded_new_id id
    · simp [extent, WaylandValue.bytes, to_ne_bytes_length]
  simp only [askForGlobals]
  split
  · rename_i failed result
    exact allocated.trans (.wrote result fun outcome => asks _ 1 _ _ outcome covered.getRegistry rfl)
  · rename_i asked result
    exact (allocated.trans (.wrote result fun outcome => asks _ 1 _ _ outcome covered.getRegistry rfl)).trans
      (.wrote rfl fun outcome => asks _ 0 _ _ outcome covered.sync rfl)

end Replaying

section Splicing

variable {p : Protocol}

theorem create_own_object_legible (s t : Session) (interface : Interface) (sender : UInt32) (opcode : UInt16) (payload : UInt32 → Bytes)
    (desc : MessageDesc) (values : UInt32 → List WaylandValue) (listed : (p.requests interface)[opcode.toNat]? = some desc)
    (encoded : ∀ hostId, encodeArguments desc.signature (values hostId) = .ok (payload hostId, []))
    (short : ∀ hostId, extent (values hostId) ≤ 65527) (made : Option UInt32)
    (result : createOwnObject s interface sender opcode payload = (made, t)) : Adds (Traffic.Legible p) s t := by
  have allocated : Adds (Traffic.Legible p) s { s with objects := s.objects.allocateHostId.2 } := .same rfl
  have fine : ∀ outcome, Traffic.Legible p (.sent ⟨.host, .own, interface,
      buildMessage sender opcode (payload s.objects.allocateHostId.1), [], outcome⟩) :=
    fun outcome _ => composed_legible _ _ _ _ desc _ _ _ outcome listed (encoded _) (short _)
  simp only [createOwnObject] at result
  split at result
  · rename_i written wrote
    cases result
    exact allocated.trans (.wrote wrote fine)
  · rename_i failed wrote
    cases result
    exact (allocated.trans (.wrote wrote fine)).trans (.same rfl)

def FitType (mimeType : String) : Prop := (putStr [] mimeType).length ≤ 65527

variable (covered : Covered p)

include covered

theorem offer_mime_types_legible (s : Session) (source : UInt32) (mimeTypes : List String) (fit : ∀ mimeType ∈ mimeTypes, FitType mimeType) :
    Adds (Traffic.Legible p) s (offerMimeTypes s source mimeTypes).2 := by
  induction mimeTypes generalizing s with
  | nil => exact .same rfl
  | cons mimeType rest ih =>
      have fine : ∀ outcome, Traffic.Legible p (.sent ⟨.host, .own, wlDataSource, buildMessage source 0 (putStr [] mimeType), [], outcome⟩) := by
        intro outcome _
        have encoded : encodeArguments [.str] [.string mimeType] = .ok (putStr [] mimeType, []) := by
          simp [encodeArguments, encodeFrom, encodeArgument]
        have fits := fit mimeType List.mem_cons_self
        exact composed_legible _ _ _ 0 _ [.string mimeType] _ _ outcome covered.offer encoded
          (by simpa [extent, WaylandValue.bytes, FitType] using fits)
      simp only [offerMimeTypes]
      split
      · rename_i written result
        exact (Adds.wrote result fine).trans (ih written fun other member => fit other (List.mem_cons_of_mem _ member))
      · rename_i failed result
        exact .wrote result fine

theorem claim_selection_legible (s : Session) (registry seat name version serial : UInt32) (mimeTypes : List String)
    (fit : ∀ mimeType ∈ mimeTypes, FitType mimeType) :
    Adds (Traffic.Legible p) s (claimSelection s registry seat name version serial mimeTypes) := by
  have binds := fun t made result => create_own_object_legible s t wlRegistry registry 0
    (bindPayload name "wl_data_device_manager" version) _
    (fun hostId => [.uint name, .string "wl_data_device_manager", .uint version, .newId hostId]) covered.bind
    (fun hostId => encoded_bind name version hostId "wl_data_device_manager")
    (fun _ => by
      have named : (putStr [] "wl_data_device_manager").length ≤ 64 := by decide +kernel
      simp only [extent, WaylandValue.bytes, List.flatMap_cons, List.flatMap_nil, List.length_append, List.length_nil,
        to_ne_bytes_length]
      omega) made result
  have sources := fun (s t : Session) (ddm : UInt32) made result => create_own_object_legible s t wlDataDeviceManager ddm 0 (putU32 []) _
    (fun hostId => [.newId hostId]) covered.createDataSource encoded_new_id
    (fun _ => by simp [extent, WaylandValue.bytes, to_ne_bytes_length]) made result
  have fetches := fun (s t : Session) (ddm : UInt32) made result => create_own_object_legible s t wlDataDeviceManager ddm 1
    (fun hostId => putU32 (putU32 [] hostId) seat) _ (fun hostId => [.newId hostId, .object seat]) covered.getDataDevice
    (fun hostId => encoded_new_id_object hostId seat)
    (fun _ => by simp [extent, WaylandValue.bytes, to_ne_bytes_length]) made result
  have selects : ∀ device source outcome, Traffic.Legible p (.sent ⟨.host, .own, wlDataDevice,
      buildMessage device 1 (putU32 (putU32 [] source) serial), [], outcome⟩) := fun device source outcome _ =>
    composed_legible _ _ _ 1 _ [.object source, .uint serial] _ _ outcome covered.setSelection (encoded_object_uint source serial)
      (by simp [extent, WaylandValue.bytes, to_ne_bytes_length])
  unfold claimSelection
  split
  · rename_i bound
    exact binds _ _ bound
  · rename_i ddm s₁ bound
    have first := binds _ _ bound
    split
    · rename_i sourced
      exact first.trans (sources _ _ _ _ sourced)
    · rename_i source s₂ sourced
      have second := first.trans (sources _ _ _ _ sourced)
      have third := offer_mime_types_legible covered s₂ source mimeTypes fit
      split
      · rename_i offered
        rw [offered] at third
        exact second.trans third
      · rename_i s₃ offered
        rw [offered] at third
        split
        · rename_i fetched
          exact (second.trans third).trans (fetches _ _ _ _ fetched)
        · rename_i device s₄ fetched
          have fourth := (second.trans third).trans (fetches _ _ _ _ fetched)
          split
          · rename_i selected
            exact fourth.trans (.wrote selected (selects _ _))
          · rename_i selected
            exact (fourth.trans (.wrote selected (selects _ _))).trans (.same rfl)

theorem attempt_clipboard_splice_legible (s : Session) (ambient : Ambient) (serial : UInt32)
    (fit : ∀ mimeType ∈ s.clipboardCache.cachedMimeTypes ambient.order, FitType mimeType) :
    Adds (Traffic.Legible p) s (attemptClipboardSplice ambient s serial) := by
  have spent : Adds (Traffic.Legible p) s { s with reclaim := { s.reclaim with pending := false } } := .same rfl
  simp only [attemptClipboardSplice]
  split
  · exact spent
  · split
    · split
      · exact spent.trans (claim_selection_legible covered _ _ _ _ _ _ _ fit)
      · exact spent
    · exact spent

end Splicing

theorem Rewrites.framed {walk : SignatureWalk} {msg out : Bytes} (rewrites : Rewrites walk msg out) (framed : Framed msg) : Framed out := by
  rw [framed_iff] at framed ⊢
  have header : (headerOf out).messageLen = (headerOf msg).messageLen := by
    simp only [headerOf, MessageHeader.messageLen, rewrites.opcode]
  rw [rewrites.lengths, header]
  exact framed

-- One word is read where there is room for it, whatever it is.
theorem uint_walks (payload rewritten : Bytes) (walk : SignatureWalk) (lengths : rewritten.length = payload.length)
    (walked : walkSignature payload [.uint] = .ok walk) : walkSignature rewritten [.uint] = .ok walk := by
  obtain ⟨last, ok, same⟩ := walk_signature_from _ _ _ walked
  obtain ⟨next, first, rest⟩ := walk_from_cons _ _ _ _ _ ok
  cases rest
  have again := walk_argument_congr _ rewritten _ _ _ first lengths (by simp)
  rw [walk_signature_start, walkStart, walkFrom, List.foldlM_cons, again, ← same]
  rfl

theorem substitute_tee_few (ambient : Ambient) (m : Inbound) (payload : Bytes) (fds : List Fd) :
    (substituteTee ambient m payload fds).length ≤ fds.length := by
  unfold substituteTee
  split
  · split
    · exact Nat.le_refl _
    · split
      · split
        · exact Nat.le_refl _
        · rename_i realFd last
          have some : fds ≠ [] := by
            intro none
            simp [none] at last
          have positive := List.length_pos_iff.mpr some
          rw [List.length_append, List.length_dropLast]
          split
          · simp only [List.length_singleton]
            omega
          · simp only [List.length_nil]
            omega
      · exact Nat.le_refl _
  · exact Nat.le_refl _

-- The one message that is built anew.
theorem corrected_message (p : Protocol) (dirs : List Directory) (ambient : Ambient) (graph : RecreationGraph) (m : Inbound)
    (msg : Bytes) (renames : m.isRequest "xdg_toplevel" "set_app_id" = true)
    (changed : (updateRecipes ⟨p, DesktopAppIndex.buildFromDirs dirs⟩ ambient graph m msg).2 ≠ msg) :
    ∃ corrected, (putStr [] corrected).length ≤ 65527 ∧
      (updateRecipes ⟨p, DesktopAppIndex.buildFromDirs dirs⟩ ambient graph m msg).2 =
        buildMessage m.header.senderId m.header.opcode (putStr [] corrected) := by
  obtain ⟨request, toplevel, named⟩ := (is_request_iff _ _ _).mp renames
  have notResize : m.isRequest "wl_shm_pool" "resize" = false := by simp [Inbound.isRequest, toplevel]
  have notTitle : m.isRequest "xdg_toplevel" "set_title" = false := by simp [Inbound.isRequest, named]
  simp only [updateRecipes, notResize, notTitle, renames, Bool.false_eq_true, if_false, if_true] at changed ⊢
  split
  · rename_i unread
    simp [unread] at changed
  · rename_i appId stop read
    simp only [read] at changed
    split
    · rename_i uncorrected
      simp [uncorrected] at changed
    · rename_i corrected corrects
      exact ⟨corrected, corrected_app_id_short p dirs ambient appId corrected corrects, rfl⟩

section Relaying

variable {p : Protocol} (covered : Covered p) (dirs : List Directory) (ambient : Ambient) {direction : Direction} {s : Session}
  {msg : Bytes} (framed : Framed msg) {m : Inbound} (resolved : Resolved p s.objects direction (headerOf msg) msg m)
  {translated rewritten renamed : Bytes} {created : Option Creation} {introduced forgotten : Session}
  (translating : translateObjects s.objects direction m.walk.objectOffsets msg = some translated)
  (introducing : introduceObject p s m translated = .ok (created, introduced, rewritten))
  (forgetting : forgetDeleted introduced m rewritten = some (forgotten, renamed))

include covered dirs framed resolved translating introducing forgetting

-- Translated, its new object and its deleted one renamed, a message still reads
-- as what it was.
theorem renamed_reads : Framed renamed ∧ opcodeOfMessage renamed = opcodeOfMessage msg ∧
    walkSignature (renamed.drop headerLen) m.desc.signature = .ok m.walk := by
  have long := framed_long msg framed
  have rewrites := introduced_rewrites ⟨p, DesktopAppIndex.buildFromDirs dirs⟩ s.objects direction (headerOf msg) msg m resolved long
    s introduced translated rewritten created translating introducing
  have opcode : opcodeOfMessage rewritten = opcodeOfMessage msg := by rw [opcodeOfMessage, rewrites.opcode, opcodeOfMessage]
  have walked := rewrites.walk_signature _ resolved.walk
  have whole := rewrites.framed framed
  obtain ⟨-, rfl⟩ | ⟨hostDeletedId, guestDeletedId, display, deletes, read, -, -, rfl⟩ := forget_deleted_some _ _ _ _ _ forgetting
  · exact ⟨whole, opcode, walked⟩
  · have fits : headerLen + 4 ≤ rewritten.length := by
      unfold readU32 at read
      split at read
      · assumption
      · cases read
    have length := set_word_length rewritten headerLen guestDeletedId fits
    have word : wordAt (setWord rewritten headerLen guestDeletedId) 4 = wordAt rewritten 4 :=
      word_at_set_word_apart _ _ _ _ fits (.inl (by simp [headerLen]))
    have signature := (delete_id_plain ⟨p, DesktopAppIndex.buildFromDirs dirs⟩ covered s.objects direction msg m resolved display
      deletes).2
    refine ⟨?_, ?_, ?_⟩
    · rw [framed_iff] at whole ⊢
      have header : (headerOf (setWord rewritten headerLen guestDeletedId)).messageLen = (headerOf rewritten).messageLen := by
        simp only [headerOf, MessageHeader.messageLen, word]
      rw [length, header]
      exact whole
    · rw [opcodeOfMessage, word]
      exact opcode
    · rw [signature] at walked ⊢
      exact uint_walks _ _ _ (by rw [List.length_drop, List.length_drop, length]) walked

-- So does what the relay writes: only a corrected app id is another payload,
-- and one the signature of set_app_id reads as well.
theorem passed_legible (graph : RecreationGraph) (otherSide : UInt32) (sent : Sent) (peer : sent.peer = direction.dst)
    (interface : sent.interface = m.interface)
    (is : sent.msg = writeSenderId (updateRecipes ⟨p, DesktopAppIndex.buildFromDirs dirs⟩ ambient graph m renamed).2 otherSide)
    (few : sent.fds.length ≤ m.walk.fdCount) : sent.Legible p := by
  obtain ⟨whole, opcode, walked⟩ := renamed_reads covered dirs framed resolved translating introducing forgetting
  have toward : sent.peer.toward = direction := by
    rw [peer]
    cases direction <;> rfl
  have listed := resolved_listed ⟨p, DesktopAppIndex.buildFromDirs dirs⟩ s.objects direction msg m resolved
  have counted := walk_fd_count _ _ _ resolved.walk
  have reads : ∀ out walk, sent.msg = writeSenderId out otherSide → Framed out → opcodeOfMessage out = opcodeOfMessage msg →
      walkSignature (out.drop headerLen) m.desc.signature = .ok walk → sent.Legible p := by
    intro out walk same whole opcode walked
    have long := framed_long out whole
    have opcode' : opcodeOfMessage (writeSenderId out otherSide) = opcodeOfMessage msg := by
      rw [opcodeOfMessage, word_at_write_sender out otherSide 4 long (Nat.le_refl 4)]
      exact opcode
    have decoded : decode p direction m.interface (writeSenderId out otherSide) = some (callOf p m.desc walk (writeSenderId out otherSide)) := by
      refine decode_some p direction m.interface _ m.desc walk ?_ ?_
      · rw [opcode']
        exact listed
      · rw [payload_of_written]
        exact walked
    refine ⟨by rw [same]; exact framed_sender out otherSide whole, _, by rw [toward, interface, same]; exact decoded, ?_⟩
    show sent.fds.length ≤ m.desc.signature.count .fd
    rw [← counted]
    exact few
  by_cases corrects : (updateRecipes ⟨p, DesktopAppIndex.buildFromDirs dirs⟩ ambient graph m renamed).2 = renamed
  · rw [corrects] at is
    exact reads renamed _ is whole opcode walked
  · have renames : m.isRequest "xdg_toplevel" "set_app_id" = true := by
      by_contra other
      exact corrects (update_recipes_other _ ambient graph m renamed (Bool.eq_false_iff.mpr other))
    have signature := @set_app_id_signature ⟨p, DesktopAppIndex.buildFromDirs dirs⟩ covered _ _ msg m resolved renames
    obtain ⟨corrected, short, made⟩ := corrected_message p dirs ambient graph m renamed renames corrects
    rw [made] at is
    have encoded : encodeArguments [.str] [.string corrected] = .ok (putStr [] corrected, []) := by
      simp [encodeArguments, encodeFrom, encodeArgument]
    obtain ⟨walk, again, -⟩ := walk_encoded_arguments _ _ _ _ encoded (by omega)
    refine reads _ walk is (built_framed _ _ _ short) ?_ ?_
    · rw [opcode_of_built, resolved.head]
      rfl
    · rw [build_message_payload, signature]
      exact again

end Relaying

theorem told_legible {p : Protocol} {s t : Session} (told : TellsClient p s t) : Adds (Traffic.Legible p) s t :=
  told.adds fun entry tells => by
    cases entry with
    | sent m =>
        intro spoken
        rcases spoken with toHost | relayed
        · cases tells.1.symm.trans toHost
        · cases tells.2.1.symm.trans relayed
    | _ => trivial

section Turn

variable {p : Protocol} (covered : Covered p) (dirs : List Directory) (ambient : Ambient) (s : Session)

include covered

theorem observe_input_legible (m : Inbound) (payload : Bytes) (fit : ∀ mimeType ∈ s.clipboardCache.cachedMimeTypes ambient.order, FitType mimeType) :
    Adds (Traffic.Legible p) s (observeInput ambient s m payload) := by
  have noted : Adds (Traffic.Legible p) s { s with grabs := observeGrabs s.grabs m payload } := .same rfl
  refine noted.trans ?_
  unfold observeInput spliceOnInput
  split
  · split
    · exact .same rfl
    · exact attempt_clipboard_splice_legible covered _ ambient _ fit
  · exact .same rfl

omit covered in
theorem drop_stale_sender_legible (m : Inbound) (created : Option Creation) :
    Adds (Traffic.Legible p) s (dropStaleSender p s m created) := by
  have answered : Adds (Traffic.Legible p) s (answerStaleSender p s m created) := by
    unfold answerStaleSender
    split
    · exact (told_legible (synthesize_delete_id_frame p s m.sender)).trans (.same rfl)
    · split
      · split
        · exact .same rfl
        · exact told_legible (synthesize_frame_done_frame p s _)
      · exact .same rfl
  refine answered.trans ?_
  cases created with
  | none => exact .same rfl
  | some phantom => exact .same rfl

theorem relay_message_legible (direction : Direction) (msg : Bytes) (framed : Framed msg)
    (fit : ∀ mimeType ∈ s.clipboardCache.cachedMimeTypes ambient.order, FitType mimeType) :
    Adds (Traffic.Legible p) s (relayMessage ⟨p, DesktopAppIndex.buildFromDirs dirs⟩ ambient direction s (headerOf msg) msg).2 := by
  have handled := relay_message_handled ⟨p, DesktopAppIndex.buildFromDirs dirs⟩ ambient direction s (headerOf msg) msg
  generalize (relayMessage ⟨p, DesktopAppIndex.buildFromDirs dirs⟩ ambient direction s (headerOf msg) msg).1 = disposal at handled
  generalize (relayMessage ⟨p, DesktopAppIndex.buildFromDirs dirs⟩ ambient direction s (headerOf msg) msg).2 = next at handled
  cases handled with
  | intercepted intercepting =>
      exact (handle_synthetic_served ambient s msg (headerOf msg).opcode).2.2.2.mono fun entry served => by
        cases entry with
        | sent => exact served.elim
        | _ => trivial
  | unknown | parseError | untranslatable => exact .same rfl
  | unresolvableChild m translated dropped resolved translating failed =>
      obtain ⟨-, -, rfl | ⟨guest, name, rfl⟩⟩ := introduce_object_error _ _ _ _ _ failed <;> exact .same rfl
  | untrackedDeleteId m translated rewritten created introduced resolved translating introducing failed =>
      obtain ⟨-, -, rfl, -⟩ | ⟨_, _, _, -, -, -, rfl, -⟩ := introduce_object_ok _ _ _ _ _ _ _ introducing <;> exact .same rfl
  | passedOn m translated rewritten renamed created introduced forgotten next disposal spared resolved translating introducing
      forgetting passing =>
      have kept : forgotten.trace = s.trace ∧ forgotten.clipboardCache = s.clipboardCache := by
        obtain ⟨-, -, rfl, -⟩ | ⟨_, _, _, -, -, -, rfl, -⟩ := introduce_object_ok _ _ _ _ _ _ _ introducing <;>
          obtain ⟨rfl, -⟩ | ⟨_, _, -, -, -, -, rfl, -⟩ := forget_deleted_some _ _ _ _ _ forgetting <;> exact ⟨rfl, rfl⟩
      have observed : Adds (Traffic.Legible p) s (observeInput ambient forgotten m (renamed.drop headerLen)) := by
        refine Adds.trans (.same kept.1) (observe_input_legible covered ambient forgotten m _ ?_)
        rw [kept.2]
        exact fit
      cases passing with
      | staleGeneration updated is stale =>
          rw [is]
          exact observed.trans (.same rfl)
      | untranslatedSender noted is failed =>
          have before : Adds (Traffic.Legible p) s noted := by
            rw [is]
            exact observed.trans (.same rfl)
          exact before.trans (drop_stale_sender_legible noted m created)
      | forwarded noted otherSide is fresh found =>
          have before : Adds (Traffic.Legible p) s noted := by
            rw [is]
            exact observed.trans (.same rfl)
          refine before.trans ?_
          have fine := fun fds (few : fds.length ≤ m.walk.fdCount) outcome =>
            passed_legible covered dirs ambient framed resolved translating introducing forgetting
              (observeInput ambient forgotten m (renamed.drop headerLen)).graph otherSide
              ⟨m.direction.dst, .relayed, m.interface, _, fds, outcome⟩ (by rw [resolved.way]) rfl rfl few
          simp only [forward]
          split
          · refine ⟨[_], ?_, rfl⟩
            intro entry member
            rw [List.mem_singleton] at member
            subst member
            refine fun _ => fine _ ?_ _
            refine le_trans (substitute_tee_few ambient m _ _) ?_
            rw [List.length_take]
            exact Nat.min_le_left _ _
          · exact .same rfl

theorem relay_turn_legible (direction : Direction) (next : Session) (disposal : Disposal)
    (fit : ∀ mimeType ∈ s.clipboardCache.cachedMimeTypes ambient.order, FitType mimeType)
    (turned : relayTurn ⟨p, DesktopAppIndex.buildFromDirs dirs⟩ ambient direction s = some (disposal, next)) :
    Adds (Traffic.Legible p) s next := by
  obtain ⟨msg, consumed, handled, taken, relayed, rfl⟩ := relay_turn_some _ _ _ _ _ _ turned
  have took : Adds (Traffic.Legible p) s (s.log (.took direction.src msg)) := .log _ _ trivial
  have passed := relay_message_legible covered dirs ambient (s.log (.took direction.src msg)) direction msg
    (taken_framed _ _ _ taken) fit
  rw [relayed] at passed
  refine (took.trans passed).trans (.same ?_)
  simp [Session.drainBuf, Session.setConn]

end Turn

end WlResprox
