import WlResprox.Agreement

set_option autoImplicit false

namespace WlResprox

def ShadowTable.numbered (t : ShadowTable) (next : UInt32) : ShadowTable := { t with nextHostId := next }

-- What replaying one recipe does to the table: it uses up at most two host ids,
-- and at most its own guest id is mapped, onto the last of them.
inductive Remapped (t : ShadowTable) (guestId : UInt32) (interface : Interface) : ShadowTable → Prop where
  | left (spent : UInt32) (few : spent ≤ 2) : Remapped t guestId interface (t.numbered (t.nextHostId + spent))
  | mapped (hostId : UInt32) (own : hostId = t.nextHostId ∨ hostId = t.nextHostId + 1) :
      Remapped t guestId interface ((t.numbered (hostId + 1)).map guestId hostId interface)

theorem seat_device_creates {p : Protocol} (covered : Covered p) (kind : SeatDeviceKind) :
    Creates p kind.requestName [.newId] kind.interface.name := by
  cases kind
  · exact covered.getPointer
  · exact covered.getKeyboard
  · exact covered.getTouch

section Remaps

variable {p : Protocol} (s : Session)

theorem Remapped.same (t : ShadowTable) (guestId : UInt32) (interface : Interface) : Remapped t guestId interface t := by
  have left : Remapped t guestId interface (t.numbered (t.nextHostId + 0)) := .left 0 (by decide)
  rwa [UInt32.add_zero] at left

-- What comes of asking for a child: the id it used up, and what it is.
def Recreation.Uses (p : Protocol) (t : ShadowTable) (parent : Interface) (request : String) : Recreation → Prop
  | .skipped s => s.objects = t ∨ s.objects = t.allocateHostId.2
  | .panicked => True
  | .recreated child => child.session.objects = t.allocateHostId.2 ∧ child.hostId = t.nextHostId ∧
      ∃ desc ∈ p.requests parent, desc.name = request ∧ desc.childInterface = some child.interface

theorem request_child_uses (covered : Covered p) (guestId : UInt32) (parent : Interface) (parentHostId : UInt32) (request : String)
    (values : UInt32 → List WaylandValue) :
    (requestChild p s guestId parent parentHostId request values).Uses p s.objects parent request := by
  unfold requestChild
  split
  · exact .inl rfl
  · rename_i opcode found
    obtain ⟨desc, at_opcode, member, named⟩ := opcode_listed _ _ _ (covered.requests parent) found
    split
    · trivial
    · rename_i signature child entry
      rw [at_opcode, Option.bind_some, Option.map_eq_some_iff] at entry
      obtain ⟨kind, known, same⟩ := entry
      cases same
      dsimp only
      split
      · exact .inr rfl
      · split
        · rename_i failed wrote
          cases (Prod.ext_iff.mp wrote).2
          exact .inr rfl
        · rename_i written wrote
          cases (Prod.ext_iff.mp wrote).2
          exact ⟨rfl, rfl, desc, member, named, known⟩

variable {s}

theorem recreate_child_remaps (covered : Covered p) (fresh : Fresh s.objects) (guestId parentGuestId : UInt32) (other : Option UInt32)
    (request : String) (signature : List ArgumentType) (name : String) (values : UInt32 → UInt32 → List WaylandValue)
    (shape : Creates p request signature name) (t : Session)
    (result : (recreateChild p s guestId parentGuestId other request values).session = some t) :
    Remapped s.objects guestId ⟨name⟩ t.objects := by
  unfold recreateChild at result
  split at result
  · rename_i interface parentHostId otherHostId known translated _
    have uses := request_child_uses s covered guestId interface parentHostId request (fun hostId => values hostId otherHostId)
    split at result
    · rename_i skipped is
      cases result
      rw [is] at uses
      obtain same | allocated := uses
      · rw [same]
        exact .same _ _ _
      · rw [allocated]
        exact .left 1 (by decide)
    · cases result
    · rename_i child is
      cases result
      rw [is] at uses
      obtain ⟨objects, id, desc, member, named, kind⟩ := uses
      have typed := (shape.2 interface (fresh.listed parentGuestId parentHostId interface known translated) desc member named).2
      have is : child.interface = ⟨name⟩ := Option.some.inj (kind.symm.trans typed)
      show Remapped s.objects guestId _ (child.session.objects.map guestId child.hostId child.interface)
      rw [objects, id, is]
      exact .mapped _ (.inl rfl)
  · cases result
    exact .same _ _ _

section Requests

variable (s) (guestId hostId : UInt32) (interface : Interface) (request : String)

theorem replay_request_objects (values : List WaylandValue) :
    (replayRequest p s guestId hostId interface request values).2.objects = s.objects := by
  unfold replayRequest
  split
  · rfl
  · split
    · rfl
    · split <;> rfl

theorem replay_string_objects (text : Option String) :
    (replayString p s guestId hostId interface request text).objects = s.objects := by
  cases text with
  | none => rfl
  | some text => exact replay_request_objects s guestId hostId interface request _

theorem add_planes_objects (planes : List DmabufPlane) : (addPlanes p s guestId hostId interface planes).2.objects = s.objects := by
  induction planes generalizing s with
  | nil => rfl
  | cons plane rest ih =>
      have written := replay_request_objects (p := p) s guestId hostId interface "add" (planeValues plane)
      unfold addPlanes
      split
      · rename_i next is
        rw [is] at written
        exact (ih next).trans written
      · rename_i failed is
        rw [is] at written
        exact written

theorem send_initial_commit_objects (xdgSurface : UInt32) : (sendInitialCommit p s guestId xdgSurface).2.objects = s.objects := by
  unfold sendInitialCommit
  split
  · split
    · split <;> rfl
    · rfl
  · rfl

end Requests

variable (covered : Covered p) (fresh : Fresh s.objects) (guestId : UInt32) (t : Session)

include covered fresh

theorem recreate_viewport_remaps (viewporter surface : UInt32) (destination : Option (Int32 × Int32))
    (result : recreateViewport p s guestId viewporter surface destination = some t) :
    Remapped s.objects guestId ⟨"wp_viewport"⟩ t.objects := by
  unfold recreateViewport at result
  have remaps := recreate_child_remaps covered fresh guestId viewporter (some surface) "get_viewport" _ _
    (fun hostId surfaceHostId => [.newId hostId, .object surfaceHostId]) covered.getViewport
  split at result
  · rename_i child is
    have reached := remaps child.session (by rw [is]; rfl)
    split at result
    · cases result
      exact reached
    · cases result
      rw [replay_request_objects]
      exact reached
  · exact remaps t result

theorem recreate_xdg_toplevel_remaps (parent : UInt32) (title appId : Option String) (handshake : Option Handshake)
    (result : recreateXdgToplevel p s guestId parent title appId = some (t, handshake)) :
    Remapped s.objects guestId ⟨"xdg_toplevel"⟩ t.objects := by
  have remaps := recreate_child_remaps covered fresh guestId parent none "get_toplevel" _ _ (fun hostId _ => [.newId hostId])
    covered.getToplevel
  rcases recreate_xdg_toplevel_some p s guestId parent title appId t handshake result with
    skipped | ⟨child, titled, named, recreated, rfl, rfl, rfl⟩
  · exact remaps t (by rw [skipped]; rfl)
  · rw [send_initial_commit_objects, replay_string_objects, replay_string_objects]
    exact remaps child.session (by rw [recreated]; rfl)

omit fresh in
-- The params object has used up the first of the two ids.
theorem immed_remaps (before : ShadowTable) (filled : Session) (params : Recreated)
    (kind : params.interface = ⟨"zwp_linux_buffer_params_v1"⟩) (spent : filled.objects = before.allocateHostId.2)
    (values : UInt32 → List WaylandValue)
    (result : (match requestChild p filled guestId params.interface params.hostId "create_immed" values with
      | .recreated buffer => some (mapRecreated guestId buffer)
      | other => other.session) = some t) : Remapped before guestId ⟨"wl_buffer"⟩ t.objects := by
  have uses := request_child_uses filled covered guestId params.interface params.hostId "create_immed" values
  generalize requestChild p filled guestId params.interface params.hostId "create_immed" values = asked at result uses
  cases asked with
  | skipped u =>
      cases result
      obtain same | more := uses
      · rw [same, spent]
        exact .left 1 (by decide)
      · rw [more, spent]
        have two : Remapped before guestId ⟨"wl_buffer"⟩ (before.numbered (before.nextHostId + 2)) := .left 2 (by decide)
        have twice : before.nextHostId + 2 = before.nextHostId + 1 + 1 := by
          rw [UInt32.add_assoc]
          rfl
        rw [twice] at two
        exact two
  | panicked => cases result
  | recreated buffer =>
      cases result
      obtain ⟨objects, id, desc, member, named, made⟩ := uses
      have typed := (covered.createImmed.2 params.interface (by rw [kind]; decide) desc member named).2
      have isBuffer : buffer.interface = ⟨"wl_buffer"⟩ := Option.some.inj (made.symm.trans typed)
      show Remapped before guestId _ (buffer.session.objects.map guestId buffer.hostId buffer.interface)
      rw [objects, id, isBuffer, spent]
      exact .mapped _ (.inr rfl)

theorem recreate_dmabuf_buffer_remaps (dmabuf : UInt32) (width height : Int32) (format flags : UInt32) (planes : List DmabufPlane)
    (result : recreateDmabufBuffer p s guestId dmabuf width height format flags planes = some t) :
    Remapped s.objects guestId ⟨"wl_buffer"⟩ t.objects := by
  unfold recreateDmabufBuffer at result
  split at result
  · rename_i factory dmabufHostId known translated
    have uses := request_child_uses s covered guestId factory dmabufHostId "create_params" fun hostId => [.newId hostId]
    generalize requestChild p s guestId factory dmabufHostId "create_params" (fun hostId => [.newId hostId]) = asked at result uses
    cases asked with
    | skipped u =>
        cases result
        obtain same | spent := uses
        · rw [same]
          exact .same _ _ _
        · rw [spent]
          exact .left 1 (by decide)
    | panicked => cases result
    | recreated params =>
        obtain ⟨objects, -, desc, member, named, kind⟩ := uses
        have typed := (covered.createParams.2 factory (fresh.listed dmabuf dmabufHostId factory known translated) desc member named).2
        have isParams : params.interface = ⟨"zwp_linux_buffer_params_v1"⟩ := Option.some.inj (kind.symm.trans typed)
        have one : Remapped s.objects guestId ⟨"wl_buffer"⟩ params.session.objects := by
          rw [objects]
          exact .left 1 (by decide)
        dsimp only at result
        split at result
        · cases result
          exact one
        · have added := add_planes_objects (p := p) params.session guestId params.hostId params.interface planes
          split at result
          · rename_i failed planed
            cases result
            rw [planed] at added
            rw [added]
            exact one
          · rename_i filled planed
            rw [planed] at added
            exact immed_remaps covered guestId t s.objects filled params isParams (added.trans objects) _ result
  · cases result
    exact .same _ _ _

omit covered fresh in
theorem recreate_global_remaps (globals : Globals) (registry : Interface) (registryHostId : UInt32) (interface : Interface)
    (version : UInt32) (result : recreateGlobal p globals registry registryHostId s guestId interface version = some t) :
    Remapped s.objects guestId interface t.objects := by
  unfold recreateGlobal at result
  split at result
  · cases result
    exact .same _ _ _
  · dsimp only at result
    split at result
    · cases result
    · split at result
      · cases result
        exact .left 1 (by decide)
      · split at result
        · rename_i failed wrote
          cases (Prod.ext_iff.mp wrote).2
          cases result
          exact .left 1 (by decide)
        · rename_i written wrote
          cases (Prod.ext_iff.mp wrote).2
          cases result
          exact .mapped _ (.inl rfl)

theorem replay_recipe_remaps (globals : Globals) (registry : Interface) (registryHostId : UInt32) (recipe : Recreatable)
    (handshake : Option Handshake)
    (result : replayRecipe p globals registry registryHostId s guestId recipe = some (t, handshake)) :
    Remapped s.objects guestId recipe.interface t.objects := by
  have plain : ∀ {outcome : Option Session}, outcome.map (fun s => (s, (none : Option Handshake))) = some (t, handshake) →
      outcome = some t := by
    intro outcome reached
    obtain ⟨u, is, same⟩ := Option.map_eq_some_iff.mp reached
    cases same
    exact is
  cases recipe with
  | global interface version =>
      exact recreate_global_remaps guestId t globals registry registryHostId interface version (plain result)
  | surface parent =>
      exact recreate_child_remaps covered fresh guestId parent none _ _ _ _ covered.createSurface t (plain result)
  | xdgSurface parent surface =>
      exact recreate_child_remaps covered fresh guestId parent (some surface) _ _ _ _ covered.getXdgSurface t (plain result)
  | xdgToplevel parent title appId =>
      exact recreate_xdg_toplevel_remaps covered fresh guestId t parent title appId handshake result
  | shmPool wlShm fd size =>
      exact recreate_child_remaps covered fresh guestId wlShm none _ _ _ _ covered.createPool t (plain result)
  | shmBuffer pool offset width height stride format =>
      exact recreate_child_remaps covered fresh guestId pool none _ _ _ _ covered.createBuffer t (plain result)
  | dmabufBuffer dmabuf width height format flags planes =>
      exact recreate_dmabuf_buffer_remaps covered fresh guestId t dmabuf width height format flags planes (plain result)
  | seatDevice seat kind =>
      exact recreate_child_remaps covered fresh guestId seat none _ _ _ _ (seat_device_creates covered kind) t (plain result)
  | viewport viewporter surface destination =>
      exact recreate_viewport_remaps covered fresh guestId t viewporter surface destination (plain result)
  | fractionalScale manager surface =>
      exact recreate_child_remaps covered fresh guestId manager (some surface) _ _ _ _ covered.getFractionalScale t (plain result)

end Remaps

end WlResprox
