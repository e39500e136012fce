import WlResprox.Fidelity
import WlResprox.Remaps

set_option autoImplicit false

namespace WlResprox

-- The ids from here on are the compositor's to choose.
def serverIds : Nat := 0xff000000

namespace ShadowTable

variable (t : ShadowTable)

theorem guest_id_remove_guest (g a b : UInt32) (named : b ≠ 0) :
    (t.removeGuest g).guestId b = some a ↔ a ≠ g ∧ t.guestId b = some a := by
  rw [guest_id_iff _ a b named, guest_id_iff t a b named, current_remove_guest]
  show _ ∧ (t.guestToHost.removeByLeft g).getByLeft a = some b ↔ _
  rw [BiMap.get_by_left_remove_iff]
  by_cases same : a = g <;> simp [same]

theorem guest_id_bump (a b : UInt32) (named : b ≠ 0) : t.bumpGeneration.guestId b = some a ↔ a = 1 ∧ b = 1 := by
  rw [guest_id_iff _ a b named, current_bump]
  show _ ∧ (t.guestToHost.insert 1 1).getByLeft a = some b ↔ _
  rw [BiMap.get_by_left_insert_iff]
  by_cases display : a = 1 <;> simp [display]

end ShadowTable

-- While the counter stays below the compositor's ids, every id the table
-- translates back is one it has passed or one of the compositor's. One of those
-- it has passed may be kept aside, for no object of the client's.
structure Spaced (aside : Option UInt32) (t : ShadowTable) : Prop where
  counter : 2 ≤ t.nextHostId.toNat
  pairs : ∀ h g, h ≠ 0 → t.guestId h = some g → h.toNat < t.nextHostId.toNat ∨ serverIds ≤ h.toNat
  issued : ∀ id, aside = some id → 2 ≤ id.toNat ∧ id.toNat < t.nextHostId.toNat ∧ id.toNat < serverIds
  apart : ∀ id, aside = some id → t.guestId id = none

namespace Spaced

variable {aside : Option UInt32} {t t' : ShadowTable}

theorem nonzero (spaced : Spaced aside t) (id : UInt32) (kept : aside = some id) : id ≠ 0 := by
  rintro rfl
  have low := (spaced.issued 0 kept).1
  simp at low

theorem unshared (spaced : Spaced aside t) (id : UInt32) (kept : aside = some id) (g : UInt32) : t.hostId g ≠ some id := by
  have named := spaced.nonzero id kept
  intro held
  by_cases null : g = 0
  · rw [null, ShadowTable.host_id_null] at held
    exact named (Option.some.inj held).symm
  · rw [ShadowTable.host_guest t g id null named, spaced.apart id kept] at held
    cases held

theorem dropped (spaced : Spaced aside t) : Spaced none t := ⟨spaced.counter, spaced.pairs, nofun, nofun⟩

theorem fewer (spaced : Spaced aside t) (next : t'.nextHostId = t.nextHostId)
    (guests : ∀ h g, h ≠ 0 → t'.guestId h = some g → t.guestId h = some g) : Spaced aside t' where
  counter := by rw [next]; exact spaced.counter
  pairs h g named held := by rw [next]; exact spaced.pairs h g named (guests h g named held)
  issued id kept := by rw [next]; exact spaced.issued id kept
  apart id kept := by
    cases held : t'.guestId id with
    | none => rfl
    | some g => exact absurd (guests id g (spaced.nonzero id kept) held) (by simp [spaced.apart id kept])

theorem mapped (spaced : Spaced aside t) (g h : UInt32) (i : Interface)
    (passed : h.toNat < t.nextHostId.toNat ∨ serverIds ≤ h.toNat) (free : aside ≠ some h) : Spaced aside (t.map g h i) where
  counter := spaced.counter
  pairs b a named held := by
    obtain ⟨-, rfl⟩ | ⟨-, -, before⟩ := (ShadowTable.guest_id_map t g h a b i named).mp held
    · exact passed
    · exact spaced.pairs b a named before
  issued := spaced.issued
  apart id kept := by
    cases held : (t.map g h i).guestId id with
    | none => rfl
    | some a =>
        obtain ⟨-, rfl⟩ | ⟨-, -, before⟩ := (ShadowTable.guest_id_map t g h a id i (spaced.nonzero id kept)).mp held
        · exact absurd kept free
        · rw [spaced.apart id kept] at before
          cases before

theorem chosen (spaced : Spaced aside t) (g h : UInt32) (i : Interface) (server : serverIds ≤ h.toNat) : Spaced aside (t.map g h i) :=
  spaced.mapped g h i (.inr server) fun kept => by
    have := (spaced.issued h kept).2.2
    omega

theorem next_to_nat (room : t.nextHostId.toNat + 1 ≤ serverIds) : (t.nextHostId + 1).toNat = t.nextHostId.toNat + 1 := by
  have small : t.nextHostId.toNat + 1 < 2 ^ 32 := Nat.lt_of_le_of_lt room (by decide)
  rw [UInt32.toNat_add]
  exact Nat.mod_eq_of_lt small

theorem allocated (spaced : Spaced aside t) (room : t.nextHostId.toNat + 1 ≤ serverIds) : Spaced aside t.allocateHostId.2 where
  counter := by
    show 2 ≤ (t.nextHostId + 1).toNat
    have := spaced.counter
    rw [next_to_nat room]
    omega
  pairs h g named held := by
    show h.toNat < (t.nextHostId + 1).toNat ∨ _
    rw [next_to_nat room]
    exact (spaced.pairs h g named held).imp (fun low => by omega) fun high => high
  issued id kept := by
    obtain ⟨low, passed, below⟩ := spaced.issued id kept
    show _ ∧ id.toNat < (t.nextHostId + 1).toNat ∧ _
    rw [next_to_nat room]
    exact ⟨low, by omega, below⟩
  apart := spaced.apart

theorem next_free (spaced : Spaced aside t) : aside ≠ some t.nextHostId := fun kept => by
  have := (spaced.issued _ kept).2.1
  omega

theorem born (spaced : Spaced aside t) (room : t.nextHostId.toNat + 1 ≤ serverIds) (g : UInt32) (i : Interface) :
    Spaced aside (t.allocateHostId.2.map g t.nextHostId i) :=
  (spaced.allocated room).mapped g _ i (.inl (by show _ < (t.nextHostId + 1).toNat; rw [next_to_nat room]; omega)) spaced.next_free

-- The id just passed and held by nobody can be kept aside.
theorem kept (spaced : Spaced aside t) (id : UInt32) (low : 2 ≤ id.toNat) (passed : id.toNat < t.nextHostId.toNat)
    (below : id.toNat < serverIds) (free : t.guestId id = none) : Spaced (some id) t where
  counter := spaced.counter
  pairs := spaced.pairs
  issued := by
    rintro other ⟨⟩
    exact ⟨low, passed, below⟩
  apart := by
    rintro other ⟨⟩
    exact free

theorem next_unheld (spaced : Spaced aside t) (room : t.nextHostId.toNat + 1 ≤ serverIds) : t.guestId t.nextHostId = none := by
  have named : t.nextHostId ≠ 0 := by
    intro zero
    have low := spaced.counter
    rw [zero] at low
    simp at low
  cases held : t.guestId t.nextHostId with
  | none => rfl
  | some g =>
      have := spaced.pairs _ g named held
      omega

theorem claimed (spaced : Spaced aside t) (room : t.nextHostId.toNat + 1 ≤ serverIds) :
    Spaced (some t.nextHostId) t.allocateHostId.2 := by
  refine (spaced.allocated room).kept _ spaced.counter ?_ (by omega) (spaced.next_unheld room)
  show _ < (t.nextHostId + 1).toNat
  rw [next_to_nat room]
  omega

-- Taking the counter back over an id gives the id up with its guest.
theorem rolled_back (spaced : Spaced aside t) (g h : UInt32) (translated : t.hostId g = some h) (low : h = 0 ∨ 2 ≤ h.toNat) :
    Spaced aside ((t.unallocateHostId h).removeGuest g) ∧
      ((t.unallocateHostId h).removeGuest g).nextHostId.toNat ≤ t.nextHostId.toNat := by
  have shrinks : ∀ b a, b ≠ 0 → ((t.unallocateHostId h).removeGuest g).guestId b = some a → a ≠ g ∧ t.guestId b = some a := by
    intro b a named held
    rw [ShadowTable.guest_id_remove_guest _ _ _ _ named, ShadowTable.unallocate_host_id_guest_id] at held
    exact held
  by_cases last : h = t.nextHostId - 1
  · have counter := spaced.counter
    have before : (t.nextHostId - 1).toNat = t.nextHostId.toNat - 1 := by
      rw [UInt32.toNat_sub_of_le]
      · rfl
      · rw [UInt32.le_iff_toNat_le]
        show 1 ≤ _
        omega
    have named : h ≠ 0 := by
      rintro rfl
      rw [← last] at before
      simp at before
      omega
    have floor : 2 ≤ h.toNat := low.resolve_left named
    have guest : g ≠ 0 := by
      rintro rfl
      exact named (Option.some.inj translated).symm
    have held : t.guestId h = some g := (ShadowTable.host_guest t g h guest named).mp translated
    have back : ((t.unallocateHostId h).removeGuest g).nextHostId = h := by
      rw [ShadowTable.remove_guest_next_host_id, ShadowTable.unallocateHostId, if_pos last, last]
    have stepped : t.nextHostId.toNat = h.toNat + 1 := by
      rw [last, before]
      omega
    refine ⟨⟨by rw [back]; exact floor, fun b a named there => ?_, fun id kept => ?_, fun id kept => ?_⟩, by rw [back]; omega⟩
    · obtain ⟨other, was⟩ := shrinks b a named there
      rw [back]
      refine (spaced.pairs b a named was).imp (fun below => ?_) fun high => high
      have apart : b ≠ h := by
        rintro rfl
        exact other (Option.some.inj (was.symm.trans held))
      have : b.toNat ≠ h.toNat := fun same => apart (UInt32.toNat_inj.mp same)
      omega
    · obtain ⟨least, passed, below⟩ := spaced.issued id kept
      have apart : id ≠ h := by
        rintro rfl
        rw [spaced.apart id kept] at held
        cases held
      have : id.toNat ≠ h.toNat := fun same => apart (UInt32.toNat_inj.mp same)
      rw [back]
      exact ⟨least, by omega, below⟩
    · cases there : ((t.unallocateHostId h).removeGuest g).guestId id with
      | none => rfl
      | some a => exact absurd (shrinks id a (spaced.nonzero id kept) there).2 (by simp [spaced.apart id kept])
  · have same : t.unallocateHostId h = t := by rw [ShadowTable.unallocateHostId, if_neg last]
    rw [same] at shrinks ⊢
    exact ⟨spaced.fewer rfl fun b a named there => (shrinks b a named there).2, Nat.le_refl _⟩

end Spaced

-- A stretch of the code that hands out at most so many host ids keeps the table
-- spaced, whatever id is kept aside.
def Counts (spent : Nat) (t t' : ShadowTable) : Prop :=
  ∀ aside, t.nextHostId.toNat + spent ≤ serverIds → Spaced aside t →
    Spaced aside t' ∧ t'.nextHostId.toNat ≤ t.nextHostId.toNat + spent

namespace Counts

variable {spent more : Nat} {t t' t'' : ShadowTable}

theorem refl (t : ShadowTable) : Counts 0 t t := fun _ _ spaced => ⟨spaced, Nat.le_refl _⟩

theorem trans (first : Counts spent t t') (second : Counts more t' t'') : Counts (spent + more) t t'' := by
  intro aside room spaced
  obtain ⟨middle, bound⟩ := first aside (by omega) spaced
  obtain ⟨last, bound'⟩ := second aside (by omega) middle
  exact ⟨last, by omega⟩

theorem mono (counts : Counts spent t t') (fewer : spent ≤ more) : Counts more t t' := by
  intro aside room spaced
  obtain ⟨after, bound⟩ := counts aside (by omega) spaced
  exact ⟨after, by omega⟩

theorem fewer (next : t'.nextHostId = t.nextHostId) (guests : ∀ h g, h ≠ 0 → t'.guestId h = some g → t.guestId h = some g) :
    Counts 0 t t' := fun _ _ spaced => ⟨spaced.fewer next guests, by rw [next]; omega⟩

theorem removed (t : ShadowTable) (g : UInt32) : Counts 0 t (t.removeGuest g) :=
  .fewer rfl fun _ _ named held => ((ShadowTable.guest_id_remove_guest _ _ _ _ named).mp held).2

theorem allocated (t : ShadowTable) : Counts 1 t t.allocateHostId.2 :=
  fun _ room spaced => ⟨spaced.allocated room, Nat.le_of_eq (Spaced.next_to_nat room)⟩

theorem born (t : ShadowTable) (g : UInt32) (i : Interface) : Counts 1 t (t.allocateHostId.2.map g t.nextHostId i) :=
  fun _ room spaced => ⟨spaced.born room g i, Nat.le_of_eq (Spaced.next_to_nat room)⟩

end Counts

-- The same of a session, whose live source is the id kept aside.
def Rations (spent : Nat) (s s' : Session) : Prop :=
  s.objects.nextHostId.toNat + spent ≤ serverIds → Spaced s.reclaim.activeSourceHostId s.objects →
    Spaced s'.reclaim.activeSourceHostId s'.objects ∧ s'.objects.nextHostId.toNat ≤ s.objects.nextHostId.toNat + spent

namespace Rations

variable {spent more : Nat} {s s' s'' : Session}

theorem table (reclaim : s'.reclaim = s.reclaim) (counts : Counts spent s.objects s'.objects) : Rations spent s s' := by
  intro room spaced
  rw [reclaim]
  exact counts _ room spaced

theorem same (objects : s'.objects = s.objects) (reclaim : s'.reclaim = s.reclaim) : Rations 0 s s' :=
  .table reclaim (by rw [objects]; exact .refl _)

theorem trans (first : Rations spent s s') (second : Rations more s' s'') : Rations (spent + more) s s'' := by
  intro room spaced
  obtain ⟨middle, bound⟩ := first (by omega) spaced
  obtain ⟨last, bound'⟩ := second (by omega) middle
  exact ⟨last, by omega⟩

theorem mono (rations : Rations spent s s') (fewer : spent ≤ more) : Rations more s s' := by
  intro room spaced
  obtain ⟨after, bound⟩ := rations (by omega) spaced
  exact ⟨after, by omega⟩

theorem unspent (rations : Rations spent s s') (free : Rations 0 s' s'') : Rations spent s s'' := rations.trans free

end Rations

section Relaying

variable (env : Env) (ambient : Ambient) (s : Session) (m : Inbound)

theorem introduce_request_rations (request : m.direction = .clientToHost) (msg : Bytes) :
    match introduceObject env.protocol s m msg with
    | .error dropped => Rations 1 s dropped
    | .ok (_, next, _) => Rations 1 s next := by
  split
  · rename_i dropped result
    obtain ⟨-, -, rfl | ⟨guest, name, rfl⟩⟩ := introduce_object_error _ _ _ _ _ result
    · exact .mono (.same rfl rfl) (Nat.zero_le 1)
    · exact .mono (.table rfl (.fewer rfl fun _ _ _ held => held)) (Nat.zero_le 1)
  · rename_i created next rewritten result
    obtain ⟨-, -, rfl, -⟩ | ⟨offset, child, version, located, -, -, rfl, -⟩ := introduce_object_ok _ _ _ _ _ _ _ result
    · exact .mono (.same rfl rfl) (Nat.zero_le 1)
    · refine .table rfl ?_
      simp only [introduced, request]
      exact .born _ _ _

-- The compositor names what it announces by an id of its own.
theorem introduce_event_rations (event : m.direction = .hostToClient) (msg : Bytes)
    (names : ∀ offset, m.walk.newIdOffset = some offset → serverIds ≤ (wordAt msg (headerLen + offset)).toNat) :
    match introduceObject env.protocol s m msg with
    | .error dropped => Rations 0 s dropped
    | .ok (_, next, _) => Rations 0 s next := by
  split
  · rename_i dropped result
    obtain ⟨-, -, rfl | ⟨guest, name, rfl⟩⟩ := introduce_object_error _ _ _ _ _ result
    · exact .same rfl rfl
    · exact .table rfl (.fewer rfl fun _ _ _ held => held)
  · rename_i created next rewritten result
    obtain ⟨-, -, rfl, -⟩ | ⟨offset, child, version, located, -, -, rfl, -⟩ := introduce_object_ok _ _ _ _ _ _ _ result
    · exact .same rfl rfl
    · refine .table rfl fun aside room spaced => ?_
      simp only [introduced, event, createObject]
      have kept : Spaced aside s.objects.allocateGuestServerId.2 := spaced.fewer rfl fun _ _ _ held => held
      exact ⟨kept.chosen _ _ _ (names offset located), Nat.le_refl _⟩

theorem forget_deleted_rations (msg renamed : Bytes) (next : Session) (result : forgetDeleted s m msg = some (next, renamed)) :
    Rations 0 s next := by
  obtain ⟨rfl, -⟩ | ⟨_, guest, -, -, -, -, rfl, -⟩ := forget_deleted_some _ _ _ _ _ result
  · exact .same rfl rfl
  · exact .table rfl (.removed _ guest)

omit env ambient

theorem tell_client_reclaim (p : Protocol) (guestId : UInt32) (interface : Interface) (event : String) (payload : Bytes) :
    (tellClient p s guestId interface event payload).reclaim = s.reclaim := by
  unfold tellClient
  split <;> rfl

theorem synthesize_delete_id_reclaim (p : Protocol) (guestId : UInt32) : (synthesizeDeleteId p s guestId).reclaim = s.reclaim := by
  unfold synthesizeDeleteId
  split
  · rfl
  · exact tell_client_reclaim s p _ _ _ _

theorem synthesize_frame_done_reclaim (p : Protocol) (callback : UInt32) :
    (synthesizeFrameDone p s callback).reclaim = s.reclaim := by
  unfold synthesizeFrameDone
  split
  · rfl
  · exact (synthesize_delete_id_reclaim _ p _).trans (tell_client_reclaim s p _ _ _ _)

theorem answer_stale_sender_reclaim (p : Protocol) (created : Option Creation) :
    (answerStaleSender p s m created).reclaim = s.reclaim := by
  unfold answerStaleSender
  split
  · exact synthesize_delete_id_reclaim s p _
  · split
    · split
      · rfl
      · exact synthesize_frame_done_reclaim s p _
    · rfl

-- Rolling back a creation gives its id up together with its guest.
theorem drop_stale_sender_rations (p : Protocol) (created : Option Creation)
    (low : ∀ c h, created = some c → s.objects.hostId c.guestId = some h → h = 0 ∨ 2 ≤ h.toNat) :
    Rations 0 s (dropStaleSender p s m created) := by
  have answered : Rations 0 s (answerStaleSender p s m created) := by
    have reclaim := answer_stale_sender_reclaim s m p created
    obtain same | removed := (answer_stale_sender_spec p s m created).2
    · exact .same same reclaim
    · exact .table reclaim (by rw [removed]; exact .removed _ _)
  refine answered.unspent ?_
  cases created with
  | none => exact .same rfl rfl
  | some c =>
      unfold dropStaleSender rollBackCreation
      dsimp only
      split
      · rename_i h _ translated
        refine .table rfl fun aside room spaced => spaced.rolled_back c.guestId h translated ?_
        refine low c h rfl ?_
        obtain same | removed := (answer_stale_sender_spec p s m (some c)).2
        · rwa [same] at translated
        · rw [removed] at translated
          by_cases null : c.guestId = 0
          · rw [null] at translated ⊢
            exact translated
          · exact ((ShadowTable.host_id_remove_guest _ _ _ _ null).mp translated).2
      · exact .table rfl (.removed _ c.guestId)

end Relaying

section Replaying

variable {p : Protocol} (covered : Covered p)

include covered

-- A recipe asks for one object, the dmabuf one for two.
def Recreation.Counts (t : ShadowTable) (recreation : Recreation) : Prop :=
  ∀ s, recreation.session = some s → WlResprox.Counts 1 t s.objects

theorem recreate_child_counts (s : Session) (guestId parentGuestId : UInt32) (other : Option UInt32) (request : String)
    (values : UInt32 → UInt32 → List WaylandValue) :
    (recreateChild p s guestId parentGuestId other request values).Counts s.objects := by
  intro t result
  unfold recreateChild at result
  split at result
  · rename_i interface parentHostId otherHostId known translated _
    have uses := request_child_uses s covered guestId interface parentHostId request (fun hostId => values hostId otherHostId)
    split at result
    · rename_i skipped is
      cases result
      rw [is] at uses
      obtain same | spent := uses
      · rw [same]
        exact .mono (.refl _) (Nat.zero_le 1)
      · rw [spent]
        exact .allocated _
    · cases result
    · rename_i child is
      cases result
      rw [is] at uses
      obtain ⟨objects, id, -⟩ := uses
      show Counts 1 s.objects (child.session.objects.map guestId child.hostId child.interface)
      rw [objects, id]
      exact .born _ _ _
  · cases result
    exact .mono (.refl _) (Nat.zero_le 1)

theorem recreate_viewport_counts (s t : Session) (guestId viewporter surface : UInt32) (destination : Option (Int32 × Int32))
    (result : recreateViewport p s guestId viewporter surface destination = some t) : Counts 1 s.objects t.objects := by
  unfold recreateViewport at result
  have counts := recreate_child_counts covered s guestId viewporter (some surface) "get_viewport"
    fun hostId surfaceHostId => [.newId hostId, .object surfaceHostId]
  split at result
  · rename_i child is
    have reached := counts child.session (by rw [is]; rfl)
    split at result
    · cases result
      exact reached
    · cases result
      rw [replay_request_objects]
      exact reached
  · exact counts t result

theorem recreate_xdg_toplevel_counts (s t : Session) (guestId parent : UInt32) (title appId : Option String)
    (handshake : Option Handshake) (result : recreateXdgToplevel p s guestId parent title appId = some (t, handshake)) :
    Counts 1 s.objects t.objects := by
  have counts := recreate_child_counts covered s guestId parent none "get_toplevel" fun hostId _ => [.newId hostId]
  rcases recreate_xdg_toplevel_some p s guestId parent title appId t handshake result with
    skipped | ⟨child, titled, named, recreated, rfl, rfl, rfl⟩
  · exact counts t (by rw [skipped]; rfl)
  · rw [send_initial_commit_objects, replay_string_objects, replay_string_objects]
    exact counts child.session (by rw [recreated]; rfl)

theorem recreate_dmabuf_buffer_counts (s t : Session) (guestId dmabuf : UInt32) (width height : Int32) (format flags : UInt32)
    (planes : List DmabufPlane) (result : recreateDmabufBuffer p s guestId dmabuf width height format flags planes = some t) :
    Counts 2 s.objects t.objects := by
  have nothing : Counts 2 s.objects s.objects := .mono (.refl _) (Nat.zero_le 2)
  have one : Counts 2 s.objects s.objects.allocateHostId.2 := .mono (.allocated _) (by decide)
  unfold recreateDmabufBuffer at result
  split at result
  · rename_i factory dmabufHostId known translated
    have uses := request_child_uses s covered guestId factory dmabufHostId "create_params" fun hostId => [.newId hostId]
    generalize requestChild p s guestId factory dmabufHostId "create_params" (fun hostId => [.newId hostId]) = asked at result uses
    cases asked with
    | skipped u =>
        cases result
        obtain same | spent := uses
        · rw [same]
          exact nothing
        · rw [spent]
          exact one
    | panicked => cases result
    | recreated params =>
        have spent := uses.1
        dsimp only at result
        split at result
        · cases result
          rw [spent]
          exact one
        · have added := add_planes_objects (p := p) params.session guestId params.hostId params.interface planes
          rw [spent] at added
          split at result
          · rename_i failed planed
            cases result
            rw [planed] at added
            rw [added]
            exact one
          · rename_i filled planed
            rw [planed] at added
            have immed := request_child_uses filled covered guestId params.interface params.hostId "create_immed"
              fun hostId => [.newId hostId, .int width, .int height, .uint format, .uint flags]
            rw [added] at immed
            generalize requestChild p filled guestId params.interface params.hostId "create_immed" _ = asked at result immed
            cases asked with
            | skipped u =>
                cases result
                obtain same | more := immed
                · rw [same]
                  exact one
                · rw [more]
                  exact .trans (.allocated _) (.allocated _)
            | panicked => cases result
            | recreated buffer =>
                cases result
                show Counts 2 s.objects (buffer.session.objects.map guestId buffer.hostId buffer.interface)
                rw [immed.1, immed.2.1]
                exact .trans (.allocated _) (.born _ _ _)
  · cases result
    exact nothing

omit covered in
theorem recreate_global_counts (s t : Session) (guestId : UInt32) (globals : Globals) (registry : Interface) (registryHostId : UInt32)
    (interface : Interface) (version : UInt32)
    (result : recreateGlobal p globals registry registryHostId s guestId interface version = some t) : Counts 1 s.objects t.objects := by
  unfold recreateGlobal at result
  split at result
  · cases result
    exact .mono (.refl _) (Nat.zero_le 1)
  · dsimp only at result
    split at result
    · cases result
    · split at result
      · cases result
        exact .allocated _
      · split at result
        · rename_i failed wrote
          cases (Prod.ext_iff.mp wrote).2
          cases result
          exact .allocated _
        · rename_i written wrote
          cases (Prod.ext_iff.mp wrote).2
          cases result
          exact .born _ _ _

theorem replay_recipe_counts (s t : Session) (guestId : UInt32) (globals : Globals) (registry : Interface) (registryHostId : UInt32)
    (recipe : Recreatable) (handshake : Option Handshake)
    (result : replayRecipe p globals registry registryHostId s guestId recipe = some (t, handshake)) :
    Counts 2 s.objects t.objects := by
  have plain : ∀ {outcome : Option Session}, outcome.map (fun s => (s, (none : Option Handshake))) = some (t, handshake) →
      outcome = some t := by
    intro outcome reached
    obtain ⟨u, is, same⟩ := Option.map_eq_some_iff.mp reached
    cases same
    exact is
  have child : ∀ {recreation : Recreation}, recreation.Counts s.objects →
      recreation.session.map (fun s => (s, (none : Option Handshake))) = some (t, handshake) → Counts 2 s.objects t.objects :=
    fun counts reached => .mono (counts t (plain reached)) (by decide)
  cases recipe with
  | global interface version =>
      exact .mono (recreate_global_counts s t guestId globals registry registryHostId interface version (plain result)) (by decide)
  | surface | shmPool | shmBuffer | seatDevice | xdgSurface | fractionalScale =>
      exact child (recreate_child_counts covered s _ _ _ _ _) result
  | xdgToplevel parent title appId =>
      exact .mono (recreate_xdg_toplevel_counts covered s t guestId parent title appId handshake result) (by decide)
  | dmabufBuffer dmabuf width height format flags planes =>
      exact recreate_dmabuf_buffer_counts covered s t guestId dmabuf width height format flags planes (plain result)
  | viewport viewporter surface destination =>
      exact .mono (recreate_viewport_counts covered s t guestId viewporter surface destination (plain result)) (by decide)

end Replaying

end WlResprox
