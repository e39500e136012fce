import WlResprox.Effects

set_option autoImplicit false

namespace WlResprox

-- What a write of the proxy's own leaves alone: every tracker, and the shadow
-- table up to the next host id.
structure Aside (s s' : Session) : Prop where
  objects : ∃ next, s'.objects = { s.objects with nextHostId := next }
  graph : s'.graph = s.graph
  grabs : s'.grabs = s.grabs
  bufferFlow : s'.bufferFlow = s.bufferFlow
  pendingFrames : s'.pendingFrames = s.pendingFrames
  pendingDmabufPlanes : s'.pendingDmabufPlanes = s.pendingDmabufPlanes
  clipboardCache : s'.clipboardCache = s.clipboardCache

namespace Aside

variable {s s' s'' : Session}

theorem refl (s : Session) : Aside s s := ⟨⟨_, rfl⟩, rfl, rfl, rfl, rfl, rfl, rfl⟩

theorem trans (first : Aside s s') (second : Aside s' s'') : Aside s s'' where
  objects := by
    obtain ⟨_, one⟩ := first.objects
    obtain ⟨next, two⟩ := second.objects
    exact ⟨next, by rw [two, one]⟩
  graph := second.graph.trans first.graph
  grabs := second.grabs.trans first.grabs
  bufferFlow := second.bufferFlow.trans first.bufferFlow
  pendingFrames := second.pendingFrames.trans first.pendingFrames
  pendingDmabufPlanes := second.pendingDmabufPlanes.trans first.pendingDmabufPlanes
  clipboardCache := second.clipboardCache.trans first.clipboardCache

theorem write (s : Session) (peer : Peer) (origin : Origin) (interface : Interface) (msg : Bytes) (fds : List Fd) :
    Aside s (s.writeMessage peer origin interface msg fds).2 := ⟨⟨_, rfl⟩, rfl, rfl, rfl, rfl, rfl, rfl⟩

theorem wrote {peer : Peer} {origin : Origin} {interface : Interface} {msg : Bytes} {fds : List Fd} {done : Bool}
    (result : s.writeMessage peer origin interface msg fds = (done, s')) : Aside s s' := by
  have aside := write s peer origin interface msg fds
  rwa [result] at aside

theorem allocated (s : Session) : Aside s { s with objects := s.objects.allocateHostId.2 } :=
  ⟨⟨_, rfl⟩, rfl, rfl, rfl, rfl, rfl, rfl⟩

theorem unallocated (s : Session) (hostId : UInt32) : Aside s { s with objects := s.objects.unallocateHostId hostId } :=
  ⟨⟨_, ShadowTable.unallocate_eq _ _⟩, rfl, rfl, rfl, rfl, rfl, rfl⟩

theorem reclaiming (s : Session) (reclaim : ReclaimState) : Aside s { s with reclaim := reclaim } :=
  ⟨⟨_, rfl⟩, rfl, rfl, rfl, rfl, rfl, rfl⟩

theorem fold {β : Type} (f : Session → β → Session) (each : ∀ s b, Aside s (f s b)) (rows : List β) (s : Session) :
    Aside s (rows.foldl f s) := by
  induction rows generalizing s with
  | nil => exact refl s
  | cons b rest ih => exact (each s b).trans (ih (f s b))

theorem host_id (aside : Aside s s') (g : UInt32) : s'.objects.hostId g = s.objects.hostId g := by
  obtain ⟨next, same⟩ := aside.objects
  rw [same]
  rfl

theorem guest_id (aside : Aside s s') (h : UInt32) : s'.objects.guestId h = s.objects.guestId h := by
  obtain ⟨next, same⟩ := aside.objects
  rw [same]
  rfl

theorem interface (aside : Aside s s') (g : UInt32) : s'.objects.interface g = s.objects.interface g := by
  obtain ⟨next, same⟩ := aside.objects
  rw [same]
  rfl

theorem current (aside : Aside s s') (g : UInt32) :
    s'.objects.isCurrentGeneration g = s.objects.isCurrentGeneration g := by
  obtain ⟨next, same⟩ := aside.objects
  rw [same]
  rfl

theorem next_guest_server_id (aside : Aside s s') : s'.objects.nextGuestServerId = s.objects.nextGuestServerId := by
  obtain ⟨next, same⟩ := aside.objects
  rw [same]

end Aside

variable (p : Protocol) (s : Session)

theorem tell_client_aside (guestId : UInt32) (interface : Interface) (event : String) (payload : Bytes) :
    Aside s (tellClient p s guestId interface event payload) := by
  unfold tellClient
  split
  · exact .refl s
  · exact .write s _ _ _ _ _

theorem synthesize_delete_id_aside (guestId : UInt32) : Aside s (synthesizeDeleteId p s guestId) := by
  unfold synthesizeDeleteId
  split
  · exact .refl s
  · exact tell_client_aside p s _ _ _ _

theorem synthesize_frame_done_aside (callback : UInt32) : Aside s (synthesizeFrameDone p s callback) := by
  unfold synthesizeFrameDone
  split
  · exact .refl s
  · exact (tell_client_aside p s _ _ _ _).trans (synthesize_delete_id_aside p _ _)

theorem create_own_object_aside {s t : Session} {interface : Interface} {sender : UInt32} {opcode : UInt16}
    {payload : UInt32 → Bytes} {id : Option UInt32} (result : createOwnObject s interface sender opcode payload = (id, t)) :
    Aside s t := by
  simp only [createOwnObject] at result
  split at result
  · rename_i written wrote
    cases result
    exact (Aside.allocated s).trans (.wrote wrote)
  · rename_i failed wrote
    cases result
    exact ((Aside.allocated s).trans (.wrote wrote)).trans (.unallocated failed _)

theorem offer_mime_types_aside (source : UInt32) (mimeTypes : List String) : Aside s (offerMimeTypes s source mimeTypes).2 := by
  induction mimeTypes generalizing s with
  | nil => exact .refl s
  | cons mimeType rest ih =>
      simp only [offerMimeTypes]
      split
      · rename_i written wrote
        exact (Aside.wrote wrote).trans (ih written)
      · rename_i failed wrote
        exact .wrote wrote

theorem claim_selection_aside (registry seat name version serial : UInt32) (mimeTypes : List String) :
    Aside s (claimSelection s registry seat name version serial mimeTypes) := by
  unfold claimSelection
  split
  · rename_i bound
    exact create_own_object_aside bound
  · rename_i ddm s₁ bound
    have first : Aside s s₁ := create_own_object_aside bound
    split
    · rename_i sourced
      exact first.trans (create_own_object_aside sourced)
    · rename_i source s₂ sourced
      have second := first.trans (create_own_object_aside sourced)
      have third := offer_mime_types_aside s₂ source mimeTypes
      split
      · rename_i offered
        rw [offered] at third
        exact second.trans third
      · rename_i s₃ offered
        rw [offered] at third
        split
        · rename_i fetched
          exact (second.trans third).trans (create_own_object_aside fetched)
        · rename_i device s₄ fetched
          have fourth := (second.trans third).trans (create_own_object_aside fetched)
          split
          · rename_i selected
            exact fourth.trans (.wrote selected)
          · rename_i selected
            exact (fourth.trans (.wrote selected)).trans (.reclaiming _ _)

theorem attempt_clipboard_splice_aside (ambient : Ambient) (serial : UInt32) :
    Aside s (attemptClipboardSplice ambient s serial) := by
  have spent := Aside.reclaiming s { s.reclaim with pending := false }
  simp only [attemptClipboardSplice]
  split
  · exact spent
  · split
    · split
      · exact spent.trans (claim_selection_aside _ _ _ _ _ _ _)
      · exact spent
    · exact spent

theorem splice_on_input_aside (ambient : Ambient) (m : Inbound) (payload : Bytes) :
    Aside s (spliceOnInput ambient s m payload) := by
  unfold spliceOnInput
  split
  · split
    · exact .refl s
    · exact attempt_clipboard_splice_aside s ambient _
  · exact .refl s

theorem observe_input_aside (ambient : Ambient) (m : Inbound) (payload : Bytes) :
    Aside { s with grabs := observeGrabs s.grabs m payload } (observeInput ambient s m payload) :=
  splice_on_input_aside _ ambient m payload

end WlResprox
