import WlResprox.Client
import WlResprox.Retention
import WlResprox.Turns

set_option autoImplicit false

namespace WlResprox

def SeatDeviceKind.interface : SeatDeviceKind → Interface
  | .pointer => ⟨"wl_pointer"⟩
  | .keyboard => ⟨"wl_keyboard"⟩
  | .touch => ⟨"wl_touch"⟩

-- The interface of what a recipe brings back.
def Recreatable.interface : Recreatable → Interface
  | .global interface _ => interface
  | .surface _ => ⟨"wl_surface"⟩
  | .xdgSurface _ _ => ⟨"xdg_surface"⟩
  | .xdgToplevel _ _ _ => ⟨"xdg_toplevel"⟩
  | .shmPool _ _ _ => ⟨"wl_shm_pool"⟩
  | .shmBuffer _ _ _ _ _ _ => ⟨"wl_buffer"⟩
  | .dmabufBuffer _ _ _ _ _ _ => ⟨"wl_buffer"⟩
  | .seatDevice _ kind => kind.interface
  | .viewport _ _ _ => ⟨"wp_viewport"⟩
  | .fractionalScale _ _ => ⟨"wp_fractional_scale_v1"⟩

def wlCallback : Interface := ⟨"wl_callback"⟩

-- A callback that recovery answered stays in the table, out of date.
def Spent (objects : ShadowTable) (g : UInt32) (i : Interface) : Prop := i = wlCallback ∧ objects.isCurrentGeneration g = false

-- What the proxy has tracked is what the client has: an id under the interface
-- the client knows it by, a recipe for an object of the client's.
structure Agrees (p : Protocol) (objects : ShadowTable) (graph : RecreationGraph) (history : List Traffic) : Prop where
  table : ∀ g i, objects.interface g = some i → (client p history).Holds g i ∨ Spent objects g i
  recipes : ∀ entry ∈ graph.recipes, (client p history).Holds entry.1 entry.2.interface ∧ entry.2.interface.name ∈ recoveredInterfaces

-- An id the proxy has let go of, so that the client may be told it is deleted.
structure Unlisted (objects : ShadowTable) (graph : RecreationGraph) (g : UInt32) : Prop where
  table : ∀ i, objects.interface g = some i → Spent objects g i
  recipes : ∀ entry ∈ graph.recipes, entry.1 ≠ g

theorem holds_interface {c : Client} {g : UInt32} {i j : Interface} (holds : c.Holds g i) (also : c.Holds g j) : i = j := by
  obtain ⟨o, here, rfl, -⟩ := holds
  obtain ⟨o', there, rfl, -⟩ := also
  rw [here] at there
  cases there
  rfl

namespace Agrees

variable {p : Protocol} {t t' : ShadowTable} {graph graph' : RecreationGraph} {history : List Traffic}

-- Less is tracked than before.
theorem fewer (agrees : Agrees p t graph history)
    (table : ∀ g i, t'.interface g = some i → t.interface g = some i ∧
      (t.isCurrentGeneration g = false → t'.isCurrentGeneration g = false))
    (recipes : ∀ entry ∈ graph'.recipes, ∃ recipe, (entry.1, recipe) ∈ graph.recipes ∧ recipe.interface = entry.2.interface) :
    Agrees p t' graph' history where
  table g i known := by
    obtain ⟨was, stays⟩ := table g i known
    exact (agrees.table g i was).imp_right fun spent => ⟨spent.1, stays spent.2⟩
  recipes entry member := by
    obtain ⟨recipe, before, same⟩ := recipes entry member
    rw [← same]
    exact agrees.recipes _ before

theorem tabled (agrees : Agrees p t graph history) (same : SameTable t t') : Agrees p t' graph history :=
  agrees.fewer (fun g i known => ⟨by rw [← same.interface]; exact known, fun old => by rw [same.current]; exact old⟩)
    fun entry member => ⟨entry.2, member, rfl⟩

theorem removed (agrees : Agrees p t graph history) (g : UInt32) : Agrees p (t.removeGuest g) (graph.remove g) history :=
  agrees.fewer (fun a i known => by
    rw [ShadowTable.interface_remove_guest] at known
    split at known
    · cases known
    · exact ⟨known, fun old => by rw [ShadowTable.current_remove_guest, old, Bool.and_false]⟩)
    fun entry member => ⟨entry.2, ((RecreationGraph.mem_remove _ _ _ _).mp member).2, rfl⟩

theorem mapped (agrees : Agrees p t graph history) (g h : UInt32) (i : Interface) (holds : (client p history).Holds g i) :
    Agrees p (t.map g h i) graph history where
  table a j known := by
    rw [ShadowTable.interface_map] at known
    split at known
    · rename_i same
      cases known
      rw [same]
      exact .inl holds
    · rename_i other
      rcases agrees.table a j known with held | ⟨callback, old⟩
      · exact .inl held
      · refine .inr ⟨callback, ?_⟩
        rw [ShadowTable.current_map, old, decide_eq_false other]
        rfl
  recipes := agrees.recipes

theorem recorded (agrees : Agrees p t graph history) (g : UInt32) (recipe : Recreatable)
    (holds : (client p history).Holds g recipe.interface) (listed : recipe.interface.name ∈ recoveredInterfaces) :
    Agrees p t (graph.record g recipe) history where
  table := agrees.table
  recipes entry member := by
    rcases List.mem_append.mp member with before | new
    · exact agrees.recipes entry before
    · rw [List.mem_singleton] at new
      subst new
      exact ⟨holds, listed⟩

-- The client is told that ids are deleted only when they are let go of.
theorem onward (agrees : Agrees p t graph history) (added : List Traffic) (unused : IdsUnused p (history ++ added))
    (spared : ∀ entry ∈ added, ∀ g, entry.deletes p = some g → Unlisted t graph g) : Agrees p t graph (history ++ added) := by
  have lawful := ((ids_unused_append history added).mp unused).2
  have keeps : ∀ g i, (client p history).Holds g i → ¬ Unlisted t graph g → (client p (history ++ added)).Holds g i :=
    fun g i holds listed =>
      client_holds holds added lawful (.inl fun entry member deleted => listed (spared entry member g deleted))
  refine ⟨fun g i known => ?_, fun entry member => ?_⟩
  · rcases agrees.table g i known with holds | spent
    · by_cases gone : Unlisted t graph g
      · exact .inr (gone.table i known)
      · exact .inl (keeps g i holds gone)
    · exact .inr spent
  · obtain ⟨holds, listed⟩ := agrees.recipes entry member
    exact ⟨keeps _ _ holds fun gone => gone.recipes entry member rfl, listed⟩

end Agrees

-- Entries that delete nothing of the client's.
def Traffic.Spares (p : Protocol) (entry : Traffic) : Prop := entry.deletes p = none

theorem Agrees.spared {p : Protocol} {t : ShadowTable} {graph : RecreationGraph} {s s' : Session}
    (agrees : Agrees p t graph s.trace) (adds : Adds (Traffic.Spares p) s s') (unused : IdsUnused p s'.trace) :
    Agrees p t graph s'.trace := by
  obtain ⟨added, spares, grown⟩ := adds
  rw [grown] at unused ⊢
  refine agrees.onward added unused fun entry member g deleted => ?_
  have none : entry.deletes p = .none := spares entry member
  rw [none] at deleted
  cases deleted

-- Bringing a recipe up to date leaves it under its id and of its kind.
theorem update_recipes_interfaces (env : Env) (ambient : Ambient) (graph : RecreationGraph) (m : Inbound) (msg : Bytes)
    (entry : UInt32 × Recreatable) (member : entry ∈ (updateRecipes env ambient graph m msg).1.recipes) :
    ∃ recipe, (entry.1, recipe) ∈ graph.recipes ∧ recipe.interface = entry.2.interface := by
  rcases update_recipes_revises env ambient graph m msg with same | ⟨change, updated, revises⟩
  · rw [same] at member
    exact ⟨entry.2, member, rfl⟩
  · rw [updated] at member
    rcases mem_update graph m.sender change entry member with same | ⟨old, before, changed, -⟩
    · exact ⟨entry.2, same, rfl⟩
    · refine ⟨old, before, ?_⟩
      generalize entry.2 = new at changed
      cases revises old new changed <;> rfl

section Telling

-- What the proxy tells the client on its own, and which ids that deletes.
def TellsDeleting (p : Protocol) (deleted : UInt32 → Prop) (entry : Traffic) : Prop :=
  Tells p entry ∧ ∀ g, entry.deletes p = some g → deleted g

variable {p : Protocol}

theorem told_deletes (covered : Covered p) (peer : Peer) (origin : Origin) (interface : Interface) (event : String)
    (guestId : UInt32) (opcode : UInt16) (payload : Bytes) (fds : List Fd) (outcome : WriteOutcome) (g : UInt32)
    (listed : eventOpcode p interface event = some opcode)
    (deleted : Traffic.deletes p (.sent ⟨peer, origin, interface, buildMessage guestId opcode payload, fds, outcome⟩) = some g) :
    event = "delete_id" ∧ g = wordAt payload 0 := by
  simp only [Traffic.deletes] at deleted
  split at deleted
  · rename_i both
    obtain ⟨rfl, frees⟩ := both
    obtain ⟨desc, at_opcode, -, named⟩ := opcode_listed _ _ _ (covered.events interface) listed
    simp only [Sent.frees] at frees
    split at frees
    · cases frees
    · rename_i call decoded
      obtain ⟨walk, here, -, -⟩ := decode_inv _ _ _ _ _ decoded
      rw [opcode_of_built] at here
      have same : desc = call.desc := Option.some.inj (at_opcode.symm.trans here)
      simp only [Ledger.frees, decide_eq_true_eq] at frees
      refine ⟨by rw [← named, same]; exact frees.2, ?_⟩
      rw [← Option.some.inj deleted]
      have word := word_at_payload (buildMessage guestId opcode payload) 0
      rw [Nat.add_zero, build_message_payload] at word
      exact word
  · cases deleted

variable (covered : Covered p) (s : Session) {deleted : UInt32 → Prop}

include covered

theorem tell_client_deleting (guestId : UInt32) (interface : Interface) (event : String) (payload : Bytes) (own : event ∈ ownEvents)
    (spares : event = "delete_id" → deleted (wordAt payload 0)) :
    Frame everyPeer (TellsDeleting p deleted) s (tellClient p s guestId interface event payload) := by
  unfold tellClient
  split
  · exact .refl s
  · rename_i opcode listed
    refine .write s _ _ _ _ _ fun outcome => ⟨⟨rfl, rfl, event, own, guestId, payload, opcode, listed, rfl⟩, fun g gone => ?_⟩
    obtain ⟨named, word⟩ := told_deletes covered _ _ _ _ _ _ _ _ _ _ listed gone
    rw [word]
    exact spares named

theorem synthesize_delete_id_deleting (guestId : UInt32) (fine : deleted guestId) :
    Frame everyPeer (TellsDeleting p deleted) s (synthesizeDeleteId p s guestId) := by
  unfold synthesizeDeleteId
  split
  · exact .refl s
  · refine tell_client_deleting covered s _ _ _ _ (by decide) fun _ => ?_
    have word : wordAt (putU32 [] guestId) 0 = guestId := word_at_to_ne_bytes guestId []
    rw [word]
    exact fine

theorem synthesize_frame_done_deleting (callback : UInt32) (fine : (s.objects.interface callback).isSome = true → deleted callback) :
    Frame everyPeer (TellsDeleting p deleted) s (synthesizeFrameDone p s callback) := by
  unfold synthesizeFrameDone
  split
  · exact .refl s
  · rename_i interface known
    exact (tell_client_deleting covered s _ _ _ _ (by decide) (by simp)).trans
      (synthesize_delete_id_deleting covered _ callback (fine (by rw [known]; rfl)))

end Telling

end WlResprox
