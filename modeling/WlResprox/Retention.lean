import WlResprox.Books
import WlResprox.Rewriting

set_option autoImplicit false

namespace WlResprox

def Recreatable.Keeps (fd : Fd) : Recreatable → Prop
  | .shmPool _ kept _ => kept = fd
  | .dmabufBuffer _ _ _ _ _ planes => fd ∈ planes.map DmabufPlane.fd
  | _ => False

-- The descriptors the proxy holds on to: those of its recipes, and of planes
-- not yet made into one.
def RetainedIn (graph : RecreationGraph) (planes : HashMap (UInt32 × List DmabufPlane)) (fd : Fd) : Prop :=
  (∃ entry ∈ graph.recipes, entry.2.Keeps fd) ∨
    ∃ params dmabuf gathered, planes.lookup params = some (dmabuf, gathered) ∧ fd ∈ gathered.map DmabufPlane.fd

def Retains (s : Session) (fd : Fd) : Prop := RetainedIn s.graph s.pendingDmabufPlanes fd

-- Most of the relay lets go of descriptors at most.
def RetainsNoMore (s s' : Session) : Prop := ∀ fd, Retains s' fd → Retains s fd

namespace RetainsNoMore

variable {s s' s'' : Session}

theorem refl (s : Session) : RetainsNoMore s s := fun _ held => held

theorem trans (first : RetainsNoMore s s') (second : RetainsNoMore s' s'') : RetainsNoMore s s'' :=
  fun fd held => first fd (second fd held)

theorem same (graph : s'.graph = s.graph) (planes : s'.pendingDmabufPlanes = s.pendingDmabufPlanes) : RetainsNoMore s s' := by
  intro fd held
  rwa [Retains, graph, planes] at held

theorem aside (aside : Aside s s') : RetainsNoMore s s' := same aside.graph aside.pendingDmabufPlanes

theorem removed (guestId : UInt32) (graph : s'.graph = s.graph.remove guestId)
    (planes : s'.pendingDmabufPlanes = s.pendingDmabufPlanes) : RetainsNoMore s s' := by
  rintro fd (⟨entry, member, keeps⟩ | gathered)
  · rw [graph] at member
    exact .inl ⟨entry, ((RecreationGraph.mem_remove _ _ _ _).mp member).2, keeps⟩
  · rw [planes] at gathered
    exact .inr gathered

end RetainsNoMore

theorem mem_update_first (guestId : UInt32) (change : Recreatable → Option Recreatable) (entry : UInt32 × Recreatable)
    (recipes : List (UInt32 × Recreatable)) (member : entry ∈ RecreationGraph.updateFirst guestId change recipes) :
    entry ∈ recipes ∨ ∃ old, (entry.1, old) ∈ recipes ∧ change old = some entry.2 ∧ entry.1 = guestId := by
  induction recipes with
  | nil => cases member
  | cons head rest ih =>
      obtain ⟨id, recipe⟩ := head
      have deeper : entry = (id, recipe) ∨ entry ∈ RecreationGraph.updateFirst guestId change rest →
          entry ∈ (id, recipe) :: rest ∨ ∃ old, (entry.1, old) ∈ (id, recipe) :: rest ∧ change old = some entry.2 ∧ entry.1 = guestId := by
        rintro (rfl | later)
        · exact .inl List.mem_cons_self
        · rcases ih later with kept | ⟨old, there, changed⟩
          · exact .inl (List.mem_cons_of_mem _ kept)
          · exact .inr ⟨old, List.mem_cons_of_mem _ there, changed⟩
      simp only [RecreationGraph.updateFirst] at member
      split at member
      · rename_i same
        split at member
        · rename_i changed found
          rcases List.mem_cons.mp member with rfl | later
          · exact .inr ⟨recipe, List.mem_cons_self, found, same⟩
          · exact .inl (List.mem_cons_of_mem _ later)
        · exact deeper (List.mem_cons.mp member)
      · exact deeper (List.mem_cons.mp member)

theorem mem_update (g : RecreationGraph) (guestId : UInt32) (change : Recreatable → Option Recreatable)
    (entry : UInt32 × Recreatable) (member : entry ∈ (g.update guestId change).recipes) :
    entry ∈ g.recipes ∨ ∃ old, (entry.1, old) ∈ g.recipes ∧ change old = some entry.2 ∧ entry.1 = guestId := by
  have found := mem_update_first guestId change entry g.recipes.reverse (List.mem_reverse.mp member)
  simpa only [List.mem_reverse] using found

-- What a request of the client's brings up to date in a recipe.
inductive Revises (env : Env) (ambient : Ambient) (m : Inbound) (payload : Bytes) : Recreatable → Recreatable → Prop where
  | size (wlShm : UInt32) (fd : Fd) (old new : Int32) : Revises env ambient m payload (.shmPool wlShm fd old) (.shmPool wlShm fd new)
  | title (parent : UInt32) (old : Option String) (new : String) (appId : Option String) :
      Revises env ambient m payload (.xdgToplevel parent old appId) (.xdgToplevel parent (some new) appId)
  | appId (parent : UInt32) (title old : Option String) (given new : String) (stop : Nat)
      (request : m.isRequest "xdg_toplevel" "set_app_id" = true) (read : readStr payload 0 = some (given, stop))
      (forwarded : new = forwardedAppId env ambient given) :
      Revises env ambient m payload (.xdgToplevel parent title old) (.xdgToplevel parent title (some new))
  | destination (viewporter surface : UInt32) (old : Option (Int32 × Int32)) (new : Int32 × Int32) :
      Revises env ambient m payload (.viewport viewporter surface old) (.viewport viewporter surface (some new))

theorem update_recipes_revises (env : Env) (ambient : Ambient) (graph : RecreationGraph) (m : Inbound) (msg : Bytes) :
    (updateRecipes env ambient graph m msg).1 = graph ∨
      ∃ change, (updateRecipes env ambient graph m msg).1 = graph.update m.sender change ∧
        ∀ old new, change old = some new → Revises env ambient m (msg.drop headerLen) old new := by
  simp only [updateRecipes]
  split
  · split
    · exact .inl rfl
    · refine .inr ⟨_, rfl, fun old new changed => ?_⟩
      split at changed <;> cases changed
      exact .size _ _ _ _
  · split
    · split
      · exact .inl rfl
      · refine .inr ⟨_, rfl, fun old new changed => ?_⟩
        split at changed <;> cases changed
        exact .title _ _ _ _
    · split
      · rename_i request
        split
        · exact .inl rfl
        · rename_i given stop read
          split
          all_goals
            rename_i corrected
            refine .inr ⟨_, rfl, fun old new changed => ?_⟩
            split at changed <;> cases changed
            exact .appId _ _ _ given _ stop request read (by rw [forwardedAppId, corrected]; rfl)
      · split
        · split
          · refine .inr ⟨_, rfl, fun old new changed => ?_⟩
            split at changed <;> cases changed
            exact .destination _ _ _ _
          · exact .inl rfl
        · exact .inl rfl

-- A recipe that is brought up to date keeps the descriptors it had.
theorem update_recipes_retains (env : Env) (ambient : Ambient) (graph : RecreationGraph)
    (planes : HashMap (UInt32 × List DmabufPlane)) (m : Inbound) (msg : Bytes) (fd : Fd)
    (held : RetainedIn (updateRecipes env ambient graph m msg).1 planes fd) : RetainedIn graph planes fd := by
  rcases update_recipes_revises env ambient graph m msg with same | ⟨change, updated, revises⟩
  · rwa [same] at held
  · rw [updated] at held
    obtain ⟨entry, member, kept⟩ | gathered := held
    · rcases mem_update graph m.sender change entry member with same | ⟨old, there, changed, -⟩
      · exact .inl ⟨entry, same, kept⟩
      · refine .inl ⟨_, there, ?_⟩
        generalize entry.2 = new at kept changed
        cases revises old new changed <;> exact kept
    · exact .inr gathered

-- A recipe captured with the new object has the descriptors of the planes
-- gathered for it.
theorem captured_retains (p : Protocol) (m : Inbound) (msg : Bytes) (offset : Nat) (created : Creation)
    (graph : RecreationGraph) (planes : HashMap (UInt32 × List DmabufPlane)) (fd : Fd)
    (result : Option Recreatable × HashMap (UInt32 × List DmabufPlane))
    (captured : Captured p m msg offset created planes result)
    (held : RetainedIn (recordCaptured graph created.guestId result.1) result.2 fd) : RetainedIn graph planes fd := by
  have recorded : ∀ recipe : Option Recreatable, (∃ entry ∈ (recordCaptured graph created.guestId recipe).recipes,
      entry.2.Keeps fd) → (∃ entry ∈ graph.recipes, entry.2.Keeps fd) ∨ ∃ r, recipe = some r ∧ r.Keeps fd := by
    rintro recipe ⟨entry, member, kept⟩
    cases recipe with
    | none => exact .inl ⟨entry, member, kept⟩
    | some r =>
        rcases List.mem_append.mp member with old | new
        · exact .inl ⟨entry, old, kept⟩
        · rw [List.mem_singleton] at new
          subst new
          exact .inr ⟨r, rfl, kept⟩
  have bare : ∀ recipe : Option Recreatable, (∀ r, recipe = some r → ¬ r.Keeps fd) →
      RetainedIn (recordCaptured graph created.guestId recipe) planes fd → RetainedIn graph planes fd := by
    rintro recipe nothing (recipes | gathered)
    · rcases recorded recipe recipes with old | ⟨r, is, kept⟩
      · exact .inl old
      · exact absurd kept (nothing r is)
    · exact .inr gathered
  cases captured with
  | nothing => exact bare none (by simp) held
  | global | surface | xdgSurface | xdgToplevel | seatDevice | viewport | fractionalScale =>
      exact bare _ (by simp [Recreatable.Keeps]) held
  | shmBuffer =>
      refine bare _ (fun r captured => ?_) held
      unfold shmBufferRecipe at captured
      split at captured <;> cases captured
      simp [Recreatable.Keeps]
  | params =>
      rcases held with recipe | ⟨params, dmabuf, gathered, found, kept⟩
      · exact .inl recipe
      · rw [HashMap.lookup_insert] at found
        split at found
        · cases found
          cases kept
        · exact .inr ⟨params, dmabuf, gathered, found, kept⟩
  | dmabufBuffer =>
      rcases held with recipes | ⟨params, dmabuf, gathered, found, kept⟩
      · rcases recorded _ recipes with old | ⟨r, is, kept⟩
        · exact .inl old
        · unfold dmabufBufferRecipe at is
          split at is
          · rename_i dmabuf gathered _ _ _ _ tracked
            cases is
            exact .inr ⟨m.sender, dmabuf, gathered, tracked, kept⟩
          · cases is
      · rw [HashMap.lookup_erase] at found
        split at found
        · cases found
        · exact .inr ⟨params, dmabuf, gathered, found, kept⟩

theorem introduce_object_retains (p : Protocol) (s next : Session) (m : Inbound) (msg rewritten : Bytes)
    (created : Option Creation) (result : introduceObject p s m msg = .ok (created, next, rewritten)) : RetainsNoMore s next := by
  obtain ⟨-, -, rfl, -⟩ | ⟨offset, child, version, -, -, -, rfl, -⟩ := introduce_object_ok _ _ _ _ _ _ _ result
  · exact .refl _
  · exact fun fd held => captured_retains p m msg offset _ _ _ fd _ (capture_recipe_captured _ _ _ _ _ _) held

theorem forget_deleted_retains (s next : Session) (m : Inbound) (msg renamed : Bytes)
    (result : forgetDeleted s m msg = some (next, renamed)) : RetainsNoMore s next := by
  obtain ⟨rfl, -⟩ | ⟨_, guest, -, -, -, -, rfl, -⟩ := forget_deleted_some s next m msg renamed result
  · exact .refl _
  · exact .removed guest rfl rfl

theorem observe_recipes_retains (env : Env) (ambient : Ambient) (s : Session) (m : Inbound) (msg : Bytes) :
    RetainsNoMore s (observeRecipes env ambient (observeInput ambient s m (msg.drop headerLen)) m msg) := by
  intro fd held
  exact RetainsNoMore.aside (observe_input_aside s ambient m (msg.drop headerLen)) fd
    (update_recipes_retains env ambient _ _ m msg fd held)

theorem drop_stale_sender_retains (p : Protocol) (s : Session) (m : Inbound) (created : Option Creation) :
    RetainsNoMore s (dropStaleSender p s m created) := by
  have answered : RetainsNoMore s (answerStaleSender p s m created) := by
    unfold answerStaleSender
    split
    · exact (RetainsNoMore.aside (synthesize_delete_id_aside p s m.sender)).trans (.removed m.sender rfl rfl)
    · split
      · split
        · exact .refl s
        · exact .aside (synthesize_frame_done_aside p s _)
      · exact .refl s
  refine answered.trans ?_
  cases created with
  | none => exact .refl _
  | some phantom => exact .removed phantom.guestId rfl rfl

end WlResprox
