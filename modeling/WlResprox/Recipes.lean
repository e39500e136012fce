import WlResprox.RecoveryMoves

set_option autoImplicit false

namespace WlResprox

-- Every recipe is for a real object: none is kept under the null id.
def RecreationGraph.Named (g : RecreationGraph) : Prop := ∀ id ∈ g.recipes.map Prod.fst, id ≠ 0

namespace RecreationGraph

variable {g : RecreationGraph}

theorem Named.record (named : g.Named) (id : UInt32) (recipe : Recreatable) (nonzero : id ≠ 0) : (g.record id recipe).Named := by
  intro other member
  simp only [RecreationGraph.record, List.map_append, List.map_cons, List.map_nil, List.mem_append, List.mem_singleton] at member
  rcases member with old | new
  · exact named other old
  · rw [new]
    exact nonzero

theorem Named.remove (named : g.Named) (id : UInt32) : (g.remove id).Named := by
  intro other member
  obtain ⟨entry, kept, rfl⟩ := List.mem_map.mp member
  exact named _ (List.mem_map_of_mem (List.mem_filter.mp kept).1)

theorem Named.update (named : g.Named) (id : UInt32) (change : Recreatable → Option Recreatable) : (g.update id change).Named := by
  intro other member
  rw [update_ids] at member
  exact named other member

end RecreationGraph

theorem update_recipes_named (env : Env) (ambient : Ambient) (graph : RecreationGraph) (m : Inbound) (msg : Bytes)
    (named : graph.Named) : (updateRecipes env ambient graph m msg).1.Named := by
  simp only [updateRecipes]
  split
  · split
    · exact named
    · exact named.update _ _
  · split
    · split
      · exact named
      · exact named.update _ _
    · split
      · split
        · exact named
        · split
          · exact named.update _ _
          · exact named.update _ _
      · split
        · split
          · exact named.update _ _
          · exact named
        · exact named

theorem retain_pool_named (graph : RecreationGraph) (m : Inbound) (payload : Bytes) (created : Option Creation) (fds : List Fd)
    (named : graph.Named) (nonzero : m.direction = .clientToHost → ∀ c, created = some c → c.guestId ≠ 0) :
    (retainPool graph m payload created fds).Named := by
  unfold retainPool
  split
  · rename_i pool
    split
    · rename_i c fd _
      exact named.record _ _ (nonzero ((is_request_iff _ _ _).mp pool).1 c rfl)
    · exact named
  · exact named

-- Only requests are captured, so an event brings no recipe.
theorem captured_named (p : Protocol) (graph : RecreationGraph) (m : Inbound) (msg : Bytes) (offset : Nat) (created : Creation)
    (planes : HashMap (UInt32 × List DmabufPlane)) (named : graph.Named)
    (nonzero : m.direction = .clientToHost → created.guestId ≠ 0) :
    (recordCaptured graph created.guestId (captureRecipe p m msg offset created planes).1).Named := by
  have captured := capture_recipe_captured p m msg offset created planes
  have recorded : ∀ recipe : Option Recreatable, m.direction = .clientToHost → (recordCaptured graph created.guestId recipe).Named := by
    intro recipe request
    cases recipe with
    | none => exact named
    | some recipe => exact named.record _ _ (nonzero request)
  generalize captureRecipe p m msg offset created planes = result at captured
  cases captured with
  | nothing => exact named
  | params request => exact named
  | global request listed => exact recorded _ ((is_request_iff _ _ _).mp request).1
  | seatDevice kind request => exact recorded _ ((is_request_iff _ _ _).mp request).1
  | surface request | xdgSurface request | xdgToplevel request | shmBuffer request | dmabufBuffer request | viewport request
  | fractionalScale request => exact recorded _ ((is_request_iff _ _ _).mp request).1

section Relay

variable (env : Env) (ambient : Ambient) (s : Session) (m : Inbound) (msg : Bytes) (created : Option Creation)

theorem observe_recipes_named (payload : Bytes) (named : s.graph.Named) :
    (observeRecipes env ambient (observeInput ambient s m payload) m msg).graph.Named := by
  refine update_recipes_named env ambient _ m msg ?_
  rw [(observe_input_aside s ambient m payload).graph]
  exact named

theorem drop_stale_sender_named (p : Protocol) (named : s.graph.Named) : (dropStaleSender p s m created).graph.Named := by
  have answered : (answerStaleSender p s m created).graph.Named := by
    unfold answerStaleSender
    split
    · refine RecreationGraph.Named.remove ?_ _
      rw [(synthesize_delete_id_aside p s m.sender).graph]
      exact named
    · split
      · split
        · exact named
        · rw [(synthesize_frame_done_aside p s _).graph]
          exact named
      · exact named
  cases created with
  | none => exact answered
  | some phantom => exact answered.remove _

theorem passed_on_named (named : s.graph.Named) (nonzero : m.direction = .clientToHost → ∀ c, created = some c → c.guestId ≠ 0)
    (disposal : Disposal) (next : Session) (passing : PassedOn env ambient s m created msg disposal next) : next.graph.Named := by
  have observed := observe_recipes_named env ambient s m msg (msg.drop headerLen) named
  cases passing with
  | staleGeneration updated is stale =>
      rw [is]
      exact observed
  | untranslatedSender noted is failed =>
      rw [is]
      exact drop_stale_sender_named _ m created env.protocol observed
  | forwarded noted otherSide is fresh found =>
      have still : noted.graph.Named := by
        rw [is]
        exact observed
      simp only [forward]
      refine retain_pool_named _ m _ created _ ?_ nonzero
      split
      · exact still
      · exact still

theorem relay_message_named (direction : Direction) (long : headerLen ≤ msg.length)
    (picks : direction = .clientToHost → PicksFresh env.protocol s.objects msg) (named : s.graph.Named) :
    (relayMessage env ambient direction s (headerOf msg) msg).2.graph.Named := by
  have handled := relay_message_handled env ambient direction s (headerOf msg) msg
  generalize (relayMessage env ambient direction s (headerOf msg) msg).1 = disposal at handled
  generalize (relayMessage env ambient direction s (headerOf msg) msg).2 = next at handled
  have brings : ∀ m translated rewritten created introduced, Resolved env.protocol s.objects direction (headerOf msg) msg m →
      translateObjects s.objects direction m.walk.objectOffsets msg = some translated →
      introduceObject env.protocol s m translated = .ok (created, introduced, rewritten) →
      introduced.graph.Named ∧ (m.direction = .clientToHost → ∀ c, created = some c → c.guestId ≠ 0) := by
    intro m translated rewritten created after resolved translating introducing
    have nonzero : m.direction = .clientToHost → ∀ c, created = some c → c.guestId ≠ 0 := by
      intro request c made
      rw [resolved.way] at request
      subst request
      obtain ⟨-, -, ⟨none, -⟩ | ⟨d, made', brings⟩⟩ :=
        introduced_request env s msg m resolved long (picks rfl) translated rewritten created after translating introducing
      · rw [none] at made
        cases made
      · rw [made'] at made
        cases made
        exact brings.nonzero
    refine ⟨?_, nonzero⟩
    obtain ⟨-, -, rfl, -⟩ | ⟨offset, child, version, -, -, rfl, rfl, -⟩ := introduce_object_ok _ _ _ _ _ _ _ introducing
    · exact named
    · exact captured_named env.protocol s.graph m translated offset _ _ named fun request => nonzero request _ rfl
  cases handled with
  | intercepted intercepting =>
      unfold handleSyntheticClipboardEvent
      split
      · split
        · exact named
        · dsimp only
          split
          · exact named
          · split
            · exact named
            · split <;> exact named
      · split <;> exact named
  | unknown | parseError | untranslatable => exact named
  | unresolvableChild m translated dropped resolved translating failed =>
      obtain ⟨-, -, rfl | ⟨guest, name, rfl⟩⟩ := introduce_object_error _ _ _ _ _ failed
      · exact named
      · exact named
  | untrackedDeleteId m translated rewritten created introduced resolved translating introducing failed =>
      exact (brings m translated rewritten created _ resolved translating introducing).1
  | passedOn m translated rewritten renamed created introduced forgotten next disposal spared resolved translating introducing
      forgetting passing =>
      obtain ⟨after, nonzero⟩ := brings m translated rewritten created _ resolved translating introducing
      refine passed_on_named env ambient _ m _ created ?_ nonzero _ _ passing
      obtain ⟨rfl, -⟩ | ⟨_, _, -, -, -, -, rfl, -⟩ := forget_deleted_some _ _ _ _ _ forgetting
      · exact after
      · exact after.remove _

end Relay

end WlResprox
