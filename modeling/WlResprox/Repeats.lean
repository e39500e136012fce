import WlResprox.AppIds
import WlResprox.Listings
import WlResprox.Restorations

set_option autoImplicit false

namespace WlResprox

universe u v

theorem Runs.onward {σ : Type u} {ε : Type v} {step : σ → ε → Option σ} {allowed : σ → ε → Prop} {start s s' : σ} {events more : List ε}
    (run : Runs step allowed start events s) (later : Runs step allowed s more s') : Runs step allowed start (events ++ more) s' := by
  induction later with
  | refl =>
      rw [List.append_nil]
      exact run
  | snoc more t t' event before permitted taken ih =>
      rw [← List.append_assoc]
      exact .snoc _ t t' event ih permitted taken

-- The blueprint asks the globals for their names only, in whatever order a host
-- advertised them.
theorem drawn_lookup (p : Protocol) (globals globals' : Globals) (same : ∀ name, globals'.lookup name = globals.lookup name)
    (graph : RecreationGraph) (registryGuestId : UInt32) (done : List (UInt32 × Recreatable)) :
    Blueprint.drawn p globals' graph registryGuestId done = Blueprint.drawn p globals graph registryGuestId done := by
  have each : ∀ (b : Blueprint) entry, b.add p globals' graph entry = b.add p globals graph entry := by
    intro b entry
    simp only [Blueprint.add, Blueprint.bind, same]
  simp only [Blueprint.drawn, funext fun b => funext (each b)]

theorem OnPaper.asked {p : Protocol} {globals : Globals} {graph : RecreationGraph} {s : Session} {registryGuestId : UInt32}
    {done : List (UInt32 × Recreatable)} (paper : OnPaper s (.drawn p globals graph registryGuestId done)) :
    askedRegistry s.trace = some registryGuestId := by
  obtain ⟨more, grown⟩ := drawn_requests p globals graph registryGuestId done
  rw [askedRegistry, paper.requests, ← grown]
  rfl

-- Neither a request of the client's nor the deletion of an object that has a
-- recipe.
def Undisturbed (p : Protocol) (recipes : List (UInt32 × Recreatable)) (entry : Traffic) : Prop :=
  (∀ msg, entry ≠ .took .gtk msg) ∧ ∀ g, entry.deletes p = some g → g ∉ recipes.map Prod.fst

theorem removed_absent (graph : RecreationGraph) (g : UInt32) (absent : g ∉ graph.recipes.map Prod.fst) : graph.remove g = graph := by
  have kept : (graph.recipes.filter fun entry => entry.1 ≠ g) = graph.recipes := by
    rw [List.filter_eq_self]
    intro entry member
    exact decide_eq_true fun same => absent (same ▸ List.mem_map_of_mem member)
  rw [RecreationGraph.remove, kept]

section Steps

variable {env : Env} {st next : State} {event : Event}

theorem event_turn_undisturbed {ambient : Ambient} {s t : Session} {msg : Bytes} (turn : EventTurn env ambient s msg t)
    (past added : List Traffic) (before : past <+: s.trace) (grown : t.trace = past ++ added)
    (undisturbed : ∀ entry ∈ added, Undisturbed env.protocol s.graph.recipes entry) : t.graph = s.graph := by
  cases turn with
  | unheard table books grabs trace => exact books.graph
  | heard m created deleted renamed noted noting outgoing names is =>
      obtain ⟨asked, sent, -, trace, relays⟩ := heard_adds env ambient s msg t m created deleted renamed noted noting outgoing is
      obtain ⟨fds, graph, -⟩ := forward_retains ambient noted m created (writeSenderId renamed m.sender)
      have pool : retainPool noted.graph m ((writeSenderId renamed m.sender).drop headerLen) created fds = noted.graph := by
        simp [retainPool, Inbound.isRequest, noting.resolved.way]
      rw [is, graph, pool, noting.graph]
      obtain ⟨table, announces, -⟩ := noting.table
      cases announces with
      | nothing | announced => rfl
      | deleted guestId display deletes found =>
          have tells := relays.announces_deletion env s msg noted noting display deletes (names guestId rfl)
          obtain ⟨skipped, whole⟩ := before
          rw [trace, ← whole, List.append_assoc, List.append_assoc] at grown
          have last : Traffic.sent sent ∈ added := by
            rw [← List.append_cancel_left grown]
            simp
          exact removed_absent s.graph guestId ((undisturbed _ last).2 guestId tells)

theorem transition_undisturbed (covered : Covered env.protocol) (transition : Transition env st event next)
    (added : List Traffic) (grown : next.session.trace = st.session.trace ++ added)
    (undisturbed : ∀ entry ∈ added, Undisturbed env.protocol st.session.graph.recipes entry) :
    next.session.graph = st.session.graph := by
  by_cases relaying : ∃ direction, st.control = .relaying direction
  · cases transition with
    | relayed s t direction ambient disposal turned =>
        cases direction with
        | clientToHost =>
            obtain ⟨msg, consumed, handled, taken, handling, rfl⟩ := relay_turn_some env ambient .clientToHost s t disposal turned
            have relays := (relay_message_frame (s.log (.took .gtk msg)) env ambient .clientToHost (headerOf msg) msg).grows
            obtain ⟨rest, whole⟩ := relays
            rw [show relayMessage env ambient .clientToHost (s.log (.took .gtk msg)) (headerOf msg) msg = (disposal, handled) from handling]
              at whole
            have took : .took .gtk msg :: rest = added :=
              List.append_cancel_left (((List.append_cons s.trace _ rest).trans whole).trans grown)
            exact absurd rfl ((undisturbed (.took .gtk msg) (took ▸ List.mem_cons_self)).1 msg)
        | hostToClient =>
            obtain ⟨msg, consumed, handled, taken, long, turn, rfl⟩ := relay_turn_event env covered ambient s t disposal turned
            have kept : handled.graph = (s.log (.took .host msg)).graph :=
              event_turn_undisturbed turn s.trace added (log_grows s (.took .host msg)) grown undisturbed
            exact kept
    | relayDone => rfl
    | cached => rfl
    | _ => exact absurd relaying (by simp)
  · exact unrelayed_graph transition fun direction is => relaying ⟨direction, is⟩

theorem run_grows {allowed : State → Event → Prop} {events : List Event} (run : Runs (step env) allowed st events next) :
    st.session.trace <+: next.session.trace :=
  run.invariant (fun s => st.session.trace <+: s.session.trace) List.prefix_rfl
    fun s event t grows _ taken => grows.trans (transition_grows (step_transition env s event t taken))

theorem run_undisturbed (covered : Covered env.protocol) {events : List Event}
    (run : Runs (step env) (Picks env) st events next) (added : List Traffic) (grown : next.session.trace = st.session.trace ++ added)
    (undisturbed : ∀ entry ∈ added, Undisturbed env.protocol st.session.graph.recipes entry) :
    next.session.graph = st.session.graph := by
  induction run generalizing added with
  | refl => rfl
  | snoc events s t event before permitted taken ih =>
      have transition := step_transition env s event t taken
      obtain ⟨first, whole⟩ := run_grows before
      obtain ⟨second, rest⟩ := transition_grows transition
      have split : first ++ second = added := by
        refine List.append_cancel_left (Eq.trans ?_ grown)
        rw [← List.append_assoc, whole, rest]
      have same := ih first whole.symm fun entry member => undisturbed entry (by rw [← split]; exact List.mem_append_left _ member)
      have kept := transition_undisturbed covered transition second rest.symm fun entry member => by
        rw [same]
        exact undisturbed entry (by rw [← split]; exact List.mem_append_right _ member)
      exact kept.trans same

end Steps

def isUndisturbed (p : Protocol) (recipes : List (UInt32 × Recreatable)) (entry : Traffic) : Bool :=
  (match entry with
    | .took .gtk _ => false
    | _ => true) && (entry.deletes p).all fun g => g ∉ recipes.map Prod.fst

theorem is_undisturbed_sound (p : Protocol) (recipes : List (UInt32 × Recreatable)) (entry : Traffic)
    (checked : isUndisturbed p recipes entry = true) : Undisturbed p recipes entry := by
  obtain ⟨untaken, spares⟩ := Bool.and_eq_true_iff.mp checked
  refine ⟨fun msg took => ?_, fun g gone => ?_⟩
  · rw [took] at untaken
    cases untaken
  · rw [gone] at spares
    exact of_decide_eq_true spares

-- The next compositor advertises the same three globals, in another order, and
-- never sends a configure.
def windowLostAgain : List Event :=
  [.turn ordinary, .hostReadable .error, reconnectCore, .hostReadable (.data (globalEvent 3 "wl_seat" ++
    globalEvent 1 "wl_compositor" ++ globalEvent 2 "xdg_wm_base" ++ registryDone) [])] ++ turns 11 ++ [.lapse]

def heardAlike (control later : Control) : Bool :=
  match control.replay, later.replay with
  | some r, some r' => r'.globals.entries.Perm r.globals.entries
  | _, _ => false

theorem heard_alike_sound {control later : Control} {r r' : Replay} (replaying : control.replay = some r)
    (replaying' : later.replay = some r') (checked : heardAlike control later = true) (name : String) :
    r'.globals.lookup name = r.globals.lookup name := by
  rw [heardAlike, replaying, replaying'] at checked
  exact AList.perm_lookup (of_decide_eq_true checked)

end WlResprox
