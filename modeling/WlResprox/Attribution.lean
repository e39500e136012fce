import WlResprox.Letters
import WlResprox.Retention

set_option autoImplicit false

namespace WlResprox

-- One turn of the relay loop over one letter.
structure Turn where
  ambient : Ambient
  before : Session
  letter : Letter
  disposal : Disposal
  after : Session

-- The loop of relay_ready_messages, turn by turn, over what one side sent.
inductive RelayRun (env : Env) (direction : Direction) (letters : List Letter) (s : Session) : List Turn → Session → Prop where
  | refl : RelayRun env direction letters s [] s
  | snoc (turns : List Turn) (before after : Session) (ambient : Ambient) (letter : Letter) (disposal : Disposal)
      (earlier : RelayRun env direction letters s turns before) (next : letters[turns.length]? = some letter)
      (turned : relayTurn env ambient direction before = some (disposal, after)) :
      RelayRun env direction letters s (turns ++ [⟨ambient, before, letter, disposal, after⟩]) after

-- The branches that pop descriptors; the others leave them queued.
def Disposal.popsFds : Disposal → Bool
  | .intercepted | .frozen | .relayed => true
  | _ => false

-- How many descriptors the signature of a message declares, as far as the
-- proxy knows it. Of its own data source's events only send has one.
def declaredFds (env : Env) (direction : Direction) (s : Session) (msg : Bytes) : Option Nat :=
  if intercepts s direction (headerOf msg) then some (if (headerOf msg).opcode = 1 then 1 else 0)
  else
    (resolveSender env.protocol s.objects direction (headerOf msg)).map fun resolved => resolved.2.2.signature.count .fd

-- A request whose descriptor the proxy keeps: create_pool, or an add to params
-- it still gathers planes for.
def keepsFd (env : Env) (direction : Direction) (s : Session) (msg : Bytes) : Bool :=
  match resolveSender env.protocol s.objects direction (headerOf msg) with
  | none => false
  | some (sender, interface, desc) =>
      direction = .clientToHost ∧
        ((interface.name = "wl_shm" ∧ desc.name = "create_pool" ∧ .newId ∈ desc.signature) ∨
          (interface.name = "zwp_linux_buffer_params_v1" ∧ desc.name = "add" ∧ 20 ≤ (msg.drop headerLen).length ∧
            (s.pendingDmabufPlanes.lookup sender).isSome))

-- A message is written with its sender's own descriptors, but for the one the
-- clipboard tee stands in for, or closes when it cannot be set up.
def Sent.Bears (sent : Sent) (own : List Fd) : Prop :=
  sent.fds = own ∨ sent.interface.name = "wl_data_source" ∧
    (sent.fds = own.dropLast ++ own.getLast?.toList.map Fd.tee ∨ sent.fds = own.dropLast)

structure Attributed (direction : Direction) (turn : Turn) : Prop where
  taken : turn.disposal = .relayed →
    (turn.before.conn direction.src).readFds = turn.letter.fds ++ (turn.after.conn direction.src).readFds
  written : ∀ sent, .sent sent ∈ turn.after.trace.drop turn.before.trace.length → sent.origin = .relayed →
    sent.Bears turn.letter.fds
  retained : ∀ fd, Retains turn.after fd → Retains turn.before fd ∨ turn.letter.fds.getLast? = some fd

def Turn.strands (turn : Turn) : Bool := !turn.disposal.popsFds && turn.letter.fds ≠ []

def Turn.uses (env : Env) (direction : Direction) (turn : Turn) : Bool :=
  turn.letter.fds ≠ [] && (turn.disposal = .relayed || turn.disposal = .frozen && keepsFd env direction turn.before turn.letter.msg)

-- What one message does with the queue of its side.
structure Spends (env : Env) (direction : Direction) (s next : Session) (msg : Bytes) (disposal : Disposal) (count : Nat) : Prop where
  queue : (next.conn direction.src).readFds =
    if disposal.popsFds then (s.conn direction.src).readFds.drop count else (s.conn direction.src).readFds
  written : ∀ added, next.trace = s.trace ++ added → ∀ sent, .sent sent ∈ added → sent.origin = .relayed →
    disposal = .relayed ∧ sent.Bears ((s.conn direction.src).readFds.take count)
  retained : ∀ fd, Retains next fd → Retains s fd ∨
    ((disposal = .relayed ∨ disposal = .frozen) ∧ keepsFd env direction s msg = true ∧
      ((s.conn direction.src).readFds.take count).getLast? = some fd)
  kept : disposal = .relayed ∨ disposal = .frozen → keepsFd env direction s msg = true →
    ∀ fd, ((s.conn direction.src).readFds.take count).getLast? = some fd → Retains next fd

theorem Frame.writes_nothing_relayed {s s' : Session} (frame : Observes s s') (added : List Traffic)
    (grown : s'.trace = s.trace ++ added) (sent : Sent) (member : .sent sent ∈ added) : sent.origin ≠ .relayed := by
  obtain ⟨entries, made, was⟩ := frame.trace
  have same : added = entries := List.append_cancel_left (grown.symm.trans was)
  subst same
  have own : sent.origin = .own := (made _ member).1
  simp [own]

-- A message that never gets to its descriptors leaves the queue as it was.
theorem dropped_spends (env : Env) (direction : Direction) (s next : Session) (msg : Bytes) (disposal : Disposal) (count : Nat)
    (frame : Observes s next) (retains : RetainsNoMore s next) (early : disposal.popsFds = false) :
    Spends env direction s next msg disposal count where
  queue := by rw [frame.readFds _ trivial, early]; rfl
  written added grown sent member relayed := absurd relayed (frame.writes_nothing_relayed added grown sent member)
  retained fd held := .inl (retains fd held)
  kept late := by rcases late with rfl | rfl <;> cases early

theorem substitute_tee_bears (ambient : Ambient) (m : Inbound) (payload : Bytes) (fds : List Fd) (sent : Sent)
    (interface : sent.interface = m.interface) (carries : sent.fds = substituteTee ambient m payload fds) :
    sent.Bears fds := by
  unfold substituteTee at carries
  split at carries
  · rename_i send
    have named : sent.interface.name = "wl_data_source" := by
      rw [interface]
      exact ((is_event_iff _ _ _).mp send).2.1
    split at carries
    · exact .inl carries
    · split at carries
      · split at carries
        · exact .inl carries
        · rename_i real last
          refine .inr ⟨named, ?_⟩
          split at carries
          · exact .inl (by rw [carries, last]; rfl)
          · exact .inr (by simpa using carries)
      · exact .inl carries
  · exact .inl carries

theorem substitute_tee_request (ambient : Ambient) (m : Inbound) (payload : Bytes) (fds : List Fd)
    (request : m.direction = .clientToHost) : substituteTee ambient m payload fds = fds := by
  have notSend : m.isEvent "wl_data_source" "send" = false := by simp [Inbound.isEvent, request]
  simp [substituteTee, notSend]

theorem plane_of_iff (payload : Bytes) (fd : Fd) : (planeOf payload fd).isSome = true ↔ 20 ≤ payload.length := by
  have reads : ∀ offset, readU32 payload offset = if offset + 4 ≤ payload.length then some (wordAt payload offset) else none :=
    fun _ => rfl
  constructor
  · intro made
    by_contra short
    simp [planeOf, reads 16, show ¬ 20 ≤ payload.length from short] at made
  · intro long
    simp [planeOf, reads, long, show 4 ≤ payload.length by omega, show 8 ≤ payload.length by omega,
      show 12 ≤ payload.length by omega, show 16 ≤ payload.length by omega]

theorem plane_of_fd (payload : Bytes) (fd : Fd) (plane : DmabufPlane) (made : planeOf payload fd = some plane) :
    plane.fd = fd := by
  unfold planeOf at made
  split at made <;> cases made
  rfl

-- What forwarding holds on to, in terms of the popped descriptors.
structure Keeping (planes : HashMap (UInt32 × List DmabufPlane)) (m : Inbound) (payload : Bytes) (created : Option Creation) :
    Prop where
  kept : (m.isRequest "wl_shm" "create_pool" = true ∧ created.isSome = true) ∨
    (m.isRequest "zwp_linux_buffer_params_v1" "add" = true ∧ 20 ≤ payload.length ∧ (planes.lookup m.sender).isSome = true)

section Keeping

variable (graph : RecreationGraph) (planes : HashMap (UInt32 × List DmabufPlane)) (m : Inbound) (payload : Bytes)
  (created : Option Creation) (fds : List Fd) (fd : Fd)

theorem retains_popped (held : RetainedIn (retainPool graph m payload created fds) (retainPlane planes m payload fds) fd) :
    RetainedIn graph planes fd ∨ Keeping planes m payload created ∧ fds.getLast? = some fd := by
  rcases held with ⟨entry, member, keeps⟩ | ⟨params, dmabuf, gathered, found, kept⟩
  · unfold retainPool at member
    split at member
    · rename_i request
      split at member
      · rename_i c last popped
        rcases List.mem_append.mp member with old | new
        · exact .inl (.inl ⟨entry, old, keeps⟩)
        · rw [List.mem_singleton] at new
          subst new
          have same : last = fd := keeps
          exact .inr ⟨⟨.inl ⟨request, rfl⟩⟩, by rw [popped, same]⟩
      · exact .inl (.inl ⟨entry, member, keeps⟩)
    · exact .inl (.inl ⟨entry, member, keeps⟩)
  · unfold retainPlane at found
    split at found
    · rename_i request
      split at found
      · rename_i plane dmabuf' before made tracked
        rw [HashMap.lookup_insert] at found
        split at found
        · cases found
          rcases List.mem_map.mp kept with ⟨other, member, rfl⟩
          rcases List.mem_append.mp member with old | new
          · exact .inl (.inr ⟨m.sender, dmabuf, before, tracked, List.mem_map.mpr ⟨other, old, rfl⟩⟩)
          · rw [List.mem_singleton] at new
            subst new
            obtain ⟨last, popped, planed⟩ := Option.bind_eq_some_iff.mp made
            have long : 20 ≤ payload.length := (plane_of_iff payload last).mp (by rw [planed]; rfl)
            exact .inr ⟨⟨.inr ⟨request, long, by rw [tracked]; rfl⟩⟩, by rw [popped, plane_of_fd payload last other planed]⟩
        · exact .inl (.inr ⟨params, dmabuf, gathered, found, kept⟩)
      · exact .inl (.inr ⟨params, dmabuf, gathered, found, kept⟩)
    · exact .inl (.inr ⟨params, dmabuf, gathered, found, kept⟩)

theorem keeping_retains (keeping : Keeping planes m payload created) (last : fds.getLast? = some fd) :
    RetainedIn (retainPool graph m payload created fds) (retainPlane planes m payload fds) fd := by
  rcases keeping.kept with ⟨pool, made⟩ | ⟨add, long, tracked⟩
  · obtain ⟨c, rfl⟩ := Option.isSome_iff_exists.mp made
    have recorded : ∃ size, (c.guestId, Recreatable.shmPool m.sender fd size) ∈ (retainPool graph m payload (some c) fds).recipes := by
      simp only [retainPool, pool, if_true, last]
      exact ⟨_, List.mem_append_right _ List.mem_cons_self⟩
    obtain ⟨size, member⟩ := recorded
    exact .inl ⟨_, member, rfl⟩
  · obtain ⟨⟨dmabuf, gathered⟩, found⟩ := Option.isSome_iff_exists.mp tracked
    obtain ⟨plane, planed⟩ := Option.isSome_iff_exists.mp ((plane_of_iff payload fd).mpr long)
    refine .inr ⟨m.sender, dmabuf, gathered ++ [plane], ?_, ?_⟩
    · simp [retainPlane, add, last, planed, found]
    · simp [plane_of_fd payload fd plane planed]

end Keeping

theorem keeping_request (planes : HashMap (UInt32 × List DmabufPlane)) (m : Inbound) (payload : Bytes)
    (created : Option Creation) (keeping : Keeping planes m payload created) : m.direction = .clientToHost := by
  rcases keeping.kept with ⟨pool, -⟩ | ⟨add, -, -⟩
  · exact ((is_request_iff _ _ _).mp pool).1
  · exact ((is_request_iff _ _ _).mp add).1

theorem forward_spends (env : Env) (ambient : Ambient) (s noted : Session) (msg out : Bytes) (m : Inbound)
    (created : Option Creation) (frame : Observes s noted) (retains : RetainsNoMore s noted)
    (keeps : keepsFd env m.direction s msg = true ↔ Keeping noted.pendingDmabufPlanes m (out.drop headerLen) created) :
    Spends env m.direction s (forward ambient noted m created out).2 msg (forward ambient noted m created out).1
      m.walk.fdCount := by
  have queued : (noted.conn m.direction.src).readFds = (s.conn m.direction.src).readFds := frame.readFds _ trivial
  have held : ∀ fd, Retains (forward ambient noted m created out).2 fd ↔
      RetainedIn (retainPool noted.graph m (out.drop headerLen) created
        (substituteTee ambient m (out.drop headerLen) ((s.conn m.direction.src).readFds.take m.walk.fdCount)))
        (retainPlane noted.pendingDmabufPlanes m (out.drop headerLen)
        (substituteTee ambient m (out.drop headerLen) ((s.conn m.direction.src).readFds.take m.walk.fdCount))) fd := by
    intro fd
    simp only [Retains, forward, queued]
    split <;> exact Iff.rfl
  have pops : (forward ambient noted m created out).1.popsFds = true := by
    simp only [forward]
    split <;> rfl
  refine ⟨?_, ?_, ?_, ?_⟩
  · rw [pops, if_pos rfl, ← queued]
    exact forward_queue noted ambient m created out
  · intro added grown sent member relayed
    obtain ⟨earlier, -, was⟩ := frame.trace
    simp only [forward] at grown ⊢
    split at grown
    · rename_i live
      refine ⟨by simp [live], ?_⟩
      have whole : added = earlier ++ [.sent ⟨m.direction.dst, .relayed, m.interface, out,
          substituteTee ambient m (out.drop headerLen) ((noted.conn m.direction.src).readFds.take m.walk.fdCount),
          ((noted.setReadFds m.direction.src ((noted.conn m.direction.src).readFds.drop m.walk.fdCount)).conn
            m.direction.dst).nextWrite⟩] := by
        have total : noted.trace ++ _ = s.trace ++ added := grown
        rw [was, List.append_assoc] at total
        exact (List.append_cancel_left total).symm
      rw [whole] at member
      rcases List.mem_append.mp member with old | new
      · exact absurd relayed (frame.writes_nothing_relayed earlier was sent old)
      · rw [List.mem_singleton] at new
        cases new
        rw [queued]
        exact substitute_tee_bears ambient m _ _ _ rfl rfl
    · exact absurd relayed (frame.writes_nothing_relayed added grown sent member)
  · intro fd keptNow
    rcases retains_popped _ _ m _ created _ fd ((held fd).mp keptNow) with before | ⟨keeping, last⟩
    · exact .inl (retains fd before)
    · rw [substitute_tee_request ambient m _ _ (keeping_request _ _ _ _ keeping)] at last
      refine .inr ⟨?_, keeps.mpr keeping, last⟩
      simp only [forward]
      split <;> simp
  · intro _ kept fd last
    have keeping := keeps.mp kept
    refine (held fd).mpr (keeping_retains _ _ m _ created _ fd keeping ?_)
    rwa [substitute_tee_request ambient m _ _ (keeping_request _ _ _ _ keeping)]

theorem handle_synthetic_spends (env : Env) (ambient : Ambient) (s : Session) (msg : Bytes) (count : Nat)
    (counted : count = if (headerOf msg).opcode = 1 then 1 else 0) :
    Spends env .hostToClient s (handleSyntheticClipboardEvent ambient s msg (headerOf msg).opcode) msg .intercepted count := by
  have quiet : ∀ next : Session, next.host.readFds = s.host.readFds.drop count →
      (next.trace = s.trace ∨ ∃ entry, (∀ sent, entry ≠ .sent sent) ∧ next.trace = s.trace ++ [entry]) →
      next.graph = s.graph → next.pendingDmabufPlanes = s.pendingDmabufPlanes →
      Spends env .hostToClient s next msg .intercepted count := by
    intro next queue trace graph planes
    refine ⟨queue, fun added grown sent member _ => ?_, fun fd held => .inl (RetainsNoMore.same graph planes fd held), by simp⟩
    rcases trace with same | ⟨entry, other, logged⟩
    · have none : added = [] := by simpa [same] using grown
      simp [none] at member
    · rw [logged] at grown
      have one := List.append_cancel_left grown
      rw [← one, List.mem_singleton] at member
      exact absurd member.symm (other sent)
  unfold handleSyntheticClipboardEvent
  split
  · rename_i send
    rw [if_pos send] at counted
    split
    · rename_i empty
      exact quiet _ (by simp [empty]) (.inl rfl) rfl rfl
    · rename_i fd rest queued
      have popped : (s.setReadFds .host rest).host.readFds = s.host.readFds.drop count := by
        rw [counted, queued]
        rfl
      dsimp only
      split
      · exact quiet _ popped (.inl rfl) rfl rfl
      · split
        · exact quiet _ popped (.inl rfl) rfl rfl
        · split
          · exact quiet _ popped (.inr ⟨.served fd _ _, by simp, rfl⟩) rfl rfl
          · exact quiet _ popped (.inl rfl) rfl rfl
  · rename_i other
    rw [if_neg other] at counted
    have same : s.host.readFds = s.host.readFds.drop count := by rw [counted, List.drop_zero]
    split
    · exact quiet _ same (.inl rfl) rfl rfl
    · exact quiet _ same (.inl rfl) rfl rfl

-- An add leaves the planes gathered so far to the forwarding branch.
theorem add_introduces_no_planes (p : Protocol) (s introduced : Session) (m : Inbound) (msg rewritten : Bytes)
    (created : Option Creation) (add : m.isRequest "zwp_linux_buffer_params_v1" "add" = true)
    (introducing : introduceObject p s m msg = .ok (created, introduced, rewritten)) :
    introduced.pendingDmabufPlanes = s.pendingDmabufPlanes := by
  have named := ((is_request_iff _ _ _).mp add).2.2
  obtain ⟨-, -, rfl, -⟩ | ⟨offset, child, version, -, -, -, rfl, -⟩ := introduce_object_ok _ _ _ _ _ _ _ introducing
  · rfl
  · have captured := capture_recipe_captured p m msg offset
      (createObject s.objects m.direction (wordAt msg (headerLen + offset)) child).1 s.pendingDmabufPlanes
    show (captureRecipe p m msg offset _ s.pendingDmabufPlanes).2 = s.pendingDmabufPlanes
    generalize captureRecipe p m msg offset _ s.pendingDmabufPlanes = result at captured ⊢
    cases captured with
    | params request => simp [((is_request_iff _ _ _).mp request).2.2] at named
    | dmabufBuffer request => simp [((is_request_iff _ _ _).mp request).2.2] at named
    | _ => rfl

theorem introduced_created (p : Protocol) (s introduced : Session) (m : Inbound) (msg rewritten : Bytes)
    (created : Option Creation) (introducing : introduceObject p s m msg = .ok (created, introduced, rewritten)) :
    created.isSome = m.walk.newIdOffset.isSome := by
  obtain ⟨absent, rfl, -, -⟩ | ⟨offset, child, version, located, -, rfl, -, -⟩ :=
    introduce_object_ok _ _ _ _ _ _ _ introducing
  · simp [absent]
  · simp [located]

theorem keeps_fd_iff (env : Env) (ambient : Ambient) (direction : Direction) (s introduced forgotten : Session) (msg translated rewritten renamed : Bytes)
    (m : Inbound) (created : Option Creation) (otherSide : UInt32) (long : headerLen ≤ msg.length)
    (resolved : Resolved env.protocol s.objects direction (headerOf msg) msg m)
    (translating : translateObjects s.objects direction m.walk.objectOffsets msg = some translated)
    (introducing : introduceObject env.protocol s m translated = .ok (created, introduced, rewritten))
    (forgetting : forgetDeleted introduced m rewritten = some (forgotten, renamed)) (graph : RecreationGraph) :
    keepsFd env direction s msg = true ↔ Keeping forgotten.pendingDmabufPlanes m
      ((writeSenderId (updateRecipes env ambient graph m renamed).2 otherSide).drop headerLen) created := by
  have rewrites := introduced_rewrites env s.objects direction (headerOf msg) msg m resolved long s introduced translated
    rewritten created translating introducing
  have made := introduced_created _ _ _ _ _ _ _ introducing
  rw [walk_new_id _ _ _ resolved.walk] at made
  have adds : m.isRequest "zwp_linux_buffer_params_v1" "add" = true →
      ((writeSenderId (updateRecipes env ambient graph m renamed).2 otherSide).drop headerLen).length =
        (msg.drop headerLen).length ∧ forgotten.pendingDmabufPlanes = s.pendingDmabufPlanes := by
    intro add
    obtain ⟨way, interface, request⟩ := (is_request_iff _ _ _).mp add
    have appId : m.isRequest "xdg_toplevel" "set_app_id" = false := by simp [Inbound.isRequest, interface]
    obtain ⟨rfl, rfl⟩ := forget_deleted_other _ _ _ _ _ forgetting (by simp [interface])
    rw [update_recipes_other env ambient graph m renamed appId]
    refine ⟨?_, add_introduces_no_planes _ _ _ _ _ _ _ add introducing⟩
    rw [List.length_drop, List.length_drop, (Rewrites.set_sender m.walk renamed otherSide _).lengths, rewrites.lengths]
    rw [rewrites.lengths]
    exact long
  rw [keepsFd, resolved.sender]
  simp only [decide_eq_true_eq]
  constructor
  · rintro ⟨way, ⟨interface, request, newId⟩ | ⟨interface, request, enough, tracked⟩⟩
    · exact ⟨.inl ⟨(is_request_iff _ _ _).mpr ⟨resolved.way.trans way, interface, request⟩, by rw [made]; simpa using newId⟩⟩
    · have add := (is_request_iff m _ _).mpr ⟨resolved.way.trans way, interface, request⟩
      obtain ⟨lengths, planes⟩ := adds add
      exact ⟨.inr ⟨add, by rw [lengths]; exact enough, by rw [planes]; exact tracked⟩⟩
  · rintro ⟨⟨pool, is⟩ | ⟨add, enough, tracked⟩⟩
    · obtain ⟨way, interface, request⟩ := (is_request_iff _ _ _).mp pool
      rw [made] at is
      exact ⟨resolved.way.symm.trans way, .inl ⟨interface, request, by simpa using is⟩⟩
    · obtain ⟨way, interface, request⟩ := (is_request_iff _ _ _).mp add
      obtain ⟨lengths, planes⟩ := adds add
      rw [lengths] at enough
      rw [planes] at tracked
      exact ⟨resolved.way.symm.trans way, .inr ⟨interface, request, enough, tracked⟩⟩

theorem handled_spends (env : Env) (ambient : Ambient) (direction : Direction) (s next : Session) (msg : Bytes)
    (disposal : Disposal) (count : Nat) (long : headerLen ≤ msg.length)
    (honest : ∀ declared, declaredFds env direction s msg = some declared → count = declared)
    (handled : Handled env ambient direction s (headerOf msg) msg disposal next) :
    Spends env direction s next msg disposal count := by
  cases handled with
  | intercepted intercepting =>
      have counted := honest (if (headerOf msg).opcode = 1 then 1 else 0) (by simp [declaredFds, intercepting])
      simp only [intercepts, decide_eq_true_eq] at intercepting
      obtain ⟨rfl, -⟩ := intercepting
      exact handle_synthetic_spends env ambient s msg count counted
  | unknown | parseError | untranslatable => exact dropped_spends _ _ _ _ _ _ _ (.refl s) (.refl s) rfl
  | unresolvableChild m translated dropped resolved translating failed =>
      obtain ⟨-, -, rfl | ⟨guest, name, rfl⟩⟩ := introduce_object_error _ _ _ _ _ failed
      · exact dropped_spends _ _ _ _ _ _ _ (.refl _) (.refl _) rfl
      · exact dropped_spends _ _ _ _ _ _ _ (.same rfl rfl rfl rfl) (.same rfl rfl) rfl
  | untrackedDeleteId m translated rewritten created introduced resolved translating introducing failed =>
      exact dropped_spends _ _ _ _ _ _ _ (introduce_object_frame _ _ _ _ _ _ _ introducing)
        (introduce_object_retains _ _ _ _ _ _ _ introducing) rfl
  | passedOn m translated rewritten renamed created introduced forgotten next disposal spared resolved translating
      introducing forgetting passing =>
      have frame := (introduce_object_frame _ _ _ _ _ _ _ introducing).trans (forget_deleted_frame _ _ _ _ _ forgetting)
      have retains := (introduce_object_retains _ _ _ _ _ _ _ introducing).trans (forget_deleted_retains _ _ _ _ _ forgetting)
      have observed := retains.trans (observe_recipes_retains env ambient forgotten m renamed)
      cases passing with
      | staleGeneration updated is stale =>
          subst is
          exact dropped_spends _ _ _ _ _ _ _ (frame.trans (observe_recipes_frame _ _ _ _ _)) observed rfl
      | untranslatedSender noted is failed =>
          subst is
          refine dropped_spends _ _ _ _ _ _ _
            ((frame.trans (observe_flow_frame _ _ _ _ created _)).trans (drop_stale_sender_frame env.protocol _ m created)) ?_ rfl
          exact (observed.trans (.same rfl rfl)).trans (drop_stale_sender_retains env.protocol _ m created)
      | forwarded noted otherSide is fresh translated =>
          subst is
          have counted : count = m.walk.fdCount := by
            rw [walk_fd_count _ _ _ resolved.walk]
            exact honest _ (by simp [declaredFds, spared, resolved.sender])
          have keeps := keeps_fd_iff env ambient direction s introduced forgotten msg _ rewritten renamed m created otherSide long
            resolved translating introducing forgetting
            (observeInput ambient forgotten m (renamed.drop headerLen)).graph
          rw [counted, ← resolved.way]
          refine forward_spends env ambient s _ msg _ m created (frame.trans (observe_flow_frame _ _ _ _ created _))
            (observed.trans (.same rfl rfl)) ?_
          rw [resolved.way, keeps]
          have planes := (observe_input_aside forgotten ambient m (renamed.drop headerLen)).pendingDmabufPlanes
          rw [show (observeFlow (observeRecipes env ambient (observeInput ambient forgotten m (renamed.drop headerLen)) m renamed) m
            created).pendingDmabufPlanes = forgotten.pendingDmabufPlanes from planes]

theorem turn_spends (env : Env) (ambient : Ambient) (direction : Direction) (before after : Session) (disposal : Disposal)
    (turned : relayTurn env ambient direction before = some (disposal, after)) :
    ∃ msg consumed, takeMessage (before.conn direction.src).readBuf = some (msg, consumed) ∧
      (after.conn direction.src).readBuf = (before.conn direction.src).readBuf.drop consumed ∧
      ∀ count, (∀ declared, declaredFds env direction before msg = some declared → count = declared) →
        Spends env direction before after msg disposal count := by
  obtain ⟨msg, consumed, handled, taken, relayed, rfl⟩ := relay_turn_some env ambient direction before after disposal turned
  have frame := relay_message_frame (before.log (.took direction.src msg)) env ambient direction (headerOf msg) msg
  have handling := relay_message_handled env ambient direction (before.log (.took direction.src msg)) (headerOf msg) msg
  rw [relayed] at frame handling
  have long : headerLen ≤ msg.length := by
    rw [take_message_length _ _ _ taken]
    exact (take_message_spec _ _ _ taken).1
  have drained : ∀ peer, ((handled.drainBuf direction.src consumed).conn peer).readFds = (handled.conn peer).readFds := by
    intro peer
    rw [Session.drainBuf, Session.conn_set_conn]
    split
    · rename_i same
      rw [same]
    · rfl
  refine ⟨msg, consumed, taken, ?_, fun count honest => ?_⟩
  · rw [Session.drainBuf, Session.conn_set_conn, if_pos rfl]
    have kept := frame.readBuf direction.src
    rw [Session.conn_log] at kept
    rw [← kept]
  · have spends := handled_spends env ambient direction (before.log (.took direction.src msg)) handled msg disposal
      count long honest handling
    refine ⟨?_, ?_, spends.retained, spends.kept⟩
    · rw [drained, spends.queue, Session.conn_log]
    · intro added grown sent member relayed
      obtain ⟨later, -, was⟩ := frame.trace
      have whole : added = .took direction.src msg :: later := by
        have total : before.trace ++ added = before.trace ++ ([.took direction.src msg] ++ later) := by
          rw [← grown, ← List.append_assoc]
          exact was
        exact List.append_cancel_left total
      rw [whole] at member
      have found : .sent sent ∈ later := by simpa using member
      have bears := spends.written later was sent found relayed
      rwa [Session.conn_log] at bears

-- The queue after some turns: the descriptors of dropped letters first, then
-- those of the letters still to come. None of them is held elsewhere.
structure Progress (direction : Direction) (letters : List Letter) (turns : List Turn) (s : Session) : Prop where
  lagging : ∃ late, Lagging late (letters.drop turns.length) (s.conn direction.src).readBuf (s.conn direction.src).readFds ∧
    (late = [] ↔ ∀ turn ∈ turns, turn.strands = false)
  distinct : (s.conn direction.src).readFds.Nodup
  apart : ∀ fd ∈ (s.conn direction.src).readFds, ¬ Retains s fd

-- What one turn sees: the descriptors that lag, its own, and the later ones.
structure Queue (direction : Direction) (turns : List Turn) (turn : Turn) (late later : List Fd) : Prop where
  queue : (turn.before.conn direction.src).readFds = late ++ (turn.letter.fds ++ later)
  lags : late = [] ↔ ∀ earlier ∈ turns, earlier.strands = false
  distinct : (turn.before.conn direction.src).readFds.Nodup
  apart : ∀ fd ∈ (turn.before.conn direction.src).readFds, ¬ Retains turn.before fd

-- A turn deals out its own descriptors just when none lags that it would
-- deal out in their place.
theorem turn_attributed_iff (env : Env) (direction : Direction) (turns : List Turn) (turn : Turn) (late later : List Fd)
    (q : Queue direction turns turn late later)
    (spends : Spends env direction turn.before turn.after turn.letter.msg turn.disposal turn.letter.fds.length)
    (grows : ∃ added, turn.after.trace = turn.before.trace ++ added) :
    Attributed direction turn ↔ (turn.uses env direction = true → late = []) := by
  have distinct := q.distinct
  have apart := q.apart
  rw [q.queue] at distinct apart
  constructor
  · intro attributed uses
    simp only [Turn.uses, Bool.and_eq_true, Bool.or_eq_true, decide_eq_true_eq] at uses
    obtain ⟨owns, relayed | ⟨frozen, keeps⟩⟩ := uses
    · -- the first descriptor of the queue would be both a late one and its own
      have taken := attributed.taken relayed
      rw [q.queue] at taken
      cases late with
      | nil => rfl
      | cons first rest =>
          obtain ⟨own, more, is⟩ := List.exists_cons_of_ne_nil owns
          simp only [is, List.cons_append, List.cons.injEq] at taken
          have twice : first ∈ rest ++ (turn.letter.fds ++ later) := by simp [is, taken.1]
          exact absurd twice (List.nodup_cons.mp distinct).1
    · by_contra lags
      have shorter : turn.letter.fds.length - 1 < (late ++ (turn.letter.fds ++ later)).length := by
        have some := List.length_pos_of_ne_nil owns
        simp only [List.length_append]
        omega
      have popped : ((late ++ (turn.letter.fds ++ later)).take turn.letter.fds.length).getLast? =
          some (late ++ (turn.letter.fds ++ later))[turn.letter.fds.length - 1] := by
        have some := List.length_pos_of_ne_nil owns
        rw [List.getLast?_take, if_neg (by omega), List.getElem?_eq_getElem shorter]
        rfl
      have held := spends.kept (.inr frozen) keeps _ (by rw [q.queue]; exact popped)
      rcases attributed.retained _ held with before | own
      · exact apart _ (List.getElem_mem shorter) before
      · have place : (late ++ (turn.letter.fds ++ later))[late.length + (turn.letter.fds.length - 1)]? =
            some (late ++ (turn.letter.fds ++ later))[turn.letter.fds.length - 1] := by
          have some := List.length_pos_of_ne_nil owns
          rw [List.getElem?_append_right (by omega), List.getElem?_append_left (by omega), ← own,
            List.getLast?_eq_getElem?]
          congr 1
          omega
        have same := (List.getElem?_inj shorter distinct).mp ((List.getElem?_eq_getElem shorter).trans place.symm)
        have positive := List.length_pos_of_ne_nil lags
        omega
  · intro prompt
    obtain ⟨added, grown⟩ := grows
    have entries : turn.after.trace.drop turn.before.trace.length = added := by rw [grown, List.drop_left]
    have mine : turn.uses env direction = true ∨ turn.letter.fds = [] →
        (turn.before.conn direction.src).readFds.take turn.letter.fds.length = turn.letter.fds := by
      rw [q.queue]
      rintro (uses | none)
      · rw [prompt uses, List.nil_append, List.take_left]
      · simp [none]
    have popping : ∀ disposal, turn.disposal = disposal → disposal = .relayed ∨
        (disposal = .frozen ∧ keepsFd env direction turn.before turn.letter.msg = true) →
        turn.uses env direction = true ∨ turn.letter.fds = [] := by
      rintro disposal is way
      by_cases none : turn.letter.fds = []
      · exact .inr none
      · left
        rcases way with relayed | ⟨frozen, keeps⟩
        · simp [Turn.uses, none, is, relayed]
        · simp [Turn.uses, none, is, frozen, keeps]
    refine ⟨fun relayed => ?_, fun sent member origin => ?_, fun fd held => ?_⟩
    · have own := mine (popping _ rfl (.inl relayed))
      rw [spends.queue, relayed]
      simp only [Disposal.popsFds, if_true]
      conv_lhs => rw [← List.take_append_drop turn.letter.fds.length (turn.before.conn direction.src).readFds, own]
    · rw [entries] at member
      obtain ⟨relayed, bears⟩ := spends.written added grown sent member origin
      rwa [mine (popping _ rfl (.inl relayed))] at bears
    · rcases spends.retained fd held with before | ⟨way, keeps, last⟩
      · exact .inl before
      · rw [mine (popping _ rfl (way.imp id fun frozen => ⟨frozen, keeps⟩))] at last
        exact .inr last

theorem turn_grows (env : Env) (ambient : Ambient) (direction : Direction) (before after : Session) (disposal : Disposal)
    (turned : relayTurn env ambient direction before = some (disposal, after)) :
    ∃ added, after.trace = before.trace ++ added := by
  obtain ⟨msg, consumed, handled, -, relayed, rfl⟩ := relay_turn_some env ambient direction before after disposal turned
  have frame := relay_message_frame (before.log (.took direction.src msg)) env ambient direction (headerOf msg) msg
  rw [relayed] at frame
  obtain ⟨added, -, grown⟩ := frame.trace
  exact ⟨.took direction.src msg :: added, grown.trans (by simp [Session.log])⟩

-- One turn, from what the turns before it left: its queue, and what it leaves.
theorem turn_progress (env : Env) (direction : Direction) (letters : List Letter) (turns : List Turn) (before after : Session)
    (ambient : Ambient) (letter : Letter) (disposal : Disposal) (progress : Progress direction letters turns before)
    (next : letters[turns.length]? = some letter) (turned : relayTurn env ambient direction before = some (disposal, after))
    (honest : ∀ declared, declaredFds env direction before letter.msg = some declared → letter.fds.length = declared) :
    (∃ late later, Queue direction turns ⟨ambient, before, letter, disposal, after⟩ late later) ∧
      Spends env direction before after letter.msg disposal letter.fds.length ∧
      Progress direction letters (turns ++ [⟨ambient, before, letter, disposal, after⟩]) after := by
  obtain ⟨late, lagging, lags⟩ := progress.lagging
  obtain ⟨msg, consumed, taken, drained, spend⟩ := turn_spends env ambient direction before after disposal turned
  have pending : letters.drop turns.length = letter :: letters.drop (turns.length + 1) := by
    obtain ⟨inside, is⟩ := List.getElem?_eq_some_iff.mp next
    rw [List.drop_eq_getElem_cons inside, is]
  obtain ⟨first, rest, same, rfl, rfl, onward⟩ := lagging.skim taken
  rw [pending] at same
  obtain ⟨rfl, rfl⟩ := List.cons.inj same
  have spends := spend letter.fds.length honest
  have queue : (before.conn direction.src).readFds = late ++ (letter.fds ++
      fdsOf (begun (letters.drop (turns.length + 1)) ((before.conn direction.src).readBuf.drop letter.msg.length).length)) := by
    rw [onward.fds, List.append_assoc]
  refine ⟨⟨late, _, queue, lags, progress.distinct, progress.apart⟩, spends, ?_⟩
  have count : (turns ++ [(⟨ambient, before, letter, disposal, after⟩ : Turn)]).length = turns.length + 1 := by simp
  have stranded : (∀ turn ∈ turns ++ [(⟨ambient, before, letter, disposal, after⟩ : Turn)], turn.strands = false) ↔
      late = [] ∧ (disposal.popsFds = false → letter.fds = []) := by
    rw [lags]
    simp only [List.mem_append, List.mem_singleton, or_imp, forall_and, forall_eq, Turn.strands]
    refine and_congr_right fun _ => ?_
    cases disposal.popsFds <;> simp
  have smaller : ∀ fd ∈ (after.conn direction.src).readFds, fd ∈ (before.conn direction.src).readFds := by
    intro fd member
    rw [spends.queue] at member
    split at member
    · exact List.mem_of_mem_drop member
    · exact member
  refine ⟨?_, ?_, fun fd member held => ?_⟩
  · rw [count, drained, spends.queue, stranded]
    split
    · rename_i pops
      refine ⟨(late ++ letter.fds).drop letter.fds.length, ⟨onward.bytes, ?_⟩, ?_⟩
      · rw [onward.fds, List.drop_append_of_le_length (by simp)]
      · simp only [pops, Bool.true_eq_false, false_implies, and_true, List.drop_eq_nil_iff, List.length_append]
        rw [← List.length_eq_zero_iff]
        omega
    · rename_i keeps
      refine ⟨late ++ letter.fds, onward, ?_⟩
      simp [Bool.eq_false_iff.mpr keeps]
  · rw [spends.queue]
    split
    · exact progress.distinct.sublist (List.drop_sublist _ _)
    · exact progress.distinct
  · rcases spends.retained fd held with earlier | ⟨way, -, last⟩
    · exact progress.apart fd (smaller fd member) earlier
    · have pops : disposal.popsFds = true := by rcases way with rfl | rfl <;> rfl
      rw [spends.queue, pops, if_pos rfl] at member
      have popped := List.mem_of_getLast? last
      have apart := List.disjoint_take_drop progress.distinct (Nat.le_refl letter.fds.length)
      exact apart popped member

-- Over any turns of the relay: every message is dealt its own descriptors, and
-- every descriptor kept is the request's own, just when no message dropped
-- before its descriptors are popped comes ahead of one that deals some out.
theorem fds_attributed_iff (env : Env) (direction : Direction) (letters : List Letter) (s t : Session) (turns : List Turn)
    (aligned : Aligned letters (s.conn direction.src).readBuf (s.conn direction.src).readFds)
    (distinct : (s.conn direction.src).readFds.Nodup) (apart : ∀ fd ∈ (s.conn direction.src).readFds, ¬ Retains s fd)
    (run : RelayRun env direction letters s turns t)
    (honest : ∀ turn ∈ turns, ∀ declared, declaredFds env direction turn.before turn.letter.msg = some declared →
      turn.letter.fds.length = declared) :
    (∀ turn ∈ turns, Attributed direction turn) ↔
      turns.Pairwise fun earlier later => ¬(earlier.strands = true ∧ later.uses env direction = true) := by
  have both : Progress direction letters turns t ∧ ((∀ turn ∈ turns, Attributed direction turn) ↔
      turns.Pairwise fun earlier later => ¬(earlier.strands = true ∧ later.uses env direction = true)) := by
    induction run with
    | refl => exact ⟨⟨⟨[], aligned, by simp⟩, distinct, apart⟩, by simp⟩
    | snoc turns before after ambient letter disposal earlier next turned ih =>
        obtain ⟨progress, settled⟩ := ih fun turn member => honest turn (List.mem_append_left _ member)
        have declares : ∀ declared, declaredFds env direction before letter.msg = some declared → letter.fds.length = declared :=
          honest ⟨ambient, before, letter, disposal, after⟩ (by simp)
        obtain ⟨⟨late, later, q⟩, spends, onward⟩ := turn_progress env direction letters turns before after ambient letter
          disposal progress next turned declares
        have this := turn_attributed_iff env direction turns _ late later q spends
          (turn_grows env ambient direction before after disposal turned)
        refine ⟨onward, ?_⟩
        rw [List.pairwise_append, ← settled]
        simp only [List.mem_append, List.mem_singleton, or_imp, forall_and, forall_eq, List.pairwise_singleton, true_and]
        rw [this, q.lags]
        refine and_congr_right fun _ => ?_
        constructor
        · rintro prompt other member ⟨strands, uses⟩
          simp [prompt uses other member] at strands
        · intro apart uses other member
          exact Bool.eq_false_iff.mpr fun strands => apart other member ⟨strands, uses⟩
  exact both.2

theorem relay_run_buffered (env : Env) (direction : Direction) (letters : List Letter) (s t : Session) (turns : List Turn)
    (arrived : (s.conn direction.src).readBuf <+: bytesOf letters) (run : RelayRun env direction letters s turns t) :
    (t.conn direction.src).readBuf <+: bytesOf (letters.drop turns.length) := by
  induction run with
  | refl => exact arrived
  | snoc turns before after ambient letter disposal earlier next turned ih =>
      obtain ⟨msg, consumed, taken, drained, -⟩ := turn_spends env ambient direction before after disposal turned
      obtain ⟨first, rest, pending, rfl, rfl⟩ := take_first_letter _ _ _ _ ih taken
      rw [pending] at ih
      have later : letters.drop (turns.length + 1) = rest := by rw [← List.drop_drop, pending]; rfl
      rw [drained, List.length_append, List.length_singleton, later]
      exact drop_first_letter first rest _ ih

-- The whole of relay_ready_messages is such a run, and stops for want of a
-- complete message only.
theorem relay_turns_run (env : Env) (ambient : Ambient) (direction : Direction) (letters : List Letter) (s t : Session)
    (turns : List Turn) (arrived : (s.conn direction.src).readBuf <+: bytesOf letters)
    (run : RelayRun env direction letters s turns t) (n : Nat) :
    ∃ all, RelayRun env direction letters s all (relayTurns env ambient direction n t) := by
  induction n generalizing turns t with
  | zero => exact ⟨turns, run⟩
  | succ n ih =>
      simp only [relayTurns]
      split
      · exact ⟨turns, run⟩
      · rename_i disposal after turned
        obtain ⟨msg, consumed, taken, -, -⟩ := turn_spends env ambient direction t after disposal turned
        obtain ⟨letter, rest, pending, -, -⟩ :=
          take_first_letter _ _ _ _ (relay_run_buffered env direction letters s t turns arrived run) taken
        have next : letters[turns.length]? = some letter := by
          rw [← List.head?_drop, pending]
          rfl
        exact ih after _ (.snoc turns t after ambient letter disposal run next turned)

theorem relay_ready_messages_run (env : Env) (ambient : Ambient) (direction : Direction) (letters : List Letter) (s : Session)
    (arrived : (s.conn direction.src).readBuf <+: bytesOf letters) :
    ∃ turns, RelayRun env direction letters s turns (relayReadyMessages env ambient direction s) :=
  relay_turns_run env ambient direction letters s s [] arrived .refl _

def relayLetters (env : Env) (ambient : Ambient) (direction : Direction) : List Letter → Session → List Turn × Session
  | [], s => ([], s)
  | letter :: rest, s =>
      match relayTurn env ambient direction s with
      | none => ([], s)
      | some (disposal, after) =>
          let (turns, last) := relayLetters env ambient direction rest after
          (⟨ambient, s, letter, disposal, after⟩ :: turns, last)

theorem relay_letters_run (env : Env) (ambient : Ambient) (direction : Direction) (earlier letters : List Letter) (s t : Session)
    (turns : List Turn) (run : RelayRun env direction (earlier ++ letters) s turns t) (count : turns.length = earlier.length) :
    RelayRun env direction (earlier ++ letters) s (turns ++ (relayLetters env ambient direction letters t).1)
      (relayLetters env ambient direction letters t).2 := by
  induction letters generalizing earlier turns t with
  | nil => simpa [relayLetters] using run
  | cons letter rest ih =>
      simp only [relayLetters]
      split
      · simpa using run
      · rename_i disposal after turned
        have next : (earlier ++ letter :: rest)[turns.length]? = some letter := by simp [count]
        have onward := ih (earlier ++ [letter]) after (turns ++ [⟨ambient, t, letter, disposal, after⟩])
          (by simpa using RelayRun.snoc turns t after ambient letter disposal run next turned) (by simp [count])
        simpa using onward

instance (fd : Fd) (recipe : Recreatable) : Decidable (recipe.Keeps fd) :=
  match recipe with
  | .shmPool _ kept _ => inferInstanceAs (Decidable (kept = fd))
  | .dmabufBuffer _ _ _ _ _ planes => inferInstanceAs (Decidable (fd ∈ planes.map DmabufPlane.fd))
  | .global .. | .surface .. | .xdgSurface .. | .xdgToplevel .. | .shmBuffer .. | .seatDevice .. | .viewport ..
  | .fractionalScale .. => inferInstanceAs (Decidable False)

-- Nothing a session holds is in the queue of one side, and nothing is there twice.
def queueOwned (direction : Direction) (s : Session) : Bool :=
  (s.conn direction.src).readFds.Nodup &&
    (s.conn direction.src).readFds.all fun fd =>
      (s.graph.recipes.all fun entry => decide ¬ entry.2.Keeps fd) &&
        s.pendingDmabufPlanes.entries.all fun entry => fd ∉ entry.2.2.map DmabufPlane.fd

theorem queue_owned_sound (direction : Direction) (s : Session) (checked : queueOwned direction s = true) :
    (s.conn direction.src).readFds.Nodup ∧ ∀ fd ∈ (s.conn direction.src).readFds, ¬ Retains s fd := by
  simp only [queueOwned, Bool.and_eq_true, decide_eq_true_eq, List.all_eq_true] at checked
  refine ⟨checked.1, fun fd member held => ?_⟩
  obtain ⟨recipes, planes⟩ := checked.2 fd member
  rcases held with ⟨entry, there, keeps⟩ | ⟨params, dmabuf, gathered, found, kept⟩
  · exact recipes entry there keeps
  · exact planes _ ((HashMap.mem_entries _ _ _).mpr found) kept

def honestly (env : Env) (direction : Direction) (turn : Turn) : Bool :=
  (declaredFds env direction turn.before turn.letter.msg).all (· = turn.letter.fds.length)

theorem honestly_sound (env : Env) (direction : Direction) (turns : List Turn) (checked : turns.all (honestly env direction) = true) :
    ∀ turn ∈ turns, ∀ declared, declaredFds env direction turn.before turn.letter.msg = some declared →
      turn.letter.fds.length = declared := by
  intro turn member declared is
  have fine := List.all_eq_true.mp checked turn member
  simp only [honestly, is, Option.all_some, decide_eq_true_eq] at fine
  exact fine.symm

-- A client whose buffer params (5) the new compositor never heard of. Its next
-- add is dropped, and then it asks for a pool.
def paramsLost : List Event :=
  .gtkReadable (.data (requestRegistry 2 ++ bindGlobal 1 "wl_shm" 3 ++ bindGlobal 2 "zwp_linux_dmabuf_v1" 4 ++
      buildMessage 4 1 (putU32 [] 5)) []) :: turns 5 ++
    [.hostReadable .error, reconnectCore,
      .hostReadable (.data (globalEvent 1 "wl_shm" ++ globalEvent 2 "zwp_linux_dmabuf_v1" ++ registryDone) [])] ++ turns 6

def addPlane : Letter :=
  ⟨buildMessage 5 1 (putU32 (putU32 (putU32 (putU32 (putU32 [] 0) 0) 256) 0) 0), [.received 7], by decide +kernel⟩

def createPool : Letter := ⟨buildMessage 3 0 (putU32 (putU32 [] 6) 4096), [.received 8], by decide +kernel⟩

def sendsLetters (letters : List Letter) : Event := .gtkReadable (.data (bytesOf letters) (fdsOf letters))

def relayedAfter (letters : List Letter) : Option (State × List Turn × Session) :=
  (coreRun unchecked (paramsLost ++ [sendsLetters letters])).map fun st =>
    (st, relayLetters coreEnv ordinary .clientToHost letters st.session)

theorem relayed_after_runs (letters : List Letter) (st : State) (turns : List Turn) (t : Session)
    (is : relayedAfter letters = some (st, turns, t)) :
    Runs (step coreEnv) (fun _ _ => True) coreStart (paramsLost ++ [sendsLetters letters]) st ∧
      RelayRun coreEnv .clientToHost letters st.session turns t := by
  obtain ⟨reached, folded, same⟩ := Option.map_eq_some_iff.mp is
  obtain ⟨rfl, both⟩ := Prod.mk.inj same
  have run := relay_letters_run coreEnv ordinary .clientToHost [] letters reached.session reached.session [] .refl rfl
  rw [both] at run
  exact ⟨unchecked_run folded, run⟩

def orderly (letters : List Letter) (s : Session) (turns : List Turn) : Bool :=
  s.gtk.readBuf.isPrefixOf (bytesOf letters) && s.gtk.readFds = fdsOf (begun letters s.gtk.readBuf.length) &&
    queueOwned .clientToHost s && turns.all (honestly coreEnv .clientToHost)

theorem orderly_sound (letters : List Letter) (s : Session) (turns : List Turn) (checked : orderly letters s turns = true) :
    Aligned letters s.gtk.readBuf s.gtk.readFds ∧ s.gtk.readFds.Nodup ∧ (∀ fd ∈ s.gtk.readFds, ¬ Retains s fd) ∧
      ∀ turn ∈ turns, ∀ declared, declaredFds coreEnv .clientToHost turn.before turn.letter.msg = some declared →
        turn.letter.fds.length = declared := by
  simp only [orderly, Bool.and_eq_true, List.isPrefixOf_iff_prefix, decide_eq_true_eq] at checked
  obtain ⟨⟨⟨arrived, queued⟩, owned⟩, honest⟩ := checked
  obtain ⟨distinct, apart⟩ := queue_owned_sound .clientToHost s owned
  exact ⟨⟨arrived, queued⟩, distinct, apart, honestly_sound _ _ turns honest⟩

def misdealt (turn : Turn) : Bool :=
  turn.disposal = .relayed && turn.before.gtk.readFds ≠ turn.letter.fds ++ turn.after.gtk.readFds

-- The dropped add leaves its descriptor queued, and the pool is given it.
theorem dropped_add_misdeals_pool :
    ∃ events st letters turns t, Runs (step coreEnv) (fun _ _ => True) coreStart events st ∧
      (Aligned letters st.session.gtk.readBuf st.session.gtk.readFds ∧ st.session.gtk.readFds.Nodup ∧
        (∀ fd ∈ st.session.gtk.readFds, ¬ Retains st.session fd)) ∧
      RelayRun coreEnv .clientToHost letters st.session turns t ∧
      (∀ turn ∈ turns, ∀ declared, declaredFds coreEnv .clientToHost turn.before turn.letter.msg = some declared →
        turn.letter.fds.length = declared) ∧
      ¬ ∀ turn ∈ turns, Attributed .clientToHost turn := by
  have found : (relayedAfter [addPlane, createPool]).any
      (fun r => orderly [addPlane, createPool] r.1.session r.2.1 && r.2.1.any misdealt) = true := by decide +kernel
  obtain ⟨⟨st, turns, t⟩, is, checked⟩ := (Option.any_eq_true _ _).mp found
  obtain ⟨run, relayed⟩ := relayed_after_runs _ st turns t is
  simp only [Bool.and_eq_true, List.any_eq_true] at checked
  obtain ⟨ordered, turn, member, wrong⟩ := checked
  obtain ⟨aligned, distinct, apart, honest⟩ := orderly_sound _ _ _ ordered
  refine ⟨_, st, _, turns, t, run, ⟨aligned, distinct, apart⟩, relayed, honest, fun all => ?_⟩
  simp only [misdealt, Bool.and_eq_true, decide_eq_true_eq] at wrong
  exact wrong.2 ((all turn member).taken wrong.1)

-- The other way round nothing is ahead of the pool.
theorem pool_before_dropped_add_attributed :
    ∃ events st turns t, Runs (step coreEnv) (fun _ _ => True) coreStart events st ∧
      RelayRun coreEnv .clientToHost [createPool, addPlane] st.session turns t ∧ turns.length = 2 ∧
      ∀ turn ∈ turns, Attributed .clientToHost turn := by
  have found : (relayedAfter [createPool, addPlane]).any
      (fun r => orderly [createPool, addPlane] r.1.session r.2.1 && (r.2.1.length = 2 : Bool) &&
        (r.2.1.Pairwise fun earlier later => ¬(earlier.strands = true ∧ later.uses coreEnv .clientToHost = true) : Bool)) = true := by
    decide +kernel
  obtain ⟨⟨st, turns, t⟩, is, checked⟩ := (Option.any_eq_true _ _).mp found
  obtain ⟨run, relayed⟩ := relayed_after_runs _ st turns t is
  simp only [Bool.and_eq_true, decide_eq_true_eq] at checked
  obtain ⟨⟨ordered, two⟩, prompt⟩ := checked
  obtain ⟨aligned, distinct, apart, honest⟩ := orderly_sound _ _ _ ordered
  exact ⟨_, st, turns, t, run, relayed, two,
    (fds_attributed_iff coreEnv .clientToHost _ st.session t turns aligned distinct apart relayed honest).mpr prompt⟩

end WlResprox
