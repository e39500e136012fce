import WlResprox.Legibility
import WlResprox.Panics
import WlResprox.Translations

set_option autoImplicit false

namespace WlResprox

def Recreatable.title : Recreatable → Option String
  | .xdgToplevel _ title _ => title
  | _ => none

def RecreationGraph.TitlesFit (g : RecreationGraph) : Prop :=
  ∀ entry ∈ g.recipes, ∀ title, entry.2.title = some title → (putStr [] title).length ≤ 65527

namespace RecreationGraph

variable {g : RecreationGraph}

theorem TitlesFit.record (fit : g.TitlesFit) (id : UInt32) (recipe : Recreatable) (untitled : recipe.title = none) :
    (g.record id recipe).TitlesFit := by
  intro entry member title titled
  rcases List.mem_append.mp member with old | new
  · exact fit entry old title titled
  · rw [List.mem_singleton.mp new] at titled
    cases untitled.symm.trans titled

theorem TitlesFit.remove (fit : g.TitlesFit) (id : UInt32) : (g.remove id).TitlesFit := fun entry member =>
  fit entry ((mem_remove g id entry.1 entry.2).mp member).2

theorem TitlesFit.update (fit : g.TitlesFit) (id : UInt32) (change : Recreatable → Option Recreatable)
    (keeps : ∀ old new title, change old = some new → new.title = some title →
      old.title = some title ∨ (putStr [] title).length ≤ 65527) : (g.update id change).TitlesFit := by
  intro entry member title titled
  rcases mem_update g id change entry member with same | ⟨old, there, changed, -⟩
  · exact fit entry same title titled
  · rcases keeps old entry.2 title changed titled with before | fits
    · exact fit _ there title before
    · exact fits

end RecreationGraph

theorem captured_untitled (p : Protocol) (m : Inbound) (msg : Bytes) (offset : Nat) (created : Creation)
    (planes : HashMap (UInt32 × List DmabufPlane)) (recipe : Recreatable)
    (captured : (captureRecipe p m msg offset created planes).1 = some recipe) : recipe.title = none := by
  have kinds := capture_recipe_captured p m msg offset created planes
  generalize captureRecipe p m msg offset created planes = result at kinds captured
  cases kinds with
  | nothing | params => cases captured
  | global | surface | xdgToplevel | seatDevice =>
      cases captured
      rfl
  | xdgSurface | viewport | fractionalScale =>
      obtain ⟨_, -, same⟩ := Option.map_eq_some_iff.mp captured
      cases same
      rfl
  | shmBuffer request =>
      simp only [shmBufferRecipe] at captured
      split at captured
      · cases captured
        rfl
      · cases captured
  | dmabufBuffer request =>
      simp only [dmabufBufferRecipe] at captured
      split at captured
      · cases captured
        rfl
      · cases captured

theorem update_recipes_titles (env : Env) (ambient : Ambient) (graph : RecreationGraph) (m : Inbound) (msg : Bytes) (fit : graph.TitlesFit)
    (fits : m.isRequest "xdg_toplevel" "set_title" = true → ∀ title stop, readStr (msg.drop headerLen) 0 = some (title, stop) →
      (putStr [] title).length ≤ 65527) : (updateRecipes env ambient graph m msg).1.TitlesFit := by
  unfold updateRecipes
  dsimp only
  split
  · split
    · exact fit
    · refine fit.update _ _ fun old new title changed titled => ?_
      cases old <;> simp only [reduceCtorEq, Option.some.injEq] at changed
      subst changed
      exact .inl titled
  · split
    · rename_i renames
      split
      · exact fit
      · rename_i given stop read
        refine fit.update _ _ fun old new title changed titled => ?_
        cases old <;> simp only [reduceCtorEq, Option.some.injEq] at changed
        subst changed
        cases titled
        exact .inr (fits renames given stop read)
    · have appId : ∀ text, (graph.updateToplevelAppId m.sender text).TitlesFit := fun text => by
        refine fit.update _ _ fun old new title changed titled => ?_
        cases old <;> simp only [reduceCtorEq, Option.some.injEq] at changed
        subst changed
        exact .inl titled
      split
      · split
        · exact fit
        · split
          · exact appId _
          · exact appId _
      · split
        · split
          · refine fit.update _ _ fun old new title changed titled => ?_
            cases old <;> simp only [reduceCtorEq, Option.some.injEq] at changed
            subst changed
            exact .inl titled
          · exact fit
        · exact fit

section Titles

variable {p : Protocol} (covered : Covered p) (dirs : List Directory) (ambient : Ambient) (s : Session)

theorem drop_stale_sender_titles (m : Inbound) (created : Option Creation) (fit : s.graph.TitlesFit) :
    (dropStaleSender p s m created).graph.TitlesFit := by
  have answered : (answerStaleSender p s m created).graph.TitlesFit := by
    unfold answerStaleSender
    split
    · refine RecreationGraph.TitlesFit.remove ?_ _
      rw [(synthesize_delete_id_aside p s m.sender).graph]
      exact fit
    · split
      · split
        · exact fit
        · rw [(synthesize_frame_done_aside p s _).graph]
          exact fit
      · exact fit
  cases created with
  | none => exact answered
  | some phantom => exact answered.remove _

theorem retain_pool_titles (graph : RecreationGraph) (m : Inbound) (payload : Bytes) (created : Option Creation) (fds : List Fd)
    (fit : graph.TitlesFit) : (retainPool graph m payload created fds).TitlesFit := by
  unfold retainPool
  split
  · split
    · exact fit.record _ _ rfl
    · exact fit
  · exact fit

include covered

theorem relay_message_titles (direction : Direction) (msg : Bytes) (framed : Framed msg) (fit : s.graph.TitlesFit) :
    (relayMessage ⟨p, DesktopAppIndex.buildFromDirs dirs⟩ ambient direction s (headerOf msg) msg).2.graph.TitlesFit := by
  have handled := relay_message_handled ⟨p, DesktopAppIndex.buildFromDirs dirs⟩ ambient direction s (headerOf msg) msg
  generalize (relayMessage ⟨p, DesktopAppIndex.buildFromDirs dirs⟩ ambient direction s (headerOf msg) msg).1 = disposal at handled
  generalize (relayMessage ⟨p, DesktopAppIndex.buildFromDirs dirs⟩ ambient direction s (headerOf msg) msg).2 = next at handled
  have brings : ∀ m translated rewritten created introduced,
      introduceObject p s m translated = .ok (created, introduced, rewritten) → introduced.graph.TitlesFit := by
    intro m translated rewritten created introduced introducing
    obtain ⟨-, -, rfl, -⟩ | ⟨offset, child, version, -, -, rfl, rfl, -⟩ := introduce_object_ok _ _ _ _ _ _ _ introducing
    · exact fit
    · show (recordCaptured s.graph _ _).TitlesFit
      cases captured : (captureRecipe p m translated offset
          (createObject s.objects m.direction (wordAt translated (headerLen + offset)) child).1 s.pendingDmabufPlanes).1 with
      | none => exact fit
      | some recipe => exact fit.record _ _ (captured_untitled p m translated offset _ _ recipe captured)
  cases handled with
  | intercepted intercepting =>
      rw [(handle_synthetic_served ambient s msg (headerOf msg).opcode).2.1.graph]
      exact fit
  | unknown | parseError | untranslatable => exact fit
  | unresolvableChild m translated dropped resolved translating failed =>
      obtain ⟨-, -, rfl | ⟨guest, name, rfl⟩⟩ := introduce_object_error _ _ _ _ _ failed <;> exact fit
  | untrackedDeleteId m translated rewritten created introduced resolved translating introducing failed =>
      exact brings m translated rewritten created _ introducing
  | passedOn m translated rewritten renamed created introduced forgotten next disposal spared resolved translating introducing
      forgetting passing =>
      have after : forgotten.graph.TitlesFit := by
        have first := brings m translated rewritten created _ introducing
        obtain ⟨rfl, -⟩ | ⟨_, _, -, -, -, -, rfl, -⟩ := forget_deleted_some _ _ _ _ _ forgetting
        · exact first
        · exact first.remove _
      obtain ⟨whole, -, walked⟩ := renamed_reads covered dirs framed resolved translating introducing forgetting
      have titles : (observeRecipes ⟨p, DesktopAppIndex.buildFromDirs dirs⟩ ambient
          (observeInput ambient forgotten m (renamed.drop headerLen)) m renamed).graph.TitlesFit := by
        refine update_recipes_titles _ ambient _ m renamed ?_ fun renames title stop read => ?_
        · rw [(observe_input_aside forgotten ambient m _).graph]
          exact after
        · obtain ⟨request, toplevel, named⟩ := (is_request_iff _ _ _).mp renames
          have member := resolved_member ⟨p, DesktopAppIndex.buildFromDirs dirs⟩ s.objects direction msg m resolved
          rw [← resolved.way, request, interface_named _ _ toplevel] at member
          have signature := (declared_entry _ _ _ _ (covered.requests _) covered.setTitle m.desc member named).1
          rw [signature] at walked
          have room := walked_string_room _ title stop m.walk read walked
          obtain ⟨long, declared⟩ := (framed_iff renamed).mp whole
          have bound := (headerOf renamed).length.toNat_lt
          simp only [MessageHeader.messageLen] at declared
          rw [List.length_drop] at room
          simp only [headerLen] at room
          omega
      cases passing with
      | staleGeneration updated is stale =>
          rw [is]
          exact titles
      | untranslatedSender noted is failed =>
          refine drop_stale_sender_titles noted m created ?_
          rw [is]
          exact titles
      | forwarded noted otherSide is fresh found =>
          have still : noted.graph.TitlesFit := by
            rw [is]
            exact titles
          simp only [forward]
          refine retain_pool_titles _ m _ created _ ?_
          split
          · exact still
          · exact still

end Titles

section Runs

variable {p : Protocol} (dirs : List Directory)

-- What the proxy does not check and so passes on as it came: the configure
-- and the ack of a handshake. A type gets into the cache from a message.
def Speaks (p : Protocol) (st : State) (event : Event) : Prop :=
  match event, st.control with
  | .turn _, .awaitingConfigure h _ => ∀ msg consumed, takeMessage st.session.host.readBuf = some (msg, consumed) →
      (senderOf msg = h.hostId → some (opcodeOfMessage msg) = eventOpcode p h.interface "configure" →
        (decode p .hostToClient h.interface msg).isSome = true) ∧
      (senderOf msg = h.xdgSurfaceHostId → some (opcodeOfMessage msg) = eventOpcode p h.xdgSurface "configure" →
        (decode p .hostToClient h.xdgSurface msg).isSome = true)
  | .turn _, .awaitingAck h _ => ∀ msg consumed, takeMessage st.session.gtk.readBuf = some (msg, consumed) →
      senderOf msg = h.xdgSurfaceGuestId → some (opcodeOfMessage msg) = requestOpcode p h.xdgSurface "ack_configure" →
        (decode p .clientToHost h.xdgSurface msg).isSome = true
  | .cached mimeType _, _ => FitType mimeType
  | _, _ => True

def FitTypes (cache : ClipboardCache) : Prop := ∀ mimeType ∈ cache.byMimeType.keys, FitType mimeType

theorem fit_cached (cache : ClipboardCache) (order : HashOrder) (fit : FitTypes cache) (mimeType : String)
    (cached : mimeType ∈ cache.cachedMimeTypes order) : FitType mimeType :=
  fit mimeType ((HashOrder.mem_arrange order _ _).mp cached)

-- Passed on under another id, a message reads as it did.
theorem readdressed_legible (peer : Peer) (interface : Interface) (id : UInt32) (msg : Bytes) (framed : Framed msg) (outcome : WriteOutcome)
    (reads : (decode p peer.toward interface msg).isSome = true) :
    Sent.Legible p ⟨peer, .relayed, interface, buildMessage id (opcodeOfMessage msg) (msg.drop headerLen), [], outcome⟩ := by
  obtain ⟨call, decoded⟩ := Option.isSome_iff_exists.mp reads
  obtain ⟨walk, listed, walked, -⟩ := decode_inv _ _ _ _ _ decoded
  obtain ⟨long, declared⟩ := (framed_iff msg).mp framed
  have bound := (headerOf msg).length.toNat_lt
  simp only [MessageHeader.messageLen] at declared
  refine ⟨built_framed _ _ _ ?_, _, decode_some p _ _ _ call.desc walk ?_ ?_, Nat.zero_le _⟩
  · rw [List.length_drop]
    simp only [headerLen]
    omega
  · rw [opcode_of_built]
    exact listed
  · rw [build_message_payload]
    exact walked

theorem resume_legible (order : HashOrder) (s : Session) : Adds (Traffic.Legible p) s (resume p order s).session :=
  (told_legible (synthesize_grab_releases_frame p s order)).trans (Adds.trans (.same rfl) (.log _ _ trivial))

theorem heed_registry_legible (s : Session) (w : RegistryWait) (msg : Bytes) : Adds (Traffic.Legible p) s (heedRegistry s w msg).session := by
  unfold heedRegistry
  split
  · exact .same rfl
  · split
    · exact (show Adds (Traffic.Legible _) s (endWait s .host) from .log _ _ trivial).trans (.same rfl)
    · exact .same rfl

theorem heed_configure_legible (s : Session) (h : Handshake) (r : Replay) (msg : Bytes) (framed : Framed msg)
    (toplevel : senderOf msg = h.hostId → some (opcodeOfMessage msg) = eventOpcode p h.interface "configure" →
      (decode p .hostToClient h.interface msg).isSome = true)
    (xdgSurface : senderOf msg = h.xdgSurfaceHostId → some (opcodeOfMessage msg) = eventOpcode p h.xdgSurface "configure" →
      (decode p .hostToClient h.xdgSurface msg).isSome = true) :
    Adds (Traffic.Legible p) s (heedConfigure p s h r msg).session := by
  unfold heedConfigure
  split
  · rename_i own
    have fine := fun id outcome (_ : Peer.gtk = .host ∨ Origin.relayed = .relayed) =>
      readdressed_legible .gtk h.interface id msg framed outcome (toplevel own.1 own.2)
    split
    · rename_i written wrote
      exact .wrote wrote (fine _)
    · rename_i failed wrote
      exact (Adds.wrote wrote (fine _)).trans (.log _ _ trivial)
  · split
    · rename_i own
      have fine := fun id outcome (_ : Peer.gtk = .host ∨ Origin.relayed = .relayed) =>
        readdressed_legible .gtk h.xdgSurface id msg framed outcome (xdgSurface own.1 own.2)
      split
      · rename_i written wrote
        exact (Adds.wrote wrote (fine _)).trans (.log _ _ trivial)
      · rename_i failed wrote
        exact (Adds.wrote wrote (fine _)).trans (.log _ _ trivial)
    · exact .same rfl

theorem heed_ack_legible (s : Session) (h : Handshake) (r : Replay) (msg : Bytes) (framed : Framed msg)
    (speaks : senderOf msg = h.xdgSurfaceGuestId → some (opcodeOfMessage msg) = requestOpcode p h.xdgSurface "ack_configure" →
      (decode p .clientToHost h.xdgSurface msg).isSome = true) :
    Adds (Traffic.Legible p) s (heedAck p s h r msg).session := by
  unfold heedAck
  split
  · rename_i own
    have fine := fun outcome (_ : Peer.host = .host ∨ Origin.relayed = .relayed) =>
      readdressed_legible .host h.xdgSurface h.xdgSurfaceHostId msg framed outcome (speaks own.1 own.2)
    exact (Adds.wrote rfl fine).trans (.log _ _ trivial)
  · exact .same rfl

variable (covered : Covered p)

include covered

theorem begin_recovery_legible (order : HashOrder) (s : Session) : Adds (Traffic.Legible p) s (beginRecovery p order s).session := by
  have cleared : Adds (Traffic.Legible p) s { s with reclaim := { s.reclaim with activeSourceHostId := none } } := .same rfl
  simp only [beginRecovery]
  split
  · exact cleared.trans (resume_legible order _)
  · rename_i registryGuestId _
    split
    · exact cleared
    · have asked := ask_for_globals_legible p { s with reclaim := { s.reclaim with activeSourceHostId := none } } covered registryGuestId
      split
      · rename_i failed result
        rw [result] at asked
        exact cleared.trans asked
      · rename_i done result
        rw [result] at asked
        exact cleared.trans asked

theorem replay_turn_legible (commits : CommitsPlainly p) (order : HashOrder) (s : Session) (r : Replay) (fresh : Fresh s.objects)
    (registry : r.registry = wlRegistry) (nonzero : ∀ id ∈ r.rest.map Prod.fst, id ≠ 0) (fits : ∀ entry ∈ r.rest, entry.2.FitsText) :
    Adds (Traffic.Legible p) s (replayTurn p order s r).session := by
  unfold replayTurn
  split
  · exact (told_legible (settle_recovery_frame p s order r.globals)).trans (resume_legible order _)
  · rename_i guestId recipe rest more
    have member : (guestId, recipe) ∈ r.rest := by
      rw [more]
      exact List.mem_cons_self
    have replays := fun t handshake (result : replayRecipe p r.globals r.registry r.registryHostId s guestId recipe = some (t, handshake)) =>
      replay_recipe_legible p s guestId covered commits fresh (nonzero guestId (List.mem_map_of_mem member)) r.globals r.registryHostId recipe
        (fits _ member) t handshake (registry ▸ result)
    split
    · exact .same rfl
    · rename_i t replayed
      exact replays t none replayed
    · rename_i t h replayed
      exact replays t (some h) replayed

theorem transition_legible (commits : CommitsPlainly p) {st next : State} {event : Event}
    (transition : Transition ⟨p, DesktopAppIndex.buildFromDirs dirs⟩ st event next) (ready : Ready st)
    (fits : ∀ entry ∈ st.control.rest, entry.2.FitsText) (types : FitTypes st.session.clipboardCache) (speaks : Speaks p st event) :
    Adds (Traffic.Legible p) st.session next.session := by
  cases transition with
  | readClient | clientGone | readHost | readAck | readRegistry | readConfigure | relayDone | cached => exact .same rfl
  | hostGone s => exact (show Adds (Traffic.Legible _) s { s with frozen := true } from .same rfl).trans (.log _ _ trivial)
  | ackGone s | ackLapse s | registryGone s | configureGone s | configureLapse s => exact .log _ _ trivial
  | relayed s next direction ambient disposal turned =>
      exact relay_turn_legible covered dirs ambient s direction next disposal (fit_cached s.clipboardCache ambient.order types) turned
  | skimRegistry s w ambient msg consumed taken =>
      exact (Adds.log (s.drainBuf .host consumed) _ trivial).trans (heed_registry_legible _ w msg)
  | skimConfigure s h r ambient msg consumed taken =>
      have own := speaks msg consumed taken
      exact (Adds.log (s.drainBuf .host consumed) _ trivial).trans
        (heed_configure_legible _ h r msg (taken_framed _ _ _ taken) own.1 own.2)
  | skimAck s h r ambient msg consumed taken =>
      have own := speaks msg consumed taken
      exact (Adds.log (s.drainBuf .gtk consumed) _ trivial).trans (heed_ack_legible _ h r msg (taken_framed _ _ _ taken) own)
  | replayed s r ambient =>
      exact replay_turn_legible covered commits ambient.order s r (ready.fresh rfl) ready.prepared.1 ready.prepared.2 fits
  | reconnect s ambient outcomes =>
      exact (show Adds (Traffic.Legible _) s (reconnected s outcomes) from .log _ _ trivial).trans (begin_recovery_legible covered ambient.order _)

omit covered

theorem resume_cache (order : HashOrder) (s : Session) : (resume p order s).session.clipboardCache = s.clipboardCache := by
  have pointers := grab_fold_aside (releasePointerGrab p) (fun st grab => by
    unfold releasePointerGrab
    split
    · exact .refl _
    · rename_i interface _
      refine Aside.trans ?_ (grab_fold_aside _ (fun st button => grab_event_aside p _ _ _ _ st) _ _)
      split
      · exact .refl _
      · exact grab_event_aside p _ _ _ _ st) (s.grabs.activePointerGrabs order) (1, s)
  have keyboards := grab_fold_aside (releaseKeyboardGrab p) (fun st grab => by
    unfold releaseKeyboardGrab
    split
    · exact .refl _
    · exact grab_event_aside p _ _ _ _ st) (s.grabs.activeKeyboardGrabs order)
    ((s.grabs.activePointerGrabs order).foldl (releasePointerGrab p) (1, s))
  exact keyboards.clipboardCache.trans pointers.clipboardCache

theorem settle_recovery_cache (order : HashOrder) (globals : Globals) (s : Session) :
    (settleRecovery p order globals s).clipboardCache = s.clipboardCache := by
  have released : (drainInFlight p order s).clipboardCache = s.clipboardCache :=
    (Aside.fold (releaseInFlight p) (release_in_flight_aside p) _ _).clipboardCache
  have answered : (drainAwaitingDone p order (drainInFlight p order s)).clipboardCache = (drainInFlight p order s).clipboardCache :=
    (Aside.fold (synthesizeFrameDone p) (synthesize_frame_done_aside p) _ _).clipboardCache
  exact answered.trans released

theorem begin_recovery_cache (order : HashOrder) (s : Session) : (beginRecovery p order s).session.clipboardCache = s.clipboardCache := by
  simp only [beginRecovery]
  split
  · exact resume_cache order _
  · rename_i registryGuestId _
    split
    · rfl
    · have asked : (askForGlobals { s with reclaim := { s.reclaim with activeSourceHostId := none } } registryGuestId).2.clipboardCache =
          s.clipboardCache := by
        simp only [askForGlobals]
        split
        · rename_i failed result
          obtain rfl : _ = failed := congrArg Prod.snd result
          rfl
        · rename_i done result
          obtain rfl : _ = done := congrArg Prod.snd result
          rfl
      split
      · rename_i failed result
        rw [result] at asked
        exact asked
      · rename_i done result
        rw [result] at asked
        exact asked

theorem replay_turn_cache (order : HashOrder) (s : Session) (r : Replay) :
    (replayTurn p order s r).session.clipboardCache = s.clipboardCache := by
  unfold replayTurn
  split
  · exact (resume_cache order _).trans (settle_recovery_cache order r.globals s)
  · rename_i guestId recipe rest more
    split
    · rfl
    · rename_i t replayed
      exact (replay_recipe_frame p s _ _ _ _ _ t none replayed).kept.clipboardCache
    · rename_i t h replayed
      exact (replay_recipe_frame p s _ _ _ _ _ t (some h) replayed).kept.clipboardCache

-- Only a transfer that is over puts anything into the cache.
theorem transition_types {env : Env} {st next : State} {event : Event} (transition : Transition env st event next)
    (types : FitTypes st.session.clipboardCache) (speaks : Speaks p st event) : FitTypes next.session.clipboardCache := by
  have still : ∀ cache, cache = st.session.clipboardCache → FitTypes cache := fun cache same => by
    rw [same]
    exact types
  cases transition with
  | readClient | clientGone | readHost | hostGone | readAck | ackGone | readRegistry | registryGone | readConfigure | configureGone
  | relayDone | configureLapse | ackLapse => exact still _ rfl
  | relayed s next direction ambient disposal turned =>
      obtain ⟨msg, consumed, handled, taken, relayed, rfl⟩ := relay_turn_some _ _ _ _ _ _ turned
      have handling := relay_message_handled env ambient direction (s.log (.took direction.src msg)) (headerOf msg) msg
      rw [relayed] at handling
      have kept := handled_cache _ _ _ _ _ _ _ _ handling
      exact still _ kept
  | skimRegistry s w ambient msg consumed taken =>
      refine still _ ?_
      unfold heedRegistry
      split
      · rfl
      · split <;> rfl
  | skimConfigure s h r ambient msg consumed taken =>
      refine still _ ?_
      have passed : ∀ id interface result, passToClient (skimmed s .host consumed msg) id interface msg = result →
          result.2.clipboardCache = s.clipboardCache := fun id interface result is => by
        rw [← is]
        rfl
      unfold heedConfigure
      split
      · split
        · rename_i written wrote
          exact passed _ _ _ wrote
        · rename_i failed wrote
          exact passed _ _ _ wrote
      · split
        · split
          · rename_i written wrote
            exact passed _ _ _ wrote
          · rename_i failed wrote
            exact passed _ _ _ wrote
        · rfl
  | skimAck s h r ambient msg consumed taken =>
      refine still _ ?_
      unfold heedAck
      split <;> rfl
  | replayed s r ambient => exact still _ (replay_turn_cache ambient.order s r)
  | reconnect s ambient outcomes => exact still _ (begin_recovery_cache ambient.order _)
  | cached s control mimeType bytes =>
      intro other member
      rcases (AList.mem_insert _).mp (AList.mem_keys.mpr member) with same | old
      · rw [same]
        exact speaks
      · exact types other (AList.mem_keys.mp old)

theorem transition_titles (covered : Covered p) {st next : State} {event : Event}
    (transition : Transition ⟨p, DesktopAppIndex.buildFromDirs dirs⟩ st event next) (fit : st.session.graph.TitlesFit) :
    next.session.graph.TitlesFit := by
  by_cases relaying : ∃ direction, st.control = .relaying direction
  · cases transition with
    | relayed s next direction ambient disposal turned =>
        obtain ⟨msg, consumed, handled, taken, relayed, rfl⟩ := relay_turn_some _ _ _ _ _ _ turned
        have titles := relay_message_titles covered dirs ambient (s.log (.took direction.src msg)) direction msg
          (taken_framed _ _ _ taken) fit
        rw [relayed] at titles
        exact titles
    | relayDone | cached => exact fit
    | _ => exact absurd relaying (by simp)
  · rw [unrelayed_graph transition fun direction is => relaying ⟨direction, is⟩]
    exact fit

end Runs

def speaksWell (st : State) (event : Event) : Bool :=
  match event, st.control with
  | .turn _, .awaitingConfigure h _ =>
      match takeMessage st.session.host.readBuf with
      | none => true
      | some (msg, _) =>
          decide (senderOf msg = h.hostId → some (opcodeOfMessage msg) = eventOpcode coreProtocol h.interface "configure" →
            (decode coreProtocol .hostToClient h.interface msg).isSome = true) &&
          decide (senderOf msg = h.xdgSurfaceHostId → some (opcodeOfMessage msg) = eventOpcode coreProtocol h.xdgSurface "configure" →
            (decode coreProtocol .hostToClient h.xdgSurface msg).isSome = true)
  | .turn _, .awaitingAck h _ =>
      match takeMessage st.session.gtk.readBuf with
      | none => true
      | some (msg, _) =>
          decide (senderOf msg = h.xdgSurfaceGuestId → some (opcodeOfMessage msg) = requestOpcode coreProtocol h.xdgSurface "ack_configure" →
            (decode coreProtocol .clientToHost h.xdgSurface msg).isSome = true)
  | .cached _ _, _ => false
  | _, _ => true

theorem speaks_well_sound (st : State) (event : Event) (checked : speaksWell st event = true) : Speaks coreProtocol st event := by
  unfold Speaks
  split
  · rename_i ambient h r control
    intro msg consumed taken
    simpa only [speaksWell, control, taken, Bool.and_eq_true, decide_eq_true_eq] using checked
  · rename_i ambient h r control
    intro msg consumed taken
    simpa only [speaksWell, control, taken, decide_eq_true_eq] using checked
  · simp [speaksWell] at checked
  · trivial

theorem core_commits : CommitsPlainly coreProtocol := by
  rintro ⟨name⟩
  revert name
  decide +kernel

end WlResprox
