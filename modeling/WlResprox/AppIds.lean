import WlResprox.Custody
import WlResprox.DesktopEntries
import WlResprox.Fidelity
import WlResprox.Formats
import WlResprox.Framing

set_option autoImplicit false

namespace WlResprox

-- What a client's app id is forwarded as, read off the scanned files.
structure Corrects (dirs : List Directory) (clientBinary : Option String) (appId forwarded : String) : Prop where
  installed : (∃ file ∈ scan dirs, file.id = appId) → forwarded = appId
  unresolved : (∀ binary, clientBinary = some binary → ∀ file ∈ scan dirs, ¬ file.Launches binary) → forwarded = appId
  resolved : ∀ binary before file after, (∀ other ∈ scan dirs, other.id ≠ appId) → clientBinary = some binary →
    scan dirs = before ++ file :: after → file.Launches binary → (∀ earlier ∈ before, ¬ earlier.Launches binary) →
    forwarded = file.id
  genuine : forwarded ≠ appId → ∃ file ∈ scan dirs, file.id = forwarded

section Correcting

variable (p : Protocol) (dirs : List Directory) (ambient : Ambient) (appId : String)

theorem corrected_app_id_installed (corrected : String)
    (corrects : correctedAppId ⟨p, DesktopAppIndex.buildFromDirs dirs⟩ ambient appId = some corrected) :
    ∃ file ∈ scan dirs, file.id = corrected := by
  unfold correctedAppId at corrects
  split at corrects
  · cases corrects
  · split at corrects
    · cases corrects
    · rename_i binary _
      exact DesktopAppIndex.resolved_installed dirs binary corrected (Option.filter_eq_some_iff.mp corrects).1

-- An id is part of a file's name, so it fits into a message.
theorem corrected_app_id_short (corrected : String)
    (corrects : correctedAppId ⟨p, DesktopAppIndex.buildFromDirs dirs⟩ ambient appId = some corrected) :
    (putStr [] corrected).length ≤ 65527 := by
  obtain ⟨file, scanned, rfl⟩ := corrected_app_id_installed p dirs ambient appId corrected corrects
  have short := scan_id_short dirs file scanned
  rw [put_str_length, nextMultipleOf4, List.length_nil]
  omega

theorem installed_uncorrected (installed : ∃ file ∈ scan dirs, file.id = appId) :
    correctedAppId ⟨p, DesktopAppIndex.buildFromDirs dirs⟩ ambient appId = none := by
  unfold correctedAppId
  exact if_pos ((DesktopAppIndex.has_id_iff dirs appId).mpr installed)

theorem forwarded_app_id_corrects :
    Corrects dirs ambient.clientBinary appId (forwardedAppId ⟨p, DesktopAppIndex.buildFromDirs dirs⟩ ambient appId) where
  installed known := by rw [forwardedAppId, installed_uncorrected p dirs ambient appId known, Option.getD_none]
  unresolved nothing := by
    have uncorrected : correctedAppId ⟨p, DesktopAppIndex.buildFromDirs dirs⟩ ambient appId = none := by
      unfold correctedAppId
      split
      · rfl
      · cases named : ambient.clientBinary with
        | none => rfl
        | some binary =>
            dsimp only
            rw [DesktopAppIndex.resolve_by_binary_none dirs binary (nothing binary named)]
            rfl
    rw [forwardedAppId, uncorrected, Option.getD_none]
  resolved binary before file after uninstalled named split launches first := by
    have missing : (DesktopAppIndex.buildFromDirs dirs).hasId appId = false := by
      rw [Bool.eq_false_iff]
      intro known
      obtain ⟨other, among, same⟩ := (DesktopAppIndex.has_id_iff dirs appId).mp known
      exact uninstalled other among same
    have other : file.id ≠ appId := uninstalled file (by rw [split]; simp)
    have corrected : correctedAppId ⟨p, DesktopAppIndex.buildFromDirs dirs⟩ ambient appId = some file.id := by
      unfold correctedAppId
      simp only [missing, Bool.false_eq_true, if_false, named,
        DesktopAppIndex.resolve_by_binary_some dirs binary before file after split launches first]
      simp [other]
    rw [forwardedAppId, corrected, Option.getD_some]
  genuine changed := by
    unfold forwardedAppId at changed ⊢
    cases corrected : correctedAppId ⟨p, DesktopAppIndex.buildFromDirs dirs⟩ ambient appId with
    | none => simp [corrected] at changed
    | some id => exact corrected_app_id_installed p dirs ambient appId id corrected

-- What was corrected once is an installed id, and what was not stays as it is.
theorem forwarded_app_id_settled :
    forwardedAppId ⟨p, DesktopAppIndex.buildFromDirs dirs⟩ ambient
        (forwardedAppId ⟨p, DesktopAppIndex.buildFromDirs dirs⟩ ambient appId) =
      forwardedAppId ⟨p, DesktopAppIndex.buildFromDirs dirs⟩ ambient appId := by
  cases corrected : correctedAppId ⟨p, DesktopAppIndex.buildFromDirs dirs⟩ ambient appId with
  | none => simp [forwardedAppId, corrected]
  | some id =>
      have installed := corrected_app_id_installed p dirs ambient appId id corrected
      simp [forwardedAppId, corrected, installed_uncorrected p dirs ambient id installed]

end Correcting

-- Who a message is from is no part of its framing.
theorem framed_sender (msg : Bytes) (sender : UInt32) (framed : Framed msg) : Framed (writeSenderId msg sender) := by
  obtain ⟨long, declared⟩ := (framed_iff msg).mp framed
  have length : (writeSenderId msg sender).length = msg.length := set_word_length _ _ _ (by simp only [headerLen] at long; omega)
  rw [framed_iff, length]
  refine ⟨long, ?_⟩
  rw [← declared, headerOf, word_at_write_sender msg sender 4 long (by decide)]
  rfl

theorem built_framed (sender : UInt32) (opcode : UInt16) (payload : Bytes) (small : payload.length ≤ 65527) :
    Framed (buildMessage sender opcode payload) := by
  have taken := take_built_message sender opcode payload [] small
  rw [List.append_nil] at taken
  rw [Framed, taken, build_message_length]

-- The compositor's form of a client's set_app_id.
structure PassesAppId (objects : ShadowTable) (msg out : Bytes) (given forwarded : String) : Prop where
  framed : Framed out
  opcode : opcodeOfMessage out = opcodeOfMessage msg
  sender : objects.hostId (senderOf msg) = some (senderOf out)
  text : ∃ stop, readStr (out.drop headerLen) 0 = some (forwarded, stop)
  same : forwarded = given → out.drop headerLen = msg.drop headerLen
  rebuilt : forwarded ≠ given → out.drop headerLen = putStr [] forwarded

theorem corrected_app_id_other (env : Env) (ambient : Ambient) (appId corrected : String)
    (corrects : correctedAppId env ambient appId = some corrected) : corrected ≠ appId := by
  unfold correctedAppId at corrects
  split at corrects
  · cases corrects
  · split at corrects
    · cases corrects
    · simpa using (Option.filter_eq_some_iff.mp corrects).2

section Forwarded

variable {env : Env} (covered : Covered env.protocol) {ambient : Ambient} {s next : Session} {msg : Bytes} {sent : Sent}
  {m : Inbound} {translated rewritten renamed : Bytes} {created : Option Creation} {introduced forgotten : Session}
  {graph : RecreationGraph} {otherSide : UInt32}
  (forwarding : Forwarding env ambient .clientToHost s next msg sent m translated rewritten renamed created introduced forgotten
    graph otherSide)
  (names : m.isRequest "xdg_toplevel" "set_app_id" = true)

include covered forwarding names

-- It refers to no object and makes none, so only its text can change.
theorem set_app_id_untouched : renamed = msg ∧ s.objects.hostId (senderOf msg) = some otherSide := by
  have resolved := forwarding.resolved
  obtain ⟨plain, bare⟩ := set_app_id_plain covered s.objects msg m resolved names
  obtain ⟨way, toplevel, -⟩ := (is_request_iff _ _ _).mp names
  have translating := forwarding.translating
  rw [plain] at translating
  have same : msg = translated := Option.some.inj translating
  obtain ⟨kept, is⟩ := forget_deleted_other _ _ _ _ _ forwarding.forgetting (by simp [toplevel])
  obtain ⟨-, -, unmade, whole⟩ | ⟨offset, child, version, located, -⟩ := introduce_object_ok _ _ _ _ _ _ _ forwarding.introducing
  · refine ⟨by rw [is, whole, same], ?_⟩
    have found := forwarding.found
    rw [otherSideSenderId, way] at found
    dsimp only at found
    rwa [resolved_request env s.objects _ msg m resolved rfl, forwarding.table.hostId, kept, unmade] at found
  · rw [bare] at located
    cases located

theorem set_app_id_passes (framed : Framed msg) (appId : String) (stop : Nat)
    (read : readStr (msg.drop headerLen) 0 = some (appId, stop))
    (small : ∀ corrected, correctedAppId env ambient appId = some corrected → (putStr [] corrected).length ≤ 65527) :
    PassesAppId s.objects msg sent.msg appId (forwardedAppId env ambient appId) := by
  have long := framed_long msg framed
  obtain ⟨untouched, sender⟩ := set_app_id_untouched covered forwarding names
  obtain ⟨-, toplevel, named⟩ := (is_request_iff _ _ _).mp names
  have pool : m.isRequest "wl_shm_pool" "resize" = false := by simp [Inbound.isRequest, toplevel]
  have title : m.isRequest "xdg_toplevel" "set_title" = false := by simp [Inbound.isRequest, named]
  have out := forwarding.msg
  simp only [untouched, updateRecipes, pool, title, names, read, Bool.false_eq_true, if_false, if_true] at out
  cases corrected : correctedAppId env ambient appId with
  | none =>
      simp only [corrected] at out
      rw [forwardedAppId, corrected, Option.getD_none, out]
      exact {
        framed := framed_sender msg otherSide framed
        opcode := by rw [opcodeOfMessage, word_at_write_sender _ _ _ long (by decide)]; rfl
        sender := by rw [sender_of_written _ _ long]; exact sender
        text := ⟨stop, by rw [payload_of_written]; exact read⟩
        same := fun _ => payload_of_written _ _
        rebuilt := fun other => absurd rfl other }
  | some id =>
      simp only [corrected] at out
      have short := small id corrected
      have built : headerLen ≤ (buildMessage m.header.senderId m.header.opcode (putStr [] id)).length := by
        rw [build_message_length]
        exact Nat.le_add_right _ _
      have payload : sent.msg.drop headerLen = putStr [] id := by rw [out, payload_of_written, build_message_payload]
      have encoded := read_str_encoded [] [] id (by omega)
      rw [List.append_nil, List.nil_append] at encoded
      rw [forwardedAppId, corrected, Option.getD_some]
      exact {
        framed := by rw [out]; exact framed_sender _ otherSide (built_framed _ _ _ short)
        opcode := by
          rw [out, opcodeOfMessage, word_at_write_sender _ _ _ built (by decide)]
          show opcodeOfMessage _ = _
          rw [opcode_of_built, forwarding.resolved.head]
          rfl
        sender := by rw [out, sender_of_written _ _ built]; exact sender
        text := ⟨_, by rw [payload]; exact encoded⟩
        same := fun is => absurd is (corrected_app_id_other env ambient appId id corrected)
        rebuilt := fun _ => payload }

end Forwarded

theorem app_id_turn_passes (p : Protocol) (covered : Covered p) (dirs : List Directory) (ambient : Ambient) (s next : Session)
    (disposal : Disposal) (msg : Bytes) (consumed : Nat) (taken : takeMessage s.gtk.readBuf = some (msg, consumed))
    (turned : relayTurn ⟨p, DesktopAppIndex.buildFromDirs dirs⟩ ambient .clientToHost s = some (disposal, next)) (m : Inbound)
    (resolved : Resolved p s.objects .clientToHost (headerOf msg) msg m)
    (names : m.isRequest "xdg_toplevel" "set_app_id" = true) (appId : String) (stop : Nat)
    (read : readStr (msg.drop headerLen) 0 = some (appId, stop)) (sent : Sent) (passes : PassesOn s next sent) :
    sent.peer = .host ∧ PassesAppId s.objects msg sent.msg appId
      (forwardedAppId ⟨p, DesktopAppIndex.buildFromDirs dirs⟩ ambient appId) := by
  obtain ⟨handled, rfl, passed⟩ := relay_turn_passes ⟨p, DesktopAppIndex.buildFromDirs dirs⟩ ambient .clientToHost s next disposal msg
    consumed taken turned
  obtain ⟨m', _, _, _, _, _, _, _, _, forwarding⟩ := passed sent passes
  have same := resolved_unique ⟨p, DesktopAppIndex.buildFromDirs dirs⟩ msg s.objects .clientToHost m m' resolved forwarding.resolved
  rw [same] at forwarding
  refine ⟨forwarding.peer, set_app_id_passes covered forwarding names (taken_framed _ _ _ taken) appId stop read ?_⟩
  exact fun corrected corrects => corrected_app_id_short p dirs ambient appId corrected corrects

section Recipes

variable (graph : RecreationGraph) (g q : UInt32)

def Recreatable.appId : Recreatable → Option String
  | .xdgToplevel _ _ appId => appId
  | _ => none

-- The app id that the latest recipe of an object would replay.
def appIdFor (graph : RecreationGraph) (g : UInt32) : Option String := (graph.recipeFor g).bind Recreatable.appId

theorem recipe_for_record (recipe : Recreatable) :
    (graph.record g recipe).recipeFor q = if g = q then some recipe else graph.recipeFor q := by
  simp only [RecreationGraph.recipeFor, RecreationGraph.record, List.reverse_append, List.reverse_singleton,
    List.singleton_append, List.find?_cons]
  by_cases same : g = q <;> simp [same]

theorem recipe_for_remove : (graph.remove g).recipeFor q = if g = q then none else graph.recipeFor q := by
  simp only [RecreationGraph.recipeFor, RecreationGraph.remove, ← List.filter_reverse, List.find?_filter]
  split
  · rename_i same
    subst same
    simp
  · rename_i other
    congr 2
    funext entry
    by_cases here : entry.1 = q
    · simp [here, Ne.symm other]
    · simp [here]

theorem find_update_first (change : Recreatable → Option Recreatable) (recipes : List (UInt32 × Recreatable)) :
    ((RecreationGraph.updateFirst g change recipes).find? fun entry => entry.1 = q).map Prod.snd =
      if g = q then ((recipes.find? fun entry => entry.1 = q).map Prod.snd).map fun recipe => (change recipe).getD recipe
      else (recipes.find? fun entry => entry.1 = q).map Prod.snd := by
  induction recipes with
  | nil => simp [RecreationGraph.updateFirst]
  | cons entry rest ih =>
      obtain ⟨id, recipe⟩ := entry
      simp only [RecreationGraph.updateFirst]
      by_cases here : id = g
      · rw [if_pos here]
        by_cases same : g = q
        · cases changed : change recipe <;> simp [here, same, changed]
        · have other : id ≠ q := fun is => same (here.symm.trans is)
          cases changed : change recipe with
          | none => simpa [other, same] using ih
          | some new => simp [other, same]
      · rw [if_neg here]
        by_cases found : id = q
        · have apart : g ≠ q := fun is => here (found.trans is.symm)
          simp [found, apart]
        · simpa [found] using ih

theorem recipe_for_update (change : Recreatable → Option Recreatable) :
    (graph.update g change).recipeFor q =
      if g = q then (graph.recipeFor q).map fun recipe => (change recipe).getD recipe else graph.recipeFor q := by
  simp only [RecreationGraph.recipeFor, RecreationGraph.update, List.reverse_reverse, find_update_first]

end Recipes

-- The toplevel a request names, and what its app id is forwarded as.
def Inbound.names (env : Env) (ambient : Ambient) (m : Inbound) (payload : Bytes) : Option (UInt32 × String) :=
  if m.isRequest "xdg_toplevel" "set_app_id" then
    (readStr payload 0).map fun read => (m.sender, forwardedAppId env ambient read.1)
  else none

def namingOf (env : Env) (ambient : Ambient) (objects : ShadowTable) (msg : Bytes) : Option (UInt32 × String) :=
  match resolveSender env.protocol objects .clientToHost (headerOf msg) with
  | none => none
  | some (sender, interface, desc) =>
      match walkSignature (msg.drop headerLen) desc.signature with
      | .error _ => none
      | .ok walk => Inbound.names env ambient ⟨.clientToHost, headerOf msg, sender, interface, desc, walk, []⟩ (msg.drop headerLen)

def naming (env : Env) (st : State) : Event → Option (UInt32 × String)
  | .turn ambient =>
      match st.control with
      | .relaying .clientToHost => (takeMessage st.session.gtk.readBuf).bind fun taken => namingOf env ambient st.session.objects taken.1
      | _ => none
  | _ => none

theorem naming_of_resolved (env : Env) (ambient : Ambient) (objects : ShadowTable) (msg : Bytes) (m : Inbound)
    (resolved : Resolved env.protocol objects .clientToHost (headerOf msg) msg m) :
    namingOf env ambient objects msg = m.names env ambient (msg.drop headerLen) := by
  have request := resolved.way
  simp only [namingOf, resolved.sender, resolved.walk, Inbound.names, Inbound.isRequest, request]

theorem naming_of_some (env : Env) (ambient : Ambient) (objects : ShadowTable) (msg : Bytes) (named : UInt32 × String)
    (names : namingOf env ambient objects msg = some named) :
    ∃ m, Resolved env.protocol objects .clientToHost (headerOf msg) msg m ∧ m.names env ambient (msg.drop headerLen) = some named := by
  have given := names
  unfold namingOf at names
  split at names
  · cases names
  · rename_i sender interface desc found
    split at names
    · cases names
    · rename_i walk walked
      let m : Inbound := ⟨.clientToHost, headerOf msg, sender, interface, desc, walk,
        walk.objectOffsets.map fun offset => wordAt msg (headerLen + offset)⟩
      have resolved : Resolved env.protocol objects .clientToHost (headerOf msg) msg m := ⟨rfl, rfl, found, walked, rfl⟩
      exact ⟨m, resolved, (naming_of_resolved env ambient objects msg m resolved).symm.trans given⟩

theorem names_some (env : Env) (ambient : Ambient) (m : Inbound) (payload : Bytes) (named : UInt32 × String)
    (names : m.names env ambient payload = some named) :
    m.isRequest "xdg_toplevel" "set_app_id" = true ∧
      ∃ appId stop, readStr payload 0 = some (appId, stop) ∧ named = (m.sender, forwardedAppId env ambient appId) := by
  unfold Inbound.names at names
  split at names
  · rename_i request
    obtain ⟨⟨appId, stop⟩, read, same⟩ := Option.map_eq_some_iff.mp names
    exact ⟨request, appId, stop, read, same.symm⟩
  · cases names

-- What a step may do to the app ids of the recipes: name one object's, or
-- none, and apart from that only lose some.
structure Renames (named : Option (UInt32 × String)) (graph graph' : RecreationGraph) : Prop where
  recipes : ∀ entry ∈ graph'.recipes, ∀ v, entry.2.appId = some v →
    (∃ recipe, (entry.1, recipe) ∈ graph.recipes ∧ recipe.appId = some v) ∨ named = some (entry.1, v)
  latest : ∀ g v, appIdFor graph' g = some v → named = some (g, v) ∨ ((∀ w, named ≠ some (g, w)) ∧ appIdFor graph g = some v)

namespace Renames

variable {named : Option (UInt32 × String)} {graph graph' graph'' : RecreationGraph}

theorem refl (graph : RecreationGraph) : Renames none graph graph where
  recipes entry member _ held := .inl ⟨entry.2, member, held⟩
  latest _ _ held := .inr ⟨nofun, held⟩

theorem after (first : Renames none graph graph') (second : Renames named graph' graph'') : Renames named graph graph'' where
  recipes entry member v held := by
    rcases second.recipes entry member v held with ⟨recipe, before, kept⟩ | now
    · rcases first.recipes _ before v kept with earlier | never
      · exact .inl earlier
      · cases never
    · exact .inr now
  latest g v held := by
    rcases second.latest g v held with now | ⟨apart, kept⟩
    · exact .inl now
    · rcases first.latest g v kept with never | ⟨-, earlier⟩
      · cases never
      · exact .inr ⟨apart, earlier⟩

theorem before (first : Renames named graph graph') (second : Renames none graph' graph'') : Renames named graph graph'' where
  recipes entry member v held := by
    rcases second.recipes entry member v held with ⟨recipe, before, kept⟩ | never
    · exact first.recipes _ before v kept
    · cases never
  latest g _ held := by
    rcases second.latest g _ held with never | ⟨-, kept⟩
    · cases never
    · exact first.latest g _ kept

theorem record (graph : RecreationGraph) (g : UInt32) (recipe : Recreatable) (bare : recipe.appId = none) :
    Renames none graph (graph.record g recipe) where
  recipes entry member v held := by
    rcases List.mem_append.mp member with old | new
    · exact .inl ⟨entry.2, old, held⟩
    · rw [List.mem_singleton.mp new, bare] at held
      cases held
  latest q v held := by
    rw [appIdFor, recipe_for_record] at held
    split at held
    · rw [Option.bind_some, bare] at held
      cases held
    · exact .inr ⟨nofun, held⟩

theorem remove (graph : RecreationGraph) (g : UInt32) : Renames none graph (graph.remove g) where
  recipes entry member v held := .inl ⟨entry.2, ((RecreationGraph.mem_remove _ _ _ _).mp member).2, held⟩
  latest q v held := by
    rw [appIdFor, recipe_for_remove] at held
    split at held
    · cases held
    · exact .inr ⟨nofun, held⟩

theorem update (graph : RecreationGraph) (g : UInt32) (change : Recreatable → Option Recreatable)
    (keeps : ∀ old new, change old = some new → new.appId = old.appId) : Renames none graph (graph.update g change) where
  recipes entry member v held := by
    rcases mem_update graph g change entry member with same | ⟨old, there, changed, -⟩
    · exact .inl ⟨entry.2, same, held⟩
    · exact .inl ⟨old, there, (keeps old entry.2 changed).symm.trans held⟩
  latest q v held := by
    refine .inr ⟨nofun, ?_⟩
    rw [appIdFor, recipe_for_update] at held
    split at held
    · rw [appIdFor]
      cases found : graph.recipeFor q with
      | none => simp [found] at held
      | some recipe =>
          simp only [found, Option.map_some, Option.bind_some] at held ⊢
          cases changed : change recipe with
          | none => simpa [changed] using held
          | some new =>
              rw [changed, Option.getD_some] at held
              exact (keeps recipe new changed).symm.trans held
    · exact held

theorem naming (graph : RecreationGraph) (g : UInt32) (appId : String) :
    Renames (some (g, appId)) graph (graph.updateToplevelAppId g appId) where
  recipes entry member v held := by
    rcases mem_update graph g _ entry member with same | ⟨old, there, changed, own⟩
    · exact .inl ⟨entry.2, same, held⟩
    · right
      generalize entry.2 = new at held changed
      cases old with
      | xdgToplevel parent title known =>
          cases changed
          rw [own, Option.some.inj held]
      | _ => cases changed
  latest q v held := by
    rw [appIdFor, RecreationGraph.updateToplevelAppId, recipe_for_update] at held
    split at held
    · rename_i same
      left
      cases found : graph.recipeFor q with
      | none => simp [found] at held
      | some recipe =>
          simp only [found, Option.map_some, Option.bind_some] at held
          cases recipe with
          | xdgToplevel parent title old =>
              rw [same, Option.some.inj held]
          | _ => cases held
    · rename_i other
      refine .inr ⟨fun w same => ?_, held⟩
      cases same
      exact other rfl

end Renames

theorem record_captured_renames (graph : RecreationGraph) (p : Protocol) (m : Inbound) (msg : Bytes) (offset : Nat) (c : Creation)
    (planes : HashMap (UInt32 × List DmabufPlane)) (recipe : Option Recreatable) (planes' : HashMap (UInt32 × List DmabufPlane))
    (captured : Captured p m msg offset c planes (recipe, planes')) : Renames none graph (recordCaptured graph c.guestId recipe) := by
  have recorded : ∀ recipe : Option Recreatable, (∀ r, recipe = some r → r.appId = none) →
      Renames none graph (recordCaptured graph c.guestId recipe) := by
    intro recipe bare
    cases recipe with
    | none => exact .refl graph
    | some r => exact .record graph c.guestId r (bare r rfl)
  have mapped : ∀ (values : Option UInt32) (make : UInt32 → Recreatable), (∀ v, (make v).appId = none) →
      Renames none graph (recordCaptured graph c.guestId (values.map make)) := by
    intro values make bare
    refine recorded _ fun r made => ?_
    obtain ⟨v, -, rfl⟩ := Option.map_eq_some_iff.mp made
    exact bare v
  cases captured with
  | nothing | params => exact recorded none nofun
  | global | surface | xdgToplevel | seatDevice => exact recorded _ fun r made => by cases made; rfl
  | xdgSurface | viewport | fractionalScale => exact mapped _ _ fun _ => rfl
  | shmBuffer =>
      refine recorded _ fun r made => ?_
      unfold shmBufferRecipe at made
      split at made <;> cases made
      rfl
  | dmabufBuffer =>
      refine recorded _ fun r made => ?_
      unfold dmabufBufferRecipe at made
      split at made <;> cases made
      rfl

theorem retain_pool_renames (graph : RecreationGraph) (m : Inbound) (payload : Bytes) (created : Option Creation) (fds : List Fd) :
    Renames none graph (retainPool graph m payload created fds) := by
  unfold retainPool
  split
  · split
    · exact .record graph _ _ rfl
    · exact .refl graph
  · exact .refl graph

theorem drop_stale_sender_renames (p : Protocol) (s : Session) (m : Inbound) (created : Option Creation) :
    Renames none s.graph (dropStaleSender p s m created).graph := by
  have answered : Renames none s.graph (answerStaleSender p s m created).graph := by
    unfold answerStaleSender
    split
    · dsimp only
      rw [(synthesize_delete_id_aside p s m.sender).graph]
      exact .remove s.graph m.sender
    · split
      · split
        · exact .refl _
        · rename_i callback
          rw [(synthesize_frame_done_aside p s callback.guestId).graph]
          exact .refl _
      · exact .refl _
  cases created with
  | none => exact answered
  | some phantom =>
      obtain ⟨objects, -, rolled⟩ := roll_back_creation_some (answerStaleSender p s m (some phantom)) m phantom
      rw [dropStaleSender, rolled]
      exact answered.before (.remove _ _)

theorem update_recipes_app_id (env : Env) (ambient : Ambient) (graph : RecreationGraph) (m : Inbound) (msg : Bytes)
    (request : m.isRequest "xdg_toplevel" "set_app_id" = true) (appId : String) (stop : Nat)
    (read : readStr (msg.drop headerLen) 0 = some (appId, stop)) :
    (updateRecipes env ambient graph m msg).1 = graph.updateToplevelAppId m.sender (forwardedAppId env ambient appId) := by
  obtain ⟨-, toplevel, named⟩ := (is_request_iff _ _ _).mp request
  have pool : m.isRequest "wl_shm_pool" "resize" = false := by simp [Inbound.isRequest, toplevel]
  have title : m.isRequest "xdg_toplevel" "set_title" = false := by simp [Inbound.isRequest, named]
  simp only [updateRecipes, pool, title, request, read, Bool.false_eq_true, if_false, if_true]
  cases corrected : correctedAppId env ambient appId <;> simp [forwardedAppId, corrected]

theorem update_recipes_renames (env : Env) (ambient : Ambient) (graph : RecreationGraph) (m : Inbound) (msg : Bytes) :
    Renames (m.names env ambient (msg.drop headerLen)) graph (updateRecipes env ambient graph m msg).1 := by
  unfold Inbound.names
  by_cases request : m.isRequest "xdg_toplevel" "set_app_id" = true
  · rw [if_pos request]
    cases read : readStr (msg.drop headerLen) 0 with
    | none =>
        obtain ⟨-, toplevel, named⟩ := (is_request_iff _ _ _).mp request
        have pool : m.isRequest "wl_shm_pool" "resize" = false := by simp [Inbound.isRequest, toplevel]
        have title : m.isRequest "xdg_toplevel" "set_title" = false := by simp [Inbound.isRequest, named]
        simp only [updateRecipes, pool, title, request, read, Bool.false_eq_true, if_false, if_true]
        exact .refl graph
    | some found =>
        obtain ⟨appId, stop⟩ := found
        rw [update_recipes_app_id env ambient graph m msg request appId stop read]
        exact .naming graph m.sender _
  · rw [if_neg request]
    rcases update_recipes_revises env ambient graph m msg with same | ⟨change, updated, revises⟩
    · rw [same]
      exact .refl graph
    · rw [updated]
      refine .update graph m.sender change fun old new changed => ?_
      cases revises old new changed with
      | size | title | destination => rfl
      | appId parent title old given new stop named => exact absurd named request

-- A toplevel's latest recipe carries just this app id.
def Stores (graph : RecreationGraph) (g : UInt32) (appId : String) : Prop :=
  ∀ parent title held, graph.recipeFor g = some (.xdgToplevel parent title held) → held = some appId

theorem update_stores (graph : RecreationGraph) (g : UInt32) (appId : String) : Stores (graph.updateToplevelAppId g appId) g appId := by
  intro parent title held found
  rw [RecreationGraph.updateToplevelAppId, recipe_for_update, if_pos rfl] at found
  obtain ⟨recipe, -, changed⟩ := Option.map_eq_some_iff.mp found
  cases recipe with
  | xdgToplevel =>
      cases changed
      rfl
  | _ => cases changed

theorem Stores.remove {graph : RecreationGraph} {g : UInt32} {appId : String} (stores : Stores graph g appId) (other : UInt32) :
    Stores (graph.remove other) g appId := by
  intro parent title held found
  rw [recipe_for_remove] at found
  split at found
  · cases found
  · exact stores parent title held found

section Turns

variable {env : Env} (covered : Covered env.protocol) {ambient : Ambient} {s next : Session} {msg : Bytes} {m : Inbound}
  {created : Option Creation} {translated rewritten : Bytes} {noted : Session}

include covered

theorem noted_names (noting : RequestNoted env ambient s msg m created translated rewritten noted) :
    m.names env ambient (rewritten.drop headerLen) = namingOf env ambient s.objects msg := by
  rw [naming_of_resolved env ambient s.objects msg m noting.resolved]
  by_cases request : m.isRequest "xdg_toplevel" "set_app_id" = true
  · obtain ⟨objects, newId⟩ := set_app_id_plain covered s.objects msg m noting.resolved request
    rw [agree_plain m.walk _ _ noting.rewrites.payload objects newId]
  · simp [Inbound.names, request]

theorem dropped_names_nothing (unseen : ∀ m, Resolved env.protocol s.objects .clientToHost (headerOf msg) msg m →
    translateObjects s.objects .clientToHost m.walk.objectOffsets msg = none ∨
      ((callOf env.protocol m.desc m.walk msg).newId ≠ none ∧ (callOf env.protocol m.desc m.walk msg).child = none)) :
    namingOf env ambient s.objects msg = none := by
  cases named : namingOf env ambient s.objects msg with
  | none => rfl
  | some given =>
      obtain ⟨m, resolved, names⟩ := naming_of_some env ambient s.objects msg given named
      obtain ⟨objects, newId⟩ := set_app_id_plain covered s.objects msg m resolved (names_some _ _ _ _ _ names).1
      rcases unseen m resolved with untranslated | ⟨creates, -⟩
      · rw [objects] at untranslated
        cases untranslated
      · exact absurd (by simp [callOf, newId]) creates

theorem request_turn_renames (turn : RequestTurn env ambient s msg next) :
    Renames (namingOf env ambient s.objects msg) s.graph next.graph := by
  have noted : ∀ m created translated rewritten noted, RequestNoted env ambient s msg m created translated rewritten noted →
      Renames (namingOf env ambient s.objects msg) s.graph noted.graph := by
    intro m created translated rewritten noted noting
    obtain ⟨graph, creates, updated⟩ := noting.creates
    have made : Renames none s.graph graph := by
      generalize noted.objects = objects at creates
      generalize noted.pendingDmabufPlanes = planes at creates
      cases creates with
      | nothing => exact .refl _
      | object c offset recipe planes' located newId child is captured => exact record_captured_renames _ _ _ _ _ _ _ _ _ captured
    have renamed := update_recipes_renames env ambient graph m rewritten
    rw [noted_names covered noting] at renamed
    rw [updated]
    exact made.after renamed
  cases turn with
  | dropped table rest unseen =>
      rw [dropped_names_nothing covered unseen, rest]
      exact .refl _
  | stale m created translated rewritten noted' noting failed is =>
      rw [is]
      exact (noted _ _ _ _ _ noting).before (drop_stale_sender_renames env.protocol noted' m created)
  | passed m created translated rewritten out noted' otherSide noting found outgoing is =>
      obtain ⟨fds, graph, -⟩ := forward_retains ambient noted' m created (writeSenderId out otherSide)
      rw [is, graph]
      exact (noted _ _ _ _ _ noting).before (retain_pool_renames _ _ _ _ _)

theorem noted_stores (noting : RequestNoted env ambient s msg m created translated rewritten noted) (g : UInt32) (appId : String)
    (named : namingOf env ambient s.objects msg = some (g, appId)) :
    m.isRequest "xdg_toplevel" "set_app_id" = true ∧ created = none ∧ Stores noted.graph g appId := by
  have names := noted_names covered noting
  rw [named] at names
  obtain ⟨request, given, stop, read, same⟩ := names_some _ _ _ _ _ names
  obtain ⟨graph, creates, updated⟩ := noting.creates
  refine ⟨request, ?_, ?_⟩
  · obtain ⟨-, newId⟩ := set_app_id_plain covered s.objects msg m noting.resolved request
    generalize noted.objects = objects at creates
    generalize noted.pendingDmabufPlanes = planes at creates
    cases creates with
    | nothing => rfl
    | object c offset recipe planes' located =>
        rw [newId] at located
        cases located
  · rw [updated, update_recipes_app_id env ambient graph m rewritten request given stop read]
    cases same
    exact update_stores graph m.sender _

theorem request_turn_stores (turn : RequestTurn env ambient s msg next) (g : UInt32) (appId : String)
    (named : namingOf env ambient s.objects msg = some (g, appId)) : Stores next.graph g appId := by
  cases turn with
  | dropped table rest unseen =>
      rw [dropped_names_nothing covered unseen] at named
      cases named
  | stale m created translated rewritten noted noting failed is =>
      obtain ⟨request, rfl, stores⟩ := noted_stores covered noting g appId named
      have frame : m.isRequest "wl_surface" "frame" = false := by
        obtain ⟨-, toplevel, -⟩ := (is_request_iff _ _ _).mp request
        simp [Inbound.isRequest, toplevel]
      rw [is, dropStaleSender, rollBackCreation, answerStaleSender]
      split
      · dsimp only
        rw [(synthesize_delete_id_aside env.protocol noted m.sender).graph]
        exact stores.remove m.sender
      · simpa [frame] using stores
  | passed m created translated rewritten out noted otherSide noting found outgoing is =>
      obtain ⟨request, rfl, stores⟩ := noted_stores covered noting g appId named
      obtain ⟨fds, graph, -⟩ := forward_retains ambient noted m none (writeSenderId out otherSide)
      have pool : m.isRequest "wl_shm" "create_pool" = false := by
        obtain ⟨-, toplevel, -⟩ := (is_request_iff _ _ _).mp request
        simp [Inbound.isRequest, toplevel]
      have same : next.graph = noted.graph := by
        rw [is, graph]
        exact if_neg (by simp [pool])
      rw [same]
      exact stores

omit covered in
theorem event_turn_renames (turn : EventTurn env ambient s msg next) : Renames none s.graph next.graph := by
  cases turn with
  | unheard table books grabs trace =>
      rw [books.graph]
      exact .refl _
  | heard m created deleted renamed noted noting outgoing names is =>
      obtain ⟨fds, graph, -⟩ := forward_retains ambient noted m created (writeSenderId renamed m.sender)
      have lost : Renames none s.graph noted.graph := by
        rw [noting.graph]
        cases deleted with
        | none => exact .refl _
        | some guestId => exact .remove _ guestId
      rw [is, graph]
      exact lost.before (retain_pool_renames _ _ _ _ _)

end Turns

section Steps

variable {env : Env} {st next : State} {event : Event}

theorem unrelayed_graph (transition : Transition env st event next) (unrelayed : ∀ direction, st.control ≠ .relaying direction) :
    next.session.graph = st.session.graph := by
  cases transition_bookkeeping transition with
  | turned direction ambient disposal relaying => exact absurd relaying (unrelayed direction)
  | settled r ambient replaying turns done resumed =>
      rw [resumed, (resume_books _ _ _).graph, (settle_recovery_books _ _ _ _).graph]
  | same books => exact books.graph

theorem naming_unrelayed (unrelayed : st.control ≠ .relaying .clientToHost) : naming env st event = none := by
  unfold naming
  split
  · split
    · rename_i relaying
      exact absurd relaying unrelayed
    · rfl
  · rfl

theorem naming_requests (g : UInt32) (appId : String) (named : naming env st event = some (g, appId)) :
    ∃ ambient, event = .turn ambient ∧ st.control = .relaying .clientToHost ∧ ∃ msg consumed,
      takeMessage st.session.gtk.readBuf = some (msg, consumed) ∧ namingOf env ambient st.session.objects msg = some (g, appId) := by
  unfold naming at named
  split at named
  · rename_i ambient
    split at named
    · rename_i relaying
      obtain ⟨taken, found, names⟩ := Option.bind_eq_some_iff.mp named
      exact ⟨ambient, rfl, relaying, taken.1, taken.2, found, names⟩
    · cases named
  · cases named

theorem transition_renames (covered : Covered env.protocol) (transition : Transition env st event next) :
    Renames (naming env st event) st.session.graph next.session.graph := by
  by_cases relaying : ∃ direction, st.control = .relaying direction
  · cases transition with
    | relayed s next direction ambient disposal turned =>
        cases direction with
        | clientToHost =>
            obtain ⟨msg, consumed, handled, taken, long, turn, rfl⟩ := relay_turn_request env covered ambient s next disposal turned
            have named : naming env ⟨s, .relaying .clientToHost⟩ (.turn ambient) = namingOf env ambient s.objects msg := by
              simp [naming, taken]
            rw [named]
            have renames := request_turn_renames covered turn
            exact renames
        | hostToClient =>
            obtain ⟨msg, consumed, handled, taken, long, turn, rfl⟩ := relay_turn_event env covered ambient s next disposal turned
            have renames := event_turn_renames turn
            exact renames
    | relayDone s direction ambient starved =>
        have unnamed : naming env ⟨s, .relaying direction⟩ (.turn ambient) = none := by
          cases direction with
          | clientToHost => simp [naming, show takeMessage s.gtk.readBuf = none from starved]
          | hostToClient => rfl
        rw [unnamed]
        exact .refl _
    | cached => exact .refl _
    | _ => exact absurd relaying (by simp)
  · have unrelayed : ∀ direction, st.control ≠ .relaying direction := fun direction is => relaying ⟨direction, is⟩
    rw [naming_unrelayed (unrelayed .clientToHost), unrelayed_graph transition unrelayed]
    exact .refl _

end Steps

theorem forwarded_app_id_short (p : Protocol) (dirs : List Directory) (ambient : Ambient) (objects : ShadowTable)
    (msg : Bytes) (framed : Framed msg) (m : Inbound) (resolved : Resolved p objects .clientToHost (headerOf msg) msg m)
    (signature : m.desc.signature = [.str]) (appId : String) (stop : Nat) (read : readStr (msg.drop headerLen) 0 = some (appId, stop)) :
    (putStr [] (forwardedAppId ⟨p, DesktopAppIndex.buildFromDirs dirs⟩ ambient appId)).length ≤ 65527 := by
  cases corrected : correctedAppId ⟨p, DesktopAppIndex.buildFromDirs dirs⟩ ambient appId with
  | some id =>
      rw [forwardedAppId, corrected, Option.getD_some]
      exact corrected_app_id_short p dirs ambient appId id corrected
  | none =>
      rw [forwardedAppId, corrected, Option.getD_none]
      obtain ⟨long, declared⟩ := (framed_iff msg).mp framed
      have bound := (headerOf msg).length.toNat_lt
      have walked := resolved.walk
      rw [signature] at walked
      have room := walked_string_room _ appId stop m.walk read walked
      rw [List.length_drop] at room
      simp only [MessageHeader.messageLen] at declared
      simp only [headerLen] at room
      omega

theorem naming_short (p : Protocol) (covered : Covered p) (dirs : List Directory) (st : State) (event : Event) (g : UInt32)
    (appId : String) (named : naming ⟨p, DesktopAppIndex.buildFromDirs dirs⟩ st event = some (g, appId)) :
    (putStr [] appId).length ≤ 65527 := by
  obtain ⟨ambient, -, -, msg, consumed, taken, naming⟩ := naming_requests g appId named
  obtain ⟨m, resolved, names⟩ := naming_of_some _ ambient st.session.objects msg _ naming
  obtain ⟨request, given, stop, read, same⟩ := names_some _ _ _ _ _ names
  cases same
  have signature := @set_app_id_signature ⟨p, DesktopAppIndex.buildFromDirs dirs⟩ covered _ _ msg m resolved request
  exact forwarded_app_id_short p dirs ambient st.session.objects msg (taken_framed _ _ _ taken) m resolved signature given stop read

-- A step of the run named the toplevel so, and those behind it were of a kind.
def NamedIn (env : Env) (start st : State) (events : List Event) (later : State → Event → Prop) (g : UInt32) (appId : String) : Prop :=
  ∃ before s event next after, events = before ++ event :: after ∧ Runs (step env) (fun _ _ => True) start before s ∧
    naming env s event = some (g, appId) ∧ step env s event = some next ∧ Runs (step env) later next after st

theorem NamedIn.snoc {env : Env} {start st next : State} {events : List Event} {later : State → Event → Prop} {g : UInt32}
    {appId : String} (named : NamedIn env start st events later g appId) (event : Event) (permitted : later st event)
    (taken : step env st event = some next) : NamedIn env start next (events ++ [event]) later g appId := by
  obtain ⟨before, s, earlier, s', after, split, run, names, stepped, rest⟩ := named
  exact ⟨before, s, earlier, s', after ++ [event], by rw [split]; simp, run, names, stepped, .snoc after st next event rest permitted taken⟩

theorem NamedIn.now {env : Env} {start st next : State} {events : List Event} (later : State → Event → Prop) {g : UInt32}
    {appId : String} (run : Runs (step env) (fun _ _ => True) start events st) (event : Event)
    (names : naming env st event = some (g, appId)) (taken : step env st event = some next) :
    NamedIn env start next (events ++ [event]) later g appId :=
  ⟨events, st, event, next, [], rfl, run, names, taken, .refl⟩

section Runs

variable {env : Env} (covered : Covered env.protocol) {initial st : State} {events : List Event}
  (run : Runs (step env) (fun _ _ => True) initial events st) (empty : initial.session.graph = .new)

include covered run empty

theorem recipes_named (entry : UInt32 × Recreatable) (member : entry ∈ st.session.graph.recipes) (appId : String)
    (held : entry.2.appId = some appId) : NamedIn env initial st events (fun _ _ => True) entry.1 appId := by
  induction run generalizing entry with
  | refl =>
      rw [empty] at member
      cases member
  | snoc events s next event before permitted taken ih =>
      have renames := transition_renames covered (step_transition env s event next taken)
      rcases renames.recipes entry member appId held with ⟨recipe, earlier, kept⟩ | now
      · exact (ih (entry.1, recipe) earlier kept).snoc event trivial taken
      · exact .now _ before event now taken

theorem latest_named (g : UInt32) (appId : String) (held : appIdFor st.session.graph g = some appId) :
    NamedIn env initial st events (fun s event => ∀ other, naming env s event ≠ some (g, other)) g appId := by
  induction run with
  | refl =>
      rw [empty] at held
      cases held
  | snoc events s next event before permitted taken ih =>
      have renames := transition_renames covered (step_transition env s event next taken)
      rcases renames.latest g appId held with now | ⟨apart, kept⟩
      · exact .now _ before event now taken
      · exact (ih kept).snoc event apart taken

end Runs

end WlResprox
