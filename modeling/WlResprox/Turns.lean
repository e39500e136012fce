import WlResprox.Reasons

set_option autoImplicit false

namespace WlResprox

-- Two tables that answer every question alike.
structure SameTable (t t' : ShadowTable) : Prop where
  interface : ∀ g, t'.interface g = t.interface g
  current : ∀ g, t'.isCurrentGeneration g = t.isCurrentGeneration g
  hostId : ∀ g, t'.hostId g = t.hostId g
  guestId : ∀ h, t'.guestId h = t.guestId h

theorem SameTable.refl (t : ShadowTable) : SameTable t t := ⟨fun _ => rfl, fun _ => rfl, fun _ => rfl, fun _ => rfl⟩

theorem Aside.table {s s' : Session} (aside : Aside s s') : SameTable s.objects s'.objects :=
  ⟨aside.interface, aside.current, aside.host_id, aside.guest_id⟩

-- What a request brings into being: nothing, or one object under the id the
-- client chose, and with it perhaps a recipe.
inductive Created (env : Env) (s : Session) (m : Inbound) (msg translated : Bytes) : Option Creation → ShadowTable →
    RecreationGraph → HashMap (UInt32 × List DmabufPlane) → Prop where
  | nothing (quiet : (callOf env.protocol m.desc m.walk msg).newId = none) :
      Created env s m msg translated none s.objects s.graph s.pendingDmabufPlanes
  | object (c : Creation) (offset : Nat) (recipe : Option Recreatable) (planes : HashMap (UInt32 × List DmabufPlane))
      (located : m.walk.newIdOffset = some offset) (newId : (callOf env.protocol m.desc m.walk msg).newId = some c.guestId)
      (child : (callOf env.protocol m.desc m.walk msg).child = some c.interface) (next : c.hostId = s.objects.nextHostId)
      (captured : Captured env.protocol m translated offset c s.pendingDmabufPlanes (recipe, planes)) :
      Created env s m msg translated (some c) (s.objects.allocateHostId.2.map c.guestId s.objects.nextHostId c.interface)
        (recordCaptured s.graph c.guestId recipe) planes

-- A request that got as far as the observers, and the session they leave.
structure RequestNoted (env : Env) (ambient : Ambient) (s : Session) (msg : Bytes) (m : Inbound) (created : Option Creation)
    (translated rewritten : Bytes) (noted : Session) : Prop where
  resolved : Resolved env.protocol s.objects .clientToHost (headerOf msg) msg m
  translating : translateObjects s.objects .clientToHost m.walk.objectOffsets msg = some translated
  translation : Rewrites m.walk msg translated
  rewrites : Rewrites m.walk msg rewritten
  creates : ∃ graph, Created env s m msg translated created noted.objects graph noted.pendingDmabufPlanes ∧
    noted.graph = (updateRecipes env ambient graph m rewritten).1
  bufferFlow : noted.bufferFlow = observeBuffers s.bufferFlow m
  pendingFrames : noted.pendingFrames = observeCallbacks s.pendingFrames m created
  grabs : noted.grabs = s.grabs
  trace : noted.trace = s.trace
  frozen : noted.frozen = s.frozen

-- A turn of the relay on a request: it is dropped unseen, or noted and then
-- dropped for want of a sender, or noted and passed on.
inductive RequestTurn (env : Env) (ambient : Ambient) (s : Session) (msg : Bytes) (next : Session) : Prop where
  | dropped (table : SameTable s.objects next.objects) (rest : next = { s with objects := next.objects })
      (unseen : ∀ m, Resolved env.protocol s.objects .clientToHost (headerOf msg) msg m →
        translateObjects s.objects .clientToHost m.walk.objectOffsets msg = none ∨
          ((callOf env.protocol m.desc m.walk msg).newId ≠ none ∧ (callOf env.protocol m.desc m.walk msg).child = none))
  | stale (m : Inbound) (created : Option Creation) (translated rewritten : Bytes) (noted : Session)
      (noting : RequestNoted env ambient s msg m created translated rewritten noted)
      (failed : noted.objects.hostId m.sender = none) (is : next = dropStaleSender env.protocol noted m created)
  | passed (m : Inbound) (created : Option Creation) (translated rewritten out : Bytes) (noted : Session) (otherSide : UInt32)
      (noting : RequestNoted env ambient s msg m created translated rewritten noted)
      (found : noted.objects.hostId m.sender = some otherSide) (outgoing : Outgoing env.protocol s.objects m created out)
      (is : next = (forward ambient noted m created (writeSenderId out otherSide)).2)

-- What an event changes of the table: nothing, or an id goes, or one of the
-- proxy's own ids is given to an object of the host's.
inductive Announced (p : Protocol) (s : Session) (m : Inbound) (msg : Bytes) : Option Creation → Option UInt32 → ShadowTable → Prop where
  | nothing (quiet : (callOf p m.desc m.walk msg).newId = none) (keeps : ¬(m.interface.name = "wl_display" ∧ m.desc.name = "delete_id")) :
      Announced p s m msg none none s.objects
  | deleted (guestId : UInt32) (display : m.interface.name = "wl_display") (deletes : m.desc.name = "delete_id")
      (found : s.objects.guestId (wordAt msg headerLen) = some guestId) :
      Announced p s m msg none (some guestId) (s.objects.removeGuest guestId)
  | announced (c : Creation) (next : c.guestId = s.objects.nextGuestServerId)
      (keeps : ¬(m.interface.name = "wl_display" ∧ m.desc.name = "delete_id")) :
      Announced p s m msg (some c) none (s.objects.allocateGuestServerId.2.map s.objects.nextGuestServerId c.hostId c.interface)

def RecreationGraph.without (graph : RecreationGraph) : Option UInt32 → RecreationGraph
  | none => graph
  | some guestId => graph.remove guestId

-- An event that got as far as the observers. The splice may have written to
-- the host and used up ids of it.
structure EventNoted (env : Env) (s : Session) (msg : Bytes) (m : Inbound) (created : Option Creation) (deleted : Option UInt32)
    (renamed : Bytes) (noted : Session) : Prop where
  resolved : Resolved env.protocol s.objects .hostToClient (headerOf msg) msg m
  table : ∃ objects, Announced env.protocol s m msg created deleted objects ∧ SameTable objects noted.objects
  graph : noted.graph = s.graph.without deleted
  grabs : noted.grabs = observeGrabs s.grabs m (renamed.drop headerLen)
  bufferFlow : noted.bufferFlow = observeBuffers s.bufferFlow m
  pendingFrames : noted.pendingFrames = observeCallbacks s.pendingFrames m created
  pendingDmabufPlanes : noted.pendingDmabufPlanes = s.pendingDmabufPlanes
  trace : Adds OwnRequest s noted
  walks : walkSignature (renamed.drop headerLen) m.desc.signature = .ok m.walk
  rewrites : ¬(m.interface.name = "wl_display" ∧ m.desc.name = "delete_id") → Rewrites m.walk msg renamed

def Traffic.Served : Traffic → Prop
  | .served _ _ _ => True
  | _ => False

-- A turn of the relay on an event: the client hears of it or it does not.
inductive EventTurn (env : Env) (ambient : Ambient) (s : Session) (msg : Bytes) (next : Session) : Prop where
  | unheard (table : SameTable s.objects next.objects) (books : SameBooks s next) (grabs : next.grabs = s.grabs)
      (trace : Adds Traffic.Served s next)
  | heard (m : Inbound) (created : Option Creation) (deleted : Option UInt32) (renamed : Bytes) (noted : Session)
      (noting : EventNoted env s msg m created deleted renamed noted) (outgoing : Outgoing env.protocol s.objects m created renamed)
      (names : ∀ guestId, deleted = some guestId → wordAt renamed headerLen = guestId)
      (is : next = (forward ambient noted m created (writeSenderId renamed m.sender)).2)

section Requests

variable (env : Env) (covered : Covered env.protocol) (ambient : Ambient) (s : Session) (msg : Bytes) (long : headerLen ≤ msg.length)

theorem resolved_unique (objects : ShadowTable) (direction : Direction) (m m' : Inbound)
    (resolved : Resolved env.protocol objects direction (headerOf msg) msg m)
    (resolved' : Resolved env.protocol objects direction (headerOf msg) msg m') : m' = m := by
  obtain ⟨way, head, sender, walk, originals⟩ := resolved
  obtain ⟨way', head', sender', walk', originals'⟩ := resolved'
  cases m
  cases m'
  dsimp only at *
  rw [sender] at sender'
  cases sender'
  rw [walk] at walk'
  cases walk'
  subst way way' head head' originals originals'
  rfl

include long in
theorem introduction_makes (m : Inbound) (resolved : Resolved env.protocol s.objects .clientToHost (headerOf msg) msg m)
    (translated rewritten : Bytes) (created : Option Creation) (introduced : Session)
    (translating : translateObjects s.objects .clientToHost m.walk.objectOffsets msg = some translated)
    (introducing : introduceObject env.protocol s m translated = .ok (created, introduced, rewritten)) :
    Created env s m msg translated created introduced.objects introduced.graph introduced.pendingDmabufPlanes := by
  obtain ⟨absent, rfl, rfl, -⟩ | ⟨offset, child, version, located, resolves, rfl, rfl, -⟩ :=
    introduce_object_ok _ _ _ _ _ _ _ introducing
  · refine .nothing ?_
    simp [callOf, absent]
  · have original := original_new_id env s .clientToHost msg m resolved long translated offset located translating
    rw [resolved_decode env s.objects .clientToHost msg m resolved, Option.bind_some] at original
    have request : m.direction = .clientToHost := resolved.way
    have shape : createObject s.objects m.direction (wordAt translated (headerLen + offset)) child =
        (⟨wordAt translated (headerLen + offset), s.objects.nextHostId, child⟩,
          s.objects.allocateHostId.2.map (wordAt translated (headerLen + offset)) s.objects.nextHostId child) := by
      rw [request]
      rfl
    have captured := capture_recipe_captured env.protocol m translated offset
      (createObject s.objects m.direction (wordAt translated (headerLen + offset)) child).1 s.pendingDmabufPlanes
    simp only [introduced]
    rw [shape] at captured ⊢
    exact .object _ offset _ _ located original (by simp [callOf, resolves]) rfl captured

include covered long

theorem request_turn (disposal : Disposal) (next : Session)
    (handled : Handled env ambient .clientToHost s (headerOf msg) msg disposal next) : RequestTurn env ambient s msg next := by
  cases handled with
  | intercepted intercepting => simp [intercepts] at intercepting
  | unknown unresolved =>
      refine .dropped (.refl _) rfl fun m resolved => ?_
      have known := resolved.sender
      rw [unresolved] at known
      cases known
  | parseError sender interface desc error known failed =>
      refine .dropped (.refl _) rfl fun m resolved => ?_
      have sender := resolved.sender
      rw [known] at sender
      cases sender
      have walked := resolved.walk
      rw [failed] at walked
      cases walked
  | untranslatable m resolved failed =>
      refine .dropped (.refl _) rfl fun m' resolved' => .inl ?_
      rw [resolved_unique env msg s.objects _ m m' resolved resolved']
      exact failed
  | unresolvableChild m translated dropped resolved translating failed =>
      obtain ⟨located, unresolved, same⟩ := introduce_object_error _ _ _ _ _ failed
      have unseen : ∀ m', Resolved env.protocol s.objects .clientToHost (headerOf msg) msg m' →
          translateObjects s.objects .clientToHost m'.walk.objectOffsets msg = none ∨
            ((callOf env.protocol m'.desc m'.walk msg).newId ≠ none ∧ (callOf env.protocol m'.desc m'.walk msg).child = none) := by
        intro m' resolved'
        rw [resolved_unique env msg s.objects _ m m' resolved resolved']
        exact .inr ⟨by simpa [callOf] using located, by simp [callOf, unresolved]⟩
      obtain rfl | ⟨guest, name, rfl⟩ := same
      · exact .dropped (.refl _) rfl unseen
      · exact .dropped ⟨fun _ => rfl, fun _ => rfl, fun _ => rfl, fun _ => rfl⟩ rfl unseen
  | untrackedDeleteId m translated rewritten created introduced resolved translating introducing failed =>
      exfalso
      unfold forgetDeleted at failed
      split at failed
      · rename_i deletes
        have event := (delete_id_plain env covered s.objects .clientToHost msg m resolved deletes.1 deletes.2).1
        cases event
      · cases failed
  | passedOn m translated rewritten renamed created introduced forgotten next disposal spared resolved translating introducing
      forgetting passing =>
      have request : m.direction = .clientToHost := resolved.way
      have kept : forgotten = introduced ∧ renamed = rewritten := by
        refine forget_deleted_other _ _ _ _ _ forgetting fun deletes => ?_
        have event := (delete_id_plain env covered s.objects .clientToHost msg m resolved deletes.1 deletes.2).1
        cases event
      obtain ⟨rfl, rfl⟩ := kept
      have creates := introduction_makes env s msg long m resolved translated renamed created forgotten translating introducing
      have quiet := request_carries_no_serial m request
      have observed : observeInput ambient forgotten m (renamed.drop headerLen) = forgotten := by
        have events : ∀ interface event, m.isEvent interface event = false := by simp [Inbound.isEvent, request]
        have same : observeGrabs forgotten.grabs m (renamed.drop headerLen) = forgotten.grabs := by simp [observeGrabs, events]
        rw [observeInput, same]
        simp [spliceOnInput, quiet]
      have rest : forgotten = { s with
          objects := forgotten.objects
          graph := forgotten.graph
          pendingDmabufPlanes := forgotten.pendingDmabufPlanes } := by
        obtain ⟨-, -, rfl, -⟩ | ⟨offset, child, version, -, -, -, rfl, -⟩ := introduce_object_ok _ _ _ _ _ _ _ introducing <;> rfl
      have noting : ∀ noted, noted = observeFlow (observeRecipes env ambient
          (observeInput ambient forgotten m (renamed.drop headerLen)) m renamed) m created →
          RequestNoted env ambient s msg m created translated renamed noted := by
        intro noted is
        rw [observed] at is
        subst is
        refine ⟨resolved, translating, translated_rewrites env s.objects _ _ msg m resolved long translated translating,
          introduced_rewrites env s.objects _ _ msg m resolved long s forgotten translated renamed created translating introducing,
          ⟨_, creates, rfl⟩, ?_, ?_, ?_, ?_, ?_⟩ <;> rw [rest] <;> rfl
      cases passing with
      | staleGeneration updated observed stale => simp [staleRelease, Inbound.isEvent, request] at stale
      | untranslatedSender noted is failed =>
          refine .stale m created translated renamed noted (noting noted is) ?_ rfl
          simpa [otherSideSenderId, request] using failed
      | forwarded noted otherSide is fresh found =>
          have outgoing := relayed_outgoing env covered s.objects .clientToHost msg m resolved long s forgotten forgotten translated
            renamed renamed created translating introducing forgetting ambient
            (observeInput ambient forgotten m (renamed.drop headerLen)).graph
          refine .passed m created translated renamed _ noted otherSide (noting noted is) ?_ outgoing rfl
          simpa [otherSideSenderId, request] using found

end Requests

section Events

variable (env : Env) (covered : Covered env.protocol) (ambient : Ambient) (s : Session) (msg : Bytes) (long : headerLen ≤ msg.length)

theorem handle_synthetic_served (opcode : UInt16) :
    SameTable s.objects (handleSyntheticClipboardEvent ambient s msg opcode).objects ∧
      SameBooks s (handleSyntheticClipboardEvent ambient s msg opcode) ∧
      (handleSyntheticClipboardEvent ambient s msg opcode).grabs = s.grabs ∧
      Adds Traffic.Served s (handleSyntheticClipboardEvent ambient s msg opcode) := by
  have same : SameTable s.objects s.objects := .refl _
  unfold handleSyntheticClipboardEvent
  split
  · split
    · exact ⟨same, .refl s, rfl, .same rfl⟩
    · dsimp only
      split
      · exact ⟨same, ⟨rfl, rfl, rfl, rfl⟩, rfl, .same rfl⟩
      · split
        · exact ⟨same, ⟨rfl, rfl, rfl, rfl⟩, rfl, .same rfl⟩
        · split
          · exact ⟨same, ⟨rfl, rfl, rfl, rfl⟩, rfl, .log (s.setReadFds .host _) _ trivial⟩
          · exact ⟨same, ⟨rfl, rfl, rfl, rfl⟩, rfl, .same rfl⟩
  · split
    · exact ⟨same, ⟨rfl, rfl, rfl, rfl⟩, rfl, .same rfl⟩
    · exact ⟨same, .refl s, rfl, .same rfl⟩

theorem event_captures_nothing (m : Inbound) (event : m.direction = .hostToClient) (offset : Nat) (created : Creation)
    (planes : HashMap (UInt32 × List DmabufPlane)) : captureRecipe env.protocol m msg offset created planes = (none, planes) := by
  have requests : ∀ interface request, m.isRequest interface request = false := by simp [Inbound.isRequest, event]
  simp [captureRecipe, requests]

theorem event_updates_nothing (m : Inbound) (event : m.direction = .hostToClient) (graph : RecreationGraph) (msg : Bytes) :
    updateRecipes env ambient graph m msg = (graph, msg) := by
  have requests : ∀ interface request, m.isRequest interface request = false := by simp [Inbound.isRequest, event]
  simp [updateRecipes, requests]

theorem splice_on_input_asks (m : Inbound) (payload : Bytes) : Adds OwnRequest s (spliceOnInput ambient s m payload) := by
  unfold spliceOnInput
  split
  · split
    · exact .same rfl
    · exact (attempt_clipboard_splice_frame s ambient _).adds fun _ fine => fine
  · exact .same rfl

variable (m : Inbound) (resolved : Resolved env.protocol s.objects .hostToClient (headerOf msg) msg m)
  (translated rewritten renamed : Bytes) (created : Option Creation) (introduced forgotten : Session)
  (translating : translateObjects s.objects .hostToClient m.walk.objectOffsets msg = some translated)
  (introducing : introduceObject env.protocol s m translated = .ok (created, introduced, rewritten))
  (forgetting : forgetDeleted introduced m rewritten = some (forgotten, renamed))

include covered resolved long translating introducing forgetting

omit covered in
theorem renamed_rewrites (keeps : ¬(m.interface.name = "wl_display" ∧ m.desc.name = "delete_id")) : Rewrites m.walk msg renamed := by
  rw [(forget_deleted_other _ _ _ _ _ forgetting keeps).2]
  exact introduced_rewrites env s.objects _ _ msg m resolved long s introduced translated rewritten created translating introducing

-- What is passed on still has the shape the signature asks for.
theorem renamed_walks : walkSignature (renamed.drop headerLen) m.desc.signature = .ok m.walk := by
  by_cases deletes : m.interface.name = "wl_display" ∧ m.desc.name = "delete_id"
  · have signature := (delete_id_plain env covered s.objects .hostToClient msg m resolved deletes.1 deletes.2).2
    have walk := resolved.walk
    obtain ⟨rfl, -, rfl, fits⟩ := delete_id_rewritten env covered s msg m resolved translated rewritten created introduced deletes.1
      deletes.2 translating introducing
    have sized : ∀ payload : Bytes, 4 ≤ payload.length → walkSignature payload [.uint] = .ok ⟨none, [], 0, none⟩ := by
      intro payload room
      have enough : ¬ payload.length < 4 := by omega
      simp [walkSignature, walkFrom, walkArgument, advance, checkedAdd, enough, Except.map, bind, Except.bind, pure, Except.pure]
    rw [signature, sized _ fits] at walk
    have renames : renamed.length = rewritten.length := by
      unfold forgetDeleted at forgetting
      rw [if_pos deletes] at forgetting
      split at forgetting
      · cases forgetting
        rfl
      · split at forgetting
        · cases forgetting
        · cases forgetting
          simp only [List.length_drop] at fits
          exact set_word_length _ _ _ (by omega)
    rw [signature, ← walk]
    refine sized _ ?_
    simp only [List.length_drop] at fits ⊢
    omega
  · exact (renamed_rewrites env s msg long m resolved translated rewritten renamed created introduced forgotten translating
      introducing forgetting deletes).walk_signature _ resolved.walk

-- Which of the three the event is, and what else of the session it touches.
theorem event_announces : ∃ deleted, Announced env.protocol s m msg created deleted forgotten.objects ∧
    forgotten = { s with objects := forgotten.objects, graph := s.graph.without deleted } ∧
    ∀ guestId, deleted = some guestId → wordAt renamed headerLen = guestId := by
  by_cases deletes : m.interface.name = "wl_display" ∧ m.desc.name = "delete_id"
  · obtain ⟨rfl, rfl, rfl, fits⟩ := delete_id_rewritten env covered s msg m resolved translated rewritten created introduced deletes.1
      deletes.2 translating introducing
    have sized : headerLen + 4 ≤ rewritten.length := by
      simp only [List.length_drop] at fits
      omega
    have read : readU32 rewritten headerLen = some (wordAt rewritten headerLen) := by rw [readU32, if_pos sized]
    unfold forgetDeleted at forgetting
    rw [if_pos deletes, read] at forgetting
    dsimp only at forgetting
    split at forgetting
    · cases forgetting
    · rename_i guestId found
      cases forgetting
      refine ⟨some guestId, .deleted guestId deletes.1 deletes.2 found, rfl, fun g same => ?_⟩
      cases same
      exact word_at_set_word _ _ _ sized
  · obtain ⟨rfl, rfl⟩ := forget_deleted_other _ _ _ _ _ forgetting deletes
    refine ⟨none, ?_, ?_, fun g same => by cases same⟩
    · obtain ⟨trace, ⟨rfl, rfl⟩ | ⟨c, rfl, announces⟩⟩ :=
        introduced_event env s msg m resolved long translated renamed created forgotten translating introducing
      · refine .nothing ?_ deletes
        obtain ⟨absent, -⟩ | ⟨offset, child, version, -, -, made, -⟩ := introduce_object_ok _ _ _ _ _ _ _ introducing
        · simp [callOf, absent]
        · cases made
      · rw [announces.mapped]
        exact .announced c announces.next deletes
    · obtain ⟨-, -, rfl, -⟩ | ⟨offset, child, version, -, -, -, rfl, -⟩ := introduce_object_ok _ _ _ _ _ _ _ introducing
      · rfl
      · simp only [introduced, event_captures_nothing env translated m resolved.way]
        rfl

end Events

section Events

variable (env : Env) (covered : Covered env.protocol) (ambient : Ambient) (s : Session) (msg : Bytes) (long : headerLen ≤ msg.length)

include covered long

theorem event_turn (disposal : Disposal) (next : Session)
    (handled : Handled env ambient .hostToClient s (headerOf msg) msg disposal next) : EventTurn env ambient s msg next := by
  cases handled with
  | intercepted intercepting =>
      obtain ⟨table, books, grabs, trace⟩ := handle_synthetic_served ambient s msg (headerOf msg).opcode
      exact .unheard table books grabs trace
  | unknown | parseError | untranslatable => exact .unheard (.refl _) (.refl s) rfl (.same rfl)
  | unresolvableChild m translated dropped resolved translating failed =>
      obtain ⟨-, -, rfl | ⟨guest, name, rfl⟩⟩ := introduce_object_error _ _ _ _ _ failed
      · exact .unheard (.refl _) (.refl _) rfl (.same rfl)
      · exact .unheard ⟨fun _ => rfl, fun _ => rfl, fun _ => rfl, fun _ => rfl⟩ ⟨rfl, rfl, rfl, rfl⟩ rfl (.same rfl)
  | untrackedDeleteId m translated rewritten created next resolved translating introducing failed =>
      have deletes : m.interface.name = "wl_display" ∧ m.desc.name = "delete_id" := by
        by_contra other
        rw [forgetDeleted, if_neg other] at failed
        cases failed
      obtain ⟨-, -, rfl, -⟩ := delete_id_rewritten env covered s msg m resolved translated rewritten created next deletes.1
        deletes.2 translating introducing
      exact .unheard (.refl _) (.refl _) rfl (.same rfl)
  | passedOn m translated rewritten renamed created introduced forgotten next disposal spared resolved translating introducing
      forgetting passing =>
      obtain ⟨deleted, announces, rest, names⟩ := event_announces env covered s msg long m resolved translated rewritten renamed created
        introduced forgotten translating introducing forgetting
      have event : m.direction = .hostToClient := resolved.way
      have updates := fun graph => event_updates_nothing env ambient m event graph renamed
      have aside := observe_input_aside forgotten ambient m (renamed.drop headerLen)
      have observed : observeRecipes env ambient (observeInput ambient forgotten m (renamed.drop headerLen)) m renamed =
          observeInput ambient forgotten m (renamed.drop headerLen) := by rw [observeRecipes, updates]
      cases passing with
      | staleGeneration updated is stale =>
          obtain ⟨release, -⟩ := Bool.and_eq_true_iff.mp stale
          obtain ⟨-, buffer, named⟩ := (is_event_iff _ _ _).mp release
          have quiet := covered.quietEvents m.interface "release" (by simp) m.desc
            (resolved_member env s.objects .hostToClient msg m resolved) named
          obtain ⟨-, same⟩ := quiet_event_creates_nothing env s msg m resolved translated rewritten created introduced introducing quiet
          obtain ⟨kept, -⟩ := forget_deleted_other _ _ _ _ _ forgetting (by simp [buffer])
          have silent : m.carriesInputSerial = false := by simp [Inbound.carriesInputSerial, Inbound.isEvent, buffer]
          have unseen : observeGrabs s.grabs m (renamed.drop headerLen) = s.grabs := by simp [observeGrabs, Inbound.isEvent, buffer]
          have unchanged : observeInput ambient s m (renamed.drop headerLen) = s := by
            rw [observeInput, unseen]
            simp [spliceOnInput, silent]
          rw [is, observed, kept, same, unchanged]
          exact .unheard (.refl _) (.refl s) rfl (.same rfl)
      | untranslatedSender noted is failed =>
          rw [otherSideSenderId, event] at failed
          cases failed
      | forwarded noted otherSide is fresh found =>
          obtain rfl : otherSide = m.sender := by
            rw [otherSideSenderId, event] at found
            exact (Option.some.inj found).symm
          have outgoing := relayed_outgoing env covered s.objects .hostToClient msg m resolved long s introduced forgotten translated
            rewritten renamed created translating introducing forgetting ambient
            (observeInput ambient forgotten m (renamed.drop headerLen)).graph
          rw [updates] at outgoing ⊢
          rw [observed] at is
          have before : Adds OwnRequest s { forgotten with grabs := observeGrabs forgotten.grabs m (renamed.drop headerLen) } :=
            .same (by rw [rest])
          have walks := renamed_walks env covered s msg long m resolved translated rewritten renamed created introduced forgotten
            translating introducing forgetting
          have rewrites := renamed_rewrites env s msg long m resolved translated rewritten renamed created introduced forgotten
            translating introducing forgetting
          refine .heard m created deleted renamed noted
            ⟨resolved, ⟨forgotten.objects, announces, ?_⟩, ?_, ?_, ?_, ?_, ?_, ?_, walks, rewrites⟩ outgoing names rfl
          · subst is
            exact aside.table
          · subst is
            exact aside.graph.trans (by rw [rest])
          · subst is
            exact aside.grabs.trans (by rw [rest])
          · subst is
            exact congrArg (observeBuffers · m) (aside.bufferFlow.trans (by rw [rest]))
          · subst is
            exact congrArg (observeCallbacks · m created) (aside.pendingFrames.trans (by rw [rest]))
          · subst is
            exact aside.pendingDmabufPlanes.trans (by rw [rest])
          · subst is
            exact before.trans (splice_on_input_asks ambient _ m _)

end Events

section Relaying

variable (env : Env) (covered : Covered env.protocol) (ambient : Ambient) (s next : Session) (disposal : Disposal)

include covered

theorem relay_turn_request (turned : relayTurn env ambient .clientToHost s = some (disposal, next)) :
    ∃ msg consumed handled, takeMessage s.gtk.readBuf = some (msg, consumed) ∧ headerLen ≤ msg.length ∧
      RequestTurn env ambient (s.log (.took .gtk msg)) msg handled ∧ next = handled.drainBuf .gtk consumed := by
  obtain ⟨msg, consumed, handled, taken, handling, rfl⟩ := relay_turn_some env ambient .clientToHost s next disposal turned
  have long : headerLen ≤ msg.length := by
    rw [take_message_length _ _ _ taken]
    exact (take_message_spec _ _ _ taken).1
  have result := relay_message_handled env ambient .clientToHost (s.log (.took .gtk msg)) (headerOf msg) msg
  rw [show relayMessage env ambient .clientToHost (s.log (.took .gtk msg)) (headerOf msg) msg = (disposal, handled) from handling]
    at result
  exact ⟨msg, consumed, handled, taken, long, request_turn env covered ambient _ msg long disposal handled result, rfl⟩

theorem relay_turn_event (turned : relayTurn env ambient .hostToClient s = some (disposal, next)) :
    ∃ msg consumed handled, takeMessage s.host.readBuf = some (msg, consumed) ∧ headerLen ≤ msg.length ∧
      EventTurn env ambient (s.log (.took .host msg)) msg handled ∧ next = handled.drainBuf .host consumed := by
  obtain ⟨msg, consumed, handled, taken, handling, rfl⟩ := relay_turn_some env ambient .hostToClient s next disposal turned
  have long : headerLen ≤ msg.length := by
    rw [take_message_length _ _ _ taken]
    exact (take_message_spec _ _ _ taken).1
  have result := relay_message_handled env ambient .hostToClient (s.log (.took .host msg)) (headerOf msg) msg
  rw [show relayMessage env ambient .hostToClient (s.log (.took .host msg)) (headerOf msg) msg = (disposal, handled) from handling]
    at result
  exact ⟨msg, consumed, handled, taken, long, event_turn env covered ambient _ msg long disposal handled result, rfl⟩

end Relaying

section Parts

variable (p : Protocol) (ambient : Ambient) (s : Session) (m : Inbound) (created : Option Creation) (msg : Bytes)

@[simp] theorem drain_buf_objects (peer : Peer) (consumed : Nat) : (s.drainBuf peer consumed).objects = s.objects := rfl
@[simp] theorem drain_buf_graph (peer : Peer) (consumed : Nat) : (s.drainBuf peer consumed).graph = s.graph := rfl
@[simp] theorem drain_buf_grabs (peer : Peer) (consumed : Nat) : (s.drainBuf peer consumed).grabs = s.grabs := rfl
@[simp] theorem drain_buf_buffer_flow (peer : Peer) (consumed : Nat) : (s.drainBuf peer consumed).bufferFlow = s.bufferFlow := rfl
@[simp] theorem drain_buf_pending_frames (peer : Peer) (consumed : Nat) :
    (s.drainBuf peer consumed).pendingFrames = s.pendingFrames := rfl
@[simp] theorem drain_buf_trace (peer : Peer) (consumed : Nat) : (s.drainBuf peer consumed).trace = s.trace := rfl

-- Passing on writes at most once, and may retain a pool or a plane.
theorem forward_parts : (forward ambient s m created msg).2.objects = s.objects ∧
    (forward ambient s m created msg).2.grabs = s.grabs ∧ (forward ambient s m created msg).2.bufferFlow = s.bufferFlow ∧
    (forward ambient s m created msg).2.pendingFrames = s.pendingFrames ∧
    ∃ fds, (forward ambient s m created msg).2.graph = retainPool s.graph m (msg.drop headerLen) created fds := by
  simp only [forward]
  split
  · exact ⟨rfl, rfl, rfl, rfl, _, rfl⟩
  · exact ⟨rfl, rfl, rfl, rfl, _, rfl⟩

theorem forward_trace : ∃ fds outcome, (forward ambient s m created msg).2.trace =
    if live s m.direction then s.trace ++ [.sent ⟨m.direction.dst, .relayed, m.interface, msg, fds, outcome⟩] else s.trace := by
  obtain ⟨fds, outcome, forwards⟩ := forward_view ambient s m created msg
  refine ⟨fds, outcome, (congrArg View.trace forwards).trans ?_⟩
  split <;> rfl

end Parts

end WlResprox
