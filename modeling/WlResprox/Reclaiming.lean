import WlResprox.Pumps
import WlResprox.Silence

set_option autoImplicit false

namespace WlResprox

-- What of the clipboard cache leaves the proxy: an offer on a data source of
-- its own, or the bytes of one.
def Traffic.Draws : Traffic → Prop
  | .sent m => m.peer = .host ∧ m.origin = .own ∧ m.interface = wlDataSource
  | .served _ _ _ => True
  | _ => False

-- An event of the host's that asks the proxy's own data source for its bytes.
def Fetches (s : Session) (msg : Bytes) (mimeType : String) : Prop :=
  intercepts s .hostToClient (headerOf msg) = true ∧ (headerOf msg).opcode = 1 ∧
    (readStr (msg.drop headerLen) 0).map Prod.fst = some mimeType

-- What a turn on such a message draws: one of the cached types, or cached bytes.
inductive Drawn (p : Protocol) (ambient : Ambient) (s : Session) (msg : Bytes) : Traffic → Prop where
  | offered (m : Sent) (source : UInt32) (mimeType : String) (reclaims : Reclaims p ambient s msg)
      (cached : mimeType ∈ s.clipboardCache.cachedMimeTypes ambient.order)
      (bytes : m.msg = buildMessage source 0 (putStr [] mimeType)) : Drawn p ambient s msg (.sent m)
  | served (fd : Fd) (mimeType : String) (bytes : Bytes) (fetches : Fetches s msg mimeType)
      (cached : s.clipboardCache.get mimeType = some bytes) : Drawn p ambient s msg (.served fd mimeType bytes)

theorem drawn_log {p : Protocol} {ambient : Ambient} {s : Session} {msg : Bytes} {logged entry : Traffic}
    (drawn : Drawn p ambient (s.log logged) msg entry) : Drawn p ambient s msg entry := by
  cases drawn with
  | offered m source mimeType reclaims cached bytes => exact .offered m source mimeType reclaims cached bytes
  | served fd mimeType bytes fetches cached => exact .served fd mimeType bytes fetches cached

theorem tells_undrawn {p : Protocol} (entry : Traffic) (tells : Tells p entry) : ¬ entry.Draws := by
  cases entry with
  | sent m =>
      intro draws
      have toHost := tells.1.symm.trans draws.1
      cases toHost
  | _ => exact tells.elim

theorem replays_undrawn (guestId : UInt32) (entry : Traffic) (writes : Writes .host (· = .replayed guestId) entry) : ¬ entry.Draws := by
  cases entry with
  | sent m =>
      intro draws
      have own := writes.2.symm.trans draws.2.1
      cases own
  | _ => exact writes.elim

theorem relayed_undrawn (peer : Peer) (interface : Interface) (msg : Bytes) (fds : List Fd) (outcome : WriteOutcome) :
    ¬ Traffic.Draws (.sent ⟨peer, .relayed, interface, msg, fds, outcome⟩) := by
  intro draws
  have own := draws.2.1
  cases own

section Splicing

variable {p : Protocol} (ambient : Ambient) (s : Session)

-- An offer of one of the types.
def Offering (mimeTypes : List String) (entry : Traffic) : Prop :=
  entry.Draws → ∃ m source, ∃ mimeType ∈ mimeTypes, entry = .sent m ∧ m.msg = buildMessage source 0 (putStr [] mimeType)

theorem create_own_object_offering {mimeTypes : List String} {interface : Interface} {sender : UInt32} {opcode : UInt16}
    {payload : UInt32 → Bytes} {id : Option UInt32} {t : Session} (other : interface ≠ wlDataSource)
    (result : createOwnObject s interface sender opcode payload = (id, t)) : Adds (Offering mimeTypes) s t := by
  have asks : ∀ msg outcome, Offering mimeTypes (.sent ⟨.host, .own, interface, msg, [], outcome⟩) :=
    fun msg outcome draws => absurd draws.2.2 other
  have allocated : Adds (Offering mimeTypes) s { s with objects := s.objects.allocateHostId.2 } := .same rfl
  simp only [createOwnObject] at result
  split at result
  · rename_i written wrote
    cases result
    exact allocated.trans (.wrote wrote (asks _))
  · rename_i failed wrote
    cases result
    exact (allocated.trans (.wrote wrote (asks _))).trans (.same rfl)

theorem offer_mime_types_offering (mimeTypes left : List String) (source : UInt32) (listed : ∀ mimeType ∈ left, mimeType ∈ mimeTypes) :
    Adds (Offering mimeTypes) s (offerMimeTypes s source left).2 := by
  induction left generalizing s with
  | nil => exact .same rfl
  | cons mimeType rest ih =>
      have offers : ∀ outcome, Offering mimeTypes
          (.sent ⟨.host, .own, wlDataSource, buildMessage source 0 (putStr [] mimeType), [], outcome⟩) :=
        fun outcome _ => ⟨_, source, mimeType, listed mimeType List.mem_cons_self, rfl, rfl⟩
      simp only [offerMimeTypes]
      split
      · rename_i written wrote
        exact (Adds.wrote wrote offers).trans (ih written fun other member => listed other (List.mem_cons_of_mem _ member))
      · rename_i failed wrote
        exact .wrote wrote offers

theorem claim_selection_offering (registry seat name version serial : UInt32) (mimeTypes : List String) :
    Adds (Offering mimeTypes) s (claimSelection s registry seat name version serial mimeTypes) := by
  unfold claimSelection
  split
  · rename_i s₁ bound
    exact create_own_object_offering s (by decide) bound
  · rename_i ddm s₁ bound
    have adds₁ := @create_own_object_offering s mimeTypes _ _ _ _ _ _ (by decide) bound
    split
    · rename_i s₂ created
      exact adds₁.trans (create_own_object_offering s₁ (by decide) created)
    · rename_i source s₂ created
      have adds₂ := adds₁.trans (create_own_object_offering s₁ (by decide) created)
      have offered := offer_mime_types_offering s₂ mimeTypes mimeTypes source fun _ member => member
      split
      · rename_i s₃ failed
        rw [failed] at offered
        exact adds₂.trans offered
      · rename_i s₃ done
        rw [done] at offered
        have adds₃ := adds₂.trans offered
        split
        · rename_i s₄ got
          exact adds₃.trans (create_own_object_offering s₃ (by decide) got)
        · rename_i device s₄ got
          have adds₄ := adds₃.trans (create_own_object_offering s₃ (by decide) got)
          have selects : ∀ outcome, Offering mimeTypes
              (.sent ⟨.host, .own, wlDataDevice, buildMessage device 1 (putU32 (putU32 [] source) serial), [], outcome⟩) :=
            fun outcome draws => absurd draws.2.2 (show wlDataDevice ≠ wlDataSource by decide)
          split
          · rename_i s₅ wrote
            exact adds₄.trans (.wrote wrote selects)
          · rename_i s₅ wrote
            exact (adds₄.trans (.wrote wrote selects)).trans (.same rfl)

theorem attempt_clipboard_splice_offering (serial : UInt32) :
    Adds (fun entry => entry.Draws → CanClaim ambient s ∧ ∃ m source, ∃ mimeType ∈ s.clipboardCache.cachedMimeTypes ambient.order,
      entry = .sent m ∧ m.msg = buildMessage source 0 (putStr [] mimeType)) s (attemptClipboardSplice ambient s serial) := by
  have nothing : ∀ {allowed}, Adds allowed s { s with reclaim := { s.reclaim with pending := false } } := .same rfl
  unfold attemptClipboardSplice
  dsimp only
  split
  · exact nothing
  · rename_i offers
    split
    · rename_i ddm registry seat known bound seated
      split
      · rename_i registryHost seatHost translated seatTranslated
        have claims : CanClaim ambient s := ⟨offers, by simp [known], by simp [bound, translated], by simp [seated, seatTranslated]⟩
        exact nothing.trans ((claim_selection_offering _ _ _ _ _ _ _).mono fun entry offered draws => ⟨claims, offered draws⟩)
      · exact nothing
    · exact nothing

end Splicing

section Turns

variable {env : Env} (covered : Covered env.protocol) (ambient : Ambient) (s next : Session) (msg : Bytes)

theorem request_turn_undrawn (turn : RequestTurn env ambient s msg next) : Adds (fun entry => ¬ entry.Draws) s next := by
  cases turn with
  | dropped table rest unseen => exact .same (by rw [rest])
  | stale m created translated rewritten noted noting failed is =>
      have told := (answer_stale_sender_spec env.protocol noted m created).1.adds tells_undrawn
      rw [is]
      exact ((Adds.same noting.trace).trans told).trans (.same (roll_back_creation_trace _ m created))
  | passed m created translated rewritten out noted otherSide noting found outgoing is =>
      obtain ⟨fds, outcome, trace⟩ := forward_trace ambient noted m created (writeSenderId out otherSide)
      rw [← is] at trace
      refine (Adds.same noting.trace).trans ?_
      split at trace
      · exact ⟨[_], by simpa using relayed_undrawn _ _ _ _ _, trace⟩
      · exact .same trace

theorem handle_synthetic_drawn (intercepting : intercepts s .hostToClient (headerOf msg) = true) :
    Adds (fun entry => entry.Draws → Drawn env.protocol ambient s msg entry) s
      (handleSyntheticClipboardEvent ambient s msg (headerOf msg).opcode) := by
  unfold handleSyntheticClipboardEvent
  split
  · rename_i asks
    split
    · exact .same rfl
    · rename_i fd rest _
      dsimp only
      split
      · exact .same rfl
      · rename_i mimeType stop read
        split
        · exact .same rfl
        · rename_i bytes cached
          split
          · exact .log (s.setReadFds .host rest) _ fun _ => .served fd mimeType bytes ⟨intercepting, asks, by simp [read]⟩ cached
          · exact .same rfl
  · split
    · exact .same rfl
    · exact .same rfl

theorem splice_on_input_drawn (m : Inbound) (payload : Bytes) :
    Adds (fun entry => entry.Draws → s.reclaim.pending = true ∧ m.carriesInputSerial = true ∧ CanClaim ambient s ∧
      ∃ m source, ∃ mimeType ∈ s.clipboardCache.cachedMimeTypes ambient.order,
        entry = .sent m ∧ m.msg = buildMessage source 0 (putStr [] mimeType)) s (spliceOnInput ambient s m payload) := by
  unfold spliceOnInput
  split
  · rename_i due
    obtain ⟨pending, serial⟩ := Bool.and_eq_true_iff.mp due
    split
    · exact .same rfl
    · exact (attempt_clipboard_splice_offering ambient s _).mono fun entry offered draws => ⟨pending, serial, offered draws⟩
  · exact .same rfl

include covered in
theorem event_turn_drawn (disposal : Disposal) (handled : Handled env ambient .hostToClient s (headerOf msg) msg disposal next) :
    Adds (fun entry => entry.Draws → Drawn env.protocol ambient s msg entry) s next := by
  cases handled with
  | intercepted intercepting => exact handle_synthetic_drawn ambient s msg intercepting
  | unknown | parseError | untranslatable => exact .same rfl
  | unresolvableChild m translated dropped resolved translating failed =>
      obtain ⟨-, -, rfl | ⟨guest, name, rfl⟩⟩ := introduce_object_error _ _ _ _ _ failed
      · exact .same rfl
      · exact .same rfl
  | untrackedDeleteId m translated rewritten created next resolved translating introducing failed =>
      obtain ⟨-, -, rfl, -⟩ | ⟨_, _, _, -, -, -, rfl, -⟩ := introduce_object_ok _ _ _ _ _ _ _ introducing
      · exact .same rfl
      · exact .same rfl
  | passedOn m translated rewritten renamed created introduced forgotten next disposal spared resolved translating introducing
      forgetting passing =>
      have event : m.direction = .hostToClient := resolved.way
      have kept : forgotten.trace = s.trace := by
        have first : introduced.trace = s.trace := by
          obtain ⟨-, -, rfl, -⟩ | ⟨_, _, _, -, -, -, rfl, -⟩ := introduce_object_ok _ _ _ _ _ _ _ introducing <;> rfl
        obtain ⟨rfl, -⟩ | ⟨_, _, -, -, -, -, rfl, -⟩ := forget_deleted_some _ _ _ _ _ forgetting <;> exact first
      have observed : Adds (fun entry => entry.Draws → Drawn env.protocol ambient s msg entry) s
          (observeInput ambient forgotten m (renamed.drop headerLen)) := by
        refine (Adds.same kept).trans ?_
        have spliced := splice_on_input_drawn ambient { forgotten with grabs := observeGrabs forgotten.grabs m (renamed.drop headerLen) } m
          (renamed.drop headerLen)
        refine Adds.trans (.same rfl) (spliced.mono fun entry offered draws => ?_)
        obtain ⟨pending, serial, claims, sent, source, mimeType, cached, rfl, bytes⟩ := offered draws
        obtain rfl := serial_event_changes_nothing env covered s msg m resolved serial translated rewritten renamed created introduced
          forgotten introducing forgetting
        exact .offered sent source mimeType ⟨spared, pending, claims, m, resolved, serial, by simp [translating]⟩ cached bytes
      cases passing with
      | staleGeneration updated is stale =>
          rw [is]
          exact observed.trans (.same rfl)
      | untranslatedSender noted is failed =>
          rw [otherSideSenderId, event] at failed
          cases failed
      | forwarded noted otherSide is fresh found =>
          obtain ⟨fds, outcome, trace⟩ := forward_trace ambient noted m created
            (writeSenderId (updateRecipes env ambient (observeInput ambient forgotten m (renamed.drop headerLen)).graph m renamed).2 otherSide)
          have noting : Adds (fun entry => entry.Draws → Drawn env.protocol ambient s msg entry) s noted := by
            rw [is]
            exact observed.trans (.same rfl)
          refine noting.trans ?_
          split at trace
          · exact ⟨[_], by simpa using fun draws => absurd draws (relayed_undrawn _ _ _ _ _), trace⟩
          · exact .same trace

end Turns

-- Whatever a step draws from the cache, a turn on an event of the host's draws it.
def DrawnBy (p : Protocol) (st : State) (event : Event) (entry : Traffic) : Prop :=
  ∃ ambient msg consumed, event = .turn ambient ∧ st.control = .relaying .hostToClient ∧
    takeMessage st.session.host.readBuf = some (msg, consumed) ∧ Drawn p ambient st.session msg entry

section Steps

variable {env : Env} {st next : State} {event : Event}

theorem resume_undrawn (p : Protocol) (order : HashOrder) (s : Session) :
    Adds (fun entry => ¬ entry.Draws) s (resume p order s).session :=
  ((synthesize_grab_releases_frame p s order).adds tells_undrawn).trans (.log _ _ not_false)

theorem replay_turn_undrawn (p : Protocol) (order : HashOrder) (s : Session) (r : Replay) :
    Adds (fun entry => ¬ entry.Draws) s (replayTurn p order s r).session := by
  unfold replayTurn
  split
  · exact ((settle_recovery_frame p s order r.globals).adds tells_undrawn).trans (resume_undrawn p order _)
  · rename_i guestId recipe rest _
    split
    · exact .same rfl
    · rename_i t result
      exact (replay_recipe_frame p s _ _ _ _ _ _ _ result).frame.adds (replays_undrawn guestId)
    · rename_i t h result
      exact (replay_recipe_frame p s _ _ _ _ _ _ _ result).frame.adds (replays_undrawn guestId)

theorem begin_recovery_undrawn (p : Protocol) (order : HashOrder) (s : Session) :
    Adds (fun entry => ¬ entry.Draws) s (beginRecovery p order s).session :=
  begin_recovery_adds s (fun _ _ _ draws => absurd draws.2.2 (show wlDisplay ≠ wlDataSource by decide)) p order (resume_undrawn p order)

theorem transition_drawn (covered : Covered env.protocol) (transition : Transition env st event next) :
    Adds (fun entry => entry.Draws → DrawnBy env.protocol st event entry) st.session next.session := by
  have undrawn : ∀ {s t : Session}, Adds (fun entry => ¬ entry.Draws) s t →
      Adds (fun entry => entry.Draws → DrawnBy env.protocol st event entry) s t :=
    fun adds => adds.mono fun entry undrawn draws => absurd draws undrawn
  cases transition with
  | readClient | clientGone | readAck | readHost | readRegistry | readConfigure | relayDone | cached => exact .same rfl
  | hostGone s => exact undrawn (.log { s with frozen := true } _ not_false)
  | ackGone s | ackLapse s => exact undrawn (.ended s .gtk fun _ => not_false)
  | registryGone s | configureGone s | configureLapse s => exact undrawn (.ended s .host fun _ => not_false)
  | relayed s next direction ambient disposal turned =>
      cases direction with
      | clientToHost =>
          obtain ⟨msg, consumed, handled, taken, long, turn, rfl⟩ := relay_turn_request env covered ambient s next disposal turned
          have took : Adds (fun entry => ¬ entry.Draws) s (s.log (.took .gtk msg)) := .log _ _ not_false
          exact undrawn ((took.trans (request_turn_undrawn ambient _ handled msg turn)).trans (.same rfl))
      | hostToClient =>
          obtain ⟨msg, consumed, handled, taken, handling, rfl⟩ := relay_turn_some env ambient .hostToClient s next disposal turned
          have result := relay_message_handled env ambient .hostToClient (s.log (.took .host msg)) (headerOf msg) msg
          rw [show relayMessage env ambient .hostToClient (s.log (.took .host msg)) (headerOf msg) msg = (disposal, handled) from
            handling] at result
          have drawn := event_turn_drawn covered ambient (s.log (.took .host msg)) handled msg disposal result
          have took : Adds (fun entry => ¬ entry.Draws) s (s.log (.took .host msg)) := .log _ _ not_false
          refine (undrawn took).trans (Adds.trans (drawn.mono fun entry implied draws => ?_) (.same rfl))
          exact ⟨ambient, msg, consumed, rfl, rfl, taken, drawn_log (implied draws)⟩
  | skimRegistry s w ambient msg consumed =>
      exact undrawn ((Adds.skimmed s .host consumed msg not_false).trans (heed_registry_adds _ msg (fun _ _ => not_false) w))
  | skimConfigure s h r ambient msg consumed =>
      exact undrawn ((Adds.skimmed s .host consumed msg not_false).trans (heed_configure_adds _ msg (fun _ _ => not_false) env.protocol h r
        fun _ _ _ _ => relayed_undrawn _ _ _ _ _))
  | skimAck s h r ambient msg consumed =>
      exact undrawn ((Adds.skimmed s .gtk consumed msg not_false).trans (heed_ack_adds _ msg (fun _ _ => not_false) env.protocol h r
        fun _ _ _ => relayed_undrawn _ _ _ _ _))
  | replayed s r ambient => exact undrawn (replay_turn_undrawn env.protocol ambient.order s r)
  | reconnect s ambient outcomes =>
      have renewed : Adds (fun entry => ¬ entry.Draws) s (reconnected s outcomes) := ⟨[.reconnected], by simp [Traffic.Draws], rfl⟩
      exact undrawn (renewed.trans (begin_recovery_undrawn env.protocol ambient.order _))

end Steps

end WlResprox
