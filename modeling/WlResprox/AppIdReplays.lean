import WlResprox.AppIds
import WlResprox.Serials
import WlResprox.Tending

set_option autoImplicit false

namespace WlResprox

def Sent.setsAppId (p : Protocol) (m : Sent) : Prop := requestOpcode p m.interface "set_app_id" = some (opcodeOfMessage m.msg)

-- If this is a set_app_id, it is one of that app id.
def Traffic.Carries (p : Protocol) (appId : Option String) : Traffic → Prop
  | .sent m => m.setsAppId p → ∃ text stop, appId = some text ∧ Framed m.msg ∧ readStr (m.msg.drop headerLen) 0 = some (text, stop)
  | _ => True

theorem redoing_carries {p : Protocol} (covered : Covered p) (guestId : UInt32) (request : String) (other : request ≠ "set_app_id")
    (appId : Option String) (entry : Traffic) (redoing : Redoing p guestId request entry) : entry.Carries p appId := by
  cases entry with
  | sent m =>
      intro sets
      obtain ⟨-, -, hostId, payload, opcode, known, built⟩ := redoing
      rw [Sent.setsAppId, built, opcode_of_built] at sets
      exact absurd (opcode_of_injective _ (covered.requests m.interface) _ _ _ known sets) other
  | _ => trivial

section Replaying

variable {p : Protocol} (covered : Covered p) (s : Session) (guestId : UInt32)

-- Of a request with one string the payload is the string.
theorem encode_text (signature : List ArgumentType) (text : String) (payload : Bytes) (fds : List Fd)
    (encoded : encodeArguments signature [.string text] = .ok (payload, fds)) : payload = putStr [] text := by
  obtain ⟨-, is, -⟩ := (encode_arguments_iff _ _ _ _).mp encoded
  simpa [WaylandValue.bytes] using is

theorem replay_string_carries (hostId : UInt32) (interface : Interface) (request : String) (text : Option String)
    (short : ∀ known, text = some known → (putStr [] known).length ≤ 65527) :
    Adds (Traffic.Carries p text) s (replayString p s guestId hostId interface request text) := by
  cases text with
  | none => exact .same rfl
  | some text =>
      show Adds _ s (replayRequest p s guestId hostId interface request [.string text]).2
      unfold replayRequest
      split
      · exact .same rfl
      · split
        · exact .same rfl
        · split
          · exact .same rfl
          · rename_i opcode known desc listed payload fds encoded
            refine ⟨[_], ?_, rfl⟩
            intro entry member
            rw [List.mem_singleton] at member
            subst member
            have fits := short text rfl
            have read := read_str_encoded [] [] text (by omega)
            rw [List.nil_append, List.append_nil] at read
            cases encode_text _ _ _ _ encoded
            exact fun _ => ⟨text, _, rfl, built_framed _ _ _ fits, by rw [build_message_payload]; exact read⟩

include covered

-- What asking for a child again does to the id it is for.
theorem recreate_child_maps (parentGuestId : UInt32) (other : Option UInt32) (request : String)
    (values : UInt32 → UInt32 → List WaylandValue) (t : Session) :
    (recreateChild p s guestId parentGuestId other request values = .skipped t → t.objects.hostId guestId = s.objects.hostId guestId) ∧
    ∀ child, recreateChild p s guestId parentGuestId other request values = .recreated child →
      ∃ before : ShadowTable, child.session.objects = before.map guestId child.hostId child.interface := by
  unfold recreateChild
  split
  · rename_i interface parentHostId otherHostId known translated _
    have uses := request_child_uses s covered guestId interface parentHostId request (fun hostId => values hostId otherHostId)
    split
    · rename_i skipped is
      rw [is] at uses
      refine ⟨fun same => ?_, nofun⟩
      cases same
      obtain kept | allocated := uses
      · rw [kept]
      · rw [allocated, ShadowTable.allocate_host_id_host_id]
    · exact ⟨nofun, nofun⟩
    · refine ⟨nofun, fun child same => ?_⟩
      cases same
      exact ⟨_, rfl⟩
  · refine ⟨fun same => ?_, nofun⟩
    cases same
    rfl

theorem replay_app_id_sets (hostId : UInt32) (text : String) :
    ∃ m, (replayString p s guestId hostId ⟨"xdg_toplevel"⟩ "set_app_id" (some text)).trace = s.trace ++ [.sent m] ∧
      m.peer = .host ∧ m.interface = ⟨"xdg_toplevel"⟩ ∧ m.setsAppId p ∧ senderOf m.msg = hostId := by
  cases known : requestOpcode p ⟨"xdg_toplevel"⟩ "set_app_id" with
  | none =>
      obtain ⟨entry, found, -⟩ := Option.map_eq_some_iff.mp covered.setAppId
      have unnamed := List.findIdx?_eq_none_iff.mp (Option.map_eq_none_iff.mp known) entry (List.mem_of_find?_eq_some found)
      rw [List.find?_some found] at unnamed
      cases unnamed
  | some opcode =>
      obtain ⟨desc, listed, member, named⟩ := opcode_listed _ _ _ (covered.requests _) known
      have signature := (declared_entry _ _ _ _ (covered.requests _) covered.setAppId desc member named).1
      have encoded : encodeArguments desc.signature [.string text] = .ok (putStr [] text, []) :=
        (encode_arguments_iff _ _ _ _).mpr ⟨by rw [signature]; rfl, by simp [WaylandValue.bytes], by simp [WaylandValue.fds]⟩
      refine ⟨⟨.host, .replayed guestId, ⟨"xdg_toplevel"⟩, buildMessage hostId opcode (putStr [] text), [], s.host.nextWrite⟩,
        ?_, rfl, rfl, ?_, ?_⟩
      · show (replayRequest p s guestId hostId ⟨"xdg_toplevel"⟩ "set_app_id" [.string text]).2.trace = _
        simp only [replayRequest, known, listed, encoded]
        rfl
      · rw [Sent.setsAppId, opcode_of_built]
        exact known
      · exact build_message_sender _ _ _

theorem recreate_xdg_toplevel_carries (parent : UInt32) (title appId : Option String) (t : Session) (handshake : Option Handshake)
    (result : recreateXdgToplevel p s guestId parent title appId = some (t, handshake))
    (short : ∀ known, appId = some known → (putStr [] known).length ≤ 65527) : Adds (Traffic.Carries p appId) s t := by
  have created := recreate_child_redoing p s guestId parent none "get_toplevel" (fun hostId _ => [.newId hostId])
  have others := fun request other => redoing_carries covered guestId request other appId
  rcases recreate_xdg_toplevel_some p s guestId parent title appId t handshake result with
    skipped | ⟨child, titled, named, recreated, writesTitle, writesAppId, rfl⟩
  · rw [skipped] at created
    exact (created t rfl).frame.adds (others _ (by decide))
  · rw [recreated] at created
    have first := replay_string_redoing p child.session guestId child.hostId child.interface "set_title" title
    have second : Adds (Traffic.Carries p appId) titled _ :=
      replay_string_carries titled guestId child.hostId child.interface "set_app_id" appId short
    have third := send_initial_commit_redoing p named guestId parent
    rw [← writesTitle] at first
    rw [← writesAppId] at second
    exact ((((created child.session rfl).frame.adds (others _ (by decide))).trans
      (first.frame.adds (others _ (by decide)))).trans second).trans (third.frame.adds (others _ (by decide)))

-- A toplevel that comes back as one is named before it is committed.
theorem recreate_xdg_toplevel_sets (parent : UInt32) (title : Option String) (text : String) (t : Session)
    (handshake : Option Handshake) (result : recreateXdgToplevel p s guestId parent title (some text) = some (t, handshake))
    (moved : t.objects.hostId guestId ≠ s.objects.hostId guestId) (kind : t.objects.interface guestId = some ⟨"xdg_toplevel"⟩) :
    ∃ added m, t.trace = s.trace ++ added ∧ .sent m ∈ added ∧ m.peer = .host ∧ m.interface = ⟨"xdg_toplevel"⟩ ∧ m.setsAppId p ∧
      t.objects.hostId guestId = some (senderOf m.msg) := by
  have maps := recreate_child_maps covered s guestId parent none "get_toplevel" (fun hostId _ => [.newId hostId]) t
  have created := recreate_child_redoing p s guestId parent none "get_toplevel" (fun hostId _ => [.newId hostId])
  rcases recreate_xdg_toplevel_some p s guestId parent title (some text) t handshake result with
    skipped | ⟨child, titled, named, recreated, writesTitle, writesAppId, rfl⟩
  · exact absurd (maps.1 skipped) moved
  · obtain ⟨before, mapped⟩ := maps.2 child recreated
    have objects : (sendInitialCommit p named guestId parent).2.objects = before.map guestId child.hostId child.interface := by
      rw [send_initial_commit_objects, writesAppId, replay_string_objects, writesTitle, replay_string_objects, mapped]
    rw [objects] at moved kind ⊢
    rw [ShadowTable.interface_map, if_pos rfl] at kind
    have nonzero : guestId ≠ 0 := by
      intro null
      rw [null] at moved
      exact moved rfl
    rw [recreated] at created
    rw [Option.some.inj kind] at writesAppId
    obtain ⟨first, -, made⟩ := (created child.session rfl).frame.trace
    obtain ⟨second, -, wrote⟩ := (replay_string_redoing p child.session guestId child.hostId child.interface "set_title" title).frame.trace
    obtain ⟨m, names, peer, interface, sets, sender⟩ := replay_app_id_sets covered titled guestId child.hostId text
    obtain ⟨third, -, committed⟩ := (send_initial_commit_redoing p named guestId parent).frame.trace
    rw [← writesTitle] at wrote
    rw [← writesAppId] at names
    refine ⟨first ++ second ++ .sent m :: third, m, ?_, by simp, peer, interface, sets, ?_⟩
    · rw [committed, names, wrote, made]
      simp
    · rw [sender]
      exact ShadowTable.host_id_map_same before guestId child.hostId child.interface nonzero

end Replaying

-- What a recovery has yet to replay is in the graph.
def Entitled (st : State) : Prop := ∀ entry ∈ st.control.rest, entry ∈ st.session.graph.recipes

section Steps

variable {env : Env} {st next : State} {event : Event}

theorem begin_recovery_rest (p : Protocol) (order : HashOrder) (s : Session) : (beginRecovery p order s).control.rest = [] := by
  simp only [beginRecovery]
  split
  · rfl
  · split
    · rfl
    · split <;> rfl

theorem replay_turn_rest (p : Protocol) (order : HashOrder) (s : Session) (r : Replay) (entry : UInt32 × Recreatable)
    (member : entry ∈ (replayTurn p order s r).control.rest) : entry ∈ r.rest := by
  unfold replayTurn at member
  split at member
  · cases member
  · rename_i guestId recipe rest more
    rw [more]
    split at member
    · cases member
    · exact List.mem_cons_of_mem _ member
    · exact List.mem_cons_of_mem _ member

theorem heed_registry_rest (s : Session) (w : RegistryWait) (msg : Bytes) (entry : UInt32 × Recreatable)
    (member : entry ∈ (heedRegistry s w msg).control.rest) : entry ∈ s.graph.recipes := by
  unfold heedRegistry at member
  split at member
  · cases member
  · split at member
    · exact member
    · cases member

-- Only the beginning of the replay takes recipes in.
theorem transition_rest (transition : Transition env st event next) (entry : UInt32 × Recreatable)
    (member : entry ∈ next.control.rest) :
    (∀ direction, st.control ≠ .relaying direction) ∧ (entry ∈ st.control.rest ∨ entry ∈ st.session.graph.recipes) := by
  cases transition with
  | readAck | ackGone | readConfigure | configureGone | configureLapse | ackLapse => exact ⟨nofun, .inl member⟩
  | readClient | clientGone | readRegistry | registryGone | readHost | hostGone | relayed | relayDone => cases member
  | skimRegistry s w ambient msg =>
      have recorded := heed_registry_rest _ w msg entry member
      exact ⟨nofun, .inr recorded⟩
  | skimConfigure s h r ambient msg =>
      rw [(heed_configure_leaves env.protocol _ h r msg).2.1] at member
      exact ⟨nofun, .inl member⟩
  | skimAck s h r ambient msg =>
      rw [(heed_ack_leaves env.protocol _ h r msg).2.1] at member
      exact ⟨nofun, .inl member⟩
  | replayed s r ambient => exact ⟨nofun, .inl (replay_turn_rest _ _ _ _ entry member)⟩
  | reconnect s ambient outcomes =>
      rw [begin_recovery_rest] at member
      cases member
  | cached s control =>
      refine ⟨fun direction relaying => ?_, .inl member⟩
      have same : control = .relaying direction := relaying
      rw [same] at member
      cases member

theorem transition_entitled (transition : Transition env st event next) (entitled : Entitled st) : Entitled next := by
  intro entry member
  obtain ⟨unrelayed, rest | graph⟩ := transition_rest transition entry member
  · rw [unrelayed_graph transition unrelayed]
    exact entitled entry rest
  · rw [unrelayed_graph transition unrelayed]
    exact graph

theorem entitled_invariant {initial : State} {events : List Event} (run : Runs (step env) (fun _ _ => True) initial events st)
    (idle : initial.control.rest = []) : Entitled st := by
  refine run.invariant Entitled (fun entry member => ?_) fun s event next before _ taken =>
    transition_entitled (step_transition env s event next taken) before
  rw [idle] at member
  cases member

theorem naming_stores (covered : Covered env.protocol) (transition : Transition env st event next) (g : UInt32) (appId : String)
    (named : naming env st event = some (g, appId)) : Stores next.session.graph g appId := by
  obtain ⟨ambient, rfl, relaying, msg, consumed, taken, names⟩ := naming_requests g appId named
  cases transition with
  | relayed s next direction ambient disposal turned =>
      cases relaying
      obtain ⟨msg', consumed', handled, taken', long, turn, rfl⟩ := relay_turn_request env covered ambient s next disposal turned
      rw [taken'] at taken
      cases taken
      have stores := request_turn_stores covered turn g appId names
      exact stores
  | relayDone s direction ambient starved =>
      cases relaying
      rw [show takeMessage s.gtk.readBuf = none from starved] at taken
      cases taken
  | _ => cases relaying

end Steps

-- What becomes of a client's set_app_id: its id is corrected, if at all, to an
-- installed one, passed on in a message that differs in nothing else, and kept.
structure Amends (p : Protocol) (dirs : List Directory) (ambient : Ambient) (s next : Session) (msg : Bytes) (toplevel : UInt32)
    (given forwarded : String) : Prop where
  corrects : Corrects dirs ambient.clientBinary given forwarded
  again : forwardedAppId ⟨p, DesktopAppIndex.buildFromDirs dirs⟩ ambient forwarded = forwarded
  passed : ∀ sent, PassesOn s next sent → sent.peer = .host ∧ PassesAppId s.objects msg sent.msg given forwarded
  stored : Stores next.graph toplevel forwarded

-- What the replay of a toplevel's recipe tells a new compositor.
structure Renews (p : Protocol) (guestId : UInt32) (appId : Option String) (s next : Session) : Prop where
  carries : Adds (Traffic.Carries p appId) s next
  sets : ∀ text, appId = some text → next.objects.hostId guestId ≠ s.objects.hostId guestId →
    next.objects.interface guestId = some ⟨"xdg_toplevel"⟩ →
      ∃ added m, next.trace = s.trace ++ added ∧ .sent m ∈ added ∧ m.peer = .host ∧ m.interface = ⟨"xdg_toplevel"⟩ ∧ m.setsAppId p ∧
        next.objects.hostId guestId = some (senderOf m.msg)

structure AppIdsKept (p : Protocol) (dirs : List Directory) (initial : State) (events : List Event) (st : State) : Prop where
  request : ∀ ambient next msg consumed m given stop, st.control = .relaying .clientToHost →
    takeMessage st.session.gtk.readBuf = some (msg, consumed) → Resolved p st.session.objects .clientToHost (headerOf msg) msg m →
    m.isRequest "xdg_toplevel" "set_app_id" = true → readStr (msg.drop headerLen) 0 = some (given, stop) →
    step ⟨p, DesktopAppIndex.buildFromDirs dirs⟩ st (.turn ambient) = some next →
      ∃ forwarded, naming ⟨p, DesktopAppIndex.buildFromDirs dirs⟩ st (.turn ambient) = some (m.sender, forwarded) ∧
        Amends p dirs ambient st.session next.session msg m.sender given forwarded
  recipes : ∀ entry ∈ st.session.graph.recipes, ∀ appId, entry.2.appId = some appId →
    NamedIn ⟨p, DesktopAppIndex.buildFromDirs dirs⟩ initial st events (fun _ _ => True) entry.1 appId
  latest : ∀ g appId, appIdFor st.session.graph g = some appId →
    NamedIn ⟨p, DesktopAppIndex.buildFromDirs dirs⟩ initial st events
      (fun s event => ∀ other, naming ⟨p, DesktopAppIndex.buildFromDirs dirs⟩ s event ≠ some (g, other)) g appId
  replayed : ∀ r g parent title appId rest ambient next, st.control = .replaying r →
    r.rest = (g, .xdgToplevel parent title appId) :: rest →
    step ⟨p, DesktopAppIndex.buildFromDirs dirs⟩ st (.turn ambient) = some next →
      (g, .xdgToplevel parent title appId) ∈ st.session.graph.recipes ∧ Renews p g appId st.session next.session

section Correction

variable (p : Protocol) (covered : Covered p) (dirs : List Directory)

include covered

theorem replay_turn_renews (order : HashOrder) (s : Session) (r : Replay) (g parent : UInt32) (title appId : Option String)
    (rest : List (UInt32 × Recreatable)) (more : r.rest = (g, .xdgToplevel parent title appId) :: rest)
    (short : ∀ known, appId = some known → (putStr [] known).length ≤ 65527) :
    Renews p g appId s (replayTurn p order s r).session := by
  have renews : ∀ t handshake, recreateXdgToplevel p s g parent title appId = some (t, handshake) → Renews p g appId s t := by
    intro t handshake result
    refine ⟨recreate_xdg_toplevel_carries covered s g parent title appId t handshake result short, fun text known moved kind => ?_⟩
    cases known
    exact recreate_xdg_toplevel_sets covered s g parent title text t handshake result moved kind
  simp only [replayTurn, more, replayRecipe]
  split
  · exact ⟨.same rfl, fun _ _ moved => absurd rfl moved⟩
  · rename_i t replayed
    exact renews t none replayed
  · rename_i t h replayed
    exact renews t (some h) replayed

theorem set_app_id_amends (st next : State) (ambient : Ambient) (msg : Bytes) (consumed : Nat) (m : Inbound) (given : String)
    (stop : Nat) (relaying : st.control = .relaying .clientToHost)
    (taken : takeMessage st.session.gtk.readBuf = some (msg, consumed))
    (resolved : Resolved p st.session.objects .clientToHost (headerOf msg) msg m)
    (names : m.isRequest "xdg_toplevel" "set_app_id" = true) (read : readStr (msg.drop headerLen) 0 = some (given, stop))
    (stepped : step ⟨p, DesktopAppIndex.buildFromDirs dirs⟩ st (.turn ambient) = some next) :
    ∃ forwarded, naming ⟨p, DesktopAppIndex.buildFromDirs dirs⟩ st (.turn ambient) = some (m.sender, forwarded) ∧
      Amends p dirs ambient st.session next.session msg m.sender given forwarded := by
  have named : naming ⟨p, DesktopAppIndex.buildFromDirs dirs⟩ st (.turn ambient) =
      some (m.sender, forwardedAppId ⟨p, DesktopAppIndex.buildFromDirs dirs⟩ ambient given) := by
    simp only [naming, relaying, taken, Option.bind_some]
    rw [naming_of_resolved ⟨p, DesktopAppIndex.buildFromDirs dirs⟩ ambient _ msg m resolved, Inbound.names, if_pos names, read]
    rfl
  have transition := step_transition ⟨p, DesktopAppIndex.buildFromDirs dirs⟩ st (.turn ambient) next stepped
  refine ⟨_, named, forwarded_app_id_corrects p dirs ambient given, forwarded_app_id_settled p dirs ambient given, ?_,
    naming_stores covered transition _ _ named⟩
  cases transition with
  | relayed s next direction ambient disposal turned =>
      cases relaying
      exact app_id_turn_passes p covered dirs ambient s next disposal msg consumed taken turned m resolved names given stop read
  | relayDone s direction ambient starved =>
      cases relaying
      rw [show takeMessage s.gtk.readBuf = none from starved] at taken
      cases taken
  | _ => cases relaying

theorem app_ids_kept (gtkOutcomes hostOutcomes : List WriteOutcome) (cache : ClipboardCache) (events : List Event) (st : State)
    (run : Runs (step ⟨p, DesktopAppIndex.buildFromDirs dirs⟩) (fun _ _ => True) (start gtkOutcomes hostOutcomes cache) events st) :
    AppIdsKept p dirs (start gtkOutcomes hostOutcomes cache) events st where
  request ambient next msg consumed m given stop relaying taken resolved names read stepped :=
    set_app_id_amends p covered dirs st next ambient msg consumed m given stop relaying taken resolved names read stepped
  recipes entry member appId held := recipes_named covered run rfl entry member appId held
  latest g appId held := latest_named covered run rfl g appId held
  replayed r g parent title appId rest ambient next replaying more stepped := by
    have entitled := entitled_invariant run rfl (g, .xdgToplevel parent title appId)
      (by rw [replaying, Control.rest, more]; exact List.mem_cons_self)
    refine ⟨entitled, ?_⟩
    have short : ∀ known, appId = some known → (putStr [] known).length ≤ 65527 := by
      intro known held
      obtain ⟨before, s, event, s', after, -, -, names, -, -⟩ := recipes_named covered run rfl _ entitled known held
      exact naming_short p covered dirs s event g known names
    have turned : step ⟨p, DesktopAppIndex.buildFromDirs dirs⟩ st (.turn ambient) =
        some (replayTurn p ambient.order st.session r) := by
      obtain ⟨session, control⟩ := st
      cases replaying
      rfl
    cases turned.symm.trans stepped
    exact replay_turn_renews p covered ambient.order st.session r g parent title appId rest more short

end Correction

def tilixDirs : List Directory :=
  [none, some [none, some ⟨some ⟨"com.gexperts.Tilix.desktop", by decide +kernel⟩,
    some "[Desktop Entry]\nName=Tilix\nExec=/usr/bin/tilix --gapplication-service\n"⟩]]

def fromTilix : Ambient := { ordinary with clientBinary := some "tilix" }

-- The terminal names its toplevel after its binary, then the compositor is
-- replaced by another that has all it bound.
def tilixRecovery : List Event :=
  .gtkReadable (.data (openWindow ++ buildMessage 9 3 (putStr [] "tilix")) []) :: List.replicate 10 (.turn fromTilix) ++
    [.hostReadable .error, reconnectCore, .hostReadable (.data (globalEvent 1 "wl_compositor" ++ globalEvent 2 "xdg_wm_base" ++
      globalEvent 3 "wl_seat" ++ registryDone) [])] ++ turns 10

def tilixToplevel : UInt32 × Recreatable := (9, .xdgToplevel 8 none (some "com.gexperts.Tilix"))

-- The new compositor hears the id that is installed.
theorem app_ids_kept_tilix : ∃ st next added m stop,
    Runs (step ⟨coreProtocol, DesktopAppIndex.buildFromDirs tilixDirs⟩) (fun _ _ => True) coreStart tilixRecovery st ∧
      step ⟨coreProtocol, DesktopAppIndex.buildFromDirs tilixDirs⟩ st (.turn ordinary) = some next ∧
      next.session.trace = st.session.trace ++ added ∧ .sent m ∈ added ∧ m.setsAppId coreProtocol ∧
      readStr (m.msg.drop headerLen) 0 = some ("com.gexperts.Tilix", stop) := by
  have fold : ((tilixRecovery.foldlM (step ⟨coreProtocol, DesktopAppIndex.buildFromDirs tilixDirs⟩) coreStart).bind fun st =>
      (step ⟨coreProtocol, DesktopAppIndex.buildFromDirs tilixDirs⟩ st (.turn ordinary)).map fun next =>
        (st.control.isReplaying [tilixToplevel],
          decide (next.session.objects.hostId 9 ≠ st.session.objects.hostId 9),
          decide (next.session.objects.interface 9 = some ⟨"xdg_toplevel"⟩))) = some (true, true, true) := by decide +kernel
  obtain ⟨st, reached, rest⟩ := Option.bind_eq_some_iff.mp fold
  obtain ⟨next, stepped, facts⟩ := Option.map_eq_some_iff.mp rest
  simp only [Prod.mk.injEq, decide_eq_true_eq] at facts
  obtain ⟨left, moved, kind⟩ := facts
  have run := Runs.of_fold reached
  have kept := app_ids_kept coreProtocol core_covered tilixDirs [] [] ClipboardCache.new tilixRecovery st run
  obtain ⟨r, control, more⟩ := Control.is_replaying left
  obtain ⟨-, ⟨added, carries, grown⟩, sets⟩ := kept.replayed r 9 8 none _ [] ordinary next control more stepped
  obtain ⟨added', m, grown', member, -, -, renames, -⟩ := sets _ rfl moved kind
  cases List.append_cancel_left (grown'.symm.trans grown)
  obtain ⟨text, stop, known, -, read⟩ := carries (.sent m) member renames
  cases known
  exact ⟨st, next, added, m, stop, run, stepped, grown, member, renames, read⟩

end WlResprox
