import WlResprox.Splices
import WlResprox.Tending

set_option autoImplicit false

namespace WlResprox

-- The compositor names new objects by ids of its own range.
def HostPicks (env : Env) (st : State) (event : Event) : Prop :=
  match event, st.control with
  | .turn _, .relaying .hostToClient => ∀ msg consumed, takeMessage st.session.host.readBuf = some (msg, consumed) →
      ∀ guest interface newId, st.session.objects.guestId (senderOf msg) = some guest →
        st.session.objects.interface guest = some interface →
        (decode env.protocol .hostToClient interface msg).bind Call.newId = some newId → serverIds ≤ newId.toNat
  | _, _ => True

-- The connection has ids left below that range for a splice.
def Roomy (env : Env) (st : State) (event : Event) : Prop :=
  HostPicks env st event ∧ st.session.objects.nextHostId.toNat + 3 ≤ serverIds

-- Every splice so far lies before the end of the last recovery.
def Rested (past : List Traffic) : Prop :=
  ∀ before between bind, past = before ++ .sent bind :: between → BindsOwn bind → .resumed ∈ between

-- A splice follows a recovery, and its serial is one the current connection sent.
def SpliceLaw (past : List Traffic) : Traffic → Prop
  | .sent m => m.peer = .host → m.origin = .own →
      (m.interface = wlRegistry → Rested past) ∧
        (m.interface = wlDataDevice → ∃ raw, .took .host raw ∈ connection past ∧ wordAt m.msg (headerLen + 4) = wordAt raw headerLen)
  | _ => True

structure Intercepting (p : Protocol) (st : State) : Prop where
  spaced : Spaced st.session.reclaim.activeSourceHostId st.session.objects
  registry : ∀ w, st.control = .awaitingRegistry w →
    st.session.reclaim.activeSourceHostId = none ∧ w.registryHostId.toNat < st.session.objects.nextHostId.toNat
  source : ∀ id, st.session.reclaim.activeSourceHostId = some id →
    ∃ m, .sent m ∈ connection st.session.trace ∧ CreatesSource p id m
  requests : Lawful SpliceLaw [] st.session.trace
  rested : st.session.reclaim.pending = true → Rested st.session.trace

theorem unspliced_goes (entry : Traffic) (unspliced : entry.Unspliced) : entry ≠ .reconnected := by
  rintro rfl
  exact unspliced

theorem selects_goes {serial : UInt32} (entry : Traffic) (selects : Selects serial entry) : entry ≠ .reconnected := by
  rintro rfl
  exact selects

theorem splice_requests_go {serial : UInt32} {added : List Traffic} (requests : SpliceRequests serial added) :
    ∀ entry ∈ added, entry ≠ .reconnected := by
  cases requests with
  | nothing => exact nofun
  | bound bind rest binds selects =>
      rintro entry (_ | ⟨_, member⟩)
      · exact nofun
      · exact selects_goes entry (selects entry member)

theorem unspliced_lawful (past : List Traffic) (entry : Traffic) (unspliced : entry.Unspliced) : SpliceLaw past entry := by
  cases entry with
  | sent m =>
      intro toHost own
      rw [unspliced toHost own]
      exact ⟨fun other => absurd other (by decide), fun other => absurd other (by decide)⟩
  | _ => trivial

theorem unspliced_all_lawful (past added : List Traffic) (unspliced : ∀ entry ∈ added, entry.Unspliced) :
    Lawful SpliceLaw past added :=
  lawful_of_each _ _ _ fun before entry after split => unspliced_lawful _ _ (unspliced entry (by simp [split]))

-- A splice's requests keep the law when the last splice is a recovery ago.
theorem splice_requests_lawful (past added : List Traffic) (raw : Bytes) (heard : .took .host raw ∈ connection past)
    (rested : Rested past) (requests : SpliceRequests (wordAt raw headerLen) added) : Lawful SpliceLaw past added := by
  cases requests with
  | nothing => trivial
  | bound bind rest binds selects =>
      obtain ⟨toHost, own, registry⟩ := binds
      refine ⟨fun _ _ => ⟨fun _ => rested, fun other => absurd (registry.symm.trans other) (by decide)⟩,
        lawful_of_each _ _ _ fun before entry after split => ?_⟩
      have fine := selects entry (by simp [split])
      cases entry with
      | sent m =>
          obtain ⟨-, -, listed, serial⟩ := fine
          refine fun _ _ => ⟨fun other => ?_, fun device => ⟨raw, ?_, serial device⟩⟩
          · rw [other] at listed
            exact absurd listed (by decide)
          · rw [List.append_assoc, connection_append past _ ?_]
            · exact List.mem_append_left _ heard
            · rintro entry (_ | ⟨_, member⟩)
              · exact nofun
              · have inside : entry ∈ before := member
                exact selects_goes entry (selects entry (by simp [split, inside]))
      | _ => trivial

theorem Rested.later {past added : List Traffic} (rested : Rested past) (quiet : ∀ m, .sent m ∈ added → ¬ BindsOwn m) :
    Rested (past ++ added) := by
  intro before between bind split binds
  obtain ⟨middle, rfl, is⟩ | ⟨middle, rfl, is⟩ := List.append_eq_append_iff.mp split
  · exact absurd binds (quiet bind (by simp [is]))
  · cases middle with
    | nil =>
        have inside : .sent bind ∈ added := by
          rw [← List.nil_append added, ← is]
          exact List.mem_cons_self
        exact absurd binds (quiet bind inside)
    | cons first rest =>
        obtain ⟨rfl, rfl⟩ := List.cons.inj is
        exact List.mem_append_left _ (rested before rest bind rfl binds)

theorem unspliced_binds {added : List Traffic} (unspliced : ∀ entry ∈ added, entry.Unspliced) (m : Sent) (member : .sent m ∈ added) :
    ¬ BindsOwn m := by
  rintro ⟨toHost, own, registry⟩
  have display := unspliced _ member toHost own
  rw [registry] at display
  exact absurd display (by decide)

-- The end of a recovery rests every splice before it.
theorem rested_of_resumed (past : List Traffic) : Rested (past ++ [.resumed]) := by
  intro before between bind split binds
  rcases List.eq_nil_or_concat between with rfl | ⟨rest, last, rfl⟩
  · have ends := List.append_inj_right' split rfl
    cases ends
  · rw [List.concat_eq_append] at split ⊢
    rw [← List.cons_append, ← List.append_assoc] at split
    have ends := List.append_inj_right' split rfl
    cases ends
    simp

-- A stretch of the code that has nothing to do with the splice.
structure StaysOut (spent : Nat) (s next : Session) : Prop where
  rations : Rations spent s next
  reclaim : next.reclaim = s.reclaim
  adds : Adds Traffic.Unspliced s next

namespace StaysOut

variable {spent more : Nat} {s s' s'' : Session}

theorem same (objects : s'.objects = s.objects) (reclaim : s'.reclaim = s.reclaim) (adds : Adds Traffic.Unspliced s s') :
    StaysOut 0 s s' := ⟨.same objects reclaim, reclaim, adds⟩

theorem unspent (first : StaysOut spent s s') (second : StaysOut 0 s' s'') : StaysOut spent s s'' :=
  ⟨first.rations.unspent second.rations, second.reclaim.trans first.reclaim, first.adds.trans second.adds⟩

theorem before (first : StaysOut 0 s s') (second : StaysOut spent s' s'') : StaysOut spent s s'' :=
  ⟨by simpa using first.rations.trans second.rations, second.reclaim.trans first.reclaim, first.adds.trans second.adds⟩

theorem ended (s : Session) (peer : Peer) : StaysOut 0 s (endWait s peer) := .same rfl rfl (.ended s peer fun _ => trivial)

theorem took (s : Session) (peer : Peer) (consumed : Nat) (msg : Bytes) : StaysOut 0 s (skimmed s peer consumed msg) :=
  .same rfl rfl (.skimmed s peer consumed msg trivial)

theorem wrote {peer : Peer} {origin : Origin} {interface : Interface} {msg : Bytes} {fds : List Fd} {done : Bool}
    (result : s.writeMessage peer origin interface msg fds = (done, s')) (other : origin ≠ .own) : StaysOut 0 s s' := by
  cases result
  exact .same rfl rfl (.wrote rfl fun _ _ own => absurd own other)

end StaysOut

section Waits

variable (p : Protocol) (s : Session)

theorem heed_configure_stays_out (h : Handshake) (r : Replay) (msg : Bytes) : StaysOut 0 s (heedConfigure p s h r msg).session := by
  unfold heedConfigure
  split
  · split
    · rename_i written wrote
      exact .wrote wrote nofun
    · rename_i failed wrote
      exact (StaysOut.wrote wrote nofun).unspent (.ended _ .host)
  · split
    · split
      · rename_i written wrote
        exact (StaysOut.wrote wrote nofun).unspent (.ended _ .host)
      · rename_i failed wrote
        exact (StaysOut.wrote wrote nofun).unspent (.ended _ .host)
    · exact .same rfl rfl (.same rfl)

theorem heed_ack_stays_out (h : Handshake) (r : Replay) (msg : Bytes) : StaysOut 0 s (heedAck p s h r msg).session := by
  unfold heedAck
  split
  · have acked : StaysOut 0 s (s.writeMessage .host .relayed h.xdgSurface
        (buildMessage h.xdgSurfaceHostId (opcodeOfMessage msg) (msg.drop headerLen)) []).2 := .wrote rfl nofun
    exact acked.unspent (.ended _ .gtk)
  · exact .same rfl rfl (.same rfl)

theorem replay_recipe_stays_out (covered : Covered p) (r : Replay) (guestId : UInt32) (recipe : Recreatable) (next : Session)
    (handshake : Option Handshake)
    (result : replayRecipe p r.globals r.registry r.registryHostId s guestId recipe = some (next, handshake)) : StaysOut 2 s next where
  rations := .table (replay_recipe_frame p s _ _ _ _ _ _ _ result).kept.reclaim
    (replay_recipe_counts covered s next guestId r.globals r.registry r.registryHostId recipe handshake result)
  reclaim := (replay_recipe_frame p s _ _ _ _ _ _ _ result).kept.reclaim
  adds := (replay_recipe_frame p s _ _ _ _ _ _ _ result).frame.adds fun entry fine => by
    cases entry with
    | sent m => exact fun _ own => absurd (fine.2.symm.trans own) nofun
    | _ => exact fine.elim

theorem fold_reclaim {β : Type} (f : Session → β → Session) (each : ∀ s b, (f s b).reclaim = s.reclaim) (rows : List β) (s : Session) :
    (rows.foldl f s).reclaim = s.reclaim := by
  induction rows generalizing s with
  | nil => rfl
  | cons b rest ih => exact (ih (f s b)).trans (each s b)

theorem grab_fold_reclaim {β : Type} (f : UInt32 × Session → β → UInt32 × Session)
    (each : ∀ st b, (f st b).2.reclaim = st.2.reclaim) (rows : List β) (st : UInt32 × Session) :
    (rows.foldl f st).2.reclaim = st.2.reclaim := by
  induction rows generalizing st with
  | nil => rfl
  | cons b rest ih => exact (ih (f st b)).trans (each st b)

theorem grab_event_reclaim (guestId : UInt32) (interface : Interface) (event : String) (rest : Bytes) (st : UInt32 × Session) :
    (grabEvent p guestId interface event rest st).2.reclaim = st.2.reclaim := by
  unfold grabEvent
  split
  · rfl
  · exact tell_client_reclaim st.2 p _ _ _ _

theorem synthesize_grab_releases_reclaim (order : HashOrder) : (synthesizeGrabReleases p order s).reclaim = s.reclaim := by
  have pointers := grab_fold_reclaim (releasePointerGrab p) (fun st grab => by
    unfold releasePointerGrab
    split
    · rfl
    · refine (grab_fold_reclaim _ (fun st button => grab_event_reclaim p _ _ _ _ st) _ _).trans ?_
      split
      · rfl
      · exact grab_event_reclaim p _ _ _ _ st) (s.grabs.activePointerGrabs order) (1, s)
  have keyboards := grab_fold_reclaim (releaseKeyboardGrab p) (fun st grab => by
    unfold releaseKeyboardGrab
    split
    · rfl
    · exact grab_event_reclaim p _ _ _ _ st) (s.grabs.activeKeyboardGrabs order)
    ((s.grabs.activePointerGrabs order).foldl (releasePointerGrab p) (1, s))
  exact keyboards.trans pointers

theorem synthesize_grab_releases_stays_out (order : HashOrder) : StaysOut 0 s (synthesizeGrabReleases p order s) :=
  .same (synthesize_grab_releases_objects p order s) (synthesize_grab_releases_reclaim p s order)
    ((synthesize_grab_releases_frame p s order).adds tells_unspliced)

-- Recovery ends by putting a splice off to the next input event.
theorem settle_recovery_spliced (order : HashOrder) (globals : Globals) :
    (settleRecovery p order globals s).reclaim.activeSourceHostId = s.reclaim.activeSourceHostId ∧
      Adds Traffic.Unspliced s (settleRecovery p order globals s) := by
  refine ⟨?_, (settle_recovery_frame p s order globals).adds tells_unspliced⟩
  have released : (drainInFlight p order s).reclaim = s.reclaim := fold_reclaim (releaseInFlight p) (fun s buffer => by
    unfold releaseInFlight
    split
    · exact tell_client_reclaim s p _ _ _ _
    · rfl) _ _
  have answered : (drainAwaitingDone p order (drainInFlight p order s)).reclaim = (drainInFlight p order s).reclaim :=
    fold_reclaim (synthesizeFrameDone p) (fun s callback => synthesize_frame_done_reclaim s p callback) _ _
  have kept : (drainAwaitingDone p order (drainInFlight p order s)).reclaim.activeSourceHostId = s.reclaim.activeSourceHostId :=
    congrArg _ (answered.trans released)
  exact kept

theorem ask_for_globals_asks (registryGuestId : UInt32) :
    (askForGlobals s registryGuestId).2.reclaim = s.reclaim ∧ Adds Traffic.Unspliced s (askForGlobals s registryGuestId).2 := by
  refine ⟨?_, ask_for_globals_adds s (fun _ _ _ _ _ => rfl) registryGuestId⟩
  simp only [askForGlobals]
  split
  · rename_i failed wrote
    cases (Prod.ext_iff.mp wrote).2
    rfl
  · rename_i asked wrote
    cases (Prod.ext_iff.mp wrote).2
    rfl

end Waits

theorem bump_spaced (t : ShadowTable) : Spaced none t.bumpGeneration where
  counter := Nat.le_refl 2
  pairs h g named held := by
    obtain ⟨-, rfl⟩ := (ShadowTable.guest_id_bump t g h named).mp held
    exact .inl Nat.one_lt_two
  issued := nofun
  apart := nofun

section Steps

variable {env : Env} {st next : State} {event : Event}

theorem Intercepting.history {p : Protocol} (inv : Intercepting p st) (adds : Adds Traffic.Unspliced st.session next.session) :
    (∀ id, st.session.reclaim.activeSourceHostId = some id → ∃ m, .sent m ∈ connection next.session.trace ∧ CreatesSource p id m) ∧
      Lawful SpliceLaw [] next.session.trace := by
  obtain ⟨added, unspliced, grown⟩ := adds
  have goes := fun entry member => unspliced_goes entry (unspliced entry member)
  rw [grown, connection_append _ _ goes, lawful_append]
  refine ⟨fun id kept => ?_, inv.requests, unspliced_all_lawful _ _ unspliced⟩
  obtain ⟨m, member, creates⟩ := inv.source id kept
  exact ⟨m, List.mem_append_left _ member, creates⟩

theorem Intercepting.onward {p : Protocol} {spent : Nat} (inv : Intercepting p st)
    (room : st.session.objects.nextHostId.toNat + spent ≤ serverIds) (stays : StaysOut spent st.session next.session)
    (registry : ∀ w, next.control = .awaitingRegistry w → next.session.objects = st.session.objects ∧
      ∃ w', st.control = .awaitingRegistry w' ∧ w'.registryHostId = w.registryHostId) : Intercepting p next := by
  obtain ⟨source, requests⟩ := inv.history stays.adds
  refine ⟨(stays.rations room inv.spaced).1, fun w waits => ?_, fun id kept => ?_, requests, fun pending => ?_⟩
  · obtain ⟨same, w', waited, id⟩ := registry w waits
    rw [stays.reclaim, same, ← id]
    exact inv.registry w' waited
  · rw [stays.reclaim] at kept
    exact source id kept
  · obtain ⟨added, unspliced, grown⟩ := stays.adds
    rw [stays.reclaim] at pending
    rw [grown]
    exact (inv.rested pending).later (unspliced_binds unspliced)

theorem Intercepting.heard {p : Protocol} (inv : Intercepting p st)
    (room : st.session.objects.nextHostId.toNat + 3 ≤ serverIds) (msg : Bytes) (last : .took .host msg ∈ connection st.session.trace)
    (hears : Hears p (wordAt msg headerLen) st.session next.session) (idle : ∀ w, next.control ≠ .awaitingRegistry w) :
    Intercepting p next := by
  cases hears with
  | quietly rations pending source adds =>
      obtain ⟨earlier, requests⟩ := inv.history adds
      refine ⟨(rations (by omega) inv.spaced).1, fun w waits => absurd waits (idle w), fun id kept => ?_, requests, fun due => ?_⟩
      · obtain same | ended := source
        · rw [same] at kept
          exact earlier id kept
        · rw [ended] at kept
          cases kept
      · obtain ⟨added, unspliced, grown⟩ := adds
        rw [pending] at due
        rw [grown]
        exact (inv.rested due).later (unspliced_binds unspliced)
  | attempted was spent rations requests more grown asks unspliced source =>
      have goes := splice_requests_go asks
      have goes' := fun entry member => unspliced_goes entry (unspliced entry member)
      rw [← List.append_assoc] at grown
      refine ⟨(rations room inv.spaced).1, fun w waits => absurd waits (idle w), fun id kept => ?_, ?_, fun due => ?_⟩
      · rw [grown, connection_append _ _ goes', connection_append _ _ goes]
        obtain before | ⟨m, member, creates⟩ := source id kept
        · obtain ⟨m, member, creates⟩ := inv.source id before
          exact ⟨m, List.mem_append_left _ (List.mem_append_left _ member), creates⟩
        · exact ⟨m, List.mem_append_left _ (List.mem_append_right _ member), creates⟩
      · rw [grown, lawful_append, lawful_append]
        exact ⟨⟨inv.requests, splice_requests_lawful _ _ msg last (inv.rested was) asks⟩, unspliced_all_lawful _ _ unspliced⟩
      · rw [spent] at due
        cases due

theorem Intercepting.recontrolled {p : Protocol} {s : Session} {control control' : Control} (inv : Intercepting p ⟨s, control⟩)
    (registry : ∀ w, control' = .awaitingRegistry w →
      s.reclaim.activeSourceHostId = none ∧ w.registryHostId.toNat < s.objects.nextHostId.toNat) : Intercepting p ⟨s, control'⟩ :=
  ⟨inv.spaced, registry, inv.source, inv.requests, inv.rested⟩

theorem resume_stays_out (p : Protocol) (order : HashOrder) (s : Session) : StaysOut 0 s (resume p order s).session := by
  have told := synthesize_grab_releases_stays_out p s order
  exact told.unspent (.same rfl rfl (Adds.log _ .resumed trivial))

-- A new connection has no source, and nothing of the old one is left in its table.
theorem begin_recovery_intercepting (p : Protocol) (order : HashOrder) (s : Session) (outcomes : List WriteOutcome) (control : Control)
    (inv : Intercepting p ⟨s, control⟩) : Intercepting p (beginRecovery p order (reconnected s outcomes)) := by
  let begun := { reconnected s outcomes with reclaim := { s.reclaim with activeSourceHostId := none } }
  have started : Intercepting p ⟨begun, .selecting⟩ := by
    refine ⟨bump_spaced s.objects, nofun, nofun, ?_, fun due => ?_⟩
    · show Lawful SpliceLaw [] (s.trace ++ [.reconnected])
      rw [lawful_append]
      exact ⟨inv.requests, trivial, trivial⟩
    · exact (inv.rested due).later fun m member => by simp at member
  have room : begun.objects.nextHostId.toNat = 2 := rfl
  unfold beginRecovery
  dsimp only
  split
  · exact started.onward (by rw [room]; decide) (resume_stays_out p order begun) nofun
  · split
    · exact started.recontrolled nofun
    · rename_i registryGuestId _ _ registry _
      obtain ⟨reclaim, adds⟩ := ask_for_globals_asks begun registryGuestId
      have objects := ask_for_globals_objects begun registryGuestId
      have asks : StaysOut 2 begun (askForGlobals begun registryGuestId).2 :=
        ⟨.table reclaim (by rw [objects]; exact .trans (.allocated _) (.allocated _)), reclaim, adds⟩
      have asked : Intercepting p ⟨(askForGlobals begun registryGuestId).2, .selecting⟩ :=
        started.onward (by rw [room]; decide) asks nofun
      split
      · rename_i failed result
        rw [show askForGlobals begun registryGuestId = (false, failed) from result] at asked
        exact asked
      · rename_i waiting result
        rw [show askForGlobals begun registryGuestId = (true, waiting) from result] at asked reclaim objects
        refine asked.recontrolled ?_
        rintro w ⟨⟩
        refine ⟨by rw [reclaim], ?_⟩
        rw [objects]
        show (2 : UInt32).toNat < (4 : UInt32).toNat
        decide

-- What a step means to the splice, one constructor for each way it matters.
inductive SpliceStep (p : Protocol) : State → State → Prop where
  | staysOut (st next : State) (spent : Nat) (few : spent ≤ 3) (stays : StaysOut spent st.session next.session)
      (registry : ∀ w, next.control = .awaitingRegistry w → next.session.objects = st.session.objects ∧
        ∃ w', st.control = .awaitingRegistry w' ∧ w'.registryHostId = w.registryHostId) : SpliceStep p st next
  | heard (s next : Session) (msg : Bytes) (consumed : Nat) (hears : Hears p (wordAt msg headerLen) (s.log (.took .host msg)) next) :
      SpliceStep p ⟨s, .relaying .hostToClient⟩ ⟨next.drainBuf .host consumed, .relaying .hostToClient⟩
  | registryMapped (s : Session) (w : RegistryWait) (msg : Bytes) (consumed : Nat) (control : Control)
      (replays : ∀ w, control ≠ .awaitingRegistry w) :
      SpliceStep p ⟨s, .awaitingRegistry w⟩
        ⟨{ endWait (skimmed s .host consumed msg) .host with
          objects := s.objects.map w.registryGuestId w.registryHostId w.registry }, control⟩
  | resumed (s : Session) (r : Replay) (order : HashOrder) :
      SpliceStep p ⟨s, .replaying r⟩ (resume p order (settleRecovery p order r.globals s))
  | renewed (s : Session) (outcomes : List WriteOutcome) (order : HashOrder) :
      SpliceStep p ⟨s, .selecting⟩ (beginRecovery p order (reconnected s outcomes))

theorem relay_turn_splice_step (covered : Covered env.protocol) (serials : SerialsFirst env.protocol) (s next : Session)
    (direction : Direction) (ambient : Ambient) (disposal : Disposal)
    (picks : HostPicks env ⟨s, .relaying direction⟩ (.turn ambient))
    (turned : relayTurn env ambient direction s = some (disposal, next)) :
    SpliceStep env.protocol ⟨s, .relaying direction⟩ ⟨next, .relaying direction⟩ := by
  obtain ⟨msg, consumed, handled, taken, handling, rfl⟩ := relay_turn_some env ambient direction s next disposal turned
  have result := relay_message_handled env ambient direction (s.log (.took direction.src msg)) (headerOf msg) msg
  rw [handling] at result
  cases direction with
  | clientToHost =>
      obtain ⟨rations, reclaim, adds⟩ := handled_request_keeps env ambient _ msg covered disposal handled result
      have took : StaysOut 0 s (s.log (.took .gtk msg)) := .same rfl rfl (.log s _ trivial)
      have drained : StaysOut 0 handled (handled.drainBuf .gtk consumed) := .same rfl rfl (.same rfl)
      exact .staysOut _ _ 1 (by decide) ((took.before ⟨rations, reclaim, adds⟩).unspent drained) nofun
  | hostToClient =>
      have long : headerLen ≤ msg.length := by
        rw [take_message_length _ _ _ taken]
        exact (take_message_spec _ _ _ taken).1
      refine .heard s handled msg consumed ?_
      refine handled_event_hears env ambient _ msg covered serials long (fun m resolved newId named => ?_) disposal handled result
      exact picks msg consumed taken m.sender m.interface newId (resolved_event env _ _ msg m resolved rfl)
        (resolved_interface env _ _ msg m resolved) named

theorem transition_splice_step (covered : Covered env.protocol) (serials : SerialsFirst env.protocol)
    (transition : Transition env st event next) (picks : HostPicks env st event) : SpliceStep env.protocol st next := by
  have nothing : ∀ {s s' : Session} {control control' : Control}, s'.objects = s.objects → s'.reclaim = s.reclaim → s'.trace = s.trace →
      (∀ w, control' ≠ .awaitingRegistry w) → SpliceStep env.protocol ⟨s, control⟩ ⟨s', control'⟩ := fun objects reclaim trace idle =>
    .staysOut _ _ 0 (by decide) (.same objects reclaim (.same trace)) fun w waits => absurd waits (idle w)
  cases transition with
  | readClient | clientGone | readAck | readHost | readConfigure | relayDone => exact nothing rfl rfl rfl nofun
  | readRegistry s fill c w =>
      refine .staysOut _ _ 0 (by decide) (.same rfl rfl (.same rfl)) ?_
      rintro _ ⟨⟩
      exact ⟨rfl, w, rfl, rfl⟩
  | cached s control => exact .staysOut _ _ 0 (by decide) (.same rfl rfl (.same rfl)) fun w waits => ⟨rfl, w, waits, rfl⟩
  | ackGone s | ackLapse s | registryGone s | configureGone s | configureLapse s =>
      exact .staysOut _ _ 0 (by decide) (.ended s _) nofun
  | hostGone s fill thawed gone => exact .staysOut _ _ 0 (by decide) (.same rfl rfl (Adds.log s .lost trivial)) nofun
  | relayed s next direction ambient disposal turned =>
      exact relay_turn_splice_step covered serials s next direction ambient disposal picks turned
  | skimRegistry s w ambient msg consumed taken =>
      have waits : ∀ globals, SpliceStep env.protocol ⟨s, .awaitingRegistry w⟩
          ⟨skimmed s .host consumed msg, .awaitingRegistry { w with globals := globals }⟩ := fun globals =>
        .staysOut _ _ 0 (by decide) (.took s .host consumed msg) (by rintro _ ⟨⟩; exact ⟨rfl, w, rfl, rfl⟩)
      unfold heedRegistry
      split
      · exact waits _
      · split
        · exact .registryMapped s w msg consumed _ nofun
        · exact waits w.globals
  | skimConfigure s h r ambient msg consumed taken =>
      refine .staysOut _ _ 0 (by decide)
        ((StaysOut.took s .host consumed msg).unspent (heed_configure_stays_out env.protocol _ h r msg)) ?_
      intro w waits
      unfold heedConfigure at waits
      split at waits
      · split at waits <;> cases waits
      · split at waits
        · split at waits <;> cases waits
        · cases waits
  | skimAck s h r ambient msg consumed taken =>
      refine .staysOut _ _ 0 (by decide) ((StaysOut.took s .gtk consumed msg).unspent (heed_ack_stays_out env.protocol _ h r msg)) ?_
      intro w waits
      unfold heedAck at waits
      split at waits <;> cases waits
  | replayed s r ambient =>
      unfold replayTurn
      split
      · exact .resumed s r ambient.order
      · rename_i guestId recipe rest _
        split
        · exact nothing rfl rfl rfl nofun
        · rename_i t result
          exact .staysOut _ _ 2 (by decide) (replay_recipe_stays_out env.protocol s covered r guestId recipe t none result) nofun
        · rename_i t h result
          exact .staysOut _ _ 2 (by decide) (replay_recipe_stays_out env.protocol s covered r guestId recipe t (some h) result) nofun
  | reconnect s ambient outcomes frozen => exact .renewed s outcomes ambient.order

theorem splice_step_intercepting {p : Protocol} (spliced : SpliceStep p st next)
    (room : st.session.objects.nextHostId.toNat + 3 ≤ serverIds) (inv : Intercepting p st) : Intercepting p next := by
  have free : st.session.objects.nextHostId.toNat + 0 ≤ serverIds := by omega
  cases spliced with
  | staysOut _ _ spent few stays registry => exact inv.onward (by omega) stays registry
  | heard s next msg consumed hears =>
      have took : StaysOut 0 s (s.log (.took .host msg)) := .same rfl rfl (.log s _ trivial)
      have heard : Intercepting p ⟨s.log (.took .host msg), .relaying .hostToClient⟩ := inv.onward free took nofun
      have last : .took .host msg ∈ connection (s.log (.took .host msg)).trace := by
        show _ ∈ connection (s.trace ++ [.took .host msg])
        rw [connection_append _ _ (by simp)]
        simp
      have relayed : Intercepting p ⟨next, .relaying .hostToClient⟩ := heard.heard room msg last hears nofun
      exact ⟨relayed.spaced, nofun, relayed.source, relayed.requests, relayed.rested⟩
  | registryMapped s w msg consumed control replays =>
      obtain ⟨vacant, passed⟩ := inv.registry w rfl
      have ended : Intercepting p ⟨endWait (skimmed s .host consumed msg) .host, .selecting⟩ :=
        inv.onward free ((StaysOut.took s .host consumed msg).unspent (.ended _ .host)) nofun
      refine ⟨?_, fun w waits => absurd waits (replays w), ended.source, ended.requests, ended.rested⟩
      exact ended.spaced.mapped _ _ _ (.inl passed) fun kept => absurd (vacant.symm.trans kept) nofun
  | resumed s r order =>
      let settled := settleRecovery p order r.globals s
      obtain ⟨kept, adds⟩ := settle_recovery_spliced p s order r.globals
      have resumes := resume_stays_out p order settled
      have objects : settled.objects = s.objects := settle_recovery_objects p order s r.globals
      have source := (congrArg ReclaimState.activeSourceHostId resumes.reclaim).trans kept
      obtain ⟨earlier, requests⟩ := @Intercepting.history _ ⟨(resume p order settled).session, .selecting⟩ _ inv
        (adds.trans resumes.adds)
      refine ⟨?_, nofun, fun id live => earlier id (source.symm.trans live), requests, fun _ => rested_of_resumed _⟩
      refine (resumes.rations ?_ ?_).1
      · rw [objects]
        exact free
      · rw [objects, kept]
        exact inv.spaced
  | renewed s outcomes order => exact begin_recovery_intercepting p order s outcomes .selecting inv

theorem begin_recovery_pending (p : Protocol) (order : HashOrder) (s : Session) :
    (beginRecovery p order s).session.reclaim.pending = s.reclaim.pending := by
  let begun := { s with reclaim := { s.reclaim with activeSourceHostId := none } }
  unfold beginRecovery
  dsimp only
  split
  · have same : (resume p order begun).session.reclaim.pending = s.reclaim.pending := by
      rw [(resume_stays_out p order begun).reclaim]
    exact same
  · split
    · rfl
    · rename_i registryGuestId _ _ registry _
      have same : (askForGlobals begun registryGuestId).2.reclaim.pending = s.reclaim.pending := by
        rw [(ask_for_globals_asks begun registryGuestId).1]
      split
      · rename_i failed result
        rw [show askForGlobals begun registryGuestId = (false, failed) from result] at same
        exact same
      · rename_i waiting result
        rw [show askForGlobals begun registryGuestId = (true, waiting) from result] at same
        exact same

-- Only the end of a recovery has a splice attempted.
theorem splice_step_pending {p : Protocol} (spliced : SpliceStep p st next) (pending : next.session.reclaim.pending = true) :
    st.session.reclaim.pending = true ∨ ∃ before, next.session.trace = before ++ [.resumed] ∧ st.session.trace <+: before := by
  cases spliced with
  | staysOut _ _ spent few stays registry =>
      rw [stays.reclaim] at pending
      exact .inl pending
  | heard s next msg consumed hears =>
      cases hears with
      | quietly rations same source adds => exact .inl (same.symm.trans pending)
      | attempted was spent => exact absurd (spent.symm.trans pending) nofun
  | registryMapped s w msg consumed control replays => exact .inl pending
  | resumed s r order =>
      refine .inr ⟨_, rfl, ?_⟩
      obtain ⟨added, -, settled⟩ := (settle_recovery_spliced p s order r.globals).2
      obtain ⟨told, -, grown⟩ := (synthesize_grab_releases_stays_out p (settleRecovery p order r.globals s) order).adds
      show s.trace <+: (synthesizeGrabReleases p order (settleRecovery p order r.globals s)).trace
      rw [grown, settled, List.append_assoc]
      exact List.prefix_append _ _
  | renewed s outcomes order =>
      rw [begin_recovery_pending] at pending
      exact .inl pending

end Steps

-- What the interception of a source's events rests on at one moment of a run.
structure StealsNothing (p : Protocol) (st : State) : Prop where
  source : ∀ id, st.session.reclaim.activeSourceHostId = some id →
    ∃ m, .sent m ∈ connection st.session.trace ∧ CreatesSource p id m
  unshared : ∀ id guest, st.session.reclaim.activeSourceHostId = some id → st.session.objects.hostId guest ≠ some id
  intercepted : ∀ direction header, intercepts st.session direction header = true →
    direction = .hostToClient ∧ st.session.objects.guestId header.senderId = none
  requests : Lawful SpliceLaw [] st.session.trace

theorem Intercepting.steals_nothing {p : Protocol} {st : State} (inv : Intercepting p st) : StealsNothing p st where
  source := inv.source
  unshared id guest live := inv.spaced.unshared id live guest
  intercepted direction header intercepting := by
    obtain ⟨event, live⟩ : direction = .hostToClient ∧ some header.senderId = st.session.reclaim.activeSourceHostId := by
      simpa [intercepts] using intercepting
    exact ⟨event, inv.spaced.apart _ live.symm⟩
  requests := inv.requests

-- A splice is attempted while it is pending, and the attempt ends that.
def Attempts (st next : State) : Prop := st.session.reclaim.pending = true ∧ next.session.reclaim.pending = false

section Runs

variable (env : Env) (covered : Covered env.protocol) (serials : SerialsFirst env.protocol)

include covered serials

theorem intercepting_of_run (gtkOutcomes hostOutcomes : List WriteOutcome) (cache : ClipboardCache) (events : List Event) (st : State)
    (run : Runs (step env) (Roomy env) (start gtkOutcomes hostOutcomes cache) events st) : Intercepting env.protocol st := by
  refine run.invariant (Intercepting env.protocol) ?_ fun s event next inv roomy taken => ?_
  · refine ⟨⟨Nat.le_refl 2, fun h g named held => ?_, nofun, nofun⟩, nofun, nofun, trivial, nofun⟩
    obtain ⟨-, rfl⟩ | ⟨-, -, before⟩ := (ShadowTable.guest_id_map _ 1 1 g h wlDisplay named).mp held
    · exact .inl Nat.one_lt_two
    · simp [ShadowTable.guestId, named, BiMap.empty, BiMap.getByRight] at before
  · exact splice_step_intercepting (transition_splice_step covered serials (step_transition env s event next taken) roomy.1) roomy.2 inv

theorem pending_of_run (first last : State) (events : List Event) (run : Runs (step env) (Roomy env) first events last)
    (spent : first.session.reclaim.pending = false) : ∃ between, last.session.trace = first.session.trace ++ between ∧
      (last.session.reclaim.pending = true → .resumed ∈ between) := by
  induction run with
  | refl => exact ⟨[], by simp, fun pending => absurd (spent.symm.trans pending) nofun⟩
  | snoc events middle next event before roomy taken ih =>
      have transition := step_transition env middle event next taken
      obtain ⟨between, grown, due⟩ := ih
      obtain ⟨more, longer⟩ := transition_grows transition
      rw [grown, List.append_assoc] at longer
      refine ⟨between ++ more, longer.symm, fun pending => ?_⟩
      obtain earlier | ⟨upto, ends, rest, split⟩ := splice_step_pending (transition_splice_step covered serials transition roomy.1) pending
      · exact List.mem_append_left _ (due earlier)
      · rw [← longer, ← split, grown, List.append_assoc, List.append_assoc] at ends
        rw [List.append_cancel_left ends]
        simp

-- In every state of a run whose compositor keeps to its own ids, the source
-- whose events are intercepted is the proxy's own, of this connection, and no
-- object of the client's; splices are a recovery apart and use serials of the
-- connection they are made on.
theorem interception_steals_nothing (gtkOutcomes hostOutcomes : List WriteOutcome) (cache : ClipboardCache) (events : List Event)
    (st : State) (run : Runs (step env) (Roomy env) (start gtkOutcomes hostOutcomes cache) events st) :
    StealsNothing env.protocol st ∧
      ∀ event next later last, step env st event = some next → Attempts st next → Runs (step env) (Roomy env) next later last →
        (∃ event' after, step env last event' = some after ∧ Attempts last after) →
          ∃ between, last.session.trace = next.session.trace ++ between ∧ .resumed ∈ between := by
  refine ⟨(intercepting_of_run env covered serials gtkOutcomes hostOutcomes cache events st run).steals_nothing, ?_⟩
  rintro event next later last - ⟨-, spent⟩ onward ⟨_, _, -, due, -⟩
  obtain ⟨between, grown, resumed⟩ := pending_of_run env covered serials next last later onward spent
  exact ⟨between, grown, resumed due⟩

end Runs

theorem core_serials_first : SerialsFirst coreProtocol := by
  unfold SerialsFirst
  decide +kernel

def picksOwn (st : State) (event : Event) : Bool :=
  decide (st.session.objects.nextHostId.toNat + 3 ≤ serverIds) &&
  match event, st.control with
  | .turn _, .relaying .hostToClient =>
      match takeMessage st.session.host.readBuf with
      | none => true
      | some (msg, _) =>
          match (st.session.objects.guestId (senderOf msg)).bind st.session.objects.interface with
          | none => true
          | some interface => ((decode coreProtocol .hostToClient interface msg).bind Call.newId).all fun newId => decide (serverIds ≤ newId.toNat)
  | _, _ => true

theorem picks_own_sound (st : State) (event : Event) (checked : picksOwn st event = true) : Roomy coreEnv st event := by
  obtain ⟨room, names⟩ := Bool.and_eq_true_iff.mp checked
  refine ⟨?_, of_decide_eq_true room⟩
  unfold HostPicks
  split
  · rename_i ambient control
    intro msg consumed taken guest interface newId held known named
    simp only [control, taken, held, Option.bind_some, known] at names
    rw [show (decode coreProtocol .hostToClient interface msg).bind Call.newId = some newId from named] at names
    simpa using names
  · trivial

def seatWithPointer : Bytes := requestRegistry 2 ++ bindGlobal 1 "wl_seat" 3 ++ buildMessage 3 0 (putU32 [] 4)

def pointerPressed (serial : UInt32) : Bytes := buildMessage 5 3 (putU32 (putU32 (putU32 (putU32 [] serial) 0) 272) 1)

-- Something was copied before the compositor went away; the next button press
-- on the new connection has it offered again, by source 7.
def clipboardReclaimed : List Event :=
  .cached "text/plain" [104, 105] :: .gtkReadable (.data seatWithPointer []) :: turns 4 ++
    [.hostReadable .error, reconnectCore,
      .hostReadable (.data (globalEvent 1 "wl_seat" ++ globalEvent 2 "wl_data_device_manager" ++ registryDone) [])] ++ turns 6 ++
    [.hostReadable (.data (pointerPressed 9) [])] ++ turns 2

theorem interception_steals_nothing_reclaimed : ∃ st, Runs (step coreEnv) (Roomy coreEnv) coreStart clipboardReclaimed st ∧
    st.session.reclaim.activeSourceHostId = some 7 ∧ StealsNothing coreProtocol st := by
  have fold : (coreRun picksOwn clipboardReclaimed).map (fun st => st.session.reclaim.activeSourceHostId) = some (some 7) := by
    decide +kernel
  obtain ⟨st, reached, live⟩ := Option.map_eq_some_iff.mp fold
  have run := Runs.of_checked picksOwn picks_own_sound reached
  exact ⟨st, run, live, (interception_steals_nothing coreEnv core_covered core_serials_first [] [] ClipboardCache.new _ st run).1⟩

-- A compositor that names its own data offer by the id of the live source.
def offerUnderSource : List Event :=
  clipboardReclaimed ++ [.gtkReadable (.data (bindGlobal 2 "wl_data_device_manager" 5 ++
      buildMessage 5 1 (putU32 (putU32 [] 6) 3)) [])] ++ turns 3 ++
    [.hostReadable (.data (buildMessage 10 0 (putU32 [] 7) ++ buildMessage 7 0 (putStr [] "text/plain")) [])] ++ turns 1

-- Its offer is the client's object, and the events it sends there are taken away.
theorem offer_stolen : ∃ st, Runs (step coreEnv) (fun _ _ => True) coreStart offerUnderSource st ∧
    st.session.reclaim.activeSourceHostId = some 7 ∧ st.session.objects.hostId 0xff000000 = some 7 ∧
      st.session.objects.interface 0xff000000 = some ⟨"wl_data_offer"⟩ ∧
      (takeMessage st.session.host.readBuf).map (fun taken => intercepts st.session .hostToClient (headerOf taken.1)) = some true ∧
      ¬ StealsNothing coreProtocol st := by
  have fold : (coreRun unchecked offerUnderSource).map (fun st => (st.session.reclaim.activeSourceHostId,
      st.session.objects.hostId 0xff000000, st.session.objects.interface 0xff000000,
      (takeMessage st.session.host.readBuf).map fun taken => intercepts st.session .hostToClient (headerOf taken.1))) =
        some (some 7, some 7, some ⟨"wl_data_offer"⟩, some true) := by decide +kernel
  obtain ⟨st, reached, facts⟩ := Option.map_eq_some_iff.mp fold
  simp only [Prod.mk.injEq] at facts
  obtain ⟨live, held, offered, taken⟩ := facts
  exact ⟨st, unchecked_run reached, live, held, offered, taken, fun steals => steals.unshared 7 0xff000000 live held⟩

end WlResprox
