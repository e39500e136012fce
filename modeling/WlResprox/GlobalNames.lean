import WlResprox.Serials

set_option autoImplicit false

namespace WlResprox

-- The name and interface of a global event, which is a registry's event 0.
def readGlobal (msg : Bytes) : Option (UInt32 × String) :=
  match readU32 (msg.drop headerLen) 0, readStr (msg.drop headerLen) 4 with
  | some name, some (interface, _) => some (name, interface)
  | _, _ => none

def advert (l : Ledger) (msg : Bytes) : Option (UInt32 × String) :=
  if (l.objects (senderOf msg)).map HostObject.interface = some wlRegistry ∧ opcodeOfMessage msg = 0 then readGlobal msg else none

def noteAdvert (p : Protocol) (seen : Ledger × List (UInt32 × String)) (entry : Traffic) : Ledger × List (UInt32 × String) :=
  (seen.1.note p entry,
    match entry with
    | .reconnected => []
    | .took .host msg | .skimmed .host msg => seen.2 ++ (advert seen.1 msg).toList
    | _ => seen.2)

-- What the compositor of the current connection has advertised, through
-- whichever of its registries.
def advertised (p : Protocol) (history : List Traffic) : List (UInt32 × String) :=
  (history.foldl (noteAdvert p) (Ledger.start, [])).2

-- The name and interface that a bind, a registry's request 0, asks for.
def boundGlobal (p : Protocol) (msg : Bytes) : Option (UInt32 × String) :=
  if opcodeOfMessage msg = 0 then
    (decode p .clientToHost wlRegistry msg).bind fun call => call.child.map fun child => (wordAt msg headerLen, child.name)
  else none

-- Every bind written for the client, passed on or replayed, asks for a global
-- of the compositor it is written to.
def NamesAdvertised (p : Protocol) (past : List Traffic) : Traffic → Prop
  | .sent sent => sent.peer = .host → sent.interface = wlRegistry → sent.origin ≠ .own →
      ∀ bound ∈ boundGlobal p sent.msg, bound ∈ advertised p past
  | _ => True

def BindsGenuine (p : Protocol) (history : List Traffic) : Prop := Lawful (NamesAdvertised p) [] history

-- A bind that the relay is about to pass on asks for a global of the current
-- compositor.
def BindsCurrent (env : Env) (st : State) (event : Event) : Prop :=
  match event, st.control with
  | .turn _, .relaying .clientToHost => ∀ taken ∈ takeMessage st.session.gtk.readBuf, st.session.frozen = false →
      st.session.objects.interface (senderOf taken.1) = some wlRegistry →
        ((st.session.objects.hostId (senderOf taken.1)).isSome = true ∨
          (decode env.protocol .clientToHost wlRegistry taken.1).bind Call.newId = some (senderOf taken.1)) →
        ∀ bound ∈ boundGlobal env.protocol taken.1, bound ∈ advertised env.protocol st.session.trace
  | _, _ => True

section Advertised

variable (p : Protocol)

theorem note_advert_ledger (history : List Traffic) :
    (history.foldl (noteAdvert p) (Ledger.start, [])).1 = ledger p history := by
  induction history using List.reverseRecOn with
  | nil => rfl
  | append_singleton before entry ih =>
      rw [List.foldl_append, ledger_snoc, ← ih]
      rfl

theorem advertised_snoc (history : List Traffic) (entry : Traffic) :
    advertised p (history ++ [entry]) = (noteAdvert p (ledger p history, advertised p history) entry).2 := by
  rw [advertised, List.foldl_append, ← note_advert_ledger p history]
  rfl

theorem advertised_later {bound : UInt32 × String} {history : List Traffic} (member : bound ∈ advertised p history)
    (added : List Traffic) (goes : ∀ entry ∈ added, entry ≠ .reconnected) : bound ∈ advertised p (history ++ added) := by
  induction added using List.reverseRecOn with
  | nil => simpa using member
  | append_singleton before entry ih =>
      have earlier := ih fun e inside => goes e (by simp [inside])
      rw [← List.append_assoc, advertised_snoc]
      cases entry with
      | took peer msg =>
          cases peer
          · exact earlier
          · exact List.mem_append_left _ earlier
      | skimmed peer msg =>
          cases peer
          · exact earlier
          · exact List.mem_append_left _ earlier
      | reconnected => exact absurd rfl (goes .reconnected (by simp))
      | _ => exact earlier

-- What recovery notes was advertised to it.
theorem noted_advertised (globals : Globals) (history : List Traffic) (msg : Bytes)
    (registry : ((ledger p history).objects (senderOf msg)).map HostObject.interface = some wlRegistry)
    (opcode : opcodeOfMessage msg = 0)
    (before : ∀ interface name version, globals.lookup interface = some (name, version) → (name, interface) ∈ advertised p history)
    (interface : String) (name version : UInt32)
    (known : (noteGlobal globals (msg.drop headerLen)).lookup interface = some (name, version)) :
    (name, interface) ∈ advertised p (history ++ [.skimmed .host msg]) := by
  rw [advertised_snoc]
  have earlier : globals.lookup interface = some (name, version) →
      (name, interface) ∈ advertised p history ++ (advert (ledger p history) msg).toList :=
    fun was => List.mem_append_left _ (before _ _ _ was)
  show (name, interface) ∈ advertised p history ++ (advert (ledger p history) msg).toList
  unfold noteGlobal at known
  split at known
  · rename_i name' interface' next readName readInterface
    split at known
    · exact earlier known
    · split at known
      · by_cases same : interface = interface'
        · rw [same, AList.lookup_insert] at known
          cases known
          refine List.mem_append_right _ ?_
          rw [advert, if_pos ⟨registry, opcode⟩, readGlobal, readName, readInterface]
          simp [same]
        · rw [AList.lookup_insert_ne same] at known
          exact earlier known
      · exact earlier known
  · exact earlier known

end Advertised

def Control.globals : Control → Option Globals
  | .awaitingRegistry w => some w.globals
  | .replaying r | .awaitingConfigure _ r | .awaitingAck _ r => some r.globals
  | _ => none

-- Recovery listens to a registry of the new connection, and knows only what it
-- heard there.
structure Listening (p : Protocol) (st : State) : Prop where
  registry : ∀ w, st.control = .awaitingRegistry w →
    ((ledger p st.session.trace).objects w.registryHostId).map HostObject.interface = some wlRegistry
  known : ∀ globals, st.control.globals = some globals → ∀ interface name version,
    globals.lookup interface = some (name, version) → (name, interface) ∈ advertised p st.session.trace

section Steps

variable {env : Env} (covered : Covered env.protocol) {st next : State} {event : Event}

theorem listening_idle {p : Protocol} (st : State) (idle : st.control.globals = none) : Listening p st where
  registry w waits := by
    rw [waits] at idle
    cases idle
  known globals has := by
    rw [has] at idle
    cases idle

-- Recovery goes on with the globals it has.
theorem Listening.onward {p : Protocol} (listening : Listening p st) (waits : ∀ w, next.control ≠ .awaitingRegistry w)
    (globals : next.control.globals = st.control.globals) (grown : Adds (· ≠ .reconnected) st.session next.session) :
    Listening p next where
  registry w waiting := absurd waiting (waits w)
  known globals' has interface name version found := by
    obtain ⟨added, goes, was⟩ := grown
    rw [globals] at has
    rw [was]
    exact advertised_later p (listening.known _ has _ _ _ found) added goes

theorem heed_registry_listening {p : Protocol} (s : Session) (consumed : Nat) (w : RegistryWait) (msg : Bytes)
    (listening : Listening p ⟨s, .awaitingRegistry w⟩) : Listening p (heedRegistry (skimmed s .host consumed msg) w msg) := by
  have registry := listening.registry w rfl
  have known := listening.known _ rfl
  have trace : (skimmed s .host consumed msg).trace = s.trace ++ [.skimmed .host msg] := rfl
  have heard : (ledger p (s.trace ++ [.skimmed .host msg])).objects = (ledger p s.trace).objects := by
    rw [ledger_snoc]
    rfl
  have later : ∀ interface name version, w.globals.lookup interface = some (name, version) →
      (name, interface) ∈ advertised p (s.trace ++ [.skimmed .host msg]) :=
    fun interface name version found => advertised_later p (known _ _ _ found) _ (by simp)
  unfold heedRegistry
  split
  · rename_i own
    refine ⟨fun w' waits => ?_, fun globals has interface name version found => ?_⟩
    · cases waits
      rw [trace, heard]
      exact registry
    · cases has
      rw [trace]
      refine noted_advertised p w.globals s.trace msg ?_ own.2 known interface name version found
      rw [own.1]
      exact registry
  · split
    · refine ⟨fun w' waits => (by cases waits), fun globals has interface name version found => ?_⟩
      cases has
      show (name, interface) ∈ advertised p ((s.trace ++ [.skimmed .host msg]) ++ [.waited .host _])
      exact advertised_later p (later _ _ _ found) _ (by simp)
    · refine ⟨fun w' waits => ?_, fun globals has interface name version found => ?_⟩
      · cases waits
        rw [trace, heard]
        exact registry
      · cases has
        rw [trace]
        exact later _ _ _ found

include covered

theorem begin_recovery_listening (order : HashOrder) (s : Session) (outcomes : List WriteOutcome) :
    Listening env.protocol (beginRecovery env.protocol order (reconnected s outcomes)) := by
  simp only [beginRecovery]
  split
  · exact listening_idle _ rfl
  · split
    · exact listening_idle _ rfl
    · rename_i registryGuestId _ _ registry _
      have display : True → (ledger env.protocol (reconnected s outcomes).trace).objects 1 = some ⟨some 1, wlDisplay⟩ := by
        intro _
        show (ledger env.protocol (s.trace ++ [.reconnected])).objects 1 = _
        rw [ledger_snoc]
        rfl
      have asks := fun done t => @ask_for_globals_moves _ covered True
        { reconnected s outcomes with reclaim := { (reconnected s outcomes).reclaim with activeSourceHostId := none } }
        registryGuestId display (by show (2 : UInt32) ≠ 1; decide) done t
      split
      · exact listening_idle _ rfl
      · rename_i asked result
        refine ⟨fun w waits => ?_, fun globals has interface name version found => ?_⟩
        · cases waits
          show ((ledger env.protocol asked.trace).objects (reconnected s outcomes).objects.nextHostId).map _ = _
          rw [((asks _ _ result).2 rfl).2.1]
          rfl
        · cases has
          cases found

theorem transition_listening (transition : Transition env st event next) (listening : Listening env.protocol st) :
    Listening env.protocol next := by
  have grown : st.control ≠ .selecting → Adds (· ≠ .reconnected) st.session next.session := by
    intro moving
    obtain ⟨added, accounted, grown⟩ := transition_accounted covered transition
    refine ⟨added, fun entry member reconnects => moving ?_, grown⟩
    have account := accounted entry member
    rwa [reconnects] at account
  cases transition with
  | readClient | clientGone | readHost | hostGone | registryGone | relayed | relayDone => exact listening_idle _ rfl
  | readRegistry => exact ⟨listening.registry, listening.known⟩
  | cached s control => exact ⟨listening.registry, listening.known⟩
  | readAck | ackGone | readConfigure | configureGone | configureLapse | ackLapse =>
      exact listening.onward (by simp) rfl (grown (by simp))
  | skimRegistry s w ambient msg consumed taken => exact heed_registry_listening s consumed w msg listening
  | skimConfigure s h r ambient msg consumed taken =>
      have onward : (heedConfigure env.protocol (skimmed s .host consumed msg) h r msg).control.globals = some r.globals ∧
          ∀ w, (heedConfigure env.protocol (skimmed s .host consumed msg) h r msg).control ≠ .awaitingRegistry w := by
        unfold heedConfigure
        split
        · split <;> exact ⟨rfl, by simp⟩
        · split
          · split <;> exact ⟨rfl, by simp⟩
          · exact ⟨rfl, by simp⟩
      exact listening.onward onward.2 onward.1 (grown (by simp))
  | skimAck s h r ambient msg consumed taken =>
      have onward : (heedAck env.protocol (skimmed s .gtk consumed msg) h r msg).control.globals = some r.globals ∧
          ∀ w, (heedAck env.protocol (skimmed s .gtk consumed msg) h r msg).control ≠ .awaitingRegistry w := by
        unfold heedAck
        split <;> exact ⟨rfl, by simp⟩
      exact listening.onward onward.2 onward.1 (grown (by simp))
  | replayed s r ambient =>
      have onward : (replayTurn env.protocol ambient.order s r).control.globals = none ∨
          (replayTurn env.protocol ambient.order s r).control.globals = some r.globals ∧
            ∀ w, (replayTurn env.protocol ambient.order s r).control ≠ .awaitingRegistry w := by
        unfold replayTurn
        split
        · exact .inl rfl
        · split
          · exact .inl rfl
          · exact .inr ⟨rfl, by simp⟩
          · exact .inr ⟨rfl, by simp⟩
      rcases onward with done | ⟨same, waits⟩
      · exact listening_idle _ done
      · exact listening.onward waits same (grown (by simp))
  | reconnect s ambient outcomes frozen => exact begin_recovery_listening covered ambient.order s outcomes

theorem bind_only (name : String) (opcode : UInt16) (found : requestOpcode env.protocol wlRegistry name = some opcode)
    (first : opcode = 0) : name = "bind" := by
  obtain ⟨desc, at_opcode, -, named⟩ := opcode_listed _ _ _ (covered.requests wlRegistry) found
  rw [first] at at_opcode
  have same := Option.some.inj (covered.bind.symm.trans at_opcode)
  rw [← named, ← same]

omit covered in
theorem bound_global_opcode {p : Protocol} {msg : Bytes} {bound : UInt32 × String} (binds : boundGlobal p msg = some bound) :
    opcodeOfMessage msg = 0 ∧ ∃ call child, decode p .clientToHost wlRegistry msg = some call ∧ call.child = some child ∧
      bound = (wordAt msg headerLen, child.name) := by
  unfold boundGlobal at binds
  split at binds
  · rename_i first
    obtain ⟨call, decoded, kind⟩ := Option.bind_eq_some_iff.mp binds
    obtain ⟨child, is, same⟩ := Option.map_eq_some_iff.mp kind
    exact ⟨first, call, child, decoded, is, same.symm⟩
  · cases binds

-- A replayed bind reads back as the name it was given.
theorem rebinds_named (r : Replay) (guestId : UInt32) (on : r.registry = wlRegistry) (sent : Sent) (bound : UInt32 × String)
    (rebinds : Rebinds env.protocol r.globals r.registry r.registryHostId guestId (.sent sent))
    (binds : boundGlobal env.protocol sent.msg = some bound) : ∃ version, r.globals.lookup bound.2 = some (bound.1, version) := by
  obtain ⟨-, -, -, interface, name, freshMaxVersion, version, hostId, bind, payload, listed, known, first, encoded, bytes⟩ := rebinds
  have only : (env.protocol.requests wlRegistry)[0]? = some ⟨"bind", false, [.uint, .str, .uint, .newId], none⟩ := covered.bind
  rw [on, only] at first
  obtain rfl := Option.some.inj first
  rw [encoded_bind] at encoded
  obtain rfl : _ = payload := congrArg Prod.fst (Except.ok.inj encoded)
  have short : (asBytes interface).length < 2 ^ 31 := by
    have each : ∀ name ∈ recreatableGlobals, (asBytes name).length < 2 ^ 31 := by decide +kernel
    exact each _ listed
  have lookedUp : lookupInterface interface = some ⟨interface⟩ := by
    have tabulated : ∀ name ∈ recreatableGlobals, name ∈ tabulatedInterfaces := by decide +kernel
    rw [lookupInterface, if_pos (tabulated _ listed)]
  have small := bind_payload_small name (min version freshMaxVersion) hostId interface short
  have reads := decode_encoded env.protocol wlRegistry r.registryHostId 0 _ _ _ _ covered.bind
    (encoded_bind name (min version freshMaxVersion) hostId interface) small
  obtain ⟨-, call, child, decoded, kind, rfl⟩ := bound_global_opcode binds
  rw [bytes, reads] at decoded
  cases decoded
  have named : child = ⟨interface⟩ := by
    have resolved : (resolveChildInterface env.protocol ⟨"bind", false, [.uint, .str, .uint, .newId], none⟩
        (some interface)).map Prod.fst = some child := kind
    simp only [resolveChildInterface, lookedUp, Option.map_some] at resolved
    exact (Option.some.inj resolved).symm
  have word : wordAt sent.msg headerLen = name := by
    have payload := word_at_payload sent.msg 0
    rw [Nat.add_zero, bytes, build_message_payload] at payload
    rw [bytes, payload]
    exact word_at_to_ne_bytes name _
  exact ⟨freshMaxVersion, by rw [word, named]; exact known⟩

omit covered in
-- The first word of a message that starts with a number is no id.
theorem leading_word_agrees (walk : SignatureWalk) (a b : Bytes) (signature : List ArgumentType)
    (walked : walkSignature a (.uint :: signature) = .ok walk) (agree : AgreeOutside walk a b) : wordAt b 0 = wordAt a 0 := by
  obtain ⟨last, walks, rfl⟩ := walk_signature_from a _ walk walked
  obtain ⟨next, first, rest⟩ := walk_from_cons a _ last _ _ walks
  have strides := walk_argument_strides a _ next .uint first
  have behind : 4 ≤ next.offset := by
    simp only [walkArgument] at first
    split at first
    · cases first
    · rename_i stop advanced
      cases first
      exact Nat.le_of_eq (advance_ok _ _ _ _ advanced).1.symm
  have apart : ∀ i, i < 4 → byteAt b i = byteAt a i := by
    intro i inside
    refine agree.bytes i fun offset slot => .inl ?_
    rcases (walk_from_walks a next last signature rest (strides_placed a _ next .uint strides placed_start)).slots offset slot with
      earlier | later
    · rcases strides.slots offset earlier with old | ⟨-, -, word⟩
      · rcases old with object | new
        · cases object
        · cases new
      · rcases word with is | is <;> cases is
    · omega
  simp only [wordAt, apart 0 (by omega), apart 1 (by omega), apart 2 (by omega), apart 3 (by omega), Nat.zero_add]

-- A bind is passed on under the name the client gave it.
theorem forwards_bind (m : Inbound) (msg : Bytes) (s : Session) (sent : Sent) (bound : UInt32 × String)
    (forwards : Forwards env s msg m sent) (interface : sent.interface = wlRegistry)
    (binds : boundGlobal env.protocol sent.msg = some bound) :
    s.objects.interface (senderOf msg) = some wlRegistry ∧ boundGlobal env.protocol msg = some bound ∧
      ((s.objects.hostId (senderOf msg)).isSome = true ∨
        (decode env.protocol .clientToHost wlRegistry msg).bind Call.newId = some (senderOf msg)) := by
  have resolved := forwards.resolved
  have kind : m.interface = wlRegistry := forwards.interface.symm.trans interface
  obtain ⟨first, call, child, decoded, is, rfl⟩ := bound_global_opcode binds
  have opcode : opcodeOfMessage msg = 0 := forwards.opcode.symm.trans first
  have only : (env.protocol.requests wlRegistry)[0]? = some ⟨"bind", false, [.uint, .str, .uint, .newId], none⟩ := covered.bind
  have listed : (env.protocol.requests wlRegistry)[0]? = some m.desc := by
    have found := resolved_listed env s.objects .clientToHost msg m resolved
    rw [kind, opcode] at found
    exact found
  have desc : m.desc = ⟨"bind", false, [.uint, .str, .uint, .newId], none⟩ := Option.some.inj (listed.symm.trans only)
  have agree := forwards.payload (by simp [Inbound.isRequest, kind, wlRegistry])
  have walked := resolved.walk
  have walked' := walk_signature_agrees _ _ _ resolved.walk _ agree
  have reads : decode env.protocol .clientToHost wlRegistry sent.msg = some (callOf env.protocol m.desc m.walk sent.msg) :=
    decode_some _ _ _ _ _ _ (by rw [first]; exact listed) walked'
  have word : wordAt sent.msg headerLen = wordAt msg headerLen := by
    rw [desc] at walked
    have same := leading_word_agrees m.walk _ _ _ walked agree
    rwa [← word_at_payload, ← word_at_payload, Nat.add_zero] at same
  have standing := forwards.standing
  rw [kind] at standing
  refine ⟨?_, ?_, standing⟩
  · rw [← resolved_request env s.objects _ msg m resolved rfl, ← kind]
    exact resolved_interface env s.objects _ msg m resolved
  · have original := resolved_decode env s.objects .clientToHost msg m resolved
    rw [kind] at original
    have same : (callOf env.protocol m.desc m.walk msg).child = some child := by
      rw [reads] at decoded
      cases decoded
      exact is
    rw [boundGlobal, if_pos opcode, original, Option.bind_some, same, word]
    rfl

theorem host_write_named (on : st.control.OnRegistry) (listening : Listening env.protocol st) (current : BindsCurrent env st event)
    (sent : Sent) (write : HostWrite env st event sent) (interface : sent.interface = wlRegistry) (client : sent.origin ≠ .own)
    (bound : UInt32 × String) (binds : boundGlobal env.protocol sent.msg = some bound) :
    bound ∈ advertised env.protocol st.session.trace ∧ st.control ≠ .selecting := by
  obtain ⟨first, -⟩ := bound_global_opcode binds
  cases write with
  | own listed origin =>
      rcases origin with own | display
      · exact absurd own client
      · rw [interface] at display
        exact absurd display (by decide)
  | recreated r guestId replaying turns recreates =>
      rw [replaying] at on
      rcases recreates with ⟨-, -, request, listed, hostId, payload, opcode, found, bytes⟩ | rebinds
      · rw [interface] at found
        rw [bytes, opcode_of_built] at first
        rw [bind_only covered request opcode found first] at listed
        exact absurd listed (by decide)
      · obtain ⟨version, known⟩ := rebinds_named covered r guestId on sent bound rebinds binds
        have kept := listening.known r.globals (by rw [replaying]; rfl) bound.2 bound.1 version known
        exact ⟨kept, by simp [replaying]⟩
  | forwarded msg consumed m relaying turns thawed taken forwards =>
      obtain ⟨kind, same, standing⟩ := forwards_bind covered m msg st.session sent bound forwards interface binds
      cases event with
      | turn ambient =>
          simp only [BindsCurrent, relaying] at current
          exact ⟨current _ taken thawed kind standing bound same, by simp [relaying]⟩
      | _ => exact turns.elim
  | acked h r msg consumed waiting turns taken sender asks same bytes =>
      rw [interface] at same
      rw [bytes, opcode_of_built] at first
      rw [← same] at asks
      exact absurd (bind_only covered _ _ asks.symm first) (by decide)

-- The step lemma: a step that passes no bind of an old name on writes none.
theorem transition_named (transition : Transition env st event next) (on : st.control.OnRegistry)
    (listening : Listening env.protocol st) (current : BindsCurrent env st event)
    (genuine : BindsGenuine env.protocol st.session.trace) : BindsGenuine env.protocol next.session.trace := by
  obtain ⟨added, accounted, grown⟩ := transition_accounted covered transition
  rw [grown, BindsGenuine, lawful_append]
  refine ⟨genuine, ?_⟩
  rw [List.nil_append]
  refine lawful_of_each _ _ _ fun before entry after split => ?_
  have account : Accounted env st event entry := accounted _ (by simp [split])
  cases entry with
  | sent sent =>
      intro toHost interface client bound binds
      obtain ⟨member, moving⟩ := host_write_named covered on listening current sent (account toHost) interface client bound binds
      refine advertised_later env.protocol member before fun entry inside reconnects => moving ?_
      have entered := accounted entry (by simp [split, inside])
      rwa [reconnects] at entered
  | _ => trivial

end Steps

theorem binds_genuine (env : Env) (covered : Covered env.protocol) (gtkOutcomes hostOutcomes : List WriteOutcome)
    (cache : ClipboardCache) (events : List Event) (st : State)
    (run : Runs (step env) (BindsCurrent env) (start gtkOutcomes hostOutcomes cache) events st) :
    BindsGenuine env.protocol st.session.trace := by
  have initial : BindsGenuine env.protocol [] := trivial
  have all : st.control.OnRegistry ∧ Listening env.protocol st ∧ BindsGenuine env.protocol st.session.trace :=
    run.invariant (fun st => st.control.OnRegistry ∧ Listening env.protocol st ∧ BindsGenuine env.protocol st.session.trace)
      ⟨trivial, listening_idle _ rfl, initial⟩ fun st event next holds current taken =>
        have transition := step_transition env st event next taken
        ⟨transition_on_registry transition holds.1, transition_listening covered transition holds.2.1,
          transition_named covered transition holds.1 holds.2.1 current holds.2.2⟩
  exact all.2.2

section Checking

variable (p : Protocol) (past : List Traffic)

def receivedGlobal (guestId : UInt32) : Traffic → Option (UInt32 × String)
  | .sent sent =>
      if sent.peer = .gtk ∧ sent.interface = wlRegistry ∧ senderOf sent.msg = guestId ∧ opcodeOfMessage sent.msg = 0 then
        readGlobal sent.msg
      else none
  | _ => none

-- A client binds only what the registry it binds through told it of.
def ReceivedBind : Traffic → Prop
  | .took .gtk msg | .skimmed .gtk msg => (client p past).Holds (senderOf msg) wlRegistry →
      ∀ bound ∈ boundGlobal p msg, bound ∈ past.filterMap (receivedGlobal (senderOf msg))
  | _ => True

def BindsReceived (history : List Traffic) : Prop := Lawful (ReceivedBind p) [] history

instance (entry : Traffic) : Decidable (NamesAdvertised p past entry) :=
  match entry with
  | .sent sent => inferInstanceAs (Decidable (sent.peer = .host → sent.interface = wlRegistry → sent.origin ≠ .own →
      ∀ bound ∈ boundGlobal p sent.msg, bound ∈ advertised p past))
  | .took _ _ | .skimmed _ _ | .waited _ _ | .served _ _ _ | .lost | .reconnected | .resumed => .isTrue trivial

instance (entry : Traffic) : Decidable (ReceivedBind p past entry) :=
  match entry with
  | .took .gtk msg | .skimmed .gtk msg => inferInstanceAs (Decidable ((client p past).Holds (senderOf msg) wlRegistry →
      ∀ bound ∈ boundGlobal p msg, bound ∈ past.filterMap (receivedGlobal (senderOf msg))))
  | .took .host _ | .skimmed .host _ | .sent _ | .waited _ _ | .served _ _ _ | .lost | .reconnected | .resumed => .isTrue trivial

instance : DecidablePred (BindsGenuine p) := fun history => inferInstanceAs (Decidable (Lawful (NamesAdvertised p) [] history))

instance : DecidablePred (BindsReceived p) := fun history => inferInstanceAs (Decidable (Lawful (ReceivedBind p) [] history))

end Checking

def bindsCurrent (st : State) (event : Event) : Bool :=
  match event, st.control with
  | .turn _, .relaying .clientToHost => decide (∀ taken ∈ takeMessage st.session.gtk.readBuf, st.session.frozen = false →
      st.session.objects.interface (senderOf taken.1) = some wlRegistry →
        ((st.session.objects.hostId (senderOf taken.1)).isSome = true ∨
          (decode coreProtocol .clientToHost wlRegistry taken.1).bind Call.newId = some (senderOf taken.1)) →
        ∀ bound ∈ boundGlobal coreProtocol taken.1, bound ∈ advertised coreProtocol st.session.trace)
  | _, _ => true

theorem binds_current_sound (st : State) (event : Event) (checked : bindsCurrent st event = true) : BindsCurrent coreEnv st event := by
  unfold bindsCurrent at checked
  unfold BindsCurrent
  split at checked
  · exact of_decide_eq_true checked
  · trivial

-- The client hears of its first compositor's globals, binds two of them under
-- the next one and the last again: by then name 1 is another global.
def renamedGlobals (name : UInt32) : List Event :=
  .gtkReadable (.data (requestRegistry 2) []) :: turns 2 ++
    [.hostReadable (.data (globalEvent 1 "wl_compositor" ++ globalEvent 2 "wl_shm") [])] ++ turns 3 ++
    [.gtkReadable (.data (bindGlobal 2 "wl_shm" 3) [])] ++ turns 2 ++ [.hostReadable .error, reconnectCore,
      .hostReadable (.data (globalEvent 1 "wl_shm" ++ globalEvent 2 "wl_compositor" ++ registryDone) [])] ++ turns 5 ++
    [.gtkReadable (.data (bindGlobal name "wl_compositor" 4) [])] ++ turns 2

theorem binds_genuine_renamed : ∃ st, Runs (step coreEnv) (BindsCurrent coreEnv) coreStart (renamedGlobals 2) st ∧
    BindsGenuine coreProtocol st.session.trace ∧ st.control = .selecting := by
  have fold : (coreRun bindsCurrent (renamedGlobals 2)).map (fun st => st.control.isSelecting) = some true := by decide +kernel
  obtain ⟨st, reached, selecting⟩ := Option.map_eq_some_iff.mp fold
  have run := Runs.of_checked bindsCurrent binds_current_sound reached
  exact ⟨st, run, binds_genuine coreEnv core_covered [] [] ClipboardCache.new _ st run, Control.eq_selecting selecting⟩

theorem old_name_crosses : ∃ st, Runs (step coreEnv) (fun _ _ => True) coreStart (renamedGlobals 1) st ∧
    BindsReceived coreProtocol st.session.trace ∧ ¬ BindsGenuine coreProtocol st.session.trace := by
  have fold : (coreRun unchecked (renamedGlobals 1)).map (fun st =>
      (decide (BindsReceived coreProtocol st.session.trace), decide (BindsGenuine coreProtocol st.session.trace))) =
        some (true, false) := by
    decide +kernel
  obtain ⟨st, reached, facts⟩ := Option.map_eq_some_iff.mp fold
  simp only [Prod.mk.injEq, decide_eq_true_eq, decide_eq_false_iff_not] at facts
  exact ⟨st, unchecked_run reached, facts.1, facts.2⟩

end WlResprox
