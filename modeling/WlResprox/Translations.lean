import WlResprox.GlobalNames
import WlResprox.Reserves

set_option autoImplicit false

namespace WlResprox

-- A new object of the host's has an id of the host's own range.
def AnnouncesOwn (p : Protocol) (past : List Traffic) : Traffic → Prop
  | .sent m => m.peer = .gtk → m.origin = .relayed → ∀ raw ∈ (ledger p past).heard .host,
      ∀ hostId ∈ (decode p .hostToClient m.interface raw).bind Call.newId, serverIds ≤ hostId.toNat
  | _ => True

-- A history in which ids can be told apart: neither side has run out of them,
-- the host has kept to its own, and what was written to it has arrived.
structure Distinct (p : Protocol) (past : List Traffic) : Prop where
  few : Few p past
  succeed : HostWritesSucceed (connection past)
  room : (newIds p .host (connection past)).length + 2 ≤ serverIds
  announced : Lawful (AnnouncesOwn p) [] past

-- What is written names what the history says the host holds: a request its
-- objects, an event the object that it is passed on for.
def NamesHeld (p : Protocol) (past : List Traffic) : Traffic → Prop
  | .sent m =>
      (m.peer = .host → Addressed p ((ledger p past).heard .gtk) (ledger p past).names m) ∧
        (m.peer = .gtk → m.origin = .relayed → Delivered ((ledger p past).heard .host) (ledger p past).names m)
  | _ => True

def HeldLaw (p : Protocol) (past : List Traffic) (entry : Traffic) : Prop := Distinct p past → NamesHeld p past entry

-- The table translates to nothing but what the host holds for that very object.
structure Tallies (p : Protocol) (v : View) : Prop where
  null : (ledger p v.trace).objects 0 = none
  low : ∀ h object, (ledger p v.trace).objects h = some object → h.toNat < v.objects.nextHostId.toNat ∨ serverIds ≤ h.toNat
  pairs : ∀ g h i, g ≠ 0 → v.objects.hostId g = some h → v.objects.interface g = some i →
    (ledger p v.trace).objects h = some ⟨some g, i⟩

theorem Distinct.earlier {p : Protocol} {past added : List Traffic} (distinct : Distinct p (past ++ added))
    (goes : ∀ entry ∈ added, entry ≠ .reconnected) : Distinct p past where
  few := distinct.few.earlier (List.prefix_append _ _)
  succeed m member := distinct.succeed m (by
    rw [connection_append _ _ goes]
    exact List.mem_append_left _ member)
  room := by
    have room := distinct.room
    rw [connection_append _ _ goes, newIds, List.filterMap_append, List.length_append] at room
    have fewer : (newIds p .host (connection past)).length + _ + 2 ≤ serverIds := room
    omega
  announced := ((lawful_append _ _ _ _).mp distinct.announced).1

theorem silent_goes (entry : Traffic) (silent : entry.Silent) : entry ≠ .reconnected := by
  rintro rfl
  exact silent

section Views

variable {p : Protocol} {v : View}

theorem Tallies.names (tallies : Tallies p v) (null : v.objects.interface 0 = none) (owner : Option UInt32) (hostId : UInt32)
    (i : Interface) (named : v.names p owner hostId i) : (ledger p v.trace).names owner hostId i := by
  rcases named with known | ⟨g, rfl, listed, translated⟩
  · exact known
  · have nonzero : g ≠ 0 := by
      rintro rfl
      rw [null] at listed
      cases listed
    have held : v.objects.hostId g = some hostId := by
      rcases translated with forward | backward
      · exact forward
      · refine (v.objects.host_guest g hostId nonzero ?_).mpr backward
        rintro rfl
        rw [ShadowTable.guest_id_null] at backward
        exact nonzero (Option.some.inj backward).symm
    exact tallies.pairs g hostId i nonzero held listed

-- The next id of the counter is one that the host does not hold yet.
theorem Tallies.fresh (tallies : Tallies p v) (room : v.objects.nextHostId.toNat < serverIds) :
    (ledger p v.trace).objects v.objects.nextHostId = none := by
  cases held : (ledger p v.trace).objects v.objects.nextHostId with
  | none => rfl
  | some object =>
      have := tallies.low _ object held
      omega

-- Where the counter stands, by the history.
theorem Numbered.counter {phase : Phase} (numbered : Numbered p phase v) (alive : phase ≠ .dead) (distinct : Distinct p v.trace) :
    v.objects.nextHostId.toNat = (newIds p .host (connection v.trace)).length + 2 := by
  have room := distinct.room
  have wide : serverIds < 2 ^ 32 := by decide
  rw [numbered.hosts alive distinct.succeed, nextNewId, UInt32.toNat_add, UInt32.toNat_ofNat']
  have two : firstHostId.toNat = 2 := rfl
  omega

-- An entry that tells nothing of the host's objects.
theorem Tallies.quiet (tallies : Tallies p v) (entry : Traffic) (objects : ShadowTable)
    (quiet : ((ledger p v.trace).note p entry).objects = (ledger p v.trace).objects)
    (next : objects.nextHostId = v.objects.nextHostId)
    (pairs : ∀ g h, g ≠ 0 → objects.hostId g = some h → v.objects.hostId g = some h ∧ objects.interface g = v.objects.interface g) :
    Tallies p (View.log ⟨objects, v.trace⟩ entry) := by
  have same : (ledger p (v.trace ++ [entry])).objects = (ledger p v.trace).objects := by rw [ledger_snoc, quiet]
  refine ⟨?_, fun h object => ?_, fun g h i nonzero held listed => ?_⟩
  · rw [log_trace, same]
    exact tallies.null
  · rw [log_trace, log_objects, same, next]
    exact tallies.low h object
  · obtain ⟨was, kind⟩ := pairs g h nonzero held
    rw [log_trace, same]
    exact tallies.pairs g h i nonzero was (kind ▸ listed)

theorem Tallies.still (tallies : Tallies p v) (entry : Traffic)
    (quiet : ((ledger p v.trace).note p entry).objects = (ledger p v.trace).objects) : Tallies p (v.log entry) :=
  tallies.quiet entry v.objects quiet rfl fun _ _ _ held => ⟨held, rfl⟩

-- A request that introduces an object under the next id of the counter.
theorem Tallies.introduced (tallies : Tallies p v) (m : Sent) (child : Interface) (toHost : m.peer = .host)
    (makes : m.Makes p v.objects.nextHostId child) (room : v.objects.nextHostId.toNat < serverIds) (low : 2 ≤ v.objects.nextHostId.toNat)
    (objects : ShadowTable) (next : objects.nextHostId = v.objects.nextHostId + 1)
    (pairs : ∀ g h i, g ≠ 0 → objects.hostId g = some h → objects.interface g = some i →
      (h = v.objects.nextHostId ∧ (ledger p v.trace).owner p m = some g ∧ i = child) ∨
        (v.objects.hostId g = some h ∧ v.objects.interface g = some i)) :
    Tallies p (View.log ⟨objects, v.trace⟩ (.sent m)) := by
  have after : ∀ query, (ledger p (v.trace ++ [.sent m])).objects query =
      if query = v.objects.nextHostId then some ⟨(ledger p v.trace).owner p m, child⟩ else (ledger p v.trace).objects query :=
    fun query => by
      rw [ledger_snoc]
      exact write_request p _ m toHost _ child makes query
  have wide : serverIds < 2 ^ 32 := by decide
  have passed : (v.objects.nextHostId + 1).toNat = v.objects.nextHostId.toNat + 1 := by
    rw [UInt32.toNat_add]
    have one : (1 : UInt32).toNat = 1 := rfl
    omega
  refine ⟨?_, fun h object held => ?_, fun g h i nonzero held listed => ?_⟩
  · rw [log_trace, after, if_neg (fun zero => by simp [← zero] at low)]
    exact tallies.null
  · rw [log_trace, after] at held
    rw [log_objects, next, passed]
    split at held
    · rename_i same
      rw [same]
      exact .inl (Nat.lt_succ_self _)
    · have := tallies.low h object held
      omega
  · rw [log_trace, after]
    rcases pairs g h i nonzero held listed with ⟨rfl, owner, rfl⟩ | ⟨was, kind⟩
    · rw [if_pos rfl, owner]
    · have known := tallies.pairs g h i nonzero was kind
      have apart : h ≠ v.objects.nextHostId := by
        rintro rfl
        rw [tallies.fresh room] at known
        cases known
      rw [if_neg apart]
      exact known

end Views

section Moving

variable {p : Protocol} (covered : Covered p) {named : Prop} {phase : Phase} {v v' : View}

theorem silent_objects (l : Ledger) (entry : Traffic) (silent : entry.Silent) : (l.note p entry).objects = l.objects := by
  cases entry with
  | sent | reconnected => exact silent.elim
  | _ => rfl

theorem announced_own {m : Sent} (distinct : Distinct p (v.trace ++ [.sent m])) (toClient : m.peer = .gtk) (relayed : m.origin = .relayed) {raw : Bytes}
    (heard : (ledger p v.trace).heard .host = some raw) {hostId : UInt32}
    (origin : (decode p .hostToClient m.interface raw).bind Call.newId = some hostId) : serverIds ≤ hostId.toNat := by
  have announced := lawful_split _ v.trace [] _ _ distinct.announced rfl
  exact announced toClient relayed raw heard hostId origin

include covered in
theorem move_tallies (move : Move p named phase v v') (alive : phase ≠ .dead) (numbered : Numbered p phase v)
    (distinct : Distinct p v'.trace) (tallies : Tallies p v) : Tallies p v' := by
  have counted : ∀ m : Sent, v'.trace = v.trace ++ [.sent m] → m.peer = .host → (m.newId p).isSome = true →
      2 ≤ v.objects.nextHostId.toNat ∧ v.objects.nextHostId.toNat < serverIds := fun m grown toHost creates => by
    rw [grown] at distinct
    have counter := numbered.counter alive (distinct.earlier (by simp))
    have room := distinct.room
    rw [connection_sent, newIds, List.filterMap_append, List.length_append] at room
    have one : ([Traffic.sent m].filterMap (entryNewId p .host)).length = 1 := by
      obtain ⟨id, created⟩ := Option.isSome_iff_exists.mp creates
      simp [List.filterMap, entryNewId, toHost, created]
    have sum : (newIds p .host (connection v.trace)).length + _ + 2 ≤ serverIds := room
    rw [one] at sum
    omega
  cases move with
  | noted entry silent => exact tallies.still entry (silent_objects _ entry silent)
  | told entry tells =>
      obtain ⟨m, rfl, toClient, own, -⟩ := tells_spec p covered entry tells
      exact tallies.still _ (write_own p _ m toClient (by rw [own]; simp))
  | shrunk objects settled shrinks =>
      refine ⟨tallies.null, ?_, fun g h i nonzero held listed => ?_⟩
      · rw [shrinks.nextHostId]
        exact tallies.low
      · obtain ⟨was, kind⟩ := shrinks.pairs g h nonzero held
        exact tallies.pairs g h i nonzero was (kind ▸ listed)
  | phantom objects gone => exact absurd gone alive
  | asked m _ toHost quiet => exact tallies.still _ (write_asked p _ m toHost quiet)
  | attempted m child _ toHost failed makes =>
      refine absurd (distinct.succeed m ?_ toHost) failed
      rw [log_trace, connection_sent]
      exact List.mem_append_right _ List.mem_cons_self
  | created m child _ toHost makes =>
      obtain ⟨low, room⟩ := counted m rfl toHost (by rw [makes_new_id makes]; rfl)
      exact tallies.introduced m child toHost makes room low _ rfl fun g h i _ held listed => .inr ⟨held, listed⟩
  | born m child guestId _ toHost makes nonzero owner =>
      obtain ⟨low, room⟩ := counted m rfl toHost (by rw [makes_new_id makes]; rfl)
      refine tallies.introduced m child toHost makes room low _ rfl fun g h i guest held listed => ?_
      rw [ShadowTable.interface_map] at listed
      rcases (ShadowTable.host_id_map _ _ _ g h _ guest).mp held with ⟨rfl, rfl⟩ | ⟨other, -, was⟩
      · rw [if_pos rfl] at listed
        exact .inl ⟨rfl, owner, (Option.some.inj listed).symm⟩
      · rw [if_neg other] at listed
        exact .inr ⟨was, listed⟩
  | passed m _ toClient relayed quiet keeps => exact tallies.still _ (write_quiet p _ m quiet keeps)
  | deleted m raw guestId _ toClient relayed quiet frees heard found =>
      have after : ∀ query, (ledger p (v.trace ++ [.sent m])).objects query =
          if query = wordAt raw headerLen then none else (ledger p v.trace).objects query := fun query => by
        rw [ledger_snoc]
        exact write_release p _ m toClient relayed raw heard frees query
      refine ⟨?_, fun h object held => ?_, fun g h i nonzero held listed => ?_⟩
      · rw [log_trace, after]
        split
        · rfl
        · exact tallies.null
      · rw [log_trace, after] at held
        split at held
        · cases held
        · exact tallies.low h object held
      · obtain ⟨other, was⟩ := (ShadowTable.host_id_remove_guest _ guestId g h nonzero).mp held
        rw [log_objects, ShadowTable.interface_remove_guest, if_neg other] at listed
        have known := tallies.pairs g h i nonzero was listed
        have named : h ≠ 0 := by
          rintro rfl
          rw [tallies.null] at known
          cases known
        have apart : h ≠ wordAt raw headerLen := by
          rintro rfl
          rw [(v.objects.host_guest g _ nonzero named).mp was] at found
          exact other (Option.some.inj found)
        rw [log_trace, after, if_neg apart]
        exact known
  | announced m raw hostId child _ toClient relayed makes keeps heard origin =>
      have own := announced_own distinct toClient relayed heard origin
      have after : ∀ query, (ledger p (v.trace ++ [.sent m])).objects query =
          if query = hostId then some ⟨some v.objects.nextGuestServerId, child⟩ else (ledger p v.trace).objects query := fun query => by
        rw [ledger_snoc]
        exact write_event p _ m toClient relayed raw heard keeps _ hostId child makes origin query
      refine ⟨?_, fun h object held => ?_, fun g h i nonzero held listed => ?_⟩
      · rw [log_trace, after, if_neg (fun zero => by simp [← zero, serverIds] at own)]
        exact tallies.null
      · rw [log_trace, after] at held
        split at held
        · rename_i same
          rw [same]
          exact .inr own
        · exact tallies.low h object held
      · rw [log_objects, ShadowTable.interface_map] at listed
        rw [log_trace, after]
        rcases (ShadowTable.host_id_map _ _ _ g h _ nonzero).mp held with ⟨rfl, rfl⟩ | ⟨other, apart, was⟩
        · rw [if_pos rfl] at listed
          rw [if_pos rfl, Option.some.inj listed]
        · rw [if_neg other] at listed
          rw [if_neg apart]
          exact tallies.pairs g h i nonzero was listed

-- What the host is told names what it holds, as far as the facts about the ids
-- are given.
include covered in
theorem move_held (move : Move p named phase v v') (null : v.objects.interface 0 = none)
    (tallies : phase ≠ .dead → Distinct p v.trace → Tallies p v) (given : Distinct p v.trace → named) :
    ∃ added, v'.trace = v.trace ++ added ∧ (∀ entry ∈ added, entry ≠ .reconnected) ∧ Lawful (HeldLaw p) v.trace added := by
  have single : ∀ entry : Traffic, entry ≠ .reconnected → HeldLaw p v.trace entry →
      ∃ added, (v.log entry).trace = v.trace ++ added ∧ (∀ entry ∈ added, entry ≠ .reconnected) ∧ Lawful (HeldLaw p) v.trace added :=
    fun entry goes held => ⟨[entry], rfl, by simpa using goes, held, trivial⟩
  have requested : ∀ m : Sent, phase ≠ .dead → m.peer = .host →
      (named → Addressed p ((ledger p v.trace).heard .gtk) (v.names p) m) → HeldLaw p v.trace (.sent m) :=
    fun m alive toHost addressed distinct =>
      ⟨fun _ => (addressed (given distinct)).mono ((tallies alive distinct).names null),
        fun toClient => absurd (toHost.symm.trans toClient) (by simp)⟩
  have delivers : ∀ m : Sent, phase ≠ .dead → m.peer = .gtk →
      (named → Delivered ((ledger p v.trace).heard .host) (v.names p) m) → HeldLaw p v.trace (.sent m) :=
    fun m alive toClient delivered distinct =>
      ⟨fun toHost => absurd (toClient.symm.trans toHost) (by simp),
        fun _ _ => (delivered (given distinct)).mono ((tallies alive distinct).names null)⟩
  cases move with
  | noted entry silent =>
      refine single entry (silent_goes entry silent) fun _ => ?_
      cases entry with
      | sent => exact silent.elim
      | _ => trivial
  | told entry tells =>
      obtain ⟨m, rfl, toClient, own, -⟩ := tells_spec p covered entry tells
      refine single _ (by simp) fun _ => ⟨fun toHost => absurd (toClient.symm.trans toHost) (by simp), fun _ relayed => ?_⟩
      exact absurd (own.symm.trans relayed) (by simp)
  | shrunk | phantom => exact ⟨[], by simp, by simp, trivial⟩
  | asked m alive toHost quiet addressed => exact single _ (by simp) (requested m alive toHost addressed)
  | attempted m child alive toHost failed makes addressed => exact single _ (by simp) (requested m alive toHost addressed)
  | created m child alive toHost makes addressed => exact single _ (by simp) (requested m alive toHost addressed)
  | born m child guestId alive toHost makes nonzero owner listed addressed => exact single _ (by simp) (requested m alive toHost addressed)
  | passed m alive toClient relayed quiet keeps delivered => exact single _ (by simp) (delivers m alive toClient delivered)
  | deleted m raw guestId alive toClient relayed quiet frees heard found delivered =>
      exact single _ (by simp) (delivers m (by rw [alive]; simp) toClient delivered)
  | announced m raw hostId child alive toClient relayed makes keeps heard origin delivered =>
      exact single _ (by simp) (delivers m (by rw [alive]; simp) toClient delivered)

-- All that is kept from one move to the next within a step.
structure Holding (p : Protocol) (named : Prop) (phase : Phase) (v : View) : Prop where
  numbered : Few p v.trace → Numbered p phase v
  null : Few p v.trace → v.objects.interface 0 = none
  tallies : phase ≠ .dead → Distinct p v.trace → Tallies p v
  given : Distinct p v.trace → named
  held : Lawful (HeldLaw p) [] v.trace

include covered in
theorem move_holding (move : Move p named phase v v') (holding : Holding p named phase v) : Holding p named phase v' := by
  obtain ⟨added, grown⟩ := move_trace move
  have numbered : Few p v'.trace → Numbered p phase v' := fun few =>
    move_numbered covered move (holding.numbered (few.earlier ⟨added, grown.symm⟩))
  by_cases few : Few p v.trace
  · have null := holding.null few
    obtain ⟨added, grown, goes, held⟩ := move_held covered move null holding.tallies holding.given
    have before : Distinct p v'.trace → Distinct p v.trace := fun distinct => (grown ▸ distinct).earlier goes
    refine ⟨numbered, fun few' => ?_, fun alive distinct => ?_, fun distinct => holding.given (before distinct), ?_⟩
    · exact move_null move (guests_named_of_few _ _ ((numbered few').ordered _ List.prefix_rfl) few') null
    · exact move_tallies covered move alive (holding.numbered few) distinct (holding.tallies alive (before distinct))
    · rw [grown, lawful_append]
      exact ⟨holding.held, by simpa using held⟩
  · have fewer : ∀ past, Few p (v.trace ++ past) → False := fun past few' => few (few'.earlier (List.prefix_append _ _))
    refine ⟨numbered, fun few' => ?_, fun _ distinct => ?_, fun distinct => ?_, ?_⟩
    · exact (fewer added (grown ▸ few')).elim
    · exact (fewer added (grown ▸ distinct.few)).elim
    · exact (fewer added (grown ▸ distinct.few)).elim
    · rw [grown, lawful_append]
      refine ⟨holding.held, lawful_of_each _ _ _ fun before entry after split distinct => ?_⟩
      exact (fewer before (by simpa using distinct.few)).elim

include covered in
theorem moves_holding (moves : Moves p named phase v v') (holding : Holding p named phase v) : Holding p named phase v' :=
  moves.invariant (Holding p named phase) (fun _ _ => move_holding covered) holding

theorem Holding.phased {phase' : Phase} (holding : Holding p named phase v) (dies : phase = .dead → phase' = .dead) :
    Holding p named phase' v where
  numbered few := numbered_in_phase (holding.numbered few) dies
  null := holding.null
  tallies alive := holding.tallies fun dead => alive (dies dead)
  given := holding.given
  held := holding.held

theorem tells_sent (entry : Traffic) (tells : Tells p entry) : ∃ m, entry = .sent m ∧ m.peer = .gtk := by
  cases entry with
  | sent m => exact ⟨m, rfl, tells.1⟩
  | _ => exact tells.elim

theorem move_goes (move : Move p named phase v v') : ∃ added, v'.trace = v.trace ++ added ∧ ∀ entry ∈ added, entry ≠ .reconnected := by
  cases move with
  | shrunk | phantom => exact ⟨[], by simp, by simp⟩
  | noted entry silent => exact ⟨[entry], rfl, by simpa using silent_goes entry silent⟩
  | told entry tells =>
      obtain ⟨m, rfl, -⟩ := tells_sent entry tells
      exact ⟨[.sent m], rfl, by simp⟩
  | asked m | attempted m | created m | born m | passed m | deleted m | announced m => exact ⟨[.sent m], rfl, by simp⟩

-- Recovery only adds to what the host holds.
include covered in
theorem move_keeps_held (move : Move p named .recovering v v') (holding : Holding p named .recovering v) (distinct : Distinct p v'.trace)
    {id : UInt32} {object : HostObject} (known : (ledger p v.trace).objects id = some object) :
    (ledger p v'.trace).objects id = some object := by
  obtain ⟨added, grown, goes⟩ := move_goes move
  have before : Distinct p v.trace := (grown ▸ distinct).earlier goes
  have tallies := holding.tallies (by simp) before
  have counter := (holding.numbered before.few).counter (by simp) before
  have same : ∀ entry, ((ledger p v.trace).note p entry).objects = (ledger p v.trace).objects →
      (ledger p (v.trace ++ [entry])).objects id = some object := fun entry quiet => by
    rw [ledger_snoc, quiet]
    exact known
  have introduced : ∀ (m : Sent) (child : Interface), m.peer = .host → m.Makes p v.objects.nextHostId child →
      v'.trace = v.trace ++ [.sent m] → (ledger p (v.trace ++ [.sent m])).objects id = some object := fun m child toHost makes grown => by
    have room : v.objects.nextHostId.toNat < serverIds := by
      have room := distinct.room
      rw [grown, connection_sent, new_ids_snoc, entryNewId, if_pos toHost, makes_new_id makes] at room
      simp only [Option.toList_some, List.length_append, List.length_singleton] at room
      omega
    have apart : id ≠ v.objects.nextHostId := by
      rintro rfl
      rw [tallies.fresh room] at known
      cases known
    rw [ledger_snoc]
    exact ((write_request p _ m toHost _ child makes id).trans (if_neg apart)).trans known
  cases move with
  | noted entry silent => exact same entry (silent_objects _ entry silent)
  | told entry tells =>
      obtain ⟨m, rfl, toClient, own, -⟩ := tells_spec p covered entry tells
      exact same _ (write_own p _ m toClient (by rw [own]; simp))
  | shrunk _ settled => exact absurd rfl settled
  | phantom _ gone => cases gone
  | asked m alive toHost quiet => exact same _ (write_asked p _ m toHost quiet)
  | attempted m child alive toHost failed makes => exact introduced m child toHost makes rfl
  | created m child alive toHost makes => exact introduced m child toHost makes rfl
  | born m child guestId alive toHost makes => exact introduced m child toHost makes rfl
  | passed m alive toClient relayed quiet keeps => exact same _ (write_quiet p _ m quiet keeps)
  | deleted _ _ _ alive => cases alive
  | announced _ _ _ _ alive => cases alive

include covered in
theorem moves_keep_held (moves : Moves p named .recovering v v') (holding : Holding p named .recovering v) (distinct : Distinct p v'.trace)
    {id : UInt32} {object : HostObject} (known : (ledger p v.trace).objects id = some object) :
    (ledger p v'.trace).objects id = some object := by
  have both := moves.invariant (fun v => Holding p named .recovering v ∧ (Distinct p v.trace → (ledger p v.trace).objects id = some object))
    (fun v v' move kept => by
      obtain ⟨added, grown, goes⟩ := move_goes move
      exact ⟨move_holding covered move kept.1, fun distinct =>
        move_keeps_held covered move kept.1 distinct (kept.2 ((grown ▸ distinct).earlier goes))⟩) ⟨holding, fun _ => known⟩
  exact both.2 distinct

end Moving

def Control.replay : Control → Option Replay
  | .replaying r | .awaitingConfigure _ r | .awaitingAck _ r => some r
  | _ => none

def Control.handshake : Control → Option Handshake
  | .awaitingConfigure h _ | .awaitingAck h _ => some h
  | _ => none

-- What recovery remembers between two of its waits the host holds.
structure Remembers (p : Protocol) (st : State) : Prop where
  waiting : ∀ w, st.control = .awaitingRegistry w →
    (ledger p st.session.trace).objects w.registryHostId = some ⟨some w.registryGuestId, wlRegistry⟩
  registry : ∀ r, st.control.replay = some r → ∃ owner, (ledger p st.session.trace).objects r.registryHostId = some ⟨owner, r.registry⟩
  handshake : ∀ h, st.control.handshake = some h →
    (ledger p st.session.trace).objects h.hostId = some ⟨some h.guestId, h.interface⟩ ∧
      (ledger p st.session.trace).objects h.xdgSurfaceHostId = some ⟨some h.xdgSurfaceGuestId, h.xdgSurface⟩

namespace Remembers

variable {p : Protocol} {st next : State}

theorem anchored (remembers : Remembers p st) : Anchored p st where
  registry r replaying := by
    obtain ⟨owner, known⟩ := remembers.registry r (by rw [replaying]; rfl)
    exact ⟨owner, .inl known⟩
  toplevel h r waits := by
    obtain ⟨toplevel, xdgSurface⟩ := remembers.handshake h (by rcases waits with is | is <;> rw [is] <;> rfl)
    exact ⟨.inl toplevel, .inl xdgSurface⟩

theorem idle (st : State) (none : st.control.replay = none) (unasked : ∀ w, st.control ≠ .awaitingRegistry w) : Remembers p st where
  waiting w waits := absurd waits (unasked w)
  registry r has := by
    rw [none] at has
    cases has
  handshake h has := by
    cases control : st.control with
    | awaitingConfigure h r | awaitingAck h r =>
        rw [control] at none
        cases none
    | _ =>
        rw [control] at has
        cases has

-- Recovery goes on with what it remembers, and the host holds no less.
theorem onward (remembers : Remembers p st) (unasked : ∀ w, next.control ≠ .awaitingRegistry w)
    (registry : ∀ r, next.control.replay = some r → ∃ r', st.control.replay = some r' ∧ r'.registryHostId = r.registryHostId ∧
      r'.registry = r.registry)
    (handshake : ∀ h, next.control.handshake = some h → st.control.handshake = some h)
    (keeps : ∀ id object, (ledger p st.session.trace).objects id = some object → (ledger p next.session.trace).objects id = some object) :
    Remembers p next where
  waiting w waits := absurd waits (unasked w)
  registry r has := by
    obtain ⟨r', had, same, kind⟩ := registry r has
    obtain ⟨owner, known⟩ := remembers.registry r' had
    exact ⟨owner, keeps _ _ (by rw [← same, ← kind]; exact known)⟩
  handshake h has := by
    obtain ⟨toplevel, xdgSurface⟩ := remembers.handshake h (handshake h has)
    exact ⟨keeps _ _ toplevel, keeps _ _ xdgSurface⟩

end Remembers

section Waits

variable {p : Protocol} (s : Session) (h : Handshake) (r : Replay) (msg : Bytes)

theorem heed_configure_control : (heedConfigure p s h r msg).control = .awaitingConfigure h r ∨
    (heedConfigure p s h r msg).control = .awaitingAck h r ∨ (heedConfigure p s h r msg).control = .replaying r := by
  unfold heedConfigure
  split
  · split
    · exact .inl rfl
    · exact .inr (.inr rfl)
  · split
    · split
      · exact .inr (.inl rfl)
      · exact .inr (.inr rfl)
    · exact .inl rfl

theorem heed_ack_control : (heedAck p s h r msg).control = .awaitingAck h r ∨ (heedAck p s h r msg).control = .replaying r := by
  unfold heedAck
  split
  · exact .inr rfl
  · exact .inl rfl

theorem heed_registry_remembers (consumed : Nat) (w : RegistryWait) (kind : w.registry = wlRegistry)
    (remembers : Remembers p ⟨s, .awaitingRegistry w⟩) : Remembers p (heedRegistry (skimmed s .host consumed msg) w msg) := by
  have known := remembers.waiting w rfl
  have heard : (ledger p (s.trace ++ [.skimmed .host msg])).objects = (ledger p s.trace).objects := by
    rw [ledger_snoc]
    rfl
  have still : ∀ w' : RegistryWait, w'.registryHostId = w.registryHostId → w'.registryGuestId = w.registryGuestId →
      Remembers p ⟨skimmed s .host consumed msg, .awaitingRegistry w'⟩ := fun w' hostId guestId => by
    refine ⟨fun w'' is => ?_, fun r has => ?_, fun h has => ?_⟩
    · cases is
      show (ledger p (s.trace ++ [.skimmed .host msg])).objects w'.registryHostId = _
      rw [heard, hostId, guestId]
      exact known
    · cases has
    · cases has
  unfold heedRegistry
  split
  · exact still _ rfl rfl
  · split
    · refine ⟨fun w' is => ?_, fun r has => ?_, fun h has => ?_⟩
      · cases is
      · cases has
        refine ⟨some w.registryGuestId, ?_⟩
        show (ledger p ((s.trace ++ [.skimmed .host msg]) ++ [.waited .host _])).objects w.registryHostId = some ⟨_, w.registry⟩
        rw [ledger_snoc, kind]
        exact heard ▸ known
      · cases has
    · exact still w rfl rfl

end Waits

section Steps

variable {env : Env} (covered : Covered env.protocol) {st next : State} {event : Event}

theorem moves_goes {p : Protocol} {named : Prop} {phase : Phase} {v v' : View} (moves : Moves p named phase v v') :
    ∃ added, v'.trace = v.trace ++ added ∧ ∀ entry ∈ added, entry ≠ .reconnected := by
  induction moves with
  | refl => exact ⟨[], by simp, by simp⟩
  | tail _ move ih =>
      obtain ⟨earlier, was, goes⟩ := ih
      obtain ⟨later, is, goes'⟩ := move_goes move
      refine ⟨earlier ++ later, by rw [is, was, List.append_assoc], fun entry member => ?_⟩
      rcases List.mem_append.mp member with before | after
      · exact goes entry before
      · exact goes' entry after

theorem Distinct.before {p : Protocol} {named : Prop} {phase : Phase} {v v' : View} (moves : Moves p named phase v v')
    (distinct : Distinct p v'.trace) : Distinct p v.trace := by
  obtain ⟨added, grown, goes⟩ := moves_goes moves
  exact (grown ▸ distinct).earlier goes

-- A new connection holds the display, and the table has nothing else.
theorem reconnected_tallies (p : Protocol) (v : View) : Tallies p ⟨v.objects.bumpGeneration, v.trace ++ [.reconnected]⟩ := by
  have display : (ledger p (v.trace ++ [.reconnected])).objects = Ledger.displayOnly := by
    rw [ledger_snoc]
    rfl
  refine ⟨?_, fun h object held => ?_, fun g h i nonzero held listed => ?_⟩
  · rw [display]
    rfl
  · rw [display] at held
    unfold Ledger.displayOnly at held
    split at held
    · rename_i first
      rw [first]
      exact .inl (show (1 : UInt32).toNat < (2 : UInt32).toNat by decide)
    · cases held
  · obtain ⟨rfl, rfl⟩ := (ShadowTable.host_id_bump _ g h nonzero).mp held
    have kind : v.objects.bumpGeneration.interface 1 = some wlDisplay := by
      show (v.objects.interfaces.insert 1 wlDisplay).lookup 1 = _
      rw [HashMap.lookup_insert, if_pos rfl]
    rw [kind] at listed
    rw [display, ← Option.some.inj listed]
    rfl

structure Translating (p : Protocol) (st : State) : Prop where
  counting : Counting p st
  tallies : phaseOf st ≠ .dead → Distinct p st.session.trace → Tallies p st.view
  remembers : Distinct p st.session.trace → Remembers p st
  held : Lawful (HeldLaw p) [] st.session.trace

theorem idle_anchored {p : Protocol} (dead : phaseOf st = .dead) : Anchored p st where
  registry r replaying := by simp [phaseOf, replaying] at dead
  toplevel h r waits := by rcases waits with is | is <;> simp [phaseOf, is] at dead

theorem Translating.holding {p : Protocol} (translating : Translating p st) : Holding p (Anchored p st) (phaseOf st) st.view where
  numbered few := (translating.counting.current few).2
  null few := (translating.counting.current few).1.null
  tallies := translating.tallies
  given distinct := (translating.remembers distinct).anchored
  held := translating.held

theorem shift_holding {p : Protocol} (covered : Covered p) (translating : Translating p st) (ready : Ready st)
    (few : Few p st.session.trace) (shift : Shift p (Anchored p st) st next) : Holding p (Anchored p st) (phaseOf next) next.view := by
  have holding := translating.holding
  cases shift with
  | moved moves settles stays => exact (moves_holding covered moves holding).phased settles
  | renewed gone middle moves rest =>
      have renewed : Holding p (Anchored p st) .recovering ⟨st.session.objects.bumpGeneration, st.session.trace ++ [.reconnected]⟩ := by
        refine ⟨fun _ => reconnected_numbered (holding.numbered few), fun _ => ?_, fun _ _ => reconnected_tallies p st.view,
          fun _ => idle_anchored gone, ?_⟩
        · exact (fresh_bump _ ready.null).null
        · rw [lawful_append]
          exact ⟨holding.held, fun _ => trivial, trivial⟩
      have after := moves_holding covered moves renewed
      rcases rest with rfl | ⟨dead, later⟩
      · exact after.phased (by simp)
      · rw [dead]
        exact moves_holding covered later (after.phased (by simp))
  | registered w waits msg past mapped =>
      have recovers : phaseOf st = .recovering := by simp [phaseOf, waits]
      have kind : w.registry = wlRegistry := by
        have prepared := ready.prepared
        rw [waits] at prepared
        exact prepared.2
      have named : w.registryGuestId ≠ 0 := by
        have prepared := ready.prepared
        rw [waits] at prepared
        exact prepared.1
      have grown : next.view.trace = st.session.trace ++ [.skimmed .host msg, .waited .host past] := by rw [mapped]
      have objects : (ledger p (st.session.trace ++ [.skimmed .host msg, .waited .host past])).objects = (ledger p st.session.trace).objects := by
        simp only [ledger, List.foldl_append, List.foldl_cons, List.foldl_nil]
        rfl
      have before : Distinct p next.view.trace → Distinct p st.session.trace := fun distinct => (grown ▸ distinct).earlier (by simp)
      refine ⟨fun few' => ?_, fun few' => ?_, fun _ distinct => ?_, fun distinct => holding.given (before distinct), ?_⟩
      · exact shift_numbered covered (.registered w waits msg past mapped : Shift p False st next) (holding.numbered few)
      · rw [mapped]
        show (ShadowTable.map _ _ _ _).interface 0 = none
        rw [ShadowTable.interface_map, if_neg (Ne.symm named)]
        exact ready.null
      · have tallies := translating.tallies (by rw [recovers]; simp) (before distinct)
        rw [mapped]
        refine ⟨?_, ?_, fun g h i nonzero held listed => ?_⟩
        · show (ledger p (st.session.trace ++ _)).objects 0 = none
          rw [objects]
          exact tallies.null
        · show ∀ h object, (ledger p (st.session.trace ++ _)).objects h = some object → _
          rw [objects]
          exact tallies.low
        · show (ledger p (st.session.trace ++ _)).objects h = _
          rw [objects]
          rw [ShadowTable.interface_map] at listed
          rcases (ShadowTable.host_id_map _ _ _ g h _ nonzero).mp held with ⟨rfl, rfl⟩ | ⟨other, -, was⟩
          · rw [if_pos rfl] at listed
            rw [← Option.some.inj listed, kind]
            exact (translating.remembers (before distinct)).waiting w waits
          · rw [if_neg other] at listed
            exact tallies.pairs g h i nonzero was listed
      · rw [grown, lawful_append]
        exact ⟨holding.held, fun _ => trivial, fun _ => trivial, trivial⟩

include covered

theorem begin_recovery_remembers (order : HashOrder) (s : Session) (outcomes : List WriteOutcome) :
    Remembers env.protocol (beginRecovery env.protocol order (reconnected s outcomes)) := by
  simp only [beginRecovery]
  split
  · exact .idle _ rfl (by simp [resume])
  · split
    · exact .idle _ rfl (by simp)
    · rename_i registryGuestId _ _ registry _
      split
      · exact .idle _ rfl (by simp)
      · rename_i asked result
        have display : True → (ledger env.protocol (reconnected s outcomes).trace).objects 1 = some ⟨some 1, wlDisplay⟩ := by
          intro _
          show (ledger env.protocol (s.trace ++ [.reconnected])).objects 1 = _
          rw [ledger_snoc]
          rfl
        have asks := @ask_for_globals_moves _ covered True
          { reconnected s outcomes with reclaim := { (reconnected s outcomes).reclaim with activeSourceHostId := none } }
          registryGuestId display (by show (2 : UInt32) ≠ 1; decide) true asked result
        refine ⟨fun w is => ?_, fun r has => ?_, fun h has => ?_⟩
        · cases is
          exact (asks.2 rfl).2.1
        · cases has
        · cases has

theorem replay_turn_remembers (order : HashOrder) (s : Session) (r : Replay) (ready : Ready ⟨s, .replaying r⟩)
    (translating : Translating env.protocol ⟨s, .replaying r⟩)
    (distinct : Distinct env.protocol (replayTurn env.protocol order s r).session.trace) :
    Remembers env.protocol (replayTurn env.protocol order s r) := by
  have holding := translating.holding
  obtain ⟨isRegistry, nonzero⟩ := ready.prepared
  cases shape : r.rest with
  | nil =>
      simp only [replayTurn, shape]
      exact .idle _ rfl (by simp [resume])
  | cons entry rest =>
    obtain ⟨guestId, recipe⟩ := entry
    simp only [replayTurn, shape] at distinct ⊢
    have here : guestId ≠ 0 := nonzero guestId (by rw [shape]; exact List.mem_cons_self)
    cases result : replayRecipe env.protocol r.globals r.registry r.registryHostId s guestId recipe with
    | none => exact .idle _ rfl (by simp)
    | some done =>
        obtain ⟨t, handshake⟩ := done
        obtain ⟨moves, hands⟩ := @replay_recipe_moves _ (Anchored env.protocol ⟨s, .replaying r⟩) covered s t (ready.fresh rfl) guestId here
          r.globals r.registry r.registryHostId recipe handshake isRegistry (fun anchored => anchored.registry r rfl) result
        have reached : Distinct env.protocol t.trace := by
          cases handshake <;> simpa only [result] using distinct
        have before : Distinct env.protocol s.trace := .before moves reached
        have remembers := translating.remembers before
        have keeps : ∀ id object, (ledger env.protocol s.trace).objects id = some object → (ledger env.protocol t.trace).objects id = some object :=
          fun id object known => moves_keep_held covered moves holding reached known
        cases handshake with
        | none =>
            refine remembers.onward (by simp) (fun r' has => ?_) (fun h has => ?_) keeps
            · cases has
              exact ⟨r, rfl, rfl, rfl⟩
            · cases has
        | some h =>
            obtain ⟨toplevel, listed, held⟩ := hands h rfl
            have tallies := translating.tallies (by simp [phaseOf]) before
            have named : h.xdgSurfaceGuestId ≠ 0 := by
              intro null
              rw [null, ready.null] at listed
              cases listed
            refine ⟨by simp, fun r' has => ?_, fun h' has => ?_⟩
            · cases has
              obtain ⟨owner, known⟩ := remembers.registry r rfl
              exact ⟨owner, keeps _ _ known⟩
            · cases has
              exact ⟨toplevel, keeps _ _ (tallies.pairs _ _ _ named held listed)⟩

theorem transition_remembers (transition : Transition env st event next) (ready : Ready st)
    (translating : Translating env.protocol st) (distinct : Distinct env.protocol next.session.trace) : Remembers env.protocol next := by
  have holding := translating.holding
  -- A wait that ends, or goes on, remembers no more than before.
  have waited : ∀ {h r peer}, (st.control = .awaitingConfigure h r ∨ st.control = .awaitingAck h r) →
      next = ⟨endWait st.session peer, .replaying r⟩ → Remembers env.protocol next := fun {h r peer} waits is => by
    rw [is] at distinct ⊢
    have remembers := translating.remembers (@Distinct.earlier _ _ [.waited peer _] distinct (by simp))
    refine remembers.onward (by simp) (fun r' has => ?_) (fun h' has => by cases has) fun id object known => ?_
    · cases has
      exact ⟨r, by rcases waits with is | is <;> rw [is] <;> rfl, rfl, rfl⟩
    · show (ledger env.protocol (st.session.trace ++ [.waited peer _])).objects id = _
      rw [ledger_snoc]
      exact known
  have skims : ∀ {h r peer msg consumed} {reached : State}, (st.control = .awaitingConfigure h r ∨ st.control = .awaitingAck h r) →
      Moves env.protocol (Anchored env.protocol st) .recovering (skimmed st.session peer consumed msg).view reached.view →
      (reached.control = .awaitingConfigure h r ∨ reached.control = .awaitingAck h r ∨ reached.control = .replaying r) →
      next = reached → Remembers env.protocol next := fun {h r peer msg consumed reached} waits moves control is => by
    subst is
    have phase : phaseOf st = .recovering := by rcases waits with is | is <;> simp [phaseOf, is]
    rw [skimmed_view] at moves
    have all : Moves env.protocol (Anchored env.protocol st) .recovering st.view next.view :=
      .head (.noted st.view (.skimmed peer msg) trivial) moves
    have remembers := translating.remembers (Distinct.before all distinct)
    have replay : st.control.replay = some r := by rcases waits with is | is <;> rw [is] <;> rfl
    have handshake : st.control.handshake = some h := by rcases waits with is | is <;> rw [is] <;> rfl
    rw [phase] at holding
    refine remembers.onward (fun w => ?_) (fun r' has => ?_) (fun h' has => ?_) fun id object known =>
      moves_keep_held covered all holding distinct known
    · rcases control with is | is | is <;> rw [is] <;> simp
    · have same : r' = r := by rcases control with is | is | is <;> rw [is] at has <;> exact (Option.some.inj has).symm
      rw [same]
      exact ⟨r, replay, rfl, rfl⟩
    · rcases control with is | is | is
      · rw [is] at has
        exact handshake.trans has
      · rw [is] at has
        exact handshake.trans has
      · rw [is] at has
        cases has
  cases transition with
  | readClient | clientGone | readHost | hostGone | registryGone | relayed | relayDone => exact .idle _ rfl (by simp)
  | readRegistry s fill c w | readAck s fill c h r | readConfigure s fill c h r =>
      have remembers := translating.remembers distinct
      exact ⟨remembers.waiting, remembers.registry, remembers.handshake⟩
  | cached s control =>
      have remembers := translating.remembers distinct
      exact ⟨remembers.waiting, remembers.registry, remembers.handshake⟩
  | ackGone s fill h r | ackLapse s h r => exact waited (.inr rfl) rfl
  | configureGone s fill h r | configureLapse s h r => exact waited (.inl rfl) rfl
  | skimRegistry s w ambient msg consumed taken =>
      have before : Distinct env.protocol s.trace := by
        have kept : ∃ added, (heedRegistry (skimmed s .host consumed msg) w msg).session.trace = s.trace ++ added ∧
            ∀ entry ∈ added, entry ≠ .reconnected := by
          unfold heedRegistry
          split
          · exact ⟨[.skimmed .host msg], rfl, by simp⟩
          · split
            · exact ⟨[.skimmed .host msg, .waited .host _], by simp [endWait, skimmed, Session.drainBuf, Session.setConn, Session.log]; rfl, by simp⟩
            · exact ⟨[.skimmed .host msg], rfl, by simp⟩
        obtain ⟨added, grown, goes⟩ := kept
        exact (grown ▸ distinct).earlier goes
      exact heed_registry_remembers s msg consumed w ready.prepared.2 (translating.remembers before)
  | skimConfigure s h r ambient msg consumed taken =>
      have heard := skimmed_heard (p := env.protocol) s .host consumed msg
      refine skims (.inl rfl) (heed_configure_moves covered (by simp) (skimmed s .host consumed msg) h r msg heard
        (fun anchored => names_heard s.view _ rfl _ _ _ (anchored.toplevel h r (.inl rfl)).1)
        fun anchored => names_heard s.view _ rfl _ _ _ (anchored.toplevel h r (.inl rfl)).2) ?_ rfl
      exact heed_configure_control _ h r msg
  | skimAck s h r ambient msg consumed taken =>
      have heard := skimmed_heard (p := env.protocol) s .gtk consumed msg
      refine skims (.inr rfl) (heed_ack_moves covered (by simp) (skimmed s .gtk consumed msg) h r msg heard
        fun anchored => names_heard s.view _ rfl _ _ _ (anchored.toplevel h r (.inr rfl)).2) ?_ rfl
      exact .inr (heed_ack_control _ h r msg)
  | replayed s r ambient => exact replay_turn_remembers covered ambient.order s r ready translating distinct
  | reconnect s ambient outcomes frozen => exact begin_recovery_remembers covered ambient.order s outcomes

theorem transition_translating (transition : Transition env st event next) (picks : Picks env st event)
    (translating : Translating env.protocol st) : Translating env.protocol next := by
  have counting := transition_counting covered st event next transition picks translating.counting
  obtain ⟨added, grown⟩ := transition_grows transition
  by_cases few : Few env.protocol st.session.trace
  · obtain ⟨ready, -⟩ := translating.counting.current few
    have shift := transition_shift covered st event next transition ready picks (fun anchored : Anchored env.protocol st => anchored)
    have holding := shift_holding covered translating ready few shift
    exact ⟨counting, holding.tallies, transition_remembers covered transition ready translating, holding.held⟩
  · have fewer : ∀ past, Few env.protocol (st.session.trace ++ past) → False := fun past few' => few (few'.earlier (List.prefix_append _ _))
    refine ⟨counting, fun _ distinct => ?_, fun distinct => ?_, ?_⟩
    · exact (fewer added (grown ▸ distinct.few)).elim
    · exact (fewer added (grown ▸ distinct.few)).elim
    · rw [← grown, lawful_append]
      refine ⟨translating.held, lawful_of_each _ _ _ fun before entry after split distinct => ?_⟩
      exact (fewer before (by simpa using distinct.few)).elim

end Steps

theorem start_translating (p : Protocol) (gtkOutcomes hostOutcomes : List WriteOutcome) (cache : ClipboardCache) :
    Translating p (start gtkOutcomes hostOutcomes cache) := by
  refine ⟨counting_start p gtkOutcomes hostOutcomes cache, fun _ _ => ?_, fun _ => .idle _ rfl (by simp [start]), trivial⟩
  refine ⟨rfl, fun h object held => ?_, fun g h i nonzero held listed => ?_⟩
  · have display : Ledger.displayOnly h = some object := held
    unfold Ledger.displayOnly at display
    split at display
    · rename_i first
      rw [first]
      exact .inl (show (1 : UInt32).toNat < (2 : UInt32).toNat by decide)
    · cases display
  · obtain ⟨rfl, rfl⟩ := (ShadowTable.host_id_new g h nonzero).mp held
    have kind : ShadowTable.new.interface 1 = some wlDisplay := by decide
    rw [show (start gtkOutcomes hostOutcomes cache).view.objects.interface 1 = _ from kind] at listed
    rw [← Option.some.inj listed]
    rfl

section Checking

variable (p : Protocol)

instance (past : List Traffic) (entry : Traffic) : Decidable (AnnouncesOwn p past entry) :=
  match entry with
  | .sent m => inferInstanceAs (Decidable (m.peer = .gtk → m.origin = .relayed → ∀ raw ∈ (ledger p past).heard .host,
      ∀ hostId ∈ (decode p .hostToClient m.interface raw).bind Call.newId, serverIds ≤ hostId.toNat))
  | .took _ _ | .skimmed _ _ | .waited _ _ | .served _ _ _ | .lost | .reconnected | .resumed => .isTrue trivial

def writesComplete (history : List Traffic) : Bool := history.all fun
  | .sent m => m.peer = .gtk || m.outcome = .complete
  | _ => true

theorem writes_complete_sound (history : List Traffic) (checked : writesComplete history = true) : HostWritesSucceed history := by
  intro m member toHost
  have fine := List.all_eq_true.mp checked _ member
  simpa [toHost] using fine

def isDistinct (past : List Traffic) : Bool :=
  decide ((newIds p .gtk past).length ≤ 2 ^ 24) && writesComplete (connection past) &&
    decide ((newIds p .host (connection past)).length + 2 ≤ serverIds) && decide (Lawful (AnnouncesOwn p) [] past)

theorem is_distinct_sound (past : List Traffic) (checked : isDistinct p past = true) : Distinct p past := by
  simp only [isDistinct, Bool.and_eq_true, decide_eq_true_eq] at checked
  obtain ⟨⟨⟨few, complete⟩, room⟩, announced⟩ := checked
  exact ⟨few, writes_complete_sound _ complete, room, announced⟩

end Checking

def requestsTo (past : List Traffic) : Nat := past.countP fun
  | .sent m => m.peer = .host
  | _ => false

end WlResprox
