import WlResprox.Ledger

set_option autoImplicit false

namespace WlResprox

-- What the client has under one of its ids. `born` tells the objects that
-- share an id over time apart.
structure ClientObject where
  interface : Interface
  born : Nat
  destroyed : Bool
  deleted : Bool
deriving DecidableEq

structure Client where
  clock : Nat
  objects : UInt32 → Option ClientObject

namespace Client

def start : Client := ⟨0, fun id => if id = 1 then some ⟨wlDisplay, 0, false, false⟩ else none⟩

def set (c : Client) (id : UInt32) (object : Option ClientObject) : Client :=
  { c with objects := fun query => if query = id then object else c.objects query }

def introduce (c : Client) (id : UInt32) (interface : Interface) : Client := c.set id (some ⟨interface, c.clock, false, false⟩)

-- An id is free again when its object is both destroyed and deleted. The
-- client drops a callback of its own accord, and the display stays.
def destroy (c : Client) (id : UInt32) : Client :=
  match c.objects id with
  | none => c
  | some o => c.set id (if o.deleted then none else some { o with destroyed := true })

def delete (c : Client) (id : UInt32) : Client :=
  match c.objects id with
  | none => c
  | some o =>
      if o.interface.name = "wl_display" then c
      else c.set id (if o.destroyed || o.interface.name = "wl_callback" then none else some { o with deleted := true })

def call (p : Protocol) (c : Client) (msg : Bytes) : Option Call :=
  (c.objects (senderOf msg)).bind fun o => decode p .clientToHost o.interface msg

def create (c : Client) (call : Call) : Client :=
  match call.newId, call.child with
  | some id, some child => c.introduce id child
  | _, _ => c

def request (p : Protocol) (c : Client) (msg : Bytes) : Client :=
  match c.call p msg with
  | none => c
  | some call => if call.desc.isDestructor then (c.create call).destroy (senderOf msg) else c.create call

def event (p : Protocol) (c : Client) (m : Sent) : Client :=
  match decode p .hostToClient m.interface m.msg with
  | none => c
  | some call => if Ledger.frees m.interface call then c.delete (wordAt m.msg headerLen) else c.create call

def hear (p : Protocol) (c : Client) : Traffic → Client
  | .took .gtk msg => c.request p msg
  | .skimmed .gtk msg => c.request p msg
  | .sent m => if m.peer = .gtk then c.event p m else c
  | _ => c

def note (p : Protocol) (c : Client) (entry : Traffic) : Client := { c.hear p entry with clock := c.clock + 1 }

-- An object of this interface whose id the client has not been told is deleted.
def Holds (c : Client) (id : UInt32) (interface : Interface) : Prop :=
  ∃ o, c.objects id = some o ∧ o.interface = interface ∧ o.deleted = false

instance (c : Client) (id : UInt32) (interface : Interface) : Decidable (c.Holds id interface) :=
  decidable_of_iff ((c.objects id).any (fun o => o.interface = interface ∧ o.deleted = false) = true)
    (by cases found : c.objects id <;> simp [Holds, found])

end Client

-- The client's own table of objects, from the requests that were read off its
-- socket and the events that were written to it.
def client (p : Protocol) (history : List Traffic) : Client := history.foldl (Client.note p) Client.start

-- The id an entry gives to a new object of the client's.
def Traffic.introduces (p : Protocol) (c : Client) : Traffic → Option UInt32
  | .took .gtk msg => (c.call p msg).bind Call.newId
  | .skimmed .gtk msg => (c.call p msg).bind Call.newId
  | .sent m => if m.peer = .gtk then m.newId p else none
  | _ => none

def Traffic.deletes (p : Protocol) : Traffic → Option UInt32
  | .sent m => if m.peer = .gtk ∧ m.frees p = true then some (wordAt m.msg headerLen) else none
  | _ => none

-- Every new id, the client's or a server-range one, is real and not in use: the
-- rule of the wire, which the proxy keeps until its 2^24 server ids run out.
def UnusedId (p : Protocol) (past : List Traffic) (entry : Traffic) : Prop :=
  ∀ id, entry.introduces p (client p past) = some id → id ≠ 0 ∧ (client p past).objects id = none

instance (p : Protocol) (past : List Traffic) (entry : Traffic) : Decidable (UnusedId p past entry) :=
  inferInstanceAs (Decidable (∀ id ∈ entry.introduces p (client p past), id ≠ 0 ∧ (client p past).objects id = none))

def IdsUnused (p : Protocol) (history : List Traffic) : Prop := Lawful (UnusedId p) [] history

instance (p : Protocol) : DecidablePred (IdsUnused p) := fun history => inferInstanceAs (Decidable (Lawful (UnusedId p) [] history))

variable {p : Protocol}

theorem client_snoc (history : List Traffic) (entry : Traffic) :
    client p (history ++ [entry]) = (client p history).note p entry := by
  simp [client]

theorem ids_unused_append (history added : List Traffic) :
    IdsUnused p (history ++ added) ↔ IdsUnused p history ∧ Lawful (UnusedId p) history added := by
  rw [IdsUnused, lawful_append, List.nil_append, IdsUnused]

theorem IdsUnused.earlier {history later : List Traffic} (unused : IdsUnused p later) (earlier : history <+: later) :
    IdsUnused p history := by
  obtain ⟨added, rfl⟩ := earlier
  exact ((ids_unused_append history added).mp unused).1

namespace Client

variable {c : Client} {id g : UInt32} {i : Interface}

theorem set_objects (c : Client) (id query : UInt32) (object : Option ClientObject) :
    (c.set id object).objects query = if query = id then object else c.objects query := rfl

theorem set_other (c : Client) (id query : UInt32) (object : Option ClientObject) (other : query ≠ id) :
    (c.set id object).objects query = c.objects query := if_neg other

theorem introduce_other (other : g ≠ id) : (c.introduce id i).objects g = c.objects g := set_other _ _ _ _ other

theorem introduce_same (c : Client) (id : UInt32) (i : Interface) : (c.introduce id i).objects id = some ⟨i, c.clock, false, false⟩ :=
  if_pos rfl

theorem create_other (call : Call) (other : call.newId ≠ some g) : (c.create call).objects g = c.objects g := by
  unfold create
  split
  · rename_i id child named kind
    exact introduce_other fun same => other (by rw [named, same])
  · rfl

theorem destroy_holds (holds : c.Holds g i) : (c.destroy id).Holds g i := by
  unfold destroy
  split
  · exact holds
  · rename_i o found
    by_cases same : g = id
    · subst same
      obtain ⟨held, here, kind, kept⟩ := holds
      rw [found] at here
      cases here
      refine ⟨{ o with destroyed := true }, ?_, kind, kept⟩
      rw [set_objects, if_pos rfl, kept]
      rfl
    · obtain ⟨held, here, facts⟩ := holds
      exact ⟨held, by rw [set_other _ _ _ _ same]; exact here, facts⟩

theorem delete_holds (holds : c.Holds g i) (spared : id ≠ g ∨ i.name = "wl_display") : (c.delete id).Holds g i := by
  unfold delete
  split
  · exact holds
  · rename_i o found
    split
    · exact holds
    · rename_i other
      have apart : g ≠ id := by
        rintro rfl
        obtain ⟨held, here, kind, -⟩ := holds
        rw [found] at here
        cases here
        rcases spared with away | display
        · exact away rfl
        · exact other (by rw [kind]; exact display)
      obtain ⟨held, here, facts⟩ := holds
      exact ⟨held, by rw [set_other _ _ _ _ apart]; exact here, facts⟩

theorem create_holds (call : Call) (holds : c.Holds g i) (other : call.newId ≠ some g) : (c.create call).Holds g i := by
  obtain ⟨held, here, facts⟩ := holds
  exact ⟨held, by rw [create_other call other]; exact here, facts⟩

-- What the client holds it keeps, until its id is deleted.
theorem note_holds (entry : Traffic) (holds : c.Holds g i) (fresh : entry.introduces p c ≠ some g)
    (spared : entry.deletes p ≠ some g ∨ i.name = "wl_display") : (c.note p entry).Holds g i := by
  have asked : ∀ msg, (c.call p msg).bind Call.newId ≠ some g → (c.request p msg).Holds g i := by
    intro msg unused
    unfold request
    split
    · exact holds
    · rename_i call called
      rw [called, Option.bind_some] at unused
      split
      · exact destroy_holds (create_holds call holds unused)
      · exact create_holds call holds unused
  have heard : (c.hear p entry).Holds g i := by
    cases entry with
    | took peer msg =>
        cases peer
        · exact asked msg fresh
        · exact holds
    | skimmed peer msg =>
        cases peer
        · exact asked msg fresh
        · exact holds
    | sent m =>
        simp only [hear]
        split
        · rename_i toClient
          have unused : m.newId p ≠ some g := by simpa [Traffic.introduces, toClient] using fresh
          unfold event
          split
          · exact holds
          · rename_i call decoded
            have decoded' : decode p m.peer.toward m.interface m.msg = some call := by
              rw [toClient]
              exact decoded
            split
            · rename_i frees
              refine delete_holds holds (spared.imp_left fun kept same => kept ?_)
              simp [Traffic.deletes, toClient, Sent.frees, Peer.toward, decoded, frees, same]
            · refine create_holds call holds ?_
              simpa [Sent.newId, decoded'] using unused
        · exact holds
    | _ => exact holds
  exact heard

end Client

theorem client_holds {history : List Traffic} {g : UInt32} {i : Interface} (holds : (client p history).Holds g i)
    (added : List Traffic) (lawful : Lawful (UnusedId p) history added)
    (spared : (∀ entry ∈ added, entry.deletes p ≠ some g) ∨ i.name = "wl_display") : (client p (history ++ added)).Holds g i := by
  induction added generalizing history with
  | nil =>
      rw [List.append_nil]
      exact holds
  | cons entry rest ih =>
      have fresh : entry.introduces p (client p history) ≠ some g := by
        intro introduced
        obtain ⟨o, here, -⟩ := holds
        have free := (lawful.1 g introduced).2
        rw [here] at free
        cases free
      have next : (client p (history ++ [entry])).Holds g i := by
        rw [client_snoc]
        exact Client.note_holds entry holds fresh (spared.imp_left fun each => each entry List.mem_cons_self)
      have whole : history ++ entry :: rest = (history ++ [entry]) ++ rest := by simp
      rw [whole]
      exact ih next lawful.2 (spared.imp_left fun each e member => each e (List.mem_cons_of_mem _ member))

-- The display is there from the start and for good.
theorem client_display (history : List Traffic) (unused : IdsUnused p history) : (client p history).Holds 1 wlDisplay := by
  have first : (client p []).Holds 1 wlDisplay := ⟨_, rfl, rfl, rfl⟩
  exact client_holds first history unused (.inr rfl)

-- A request under the interface the client knows its sender by brings the
-- object it asks for.
theorem request_holds (past : List Traffic) (entry : Traffic) (msg : Bytes) (read : entry = .took .gtk msg ∨ entry = .skimmed .gtk msg)
    (lawful : UnusedId p past entry) (interface child : Interface) (call : Call) (newId : UInt32)
    (sender : (client p past).Holds (senderOf msg) interface) (decoded : decode p .clientToHost interface msg = some call)
    (named : call.newId = some newId) (kind : call.child = some child) : (client p (past ++ [entry])).Holds newId child := by
  obtain ⟨o, here, rfl, -⟩ := sender
  have called : (client p past).call p msg = some call := by rw [Client.call, here, Option.bind_some, decoded]
  have created : ((client p past).create call).Holds newId child := by
    simp only [Client.create, named, kind]
    exact ⟨_, Client.introduce_same _ _ _, rfl, rfl⟩
  have asked : ((client p past).request p msg).Holds newId child := by
    unfold Client.request
    rw [called]
    dsimp only
    split
    · exact Client.destroy_holds created
    · exact created
  rw [client_snoc]
  rcases read with rfl | rfl
  · exact asked
  · exact asked

end WlResprox
