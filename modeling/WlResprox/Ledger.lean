import WlResprox.Outgoing
import WlResprox.Effects

set_option autoImplicit false

namespace WlResprox

def Peer.toward : Peer → Direction
  | .gtk => .hostToClient
  | .host => .clientToHost

-- What the host holds under one of its ids: the object a message introduced,
-- and the client's id for it when it has one.
structure HostObject where
  guest : Option UInt32
  interface : Interface
deriving DecidableEq

-- What a history comes to: the last message taken from each peer, and the
-- objects of the current host connection.
structure Ledger where
  heard : Peer → Option Bytes
  objects : UInt32 → Option HostObject

namespace Ledger

def hear (l : Ledger) (peer : Peer) (msg : Bytes) : Ledger :=
  { l with heard := fun query => if query = peer then some msg else l.heard query }

def introduce (l : Ledger) (hostId : UInt32) (object : HostObject) : Ledger :=
  { l with objects := fun query => if query = hostId then some object else l.objects query }

def release (l : Ledger) (hostId : UInt32) : Ledger :=
  { l with objects := fun query => if query = hostId then none else l.objects query }

-- Every connection starts with the display.
def displayOnly (hostId : UInt32) : Option HostObject := if hostId = 1 then some ⟨some 1, wlDisplay⟩ else none

def start : Ledger := ⟨fun _ => none, displayOnly⟩

-- The client's own id for what a request creates: the one it chose, or the one
-- recovery replays the request for.
def owner (p : Protocol) (l : Ledger) (m : Sent) : Option UInt32 :=
  match m.origin with
  | .own => none
  | .replayed guestId => some guestId
  | .relayed => ((l.heard .gtk).bind (decode p .clientToHost m.interface)).bind Call.newId

def frees (interface : Interface) (call : Call) : Bool := interface.name = "wl_display" ∧ call.desc.name = "delete_id"

def request (p : Protocol) (l : Ledger) (m : Sent) (call : Call) : Ledger :=
  match call.newId, call.child with
  | some hostId, some child => l.introduce hostId ⟨l.owner p m, child⟩
  | _, _ => l

-- An event is relayed under the id the proxy gave its object, so it is read
-- beside the host's own message.
def event (p : Protocol) (l : Ledger) (m : Sent) (call : Call) : Ledger :=
  match l.heard .host with
  | none => l
  | some raw =>
      if frees m.interface call then l.release (wordAt raw headerLen)
      else
        match call.newId, call.child, (decode p .hostToClient m.interface raw).bind Call.newId with
        | some guestId, some child, some hostId => l.introduce hostId ⟨some guestId, child⟩
        | _, _, _ => l

def write (p : Protocol) (l : Ledger) (m : Sent) : Ledger :=
  match decode p m.peer.toward m.interface m.msg with
  | none => l
  | some call =>
      match m.peer with
      | .host => l.request p m call
      | .gtk => if m.origin = .relayed then l.event p m call else l

def note (p : Protocol) (l : Ledger) : Traffic → Ledger
  | .took peer msg => l.hear peer msg
  | .skimmed peer msg => l.hear peer msg
  | .sent m => l.write p m
  | .reconnected => { l with objects := displayOnly }
  | _ => l

end Ledger

def ledger (p : Protocol) (history : List Traffic) : Ledger := history.foldl (Ledger.note p) Ledger.start

def Sent.newId (p : Protocol) (m : Sent) : Option UInt32 := (decode p m.peer.toward m.interface m.msg).bind Call.newId

def Sent.frees (p : Protocol) (m : Sent) : Bool :=
  match decode p m.peer.toward m.interface m.msg with
  | none => false
  | some call => Ledger.frees m.interface call

-- A message that introduces an object, with its id and its interface.
def Sent.Makes (p : Protocol) (m : Sent) (id : UInt32) (child : Interface) : Prop :=
  ∃ call, decode p m.peer.toward m.interface m.msg = some call ∧ call.newId = some id ∧ call.child = some child

variable (p : Protocol) (history : List Traffic)

theorem ledger_snoc (entry : Traffic) : ledger p (history ++ [entry]) = (ledger p history).note p entry := by
  simp [ledger]

theorem makes_new_id {p : Protocol} {m : Sent} {id : UInt32} {child : Interface} (makes : m.Makes p id child) :
    m.newId p = some id := by
  obtain ⟨call, decoded, newId, -⟩ := makes
  simp only [Sent.newId, decoded, Option.bind_some, newId]

section Writes

variable (l : Ledger) (m : Sent)

-- What the proxy writes changes the objects, never what was heard.
theorem write_heard : (l.write p m).heard = l.heard := by
  unfold Ledger.write
  split
  · rfl
  · split
    · unfold Ledger.request
      split <;> rfl
    · split
      · unfold Ledger.event
        split
        · rfl
        · split
          · rfl
          · split <;> rfl
      · rfl

theorem write_quiet (quiet : m.newId p = none) (keeps : m.frees p = false) : (l.write p m).objects = l.objects := by
  unfold Ledger.write
  split
  · rfl
  · rename_i call decoded
    have newId : call.newId = none := by simpa [Sent.newId, decoded] using quiet
    split
    · simp [Ledger.request, newId]
    · split
      · unfold Ledger.event
        split
        · rfl
        · split
          · rename_i frees
            simp [Sent.frees, decoded, frees] at keeps
          · simp [newId]
      · rfl

theorem write_asked (toHost : m.peer = .host) (quiet : m.newId p = none) : (l.write p m).objects = l.objects := by
  unfold Ledger.write
  split
  · rfl
  · rename_i call decoded
    have newId : call.newId = none := by simpa [Sent.newId, decoded] using quiet
    simp only [toHost, Ledger.request, newId]

theorem write_own (toClient : m.peer = .gtk) (own : m.origin ≠ .relayed) : (l.write p m).objects = l.objects := by
  simp only [Ledger.write, toClient, if_neg own]
  split <;> rfl

theorem write_request (toHost : m.peer = .host) (hostId : UInt32) (child : Interface) (makes : m.Makes p hostId child)
    (query : UInt32) :
    (l.write p m).objects query = if query = hostId then some ⟨l.owner p m, child⟩ else l.objects query := by
  obtain ⟨call, decoded, newId, kind⟩ := makes
  rw [toHost] at decoded
  simp only [Ledger.write, toHost, decoded, Ledger.request, newId, kind]
  rfl

theorem write_release (toClient : m.peer = .gtk) (relayed : m.origin = .relayed) (raw : Bytes) (heard : l.heard .host = some raw)
    (frees : m.frees p = true) (query : UInt32) :
    (l.write p m).objects query = if query = wordAt raw headerLen then none else l.objects query := by
  unfold Sent.frees at frees
  unfold Ledger.write
  split at frees
  · cases frees
  · rename_i call decoded
    rw [toClient] at decoded
    simp only [toClient, relayed, if_true, Ledger.event, heard, frees]
    rfl

theorem write_event (toClient : m.peer = .gtk) (relayed : m.origin = .relayed) (raw : Bytes) (heard : l.heard .host = some raw)
    (keeps : m.frees p = false) (guestId hostId : UInt32) (child : Interface) (makes : m.Makes p guestId child)
    (named : (decode p .hostToClient m.interface raw).bind Call.newId = some hostId) (query : UInt32) :
    (l.write p m).objects query = if query = hostId then some ⟨some guestId, child⟩ else l.objects query := by
  obtain ⟨call, decoded, newId, kind⟩ := makes
  have keeps' : Ledger.frees m.interface call = false := by simpa [Sent.frees, decoded] using keeps
  rw [toClient] at decoded
  simp only [Ledger.write, toClient, decoded, relayed, if_true, Ledger.event, heard, keeps', Bool.false_eq_true, if_false, newId,
    kind, named]
  rfl

end Writes

end WlResprox
