import Mathlib.Logic.Relation
import WlResprox.Ledger

set_option autoImplicit false

namespace WlResprox

-- The part of a session that decides what ids mean.
structure View where
  objects : ShadowTable
  trace : List Traffic

def View.log (v : View) (entry : Traffic) : View := ⟨v.objects, v.trace ++ [entry]⟩

@[simp] theorem log_trace (v : View) (entry : Traffic) : (v.log entry).trace = v.trace ++ [entry] := rfl

@[simp] theorem log_objects (v : View) (entry : Traffic) : (v.log entry).objects = v.objects := rfl

def Session.view (s : Session) : View := ⟨s.objects, s.trace⟩

-- Which object of the host an id of the host names, and whose it is.
abbrev Naming := Option UInt32 → UInt32 → Interface → Prop

def Ledger.names (l : Ledger) : Naming := fun owner hostId interface => l.objects hostId = some ⟨owner, interface⟩

-- An id counts as known when the ledger has it or the shadow table translates it.
def View.names (p : Protocol) (v : View) : Naming := fun owner hostId interface =>
  (ledger p v.trace).names owner hostId interface ∨
    ∃ guestId, owner = some guestId ∧ v.objects.interface guestId = some interface ∧
      (v.objects.hostId guestId = some hostId ∨ v.objects.guestId hostId = some guestId)

-- The host's id stands for the client's: both null, or its own object for it.
def StandsFor (names : Naming) (guestId hostId : UInt32) : Prop :=
  (guestId = 0 ∧ hostId = 0) ∨ ∃ interface, names (some guestId) hostId interface

-- A request names known objects only, its sender under the interface it was
-- composed for; one passed on for the client names just what the client named.
structure Addressed (p : Protocol) (heard : Option Bytes) (names : Naming) (m : Sent) : Prop where
  sender : ∃ owner, names owner (senderOf m.msg) m.interface
  objects : ∀ call, decode p .clientToHost m.interface m.msg = some call → ∀ object ∈ call.objects,
    object = 0 ∨ ∃ owner interface, names owner object interface
  carried : m.origin = .relayed → ∃ raw, heard = some raw ∧ names (some (senderOf raw)) (senderOf m.msg) m.interface ∧
    ∀ call, decode p .clientToHost m.interface m.msg = some call →
      ∃ original, decode p .clientToHost m.interface raw = some original ∧
        List.Forall₂ (StandsFor names) original.objects call.objects

-- An event comes from the host's own object for the id it is passed on under.
def Delivered (heard : Option Bytes) (names : Naming) (m : Sent) : Prop :=
  ∃ raw, heard = some raw ∧ names (some (senderOf m.msg)) (senderOf raw) m.interface

theorem Addressed.mono {p : Protocol} {heard : Option Bytes} {fewer more : Naming} {m : Sent}
    (addressed : Addressed p heard fewer m) (implied : ∀ owner hostId i, fewer owner hostId i → more owner hostId i) :
    Addressed p heard more m where
  sender := by
    obtain ⟨owner, named⟩ := addressed.sender
    exact ⟨owner, implied _ _ _ named⟩
  objects call decoded object member := by
    obtain null | ⟨owner, i, named⟩ := addressed.objects call decoded object member
    · exact .inl null
    · exact .inr ⟨owner, i, implied _ _ _ named⟩
  carried relayed := by
    obtain ⟨raw, heard, sender, objects⟩ := addressed.carried relayed
    refine ⟨raw, heard, implied _ _ _ sender, fun call decoded => ?_⟩
    obtain ⟨original, was, pairs⟩ := objects call decoded
    refine ⟨original, was, pairs.imp fun guestId hostId stands => ?_⟩
    rcases stands with null | ⟨i, named⟩
    · exact .inl null
    · exact .inr ⟨i, implied _ _ _ named⟩

theorem Delivered.mono {heard : Option Bytes} {fewer more : Naming} {m : Sent} (delivered : Delivered heard fewer m)
    (implied : ∀ owner hostId i, fewer owner hostId i → more owner hostId i) : Delivered heard more m := by
  obtain ⟨raw, heard, named⟩ := delivered
  exact ⟨raw, heard, implied _ _ _ named⟩

-- Some pairs may be gone and names of unknown interfaces noted, nothing else.
structure Shrinks (t t' : ShadowTable) : Prop where
  nextHostId : t'.nextHostId = t.nextHostId
  nextGuestServerId : t'.nextGuestServerId = t.nextGuestServerId
  pairs : ∀ g h, g ≠ 0 → t'.hostId g = some h → t.hostId g = some h ∧ t'.interface g = t.interface g
  null : t.interface 0 = none → t'.interface 0 = none

def Traffic.Silent : Traffic → Prop
  | .sent _ => False
  | .reconnected => False
  | _ => True

-- A dead connection is one whose host is gone: there the table may hold objects
-- no host knows of. Recovery only adds to the table, and only what it replays.
inductive Phase where
  | dead
  | recovering
  | relaying
deriving DecidableEq, Repr

def Phase.ofFrozen (frozen : Bool) : Phase := if frozen then .dead else .relaying

-- Everything the proxy can do to the view between two points of its code, one
-- constructor for each way an id is made, used or given up. With `named` come
-- the facts about the ids in what is written.
inductive Move (p : Protocol) (named : Prop) (phase : Phase) : View → View → Prop where
  | noted (v : View) (entry : Traffic) (silent : entry.Silent) : Move p named phase v (v.log entry)
  | told (v : View) (entry : Traffic) (tells : Tells p entry) : Move p named phase v (v.log entry)
  | shrunk (v : View) (objects : ShadowTable) (settled : phase ≠ .recovering) (shrinks : Shrinks v.objects objects) : Move p named phase v ⟨objects, v.trace⟩
  | phantom (v : View) (objects : ShadowTable) (gone : phase = .dead)
      (counter : objects.nextGuestServerId = v.objects.nextGuestServerId)
      (null : v.objects.interface 0 = none → objects.interface 0 = none) : Move p named phase v ⟨objects, v.trace⟩
  | asked (v : View) (m : Sent) (alive : phase ≠ .dead) (toHost : m.peer = .host) (quiet : m.newId p = none)
      (addressed : named → Addressed p ((ledger p v.trace).heard .gtk) (v.names p) m) : Move p named phase v (v.log (.sent m))
  | attempted (v : View) (m : Sent) (child : Interface) (alive : phase ≠ .dead) (toHost : m.peer = .host)
      (failed : m.outcome ≠ .complete) (makes : m.Makes p v.objects.nextHostId child)
      (addressed : named → Addressed p ((ledger p v.trace).heard .gtk) (v.names p) m) : Move p named phase v (v.log (.sent m))
  | created (v : View) (m : Sent) (child : Interface) (alive : phase ≠ .dead) (toHost : m.peer = .host)
      (makes : m.Makes p v.objects.nextHostId child)
      (addressed : named → Addressed p ((ledger p v.trace).heard .gtk) (v.names p) m) :
      Move p named phase v (View.log ⟨v.objects.allocateHostId.2, v.trace⟩ (.sent m))
  | born (v : View) (m : Sent) (child : Interface) (guestId : UInt32) (alive : phase ≠ .dead) (toHost : m.peer = .host)
      (makes : m.Makes p v.objects.nextHostId child) (nonzero : guestId ≠ 0)
      (owner : (ledger p v.trace).owner p m = some guestId)
      (listed : phase = .recovering → child.name ∈ recoveredInterfaces)
      (addressed : named → Addressed p ((ledger p v.trace).heard .gtk) (v.names p) m) :
      Move p named phase v
        (View.log ⟨v.objects.allocateHostId.2.map guestId v.objects.nextHostId child, v.trace⟩ (.sent m))
  | passed (v : View) (m : Sent) (alive : phase ≠ .dead) (toClient : m.peer = .gtk) (relayed : m.origin = .relayed)
      (quiet : m.newId p = none) (keeps : m.frees p = false)
      (delivered : named → Delivered ((ledger p v.trace).heard .host) (v.names p) m) :
      Move p named phase v (v.log (.sent m))
  | deleted (v : View) (m : Sent) (raw : Bytes) (guestId : UInt32) (alive : phase = .relaying) (toClient : m.peer = .gtk)
      (relayed : m.origin = .relayed) (quiet : m.newId p = none) (frees : m.frees p = true)
      (heard : (ledger p v.trace).heard .host = some raw)
      (found : v.objects.guestId (wordAt raw headerLen) = some guestId)
      (delivered : named → Delivered ((ledger p v.trace).heard .host) (v.names p) m) :
      Move p named phase v (View.log ⟨v.objects.removeGuest guestId, v.trace⟩ (.sent m))
  | announced (v : View) (m : Sent) (raw : Bytes) (hostId : UInt32) (child : Interface) (alive : phase = .relaying)
      (toClient : m.peer = .gtk) (relayed : m.origin = .relayed) (makes : m.Makes p v.objects.nextGuestServerId child)
      (keeps : m.frees p = false) (heard : (ledger p v.trace).heard .host = some raw)
      (origin : (decode p .hostToClient m.interface raw).bind Call.newId = some hostId)
      (delivered : named → Delivered ((ledger p v.trace).heard .host) (v.names p) m) :
      Move p named phase v
        (View.log ⟨v.objects.allocateGuestServerId.2.map v.objects.nextGuestServerId hostId child, v.trace⟩ (.sent m))

abbrev Moves (p : Protocol) (named : Prop) (phase : Phase) : View → View → Prop := Relation.ReflTransGen (Move p named phase)

namespace Moves

variable {p : Protocol} {named : Prop} {phase : Phase} {v v' : View}

theorem one (move : Move p named phase v v') : Moves p named phase v v' := .single move

theorem entries (added : List Traffic) (each : ∀ entry ∈ added, ∀ v, Move p named phase v (v.log entry)) (v : View) :
    Moves p named phase v ⟨v.objects, v.trace ++ added⟩ := by
  induction added generalizing v with
  | nil =>
      rw [List.append_nil]
  | cons entry rest ih =>
      have first := each entry List.mem_cons_self v
      have later := ih (fun e member => each e (List.mem_cons_of_mem _ member)) (v.log entry)
      have whole : v.trace ++ entry :: rest = (v.trace ++ [entry]) ++ rest := by simp
      rw [whole]
      exact .head first later

-- An invariant of single moves is one of all moves.
theorem invariant (inv : View → Prop) (step : ∀ v v', Move p named phase v v' → inv v → inv v') (moves : Moves p named phase v v')
    (before : inv v) : inv v' := by
  induction moves with
  | refl => exact before
  | tail _ move ih => exact step _ _ move ih

end Moves

section Told

variable {p : Protocol} {named : Prop} {phase : Phase} {s s' : Session}

theorem Frame.moves {kept : Peer → Prop} {allowed : Traffic → Prop} (frame : Frame kept allowed s s')
    (objects : s'.objects = s.objects) (each : ∀ entry, allowed entry → ∀ v, Move p named phase v (v.log entry)) :
    Moves p named phase s.view s'.view := by
  obtain ⟨added, fine, grown⟩ := frame.trace
  have moves := Moves.entries added (fun entry member => each entry (fine entry member)) s.view
  have reached : s'.view = ⟨s.objects, s.trace ++ added⟩ := by rw [Session.view, objects, grown]
  rw [reached]
  exact moves

theorem moves_told (frame : TellsClient p s s') (objects : s'.objects = s.objects) : Moves p named phase s.view s'.view :=
  frame.moves objects fun entry tells v => .told v entry tells

theorem moves_shrunk (settled : phase ≠ .recovering) (shrinks : Shrinks s.objects s'.objects) (trace : s'.trace = s.trace) :
    Moves p named phase s.view s'.view := by
  have move : Move p named phase s.view ⟨s'.objects, s.trace⟩ := .shrunk s.view s'.objects settled shrinks
  rw [← trace] at move
  exact .single move

end Told

-- What the proxy tells the client on its own introduces and frees nothing.
theorem tells_spec (p : Protocol) (covered : Covered p) (entry : Traffic) (tells : Tells p entry) :
    ∃ m, entry = .sent m ∧ m.peer = .gtk ∧ m.origin = .own ∧ m.newId p = none := by
  cases entry with
  | sent m =>
      obtain ⟨toClient, own, event, listed, guestId, payload, opcode, found, built⟩ := tells
      refine ⟨m, rfl, toClient, own, ?_⟩
      unfold Sent.newId
      rw [toClient]
      cases decoded : decode p Peer.gtk.toward m.interface m.msg with
      | none => rfl
      | some call =>
          obtain ⟨walk, at_opcode, walked, is⟩ := decode_inv _ _ _ _ _ decoded
          obtain ⟨desc, here, member, name⟩ := opcode_listed _ _ _ (covered.events m.interface) found
          rw [built, opcode_of_built] at at_opcode
          have same : desc = call.desc := Option.some.inj (here.symm.trans at_opcode)
          subst same
          exact decode_quiet _ _ _ _ _ decoded (covered.quietEvents m.interface event (List.mem_cons_of_mem "configure" listed) _ member name)
  | _ => exact tells.elim

end WlResprox
