import WlResprox.Interceptions
import WlResprox.Reclaiming
import Mathlib.Logic.Function.Basic

set_option autoImplicit false

namespace WlResprox

-- A tee at work: its pump, and for the history what it has read and whether it
-- came to the end of the stream.
structure Transfer where
  pump : Pump
  read : Bytes
  whole : Bool

-- What a transfer put into the cache.
structure Stored where
  transfer : Nat
  mimeType : String
  bytes : Bytes
deriving DecidableEq

-- Everything that shares one clipboard cache: the connections of all clients,
-- each at its start until its first event, and the pumps. The stores are history,
-- the newest first.
structure Desk where
  connections : Nat → State
  cache : ClipboardCache
  transfers : List Transfer
  stored : List Stored

inductive DeskEvent where
  | connection (i : Nat) (event : Event)
  | pump (k : Nat) (arrival : Arrival)

def Arrival.bytes : Arrival → Bytes
  | .chunk c _ => c.bytes
  | .eof | .readError => []

def Arrival.isEof : Arrival → Bool
  | .eof => true
  | _ => false

-- The bytes a pump stores at this turn.
def Pump.keeps (pump : Pump) : Arrival → Option Bytes
  | .eof => pump.collected.filter fun bytes => !bytes.isEmpty
  | _ => none

def Transfer.start (mimeType : String) : Transfer := ⟨Pump.start mimeType, [], false⟩

def Transfer.turn (transfer : Transfer) (cache : ClipboardCache) (arrival : Arrival) : Transfer :=
  ⟨(transfer.pump.turn cache arrival).1, transfer.read ++ arrival.bytes, transfer.whole || arrival.isEof⟩

namespace Desk

def opened (gtkOutcomes hostOutcomes : Nat → List WriteOutcome) : Desk :=
  ⟨fun i => start (gtkOutcomes i) (hostOutcomes i) ClipboardCache.new, ClipboardCache.new, [], []⟩

-- A connection as it sees the shared cache.
def connection (d : Desk) (i : Nat) : State :=
  { d.connections i with session := { (d.connections i).session with clipboardCache := d.cache } }

-- What the cache holds for a type by the history: the newest store of it.
def newest (d : Desk) (mimeType : String) : Option Stored := d.stored.find? fun entry => entry.mimeType = mimeType

end Desk

-- The event a turn of the relay takes, read by the signature of its sender.
def inboundOf (p : Protocol) (s : Session) : Option Inbound :=
  match takeMessage s.host.readBuf with
  | none => none
  | some (msg, _) =>
      match resolveSender p s.objects .hostToClient (headerOf msg) with
      | none => none
      | some (sender, interface, desc) =>
          match walkSignature (msg.drop headerLen) desc.signature with
          | .error _ => none
          | .ok walk => some ⟨.hostToClient, headerOf msg, sender, interface, desc, walk,
              walk.objectOffsets.map fun offset => wordAt msg (headerLen + offset)⟩

-- The type a tee is started for.
def teeOf (ambient : Ambient) (m : Inbound) (payload : Bytes) (fds : List Fd) : Option String :=
  if m.isEvent "wl_data_source" "send" && ambient.teeSucceeds && !fds.isEmpty then
    ((readStr payload 0).map Prod.fst).filter isCacheableMime
  else none

def lastWritten (trace : List Traffic) : Option Bytes :=
  match trace.getLast? with
  | some (.sent m) => some m.msg
  | _ => none

def startsTee (env : Env) (ambient : Ambient) (s : Session) : Option String :=
  match inboundOf env.protocol s, relayTurn env ambient .hostToClient s with
  | some m, some (.relayed, next) => (lastWritten next.trace).bind fun out =>
      teeOf ambient m (out.drop headerLen) (s.host.readFds.take m.walk.fdCount)
  | _, _ => none

def Desk.starts (env : Env) (d : Desk) (i : Nat) (event : Event) : Option String :=
  match event, (d.connection i).control with
  | .turn ambient, .relaying .hostToClient => startsTee env ambient (d.connection i).session
  | _, _ => none

def Event.isCached : Event → Bool
  | .cached _ _ => true
  | _ => false

-- The cache changes by the pumps alone, so a connection's own cached event does
-- not occur here.
def deskStep (env : Env) (d : Desk) : DeskEvent → Option Desk
  | .connection i event =>
      if event.isCached then none
      else
        match step env (d.connection i) event with
        | none => none
        | some next => some { d with
            connections := Function.update d.connections i next
            transfers := d.transfers ++ (d.starts env i event).toList.map Transfer.start }
  | .pump k arrival =>
      match d.transfers[k]? with
      | none => none
      | some transfer =>
          if transfer.pump.returned then none
          else some { d with
            cache := (transfer.pump.turn d.cache arrival).2
            transfers := d.transfers.set k (transfer.turn d.cache arrival)
            stored := ((transfer.pump.keeps arrival).map (Stored.mk k transfer.pump.mimeType)).toList ++ d.stored }

-- A transfer read to its end and passed on unmodified, of a size and a type
-- that are cached.
structure Transfer.Complete (transfer : Transfer) (mimeType : String) (bytes : Bytes) : Prop where
  ended : transfer.whole = true
  mime : transfer.pump.mimeType = mimeType
  cacheable : isCacheableMime mimeType = true
  read : transfer.read = bytes
  passed : transfer.pump.toHost = bytes
  filled : bytes ≠ []
  fits : bytes.length ≤ maxCachedBytes

-- These bytes are those of one complete transfer, and no transfer of the type
-- was stored after it.
def Desk.Sourced (d : Desk) (mimeType : String) (bytes : Bytes) : Prop :=
  ∃ entry transfer, d.newest mimeType = some entry ∧ entry.bytes = bytes ∧ d.transfers[entry.transfer]? = some transfer ∧
    transfer.Complete mimeType bytes

-- Every type offered and all bytes served have their source.
def Reclaimed (d : Desk) : Traffic → Prop
  | .sent m => m.peer = .host → m.origin = .own → m.interface = wlDataSource → ∃ source mimeType bytes,
      m.msg = buildMessage source 0 (putStr [] mimeType) ∧ d.Sourced mimeType bytes
  | .served _ mimeType bytes => d.Sourced mimeType bytes
  | _ => True

theorem substitute_tee_of (ambient : Ambient) (m : Inbound) (payload : Bytes) (fds : List Fd) (mimeType : String)
    (tees : teeOf ambient m payload fds = some mimeType) :
    ∃ real, fds.getLast? = some real ∧ substituteTee ambient m payload fds = fds.dropLast ++ [.tee real] := by
  simp only [teeOf, Bool.and_eq_true, Option.ite_none_right_eq_some] at tees
  obtain ⟨⟨⟨send, succeeds⟩, carries⟩, typed⟩ := tees
  obtain ⟨read, cacheable⟩ := Option.filter_eq_some_iff.mp typed
  obtain ⟨⟨found, stop⟩, reads, rfl⟩ := Option.map_eq_some_iff.mp read
  obtain ⟨real, last⟩ : ∃ real, fds.getLast? = some real := by
    rw [← Option.isSome_iff_exists, List.getLast?_isSome]
    simpa using carries
  refine ⟨real, last, ?_⟩
  simp only [substituteTee, if_pos send, reads, if_pos cacheable, last, if_pos succeeds]

section Frames

variable {env : Env} {d next : Desk} {i k : Nat} {event : Event} {arrival : Arrival}

theorem desk_step_connection (taken : deskStep env d (.connection i event) = some next) :
    ∃ st, step env (d.connection i) event = some st ∧ next.connections = Function.update d.connections i st ∧
      next.cache = d.cache ∧ next.stored = d.stored ∧
      next.transfers = d.transfers ++ (d.starts env i event).toList.map Transfer.start := by
  simp only [deskStep] at taken
  split at taken
  · cases taken
  · split at taken
    · cases taken
    · rename_i st stepped
      cases taken
      exact ⟨st, stepped, rfl, rfl, rfl, rfl⟩

theorem desk_step_pump (taken : deskStep env d (.pump k arrival) = some next) :
    ∃ transfer, d.transfers[k]? = some transfer ∧ transfer.pump.returned = false ∧ next.connections = d.connections ∧
      next.cache = (transfer.pump.turn d.cache arrival).2 ∧ next.transfers = d.transfers.set k (transfer.turn d.cache arrival) ∧
      next.stored = ((transfer.pump.keeps arrival).map (Stored.mk k transfer.pump.mimeType)).toList ++ d.stored := by
  simp only [deskStep] at taken
  split at taken
  · cases taken
  · rename_i transfer found
    split at taken
    · cases taken
    · rename_i running
      cases taken
      exact ⟨transfer, found, Bool.eq_false_iff.mpr running, rfl, rfl, rfl, rfl⟩

theorem turn_keeps (pump : Pump) (cache : ClipboardCache) (kept : pump.keeps arrival = none) : (pump.turn cache arrival).2 = cache := by
  cases arrival with
  | chunk chunk write => cases write <;> rfl
  | readError => rfl
  | eof =>
      simp only [Pump.turn]
      split
      · rfl
      · rename_i bytes collected
        simp only [Pump.keeps, collected, Option.filter_some] at kept
        split
        · rfl
        · rename_i filled
          simp [filled] at kept

theorem turn_stores (pump : Pump) (cache : ClipboardCache) (bytes : Bytes) (kept : pump.keeps arrival = some bytes) :
    arrival = .eof ∧ bytes ≠ [] ∧ pump.collected = some bytes ∧ (pump.turn cache arrival).2 = cache.store pump.mimeType bytes := by
  cases arrival with
  | chunk | readError => cases kept
  | eof =>
      obtain ⟨collected, filled⟩ := Option.filter_eq_some_iff.mp kept
      refine ⟨rfl, by simpa using filled, collected, ?_⟩
      simp only [Pump.turn, collected]
      exact if_neg (by simpa using filled)

end Frames

-- What is known of every transfer at every moment: until it has returned, all
-- that was read has been passed on and is in the accumulator as far as it fits.
structure Transfer.Sound (transfer : Transfer) : Prop where
  cacheable : isCacheableMime transfer.pump.mimeType = true
  running : transfer.pump.returned = false → transfer.pump.toHost = transfer.read ∧ transfer.pump.collected = collects transfer.read

theorem transfer_start_sound (mimeType : String) (cacheable : isCacheableMime mimeType = true) : (Transfer.start mimeType).Sound :=
  ⟨cacheable, fun _ => ⟨rfl, collects_start⟩⟩

theorem turn_mime (pump : Pump) (cache : ClipboardCache) (arrival : Arrival) : (pump.turn cache arrival).1.mimeType = pump.mimeType := by
  cases arrival with
  | chunk chunk write => cases write <;> rfl
  | readError | eof => rfl

theorem transfer_turn_sound (transfer : Transfer) (cache : ClipboardCache) (arrival : Arrival) (sound : transfer.Sound)
    (running : transfer.pump.returned = false) : (transfer.turn cache arrival).Sound := by
  obtain ⟨passed, collected⟩ := sound.running running
  refine ⟨by rw [Transfer.turn, turn_mime]; exact sound.cacheable, fun still => ?_⟩
  cases arrival with
  | chunk chunk write =>
      cases write with
      | complete =>
          refine ⟨?_, ?_⟩
          · show transfer.pump.toHost ++ chunk.bytes = _
            rw [passed]
            rfl
          · show Pump.collect transfer.pump.collected chunk.bytes = _
            rw [collected, collect_collects]
            rfl
      | failed accepted => cases still
  | readError | eof => cases still

theorem transfer_turn_complete (transfer : Transfer) (cache : ClipboardCache) (arrival : Arrival) (bytes : Bytes) (sound : transfer.Sound)
    (running : transfer.pump.returned = false) (kept : transfer.pump.keeps arrival = some bytes) :
    (transfer.turn cache arrival).Complete transfer.pump.mimeType bytes := by
  obtain ⟨rfl, filled, holds, -⟩ := turn_stores transfer.pump cache bytes kept
  obtain ⟨passed, collected⟩ := sound.running running
  rw [holds, collects] at collected
  split at collected
  · rename_i fits
    cases collected
    exact ⟨by simp [Transfer.turn, Arrival.isEof], turn_mime _ _ _, sound.cacheable, by simp [Transfer.turn, Arrival.bytes], passed, filled, fits⟩
  · cases collected

-- A transfer that is complete has returned and does not change any more.
structure Archived (d : Desk) : Prop where
  sound : ∀ transfer ∈ d.transfers, transfer.Sound
  cached : ∀ mimeType, d.cache.get mimeType = (d.newest mimeType).map Stored.bytes
  complete : ∀ entry ∈ d.stored, ∃ transfer, d.transfers[entry.transfer]? = some transfer ∧ transfer.pump.returned = true ∧
    transfer.Complete entry.mimeType entry.bytes

theorem Archived.sourced {d : Desk} {mimeType : String} {bytes : Bytes} (archived : Archived d) (got : d.cache.get mimeType = some bytes) :
    d.Sourced mimeType bytes := by
  rw [archived.cached, Option.map_eq_some_iff] at got
  obtain ⟨entry, newest, rfl⟩ := got
  have same : entry.mimeType = mimeType := by simpa using List.find?_some newest
  obtain ⟨transfer, found, -, complete⟩ := archived.complete entry (List.mem_of_find?_eq_some newest)
  exact ⟨entry, transfer, newest, rfl, found, same ▸ complete⟩

theorem tee_of_cacheable (ambient : Ambient) (m : Inbound) (payload : Bytes) (fds : List Fd) (mimeType : String)
    (tees : teeOf ambient m payload fds = some mimeType) : isCacheableMime mimeType = true := by
  simp only [teeOf, Option.ite_none_right_eq_some] at tees
  exact (Option.filter_eq_some_iff.mp tees.2).2

theorem starts_cacheable {env : Env} {d : Desk} {i : Nat} {event : Event} {mimeType : String}
    (starts : d.starts env i event = some mimeType) : isCacheableMime mimeType = true := by
  unfold Desk.starts at starts
  split at starts
  · unfold startsTee at starts
    split at starts
    · obtain ⟨out, -, tees⟩ := Option.bind_eq_some_iff.mp starts
      exact tee_of_cacheable _ _ _ _ _ tees
    · cases starts
  · cases starts

section Steps

variable {env : Env} {d next : Desk}

theorem desk_step_archived_connection {i : Nat} {event : Event} (archived : Archived d)
    (taken : deskStep env d (.connection i event) = some next) : Archived next := by
  obtain ⟨st, -, -, cache, stored, transfers⟩ := desk_step_connection taken
  refine ⟨fun transfer member => ?_, fun mimeType => ?_, fun entry member => ?_⟩
  · rw [transfers, List.mem_append, List.mem_map] at member
    rcases member with earlier | ⟨mimeType, starts, rfl⟩
    · exact archived.sound transfer earlier
    · exact transfer_start_sound mimeType (starts_cacheable (Option.mem_toList.mp starts))
  · rw [cache, Desk.newest, stored]
    exact archived.cached mimeType
  · rw [stored] at member
    obtain ⟨transfer, found, complete⟩ := archived.complete entry member
    refine ⟨transfer, ?_, complete⟩
    rw [transfers, List.getElem?_append_left (List.getElem?_eq_some_iff.mp found).1]
    exact found

theorem desk_step_archived_pump {k : Nat} {arrival : Arrival} (archived : Archived d)
    (taken : deskStep env d (.pump k arrival) = some next) : Archived next := by
  obtain ⟨transfer, found, running, -, cache, transfers, stored⟩ := desk_step_pump taken
  have sound := archived.sound transfer (List.mem_of_getElem? found)
  have here : next.transfers[k]? = some (transfer.turn d.cache arrival) := by
    rw [transfers, List.getElem?_set_self (List.getElem?_eq_some_iff.mp found).1]
  -- No entry is of the transfer that is still running, so the others keep theirs.
  have kept : ∀ entry ∈ d.stored, ∃ transfer, next.transfers[entry.transfer]? = some transfer ∧ transfer.pump.returned = true ∧
      transfer.Complete entry.mimeType entry.bytes := fun entry member => by
    obtain ⟨other, earlier, returned, complete⟩ := archived.complete entry member
    have differs : k ≠ entry.transfer := by
      rintro rfl
      rw [found] at earlier
      cases earlier
      rw [running] at returned
      cases returned
    refine ⟨other, ?_, returned, complete⟩
    rw [transfers, List.getElem?_set_ne differs]
    exact earlier
  refine ⟨fun other member => ?_, fun mimeType => ?_, fun entry member => ?_⟩
  · rw [transfers] at member
    rcases List.mem_or_eq_of_mem_set member with earlier | rfl
    · exact archived.sound other earlier
    · exact transfer_turn_sound transfer d.cache arrival sound running
  · rw [cache, Desk.newest, stored]
    cases keeping : transfer.pump.keeps arrival with
    | none =>
        rw [turn_keeps _ _ keeping]
        exact archived.cached mimeType
    | some bytes =>
        rw [(turn_stores _ _ bytes keeping).2.2.2, get_store]
        simp only [Option.map_some, Option.toList_some, List.cons_append, List.nil_append, List.find?_cons]
        split
        · rename_i same
          simp [same]
        · rename_i differs
          simp only [show (decide (transfer.pump.mimeType = mimeType)) = false from decide_eq_false fun same => differs same.symm]
          exact archived.cached mimeType
  · rw [stored] at member
    rcases List.mem_append.mp member with added | earlier
    · obtain ⟨bytes, keeping, rfl⟩ := Option.map_eq_some_iff.mp (Option.mem_toList.mp added)
      have complete := transfer_turn_complete transfer d.cache arrival bytes sound running keeping
      obtain ⟨rfl, -⟩ := turn_stores transfer.pump d.cache bytes keeping
      exact ⟨_, here, rfl, complete⟩
    · exact kept entry earlier

theorem desk_step_archived {event : DeskEvent} (archived : Archived d) (taken : deskStep env d event = some next) : Archived next := by
  cases event with
  | connection i event => exact desk_step_archived_connection archived taken
  | pump k arrival => exact desk_step_archived_pump archived taken

theorem opened_archived (gtkOutcomes hostOutcomes : Nat → List WriteOutcome) : Archived (Desk.opened gtkOutcomes hostOutcomes) :=
  ⟨by simp [Desk.opened], fun _ => rfl, by simp [Desk.opened]⟩

theorem cached_get (cache : ClipboardCache) (order : HashOrder) (mimeType : String) (cached : mimeType ∈ cache.cachedMimeTypes order) :
    ∃ bytes, cache.get mimeType = some bytes := by
  have listed := (HashOrder.mem_arrange order _ _).mp cached
  exact Option.isSome_iff_exists.mp (AList.lookup_isSome.mpr listed)

theorem drawn_reclaimed {p : Protocol} {ambient : Ambient} {i : Nat} {msg : Bytes} {entry : Traffic} (archived : Archived d)
    (drawn : Drawn p ambient (d.connection i).session msg entry) : Reclaimed d entry := by
  cases drawn with
  | offered m source mimeType reclaims cached bytes =>
      intro _ _ _
      obtain ⟨held, got⟩ := cached_get d.cache ambient.order mimeType cached
      exact ⟨source, mimeType, held, bytes, archived.sourced got⟩
  | served fd mimeType bytes fetches cached => exact archived.sourced cached

theorem desk_step_reclaimed {event : DeskEvent} (covered : Covered env.protocol) (archived : Archived d)
    (taken : deskStep env d event = some next) (j : Nat) : Adds (Reclaimed d) (d.connections j).session (next.connections j).session := by
  cases event with
  | pump k arrival =>
      obtain ⟨transfer, -, -, connections, -⟩ := desk_step_pump taken
      rw [connections]
      exact .same rfl
  | connection i event =>
      obtain ⟨st, stepped, connections, -⟩ := desk_step_connection taken
      rw [connections]
      by_cases same : j = i
      · subst same
        rw [Function.update_self]
        refine (transition_drawn covered (step_transition env _ _ _ stepped)).mono fun entry drawn => ?_
        cases entry with
        | sent m =>
            intro toHost own source
            obtain ⟨ambient, msg, consumed, -, -, -, drew⟩ := drawn ⟨toHost, own, source⟩
            exact drawn_reclaimed archived drew toHost own source
        | served fd mimeType bytes =>
            obtain ⟨ambient, msg, consumed, -, -, -, drew⟩ := drawn trivial
            exact drawn_reclaimed archived drew
        | _ => trivial
      · rw [Function.update_of_ne same]
        exact .same rfl

end Steps

-- Whatever the order of all clients' messages, crashes and pumps: what any
-- connection offers or serves after a crash is one whole transfer, the last of
-- its type to have been stored.
theorem reclaimed_whole (env : Env) (covered : Covered env.protocol) (gtkOutcomes hostOutcomes : Nat → List WriteOutcome)
    (events : List DeskEvent) (d next : Desk) (event : DeskEvent)
    (run : Runs (deskStep env) (fun _ _ => True) (Desk.opened gtkOutcomes hostOutcomes) events d) (taken : deskStep env d event = some next) :
    ∀ i, Adds (Reclaimed d) (d.connections i).session (next.connections i).session := by
  have archived := run.invariant Archived (opened_archived gtkOutcomes hostOutcomes) fun d event next archived _ taken =>
    desk_step_archived archived taken
  exact desk_step_reclaimed covered archived taken

-- A client with a data source (4), which the compositor asks for its text.
def copying : List Event :=
  .gtkReadable (.data (requestRegistry 2 ++ bindGlobal 1 "wl_data_device_manager" 3 ++ buildMessage 3 0 (putU32 [] 4)) []) :: turns 4 ++
    [.hostReadable (.data (buildMessage 4 1 (putStr [] "text/plain")) [.received 1])] ++ turns 2

-- Another client with a pointer loses its compositor, and its next button press
-- pays for the offer.
def pasting : List Event :=
  .gtkReadable (.data seatWithPointer []) :: turns 4 ++
    [.hostReadable .error, reconnectCore,
      .hostReadable (.data (globalEvent 1 "wl_seat" ++ globalEvent 2 "wl_data_device_manager" ++ registryDone) [])] ++ turns 6 ++
    [.hostReadable (.data (pointerPressed 9) [])]

def copiedChunk : Chunk := ⟨[104, 105], by decide, by decide⟩

def copiedThenPasted : List DeskEvent :=
  copying.map (.connection 0) ++ [.pump 0 (.chunk copiedChunk .complete), .pump 0 .eof] ++ pasting.map (.connection 1)

def sourceOffers (trace : List Traffic) : List Bytes := trace.filterMap fun
  | .sent m => if m.peer = .host ∧ m.origin = .own ∧ m.interface = wlDataSource then some m.msg else none
  | _ => none

-- The first client's text is offered on the second one's new connection.
theorem reclaimed_whole_elsewhere : ∃ d next, Runs (deskStep coreEnv) (fun _ _ => True) (Desk.opened (fun _ => []) fun _ => []) copiedThenPasted d ∧
    deskStep coreEnv d (.connection 1 (.turn ordinary)) = some next ∧
    sourceOffers (next.connections 1).session.trace = [buildMessage 7 0 (putStr [] "text/plain")] ∧
    ∀ i, Adds (Reclaimed d) (d.connections i).session (next.connections i).session := by
  have fold : ((copiedThenPasted.foldlM (deskStep coreEnv) (Desk.opened (fun _ => []) fun _ => [])).bind fun d =>
      (deskStep coreEnv d (.connection 1 (.turn ordinary))).map fun next => sourceOffers (next.connections 1).session.trace) =
        some [buildMessage 7 0 (putStr [] "text/plain")] := by
    decide +kernel
  obtain ⟨d, reached, onward⟩ := Option.bind_eq_some_iff.mp fold
  obtain ⟨next, taken, offers⟩ := Option.map_eq_some_iff.mp onward
  have run := Runs.of_fold reached
  exact ⟨d, next, run, taken, offers, reclaimed_whole coreEnv core_covered (fun _ => []) (fun _ => []) _ d next _ run taken⟩

end WlResprox
