import WlResprox.Recover
import WlResprox.Runs
import WlResprox.Tables

set_option autoImplicit false

namespace WlResprox

-- recover_state_after_reconnect is suspended in a wait or about to replay the
-- next recipe; these are the locals that live across its awaits.
structure RegistryWait where
  registryGuestId : UInt32
  registry : Interface
  registryHostId : UInt32
  syncHostId : UInt32
  globals : Globals

structure Replay where
  globals : Globals
  registry : Interface
  registryHostId : UInt32
  rest : List (UInt32 × Recreatable)

-- Where run_connection stands: at its select, in the relay loop of one
-- direction, inside recovery, finished, or dead of a panic.
inductive Control where
  | selecting
  | relaying (direction : Direction)
  | awaitingRegistry (w : RegistryWait)
  | replaying (r : Replay)
  | awaitingConfigure (h : Handshake) (r : Replay)
  | awaitingAck (h : Handshake) (r : Replay)
  | ended
  | panicked

def Control.isSelecting : Control → Bool
  | .selecting => true
  | _ => false

theorem Control.eq_selecting {control : Control} (selects : control.isSelecting = true) : control = .selecting := by
  cases control <;> first | rfl | cases selects

structure State where
  session : Session
  control : Control

-- A lapse is the five second timer of a timed wait. A tee may fill the shared
-- cache at any moment, on this connection or another.
inductive Event where
  | gtkReadable (fill : Fill)
  | hostReadable (fill : Fill)
  | turn (ambient : Ambient)
  | reconnect (ambient : Ambient) (outcomes : List WriteOutcome)
  | lapse
  | cached (mimeType : String) (bytes : Bytes)

def start (gtkOutcomes hostOutcomes : List WriteOutcome) (clipboardCache : ClipboardCache) : State :=
  ⟨Session.new gtkOutcomes hostOutcomes clipboardCache, .selecting⟩

def freeze (s : Session) : Session := { s with frozen := true }.log .lost

def reconnected (s : Session) (outcomes : List WriteOutcome) : Session :=
  { s with host := Conn.new outcomes, objects := s.objects.bumpGeneration }.log .reconnected

def resume (p : Protocol) (order : HashOrder) (s : Session) : State :=
  ⟨{ synthesizeGrabReleases p order s with frozen := false }.log .resumed, .selecting⟩

def beginRecovery (p : Protocol) (order : HashOrder) (s : Session) : State :=
  let s := { s with reclaim := { s.reclaim with activeSourceHostId := none } }
  match s.objects.findGuestIdByInterfaceName order "wl_registry" with
  | none => resume p order s
  | some registryGuestId =>
      match s.objects.interface registryGuestId with
      | none => ⟨s, .panicked⟩
      | some registry =>
          match askForGlobals s registryGuestId with
          | (false, failed) => ⟨failed, .selecting⟩
          | (true, asked) =>
              ⟨asked, .awaitingRegistry
                ⟨registryGuestId, registry, s.objects.nextHostId, s.objects.nextHostId + 1, ∅⟩⟩

def endWait (s : Session) (peer : Peer) : Session := s.log (.waited peer (s.conn peer).readBuf)

def heedRegistry (s : Session) (w : RegistryWait) (msg : Bytes) : State :=
  if senderOf msg = w.registryHostId ∧ opcodeOfMessage msg = 0 then
    ⟨s, .awaitingRegistry { w with globals := noteGlobal w.globals (msg.drop headerLen) }⟩
  else if senderOf msg = w.syncHostId ∧ opcodeOfMessage msg = 0 then
    ⟨{ endWait s .host with objects := s.objects.map w.registryGuestId w.registryHostId w.registry },
      .replaying ⟨w.globals, w.registry, w.registryHostId, s.graph.recipes⟩⟩
  else ⟨s, .awaitingRegistry w⟩

def passToClient (s : Session) (guestId : UInt32) (interface : Interface) (msg : Bytes) : Bool × Session :=
  s.writeMessage .gtk .relayed interface (buildMessage guestId (opcodeOfMessage msg) (msg.drop headerLen)) []

-- The host's own configure goes to the client and the client's own ack back; a
-- wait that fails or lapses only costs this toplevel its repaint.
def heedConfigure (p : Protocol) (s : Session) (h : Handshake) (r : Replay) (msg : Bytes) : State :=
  if senderOf msg = h.hostId ∧ some (opcodeOfMessage msg) = eventOpcode p h.interface "configure" then
    match passToClient s h.guestId h.interface msg with
    | (true, written) => ⟨written, .awaitingConfigure h r⟩
    | (false, failed) => ⟨endWait failed .host, .replaying r⟩
  else if senderOf msg = h.xdgSurfaceHostId ∧ some (opcodeOfMessage msg) = eventOpcode p h.xdgSurface "configure" then
    match passToClient s h.xdgSurfaceGuestId h.xdgSurface msg with
    | (true, written) => ⟨endWait written .host, .awaitingAck h r⟩
    | (false, failed) => ⟨endWait failed .host, .replaying r⟩
  else ⟨s, .awaitingConfigure h r⟩

def heedAck (p : Protocol) (s : Session) (h : Handshake) (r : Replay) (msg : Bytes) : State :=
  if senderOf msg = h.xdgSurfaceGuestId ∧ some (opcodeOfMessage msg) = requestOpcode p h.xdgSurface "ack_configure" then
    let (_, written) := s.writeMessage .host .relayed h.xdgSurface
      (buildMessage h.xdgSurfaceHostId (opcodeOfMessage msg) (msg.drop headerLen)) []
    ⟨endWait written .gtk, .replaying r⟩
  else ⟨s, .awaitingAck h r⟩

def skimmed (s : Session) (peer : Peer) (consumed : Nat) (msg : Bytes) : Session :=
  (s.drainBuf peer consumed).log (.skimmed peer msg)

-- next_message: a wait takes the first complete message, and reads more only
-- when there is none.
def skim (s : Session) (peer : Peer) (heed : Session → Bytes → State) : Option State :=
  match takeMessage (s.conn peer).readBuf with
  | none => none
  | some (msg, consumed) => some (heed (skimmed s peer consumed msg) msg)

def replayTurn (p : Protocol) (order : HashOrder) (s : Session) (r : Replay) : State :=
  match r.rest with
  | [] => resume p order (settleRecovery p order r.globals s)
  | (guestId, recipe) :: rest =>
      match replayRecipe p r.globals r.registry r.registryHostId s guestId recipe with
      | none => ⟨s, .panicked⟩
      | some (s, none) => ⟨s, .replaying { r with rest := rest }⟩
      | some (s, some h) => ⟨s, .awaitingConfigure h { r with rest := rest }⟩

def turn (env : Env) (ambient : Ambient) (s : Session) : Control → Option State
  | .relaying direction =>
      match relayTurn env ambient direction s with
      | none => some ⟨s, .selecting⟩
      | some (_, next) => some ⟨next, .relaying direction⟩
  | .awaitingRegistry w => skim s .host fun s msg => heedRegistry s w msg
  | .awaitingConfigure h r => skim s .host fun s msg => heedConfigure env.protocol s h r msg
  | .awaitingAck h r => skim s .gtk fun s msg => heedAck env.protocol s h r msg
  | .replaying r => some (replayTurn env.protocol ambient.order s r)
  | _ => none

def starving (s : Session) (peer : Peer) : Bool := (takeMessage (s.conn peer).readBuf).isNone

def readGtk (s : Session) (fill : Fill) : Control → Option State
  | .selecting =>
      match s.gtk.fill fill with
      | none => some ⟨s, .ended⟩
      | some c => some ⟨s.setConn .gtk c, .relaying .clientToHost⟩
  | .awaitingAck h r =>
      if starving s .gtk then
        match s.gtk.fill fill with
        | none => some ⟨endWait s .gtk, .replaying r⟩
        | some c => some ⟨s.setConn .gtk c, .awaitingAck h r⟩
      else none
  | _ => none

def readHost (s : Session) (fill : Fill) : Control → Option State
  | .selecting =>
      if s.frozen then none
      else
        match s.host.fill fill with
        | none => some ⟨freeze s, .selecting⟩
        | some c => some ⟨s.setConn .host c, .relaying .hostToClient⟩
  | .awaitingRegistry w =>
      if starving s .host then
        match s.host.fill fill with
        | none => some ⟨endWait s .host, .selecting⟩
        | some c => some ⟨s.setConn .host c, .awaitingRegistry w⟩
      else none
  | .awaitingConfigure h r =>
      if starving s .host then
        match s.host.fill fill with
        | none => some ⟨endWait s .host, .replaying r⟩
        | some c => some ⟨s.setConn .host c, .awaitingConfigure h r⟩
      else none
  | _ => none

def lapse (s : Session) : Control → Option State
  | .awaitingConfigure _ r => some ⟨endWait s .host, .replaying r⟩
  | .awaitingAck _ r => some ⟨endWait s .gtk, .replaying r⟩
  | _ => none

def step (env : Env) (st : State) : Event → Option State
  | .gtkReadable fill => readGtk st.session fill st.control
  | .hostReadable fill => readHost st.session fill st.control
  | .turn ambient => turn env ambient st.session st.control
  | .reconnect ambient outcomes =>
      match st.control with
      | .selecting =>
          if st.session.frozen then some (beginRecovery env.protocol ambient.order (reconnected st.session outcomes)) else none
      | _ => none
  | .lapse => lapse st.session st.control
  | .cached mimeType bytes =>
      some { st with session := { st.session with clipboardCache := st.session.clipboardCache.store mimeType bytes } }

-- Everything a step can do, one constructor for each place where the machine
-- moves. Invariants are proved from this, never from the step function.
inductive Transition (env : Env) : State → Event → State → Prop where
  | readClient (s : Session) (fill : Fill) (c : Conn) (filled : s.gtk.fill fill = some c) :
      Transition env ⟨s, .selecting⟩ (.gtkReadable fill) ⟨s.setConn .gtk c, .relaying .clientToHost⟩
  | clientGone (s : Session) (fill : Fill) (gone : s.gtk.fill fill = none) :
      Transition env ⟨s, .selecting⟩ (.gtkReadable fill) ⟨s, .ended⟩
  | readAck (s : Session) (fill : Fill) (c : Conn) (h : Handshake) (r : Replay)
      (starved : takeMessage s.gtk.readBuf = none) (filled : s.gtk.fill fill = some c) :
      Transition env ⟨s, .awaitingAck h r⟩ (.gtkReadable fill) ⟨s.setConn .gtk c, .awaitingAck h r⟩
  | ackGone (s : Session) (fill : Fill) (h : Handshake) (r : Replay)
      (starved : takeMessage s.gtk.readBuf = none) (gone : s.gtk.fill fill = none) :
      Transition env ⟨s, .awaitingAck h r⟩ (.gtkReadable fill) ⟨endWait s .gtk, .replaying r⟩
  | readHost (s : Session) (fill : Fill) (c : Conn) (thawed : s.frozen = false) (filled : s.host.fill fill = some c) :
      Transition env ⟨s, .selecting⟩ (.hostReadable fill) ⟨s.setConn .host c, .relaying .hostToClient⟩
  | hostGone (s : Session) (fill : Fill) (thawed : s.frozen = false) (gone : s.host.fill fill = none) :
      Transition env ⟨s, .selecting⟩ (.hostReadable fill) ⟨freeze s, .selecting⟩
  | readRegistry (s : Session) (fill : Fill) (c : Conn) (w : RegistryWait)
      (starved : takeMessage s.host.readBuf = none) (filled : s.host.fill fill = some c) :
      Transition env ⟨s, .awaitingRegistry w⟩ (.hostReadable fill) ⟨s.setConn .host c, .awaitingRegistry w⟩
  | registryGone (s : Session) (fill : Fill) (w : RegistryWait)
      (starved : takeMessage s.host.readBuf = none) (gone : s.host.fill fill = none) :
      Transition env ⟨s, .awaitingRegistry w⟩ (.hostReadable fill) ⟨endWait s .host, .selecting⟩
  | readConfigure (s : Session) (fill : Fill) (c : Conn) (h : Handshake) (r : Replay)
      (starved : takeMessage s.host.readBuf = none) (filled : s.host.fill fill = some c) :
      Transition env ⟨s, .awaitingConfigure h r⟩ (.hostReadable fill) ⟨s.setConn .host c, .awaitingConfigure h r⟩
  | configureGone (s : Session) (fill : Fill) (h : Handshake) (r : Replay)
      (starved : takeMessage s.host.readBuf = none) (gone : s.host.fill fill = none) :
      Transition env ⟨s, .awaitingConfigure h r⟩ (.hostReadable fill) ⟨endWait s .host, .replaying r⟩
  | relayed (s next : Session) (direction : Direction) (ambient : Ambient) (disposal : Disposal)
      (turned : relayTurn env ambient direction s = some (disposal, next)) :
      Transition env ⟨s, .relaying direction⟩ (.turn ambient) ⟨next, .relaying direction⟩
  | relayDone (s : Session) (direction : Direction) (ambient : Ambient)
      (starved : takeMessage (s.conn direction.src).readBuf = none) :
      Transition env ⟨s, .relaying direction⟩ (.turn ambient) ⟨s, .selecting⟩
  | skimRegistry (s : Session) (w : RegistryWait) (ambient : Ambient) (msg : Bytes) (consumed : Nat)
      (taken : takeMessage s.host.readBuf = some (msg, consumed)) :
      Transition env ⟨s, .awaitingRegistry w⟩ (.turn ambient) (heedRegistry (skimmed s .host consumed msg) w msg)
  | skimConfigure (s : Session) (h : Handshake) (r : Replay) (ambient : Ambient) (msg : Bytes) (consumed : Nat)
      (taken : takeMessage s.host.readBuf = some (msg, consumed)) :
      Transition env ⟨s, .awaitingConfigure h r⟩ (.turn ambient)
        (heedConfigure env.protocol (skimmed s .host consumed msg) h r msg)
  | skimAck (s : Session) (h : Handshake) (r : Replay) (ambient : Ambient) (msg : Bytes) (consumed : Nat)
      (taken : takeMessage s.gtk.readBuf = some (msg, consumed)) :
      Transition env ⟨s, .awaitingAck h r⟩ (.turn ambient) (heedAck env.protocol (skimmed s .gtk consumed msg) h r msg)
  | replayed (s : Session) (r : Replay) (ambient : Ambient) :
      Transition env ⟨s, .replaying r⟩ (.turn ambient) (replayTurn env.protocol ambient.order s r)
  | reconnect (s : Session) (ambient : Ambient) (outcomes : List WriteOutcome) (frozen : s.frozen = true) :
      Transition env ⟨s, .selecting⟩ (.reconnect ambient outcomes)
        (beginRecovery env.protocol ambient.order (reconnected s outcomes))
  | configureLapse (s : Session) (h : Handshake) (r : Replay) :
      Transition env ⟨s, .awaitingConfigure h r⟩ .lapse ⟨endWait s .host, .replaying r⟩
  | ackLapse (s : Session) (h : Handshake) (r : Replay) :
      Transition env ⟨s, .awaitingAck h r⟩ .lapse ⟨endWait s .gtk, .replaying r⟩
  | cached (s : Session) (control : Control) (mimeType : String) (bytes : Bytes) :
      Transition env ⟨s, control⟩ (.cached mimeType bytes)
        ⟨{ s with clipboardCache := s.clipboardCache.store mimeType bytes }, control⟩

theorem skim_some (s : Session) (peer : Peer) (heed : Session → Bytes → State) (next : State)
    (taken : skim s peer heed = some next) :
    ∃ msg consumed, takeMessage (s.conn peer).readBuf = some (msg, consumed) ∧ next = heed (skimmed s peer consumed msg) msg := by
  unfold skim at taken
  split at taken
  · cases taken
  · rename_i msg consumed complete
    cases taken
    exact ⟨msg, consumed, complete, rfl⟩

theorem turn_transition (env : Env) (ambient : Ambient) (s : Session) (control : Control) (next : State)
    (taken : turn env ambient s control = some next) : Transition env ⟨s, control⟩ (.turn ambient) next := by
  cases control with
  | relaying direction =>
      simp only [turn] at taken
      split at taken
      · rename_i idle
        cases taken
        exact .relayDone s direction ambient ((relay_turn_none env ambient direction s).mp idle)
      · rename_i disposal handled turned
        cases taken
        exact .relayed s handled direction ambient disposal turned
  | awaitingRegistry w =>
      simp only [turn] at taken
      obtain ⟨msg, consumed, complete, rfl⟩ := skim_some _ _ _ _ taken
      exact .skimRegistry s w ambient msg consumed complete
  | awaitingConfigure h r =>
      simp only [turn] at taken
      obtain ⟨msg, consumed, complete, rfl⟩ := skim_some _ _ _ _ taken
      exact .skimConfigure s h r ambient msg consumed complete
  | awaitingAck h r =>
      simp only [turn] at taken
      obtain ⟨msg, consumed, complete, rfl⟩ := skim_some _ _ _ _ taken
      exact .skimAck s h r ambient msg consumed complete
  | replaying r =>
      cases taken
      exact .replayed s r ambient
  | selecting | ended | panicked => cases taken

theorem read_gtk_transition (env : Env) (s : Session) (fill : Fill) (control : Control) (next : State)
    (taken : readGtk s fill control = some next) : Transition env ⟨s, control⟩ (.gtkReadable fill) next := by
  cases control with
  | selecting =>
      simp only [readGtk] at taken
      split at taken <;> cases taken
      · rename_i gone
        exact .clientGone s fill gone
      · rename_i c filled
        exact .readClient s fill c filled
  | awaitingAck h r =>
      simp only [readGtk] at taken
      split at taken
      · rename_i starved
        have idle : takeMessage s.gtk.readBuf = none := Option.isNone_iff_eq_none.mp starved
        split at taken <;> cases taken
        · rename_i gone
          exact .ackGone s fill h r idle gone
        · rename_i c filled
          exact .readAck s fill c h r idle filled
      · cases taken
  | _ => cases taken

theorem read_host_transition (env : Env) (s : Session) (fill : Fill) (control : Control) (next : State)
    (taken : readHost s fill control = some next) : Transition env ⟨s, control⟩ (.hostReadable fill) next := by
  cases control with
  | selecting =>
      simp only [readHost] at taken
      split at taken
      · cases taken
      · rename_i thawed
        split at taken <;> cases taken
        · rename_i gone
          exact .hostGone s fill (Bool.eq_false_iff.mpr thawed) gone
        · rename_i c filled
          exact .readHost s fill c (Bool.eq_false_iff.mpr thawed) filled
  | awaitingRegistry w =>
      simp only [readHost] at taken
      split at taken
      · rename_i starved
        have idle : takeMessage s.host.readBuf = none := Option.isNone_iff_eq_none.mp starved
        split at taken <;> cases taken
        · rename_i gone
          exact .registryGone s fill w idle gone
        · rename_i c filled
          exact .readRegistry s fill c w idle filled
      · cases taken
  | awaitingConfigure h r =>
      simp only [readHost] at taken
      split at taken
      · rename_i starved
        have idle : takeMessage s.host.readBuf = none := Option.isNone_iff_eq_none.mp starved
        split at taken <;> cases taken
        · rename_i gone
          exact .configureGone s fill h r idle gone
        · rename_i c filled
          exact .readConfigure s fill c h r idle filled
      · cases taken
  | _ => cases taken

theorem step_transition (env : Env) (st : State) (event : Event) (next : State) (taken : step env st event = some next) :
    Transition env st event next := by
  obtain ⟨s, control⟩ := st
  cases event with
  | gtkReadable fill => exact read_gtk_transition env s fill control next taken
  | hostReadable fill => exact read_host_transition env s fill control next taken
  | turn ambient => exact turn_transition env ambient s control next taken
  | reconnect ambient outcomes =>
      cases control with
      | selecting =>
          simp only [step] at taken
          split at taken
          · rename_i frozen
            cases taken
            exact .reconnect s ambient outcomes frozen
          · cases taken
      | _ => cases taken
  | lapse =>
      cases control with
      | awaitingConfigure h r =>
          cases taken
          exact .configureLapse s h r
      | awaitingAck h r =>
          cases taken
          exact .ackLapse s h r
      | _ => cases taken
  | cached mimeType bytes =>
      cases taken
      exact .cached s control mimeType bytes

-- The environment of the concrete runs: the core tables, no installed
-- applications, and an operating system in a good mood.
def coreEnv : Env := ⟨coreProtocol, ⟨[], ∅⟩⟩

def ordinary : Ambient := ⟨HashOrder.insertionOrder, none, true, true⟩

def coreStart : State := start [] [] ClipboardCache.new

def turns (n : Nat) : List Event := List.replicate n (.turn ordinary)

def checkedRun (check : State → Event → Bool) (st : State) (events : List Event) : Option State :=
  events.foldlM (fun st event => if check st event then step coreEnv st event else none) st

def coreRun (check : State → Event → Bool) (events : List Event) : Option State := checkedRun check coreStart events

def unchecked (_ : State) (_ : Event) : Bool := true

theorem unchecked_run {st reached : State} {events : List Event} (fold : checkedRun unchecked st events = some reached) :
    Runs (step coreEnv) (fun _ _ => True) st events reached :=
  Runs.of_checked unchecked (fun _ _ _ => trivial) fold

def requestRegistry (newId : UInt32) : Bytes := buildMessage 1 1 (putU32 [] newId)

def bindGlobal (name : UInt32) (interface : String) (newId : UInt32) : Bytes := buildMessage 2 0 (bindPayload name interface 1 newId)

def globalEvent (name : UInt32) (interface : String) : Bytes := buildMessage 2 0 (putU32 (putStr (putU32 [] name) interface) 1)

-- The client's registry is 2. On a new connection the proxy's own registry is
-- 2 and its sync callback 3.
def registryDone : Bytes := buildMessage 3 0 (putU32 [] 0)

def deleteSyncCallback : Bytes := buildMessage 1 1 (putU32 [] 3)

-- The client holds a registry, then its compositor goes away.
def registryLost : List Event := .gtkReadable (.data (requestRegistry 2) []) :: turns 2 ++ [.hostReadable .error]

def reconnectCore : Event := .reconnect ordinary []

def createSurface (newId : UInt32) : Bytes := buildMessage 3 0 (putU32 [] newId)

-- A client with a keyboard (6), a surface (7), an xdg_surface (8) and a
-- toplevel (9), and the compositor that advertises what it bound.
def openWindow : Bytes :=
  requestRegistry 2 ++ bindGlobal 1 "wl_compositor" 3 ++ bindGlobal 2 "xdg_wm_base" 4 ++ bindGlobal 3 "wl_seat" 5 ++
    buildMessage 5 1 (putU32 [] 6) ++ createSurface 7 ++ buildMessage 4 2 (putU32 (putU32 [] 8) 7) ++
    buildMessage 8 1 (putU32 [] 9)

def windowLost : List Event := .gtkReadable (.data openWindow []) :: turns 9 ++ [.hostReadable .error]

end WlResprox
