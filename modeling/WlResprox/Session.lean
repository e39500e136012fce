import WlResprox.Recreation
import WlResprox.ShadowTable
import WlResprox.Trackers

set_option autoImplicit false

namespace WlResprox

inductive Peer where
  | gtk
  | host
deriving DecidableEq, Repr

def Direction.src : Direction → Peer
  | .clientToHost => .gtk
  | .hostToClient => .host

def Direction.dst : Direction → Peer
  | .clientToHost => .host
  | .hostToClient => .gtk

-- What a read of a socket meets. Reading no bytes is the end of the stream.
inductive Fill where
  | data (bytes : Bytes) (fds : List Fd)
  | error
deriving DecidableEq

inductive WriteOutcome where
  | complete
  | failed (accepted : Nat)
deriving DecidableEq, Repr

-- The kernel decides how writes end, so a connection carries its answers from
-- the start. A write it has no answer for completes.
structure Conn where
  outcomes : List WriteOutcome
  readBuf : Bytes
  readFds : List Fd
deriving DecidableEq

namespace Conn

def new (outcomes : List WriteOutcome) : Conn := ⟨outcomes, [], []⟩

-- `none` is both a failed read and the end of the stream.
def fill (c : Conn) : Fill → Option Conn
  | .data [] _ => none
  | .data bytes fds => some { c with readBuf := c.readBuf ++ bytes, readFds := c.readFds ++ fds }
  | .error => none

def spendWrite (c : Conn) : Conn := { c with outcomes := c.outcomes.tail }

def nextWrite (c : Conn) : WriteOutcome := c.outcomes.headD .complete

end Conn

-- Why the proxy wrote a message: the relay passed it on, recovery replayed a
-- recipe, or the proxy made it up.
inductive Origin where
  | relayed
  | replayed (guestId : UInt32)
  | own
deriving DecidableEq, Repr

structure Sent where
  peer : Peer
  origin : Origin
  interface : Interface
  msg : Bytes
  fds : List Fd
  outcome : WriteOutcome
deriving DecidableEq

-- The history of a session is ghost state: what the proxy wrote (under the
-- interface it composed the message for), what the relay and what recovery's
-- waits took off a socket, how much a wait had read past its end, and where one
-- host connection ends and another begins.
inductive Traffic where
  | sent (message : Sent)
  | took (peer : Peer) (msg : Bytes)
  | skimmed (peer : Peer) (msg : Bytes)
  | waited (peer : Peer) (past : Bytes)
  | served (fd : Fd) (mimeType : String) (bytes : Bytes)
  | lost
  | reconnected
  | resumed
deriving DecidableEq

structure Session where
  gtk : Conn
  host : Conn
  objects : ShadowTable
  graph : RecreationGraph
  grabs : GrabTracker
  bufferFlow : BufferFlowTracker
  pendingFrames : PendingFrameTracker
  pendingDmabufPlanes : HashMap (UInt32 × List DmabufPlane)
  clipboardCache : ClipboardCache
  reclaim : ReclaimState
  frozen : Bool
  trace : List Traffic

-- What a run cannot change: the generated tables and the installed applications.
structure Env where
  protocol : Protocol
  desktopApps : DesktopAppIndex

-- What the operating system answers during one step.
structure Ambient where
  order : HashOrder
  clientBinary : Option String
  teeSucceeds : Bool
  pipeWritable : Bool

namespace Session

def new (gtkOutcomes hostOutcomes : List WriteOutcome) (clipboardCache : ClipboardCache) : Session where
  gtk := Conn.new gtkOutcomes
  host := Conn.new hostOutcomes
  objects := ShadowTable.new
  graph := RecreationGraph.new
  grabs := GrabTracker.new
  bufferFlow := BufferFlowTracker.new
  pendingFrames := PendingFrameTracker.new
  pendingDmabufPlanes := ∅
  clipboardCache := clipboardCache
  reclaim := ⟨false, none, none⟩
  frozen := false
  trace := []

def conn (s : Session) : Peer → Conn
  | .gtk => s.gtk
  | .host => s.host

def setConn (s : Session) (peer : Peer) (c : Conn) : Session :=
  { s with
    gtk := match peer with | .gtk => c | .host => s.gtk
    host := match peer with | .gtk => s.host | .host => c }

def log (s : Session) (entry : Traffic) : Session := { s with trace := s.trace ++ [entry] }

def writeMessage (s : Session) (peer : Peer) (origin : Origin) (interface : Interface) (msg : Bytes) (fds : List Fd) :
    Bool × Session :=
  let outcome := (s.conn peer).nextWrite
  (outcome = .complete,
    (s.setConn peer (s.conn peer).spendWrite).log (.sent ⟨peer, origin, interface, msg, fds, outcome⟩))

def setReadFds (s : Session) (peer : Peer) (fds : List Fd) : Session :=
  s.setConn peer { s.conn peer with readFds := fds }

def drainBuf (s : Session) (peer : Peer) (consumed : Nat) : Session :=
  s.setConn peer { s.conn peer with readBuf := (s.conn peer).readBuf.drop consumed }

variable (s : Session) (peer query : Peer)

theorem conn_set_conn (c : Conn) : (s.setConn peer c).conn query = if query = peer then c else s.conn query := by
  cases peer <;> cases query <;> rfl

@[simp] theorem conn_log (entry : Traffic) : (s.log entry).conn query = s.conn query := by
  cases query <;> rfl

section Writes

variable (origin : Origin) (interface : Interface) (msg : Bytes) (fds : List Fd)

@[simp] theorem write_objects : (s.writeMessage peer origin interface msg fds).2.objects = s.objects := rfl
@[simp] theorem write_graph : (s.writeMessage peer origin interface msg fds).2.graph = s.graph := rfl
@[simp] theorem write_grabs : (s.writeMessage peer origin interface msg fds).2.grabs = s.grabs := rfl
@[simp] theorem write_buffer_flow : (s.writeMessage peer origin interface msg fds).2.bufferFlow = s.bufferFlow := rfl
@[simp] theorem write_pending_frames : (s.writeMessage peer origin interface msg fds).2.pendingFrames = s.pendingFrames := rfl
@[simp] theorem write_pending_dmabuf_planes :
    (s.writeMessage peer origin interface msg fds).2.pendingDmabufPlanes = s.pendingDmabufPlanes := rfl
@[simp] theorem write_clipboard_cache :
    (s.writeMessage peer origin interface msg fds).2.clipboardCache = s.clipboardCache := rfl
@[simp] theorem write_reclaim : (s.writeMessage peer origin interface msg fds).2.reclaim = s.reclaim := rfl
@[simp] theorem write_frozen : (s.writeMessage peer origin interface msg fds).2.frozen = s.frozen := rfl

theorem write_trace : (s.writeMessage peer origin interface msg fds).2.trace =
    s.trace ++ [.sent ⟨peer, origin, interface, msg, fds, (s.conn peer).nextWrite⟩] := rfl

theorem write_conn : (s.writeMessage peer origin interface msg fds).2.conn query =
    if query = peer then (s.conn query).spendWrite else s.conn query := by
  rw [writeMessage, conn_log, conn_set_conn]
  split
  · rename_i same
    rw [same]
  · rfl

-- A write uses up one answer and touches nothing that was read.
@[simp] theorem write_read_buf :
    ((s.writeMessage peer origin interface msg fds).2.conn query).readBuf = (s.conn query).readBuf := by
  rw [write_conn]
  split <;> rfl

@[simp] theorem write_read_fds :
    ((s.writeMessage peer origin interface msg fds).2.conn query).readFds = (s.conn query).readFds := by
  rw [write_conn]
  split <;> rfl

end Writes

end Session

end WlResprox
