import WlResprox.Handoff

set_option autoImplicit false

namespace WlResprox

inductive Syscall where
  | bind (name : String)
  | listen
  | other (number : UInt64)
deriving DecidableEq, Repr

-- A bind that makes no name in the directory is among the other calls.
def Syscall.number : Syscall → UInt64
  | .bind _ => sysBind
  | .listen => 50
  | .other number => number

-- Why a traced process stands still. A call's exit shows what the call returned.
inductive Stop where
  | event
  | entry (call : Syscall)
  | exit (call : Syscall) (rax : UInt64)
  | signal (sig : Signal)
deriving DecidableEq, Repr

-- Where the target is. A stop and a death are reported to the tracer once.
inductive Tracee where
  | running
  | inside (call : Syscall)
  | stopped (stop : Stop) (reported : Bool)
  | dead (status : WaitStatus) (reported : Bool)
deriving DecidableEq, Repr

-- Whose socket a name leads to. A socket of the target takes connections once it
-- listens.
inductive Owner where
  | target (listening : Bool)
  | somebody
deriving DecidableEq, Repr

-- The history of a handover is ghost state: what the target did of its own, with
-- its socket under the public name or not, and what the helper did to it.
inductive Happening where
  | ran (exposed : Bool)
  | reached
  | bound (name : String) (watched : Bool)
  | renamed (tracee : Tracee)
  | caught (sig : Signal)
  | delivered (sig : Signal)
  | detached
  | froze
  | thawed
deriving DecidableEq, Repr

structure Scene where
  tracee : Tracee
  traced : Bool
  syscalls : Bool
  halted : Bool
  names : String → Option Owner
  log : List Happening

namespace Scene

def note (w : Scene) (happening : Happening) : Scene := { w with log := w.log ++ [happening] }

def move (w : Scene) (tracee : Tracee) : Scene := { w with tracee }

def Gone (w : Scene) : Prop := ∃ status reported, w.tracee = .dead status reported

-- Whether the target's own socket is what a name leads to.
def exposes (w : Scene) (name : String) : Bool := w.names name = some (.target true) ∨ w.names name = some (.target false)

def put (w : Scene) (name : String) (owner : Option Owner) : Scene :=
  { w with names := fun other => if other = name then owner else w.names other }

-- A process let go of by its tracer.
def loose (w : Scene) : Scene :=
  { w with
    traced := false
    syscalls := false
    tracee := match w.tracee with
      | .stopped (.entry call) _ => .inside call
      | .stopped _ _ => .running
      | other => other
    log := w.log ++ [.detached] }

end Scene

-- What the kernel lets the target and everybody else do between two calls of the
-- helper. Only a bind of the target makes its socket appear under a name.
inductive Elsewhere (cli : HandoffCli) : Scene → Scene → Prop where
  | runs (w : Scene) (running : w.tracee = .running) (free : w.halted = false) :
      Elsewhere cli w (w.note (.ran (w.exposes cli.watchName)))
  | enters (w : Scene) (call : Syscall) (running : w.tracee = .running) (free : w.halted = false) (untraced : w.syscalls = false) :
      Elsewhere cli w ((w.move (.inside call)).note (.ran (w.exposes cli.watchName)))
  | entersTraced (w : Scene) (call : Syscall) (running : w.tracee = .running) (free : w.halted = false) (traced : w.syscalls = true) :
      Elsewhere cli w ((w.move (.stopped (.entry call) false)).note (.ran (w.exposes cli.watchName)))
  | binds (w : Scene) (name : String) (rax : UInt64) (inside : w.tracee = .inside (.bind name)) (vacant : w.names name = none)
      (succeeds : 0 ≤ rax.toInt64) :
      Elsewhere cli w (((w.put name (some (.target false))).move
        (if w.syscalls then .stopped (.exit (.bind name) rax) false else .running)).note (.bound name w.syscalls))
  | listens (w : Scene) (name : String) (rax : UInt64) (inside : w.tracee = .inside .listen) (held : w.names name = some (.target false)) :
      Elsewhere cli w ((w.put name (some (.target true))).move
        (if w.syscalls then .stopped (.exit .listen rax) false else .running))
  | returns (w : Scene) (call : Syscall) (rax : UInt64) (inside : w.tracee = .inside call) :
      Elsewhere cli w (w.move (if w.syscalls then .stopped (.exit call rax) false else .running))
  | interrupted (w : Scene) (running : w.tracee = .running) (traced : w.traced = true) :
      Elsewhere cli w (w.move (.stopped .event false))
  | signalled (w : Scene) (sig : Signal) (running : w.tracee = .running) (traced : w.traced = true) :
      Elsewhere cli w ((w.move (.stopped (.signal sig) false)).note (.caught sig))
  | halts (w : Scene) (halted : Bool) (untraced : w.traced = false) : Elsewhere cli w { w with halted }
  | dies (w : Scene) (status : WaitStatus) (alive : ¬ w.Gone) : Elsewhere cli w (w.move (.dead status false))
  | renames (w : Scene) (names : String → Option Owner)
      (theirs : ∀ name listening, names name = some (.target listening) → w.names name = some (.target listening)) :
      Elsewhere cli w { w with names }
  | connects (w : Scene) (takes : w.names cli.watchName = some (.target true)) (alive : ¬ w.Gone) : Elsewhere cli w (w.note .reached)

def statusOf : Stop → WaitStatus
  | .event => .ptraceEvent
  | .entry _ | .exit _ _ => .ptraceSyscall
  | .signal sig => .stopped sig

-- A target taken out of a stop. Only a stop for a signal takes one along.
def resumed (w : Scene) (stop : Stop) (deliver : Option Signal) : Scene :=
  { w with
    syscalls := true
    tracee := match stop with
      | .entry call => .inside call
      | _ => .running
    log := match stop, deliver with
      | .signal _, some sig => w.log ++ [.delivered sig]
      | _, _ => w.log }

-- What the kernel makes of a call of the helper. Any call may fail, but for a
-- SIGCONT to a target that is there, and a failed one changes nothing.
inductive Serves (cli : HandoffCli) : Scene → (c : HandoffCall) → c.Answer → Scene → Prop where
  | exists (w : Scene) (path : String) : Serves cli w (.exists path) (w.names path).isSome w
  | removed (w : Scene) (path : String) (done : Bool) :
      Serves cli w (.removeFile path) done (if done then w.put path none else w)
  | renamed (w : Scene) (old new : String) (owner : Owner) (present : w.names old = some owner) :
      Serves cli w (.rename old new) true (((w.put old none).put new (some owner)).note (.renamed w.tracee))
  | notRenamed (w : Scene) (old new : String) : Serves cli w (.rename old new) false w
  | deadline (w : Scene) (late : Bool) : Serves cli w .deadlinePassed late w
  | killZero (w : Scene) (signalled : Bool) : Serves cli w .killZero signalled w
  | procStatus (w : Scene) (lines : Option (List (List Char))) : Serves cli w .procStatus lines w
  | seized (w : Scene) (alive : ¬ w.Gone) : Serves cli w .seize true { w with traced := true }
  | notSeized (w : Scene) : Serves cli w .seize false w
  | interrupt (w : Scene) (done : Bool) : Serves cli w .interrupt done w
  | stopReported (w : Scene) (stop : Stop) (stopped : w.tracee = .stopped stop false) :
      Serves cli w .waitpid (.ok (statusOf stop)) (w.move (.stopped stop true))
  | deathReported (w : Scene) (status : WaitStatus) (died : w.tracee = .dead status false)
      (ending : (∃ code, status = .exited code) ∨ ∃ sig, status = .signaled sig) :
      Serves cli w .waitpid (.ok status) (w.move (.dead status true))
  | stillAlive (w : Scene) : Serves cli w .waitpid (.ok .stillAlive) w
  | waitFailed (w : Scene) (errno : Errno) : Serves cli w .waitpid (.error errno) w
  | sleep (w : Scene) : Serves cli w .sleep () w
  | syscall (w : Scene) (deliver : Option Signal) (stop : Stop) (stopped : w.tracee = .stopped stop true) :
      Serves cli w (.syscall deliver) true (resumed w stop deliver)
  | notResumed (w : Scene) (deliver : Option Signal) : Serves cli w (.syscall deliver) false w
  | registers (w : Scene) (call : Syscall) (rax : UInt64) (stopped : w.tracee = .stopped (.exit call rax) true) :
      Serves cli w .getregs (some ⟨call.number, rax⟩) w
  | otherRegisters (w : Scene) (stop : Stop) (regs : Registers) (stopped : w.tracee = .stopped stop true)
      (other : ∀ call rax, stop ≠ .exit call rax) : Serves cli w .getregs (some regs) w
  | noRegisters (w : Scene) : Serves cli w .getregs none w
  | detached (w : Scene) (stop : Stop) (reported : Bool) (stopped : w.tracee = .stopped stop reported) :
      Serves cli w .detach true w.loose
  | notDetached (w : Scene) : Serves cli w .detach false w
  | inotifyInit (w : Scene) (done : Bool) : Serves cli w .inotifyInit done w
  | addWatch (w : Scene) (done : Bool) : Serves cli w .addWatch done w
  | poll (w : Scene) (ready : Option Bool) : Serves cli w .poll ready w
  | readEvents (w : Scene) (events : Option (List (Option String))) : Serves cli w .readEvents events w
  | frozen (w : Scene) : Serves cli w (.kill .sigstop) true ({ w with halted := true }.note .froze)
  | thawed (w : Scene) : Serves cli w (.kill .sigcont) true ({ w with halted := false }.note .thawed)
  | notKilled (w : Scene) (sig : Signal) (gone : sig = .sigcont → w.Gone) : Serves cli w (.kill sig) false w
  | exits (w : Scene) : Serves cli w .exit () w.loose

end WlResprox
