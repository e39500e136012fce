import Mathlib.Tactic.Common
import WlResprox.Programs

set_option autoImplicit false

namespace WlResprox

inductive Signal where
  | sigtrap
  | sigstop
  | sigcont
  | other (number : Nat)
deriving DecidableEq, Repr

inductive WaitStatus where
  | exited (code : Int)
  | signaled (sig : Signal)
  | stopped (sig : Signal)
  | ptraceEvent
  | ptraceSyscall
  | continued
  | stillAlive
deriving DecidableEq, Repr

inductive Errno where
  | echild
  | other (number : Nat)
deriving DecidableEq, Repr

-- The registers the helper looks at.
structure Registers where
  origRax : UInt64
  rax : UInt64
deriving DecidableEq, Repr

inductive FreezeMethod where
  | ptrace
  | sigstop
deriving DecidableEq, Repr

-- Paths are names in the one directory the helper is given.
structure HandoffCli where
  watchName : String
  renameTo : String
  freezeMethod : FreezeMethod
deriving DecidableEq, Repr

inductive HandoffError where
  | removingStale
  | timedOut
  | exitedBefore
  | seize
  | interrupt
  | exited (code : Int)
  | signaled (sig : Signal)
  | syscallAfterEvent
  | syscallAtEntry
  | syscallAtExit
  | syscallAfterSignal
  | getregs
  | renaming
  | detach
  | unexpected (status : WaitStatus)
  | gone
  | waitpid
  | inotifyInit
  | watching
  | poll
  | readingEvents
  | sigstop
deriving DecidableEq, Repr

inductive HandoffCall where
  | exists (path : String)
  | removeFile (path : String)
  | rename (old new : String)
  | deadlinePassed
  | killZero
  | procStatus
  | seize
  | interrupt
  | waitpid
  | sleep
  | syscall (deliver : Option Signal)
  | getregs
  | detach
  | inotifyInit
  | addWatch
  | poll
  | readEvents
  | kill (sig : Signal)
  | exit

-- A call that can fail and answers nothing else is answered by whether it worked.
def HandoffCall.Answer : HandoffCall → Type
  | .exists _ | .removeFile _ | .rename _ _ | .deadlinePassed | .killZero => Bool
  | .procStatus => Option (List (List Char))
  | .seize | .interrupt => Bool
  | .waitpid => Except Errno WaitStatus
  | .sleep => Unit
  | .syscall _ => Bool
  | .getregs => Option Registers
  | .detach | .inotifyInit | .addWatch => Bool
  | .poll => Option Bool
  | .readEvents => Option (List (Option String))
  | .kill _ => Bool
  | .exit => Unit

inductive HandoffPoint where
  | start
  | tracing (inSyscall : Bool)
  | watching
deriving DecidableEq, Repr

abbrev HandoffProgram (α : Type) : Type := Program HandoffCall HandoffCall.Answer α

abbrev HandoffPass : Type := Pass HandoffPoint (Except HandoffError Unit)

-- The return from `main`: the process ends.
def finish (outcome : Except HandoffError Unit) : HandoffProgram HandoffPass := do
  let () ← Program.ask HandoffCall.exit
  return .leave outcome

-- A way out of `run_ptrace`. Dropping the guard detaches unless it was disarmed.
def bail (armed : Bool) (failure : HandoffError) : HandoffProgram HandoffPass :=
  if armed then do
    let _ : Bool ← Program.ask HandoffCall.detach
    finish (.error failure)
  else finish (.error failure)

-- A process is alive when it can be signalled and its status does not say zombie.
def targetIsAlive : HandoffProgram Bool := do
  let signalled : Bool ← Program.ask HandoffCall.killZero
  if signalled then
    let status : Option (List (List Char)) ← Program.ask HandoffCall.procStatus
    match status with
    | some lines => return !lines.any fun line => "State:".toList.isPrefixOf line && line.contains 'Z'
    | none => return false
  else return false

def sysBind : UInt64 := 49

-- Lets the target go on until its next system call begins or ends.
def resumeTarget (deliver : Option Signal) (inSyscall : Bool) (failure : HandoffError) : HandoffProgram HandoffPass := do
  let resumed : Bool ← Program.ask (HandoffCall.syscall deliver)
  if resumed then return .again (.tracing inSyscall) else bail true failure

-- The guard is disarmed as soon as the target was detached by hand.
def handOver (cli : HandoffCli) : HandoffProgram HandoffPass := do
  let renamed : Bool ← Program.ask (HandoffCall.rename cli.watchName cli.renameTo)
  let detached : Bool ← Program.ask HandoffCall.detach
  if renamed then
    if detached then finish (.ok ()) else finish (.error .detach)
  else finish (.error .renaming)

-- What the registers name at the exit of a call, and what it returned.
def examine (cli : HandoffCli) (regs : Registers) : HandoffProgram HandoffPass :=
  if regs.origRax.toInt64 = sysBind.toInt64 ∧ 0 ≤ regs.rax.toInt64 then do
    let present : Bool ← Program.ask (HandoffCall.exists cli.watchName)
    if present then handOver cli else resumeTarget none false .syscallAtExit
  else resumeTarget none false .syscallAtExit

def syscallExit (cli : HandoffCli) : HandoffProgram HandoffPass := do
  let answer : Option Registers ← Program.ask HandoffCall.getregs
  match answer with
  | none => bail true .getregs
  | some regs => examine cli regs

-- One pass through the loop of `run_ptrace`.
def ptraceRound (cli : HandoffCli) (inSyscall : Bool) : HandoffProgram HandoffPass := do
  let late : Bool ← Program.ask HandoffCall.deadlinePassed
  if late then bail true .timedOut
  else
    let answer : Except Errno WaitStatus ← Program.ask HandoffCall.waitpid
    match answer with
    | .ok .stillAlive =>
        let () ← Program.ask HandoffCall.sleep
        return .again (.tracing inSyscall)
    | .ok (.exited code) => bail false (.exited code)
    | .ok (.signaled sig) => bail false (.signaled sig)
    | .ok .ptraceEvent => resumeTarget none inSyscall .syscallAfterEvent
    | .ok .ptraceSyscall => if inSyscall then syscallExit cli else resumeTarget none true .syscallAtEntry
    | .ok (.stopped .sigtrap) | .ok (.stopped .sigstop) => resumeTarget none inSyscall .syscallAfterSignal
    | .ok (.stopped sig) => resumeTarget (some sig) inSyscall .syscallAfterSignal
    | .ok .continued => bail true (.unexpected .continued)
    | .error .echild => bail false .gone
    | .error _ => bail true .waitpid

def runPtrace : HandoffProgram HandoffPass := do
  let alive ← targetIsAlive
  if alive then
    let seized : Bool ← Program.ask HandoffCall.seize
    if seized then
      let interrupted : Bool ← Program.ask HandoffCall.interrupt
      if interrupted then return .again (.tracing false) else bail true .interrupt
    else finish (.error .seize)
  else finish (.error .exitedBefore)

def runSigstop : HandoffProgram HandoffPass := do
  let started : Bool ← Program.ask HandoffCall.inotifyInit
  if started then
    let watched : Bool ← Program.ask HandoffCall.addWatch
    if watched then return .again .watching else finish (.error .watching)
  else finish (.error .inotifyInit)

-- The target goes on even when the rename failed.
def freezeAndRename (cli : HandoffCli) : HandoffProgram HandoffPass := do
  let frozen : Bool ← Program.ask (HandoffCall.kill .sigstop)
  if frozen then
    let renamed : Bool ← Program.ask (HandoffCall.rename cli.watchName cli.renameTo)
    let _ : Bool ← Program.ask (HandoffCall.kill .sigcont)
    if renamed then finish (.ok ()) else finish (.error .renaming)
  else finish (.error .sigstop)

-- Only a file of the watched name is waited for.
def readThrough (cli : HandoffCli) (events : List (Option String)) : HandoffProgram HandoffPass :=
  if events.contains (some cli.watchName) then freezeAndRename cli else return .again .watching

-- One pass through the loop of `run_sigstop`.
def sigstopRound (cli : HandoffCli) : HandoffProgram HandoffPass := do
  let late : Bool ← Program.ask HandoffCall.deadlinePassed
  if late then finish (.error .timedOut)
  else
    let alive ← targetIsAlive
    if alive then
      let polled : Option Bool ← Program.ask HandoffCall.poll
      match polled with
      | none => finish (.error .poll)
      | some false => return .again .watching
      | some true =>
          let answer : Option (List (Option String)) ← Program.ask HandoffCall.readEvents
          match answer with
          | none => finish (.error .readingEvents)
          | some events => readThrough cli events
    else finish (.error .exitedBefore)

def handoff (cli : HandoffCli) : HandoffPoint → HandoffProgram HandoffPass
  | .start => do
      let run := if cli.freezeMethod = .sigstop then runSigstop else runPtrace
      let stale : Bool ← Program.ask (HandoffCall.exists cli.watchName)
      if stale then
        let removed : Bool ← Program.ask (HandoffCall.removeFile cli.watchName)
        if removed then run else finish (.error .removingStale)
      else run
  | .tracing inSyscall => ptraceRound cli inSyscall
  | .watching => sigstopRound cli

end WlResprox
