import WlResprox.Letters
import WlResprox.Programs
import WlResprox.Session

set_option autoImplicit false

namespace WlResprox

-- What one sendmsg put on a stream. Its descriptors ride with its first byte.
structure Segment where
  bytes : Bytes
  fds : List Fd
deriving DecidableEq

def bytesIn (segments : List Segment) : Bytes := segments.flatMap Segment.bytes

-- The descriptors of the segments of which some byte is among the first n bytes.
def startedFds : List Segment → Nat → List Fd
  | [], _ => []
  | segment :: rest, n => if n = 0 then [] else segment.fds ++ startedFds rest (n - segment.bytes.length)

-- What is left of a stream after its first n bytes were read.
def unread : List Segment → Nat → List Segment
  | [], _ => []
  | segment :: rest, n =>
      if n = 0 then segment :: rest
      else if n < segment.bytes.length then ⟨segment.bytes.drop n, []⟩ :: rest
      else unread rest (n - segment.bytes.length)

-- One direction of a connected socket: everything the kernel accepted for it, of
-- which the queue has not been received yet.
structure Channel where
  accepted : List Segment
  queue : List Segment
deriving DecidableEq

-- MAX_FDS_PER_RECV
def maxFdsPerRecv : Nat := 28

-- The buffer `fill` reads into.
def fillLen : Nat := 16 * 1024

-- recvmsg: up to n bytes, ending behind a segment that carries descriptors.
def recvmsg : Nat → List Segment → Bytes × List Fd × List Segment
  | _, [] => ([], [], [])
  | n, segment :: rest =>
      if n = 0 then ([], [], segment :: rest)
      else if n < segment.bytes.length then (segment.bytes.take n, segment.fds, ⟨segment.bytes.drop n, []⟩ :: rest)
      else if segment.fds ≠ [] then (segment.bytes, segment.fds, rest)
      else
        let (bytes, fds, later) := recvmsg (n - segment.bytes.length) rest
        (segment.bytes ++ bytes, fds, later)

inductive SendCall where
  | writable
  | sendWithFds (buf : Bytes) (fds : List Fd)

inductive SendAnswer where
  | sent (n : Nat)
  | wouldBlock
  | error

def SendCall.Answer : SendCall → Type
  | .writable => Bool
  | .sendWithFds _ _ => SendAnswer

def SendCall.Failed : (c : SendCall) → c.Answer → Prop
  | .writable, ready => ready = false
  | .sendWithFds _ _, answer => answer = .error

inductive ReceiveCall where
  | readable
  | recvWithFds

inductive ReceiveAnswer where
  | received (bytes : Bytes) (fds : List Fd)
  | wouldBlock
  | error

def ReceiveCall.Answer : ReceiveCall → Type
  | .readable => Bool
  | .recvWithFds => ReceiveAnswer

-- A send is accepted in part or as a whole, never as nothing.
inductive Sends : Channel → (c : SendCall) → c.Answer → Channel → Prop where
  | writable (ready : Bool) (w : Channel) : Sends w .writable ready w
  | sent (w : Channel) (buf : Bytes) (fds : List Fd) (n : Nat) (some : 0 < n) (within : n ≤ buf.length) :
      Sends w (.sendWithFds buf fds) (.sent n) ⟨w.accepted ++ [⟨buf.take n, fds⟩], w.queue ++ [⟨buf.take n, fds⟩]⟩
  | wouldBlock (w : Channel) (buf : Bytes) (fds : List Fd) : Sends w (.sendWithFds buf fds) .wouldBlock w
  | error (w : Channel) (buf : Bytes) (fds : List Fd) : Sends w (.sendWithFds buf fds) .error w

-- A socket that is reliable never fails a send.
def SendsOn (reliable : Prop) (w : Channel) (c : SendCall) (answer : c.Answer) (w' : Channel) : Prop :=
  Sends w c answer w' ∧ (reliable → ¬ c.Failed answer)

-- Descriptors that do not fit the control buffer of recv_with_fds make it fail,
-- and take the bytes they came with.
inductive Receives : Channel → (c : ReceiveCall) → c.Answer → Channel → Prop where
  | readable (ready : Bool) (w : Channel) : Receives w .readable ready w
  | received (w : Channel) (n : Nat) (some : 0 < n) (within : n ≤ fillLen) (waiting : w.queue ≠ [])
      (fits : (recvmsg n w.queue).2.1.length ≤ maxFdsPerRecv) :
      Receives w .recvWithFds (.received (recvmsg n w.queue).1 (recvmsg n w.queue).2.1) ⟨w.accepted, (recvmsg n w.queue).2.2⟩
  | closed (w : Channel) (drained : w.queue = []) : Receives w .recvWithFds (.received [] []) w
  | wouldBlock (w : Channel) : Receives w .recvWithFds .wouldBlock w
  | error (w : Channel) : Receives w .recvWithFds .error w
  | truncated (w : Channel) (n : Nat) (beyond : maxFdsPerRecv < (recvmsg n w.queue).2.1.length) :
      Receives w .recvWithFds .error ⟨w.accepted, (recvmsg n w.queue).2.2⟩

namespace Conn

-- One pass through the loop of `fill`.
def fillPass : Program ReceiveCall ReceiveCall.Answer (Pass Unit Fill) := do
  let ready : Bool ← .ask ReceiveCall.readable
  if ready then
    let answer : ReceiveAnswer ← .ask ReceiveCall.recvWithFds
    match answer with
    | .received bytes fds => return .leave (.data bytes fds)
    | .wouldBlock => return .again ()
    | .error => return .leave .error
  else return .leave .error

-- One pass through the loop of `write_message`, when `sent` bytes have gone out.
def writePass (msg : Bytes) (fds : List Fd) (sent : Nat) : Program SendCall SendCall.Answer (Pass Nat WriteOutcome) :=
  if sent < msg.length then do
    let ready : Bool ← .ask SendCall.writable
    if ready then
      let answer : SendAnswer ← .ask (SendCall.sendWithFds (msg.drop sent) (if sent = 0 then fds else []))
      match answer with
      | .sent n => return .again (sent + n)
      | .wouldBlock => return .again sent
      | .error => return .leave (.failed sent)
    else return .leave (.failed sent)
  else return .leave .complete

end Conn

-- A peer writing one letter after another.
structure Posting where
  done : List (Letter × WriteOutcome)
  pending : List Letter
  sent : Nat

def posting (s : Posting) : Program SendCall SendCall.Answer (Pass Posting (List (Letter × WriteOutcome))) :=
  match s.pending with
  | [] => return .leave s.done
  | letter :: rest => do
      match ← Conn.writePass letter.msg letter.fds s.sent with
      | .again sent => return .again { s with sent }
      | .leave outcome => return .again ⟨s.done ++ [(letter, outcome)], rest, 0⟩

-- A connection filled again and again until a fill fails or meets the end.
def filling (c : Conn) : Program ReceiveCall ReceiveCall.Answer (Pass Conn Fill) := do
  match ← Conn.fillPass with
  | .again () => return .again c
  | .leave fill =>
      match c.fill fill with
      | some next => return .again next
      | none => return .leave fill

section Segments

@[simp] theorem bytes_in_nil : bytesIn [] = [] := rfl

@[simp] theorem bytes_in_cons (segment : Segment) (rest : List Segment) : bytesIn (segment :: rest) = segment.bytes ++ bytesIn rest :=
  rfl

@[simp] theorem bytes_in_append (first second : List Segment) : bytesIn (first ++ second) = bytesIn first ++ bytesIn second :=
  List.flatMap_append

@[simp] theorem started_fds_zero (segments : List Segment) : startedFds segments 0 = [] := by
  cases segments <;> simp [startedFds]

@[simp] theorem unread_zero (segments : List Segment) : unread segments 0 = segments := by
  cases segments <;> simp [unread]

theorem started_fds_cons (segment : Segment) (rest : List Segment) (n : Nat) (some : n ≠ 0) :
    startedFds (segment :: rest) n = segment.fds ++ startedFds rest (n - segment.bytes.length) := by
  simp [startedFds, some]

theorem unread_cons (segment : Segment) (rest : List Segment) (n : Nat) (some : n ≠ 0) :
    unread (segment :: rest) n =
      if n < segment.bytes.length then ⟨segment.bytes.drop n, []⟩ :: rest else unread rest (n - segment.bytes.length) := by
  simp [unread, some]

theorem bytes_in_unread (segments : List Segment) (n : Nat) : bytesIn (unread segments n) = (bytesIn segments).drop n := by
  induction segments generalizing n with
  | nil => simp [unread]
  | cons segment rest ih =>
      unfold unread
      split
      · rename_i zero
        simp [zero]
      · split
        · rename_i some inside
          rw [bytes_in_cons, bytes_in_cons, List.drop_append_of_le_length (Nat.le_of_lt inside)]
        · rename_i some beyond
          rw [ih, bytes_in_cons, List.drop_append, List.drop_of_length_le (Nat.not_lt.mp beyond), List.nil_append]

theorem unread_unread (segments : List Segment) (n m : Nat) : unread (unread segments n) m = unread segments (n + m) := by
  induction segments generalizing n with
  | nil => simp [unread]
  | cons segment rest ih =>
      by_cases zero : n = 0
      · simp [zero]
      by_cases still : m = 0
      · simp [still]
      rw [unread_cons _ _ n zero, unread_cons _ _ (n + m) (by omega)]
      by_cases inside : n < segment.bytes.length
      · have length : (segment.bytes.drop n).length = segment.bytes.length - n := List.length_drop
        rw [if_pos inside, unread_cons _ _ m still]
        by_cases within : n + m < segment.bytes.length
        · rw [if_pos within, if_pos (length ▸ by omega), List.drop_drop]
        · rw [if_neg within, if_neg (length ▸ by omega), length]
          congr 1
          omega
      · rw [if_neg inside, if_neg (by omega), ih]
        congr 1
        omega

theorem started_fds_add (segments : List Segment) (n m : Nat) :
    startedFds segments (n + m) = startedFds segments n ++ startedFds (unread segments n) m := by
  induction segments generalizing n with
  | nil => simp [startedFds, unread]
  | cons segment rest ih =>
      by_cases zero : n = 0
      · simp [zero]
      by_cases still : m = 0
      · simp [still]
      rw [started_fds_cons _ _ (n + m) (by omega), started_fds_cons _ _ n zero, unread_cons _ _ n zero, List.append_assoc]
      congr 1
      by_cases inside : n < segment.bytes.length
      · have length : (segment.bytes.drop n).length = segment.bytes.length - n := List.length_drop
        rw [if_pos inside, show n - segment.bytes.length = 0 by omega, started_fds_zero, List.nil_append,
          started_fds_cons _ _ m still, List.nil_append, length]
        congr 1
        omega
      · rw [if_neg inside, ← ih]
        congr 1
        omega

theorem started_fds_append (first second : List Segment) (n : Nat) :
    startedFds (first ++ second) n = startedFds first n ++ startedFds second (n - (bytesIn first).length) := by
  induction first generalizing n with
  | nil => simp [startedFds]
  | cons segment rest ih =>
      by_cases zero : n = 0
      · simp [zero]
      · rw [List.cons_append, started_fds_cons _ _ n zero, started_fds_cons _ _ n zero, ih, List.append_assoc, bytes_in_cons,
          List.length_append, Nat.sub_sub]

theorem unread_append (first second : List Segment) (n : Nat) (within : n ≤ (bytesIn first).length) :
    unread (first ++ second) n = unread first n ++ second := by
  induction first generalizing n with
  | nil =>
      have : n = 0 := by simpa using within
      simp [this]
  | cons segment rest ih =>
      rw [List.cons_append, unread, unread]
      split
      · rfl
      · split
        · rfl
        · rw [ih _ (by rw [bytes_in_cons, List.length_append] at within; omega)]

-- A read takes bytes off the front, and the descriptors of what it begins.
theorem recvmsg_spec (n : Nat) (queue : List Segment) (whole : ∀ segment ∈ queue, segment.bytes ≠ []) :
    (recvmsg n queue).1 = (bytesIn queue).take (recvmsg n queue).1.length ∧
      (recvmsg n queue).2.1 = startedFds queue (recvmsg n queue).1.length ∧
      (recvmsg n queue).2.2 = unread queue (recvmsg n queue).1.length := by
  induction queue generalizing n with
  | nil => simp [recvmsg, startedFds, unread]
  | cons segment rest ih =>
      have filled : segment.bytes.length ≠ 0 := by
        have := whole segment List.mem_cons_self
        simpa using this
      unfold recvmsg
      by_cases zero : n = 0
      · simp [zero]
      · rw [if_neg zero]
        by_cases inside : n < segment.bytes.length
        · have length : (segment.bytes.take n).length = n := by
            rw [List.length_take]
            omega
          rw [if_pos inside]
          dsimp only
          rw [length]
          refine ⟨?_, ?_, ?_⟩
          · rw [bytes_in_cons, List.take_append_of_le_length (by omega)]
          · rw [startedFds, if_neg zero, show n - segment.bytes.length = 0 by omega, started_fds_zero, List.append_nil]
          · rw [unread, if_neg zero, if_pos inside]
        · rw [if_neg inside]
          by_cases carries : segment.fds = []
          · obtain ⟨bytes, fds, later⟩ := ih (n - segment.bytes.length) fun s member => whole s (List.mem_cons_of_mem _ member)
            rw [if_neg (by simp [carries])]
            dsimp only
            rw [List.length_append]
            refine ⟨?_, ?_, ?_⟩
            · rw [bytes_in_cons, List.take_length_add_append, ← bytes]
            · rw [startedFds, if_neg (by omega), carries, List.nil_append, Nat.add_sub_cancel_left, ← fds]
            · rw [unread, if_neg (by omega), if_neg (by omega), Nat.add_sub_cancel_left, ← later]
          · rw [if_pos carries]
            dsimp only
            refine ⟨?_, ?_, ?_⟩
            · rw [bytes_in_cons, List.take_left]
            · rw [startedFds, if_neg filled, Nat.sub_self, started_fds_zero, List.append_nil]
            · rw [unread, if_neg filled, if_neg (Nat.lt_irrefl _), Nat.sub_self, unread_zero]

end Segments

end WlResprox
