import WlResprox.Connection
import WlResprox.Effects

set_option autoImplicit false

namespace WlResprox

-- A whole message: its header declares just the bytes there are.
def Framed (msg : Bytes) : Prop := takeMessage msg = some (msg, msg.length)

instance (msg : Bytes) : Decidable (Framed msg) := inferInstanceAs (Decidable (_ = _))

def takenFrom (peer : Peer) (history : List Traffic) : List Bytes :=
  history.filterMap fun
    | .took source msg => if source = peer then some msg else none
    | _ => none

-- The messages of a stream that end within its first bytes.
def completeWithin : Nat → List Bytes → List Bytes
  | _, [] => []
  | received, msg :: rest => if msg.length ≤ received then msg :: completeWithin (received - msg.length) rest else []

-- What is left over when the complete messages are gone.
structure Leftover (buf : Bytes) (later : List Bytes) : Prop where
  short : ∀ msg rest, later = msg :: rest → buf.length < msg.length
  none : later = [] → buf = []

theorem complete_within_unique (handled later : List Bytes) (buf : Bytes) (leftover : Leftover buf later) :
    completeWithin (handled.flatten.length + buf.length) (handled ++ later) = handled := by
  induction handled with
  | nil =>
      cases later with
      | nil => rfl
      | cons msg rest =>
          have short := leftover.short msg rest rfl
          simp only [List.flatten_nil, List.length_nil, Nat.zero_add, List.nil_append, completeWithin]
          rw [if_neg (by omega)]
  | cons msg rest ih =>
      simp only [List.flatten_cons, List.length_append, List.cons_append, completeWithin]
      rw [if_pos (by omega), Nat.add_assoc, Nat.add_sub_cancel_left, ih]

theorem framed_long (msg : Bytes) (framed : Framed msg) : headerLen ≤ msg.length := (take_message_spec _ _ _ framed).1

theorem framed_iff (msg : Bytes) : Framed msg ↔ headerLen ≤ msg.length ∧ (headerOf msg).messageLen = msg.length := by
  constructor
  · intro framed
    have long := framed_long msg framed
    refine ⟨long, ?_⟩
    rw [Framed, takeMessage, parse_isSome msg long] at framed
    dsimp only at framed
    split at framed
    · cases framed
    · exact (Prod.mk.inj (Option.some.inj framed)).2
  · rintro ⟨long, declared⟩
    have declares : MessageHeader.messageLen ⟨wordAt msg 0, (wordAt msg 4).toUInt16, (wordAt msg 4 >>> 16).toUInt16⟩ = msg.length := declared
    rw [Framed, takeMessage, parse_isSome msg long]
    dsimp only
    rw [declares, if_neg (by omega), List.take_length]

theorem taken_framed (buf msg : Bytes) (consumed : Nat) (taken : takeMessage buf = some (msg, consumed)) : Framed msg := by
  have length := take_message_length _ _ _ taken
  obtain ⟨long, bound, whole⟩ := take_message_spec _ _ _ taken
  rw [framed_iff, length]
  refine ⟨long, ?_⟩
  have word : wordAt buf 4 = wordAt msg 4 := by
    rw [← List.take_append_drop consumed buf, ← whole]
    exact word_at_append_left _ _ _ (by simp only [headerLen] at long; omega)
  rw [takeMessage, parse_isSome buf (by omega), word] at taken
  dsimp only at taken
  split at taken
  · cases taken
  · exact (Prod.mk.inj (Option.some.inj taken)).2

-- A message that has not arrived completely is not taken.
theorem take_message_partial (buf missing msg : Bytes) (framed : Framed msg) (whole : buf ++ missing = msg)
    (short : buf.length < msg.length) : takeMessage buf = none := by
  cases taken : takeMessage buf with
  | none => rfl
  | some found =>
      have early := take_message_append buf missing found.1 found.2 taken
      rw [whole, framed, Option.some.injEq, Prod.mk.injEq] at early
      have inside := (take_message_spec _ _ _ taken).2.1
      omega

theorem take_message_first (msg buf : Bytes) (framed : Framed msg) : takeMessage (msg ++ buf) = some (msg, msg.length) :=
  take_message_append msg buf msg msg.length framed

theorem taken_from_handles (peer : Peer) (history added : List Traffic) (handles : ∀ entry ∈ added, Handles entry) :
    takenFrom peer (history ++ added) = takenFrom peer history := by
  have nothing : takenFrom peer added = [] := by
    rw [takenFrom, List.filterMap_eq_nil_iff]
    intro entry member
    have fine := handles entry member
    cases entry with
    | took => exact fine.elim
    | _ => rfl
  rw [takenFrom, List.filterMap_append]
  show takenFrom peer history ++ takenFrom peer added = _
  rw [nothing, List.append_nil]

theorem taken_from_took (peer : Peer) (history : List Traffic) (msg : Bytes) :
    takenFrom peer (history ++ [.took peer msg]) = takenFrom peer history ++ [msg] := by
  simp [takenFrom]

-- One turn of the loop, whichever way out it takes: it handles the message at
-- the head of the buffer and drains what its header declares.
theorem relay_turn_takes (env : Env) (ambient : Ambient) (direction : Direction) (s : Session) (msg buf : Bytes)
    (framed : Framed msg) (holds : (s.conn direction.src).readBuf = msg ++ buf) :
    ∃ disposal next, relayTurn env ambient direction s = some (disposal, next) ∧ (next.conn direction.src).readBuf = buf ∧
      takenFrom direction.src next.trace = takenFrom direction.src s.trace ++ [msg] := by
  have first : takeMessage (s.conn direction.src).readBuf = some (msg, msg.length) := by
    rw [holds]
    exact take_message_first msg buf framed
  cases turned : relayTurn env ambient direction s with
  | none =>
      rw [relay_turn_none, first] at turned
      cases turned
  | some result =>
      obtain ⟨disposal, next⟩ := result
      obtain ⟨taken, consumed, handled, complete, handling, rfl⟩ := relay_turn_some env ambient direction s next disposal turned
      rw [first] at complete
      cases complete
      have frame := relay_message_frame (s.log (.took direction.src msg)) env ambient direction (headerOf msg) msg
      rw [handling] at frame
      refine ⟨disposal, _, rfl, ?_, ?_⟩
      · rw [Session.drainBuf, Session.conn_set_conn, if_pos rfl]
        simp only [frame.readBuf, Session.conn_log, holds, List.drop_left]
      · obtain ⟨added, handles, grown⟩ := frame.trace
        show takenFrom direction.src handled.trace = _
        rw [grown, taken_from_handles _ _ _ handles]
        exact taken_from_took direction.src s.trace msg

theorem relay_turns_take (env : Env) (ambient : Ambient) (direction : Direction) (turns : Nat) (s : Session)
    (later : List Bytes) (unread : Bytes) (framed : ∀ msg ∈ later, Framed msg)
    (stream : (s.conn direction.src).readBuf ++ unread = later.flatten)
    (enough : (s.conn direction.src).readBuf.length ≤ turns) :
    ∃ more rest, later = more ++ rest ∧
      (s.conn direction.src).readBuf = more.flatten ++ ((relayTurns env ambient direction turns s).conn direction.src).readBuf ∧
      takenFrom direction.src (relayTurns env ambient direction turns s).trace = takenFrom direction.src s.trace ++ more ∧
      Leftover ((relayTurns env ambient direction turns s).conn direction.src).readBuf rest ∧
      takeMessage ((relayTurns env ambient direction turns s).conn direction.src).readBuf = none := by
  -- The buffer shrinks with every turn, so it runs dry before the turns do.
  induction turns generalizing s later with
  | zero =>
      have nothing : (s.conn direction.src).readBuf = [] := List.length_eq_zero_iff.mp (by omega)
      refine ⟨[], later, rfl, by simp [relayTurns], by simp [relayTurns], ⟨fun msg rest split => ?_, fun _ => nothing⟩, ?_⟩
      · have long := framed_long msg (framed msg (by simp [split]))
        rw [relayTurns, nothing]
        simp only [headerLen] at long
        simp only [List.length_nil]
        omega
      · rw [relayTurns, nothing]
        rfl
  | succ turns ih =>
      have stops : takeMessage (s.conn direction.src).readBuf = none → relayTurns env ambient direction (turns + 1) s = s := by
        intro starved
        rw [relayTurns, (relay_turn_none env ambient direction s).mpr starved]
      cases later with
      | nil =>
          have nothing : (s.conn direction.src).readBuf = [] := (List.append_eq_nil_iff.mp stream).1
          have starved : takeMessage (s.conn direction.src).readBuf = none := by
            rw [nothing]
            rfl
          rw [stops starved]
          exact ⟨[], [], rfl, by simp, by simp, ⟨(by intro _ _ absurd; cases absurd), fun _ => nothing⟩, starved⟩
      | cons msg rest =>
          have whole := framed msg List.mem_cons_self
          rw [List.flatten_cons] at stream
          by_cases complete : msg.length ≤ (s.conn direction.src).readBuf.length
          · obtain ⟨buf, holds, onward⟩ : ∃ buf, (s.conn direction.src).readBuf = msg ++ buf ∧ buf ++ unread = rest.flatten := by
              obtain ⟨buf, front, back⟩ | ⟨buf, front, back⟩ := List.append_eq_append_iff.mp stream
              · have none : buf = [] := List.length_eq_zero_iff.mp (by rw [front, List.length_append] at complete; omega)
                subst none
                exact ⟨[], by rw [front]; simp, by rw [back]; simp⟩
              · exact ⟨buf, front, back.symm⟩
            obtain ⟨disposal, next, turned, left, taken⟩ := relay_turn_takes env ambient direction s msg buf whole holds
            have long := framed_long msg whole
            have again := ih next rest (fun other member => framed other (List.mem_cons_of_mem _ member))
              (by rw [left]; exact onward) (by
                rw [left]
                rw [holds, List.length_append] at enough
                simp only [headerLen] at long
                omega)
            obtain ⟨more, last, split, consumed, took, leftover, starved⟩ := again
            rw [relayTurns, turned]
            refine ⟨msg :: more, last, by rw [split]; rfl, ?_, ?_, leftover, starved⟩
            · rw [holds, ← left, consumed, List.flatten_cons, List.append_assoc]
            · rw [took, taken, List.append_assoc]
              rfl
          · have starved : takeMessage (s.conn direction.src).readBuf = none := by
              obtain ⟨missing, front, -⟩ | ⟨missing, front, -⟩ := List.append_eq_append_iff.mp stream
              · exact take_message_partial _ missing msg whole front.symm (by omega)
              · rw [front, List.length_append] at complete
                omega
            rw [stops starved]
            refine ⟨[], msg :: rest, rfl, by simp, by simp, ⟨fun first others same => ?_, by intro absurd; cases absurd⟩, starved⟩
            cases same
            omega

-- One direction of a connection over time: reads come in, the loop runs after
-- each, and between two reads the proxy may do anything that takes nothing off
-- this connection.
inductive Streams (env : Env) (direction : Direction) (start : Session) : List Bytes → Session → Prop where
  | refl : Streams env direction start [] start
  | meanwhile (reads : List Bytes) (s s' : Session) (before : Streams env direction start reads s)
      (untouched : (s'.conn direction.src).readBuf = (s.conn direction.src).readBuf)
      (handled : takenFrom direction.src s'.trace = takenFrom direction.src s.trace) : Streams env direction start reads s'
  | read (reads : List Bytes) (s : Session) (before : Streams env direction start reads s) (ambient : Ambient) (bytes : Bytes)
      (fds : List Fd) (c : Conn) (filled : (s.conn direction.src).fill (.data bytes fds) = some c) :
      Streams env direction start (reads ++ [bytes]) (relayReadyMessages env ambient direction (s.setConn direction.src c))

theorem fill_read_buf (c next : Conn) (bytes : Bytes) (fds : List Fd) (filled : c.fill (.data bytes fds) = some next) :
    next.readBuf = c.readBuf ++ bytes := by
  unfold Conn.fill at filled
  split at filled
  · cases filled
  · rename_i same
    cases same
    cases filled
    rfl
  · cases filled

-- How far one direction has got: what it handled and what it still holds are
-- together what it read.
theorem streams_progress (env : Env) (direction : Direction) (start s : Session) (reads messages : List Bytes) (unread : Bytes)
    (run : Streams env direction start reads s) (empty : (start.conn direction.src).readBuf = [])
    (framed : ∀ msg ∈ messages, Framed msg) (stream : reads.flatten ++ unread = messages.flatten) :
    ∃ handled later, messages = handled ++ later ∧ reads.flatten = handled.flatten ++ (s.conn direction.src).readBuf ∧
      takenFrom direction.src s.trace = takenFrom direction.src start.trace ++ handled ∧
      Leftover (s.conn direction.src).readBuf later ∧ takeMessage (s.conn direction.src).readBuf = none := by
  induction run generalizing unread with
  | refl =>
      refine ⟨[], messages, rfl, by simp [empty], by simp, ⟨fun msg rest split => ?_, fun _ => empty⟩, by rw [empty]; rfl⟩
      have long := framed_long msg (framed msg (by simp [split]))
      rw [empty]
      simp only [headerLen] at long
      simp only [List.length_nil]
      omega
  | meanwhile reads s s' before untouched handled ih =>
      obtain ⟨done, later, split, consumed, taken, leftover, starved⟩ := ih unread stream
      rw [← untouched] at consumed leftover starved
      exact ⟨done, later, split, consumed, handled.trans taken, leftover, starved⟩
  | read reads s before ambient bytes fds c filled ih =>
      rw [List.flatten_append, List.flatten_singleton, List.append_assoc] at stream
      obtain ⟨done, later, split, consumed, taken, -, -⟩ := ih (bytes ++ unread) stream
      have arrived := fill_read_buf _ _ _ _ filled
      have buffer : ((s.setConn direction.src c).conn direction.src).readBuf = (s.conn direction.src).readBuf ++ bytes := by
        rw [Session.conn_set_conn, if_pos rfl, arrived]
      have remaining : ((s.setConn direction.src c).conn direction.src).readBuf ++ unread = later.flatten := by
        rw [consumed, split, List.flatten_append, List.append_assoc] at stream
        rw [buffer, List.append_assoc]
        exact List.append_cancel_left stream
      have framedLater : ∀ msg ∈ later, Framed msg := fun msg member => framed msg (by rw [split]; exact List.mem_append_right _ member)
      obtain ⟨more, rest, parted, kept, took, leftover, starved⟩ :=
        relay_turns_take env ambient direction _ (s.setConn direction.src c) later unread framedLater remaining (Nat.le_refl _)
      refine ⟨done ++ more, rest, by rw [split, parted, List.append_assoc], ?_, ?_, leftover, starved⟩
      · rw [List.flatten_append, List.flatten_singleton, consumed, List.append_assoc, ← buffer, kept, List.flatten_append,
          List.append_assoc]
        rfl
      · show takenFrom _ (relayTurns env ambient direction _ (s.setConn direction.src c)).trace = _
        rw [took]
        show takenFrom _ s.trace ++ more = _
        rw [taken, List.append_assoc]

end WlResprox
