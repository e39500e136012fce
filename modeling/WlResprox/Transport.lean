import WlResprox.Attribution
import WlResprox.Sockets

set_option autoImplicit false

namespace WlResprox

def acceptedOf (letter : Letter) : WriteOutcome → Nat
  | .complete => letter.msg.length
  | .failed accepted => accepted

-- The segments one message went out in. Its descriptors ride once, with the first.
structure Packed (letter : Letter) (sent : Nat) (pack : List Segment) : Prop where
  bytes : bytesIn pack = letter.msg.take sent
  within : sent ≤ letter.msg.length
  whole : ∀ segment ∈ pack, segment.bytes ≠ []
  first : ∀ segment rest, pack = segment :: rest → segment.fds = letter.fds ∧ ∀ later ∈ rest, later.fds = []

-- A write that failed had bytes left to send.
structure Settled (done : Letter × WriteOutcome) (pack : List Segment) : Prop where
  packed : Packed done.1 (acceptedOf done.1 done.2) pack
  short : ∀ accepted, done.2 = .failed accepted → accepted < done.1.msg.length

structure Posted (reliable : Prop) (letters : List Letter) (s : Posting) (w : Channel) : Prop where
  letters : s.done.map Prod.fst ++ s.pending = letters
  complete : reliable → ∀ one ∈ s.done, one.2 = .complete
  stream : ∃ packs current, w.accepted = packs.flatten ++ current ∧ List.Forall₂ Settled s.done packs ∧
    (∀ letter rest, s.pending = letter :: rest → Packed letter s.sent current) ∧ (s.pending = [] → current = [])

theorem packed_none (letter : Letter) : Packed letter 0 [] where
  bytes := by simp
  within := Nat.zero_le _
  whole := by simp
  first := by simp

theorem Packed.length {letter : Letter} {sent : Nat} {pack : List Segment} (packed : Packed letter sent pack) :
    (bytesIn pack).length = sent := by
  rw [packed.bytes, List.length_take]
  exact Nat.min_eq_left packed.within

theorem Packed.empty_iff {letter : Letter} {sent : Nat} {pack : List Segment} (packed : Packed letter sent pack) :
    pack = [] ↔ sent = 0 := by
  constructor
  · rintro rfl
    exact packed.length.symm
  · rintro rfl
    cases pack with
    | nil => rfl
    | cons segment rest =>
        have length := packed.length
        rw [bytes_in_cons, List.length_append] at length
        exact absurd (List.length_eq_zero_iff.mp (by omega)) (packed.whole segment List.mem_cons_self)

-- One more sendmsg of the same message.
theorem Packed.more {letter : Letter} {sent : Nat} {pack : List Segment} (packed : Packed letter sent pack) (n : Nat)
    (some : 0 < n) (within : n ≤ (letter.msg.drop sent).length) :
    Packed letter (sent + n) (pack ++ [⟨(letter.msg.drop sent).take n, if sent = 0 then letter.fds else []⟩]) where
  bytes := by
    rw [bytes_in_append, packed.bytes, bytes_in_cons, bytes_in_nil, List.append_nil, List.take_add]
  within := by
    rw [List.length_drop] at within
    have := packed.within
    omega
  whole := by
    intro segment member
    rcases List.mem_append.mp member with earlier | new
    · exact packed.whole segment earlier
    · rw [List.mem_singleton.mp new]
      apply List.ne_nil_of_length_pos
      rw [List.length_take]
      omega
  first := by
    intro segment rest is
    by_cases fresh : pack = []
    · rw [fresh, List.nil_append, List.cons.injEq] at is
      rw [← is.1, ← is.2, if_pos (packed.empty_iff.mp fresh)]
      exact ⟨rfl, by simp⟩
    · obtain ⟨head, tail, rfl⟩ := List.exists_cons_of_ne_nil fresh
      rw [List.cons_append, List.cons.injEq] at is
      obtain ⟨attached, bare⟩ := packed.first head tail rfl
      rw [← is.1, ← is.2]
      refine ⟨attached, fun later member => ?_⟩
      rcases List.mem_append.mp member with earlier | new
      · exact bare later earlier
      · rw [List.mem_singleton.mp new, if_neg (fun zero => fresh (packed.empty_iff.mpr zero))]

theorem Posted.whole {reliable : Prop} {letters : List Letter} {s : Posting} {w : Channel} (posted : Posted reliable letters s w) :
    ∀ segment ∈ w.accepted, segment.bytes ≠ [] := by
  obtain ⟨packs, current, stream, settled, partway, idle⟩ := posted.stream
  intro segment member
  rw [stream] at member
  rcases List.mem_append.mp member with done | going
  · obtain ⟨pack, inside, there⟩ := List.mem_flatten.mp done
    obtain ⟨index, bound, rfl⟩ := List.getElem_of_mem inside
    exact ((List.forall₂_iff_get.mp settled).2 index (by rw [settled.length_eq]; exact bound) bound).packed.whole segment there
  · cases pending : s.pending with
    | nil =>
        rw [idle pending] at going
        cases going
    | cons letter rest => exact (partway letter rest pending).whole segment going

section Writer

variable {reliable : Prop} {letters : List Letter}

-- A receiver never changes what was accepted.
def drains (w w' : Channel) : Prop := w'.accepted = w.accepted

theorem posted_stable (s : Posting) : Stable ⟨SendsOn reliable, drains⟩ (Posted reliable letters s) := by
  intro w w' posted drained
  exact ⟨posted.letters, posted.complete, drained ▸ posted.stream⟩

def Ended (reliable : Prop) (letters : List Letter) : Pass Posting (List (Letter × WriteOutcome)) → Channel → Prop
  | .again s, w => Posted reliable letters s w
  | .leave done, w => Posted reliable letters ⟨done, [], 0⟩ w

theorem Posted.settle {s : Posting} {w : Channel} {letter : Letter} {rest : List Letter} (posted : Posted reliable letters s w)
    (pending : s.pending = letter :: rest) (outcome : WriteOutcome) (ends : acceptedOf letter outcome = s.sent)
    (short : ∀ accepted, outcome = .failed accepted → accepted < letter.msg.length) (complete : reliable → outcome = .complete) :
    Posted reliable letters ⟨s.done ++ [(letter, outcome)], rest, 0⟩ w where
  letters := by
    have := posted.letters
    rw [pending] at this
    simpa using this
  complete := by
    intro surely one member
    rcases List.mem_append.mp member with earlier | new
    · exact posted.complete surely one earlier
    · rw [List.mem_singleton.mp new]
      exact complete surely
  stream := by
    obtain ⟨packs, current, stream, settled, partway, idle⟩ := posted.stream
    refine ⟨packs ++ [current], [], by simp [stream], ?_, fun _ _ _ => packed_none _, fun _ => rfl⟩
    apply List.rel_append settled
    exact .cons ⟨ends ▸ partway letter rest pending, short⟩ .nil

theorem Posted.send {s : Posting} {w : Channel} {letter : Letter} {rest : List Letter} (posted : Posted reliable letters s w)
    (pending : s.pending = letter :: rest) (n : Nat) (some : 0 < n) (within : n ≤ (letter.msg.drop s.sent).length)
    (queue : List Segment) :
    Posted reliable letters { s with sent := s.sent + n }
      ⟨w.accepted ++ [⟨(letter.msg.drop s.sent).take n, if s.sent = 0 then letter.fds else []⟩], queue⟩ where
  letters := posted.letters
  complete := posted.complete
  stream := by
    obtain ⟨packs, current, stream, settled, partway, -⟩ := posted.stream
    refine ⟨packs, _, by rw [stream, List.append_assoc], settled, fun letter' rest' is => ?_, fun none => ?_⟩
    · obtain ⟨rfl, rfl⟩ := List.cons.inj (is.symm.trans pending)
      exact (partway letter' rest' pending).more n some within
    · rw [pending] at none
      cases none

theorem posting_within (s : Posting) (w : Channel) (posted : Posted reliable letters s w) :
    (posting s).Within ⟨SendsOn reliable, drains⟩ (fun w => ∃ s, Posted reliable letters s w) (Ended reliable letters) w := by
  have keeps : ∀ w, Posted reliable letters s w → ∃ s, Posted reliable letters s w := fun w held => ⟨s, held⟩
  unfold posting
  split
  · rename_i idle
    have finished : Posted reliable letters ⟨s.done, [], 0⟩ w := by
      obtain ⟨packs, current, stream, settled, -, ends⟩ := posted.stream
      exact ⟨idle ▸ posted.letters, posted.complete, packs, current, stream, settled, by simp, fun _ => ends idle⟩
    exact within_ret (posted_stable _) finished _ fun w held => ⟨⟨_, held⟩, held⟩
  · rename_i letter rest pending
    have within : s.sent ≤ letter.msg.length := by
      obtain ⟨packs, current, stream, settled, partway, idle⟩ := posted.stream
      exact (partway letter rest pending).within
    unfold Conn.writePass
    split
    · rename_i left
      have failing : ∀ w, ¬ reliable → Posted reliable letters s w →
          Posted reliable letters ⟨s.done ++ [(letter, .failed s.sent)], rest, 0⟩ w := by
        intro w unsure held
        apply held.settle pending (.failed s.sent) rfl
        · intro accepted is
          cases is
          exact left
        · exact fun surely => absurd surely unsure
      refine within_call (posted_stable s) posted keeps _ _ fun w ready w' held answered => ?_
      obtain ⟨answered, surely⟩ := answered
      cases answered
      cases ready with
      | false => exact within_ret (posted_stable _) (failing w (fun sure => surely sure rfl) held) _ fun w held => ⟨⟨_, held⟩, held⟩
      | true =>
          refine within_call (posted_stable s) held keeps _ _ fun w answer w' held answered => ?_
          obtain ⟨answered, surely⟩ := answered
          cases answered with
          | sent _ _ _ n some within =>
              exact within_ret (posted_stable _) (held.send pending n some within _) _ fun w held => ⟨⟨_, held⟩, held⟩
          | wouldBlock => exact within_ret (posted_stable s) held _ fun w held => ⟨⟨_, held⟩, held⟩
          | error => exact within_ret (posted_stable _) (failing _ (fun sure => surely sure rfl) held) _ fun w held => ⟨⟨_, held⟩, held⟩
    · rename_i finished
      have complete : s.sent = letter.msg.length := Nat.le_antisymm within (Nat.not_lt.mp finished)
      have next := posted.settle pending .complete complete.symm (by simp) fun _ => rfl
      exact within_ret (posted_stable _) next _ fun w held => ⟨⟨_, held⟩, held⟩

end Writer

section Reader

-- The connection holds the first bytes of the stream and the descriptors of what
-- they begin.
structure Filled (c : Conn) (w : Channel) : Prop where
  bytes : c.readBuf = (bytesIn w.accepted).take c.readBuf.length
  fds : c.readFds = startedFds w.accepted c.readBuf.length
  queue : w.queue = unread w.accepted c.readBuf.length
  whole : ∀ segment ∈ w.accepted, segment.bytes ≠ []

-- A sender only adds to a stream.
def supplies (w w' : Channel) : Prop :=
  ∃ more, (∀ segment ∈ more, segment.bytes ≠ []) ∧ w' = ⟨w.accepted ++ more, w.queue ++ more⟩

theorem Filled.within {c : Conn} {w : Channel} (filled : Filled c w) : c.readBuf.length ≤ (bytesIn w.accepted).length := by
  have lengths := congrArg List.length filled.bytes
  rw [List.length_take] at lengths
  omega

theorem filled_stable (c : Conn) : Stable ⟨Receives, supplies⟩ (Filled c) := by
  rintro w _ filled ⟨more, whole, rfl⟩
  have within := filled.within
  refine ⟨?_, ?_, ?_, fun segment member => ?_⟩
  · rw [bytes_in_append, List.take_append_of_le_length within]
    exact filled.bytes
  · rw [started_fds_append, Nat.sub_eq_zero_of_le within, started_fds_zero, List.append_nil]
    exact filled.fds
  · rw [unread_append _ _ _ within, ← filled.queue]
  · rcases List.mem_append.mp member with earlier | new
    · exact filled.whole segment earlier
    · exact whole segment new

theorem unread_whole (segments : List Segment) (n : Nat) (whole : ∀ segment ∈ segments, segment.bytes ≠ []) :
    ∀ segment ∈ unread segments n, segment.bytes ≠ [] := by
  induction segments generalizing n with
  | nil => simp [unread]
  | cons segment rest ih =>
      by_cases zero : n = 0
      · rw [zero, unread_zero]
        exact whole
      rw [unread_cons _ _ n zero]
      split
      · rename_i inside
        intro other member
        rcases List.mem_cons.mp member with rfl | later
        · apply List.ne_nil_of_length_pos
          rw [List.length_drop]
          omega
        · exact whole other (List.mem_cons_of_mem _ later)
      · exact ih _ fun other member => whole other (List.mem_cons_of_mem _ member)

theorem Filled.receive {c : Conn} {w : Channel} (filled : Filled c w) (n : Nat) (outcomes : List WriteOutcome) :
    Filled ⟨outcomes, c.readBuf ++ (recvmsg n w.queue).1, c.readFds ++ (recvmsg n w.queue).2.1⟩
      ⟨w.accepted, (recvmsg n w.queue).2.2⟩ := by
  have whole : ∀ segment ∈ w.queue, segment.bytes ≠ [] := filled.queue ▸ unread_whole _ _ filled.whole
  obtain ⟨bytes, fds, later⟩ := recvmsg_spec n w.queue whole
  generalize (recvmsg n w.queue).1 = got at *
  refine ⟨?_, ?_, ?_, filled.whole⟩
  · rw [List.length_append, List.take_add, ← filled.bytes, ← bytes_in_unread, ← filled.queue, ← bytes]
  · rw [List.length_append, started_fds_add, ← filled.fds, ← filled.queue, fds]
  · rw [List.length_append, ← unread_unread, ← filled.queue, later]

theorem recvmsg_some (n : Nat) (queue : List Segment) (some : 0 < n) (waiting : queue ≠ [])
    (whole : ∀ segment ∈ queue, segment.bytes ≠ []) : (recvmsg n queue).1 ≠ [] := by
  cases queue with
  | nil => exact absurd rfl waiting
  | cons segment rest =>
      have filled := whole segment List.mem_cons_self
      unfold recvmsg
      rw [if_neg (Nat.ne_of_gt some)]
      split
      · apply List.ne_nil_of_length_pos
        rw [List.length_take]
        omega
      · split
        · exact filled
        · simp [filled]

theorem fill_received (c : Conn) (bytes : Bytes) (fds : List Fd) (some : bytes ≠ []) :
    c.fill (.data bytes fds) = Option.some ⟨c.outcomes, c.readBuf ++ bytes, c.readFds ++ fds⟩ := by
  cases bytes with
  | nil => exact absurd rfl some
  | cons byte rest => rfl

def FilledSoFar : Pass Conn Fill → Channel → Prop
  | .again c, w => Filled c w
  | .leave _, _ => True

theorem filling_within (c : Conn) (w : Channel) (filled : Filled c w) :
    (filling c).Within ⟨Receives, supplies⟩ (fun _ => True) FilledSoFar w := by
  unfold filling Conn.fillPass
  refine within_call (filled_stable c) filled (fun _ _ => trivial) _ _ fun w ready w' held answered => ?_
  cases answered
  cases ready with
  | false => exact within_ret (fun _ _ _ _ => trivial) trivial _ fun _ (_ : True) => ⟨trivial, trivial⟩
  | true =>
      refine within_call (filled_stable c) held (fun _ _ => trivial) _ _ fun w answer w' held answered => ?_
      cases answered with
      | received _ n some within waiting fits =>
          have got := recvmsg_some n w.queue some waiting (held.queue ▸ unread_whole _ _ held.whole)
          have next := held.receive n c.outcomes
          dsimp only [Program.bind, bind, pure]
          rw [fill_received c _ _ got]
          exact within_ret (filled_stable _) next _ fun w held => ⟨trivial, held⟩
      | closed => exact within_ret (fun _ _ _ _ => trivial) trivial _ fun _ (_ : True) => ⟨trivial, trivial⟩
      | wouldBlock => exact within_ret (filled_stable c) held _ fun w held => ⟨trivial, held⟩
      | error => exact within_ret (fun _ _ _ _ => trivial) trivial _ fun _ (_ : True) => ⟨trivial, trivial⟩
      | truncated => exact within_ret (fun _ _ _ _ => trivial) trivial _ fun _ (_ : True) => ⟨trivial, trivial⟩

end Reader

theorem receives_drains {w w' : Channel} {c : ReceiveCall} {answer : c.Answer} (received : Receives w c answer w') : drains w w' := by
  cases received <;> rfl

theorem sends_supplies {reliable : Prop} {w w' : Channel} {c : SendCall} {answer : c.Answer}
    (sent : SendsOn reliable w c answer w') : supplies w w' := by
  cases sent.1 with
  | sent _ buf fds n some within =>
      refine ⟨_, ?_, rfl⟩
      intro segment member
      rw [List.mem_singleton.mp member]
      apply List.ne_nil_of_length_pos
      rw [List.length_take]
      omega
  | writable | wouldBlock | error => exact ⟨[], by simp, by simp⟩

section Posts

theorem bare_started (segments : List Segment) (bare : ∀ segment ∈ segments, segment.fds = []) (n : Nat) :
    startedFds segments n = [] := by
  induction segments generalizing n with
  | nil => simp [startedFds]
  | cons segment rest ih =>
      by_cases zero : n = 0
      · simp [zero]
      · rw [started_fds_cons _ _ n zero, bare segment List.mem_cons_self, List.nil_append]
        exact ih (fun other member => bare other (List.mem_cons_of_mem _ member)) _

theorem Packed.started {letter : Letter} {sent : Nat} {pack : List Segment} (packed : Packed letter sent pack) (n : Nat)
    (some : n ≠ 0) (begins : sent ≠ 0) : startedFds pack n = letter.fds := by
  obtain ⟨segment, rest, rfl⟩ := List.exists_cons_of_ne_nil (packed.empty_iff.not.mpr begins)
  obtain ⟨attached, bare⟩ := packed.first segment rest rfl
  rw [started_fds_cons _ _ n some, attached, bare_started rest bare, List.append_nil]

-- What a peer has put on the stream is the first bytes of its letters, and the
-- descriptors ride with the letters they belong to.
theorem posts_started (done : List (Letter × WriteOutcome)) (packs : List (List Segment)) (settled : List.Forall₂ Settled done packs)
    (complete : ∀ one ∈ done, one.2 = .complete) (pending : List Letter) (current : List Segment)
    (partway : ∀ letter rest, pending = letter :: rest → ∃ sent, Packed letter sent current) (idle : pending = [] → current = []) :
    bytesIn (packs.flatten ++ current) <+: bytesOf (done.map Prod.fst ++ pending) ∧
      (pending = [] → bytesIn (packs.flatten ++ current) = bytesOf (done.map Prod.fst)) ∧
      ∀ n, n ≤ (bytesIn (packs.flatten ++ current)).length →
        startedFds (packs.flatten ++ current) n = fdsOf (begun (done.map Prod.fst ++ pending) n) := by
  induction settled with
  | nil =>
      rw [List.flatten_nil, List.nil_append, List.map_nil, List.nil_append]
      cases pending with
      | nil => simp [idle rfl, startedFds, begun, fdsOf, bytesOf]
      | cons letter rest =>
          obtain ⟨sent, packed⟩ := partway letter rest rfl
          refine ⟨?_, by simp, fun n within => ?_⟩
          · rw [packed.bytes]
            exact (List.take_prefix _ _).trans (List.prefix_append _ _)
          · rw [packed.length] at within
            by_cases zero : n = 0
            · simp [zero, fdsOf]
            · have ends : n - letter.msg.length = 0 := by
                have := packed.within
                omega
              rw [packed.started n zero (by omega), begun_cons _ _ n zero, ends, begun_zero]
              simp [fdsOf]
  | @cons one pack done packs first settled ih =>
      obtain ⟨letter, outcome⟩ := one
      obtain rfl : outcome = .complete := complete _ List.mem_cons_self
      have packed : Packed letter letter.msg.length pack := first.packed
      have bytes : bytesIn pack = letter.msg := packed.bytes.trans List.take_length
      obtain ⟨stream, all, started⟩ := ih fun other member => complete other (List.mem_cons_of_mem _ member)
      rw [List.flatten_cons, List.append_assoc, List.map_cons, List.cons_append]
      refine ⟨?_, fun none => ?_, fun n within => ?_⟩
      · rw [bytes_in_append, bytes]
        exact (List.prefix_append_right_inj letter.msg).mpr stream
      · rw [bytes_in_append, bytes, all none]
        rfl
      · rw [started_fds_append, bytes]
        by_cases zero : n = 0
        · simp [zero, fdsOf]
        · have long := letter_length letter
          have nonempty : letter.msg.length ≠ 0 := by
            simp only [headerLen] at long
            omega
          rw [packed.started n zero nonempty, begun_cons _ _ n zero, started _ (by
            rw [bytes_in_append, bytes, List.length_append] at within
            omega)]
          simp [fdsOf]

theorem Aligned.skim {letter : Letter} {rest : List Letter} {buf : Bytes} {fds : List Fd}
    (aligned : Aligned (letter :: rest) (letter.msg ++ buf) fds) : ∃ later, fds = letter.fds ++ later ∧ Aligned rest buf later := by
  have long := letter_length letter
  refine ⟨fdsOf (begun rest buf.length), ?_, ?_, rfl⟩
  · rw [aligned.fds, begun_cons letter rest _ (by rw [List.length_append]; simp only [headerLen] at long; omega),
      List.length_append, Nat.add_sub_cancel_left]
    simp [fdsOf]
  · have dropped := drop_first_letter letter rest _ aligned.bytes
    rwa [List.drop_left] at dropped

-- Taking whole letters off a connection, each with its descriptors, leaves the
-- rest aligned.
theorem aligned_past (handled pending : List Letter) (buf : Bytes) (fds : List Fd)
    (aligned : Aligned (handled ++ pending) (bytesOf handled ++ buf) fds) :
    ∃ later, fds = fdsOf handled ++ later ∧ Aligned pending buf later := by
  induction handled generalizing fds with
  | nil => exact ⟨fds, rfl, aligned⟩
  | cons letter rest ih =>
      have split : bytesOf (letter :: rest) ++ buf = letter.msg ++ (bytesOf rest ++ buf) := by simp [bytesOf]
      rw [split] at aligned
      obtain ⟨first, rfl, next⟩ := aligned.skim
      obtain ⟨later, rfl, onward⟩ := ih first next
      exact ⟨later, by simp [fdsOf], onward⟩

end Posts

theorem posted_fresh (reliable : Prop) (letters : List Letter) : Posted reliable letters ⟨[], letters, 0⟩ ⟨[], []⟩ :=
  ⟨rfl, by simp, [], [], rfl, .nil, fun _ _ _ => packed_none _, fun _ => rfl⟩

theorem filled_fresh (outcomes : List WriteOutcome) : Filled (Conn.new outcomes) ⟨[], []⟩ := ⟨rfl, rfl, rfl, by simp⟩

section Steps

variable {reliable : Prop} {others : Channel → Channel → Prop}

theorem posting_sends (done : List (Letter × WriteOutcome)) (letter : Letter) (rest : List Letter) (sent n : Nat) (w : Channel)
    (some : 0 < n) (within : sent + n ≤ letter.msg.length) (segment : Segment)
    (is : segment = ⟨(letter.msg.drop sent).take n, if sent = 0 then letter.fds else []⟩) :
    Relation.ReflTransGen (Advances ⟨SendsOn reliable, others⟩ posting) (posting ⟨done, letter :: rest, sent⟩, w)
      (posting ⟨done, letter :: rest, sent + n⟩, ⟨w.accepted ++ [segment], w.queue ++ [segment]⟩) := by
  have left : sent < letter.msg.length := by omega
  have calls : ∃ ask send, posting ⟨done, letter :: rest, sent⟩ = .call SendCall.writable ask ∧
      ask true = .call (SendCall.sendWithFds (letter.msg.drop sent) (if sent = 0 then letter.fds else [])) send ∧
        send (.sent n) = .ret (.again ⟨done, letter :: rest, sent + n⟩) := by
    simp only [posting, Conn.writePass, if_pos left]
    exact ⟨_, _, rfl, rfl, rfl⟩
  obtain ⟨ask, send, first, second, third⟩ := calls
  rw [first, is]
  refine .head (.answered _ _ _ _ true ⟨.writable true w, by simp [SendCall.Failed]⟩) ?_
  rw [second]
  refine .head (.answered _ _ _ _ (.sent n) ⟨.sent w _ _ n some ?_, by simp [SendCall.Failed]⟩) ?_
  · rw [List.length_drop]
    omega
  · rw [third]
    exact .single (.again _ _)

theorem posting_ends (done : List (Letter × WriteOutcome)) (letter : Letter) (rest : List Letter) (w : Channel) :
    Relation.ReflTransGen (Advances ⟨SendsOn reliable, others⟩ posting) (posting ⟨done, letter :: rest, letter.msg.length⟩, w)
      (posting ⟨done ++ [(letter, .complete)], rest, 0⟩, w) := by
  have finished : posting ⟨done, letter :: rest, letter.msg.length⟩ = .ret (.again ⟨done ++ [(letter, .complete)], rest, 0⟩) := by
    simp only [posting, Conn.writePass, if_neg (Nat.lt_irrefl _)]
    rfl
  rw [finished]
  exact .single (.again _ _)

theorem filling_reads (c : Conn) (w : Channel) (n : Nat) (some : 0 < n) (within : n ≤ fillLen) (waiting : w.queue ≠ [])
    (got : (recvmsg n w.queue).1 ≠ []) (fits : (recvmsg n w.queue).2.1.length ≤ maxFdsPerRecv) :
    Relation.ReflTransGen (Advances ⟨Receives, others⟩ filling) (filling c, w)
      (.ret (.again ⟨c.outcomes, c.readBuf ++ (recvmsg n w.queue).1, c.readFds ++ (recvmsg n w.queue).2.1⟩),
        ⟨w.accepted, (recvmsg n w.queue).2.2⟩) := by
  refine .head (.answered _ _ _ _ true (.readable true w)) ?_
  refine .head (.answered _ _ _ _ _ (.received w n some within waiting fits)) ?_
  dsimp only [Program.bind, bind, pure]
  rw [fill_received c _ _ got]

end Steps

-- However the kernel splits, delays or fails the writes of a list of messages, a
-- completed one went out whole, and a failed one as a proper part of itself.
theorem posts_settle (reliable : Prop) (letters : List Letter) (pass : Pass Posting (List (Letter × WriteOutcome))) (w : Channel)
    (reached : Arrives ⟨SendsOn reliable, drains⟩ posting ⟨[], letters, 0⟩ ⟨[], []⟩ (.ret pass) w) : Ended reliable letters pass w :=
  (reached.within (posting_within _ _ (posted_fresh reliable letters)) (fun s w posted => posting_within s w posted) w .refl).2

-- A message goes out in two parts, the kernel taking ten bytes of it at first.
theorem posts_settle_parts : ∃ w, Arrives ⟨SendsOn False, drains⟩ posting ⟨[], [createPool], 0⟩ ⟨[], []⟩
      (.ret (.leave [(createPool, .complete)])) w ∧ w.accepted.length = 2 ∧
    Posted False [createPool] ⟨[(createPool, .complete)], [], 0⟩ w := by
  have length : createPool.msg.length = 16 := by decide +kernel
  have run : Arrives ⟨SendsOn False, drains⟩ posting ⟨[], [createPool], 0⟩ ⟨[], []⟩ (.ret (.leave [(createPool, .complete)])) _ :=
    (((posting_sends [] createPool [] 0 10 ⟨[], []⟩ (by decide) (by omega) _ rfl).trans
      (posting_sends [] createPool [] 10 6 _ (by decide) (by omega) _ rfl)).trans (length ▸ posting_ends [] createPool [] _)).trans .refl
  exact ⟨_, run, rfl, posts_settle False [createPool] _ _ run⟩

-- What one side writes, the other side reads: in order, with nothing lost, and
-- each letter's descriptors in front of those of the letters behind it.
theorem letters_arrive (letters : List Letter) (outcomes : List WriteOutcome)
    (writer : Program SendCall SendCall.Answer (Pass Posting (List (Letter × WriteOutcome)))) (c : Conn) (w : Channel)
    (reached : Relation.ReflTransGen (Together (SendsOn True) Receives posting filling)
      (posting ⟨[], letters, 0⟩, filling (Conn.new outcomes), ⟨[], []⟩) (writer, .ret (.again c), w)) :
    (∀ done, writer = .ret (.leave done) → w.queue = [] → c.readBuf = bytesOf letters) ∧
      ∀ handled pending buf, letters = handled ++ pending → c.readBuf = bytesOf handled ++ buf →
        ∃ fds, c.readFds = fdsOf handled ++ fds ∧ Aligned pending buf fds := by
  have kept : writer.Within ⟨SendsOn True, drains⟩ _ _ w ∧ Program.Within ⟨Receives, supplies⟩ _ _ (.ret (Pass.again c)) w :=
    together_within (fun s w posted => posting_within s w posted)
    (fun c w filled => filling_within c w filled) (fun _ _ _ _ _ received => receives_drains received)
    (fun _ _ _ _ _ sent => sends_supplies sent) (posting_within _ _ (posted_fresh True letters))
    (filling_within _ _ (filled_fresh outcomes)) reached
  have filled : Filled c w := (kept.2 w .refl).2
  have posts : ∀ s, Posted True letters s w → bytesIn w.accepted <+: bytesOf letters ∧
      (s.pending = [] → bytesIn w.accepted = bytesOf letters) ∧
        ∀ n, n ≤ (bytesIn w.accepted).length → startedFds w.accepted n = fdsOf (begun letters n) := by
    intro s posted
    obtain ⟨packs, current, stream, settled, partway, idle⟩ := posted.stream
    have facts := posts_started s.done packs settled (posted.complete trivial) s.pending current
      (fun letter rest is => ⟨s.sent, partway letter rest is⟩) idle
    rw [← stream, posted.letters] at facts
    refine ⟨facts.1, fun none => ?_, facts.2.2⟩
    rw [facts.2.1 none, ← posted.letters, none, List.append_nil]
  constructor
  · rintro done rfl drained
    have finished : Posted True letters ⟨done, [], 0⟩ w := (kept.1 w .refl).2
    have rest := bytes_in_unread w.accepted c.readBuf.length
    rw [← filled.queue, drained, bytes_in_nil] at rest
    rw [filled.bytes, List.take_of_length_le (List.drop_eq_nil_iff.mp rest.symm), (posts _ finished).2.1 rfl]
  · rintro handled pending buf rfl read
    obtain ⟨s, posted⟩ := kept.1.safe
    obtain ⟨arrived, -, started⟩ := posts s posted
    apply aligned_past handled pending buf
    rw [← read]
    constructor
    · rw [filled.bytes]
      exact (List.take_prefix _ _).trans arrived
    · rw [filled.fds, List.nil_append]
      exact started _ filled.within

theorem letters_arrive_parts : ∃ w c, Relation.ReflTransGen (Together (SendsOn True) Receives posting filling)
      (posting ⟨[], [createPool], 0⟩, filling (Conn.new []), ⟨[], []⟩) (.ret (.leave [(createPool, .complete)]), .ret (.again c), w) ∧
    c.readBuf = createPool.msg ∧ c.readFds = createPool.fds := by
  have length : createPool.msg.length = 16 := by decide +kernel
  have run : Relation.ReflTransGen (Together (SendsOn True) Receives posting filling)
      (posting ⟨[], [createPool], 0⟩, filling (Conn.new []), ⟨[], []⟩) (.ret (.leave [(createPool, .complete)]), .ret (.again _), _) :=
    (together_first _ (posting_sends [] createPool [] 0 10 ⟨[], []⟩ (by decide) (by omega) _ rfl)).trans
      ((together_second _ (filling_reads (Conn.new []) _ 10 (by decide) (by decide) (by simp) (by decide +kernel) (by decide +kernel))).trans
        (.head (.second _ _ _ _ _ (.again _ _))
          ((together_first _ ((posting_sends [] createPool [] 10 6 _ (by decide) (by omega) _ rfl).trans
            (length ▸ posting_ends [] createPool [] _))).trans
              (together_second _ (filling_reads _ _ 6 (by decide) (by decide) (by simp) (by decide +kernel) (by decide +kernel))))))
  obtain ⟨whole, each⟩ := letters_arrive [createPool] [] _ _ _ run
  have bytes : bytesOf [createPool] = createPool.msg := by simp [bytesOf]
  have read := whole _ rfl (by decide +kernel)
  obtain ⟨fds, got, rest⟩ := each [createPool] [] [] rfl (by rw [List.append_nil]; exact read)
  refine ⟨_, _, run, read.trans bytes, ?_⟩
  have none : fds = [] := rest.fds
  rw [got, none]
  simp [fdsOf]

end WlResprox
