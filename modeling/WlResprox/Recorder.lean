import WlResprox.Fidelity
import WlResprox.Lines
import WlResprox.Panics

set_option autoImplicit false

namespace WlResprox

-- What became of a message, as the recorder has words for it.
inductive Outcome where
  | unknown
  | parseError
  | untranslatable
  | unresolvableChild
  | untrackedDeleteId
  | staleGeneration
  | frozen
  | relayed
deriving DecidableEq, Repr

def Outcome.text : Outcome → String
  | .unknown => "DROPPED_UNKNOWN"
  | .parseError => "DROPPED_PARSE_ERROR"
  | .untranslatable => "DROPPED_UNTRANSLATABLE"
  | .unresolvableChild => "DROPPED_UNRESOLVABLE_CHILD"
  | .untrackedDeleteId => "DROPPED_UNTRACKED_DELETE_ID"
  | .staleGeneration => "DROPPED_STALE_GENERATION"
  | .frozen => "DROPPED_FROZEN"
  | .relayed => "RELAYED"

def Direction.text : Direction → String
  | .clientToHost => "ClientToHost"
  | .hostToClient => "HostToClient"

-- The arguments of `record`.
structure Entry where
  direction : Direction
  outcome : Outcome
  interface : String
  method : String
  senderId : UInt32
  opcode : UInt16
  fds : Nat
  bytes : Bytes
deriving DecidableEq

-- Seconds and microseconds since the epoch.
structure Stamp where
  secs : Nat
  micros : Nat

def Entry.fields (entry : Entry) (ts : Stamp) : List (List Char) :=
  [decimal ts.secs ++ '.' :: zeroPadded 6 ts.micros, entry.direction.text.toList, entry.outcome.text.toList,
    ['.'].intercalate [entry.interface.toList, entry.method.toList], "sender=".toList ++ decimal entry.senderId.toNat,
    "opcode=".toList ++ decimal entry.opcode.toNat, "fds=".toList ++ decimal entry.fds, "bytes=".toList ++ hexEncode entry.bytes]

def Entry.line (entry : Entry) (ts : Stamp) : List Char := ['\t'].intercalate (entry.fields ts)

-- What a recorder has written after these calls of `record`.
def recordFile (records : List (Stamp × Entry)) : List Char := terminated '\n' (records.map fun record => record.2.line record.1)

-- A name that keeps its line in shape.
def Unbroken (name : String) : Prop := '\t' ∉ name.toList ∧ '\n' ∉ name.toList ∧ '.' ∉ name.toList

instance (name : String) : Decidable (Unbroken name) :=
  inferInstanceAs (Decidable (_ ∧ _ ∧ _))

structure Entry.Plain (entry : Entry) : Prop where
  interface : Unbroken entry.interface
  method : Unbroken entry.method

section Lines

theorem decimal_free (sep : Char) (blank : sep.isAlphanum = false) (n : Nat) : sep ∉ decimal n := fun member => by
  have digit := decimal_digits n sep member
  simp [Char.isAlphanum, digit] at blank

theorem zero_padded_free (sep : Char) (blank : sep.isAlphanum = false) (width n : Nat) : sep ∉ zeroPadded width n := fun member => by
  have digit := zero_padded_digits width n sep member
  simp [Char.isAlphanum, digit] at blank

theorem hex_free (sep : Char) (blank : sep.isAlphanum = false) (bytes : Bytes) : sep ∉ hexEncode bytes := fun member => by
  rw [hex_encode_digits bytes sep member] at blank
  cases blank

-- The separators of lines and of fields stand in no field.
theorem fields_free (entry : Entry) (plain : entry.Plain) (ts : Stamp) (sep : Char) (is : sep = '\t' ∨ sep = '\n') :
    ∀ field ∈ entry.fields ts, sep ∉ field := by
  have blank : sep.isAlphanum = false := by rcases is with rfl | rfl <;> decide
  have direction : sep ∉ entry.direction.text.toList := by rcases is with rfl | rfl <;> cases entry.direction <;> decide
  have outcome : sep ∉ entry.outcome.text.toList := by rcases is with rfl | rfl <;> cases entry.outcome <;> decide
  have interface : sep ∉ entry.interface.toList := by
    rcases is with rfl | rfl
    · exact plain.interface.1
    · exact plain.interface.2.1
  have method : sep ∉ entry.method.toList := by
    rcases is with rfl | rfl
    · exact plain.method.1
    · exact plain.method.2.1
  have labels : ∀ label ∈ ["sender=", "opcode=", "fds=", "bytes="], sep ∉ label.toList := by rcases is with rfl | rfl <;> decide
  have point : sep ≠ '.' := by rcases is with rfl | rfl <;> decide
  have labelled : ∀ label ∈ ["sender=", "opcode=", "fds=", "bytes="], ∀ value : List Char, sep ∉ value → sep ∉ label.toList ++ value :=
    fun label listed value free member => (List.mem_append.mp member).elim (labels label listed) free
  have stamped : sep ∉ decimal ts.secs ++ '.' :: zeroPadded 6 ts.micros := by
    simp [point, decimal_free sep blank, zero_padded_free sep blank]
  have named : sep ∉ ['.'].intercalate [entry.interface.toList, entry.method.toList] := by
    simp [List.intercalate_cons_cons, List.intercalate_singleton, point, interface, method]
  simp only [Entry.fields, List.forall_mem_cons]
  exact ⟨stamped, direction, outcome, named, labelled _ (by simp) _ (decimal_free sep blank _),
    labelled _ (by simp) _ (decimal_free sep blank _), labelled _ (by simp) _ (decimal_free sep blank _),
    labelled _ (by simp) _ (hex_free sep blank _), by simp⟩

theorem line_free (entry : Entry) (plain : entry.Plain) (ts : Stamp) : '\n' ∉ entry.line ts := by
  have free := fields_free entry plain ts '\n' (.inr rfl)
  rw [Entry.line]
  generalize entry.fields ts = fields at free
  exact joined_free '\t' '\n' (by decide) fields free

theorem direction_text_injective (d d' : Direction) (same : d.text = d'.text) : d = d' := by
  cases d <;> cases d' <;> first | rfl | exact absurd same (by decide)

theorem outcome_text_injective (o o' : Outcome) (same : o.text = o'.text) : o = o' := by
  have each : ∀ o o' : Outcome, o.text = o'.text → o = o' := by
    intro o o'
    cases o <;> cases o' <;> decide
  exact each o o' same

theorem stamp_injective (ts ts' : Stamp)
    (same : decimal ts.secs ++ '.' :: zeroPadded 6 ts.micros = decimal ts'.secs ++ '.' :: zeroPadded 6 ts'.micros) : ts = ts' := by
  have joins : ∀ ts : Stamp, decimal ts.secs ++ '.' :: zeroPadded 6 ts.micros = ['.'].intercalate [decimal ts.secs, zeroPadded 6 ts.micros] :=
    fun ts => by simp [List.intercalate_cons_cons, List.intercalate_singleton]
  have free : ∀ ts : Stamp, ∀ part ∈ [decimal ts.secs, zeroPadded 6 ts.micros], '.' ∉ part := fun ts => by
    simp [decimal_free '.' (by decide), zero_padded_free '.' (by decide)]
  rw [joins, joins] at same
  have parts := joined_injective '.' _ _ (by simp) (by simp) (free ts) (free ts') same
  simp only [List.cons.injEq, and_true] at parts
  cases ts
  cases ts'
  simp only [Stamp.mk.injEq]
  exact ⟨decimal_injective _ _ parts.1, zero_padded_injective 6 _ _ parts.2⟩

-- A line tells the record it was written for, and when.
theorem line_injective (entry entry' : Entry) (plain : entry.Plain) (plain' : entry'.Plain) (ts ts' : Stamp)
    (same : entry.line ts = entry'.line ts') : ts = ts' ∧ entry = entry' := by
  have fields := joined_injective '\t' (entry.fields ts) (entry'.fields ts') (by simp [Entry.fields]) (by simp [Entry.fields])
    (fields_free entry plain ts '\t' (.inl rfl)) (fields_free entry' plain' ts' '\t' (.inl rfl)) same
  simp only [Entry.fields, List.cons.injEq, and_true] at fields
  obtain ⟨stamp, direction, outcome, named, sender, opcode, fds, bytes⟩ := fields
  have names := joined_injective '.' [entry.interface.toList, entry.method.toList] [entry'.interface.toList, entry'.method.toList]
    (by simp) (by simp) (by simp [plain.interface.2.2, plain.method.2.2]) (by simp [plain'.interface.2.2, plain'.method.2.2]) named
  simp only [List.cons.injEq, and_true] at names
  obtain ⟨interface, method⟩ := names
  refine ⟨stamp_injective ts ts' stamp, ?_⟩
  cases entry
  cases entry'
  simp only [Entry.mk.injEq]
  exact ⟨direction_text_injective _ _ (String.toList_inj.mp direction), outcome_text_injective _ _ (String.toList_inj.mp outcome),
    String.toList_inj.mp interface, String.toList_inj.mp method,
    UInt32.toNat_inj.mp (decimal_injective _ _ (List.append_cancel_left sender)),
    UInt16.toNat_inj.mp (decimal_injective _ _ (List.append_cancel_left opcode)), decimal_injective _ _ (List.append_cancel_left fds),
    hex_encode_injective _ _ (List.append_cancel_left bytes)⟩

example : (Entry.mk .clientToHost .relayed "wl_display" "sync" 1 0 0 [1, 0, 0, 0, 0, 0, 12, 0, 3, 0, 0, 0]).line ⟨7, 42⟩ =
    "7.000042\tClientToHost\tRELAYED\twl_display.sync\tsender=1\topcode=0\tfds=0\tbytes=0100000000000c0003000000".toList := by
  decide +kernel

-- A file tells its records.
theorem file_injective (records records' : List (Stamp × Entry)) (plain : ∀ record ∈ records, record.2.Plain)
    (plain' : ∀ record ∈ records', record.2.Plain) (same : recordFile records = recordFile records') : records = records' := by
  have free : ∀ list : List (Stamp × Entry), (∀ record ∈ list, record.2.Plain) →
      ∀ line ∈ list.map fun record => record.2.line record.1, '\n' ∉ line := by
    intro list each line member
    obtain ⟨record, listed, rfl⟩ := List.mem_map.mp member
    exact line_free record.2 (each record listed) record.1
  have lines := terminated_injective '\n' _ _ (free records plain) (free records' plain') same
  refine List.ext_getElem (by simpa using congrArg List.length lines) fun n inside inside' => ?_
  have line := List.getElem_of_eq lines (by simpa using inside)
  simp only [List.getElem_map] at line
  obtain ⟨stamp, entry⟩ := line_injective records[n].2 records'[n].2 (plain _ (List.getElem_mem inside))
    (plain' _ (List.getElem_mem inside')) _ _ line
  exact Prod.ext stamp entry

end Lines

-- What the loop over the object arguments has made of a message when it gives up.
def translatedSoFar (objects : ShadowTable) (direction : Direction) : List Nat → Bytes → Bytes
  | [], msg => msg
  | offset :: rest, msg =>
      match translate objects direction (wordAt msg (headerLen + offset)) with
      | none => msg
      | some translated => translatedSoFar objects direction rest (setWord msg (headerLen + offset) translated)

def Inbound.entry (m : Inbound) (outcome : Outcome) (senderId : UInt32) (fds : Nat) (bytes : Bytes) : Entry :=
  ⟨m.direction, outcome, m.interface.name, m.desc.name, senderId, m.header.opcode, fds, bytes⟩

-- The calls of the recorder in relay_ready_messages, at the places where it
-- stands. A message whose sender has no id on the other side leaves no line.
def recordPassed (env : Env) (ambient : Ambient) (s : Session) (m : Inbound) (created : Option Creation) (msg : Bytes) : Option Entry :=
  let observed := observeInput ambient s m (msg.drop headerLen)
  let updated := observeRecipes env ambient observed m msg
  let out := (updateRecipes env ambient observed.graph m msg).2
  if staleRelease updated m then some (m.entry .staleGeneration m.header.senderId 0 out)
  else
    let noted := observeFlow updated m created
    match otherSideSenderId noted.objects m with
    | none => none
    | some otherSide =>
        let written := writeSenderId out otherSide
        let fds := substituteTee ambient m (written.drop headerLen) ((noted.conn m.direction.src).readFds.take m.walk.fdCount)
        if live noted m.direction then some (m.entry .relayed otherSide fds.length written)
        else some (m.entry .frozen otherSide m.walk.fdCount written)

def recordResolved (env : Env) (ambient : Ambient) (s : Session) (m : Inbound) (msg : Bytes) : Option Entry :=
  match translateObjects s.objects m.direction m.walk.objectOffsets msg with
  | none => some (m.entry .untranslatable m.header.senderId 0 (translatedSoFar s.objects m.direction m.walk.objectOffsets msg))
  | some translated =>
  match introduceObject env.protocol s m translated with
  | .error _ => some (m.entry .unresolvableChild m.header.senderId 0 translated)
  | .ok (created, introduced, rewritten) =>
  match forgetDeleted introduced m rewritten with
  | none => some (m.entry .untrackedDeleteId m.header.senderId 0 rewritten)
  | some (forgotten, renamed) => recordPassed env ambient forgotten m created renamed

def recordOf (env : Env) (ambient : Ambient) (direction : Direction) (s : Session) (header : MessageHeader) (msg : Bytes) : Option Entry :=
  if intercepts s direction header then none
  else
    match resolveSender env.protocol s.objects direction header with
    | none => some ⟨direction, .unknown, "?", "?", header.senderId, header.opcode, 0, msg⟩
    | some (sender, interface, desc) =>
        match walkSignature (msg.drop headerLen) desc.signature with
        | .error _ => some ⟨direction, .parseError, interface.name, desc.name, header.senderId, header.opcode, 0, msg⟩
        | .ok walk =>
            recordResolved env ambient s ⟨direction, header, sender, interface, desc, walk,
              walk.objectOffsets.map fun offset => wordAt msg (headerLen + offset)⟩ msg

-- The line a message leaves, by what became of it.
def Disposal.outcome : Disposal → Option Outcome
  | .intercepted | .untranslatedSender => none
  | .unknown => some .unknown
  | .parseError => some .parseError
  | .untranslatable => some .untranslatable
  | .unresolvableChild => some .unresolvableChild
  | .untrackedDeleteId => some .untrackedDeleteId
  | .staleGeneration => some .staleGeneration
  | .frozen => some .frozen
  | .relayed => some .relayed

-- A message as it went to the other side.
structure Passage where
  peer : Peer
  interface : String
  msg : Bytes
  fds : Nat
deriving DecidableEq

def Entry.passage (entry : Entry) : Option Passage :=
  if entry.outcome = .relayed then some ⟨entry.direction.dst, entry.interface, entry.bytes, entry.fds⟩ else none

def Traffic.passage : Traffic → Option Passage
  | .sent m => if m.origin = .relayed then some ⟨m.peer, m.interface.name, m.msg, m.fds.length⟩ else none
  | _ => none

-- The line says what became of the message, and what was written of it.
structure Recorded (s : Session) (entry : Option Entry) (disposal : Disposal) (next : Session) : Prop where
  outcome : entry.map Entry.outcome = disposal.outcome
  writes : ∃ added, next.trace = s.trace ++ added ∧ added.filterMap Traffic.passage = entry.toList.filterMap Entry.passage

section Turns

variable (env : Env) (ambient : Ambient)

theorem unrelayed_passage (added : List Traffic) (fine : ∀ entry ∈ added, entry.Unrelayed) : added.filterMap Traffic.passage = [] := by
  refine List.filterMap_eq_nil_iff.mpr fun entry member => ?_
  cases entry with
  | sent m => exact if_neg (fine _ member)
  | _ => rfl

theorem Recorded.quiet {s next : Session} {entry : Option Entry} {disposal : Disposal} (adds : Adds Traffic.Unrelayed s next)
    (outcome : entry.map Entry.outcome = disposal.outcome) (dropped : ∀ e, entry = some e → e.passage = none) :
    Recorded s entry disposal next := by
  obtain ⟨added, fine, grown⟩ := adds
  refine ⟨outcome, added, grown, ?_⟩
  rw [unrelayed_passage added fine]
  cases entry with
  | none => rfl
  | some e => simp [dropped e rfl]

theorem Recorded.after {s middle next : Session} {entry : Option Entry} {disposal : Disposal} (adds : Adds Traffic.Unrelayed s middle)
    (recorded : Recorded middle entry disposal next) : Recorded s entry disposal next := by
  obtain ⟨earlier, fine, grown⟩ := adds
  obtain ⟨outcome, added, later, passes⟩ := recorded
  refine ⟨outcome, earlier ++ added, by rw [later, grown, List.append_assoc], ?_⟩
  rw [List.filterMap_append, unrelayed_passage earlier fine, passes]
  rfl

-- The record is made of what is handed to the write right behind it.
theorem forward_recorded (s : Session) (m : Inbound) (created : Option Creation) (msg : Bytes) (senderId : UInt32) :
    Recorded s (some (if live s m.direction then
        m.entry .relayed senderId
          (substituteTee ambient m (msg.drop headerLen) ((s.conn m.direction.src).readFds.take m.walk.fdCount)).length msg
      else m.entry .frozen senderId m.walk.fdCount msg))
      (forward ambient s m created msg).1 (forward ambient s m created msg).2 := by
  by_cases alive : live s m.direction = true
  · simp only [forward, if_pos alive]
    exact ⟨rfl, [_], rfl, by simp [Traffic.passage, Entry.passage, Inbound.entry]⟩
  · simp only [forward, if_neg alive]
    exact ⟨rfl, [], by simp [Session.setReadFds, Session.setConn], rfl⟩

theorem pass_on_recorded (s : Session) (m : Inbound) (created : Option Creation) (msg : Bytes) :
    Recorded s (recordPassed env ambient s m created msg) (passOn env ambient s m created msg).1
      (passOn env ambient s m created msg).2 := by
  unfold passOn recordPassed
  dsimp only
  by_cases stale : staleRelease (observeRecipes env ambient (observeInput ambient s m (msg.drop headerLen)) m msg) m = true
  · rw [if_pos stale, if_pos stale]
    refine .quiet (frame_adds_unrelayed (observe_recipes_frame s env ambient m msg)) rfl fun e is => ?_
    cases is
    rfl
  · rw [if_neg stale, if_neg stale]
    have observed := frame_adds_unrelayed (observe_flow_frame s env ambient m created msg)
    generalize observeFlow (observeRecipes env ambient (observeInput ambient s m (msg.drop headerLen)) m msg) m created = noted at *
    cases other : otherSideSenderId noted.objects m with
    | none => exact .after observed (.quiet (frame_adds_unrelayed (drop_stale_sender_frame env.protocol noted m created)) rfl (by simp))
    | some otherSide =>
        have forwarded := forward_recorded ambient noted m created
          (writeSenderId (updateRecipes env ambient (observeInput ambient s m (msg.drop headerLen)).graph m msg).2 otherSide) otherSide
        refine .after observed ?_
        dsimp only
        rw [← apply_ite some]
        exact forwarded

theorem resolved_recorded (s : Session) (m : Inbound) (msg : Bytes) :
    Recorded s (recordResolved env ambient s m msg) (relayResolved env ambient s m msg).1 (relayResolved env ambient s m msg).2 := by
  unfold relayResolved recordResolved
  cases translating : translateObjects s.objects m.direction m.walk.objectOffsets msg with
  | none => exact .quiet (.same rfl) rfl fun e is => by cases is; rfl
  | some translated =>
      dsimp only
      cases introducing : introduceObject env.protocol s m translated with
      | error dropped =>
          refine .quiet (.same ?_) rfl fun e is => by cases is; rfl
          obtain ⟨-, -, rfl | ⟨guest, name, rfl⟩⟩ := introduce_object_error _ _ _ _ _ introducing <;> rfl
      | ok result =>
          obtain ⟨created, introduced, rewritten⟩ := result
          have first := frame_adds_unrelayed (introduce_object_frame _ _ _ _ _ _ _ introducing)
          dsimp only
          refine .after first ?_
          cases forgetting : forgetDeleted introduced m rewritten with
          | none => exact .quiet (.same rfl) rfl fun e is => by cases is; rfl
          | some result =>
              obtain ⟨forgotten, renamed⟩ := result
              exact .after (frame_adds_unrelayed (forget_deleted_frame _ _ _ _ _ forgetting)) (pass_on_recorded env ambient forgotten m created renamed)

theorem message_recorded (direction : Direction) (s : Session) (header : MessageHeader) (msg : Bytes) :
    Recorded s (recordOf env ambient direction s header msg) (relayMessage env ambient direction s header msg).1
      (relayMessage env ambient direction s header msg).2 := by
  unfold relayMessage recordOf
  by_cases intercepting : intercepts s direction header = true
  · rw [if_pos intercepting, if_pos intercepting]
    refine .quiet ?_ rfl (by simp)
    exact (handle_synthetic_served ambient s msg header.opcode).2.2.2.mono fun entry served => by
      cases entry with
      | sent => exact served.elim
      | _ => trivial
  · rw [if_neg intercepting, if_neg intercepting]
    cases known : resolveSender env.protocol s.objects direction header with
    | none => exact .quiet (.same rfl) rfl fun e is => by cases is; rfl
    | some found =>
        obtain ⟨sender, interface, desc⟩ := found
        dsimp only
        cases walked : walkSignature (msg.drop headerLen) desc.signature with
        | error error => exact .quiet (.same rfl) rfl fun e is => by cases is; rfl
        | ok walk => exact resolved_recorded env ambient s _ msg

end Turns

section Runs

variable (env : Env)

-- The line the recorder writes in a step of the relay.
def recordTurn (ambient : Ambient) (s : Session) (direction : Direction) : Option Entry :=
  (takeMessage (s.conn direction.src).readBuf).bind fun taken =>
    recordOf env ambient direction (s.log (.took direction.src taken.1)) (headerOf taken.1) taken.1

def recording (st : State) : Event → List Entry
  | .turn ambient =>
      match st.control with
      | .relaying direction => (recordTurn env ambient st.session direction).toList
      | _ => []
  | _ => []

-- What the relay does with the message it takes in a step.
def disposing (st : State) : Event → List Disposal
  | .turn ambient =>
      match st.control with
      | .relaying direction => ((relayTurn env ambient direction st.session).map Prod.fst).toList
      | _ => []
  | _ => []

-- What the relay writes on in a step.
def passing (st : State) (event : Event) : List Passage :=
  match st.control, step env st event with
  | .relaying _, some next => (next.session.trace.drop st.session.trace.length).filterMap Traffic.passage
  | _, _ => []

theorem turn_recorded (ambient : Ambient) (direction : Direction) (s next : Session) (disposal : Disposal)
    (turned : relayTurn env ambient direction s = some (disposal, next)) :
    Recorded s (recordTurn env ambient s direction) disposal next := by
  obtain ⟨msg, consumed, handled, taken, handling, rfl⟩ := relay_turn_some env ambient direction s next disposal turned
  have recorded := message_recorded env ambient direction (s.log (.took direction.src msg)) (headerOf msg) msg
  rw [handling] at recorded
  have entry : recordTurn env ambient s direction =
      recordOf env ambient direction (s.log (.took direction.src msg)) (headerOf msg) msg := by
    rw [recordTurn, taken, Option.bind_some]
  rw [entry]
  have took : Adds Traffic.Unrelayed s (s.log (.took direction.src msg)) := ⟨[.took direction.src msg], by simp [Traffic.Unrelayed], rfl⟩
  obtain ⟨outcome, added, grown, passes⟩ := Recorded.after took recorded
  exact ⟨outcome, added, grown, passes⟩

theorem starved_records_nothing (ambient : Ambient) (s : Session) (direction : Direction)
    (starved : takeMessage (s.conn direction.src).readBuf = none) : recordTurn env ambient s direction = none := by
  rw [recordTurn, starved, Option.bind_none]

-- One step, whatever it is.
theorem step_recorded (st next : State) (event : Event) (taken : step env st event = some next) :
    (recording env st event).filterMap Entry.passage = passing env st event ∧
      (recording env st event).map Entry.outcome = (disposing env st event).filterMap Disposal.outcome := by
  by_cases relaying : ∃ direction, st.control = .relaying direction
  · have transition := step_transition env st event next taken
    cases transition with
    | relayed s handled direction ambient disposal turned =>
        obtain ⟨outcome, added, grown, passes⟩ := turn_recorded env ambient direction s handled disposal turned
        constructor
        · simp only [recording, passing, taken, grown, List.drop_left]
          exact passes.symm
        · simp only [recording, disposing, turned, Option.map_some, Option.toList_some, List.filterMap_cons, List.filterMap_nil]
          rw [← outcome]
          cases recordTurn env ambient s direction <;> rfl
    | relayDone s direction ambient starved =>
        have nothing := starved_records_nothing env ambient s direction starved
        have idle : relayTurn env ambient direction s = none := by rw [relayTurn, starved]
        simp [recording, passing, disposing, taken, nothing, idle]
    | cached s control =>
        obtain ⟨direction, is⟩ := relaying
        cases is
        simp [recording, passing, disposing, taken]
    | _ => exact absurd relaying (by simp)
  · have unrelayed : ∀ direction, st.control ≠ .relaying direction := fun direction is => relaying ⟨direction, is⟩
    obtain ⟨s, control⟩ := st
    cases control with
    | relaying direction => exact absurd rfl (unrelayed direction)
    | _ => cases event <;> exact ⟨rfl, rfl⟩

section Files

variable {allowed : State → Event → Prop} {start st : State} {events : List Event} (run : Runs (step env) allowed start events st)

include run

theorem run_passages :
    (along (step env) (recording env) start events).filterMap Entry.passage = along (step env) (passing env) start events := by
  have agrees := along_agrees run (recording env) (passing env) Entry.passage some fun s event next taken => by
    rw [List.filterMap_some]
    exact (step_recorded env s next event taken).1
  rwa [List.filterMap_some] at agrees

theorem run_outcomes :
    (along (step env) (recording env) start events).map Entry.outcome =
      (along (step env) (disposing env) start events).filterMap Disposal.outcome := by
  rw [← List.filterMap_eq_map]
  refine along_agrees run (recording env) (disposing env) _ _ fun s event next taken => ?_
  rw [List.filterMap_eq_map]
  exact (step_recorded env s next event taken).2

-- The record of a run is its relay's, line for line: each message that was
-- taken leaves one line that says what became of it, unless it was intercepted or
-- had no sender on the other side, and the lines of those relayed are the writes.
theorem record_faithful :
    (along (step env) (recording env) start events).filterMap Entry.passage = along (step env) (passing env) start events ∧
      (along (step env) (recording env) start events).map Entry.outcome =
        (along (step env) (disposing env) start events).filterMap Disposal.outcome :=
  ⟨run_passages env run, run_outcomes env run⟩

end Files

end Runs

-- The names of a protocol keep every line in shape.
def Printable (p : Protocol) : Prop :=
  ∀ direction interface, ∀ desc ∈ p.messages direction interface, Unbroken interface.name ∧ Unbroken desc.name

section Names

variable {env : Env} (printable : Printable env.protocol) (ambient : Ambient)

theorem resolved_entries (s : Session) (m : Inbound) (msg : Bytes) (entry : Entry) (made : recordResolved env ambient s m msg = some entry) :
    entry.interface = m.interface.name ∧ entry.method = m.desc.name := by
  unfold recordResolved recordPassed at made
  dsimp only at made
  split at made
  · cases made
    exact ⟨rfl, rfl⟩
  · split at made
    · cases made
      exact ⟨rfl, rfl⟩
    · split at made
      · cases made
        exact ⟨rfl, rfl⟩
      · split at made
        · cases made
          exact ⟨rfl, rfl⟩
        · split at made
          · cases made
          · split at made
            · cases made
              exact ⟨rfl, rfl⟩
            · cases made
              exact ⟨rfl, rfl⟩

include printable

theorem record_plain (direction : Direction) (s : Session) (header : MessageHeader) (msg : Bytes) (entry : Entry)
    (made : recordOf env ambient direction s header msg = some entry) : entry.Plain := by
  unfold recordOf at made
  split at made
  · cases made
  · split at made
    · cases made
      have unknown : Unbroken "?" := by decide
      exact ⟨unknown, unknown⟩
    · rename_i sender interface desc known
      obtain ⟨named, called⟩ := printable direction interface desc (resolve_sender_listed _ _ _ _ _ _ _ known)
      split at made
      · cases made
        exact ⟨named, called⟩
      · obtain ⟨is, are⟩ := resolved_entries ambient s _ msg entry made
        exact ⟨by rw [is]; exact named, by rw [are]; exact called⟩

theorem recording_plain (st : State) (event : Event) : ∀ entry ∈ recording env st event, entry.Plain := by
  intro entry member
  unfold recording at member
  split at member
  · split at member
    · obtain ⟨taken, -, made⟩ := Option.bind_eq_some_iff.mp (Option.mem_toList.mp member)
      exact record_plain printable _ _ _ _ _ entry made
    · cases member
  · cases member

theorem records_plain (start : State) (events : List Event) : ∀ entry ∈ along (step env) (recording env) start events, entry.Plain := by
  induction events generalizing start with
  | nil => simp [along]
  | cons event rest ih =>
      intro entry member
      rcases List.mem_append.mp member with now | later
      · exact recording_plain printable start event entry now
      · cases taken : step env start event with
        | none => simp [taken] at later
        | some next =>
            rw [taken] at later
            exact ih next entry later

end Names

-- Each line under the time it was written.
def stamped (clock : Nat → Stamp) (entries : List Entry) : List (Stamp × Entry) := entries.mapIdx fun n entry => (clock n, entry)

def recordOfRun (env : Env) (clock : Nat → Stamp) (start : State) (events : List Event) : List Char :=
  recordFile (stamped clock (along (step env) (recording env) start events))

theorem stamped_entries (clock : Nat → Stamp) (entries : List Entry) : (stamped clock entries).map Prod.snd = entries :=
  List.ext_getElem (by simp [stamped]) fun n _ _ => by simp [stamped]

theorem stamped_plain (clock : Nat → Stamp) (entries : List Entry) (plain : ∀ entry ∈ entries, entry.Plain) :
    ∀ record ∈ stamped clock entries, record.2.Plain := fun record member => by
  have listed : record.2 ∈ (stamped clock entries).map Prod.snd := List.mem_map_of_mem member
  rw [stamped_entries] at listed
  exact plain record.2 listed

theorem table_printable (tables : List (String × List MessageDesc))
    (each : ∀ entry ∈ tables, Unbroken entry.1 ∧ ∀ desc ∈ entry.2, Unbroken desc.name) (interface : Interface) :
    ∀ desc ∈ tableOf tables interface, Unbroken interface.name ∧ Unbroken desc.name := by
  intro desc listed
  unfold tableOf at listed
  split at listed
  · cases listed
  · rename_i entry found
    have named : entry.1 = interface.name := by simpa using List.find?_some found
    obtain ⟨first, rest⟩ := each entry (List.mem_of_find?_eq_some found)
    exact ⟨by rw [← named]; exact first, rest desc listed⟩

theorem core_printable : Printable coreProtocol := by
  have requests : ∀ entry ∈ coreRequests, Unbroken entry.1 ∧ ∀ desc ∈ entry.2, Unbroken desc.name := by decide +kernel
  have events : ∀ entry ∈ coreEvents, Unbroken entry.1 ∧ ∀ desc ∈ entry.2, Unbroken desc.name := by decide +kernel
  intro direction interface
  cases direction with
  | clientToHost => exact table_printable coreRequests requests interface
  | hostToClient => exact table_printable coreEvents events interface

-- The client asks for its registry and then speaks to an object nobody knows.
def asked : Bytes := requestRegistry 2 ++ buildMessage 77 0 []

def askedAtOnce : List Event := .gtkReadable (.data asked []) :: turns 3

def askedInParts : List Event :=
  .gtkReadable (.data (asked.take 5) []) :: .turn ordinary :: .gtkReadable (.data (asked.drop 5) []) :: turns 3

theorem record_faithful_asked : ∃ st, Runs (step coreEnv) (fun _ _ => True) coreStart askedAtOnce st ∧
    (along (step coreEnv) (recording coreEnv) coreStart askedAtOnce).filterMap Entry.passage =
      along (step coreEnv) (passing coreEnv) coreStart askedAtOnce ∧
    (along (step coreEnv) (recording coreEnv) coreStart askedAtOnce).map Entry.outcome = [.relayed, .unknown] := by
  have fold : (askedAtOnce.foldlM (step coreEnv) coreStart).isSome = true := by decide +kernel
  have left : (along (step coreEnv) (disposing coreEnv) coreStart askedAtOnce).filterMap Disposal.outcome = [.relayed, .unknown] := by
    decide +kernel
  obtain ⟨st, reached⟩ := Option.isSome_iff_exists.mp fold
  have run := Runs.of_fold reached
  have faithful := record_faithful coreEnv run
  exact ⟨st, run, faithful.1, faithful.2.trans left⟩

end WlResprox
