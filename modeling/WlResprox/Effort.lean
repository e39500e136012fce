import Mathlib.Tactic.Ring
import WlResprox.AppIds
import WlResprox.RecoveryFds
import WlResprox.Serials

set_option autoImplicit false

namespace WlResprox

def Session.held (s : Session) : Nat := s.gtk.readBuf.length + s.host.readBuf.length

-- The turns a control has ahead of it that take nothing off a buffer.
def Control.share (recipes : Nat) : Control → Nat
  | .relaying _ => 1
  | .awaitingRegistry _ => recipes + 1
  | .replaying r | .awaitingConfigure _ r | .awaitingAck _ r => r.rest.length + 1
  | .selecting | .ended | .panicked => 0

-- What further turns are paid from, in bytes: a message is never shorter than a
-- header.
def State.due (st : State) : Nat := st.session.held + headerLen * st.control.share st.session.graph.recipes.length

def Fill.received : Fill → Nat
  | .data bytes _ => bytes.length
  | .error => 0

def Event.received : Event → Nat
  | .gtkReadable fill | .hostReadable fill => fill.received
  | _ => 0

def Event.isTurn : Event → Bool
  | .turn _ => true
  | _ => false

def Event.isRead : Event → Bool
  | .gtkReadable _ | .hostReadable _ => true
  | _ => false

def Event.isReconnect : Event → Bool
  | .reconnect _ _ => true
  | _ => false

def receivedIn (events : List Event) : Nat := (events.map Event.received).sum

-- What a run's turns take, at a header each, and what its reads and recoveries
-- bring, where the graph never has more recipes than so many.
def effort (events : List Event) : Nat := headerLen * events.countP Event.isTurn

def income (most : Nat) (events : List Event) : Nat :=
  receivedIn events + headerLen * (events.countP Event.isRead + (most + 1) * events.countP Event.isReconnect)

-- What an event adds, when the graph has at most so many recipes.
def Event.price (most : Nat) (event : Event) : Nat :=
  event.received + headerLen * (event.isRead.toNat + (most + 1) * event.isReconnect.toNat)

section Buffers

variable {s t : Session}

theorem held_same (readBuf : ∀ peer, (t.conn peer).readBuf = (s.conn peer).readBuf) : t.held = s.held := by
  have gtk := readBuf .gtk
  have host := readBuf .host
  simp only [Session.conn] at gtk host
  rw [Session.held, Session.held, gtk, host]

theorem Frame.held {kept : Peer → Prop} {allowed : Traffic → Prop} (frame : Frame kept allowed s t) : t.held = s.held :=
  held_same frame.readBuf

theorem drained_held (peer : Peer) (msg : Bytes) (consumed : Nat) (taken : takeMessage (s.conn peer).readBuf = some (msg, consumed)) :
    (s.drainBuf peer consumed).held + headerLen ≤ s.held := by
  obtain ⟨long, within, -⟩ := take_message_spec _ _ _ taken
  cases peer <;> simp only [Session.conn] at within <;>
    simp only [Session.held, Session.drainBuf, Session.setConn, Session.conn, List.length_drop] <;> omega

theorem skimmed_held (peer : Peer) (msg : Bytes) (consumed : Nat) (taken : takeMessage (s.conn peer).readBuf = some (msg, consumed)) :
    (skimmed s peer consumed msg).held + headerLen ≤ s.held := drained_held peer msg consumed taken

theorem filled_held (peer : Peer) (fill : Fill) (c : Conn) (filled : (s.conn peer).fill fill = some c) :
    (s.setConn peer c).held = s.held + fill.received := by
  obtain ⟨bytes, fds, rfl⟩ := fill_data _ _ _ filled
  have arrived := fill_read_buf _ _ _ _ filled
  cases peer <;> simp only [Session.conn] at arrived <;>
    simp only [Session.held, Session.setConn, arrived, List.length_append, Fill.received] <;> omega

end Buffers

theorem State.due_within {st : State} {bytes turns : Nat} (held : st.session.held ≤ bytes)
    (share : st.control.share st.session.graph.recipes.length ≤ turns) : st.due ≤ bytes + headerLen * turns :=
  Nat.add_le_add held (Nat.mul_le_mul_left headerLen share)

section Waits

variable (p : Protocol) (s : Session)

theorem resume_held (order : HashOrder) : (resume p order s).session.held = s.held :=
  (synthesize_grab_releases_frame p s order).held

theorem pass_to_client_held {t : Session} {done : Bool} {guestId : UInt32} {interface : Interface} {msg : Bytes}
    (result : passToClient s guestId interface msg = (done, t)) : t.held = s.held := by
  have frame : Frame everyPeer (fun _ => True) s t := .wrote result fun _ => trivial
  exact frame.held

theorem heed_registry_due (w : RegistryWait) (msg : Bytes) :
    (heedRegistry s w msg).due ≤ s.held + headerLen * (s.graph.recipes.length + 1) := by
  unfold heedRegistry
  split
  · exact Nat.le_refl _
  · split <;> exact Nat.le_refl _

theorem heed_configure_due (h : Handshake) (r : Replay) (msg : Bytes) :
    (heedConfigure p s h r msg).due ≤ s.held + headerLen * (r.rest.length + 1) := by
  unfold heedConfigure
  split
  · split
    · rename_i written passed
      exact State.due_within (pass_to_client_held s passed).le (Nat.le_refl _)
    · rename_i failed passed
      exact State.due_within (pass_to_client_held s passed).le (Nat.le_refl _)
  · split
    · split
      · rename_i written passed
        exact State.due_within (pass_to_client_held s passed).le (Nat.le_refl _)
      · rename_i failed passed
        exact State.due_within (pass_to_client_held s passed).le (Nat.le_refl _)
    · exact Nat.le_refl _

theorem heed_ack_due (h : Handshake) (r : Replay) (msg : Bytes) :
    (heedAck p s h r msg).due ≤ s.held + headerLen * (r.rest.length + 1) := by
  unfold heedAck
  split
  · have frame : Frame everyPeer (fun _ => True) s (s.writeMessage .host .relayed h.xdgSurface
        (buildMessage h.xdgSurfaceHostId (opcodeOfMessage msg) (msg.drop headerLen)) []).2 := .write s _ _ _ _ _ fun _ => trivial
    exact State.due_within frame.held.le (Nat.le_refl _)
  · exact Nat.le_refl _

theorem replay_turn_due (order : HashOrder) (r : Replay) :
    (replayTurn p order s r).due ≤ s.held + headerLen * r.rest.length := by
  unfold replayTurn
  split
  · have settled := (settle_recovery_frame p s order r.globals).held
    exact State.due_within ((resume_held p _ order).trans settled).le (Nat.zero_le _)
  · rename_i guestId recipe rest whole
    rw [whole]
    split
    · exact Nat.le_add_right _ _
    · rename_i next replayed
      exact State.due_within (replay_recipe_frame p s _ _ _ _ _ _ _ replayed).frame.held.le (Nat.le_refl _)
    · rename_i next h replayed
      exact State.due_within (replay_recipe_frame p s _ _ _ _ _ _ _ replayed).frame.held.le (Nat.le_refl _)

theorem begin_recovery_due (order : HashOrder) :
    (beginRecovery p order s).due ≤ s.held + headerLen * (s.graph.recipes.length + 1) := by
  simp only [beginRecovery]
  split
  · exact State.due_within (resume_held p _ order).le (Nat.zero_le _)
  · split
    · exact State.due_within (Nat.le_refl _) (Nat.zero_le _)
    · rename_i registryGuestId _ _ registry _
      have frame := ask_for_globals_frame { s with reclaim := { s.reclaim with activeSourceHostId := none } } registryGuestId
      have books := ask_for_globals_books { s with reclaim := { s.reclaim with activeSourceHostId := none } } registryGuestId
      split
      · rename_i failed result
        rw [result] at frame
        exact State.due_within frame.held.le (Nat.zero_le _)
      · rename_i asked result
        rw [result] at frame books
        have same : asked.graph = s.graph := books.graph
        refine State.due_within frame.held.le ?_
        rw [same]
        exact Nat.le_refl _

end Waits

section Steps

variable {env : Env} {st next : State} {event : Event}

-- A turn takes a message off a buffer or brings the control forward.
theorem turn_pays {ambient : Ambient} (transition : Transition env st (.turn ambient) next) : next.due + headerLen ≤ st.due := by
  cases transition with
  | relayed s t direction ambient disposal turned =>
      obtain ⟨msg, consumed, handled, taken, handling, rfl⟩ := relay_turn_some env ambient direction s t disposal turned
      have frame := relay_message_frame (s.log (.took direction.src msg)) env ambient direction (headerOf msg) msg
      rw [handling] at frame
      have held : handled.held = s.held := frame.held
      have buffered : takeMessage (handled.conn direction.src).readBuf = some (msg, consumed) := by
        rw [frame.readBuf]
        exact taken
      have drained := drained_held direction.src msg consumed buffered
      simp only [State.due, Control.share]
      omega
  | relayDone s direction ambient starved => exact Nat.le_refl _
  | skimRegistry s w ambient msg consumed taken =>
      have heeded := heed_registry_due (skimmed s .host consumed msg) w msg
      have paid := Nat.add_le_add_right (skimmed_held .host msg consumed taken) (headerLen * (s.graph.recipes.length + 1))
      exact (Nat.add_le_add_right heeded headerLen).trans ((Nat.add_right_comm _ _ _).le.trans paid)
  | skimConfigure s h r ambient msg consumed taken =>
      have heeded := heed_configure_due env.protocol (skimmed s .host consumed msg) h r msg
      have paid := Nat.add_le_add_right (skimmed_held .host msg consumed taken) (headerLen * (r.rest.length + 1))
      exact (Nat.add_le_add_right heeded headerLen).trans ((Nat.add_right_comm _ _ _).le.trans paid)
  | skimAck s h r ambient msg consumed taken =>
      have heeded := heed_ack_due env.protocol (skimmed s .gtk consumed msg) h r msg
      have paid := Nat.add_le_add_right (skimmed_held .gtk msg consumed taken) (headerLen * (r.rest.length + 1))
      exact (Nat.add_le_add_right heeded headerLen).trans ((Nat.add_right_comm _ _ _).le.trans paid)
  | replayed s r ambient => exact Nat.add_le_add_right (replay_turn_due env.protocol s ambient.order r) headerLen

theorem filled_due {s : Session} (peer : Peer) {fill : Fill} {c : Conn} (filled : (s.conn peer).fill fill = some c)
    {before after : Control} (share : ∀ recipes, after.share recipes ≤ before.share recipes + 1) :
    State.due ⟨s.setConn peer c, after⟩ ≤ State.due ⟨s, before⟩ + (fill.received + headerLen) := by
  have graph : (s.setConn peer c).graph = s.graph := by cases peer <;> rfl
  have turns := Nat.mul_le_mul_left headerLen (share s.graph.recipes.length)
  rw [Nat.mul_succ] at turns
  simp only [State.due, filled_held peer fill c filled, graph]
  omega

theorem abandoned_due {s t : Session} (held : t.held = s.held) (graph : t.graph = s.graph) {before after : Control} (price : Nat)
    (share : ∀ recipes, after.share recipes ≤ before.share recipes) : State.due ⟨t, after⟩ ≤ State.due ⟨s, before⟩ + price := by
  have turns := Nat.mul_le_mul_left headerLen (share s.graph.recipes.length)
  simp only [State.due, held, graph]
  omega

-- Whatever else happens adds what it brings.
theorem step_priced (most : Nat) (transition : Transition env st event next) (few : st.session.graph.recipes.length ≤ most) :
    next.due + headerLen * event.isTurn.toNat ≤ st.due + event.price most := by
  cases event with
  | turn ambient => exact turn_pays transition
  | gtkReadable fill =>
      cases transition with
      | readClient s fill c filled => exact filled_due .gtk filled fun _ => Nat.le_refl _
      | readAck s fill c h r starved filled => exact filled_due .gtk filled fun _ => Nat.le_succ _
      | clientGone | ackGone => exact abandoned_due rfl rfl _ fun _ => Nat.le_refl _
  | hostReadable fill =>
      cases transition with
      | readHost s fill c thawed filled => exact filled_due .host filled fun _ => Nat.le_refl _
      | readRegistry s fill c w starved filled => exact filled_due .host filled fun _ => Nat.le_succ _
      | readConfigure s fill c h r starved filled => exact filled_due .host filled fun _ => Nat.le_succ _
      | hostGone | configureGone => exact abandoned_due rfl rfl _ fun _ => Nat.le_refl _
      | registryGone => exact abandoned_due rfl rfl _ fun _ => Nat.zero_le _
  | lapse => cases transition <;> exact abandoned_due rfl rfl _ fun _ => Nat.le_refl _
  | cached mimeType bytes =>
      cases transition
      exact abandoned_due rfl rfl _ fun _ => Nat.le_refl _
  | reconnect ambient outcomes =>
      cases transition with
      | reconnect s ambient outcomes frozen =>
          have begun := begin_recovery_due env.protocol (reconnected s outcomes) ambient.order
          have dropped : (reconnected s outcomes).held ≤ s.held := Nat.le_add_right _ _
          have recipes : headerLen * (s.graph.recipes.length + 1) ≤ headerLen * (most + 1) :=
            Nat.mul_le_mul_left headerLen (Nat.succ_le_succ few)
          have price : (Event.reconnect ambient outcomes).price most = headerLen * (most + 1) := by
            simp [Event.price, Event.received, Event.isRead, Event.isReconnect]
          rw [price]
          exact begun.trans (Nat.add_le_add (dropped.trans (Nat.le_add_right _ _)) recipes)

end Steps

section Runs

variable {env : Env} {initial st : State} {events : List Event}

theorem income_snoc (most : Nat) (events : List Event) (event : Event) :
    income most (events ++ [event]) = income most events + event.price most := by
  have counts : ∀ kind : Event → Bool, (events ++ [event]).countP kind = events.countP kind + (kind event).toNat := by
    intro kind
    rw [List.countP_append, List.countP_singleton]
    cases kind event <;> rfl
  simp only [income, receivedIn, Event.price, counts, List.map_append, List.map_singleton, List.sum_append, List.sum_singleton]
  ring

theorem effort_snoc (events : List Event) (event : Event) :
    effort (events ++ [event]) = effort events + headerLen * event.isTurn.toNat := by
  rw [effort, effort, List.countP_append, List.countP_singleton, Nat.mul_add]
  cases event.isTurn <;> rfl

theorem run_priced (most : Nat)
    (run : Runs (step env) (fun st _ => st.session.graph.recipes.length ≤ most) initial events st) :
    effort events + st.due ≤ initial.due + income most events := by
  induction run with
  | refl => exact (Nat.zero_add _).le
  | snoc events s next event before few taken ih =>
      have priced := step_priced most (step_transition env s event next taken) few
      rw [effort_snoc, income_snoc]
      omega

end Runs

section Rest

variable {env : Env} {st : State}

def readable : Peer → Fill → Event
  | .gtk, fill => .gtkReadable fill
  | .host, fill => .hostReadable fill

-- The machine is done, or stands in a read of one of its peers.
def State.AtRest (env : Env) (st : State) : Prop :=
  st.control = .ended ∨ st.control = .panicked ∨ ∃ peer, ∀ fill, ∃ next, step env st (readable peer fill) = some next

theorem idle_skim_starves {s : Session} {peer : Peer} {heed : Session → Bytes → State} (idle : skim s peer heed = none) :
    starving s peer = true := by
  unfold skim at idle
  split at idle
  · rename_i starved
    rw [starving, starved]
    rfl
  · cases idle

theorem rests (ambient : Ambient) (idle : step env st (.turn ambient) = none) : st.AtRest env := by
  obtain ⟨s, control⟩ := st
  have waits : ∀ peer, (∀ fill, (step env ⟨s, control⟩ (readable peer fill)).isSome = true) → State.AtRest env ⟨s, control⟩ :=
    fun peer reads => .inr (.inr ⟨peer, fun fill => Option.isSome_iff_exists.mp (reads fill)⟩)
  cases control with
  | ended => exact .inl rfl
  | panicked => exact .inr (.inl rfl)
  | selecting =>
      refine waits .gtk fun fill => ?_
      simp only [readable, step, readGtk]
      split <;> rfl
  | relaying direction =>
      simp only [step, turn] at idle
      split at idle <;> cases idle
  | replaying r => cases idle
  | awaitingRegistry w =>
      simp only [step, turn] at idle
      refine waits .host fun fill => ?_
      simp only [readable, step, readHost, idle_skim_starves idle, if_true]
      split <;> rfl
  | awaitingConfigure h r =>
      simp only [step, turn] at idle
      refine waits .host fun fill => ?_
      simp only [readable, step, readHost, idle_skim_starves idle, if_true]
      split <;> rfl
  | awaitingAck h r =>
      simp only [step, turn] at idle
      refine waits .gtk fun fill => ?_
      simp only [readable, step, readGtk, idle_skim_starves idle, if_true]
      split <;> rfl

theorem turns_paid {events : List Event} {next : State}
    (run : Runs (step env) (fun _ event => event.isTurn = true) st events next) : headerLen * events.length + next.due ≤ st.due := by
  induction run with
  | refl => exact (Nat.zero_add _).le
  | snoc events s next event before turns taken ih =>
      cases event with
      | turn ambient =>
          have pays := turn_pays (step_transition env s _ next taken)
          rw [List.length_append, Nat.mul_add]
          simp only [List.length_singleton]
          omega
      | _ => cases turns

def turnsOf (ambients : Nat → Ambient) (n : Nat) : List Event := (List.range n).map fun i => .turn (ambients i)

theorem turns_of_succ (ambients : Nat → Ambient) (n : Nat) : turnsOf ambients (n + 1) = turnsOf ambients n ++ [.turn (ambients n)] := by
  rw [turnsOf, List.range_succ, List.map_append]
  rfl

theorem turns_of_length (ambients : Nat → Ambient) (n : Nat) : (turnsOf ambients n).length = n := by
  rw [turnsOf, List.length_map, List.length_range]

-- Turn after turn, the machine comes to rest before what it has runs out.
theorem comes_to_rest (st : State) (ambients : Nat → Ambient) : ∃ n next, headerLen * n ≤ st.due ∧
    Runs (step env) (fun _ event => event.isTurn = true) st (turnsOf ambients n) next ∧ next.AtRest env := by
  have goes : ∀ n, (∃ k next, Runs (step env) (fun _ event => event.isTurn = true) st (turnsOf ambients k) next ∧ next.AtRest env) ∨
      ∃ next, Runs (step env) (fun _ event => event.isTurn = true) st (turnsOf ambients n) next := by
    intro n
    induction n with
    | zero => exact .inr ⟨st, .refl⟩
    | succ n ih =>
        obtain resting | ⟨next, run⟩ := ih
        · exact .inl resting
        · cases taken : step env next (.turn (ambients n)) with
          | none => exact .inl ⟨n, next, run, rests _ taken⟩
          | some later => exact .inr ⟨later, turns_of_succ ambients n ▸ .snoc _ next later _ run rfl taken⟩
  obtain ⟨k, next, run, resting⟩ | ⟨next, run⟩ := goes (st.due + 1)
  · have paid := turns_paid run
    rw [turns_of_length] at paid
    exact ⟨k, next, by omega, run, resting⟩
  · have paid := turns_paid run
    rw [turns_of_length, headerLen] at paid
    omega

end Rest

-- The proxy never spins: what it does is paid for by what it reads, one turn
-- for each read and one for each recipe of a recovery, and then it stands in a
-- read until a peer sends more.
theorem effort_paid (env : Env) (most : Nat) (gtkOutcomes hostOutcomes : List WriteOutcome) (cache : ClipboardCache)
    (events : List Event) (st : State)
    (run : Runs (step env) (fun st _ => st.session.graph.recipes.length ≤ most) (start gtkOutcomes hostOutcomes cache) events st) :
    effort events + st.due ≤ income most events ∧ ∀ ambients : Nat → Ambient, ∃ n next, headerLen * n ≤ st.due ∧
      Runs (step env) (fun _ event => event.isTurn = true) st (turnsOf ambients n) next ∧ next.AtRest env := by
  have priced := run_priced most run
  have nothing : (start gtkOutcomes hostOutcomes cache).due = 0 := rfl
  rw [nothing, Nat.zero_add] at priced
  exact ⟨priced, comes_to_rest st⟩

-- A window's seven recipes are replayed out of one reconnection.
theorem effort_paid_window : ∃ st, Runs (step coreEnv) (fun st _ => st.session.graph.recipes.length ≤ 7) coreStart (windowReconfigured 7) st ∧
    st.session.frozen = false ∧ effort (windowReconfigured 7) + st.due ≤ income 7 (windowReconfigured 7) := by
  have fold : (coreRun (fun st _ => st.session.graph.recipes.length ≤ 7) (windowReconfigured 7)).map (fun st => st.session.frozen) =
      some false := by decide +kernel
  obtain ⟨st, reached, thawed⟩ := Option.map_eq_some_iff.mp fold
  have run : Runs (step coreEnv) (fun st _ => st.session.graph.recipes.length ≤ 7) coreStart _ st :=
    Runs.of_checked _ (fun _ _ checked => of_decide_eq_true checked) reached
  exact ⟨st, run, thawed, (effort_paid coreEnv 7 [] [] ClipboardCache.new _ st run).1⟩

end WlResprox
