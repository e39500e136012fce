import WlResprox.Programs

set_option autoImplicit false

namespace WlResprox

-- What `main` asks of the kernel: bind_listener's calls on the public path, the
-- select! of its loop, the task it spawns and the listener it lets go of.
inductive ProxyCall where
  | exists
  | removeFile
  | bind
  | installSignal
  | select (listener : Nat)
  | spawn (client : Nat)
  | drop (listener : Nat)

inductive Woken where
  | accepted (client : Option Nat)
  | signalled

def ProxyCall.Answer : ProxyCall → Type
  | .exists | .removeFile => Bool
  | .bind => Option Nat
  | .installSignal => Bool
  | .select _ => Woken
  | .spawn _ | .drop _ => Unit

inductive BindError where
  | removing
  | binding
deriving DecidableEq, Repr

inductive ProxyError where
  | listener (failure : BindError)
  | signalHandler
deriving DecidableEq, Repr

inductive ProxyPoint where
  | start
  | serving (listener : Nat)
deriving DecidableEq, Repr

abbrev ProxyProgram (α : Type) : Type := Program ProxyCall ProxyCall.Answer α

abbrev ProxyPass : Type := Pass ProxyPoint ProxyError

def bindSocket : ProxyProgram (Except BindError Nat) := do
  let bound : Option Nat ← Program.ask ProxyCall.bind
  match bound with
  | some listener => return .ok listener
  | none => return .error .binding

def bindListener : ProxyProgram (Except BindError Nat) := do
  let stale : Bool ← Program.ask ProxyCall.exists
  if stale then
    let removed : Bool ← Program.ask ProxyCall.removeFile
    if removed then bindSocket else return .error .removing
  else bindSocket

-- A rebind that fails keeps the old listener, one that succeeds drops it.
def rebind (listener : Nat) : ProxyProgram ProxyPass := do
  let bound ← bindListener
  match bound with
  | .ok newListener =>
      let () ← Program.ask (ProxyCall.drop listener)
      return .again (.serving newListener)
  | .error _ => return .again (.serving listener)

-- One pass through the loop of `main`.
def serve (listener : Nat) : ProxyProgram ProxyPass := do
  let woken : Woken ← Program.ask (ProxyCall.select listener)
  match woken with
  | .accepted (some client) =>
      let () ← Program.ask (ProxyCall.spawn client)
      return .again (.serving listener)
  | .accepted none => return .again (.serving listener)
  | .signalled => rebind listener

def proxyMain : ProxyPoint → ProxyProgram ProxyPass
  | .start => do
      let bound ← bindListener
      match bound with
      | .error failure => return .leave (.listener failure)
      | .ok listener =>
          let installed : Bool ← Program.ask ProxyCall.installSignal
          if installed then return .again (.serving listener) else return .leave .signalHandler
  | .serving listener => serve listener

-- The public path leads to nothing, to somebody else's socket or to one of the
-- proxy's listeners, which are numbered as they are opened. The rest is history:
-- who connected to which listener, who was accepted from it, whose connection was
-- reset with it, and who got a task.
structure Front where
  name : Option (Option Nat)
  opened : Nat
  closed : List Nat
  queue : Nat → List Nat
  reached : List (Nat × Nat)
  taken : List (Nat × Nat)
  lost : List (Nat × Nat)
  served : List Nat

def Front.setQueue (w : Front) (listener : Nat) (clients : List Nat) : Nat → List Nat :=
  fun other => if other = listener then clients else w.queue other

-- What a call does. Closing a listener resets who still waits in its backlog.
inductive Admits : Front → (c : ProxyCall) → c.Answer → Front → Prop where
  | looked (w : Front) : Admits w .exists w.name.isSome w
  | removed (w : Front) (present : w.name.isSome = true) : Admits w .removeFile true { w with name := none }
  | notRemoved (w : Front) : Admits w .removeFile false w
  | bound (w : Front) (vacant : w.name = none) :
      Admits w .bind (some w.opened) { w with name := some (some w.opened), opened := w.opened + 1 }
  | notBound (w : Front) : Admits w .bind none w
  | installed (w : Front) (worked : Bool) : Admits w .installSignal worked w
  | accepted (w : Front) (listener client : Nat) (rest : List Nat) (next : w.queue listener = client :: rest) :
      Admits w (.select listener) (.accepted (some client))
        { w with queue := w.setQueue listener rest, taken := w.taken ++ [(listener, client)] }
  | notAccepted (w : Front) (listener : Nat) : Admits w (.select listener) (.accepted none) w
  | signalled (w : Front) (listener : Nat) : Admits w (.select listener) .signalled w
  | spawned (w : Front) (client : Nat) : Admits w (.spawn client) () { w with served := w.served ++ [client] }
  | dropped (w : Front) (listener : Nat) :
      Admits w (.drop listener) ()
        { w with
          closed := w.closed ++ [listener]
          queue := w.setQueue listener []
          lost := w.lost ++ (w.queue listener).map fun client => (listener, client) }

-- Clients connect to a listener while it is open, by whatever name its socket has
-- by then, and anybody may put anything else under the public path or move it back.
inductive Outside : Front → Front → Prop where
  | connects (w : Front) (listener client : Nat) (known : listener < w.opened) (listens : listener ∉ w.closed) :
      Outside w { w with
        queue := w.setQueue listener (w.queue listener ++ [client])
        reached := w.reached ++ [(listener, client)] }
  | renames (w : Front) (name : Option (Option Nat)) : Outside w { w with name }

def clientsOf (listener : Nat) (entries : List (Nat × Nat)) : List Nat := (entries.filter fun entry => entry.1 = listener).map Prod.snd

theorem clients_of_append (l : Nat) (entries more : List (Nat × Nat)) :
    clientsOf l (entries ++ more) = clientsOf l entries ++ clientsOf l more := by
  simp [clientsOf]

theorem clients_of_one (l listener client : Nat) : clientsOf l [(listener, client)] = if listener = l then [client] else [] := by
  by_cases same : listener = l <;> simp [clientsOf, same]

theorem clients_of_all (l listener : Nat) (clients : List Nat) :
    clientsOf l (clients.map fun client => (listener, client)) = if listener = l then clients else [] := by
  by_cases same : listener = l <;> simp [clientsOf, same, List.filter_map, Function.comp_def]

-- Whoever connected to a listener was accepted from it, then waits, or was lost
-- with it, in that order; and only a closed listener lost anybody.
structure Headcount (w : Front) : Prop where
  accounted : ∀ l, clientsOf l w.reached = clientsOf l w.taken ++ w.queue l ++ clientsOf l w.lost
  shut : ∀ l ∈ w.closed, w.queue l = []
  spared : ∀ l, l ∉ w.closed → clientsOf l w.lost = []

theorem headcount_outside {w w' : Front} (headcount : Headcount w) (others : Outside w w') : Headcount w' := by
  cases others with
  | renames name => exact ⟨headcount.accounted, headcount.shut, headcount.spared⟩
  | connects listener client known listens =>
      refine ⟨fun l => ?_, fun l closed => ?_, headcount.spared⟩
      · have before := headcount.accounted l
        by_cases same : listener = l
        · subst same
          rw [headcount.spared _ listens, List.append_nil] at before
          simp [Front.setQueue, clients_of_append, clients_of_one, before, headcount.spared _ listens]
        · simp [Front.setQueue, clients_of_append, clients_of_one, same, Ne.symm same, before]
      · have other : l ≠ listener := fun same => listens (same ▸ closed)
        simp [Front.setQueue, other, headcount.shut l closed]

theorem headcount_admits {w w' : Front} {c : ProxyCall} {answer : c.Answer} (headcount : Headcount w) (done : Admits w c answer w') : Headcount w' := by
  cases done with
  | looked | notRemoved | notBound | installed | notAccepted | signalled => exact headcount
  | removed | bound | spawned => exact ⟨headcount.accounted, headcount.shut, headcount.spared⟩
  | accepted listener client rest next =>
      refine ⟨fun l => ?_, fun l closed => ?_, headcount.spared⟩
      · have before := headcount.accounted l
        by_cases same : listener = l
        · subst same
          simp [Front.setQueue, clients_of_append, clients_of_one, before, next]
        · simp [Front.setQueue, clients_of_append, clients_of_one, same, Ne.symm same, before]
      · have empty := headcount.shut l closed
        by_cases same : l = listener
        · subst same
          rw [next] at empty
          cases empty
        · simp [Front.setQueue, same, empty]
  | dropped listener =>
      refine ⟨fun l => ?_, fun l closed => ?_, fun l opened => ?_⟩
      · have before := headcount.accounted l
        by_cases same : listener = l
        · subst same
          have one : w.queue listener = [] ∨ clientsOf listener w.lost = [] := by
            by_cases closed : listener ∈ w.closed
            · exact .inl (headcount.shut listener closed)
            · exact .inr (headcount.spared listener closed)
          rcases one with none | none <;> simp [Front.setQueue, clients_of_append, clients_of_all, before, none]
        · simp [Front.setQueue, clients_of_append, clients_of_all, same, Ne.symm same, before]
      · by_cases same : l = listener
        · simp [Front.setQueue, same]
        · have earlier : l ∈ w.closed := by simpa [same] using closed
          simp [Front.setQueue, same, headcount.shut l earlier]
      · obtain ⟨open_, other⟩ : l ∉ w.closed ∧ l ≠ listener := by simpa using opened
        simp [clients_of_append, clients_of_all, Ne.symm other, headcount.spared l open_]

-- The listeners that are open, and who was accepted and has no task yet.
structure Stationed (listeners pending : List Nat) (w : Front) : Prop where
  headcount : Headcount w
  known : ∀ l ∈ w.closed, l < w.opened
  listening : ∀ l, l ∈ listeners ↔ l < w.opened ∧ l ∉ w.closed
  served : w.taken.map Prod.snd = w.served ++ pending
  began : listeners = [] → w.opened = 0

theorem stationed_stable (listeners pending : List Nat) : Stable ⟨Admits, Outside⟩ (Stationed listeners pending) := by
  intro w w' stationed others
  have headcount := headcount_outside stationed.headcount others
  cases others <;> exact ⟨headcount, stationed.known, stationed.listening, stationed.served, stationed.began⟩

theorem Stationed.bound {listeners pending : List Nat} {w w' : Front} {listener : Nat} (stationed : Stationed listeners pending w)
    (done : Admits w .bind (some listener) w') : listener ∉ listeners ∧ Stationed (listener :: listeners) pending w' := by
  have headcount := headcount_admits stationed.headcount done
  cases done with
  | bound vacant =>
      refine ⟨fun member => absurd ((stationed.listening w.opened).mp member).1 (Nat.lt_irrefl _), headcount, fun l closed => ?_, fun l => ?_,
        stationed.served, fun none => by cases none⟩
      · exact Nat.lt_succ_of_lt (stationed.known l closed)
      · have fresh : w.opened ∉ w.closed := fun closed => Nat.lt_irrefl _ (stationed.known _ closed)
        by_cases new : l = w.opened
        · simp [new, fresh]
        · simp only [List.mem_cons, new, false_or, stationed.listening l]
          exact and_congr_left' (by omega)

theorem Stationed.dropped {listeners pending : List Nat} {w w' : Front} {listener : Nat} (stationed : Stationed listeners pending w)
    (member : listener ∈ listeners) (rest : (listeners.filter fun l => l ≠ listener) ≠ []) (done : Admits w (.drop listener) () w') :
    Stationed (listeners.filter fun l => l ≠ listener) pending w' := by
  have headcount := headcount_admits stationed.headcount done
  have before := (stationed.listening listener).mp member
  cases done with
  | dropped =>
      refine ⟨headcount, fun l closed => ?_, fun l => ?_, stationed.served, fun none => absurd none rest⟩
      · rcases List.mem_append.mp closed with earlier | now
        · exact stationed.known l earlier
        · rw [List.mem_singleton.mp now]
          exact before.1
      · simp only [List.mem_filter, stationed.listening l, decide_eq_true_eq, List.mem_append, List.mem_singleton, not_or, and_assoc]

theorem Stationed.taken {listeners : List Nat} {w w' : Front} {listener client : Nat} (stationed : Stationed listeners [] w)
    (done : Admits w (.select listener) (.accepted (some client)) w') : Stationed listeners [client] w' := by
  have headcount := headcount_admits stationed.headcount done
  cases done with
  | accepted _ _ rest next =>
      refine ⟨headcount, stationed.known, stationed.listening, ?_, stationed.began⟩
      simp [stationed.served]

theorem Stationed.spawned {listeners : List Nat} {w w' : Front} {client : Nat} (stationed : Stationed listeners [client] w)
    (done : Admits w (.spawn client) () w') : Stationed listeners [] w' := by
  have headcount := headcount_admits stationed.headcount done
  cases done with
  | spawned =>
      refine ⟨headcount, stationed.known, stationed.listening, ?_, stationed.began⟩
      simp [stationed.served]

-- At any moment: nobody who connected is lost sight of, each is given a task once and
-- in order, and from the first bind on some listener is open.
structure Attended (w : Front) : Prop where
  headcount : Headcount w
  served : ∃ pending : List Nat, w.taken.map Prod.snd = w.served ++ pending ∧ pending.length ≤ 1
  listening : w.opened ≠ 0 → ∃ l, l < w.opened ∧ l ∉ w.closed

theorem Stationed.attended {listeners pending : List Nat} {w : Front} (stationed : Stationed listeners pending w)
    (one : pending.length ≤ 1) : Attended w where
  headcount := stationed.headcount
  served := ⟨pending, stationed.served, one⟩
  listening := fun begun => by
    obtain ⟨l, member⟩ := List.exists_mem_of_ne_nil listeners fun none => begun (stationed.began none)
    exact ⟨l, (stationed.listening l).mp member⟩

-- At the top of the loop one listener is open, and everybody accepted has a task.
def Fits : ProxyPass → Front → Prop
  | .again (.serving listener), w => Stationed [listener] [] w
  | .again .start, _ => False
  | .leave _, w => Attended w

section Passes

variable {α : Type} {post : α → Front → Prop} {listeners : List Nat} {w : Front}

theorem bind_socket_within (stationed : Stationed listeners [] w) (next : Except BindError Nat → ProxyProgram α)
    (failed : ∀ failure w, Stationed listeners [] w → (next (.error failure)).Within ⟨Admits, Outside⟩ Attended post w)
    (bound : ∀ new w, new ∉ listeners → Stationed (new :: listeners) [] w → (next (.ok new)).Within ⟨Admits, Outside⟩ Attended post w) :
    (bindSocket >>= next).Within ⟨Admits, Outside⟩ Attended post w := by
  refine within_call (stationed_stable _ _) stationed (fun w held => held.attended (Nat.zero_le 1)) _ _ fun w answer w' held done => ?_
  cases answer with
  | none =>
      cases done
      exact failed .binding _ held
  | some new =>
      obtain ⟨fresh, after⟩ := held.bound done
      exact bound new w' fresh after

theorem bind_listener_within (stationed : Stationed listeners [] w) (next : Except BindError Nat → ProxyProgram α)
    (failed : ∀ failure w, Stationed listeners [] w → (next (.error failure)).Within ⟨Admits, Outside⟩ Attended post w)
    (bound : ∀ new w, new ∉ listeners → Stationed (new :: listeners) [] w → (next (.ok new)).Within ⟨Admits, Outside⟩ Attended post w) :
    (bindListener >>= next).Within ⟨Admits, Outside⟩ Attended post w := by
  refine within_call (stationed_stable _ _) stationed (fun w held => held.attended (Nat.zero_le 1)) _ _ fun w stale w' held answered => ?_
  cases answered
  cases w.name.isSome with
  | false => exact bind_socket_within held next failed bound
  | true =>
      refine within_call (stationed_stable _ _) held (fun w held => held.attended (Nat.zero_le 1)) _ _ fun w removed w' held done => ?_
      have after : Stationed listeners [] w' := by
        cases done <;> exact ⟨⟨held.headcount.accounted, held.headcount.shut, held.headcount.spared⟩, held.known, held.listening, held.served, held.began⟩
      cases removed with
      | false => exact failed .removing _ after
      | true => exact bind_socket_within after next failed bound

end Passes

theorem stands (listener : Nat) {w : Front} (stationed : Stationed [listener] [] w) :
    (Program.ret (.again (.serving listener)) : ProxyProgram ProxyPass).Within ⟨Admits, Outside⟩ Attended Fits w :=
  within_ret (stationed_stable _ _) stationed _ fun _ held => ⟨held.attended (Nat.zero_le 1), held⟩

theorem rebind_within (listener : Nat) {w : Front} (stationed : Stationed [listener] [] w) :
    (rebind listener).Within ⟨Admits, Outside⟩ Attended Fits w := by
  refine bind_listener_within stationed _ (fun failure w held => stands listener held) fun new w fresh held => ?_
  refine within_call (stationed_stable _ _) held (fun w held => held.attended (Nat.zero_le 1)) _ _ fun w answer w' held done => ?_
  have other : new ≠ listener := fun same => fresh (List.mem_singleton.mpr same)
  have left : ([new, listener].filter fun l => l ≠ listener) = [new] := by simp [other]
  have after := held.dropped (by simp) (by rw [left]; simp) done
  rw [left] at after
  exact stands new after

theorem serve_within (listener : Nat) {w : Front} (stationed : Stationed [listener] [] w) :
    (serve listener).Within ⟨Admits, Outside⟩ Attended Fits w := by
  refine within_call (stationed_stable _ _) stationed (fun w held => held.attended (Nat.zero_le 1)) _ _ fun w woken w' held done => ?_
  cases woken with
  | signalled =>
      cases done
      exact rebind_within listener held
  | accepted client =>
      cases client with
      | none =>
          cases done
          exact stands listener held
      | some client =>
          have taken := held.taken done
          refine within_call (stationed_stable _ _) taken (fun w held => held.attended (Nat.le_refl 1)) _ _ fun w answer w' held done => ?_
          exact stands listener (held.spawned done)

theorem main_within {w : Front} (stationed : Stationed [] [] w) : (proxyMain .start).Within ⟨Admits, Outside⟩ Attended Fits w := by
  refine bind_listener_within stationed _ (fun failure w held => ?_) fun new w fresh held => ?_
  · exact within_ret (stationed_stable _ _) held _ fun _ held => ⟨held.attended (Nat.zero_le 1), held.attended (Nat.zero_le 1)⟩
  · refine within_call (stationed_stable _ _) held (fun w held => held.attended (Nat.zero_le 1)) _ _ fun w worked w' held done => ?_
    cases done
    cases worked with
    | true => exact stands new held
    | false => exact within_ret (stationed_stable _ _) held _ fun _ held => ⟨held.attended (Nat.zero_le 1), held.attended (Nat.zero_le 1)⟩

-- Before the proxy starts, whatever is under its name.
structure Unopened (w : Front) : Prop where
  opened : w.opened = 0
  closed : w.closed = []
  queue : ∀ l, w.queue l = []
  reached : w.reached = []
  taken : w.taken = []
  lost : w.lost = []
  served : w.served = []

theorem Unopened.stationed {w : Front} (fresh : Unopened w) : Stationed [] [] w where
  headcount := ⟨by simp [fresh.reached, fresh.taken, fresh.lost, fresh.queue, clientsOf], by simp [fresh.closed],
    by simp [fresh.lost, clientsOf]⟩
  known := by simp [fresh.closed]
  listening := by simp [fresh.opened]
  served := by simp [fresh.taken, fresh.served]
  began := fun _ => fresh.opened

-- Whatever clients and others do to the public path, and whichever binds fail: each
-- client that got through to the proxy waits, was lost with the listener it waited
-- at, or was given a task once, in the order they came; a failed rebind costs nobody
-- anything, and at the top of the loop exactly one listener is open.
theorem clients_attended (start w : Front) (program : ProxyProgram ProxyPass) (fresh : Unopened start)
    (reached : Arrives ⟨Admits, Outside⟩ proxyMain .start start program w) :
    Attended w ∧ ∀ listener, program = .ret (.again (.serving listener)) → Stationed [listener] [] w := by
  have within := reached.within (main_within fresh.stationed) fun next later fits => by
    cases next with
    | start => exact fits.elim
    | serving listener => exact serve_within listener fits
  refine ⟨within.safe, fun listener is => ?_⟩
  subst is
  exact (within w .refl).2

-- A name left over from an earlier cycle.
def leftOver : Front where
  name := some none
  opened := 0
  closed := []
  queue := fun _ => []
  reached := []
  taken := []
  lost := []
  served := []

-- Two clients come, one is accepted, then the name is taken and the proxy told to
-- rebind: the other is lost, and the next one waits at the new listener.
theorem rebound : ∃ w, Arrives ⟨Admits, Outside⟩ proxyMain .start leftOver (.ret (.again (.serving 1))) w ∧
    w.served = [7] ∧ w.lost = [(0, 8)] ∧ w.queue 1 = [9] := by
  apply arrives_then (.answered _ _ _ _ true (Admits.looked _))
  apply arrives_then (.answered _ _ _ _ true (Admits.removed _ rfl))
  apply arrives_then (.answered _ _ _ _ (some 0) (Admits.bound _ rfl))
  apply arrives_then (.answered _ _ _ _ true (Admits.installed _ true))
  apply arrives_then (.again _ _)
  apply arrives_then (.meanwhile _ _ _ (Outside.connects _ 0 7 (by decide) (by decide)))
  apply arrives_then (.meanwhile _ _ _ (Outside.connects _ 0 8 (by decide) (by decide)))
  apply arrives_then (.answered _ _ _ _ (.accepted (some 7)) (Admits.accepted _ 0 7 [8] rfl))
  apply arrives_then (.answered _ _ _ _ () (Admits.spawned _ 7))
  apply arrives_then (.again _ _)
  apply arrives_then (.meanwhile _ _ _ (Outside.renames _ none))
  apply arrives_then (.answered _ _ _ _ .signalled (Admits.signalled _ 0))
  apply arrives_then (.answered _ _ _ _ false (Admits.looked _))
  apply arrives_then (.answered _ _ _ _ (some 1) (Admits.bound _ rfl))
  apply arrives_then (.answered _ _ _ _ () (Admits.dropped _ 0))
  apply arrives_then (.meanwhile _ _ _ (Outside.connects _ 1 9 (by decide) (by decide)))
  exact ⟨_, .refl, rfl, rfl, rfl⟩

theorem clients_attended_rebound : ∃ w, w.served = [7] ∧ w.lost = [(0, 8)] ∧ w.queue 1 = [9] ∧ Attended w ∧ Stationed [1] [] w := by
  obtain ⟨w, run, served, lost, waits⟩ := rebound
  have fresh : Unopened leftOver := ⟨rfl, rfl, fun _ => rfl, rfl, rfl, rfl, rfl⟩
  have attended := clients_attended leftOver w _ fresh run
  exact ⟨w, served, lost, waits, attended.1, attended.2 1 rfl⟩

end WlResprox
