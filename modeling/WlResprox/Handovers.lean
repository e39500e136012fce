import WlResprox.Runs
import WlResprox.Tracees

set_option autoImplicit false

namespace WlResprox

-- The signals the helper hands on to the target.
def passes (sig : Signal) : Bool := sig ≠ .sigtrap ∧ sig ≠ .sigstop

def caughtOn (log : List Happening) : List Signal :=
  log.filterMap fun
    | .caught sig => some sig
    | _ => none

def deliveredOn (log : List Happening) : List Signal :=
  log.filterMap fun
    | .delivered sig => some sig
    | _ => none

def waiting : Tracee → List Signal
  | .stopped (.signal sig) _ => if passes sig then [sig] else []
  | _ => []

-- At the exit of a bind that succeeded, unless it died there.
def AtBind (tracee : Tracee) : Prop :=
  (∃ call rax, tracee = .stopped (.exit call rax) true ∧ call.number = sysBind ∧ 0 ≤ rax.toInt64) ∨
    ∃ status reported, tracee = .dead status reported

-- What a tracing helper keeps the target from, as long as it traces and the target
-- had not bound its name untraced; and when the helper renames.
def Handing (cli : HandoffCli) (past : List Happening) : Happening → Prop
  | .ran exposed => cli.freezeMethod = .ptrace → exposed = true → .bound cli.watchName false ∈ past ∨ .detached ∈ past
  | .reached => cli.freezeMethod = .ptrace → .bound cli.watchName false ∈ past ∨ .detached ∈ past
  | .renamed tracee => (∀ other, .renamed other ∉ past) ∧ (cli.freezeMethod = .ptrace → AtBind tracee) ∧
      (cli.freezeMethod = .sigstop → .froze ∈ past ∧ .thawed ∉ past)
  | _ => True

def SignalsKept (w : Scene) : Prop :=
  .detached ∈ w.log ∨ w.Gone ∨ deliveredOn w.log ++ waiting w.tracee = (caughtOn w.log).filter passes

structure Sane (cli : HandoffCli) (w : Scene) : Prop where
  lawful : Lawful (Handing cli) [] w.log
  signals : cli.freezeMethod = .ptrace → SignalsKept w

inductive Frost where
  | never
  | frozen
  | thawed

def Frost.Fits (w : Scene) : Frost → Prop
  | .never => .froze ∉ w.log ∧ .thawed ∉ w.log
  | .frozen => .froze ∈ w.log ∧ .thawed ∉ w.log
  | .thawed => .thawed ∈ w.log ∨ w.Gone

-- The target is not traced: before it was seized, after it was let go, or by the
-- method that never traces it.
structure Loose (cli : HandoffCli) (renamed : Bool) (frost : Frost) (parted : Bool) (w : Scene) : Prop where
  lawful : Lawful (Handing cli) [] w.log
  renamed : (∃ tracee, .renamed tracee ∈ w.log) ↔ renamed = true
  traced : w.traced = false
  syscalls : w.syscalls = false
  free : ∀ stop reported, w.tracee ≠ .stopped stop reported
  detached : parted = true → .detached ∈ w.log
  exposed : parted = true ∨ ∀ listening, w.names cli.watchName = some (.target listening) → .bound cli.watchName false ∈ w.log
  quiet : parted = true ∨ (caughtOn w.log = [] ∧ deliveredOn w.log = [])
  frost : frost.Fits w

-- What a helper that counts entries and exits takes the target to be doing.
def expects (w : Scene) : Option Bool :=
  match w.tracee with
  | .running => some false
  | .inside _ => some w.syscalls
  | .stopped (.exit _ _) false => some true
  | .stopped _ false => some false
  | .stopped _ true => none
  | .dead _ _ => none

-- The target is traced, and `told` is the stop it was last reported in and has not
-- been let out of.
structure Watch (cli : HandoffCli) (inSyscall : Bool) (told : Option Stop) (renamed : Bool) (w : Scene) : Prop where
  lawful : Lawful (Handing cli) [] w.log
  renamed : (∃ tracee, .renamed tracee ∈ w.log) ↔ renamed = true
  traced : w.traced = true
  unreported : ∀ stop, w.tracee = .stopped stop true → told = some stop
  told : ∀ stop, told = some stop → w.tracee = .stopped stop true ∨ w.Gone
  parity : ∀ inside, expects w = some inside → inSyscall = inside
  exposed : ∀ listening, w.names cli.watchName = some (.target listening) → .bound cli.watchName false ∈ w.log ∨ w.Gone ∨
    (listening = false ∧ ∃ rax reported, w.tracee = .stopped (.exit (.bind cli.watchName) rax) reported ∧ 0 ≤ rax.toInt64)
  signals : w.Gone ∨ deliveredOn w.log ++ waiting w.tracee = (caughtOn w.log).filter passes
  frost : .froze ∉ w.log ∧ .thawed ∉ w.log

theorem lawful_note {τ : Type} {law : List τ → τ → Prop} {log : List τ} (lawful : Lawful law [] log) {entry : τ}
    (fits : law log entry) : Lawful law [] (log ++ [entry]) := by
  rw [lawful_append]
  exact ⟨lawful, fits, trivial⟩

section Logs

variable (log : List Happening) (entry : Happening)

theorem caught_snoc : caughtOn (log ++ [entry]) = caughtOn log ++ caughtOn [entry] := List.filterMap_append

theorem delivered_snoc : deliveredOn (log ++ [entry]) = deliveredOn log ++ deliveredOn [entry] := List.filterMap_append

theorem renamed_snoc (other : ∀ tracee, entry ≠ .renamed tracee) :
    (∃ tracee, .renamed tracee ∈ log ++ [entry]) ↔ ∃ tracee, .renamed tracee ∈ log := by
  simp only [List.mem_append, List.mem_singleton]
  constructor
  · rintro ⟨tracee, earlier | new⟩
    · exact ⟨tracee, earlier⟩
    · exact absurd new.symm (other tracee)
  · rintro ⟨tracee, earlier⟩
    exact ⟨tracee, .inl earlier⟩

theorem quiet_snoc {parted : Prop} (quiet : parted ∨ (caughtOn log = [] ∧ deliveredOn log = []))
    (plain : caughtOn [entry] = [] ∧ deliveredOn [entry] = []) :
    parted ∨ (caughtOn (log ++ [entry]) = [] ∧ deliveredOn (log ++ [entry]) = []) := by
  refine quiet.imp id fun both => ?_
  rw [caught_snoc, delivered_snoc, both.1, both.2]
  exact plain

end Logs

theorem exposes_iff (w : Scene) (name : String) : w.exposes name = true ↔ ∃ listening, w.names name = some (.target listening) := by
  simp only [Scene.exposes, decide_eq_true_eq]
  constructor
  · rintro (heard | deaf)
    · exact ⟨true, heard⟩
    · exact ⟨false, deaf⟩
  · rintro ⟨listening, held⟩
    cases listening with
    | false => exact .inr held
    | true => exact .inl held

section Untraced

variable {cli : HandoffCli} {renamed parted : Bool} {frost : Frost} {w w' : Scene}

theorem Loose.silent (loose : Loose cli renamed frost parted w) : waiting w.tracee = [] := by
  cases at_ : w.tracee with
  | stopped stop reported => exact absurd at_ (loose.free stop reported)
  | running | inside | dead => rfl

theorem Loose.sane (loose : Loose cli renamed frost parted w) : Sane cli w where
  lawful := loose.lawful
  signals _ := by
    rcases loose.quiet with done | ⟨caught, delivered⟩
    · exact .inl (loose.detached done)
    · refine .inr (.inr ?_)
      rw [caught, delivered, loose.silent]
      rfl

-- Something the target or somebody else did, under the same names.
theorem Loose.noted (loose : Loose cli renamed frost parted w) (entry : Happening) (fits : Handing cli w.log entry)
    (plain : ∀ tracee, entry ≠ .renamed tracee) (quiet : caughtOn [entry] = [] ∧ deliveredOn [entry] = [])
    (cold : entry ≠ .froze ∧ entry ≠ .thawed) : Loose cli renamed frost parted (w.note entry) where
  lawful := lawful_note loose.lawful fits
  renamed := (renamed_snoc w.log entry plain).trans loose.renamed
  traced := loose.traced
  syscalls := loose.syscalls
  free := loose.free
  detached := fun done => List.mem_append_left _ (loose.detached done)
  exposed := loose.exposed.imp id fun known listening held => List.mem_append_left _ (known listening held)
  quiet := quiet_snoc w.log entry loose.quiet quiet
  frost := by
    have froze : .froze ∈ w.log ++ [entry] ↔ .froze ∈ w.log := by simp [Ne.symm cold.1]
    have thawed : .thawed ∈ w.log ++ [entry] ↔ .thawed ∈ w.log := by simp [Ne.symm cold.2]
    cases frost with
    | never => exact ⟨fun there => loose.frost.1 (froze.mp there), fun there => loose.frost.2 (thawed.mp there)⟩
    | frozen => exact ⟨froze.mpr loose.frost.1, fun there => loose.frost.2 (thawed.mp there)⟩
    | thawed => exact loose.frost.imp thawed.mpr id

-- The target moves on, or the names change without its socket appearing anywhere.
theorem Loose.moved (loose : Loose cli renamed frost parted w) (tracee : Tracee) (names : String → Option Owner) (halted : Bool)
    (free : ∀ stop reported, tracee ≠ .stopped stop reported) (dead : w.Gone → ∃ status reported, tracee = .dead status reported)
    (known : ∀ listening, names cli.watchName = some (.target listening) →
      .bound cli.watchName false ∈ w.log ∨ ∃ before, w.names cli.watchName = some (.target before)) :
    Loose cli renamed frost parted { w with tracee, names, halted } where
  lawful := loose.lawful
  renamed := loose.renamed
  traced := loose.traced
  syscalls := loose.syscalls
  free := free
  detached := loose.detached
  exposed := by
    refine loose.exposed.imp id fun bound listening held => ?_
    rcases known listening held with here | ⟨before, was⟩
    · exact here
    · exact bound before was
  quiet := loose.quiet
  frost := by
    cases frost with
    | never => exact loose.frost
    | frozen => exact loose.frost
    | thawed => exact loose.frost.imp id dead

theorem Loose.exposure (loose : Loose cli renamed frost parted w) (listening : Bool)
    (held : w.names cli.watchName = some (.target listening)) : .bound cli.watchName false ∈ w.log ∨ .detached ∈ w.log := by
  rcases loose.exposed with done | known
  · exact .inr (loose.detached done)
  · exact .inl (known listening held)

theorem Loose.ran (loose : Loose cli renamed frost parted w) : Handing cli w.log (.ran (w.exposes cli.watchName)) := by
  intro _ exposed
  obtain ⟨listening, held⟩ := (exposes_iff w _).mp exposed
  exact loose.exposure listening held

theorem loose_stable : Stable ⟨Serves cli, Elsewhere cli⟩ (Loose cli renamed frost parted) := by
  intro w w' loose moved
  have ran := loose.noted _ loose.ran (by simp) (by simp [caughtOn, deliveredOn]) (by simp)
  have settled : ∀ (stop : Tracee), (if w.syscalls then stop else Tracee.running) = .running := fun stop => if_neg (by simp [loose.syscalls])
  cases moved with
  | runs running free => exact ran
  | enters call running free untraced =>
      exact ran.moved (.inside call) w.names w.halted (by simp) (by rintro ⟨_, _, is⟩; cases running.symm.trans is) fun l held => .inr ⟨l, held⟩
  | entersTraced call running free traced => simp [loose.syscalls] at traced
  | binds name rax inside vacant succeeds =>
      have noted := loose.noted (.bound name w.syscalls) trivial (by simp) (by simp [caughtOn, deliveredOn]) (by simp)
      rw [settled]
      refine noted.moved .running _ w.halted (by simp) (by rintro ⟨_, _, is⟩; cases inside.symm.trans is) fun l held => ?_
      by_cases public_ : cli.watchName = name
      · exact .inl (by simp [Scene.note, loose.syscalls, public_])
      · exact .inr ⟨l, (if_neg public_).symm.trans held⟩
  | listens name rax inside held =>
      rw [settled]
      refine loose.moved .running _ w.halted (by simp) (by rintro ⟨_, _, is⟩; cases inside.symm.trans is) fun l there => ?_
      by_cases public_ : cli.watchName = name
      · exact .inr ⟨false, public_ ▸ held⟩
      · exact .inr ⟨l, (if_neg public_).symm.trans there⟩
  | returns call rax inside =>
      rw [settled]
      exact loose.moved .running w.names w.halted (by simp) (by rintro ⟨_, _, is⟩; cases inside.symm.trans is) fun l held => .inr ⟨l, held⟩
  | interrupted running traced => simp [loose.traced] at traced
  | signalled sig running traced => simp [loose.traced] at traced
  | halts halted untraced =>
      exact loose.moved w.tracee w.names halted loose.free id fun l held => .inr ⟨l, held⟩
  | dies status alive => exact loose.moved (.dead status false) w.names w.halted (by simp) (fun _ => ⟨_, _, rfl⟩) fun l held => .inr ⟨l, held⟩
  | renames names theirs => exact loose.moved w.tracee names w.halted loose.free id fun l held => .inr ⟨l, theirs _ l held⟩
  | connects takes alive => exact loose.noted .reached (fun _ => loose.exposure true takes) (by simp) (by simp [caughtOn, deliveredOn]) (by simp)

end Untraced

section Traced

variable {cli : HandoffCli} {inSyscall renamed : Bool} {told : Option Stop} {w w' : Scene}

theorem Watch.sane (watch : Watch cli inSyscall told renamed w) : Sane cli w :=
  ⟨watch.lawful, fun _ => .inr watch.signals⟩

theorem Watch.noted (watch : Watch cli inSyscall told renamed w) (entry : Happening) (fits : Handing cli w.log entry)
    (plain : ∀ tracee, entry ≠ .renamed tracee) (quiet : caughtOn [entry] = [] ∧ deliveredOn [entry] = [])
    (cold : entry ≠ .froze ∧ entry ≠ .thawed) :
    Watch cli inSyscall told renamed (w.note entry) where
  lawful := lawful_note watch.lawful fits
  renamed := (renamed_snoc w.log entry plain).trans watch.renamed
  traced := watch.traced
  unreported := watch.unreported
  told := watch.told
  parity := watch.parity
  exposed := fun listening held => (watch.exposed listening held).imp (List.mem_append_left _) id
  signals := by
    refine watch.signals.imp id fun kept => ?_
    show deliveredOn (w.log ++ [entry]) ++ waiting w.tracee = (caughtOn (w.log ++ [entry])).filter passes
    rw [delivered_snoc, caught_snoc, quiet.1, quiet.2, List.append_nil, List.append_nil]
    exact kept
  frost := by
    have apart : ∀ other, entry ≠ other → other ∉ w.log → other ∉ w.log ++ [entry] := by
      intro other different absent there
      rcases List.mem_append.mp there with earlier | new
      · exact absent earlier
      · exact different (List.mem_singleton.mp new).symm
    exact ⟨apart .froze cold.1 watch.frost.1, apart .thawed cold.2 watch.frost.2⟩

-- A target that was in no reported stop moves on.
theorem Watch.moved (watch : Watch cli inSyscall told renamed w) (tracee : Tracee) (names : String → Option Owner)
    (active : ∀ stop, w.tracee ≠ .stopped stop true) (alive : ¬ w.Gone) (fresh : ∀ stop, tracee ≠ .stopped stop true)
    (same : waiting tracee = waiting w.tracee) (parity : ∀ inside, expects (w.move tracee) = some inside → inSyscall = inside)
    (exposed : ∀ listening, names cli.watchName = some (.target listening) → .bound cli.watchName false ∈ w.log ∨
      (listening = false ∧ ∃ rax reported, tracee = .stopped (.exit (.bind cli.watchName) rax) reported ∧ 0 ≤ rax.toInt64)) :
    Watch cli inSyscall told renamed { w with tracee, names } where
  lawful := watch.lawful
  renamed := watch.renamed
  traced := watch.traced
  unreported stop is := absurd is (fresh stop)
  told stop is := by
    rcases watch.told stop is with there | gone
    · exact absurd there (active stop)
    · exact absurd gone alive
  parity := parity
  exposed := fun listening held => (exposed listening held).imp id .inr
  signals := by
    rcases watch.signals with gone | kept
    · exact absurd gone alive
    · exact .inr (same ▸ kept)
  frost := watch.frost

theorem running_alive (running : w.tracee = .running) : ¬ w.Gone := by
  rintro ⟨status, reported, is⟩
  cases running.symm.trans is

theorem inside_alive {call : Syscall} (inside : w.tracee = .inside call) : ¬ w.Gone := by
  rintro ⟨status, reported, is⟩
  cases inside.symm.trans is

-- A target between two stops shows its socket only when it bound it untraced.
theorem Watch.between (watch : Watch cli inSyscall told renamed w) (alive : ¬ w.Gone)
    (going : ∀ stop reported, w.tracee ≠ .stopped stop reported) (listening : Bool)
    (held : w.names cli.watchName = some (.target listening)) : .bound cli.watchName false ∈ w.log := by
  rcases watch.exposed listening held with known | gone | ⟨-, rax, reported, is, -⟩
  · exact known
  · exact absurd gone alive
  · exact absurd is (going _ _)

-- A call of the target ends, at an exit stop when its entry was one.
theorem Watch.ends (watch : Watch cli inSyscall told renamed w) (call : Syscall) (rax : UInt64) (inside : w.tracee = .inside call)
    (names : String → Option Owner)
    (exposed : ∀ listening, names cli.watchName = some (.target listening) → .bound cli.watchName false ∈ w.log ∨
      (listening = false ∧ w.syscalls = true ∧ call = .bind cli.watchName ∧ 0 ≤ rax.toInt64)) :
    Watch cli inSyscall told renamed
      { w with tracee := if w.syscalls then .stopped (.exit call rax) false else .running, names } := by
  have counted : inSyscall = w.syscalls := watch.parity _ (by rw [expects, inside])
  apply watch.moved _ names (by simp [inside]) (inside_alive inside)
  · split <;> simp
  · rw [inside]
    split <;> rfl
  · intro within is
    rw [counted]
    cases traced : w.syscalls with
    | true =>
        rw [traced, if_pos rfl] at is
        exact Option.some.inj is
    | false =>
        rw [traced, if_neg Bool.false_ne_true] at is
        exact Option.some.inj is
  · intro listening held
    refine (exposed listening held).imp id fun fresh => ?_
    obtain ⟨deaf, traced, rfl, succeeds⟩ := fresh
    exact ⟨deaf, rax, false, if_pos traced, succeeds⟩

theorem watch_stable : Stable ⟨Serves cli, Elsewhere cli⟩ (Watch cli inSyscall told renamed) := by
  intro w w' watch moved
  have ran : w.tracee = .running → Watch cli inSyscall told renamed (w.note (.ran (w.exposes cli.watchName))) := by
    intro running
    refine watch.noted _ (fun _ exposed => ?_) (by simp) (by simp [caughtOn, deliveredOn]) (by simp)
    obtain ⟨listening, held⟩ := (exposes_iff w _).mp exposed
    exact .inl (watch.between (running_alive running) (by simp [running]) listening held)
  have outside : w.tracee = .running → inSyscall = false := fun running => watch.parity false (by simp [expects, running])
  cases moved with
  | runs running free => exact ran running
  | enters call running free untraced =>
      apply (ran running).moved (.inside call) w.names (by simp [Scene.note, running]) (running_alive running) (by simp)
      · show waiting (.inside call) = waiting w.tracee
        rw [running]
        rfl
      · intro inside is
        obtain rfl : w.syscalls = inside := Option.some.inj is
        rw [outside running, untraced]
      · exact fun listening held => .inl (List.mem_append_left _ (watch.between (running_alive running) (by simp [running]) listening held))
  | entersTraced call running free traced =>
      apply (ran running).moved (.stopped (.entry call) false) w.names (by simp [Scene.note, running]) (running_alive running) (by simp)
      · show waiting (.stopped (.entry call) false) = waiting w.tracee
        rw [running]
        rfl
      · intro inside is
        obtain rfl : false = inside := Option.some.inj is
        exact outside running
      · exact fun listening held => .inl (List.mem_append_left _ (watch.between (running_alive running) (by simp [running]) listening held))
  | binds name rax inside vacant succeeds =>
      have noted := watch.noted (.bound name w.syscalls) trivial (by simp) (by simp [caughtOn, deliveredOn]) (by simp)
      apply noted.ends (.bind name) rax inside
      intro listening held
      by_cases public_ : cli.watchName = name
      · cases traced : w.syscalls with
        | true =>
            refine .inr ⟨?_, traced, by rw [public_], succeeds⟩
            exact Owner.target.inj (Option.some.inj ((if_pos public_).symm.trans held).symm)
        | false => exact .inl (by simp [Scene.note, traced, public_])
      · apply Or.inl
        apply List.mem_append_left
        exact watch.between (inside_alive inside) (by simp [inside]) listening ((if_neg public_).symm.trans held)
  | listens name rax inside held =>
      apply watch.ends .listen rax inside
      intro listening there
      apply Or.inl
      by_cases public_ : cli.watchName = name
      · exact watch.between (inside_alive inside) (by simp [inside]) false (public_ ▸ held)
      · exact watch.between (inside_alive inside) (by simp [inside]) listening ((if_neg public_).symm.trans there)
  | returns call rax inside =>
      apply watch.ends call rax inside
      exact fun listening held => .inl (watch.between (inside_alive inside) (by simp [inside]) listening held)
  | interrupted running traced =>
      apply watch.moved (.stopped .event false) w.names (by simp [running]) (running_alive running) (by simp) (by rw [running]; rfl)
      · intro inside is
        obtain rfl : false = inside := Option.some.inj is
        exact outside running
      · exact fun listening held => .inl (watch.between (running_alive running) (by simp [running]) listening held)
  | signalled sig running traced =>
      refine
        { lawful := lawful_note watch.lawful trivial
          renamed := (renamed_snoc w.log (.caught sig) (by simp)).trans watch.renamed
          traced := watch.traced
          unreported := by simp [Scene.note, Scene.move]
          told := fun stop is => ?_
          parity := fun within is => ?_
          exposed := fun listening held => ?_
          signals := ?_
          frost := by simp [Scene.note, Scene.move, watch.frost] }
      · rcases watch.told stop is with there | gone
        · cases running.symm.trans there
        · exact absurd gone (running_alive running)
      · obtain rfl : false = within := Option.some.inj is
        exact outside running
      · exact .inl (List.mem_append_left _ (watch.between (running_alive running) (by simp [running]) listening held))
      · rcases watch.signals with gone | kept
        · exact absurd gone (running_alive running)
        · refine .inr ?_
          show deliveredOn (w.log ++ [.caught sig]) ++ waiting (.stopped (.signal sig) false) = (caughtOn (w.log ++ [.caught sig])).filter passes
          rw [running, show waiting .running = [] from rfl, List.append_nil] at kept
          rw [delivered_snoc, caught_snoc, List.filter_append, ← kept]
          simp [deliveredOn, caughtOn, waiting, List.filter_cons]
  | halts halted untraced => simp [watch.traced] at untraced
  | dies status alive =>
      exact
        { lawful := watch.lawful
          renamed := watch.renamed
          traced := watch.traced
          unreported := by simp [Scene.move]
          told := fun _ _ => .inr ⟨status, false, rfl⟩
          parity := by simp [expects, Scene.move]
          exposed := fun _ _ => .inr (.inl ⟨status, false, rfl⟩)
          signals := .inl ⟨status, false, rfl⟩
          frost := watch.frost }
  | renames names theirs =>
      exact { watch with exposed := fun listening held => watch.exposed listening (theirs _ listening held) }
  | connects takes alive =>
      refine watch.noted .reached (fun _ => ?_) (by simp) (by simp [caughtOn, deliveredOn]) (by simp)
      rcases watch.exposed true takes with known | gone | ⟨deaf, -⟩
      · exact .inl known
      · exact absurd gone alive
      · cases deaf

end Traced

end WlResprox
