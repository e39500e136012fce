import WlResprox.Handovers

set_option autoImplicit false

namespace WlResprox

-- The outcomes with the socket renamed.
def renames : Except HandoffError Unit → Bool
  | .ok () | .error .detach => true
  | .error _ => false

-- How a helper leaves the target: let go of, and told apart by the outcome whether
-- the socket was renamed.
structure Handed (cli : HandoffCli) (outcome : Except HandoffError Unit) (w : Scene) : Prop where
  lawful : Lawful (Handing cli) [] w.log
  renamed : (∃ tracee, .renamed tracee ∈ w.log) ↔ renames outcome = true
  traced : w.traced = false
  free : ∀ stop reported, w.tracee ≠ .stopped stop reported
  thawed : .froze ∈ w.log → .thawed ∈ w.log ∨ w.Gone

def Proceeding (cli : HandoffCli) : HandoffPass → Scene → Prop
  | .again .start, _ => False
  | .again (.tracing inSyscall), w => cli.freezeMethod = .ptrace ∧ Watch cli inSyscall none false w
  | .again .watching, w => cli.freezeMethod = .sigstop ∧ Loose cli false .never false w
  | .leave outcome, w => Handed cli outcome w

section Calls

variable {cli : HandoffCli} {inSyscall renamed parted : Bool} {told : Option Stop} {frost : Frost} {w : Scene}

theorem loosened (lawful : Lawful (Handing cli) [] w.log) (named : (∃ tracee, .renamed tracee ∈ w.log) ↔ renamed = true)
    (fits : frost.Fits w) : Loose cli renamed frost true w.loose where
  lawful := lawful_note lawful trivial
  renamed := (renamed_snoc w.log .detached (by simp)).trans named
  traced := rfl
  syscalls := rfl
  free stop reported is := by
    cases at_ : w.tracee with
    | stopped stop reported => cases stop <;> simp [Scene.loose, at_] at is
    | running | inside | dead => simp [Scene.loose, at_] at is
  detached _ := by simp [Scene.loose]
  exposed := .inl rfl
  quiet := .inl rfl
  frost := by
    cases frost with
    | never => simpa [Frost.Fits, Scene.loose] using fits
    | frozen => simpa [Frost.Fits, Scene.loose] using fits
    | thawed =>
        refine Or.imp (List.mem_append_left _) (fun gone => ?_) fits
        obtain ⟨status, reported, is⟩ := gone
        exact ⟨status, reported, by simp [Scene.loose, is]⟩

theorem Loose.handed {outcome : Except HandoffError Unit} (loose : Loose cli (renames outcome) frost parted w)
    (warm : frost = .never ∨ frost = .thawed) : Handed cli outcome w where
  lawful := loose.lawful
  renamed := loose.renamed
  traced := loose.traced
  free := loose.free
  thawed froze := by
    rcases warm with rfl | rfl
    · exact absurd froze loose.frost.1
    · exact loose.frost

-- The end of the process lets the target go, whatever it was doing.
theorem finish_within (outcome : Except HandoffError Unit) (holds : Scene → Prop)
    (stable : Stable ⟨Serves cli, Elsewhere cli⟩ holds) (here : holds w) (sane : ∀ w, holds w → Sane cli w)
    (fits : ∀ w, holds w → ((∃ tracee, .renamed tracee ∈ w.log) ↔ renames outcome = true))
    (warm : ∀ w, holds w → Frost.never.Fits w ∨ Frost.thawed.Fits w) :
    (finish outcome).Within ⟨Serves cli, Elsewhere cli⟩ (Sane cli) (Proceeding cli) w := by
  refine within_call stable here sane _ _ fun w answer w' held answered => ?_
  cases answered
  have ended : ∃ frost, (frost = .never ∨ frost = .thawed) ∧ Loose cli (renames outcome) frost true w.loose := by
    rcases warm w held with never | thawed
    · exact ⟨.never, .inl rfl, loosened (sane w held).lawful (fits w held) never⟩
    · exact ⟨.thawed, .inr rfl, loosened (sane w held).lawful (fits w held) thawed⟩
  obtain ⟨frost, warm, loose⟩ := ended
  exact within_ret loose_stable loose _ fun w loose => ⟨loose.sane, loose.handed warm⟩

theorem finish_loose (outcome : Except HandoffError Unit) (loose : Loose cli (renames outcome) frost parted w)
    (warm : frost = .never ∨ frost = .thawed) :
    (finish outcome).Within ⟨Serves cli, Elsewhere cli⟩ (Sane cli) (Proceeding cli) w := by
  apply finish_within outcome _ loose_stable loose (fun w held => held.sane) (fun w held => held.renamed)
  intro w held
  rcases warm with rfl | rfl
  · exact .inl held.frost
  · exact .inr held.frost

theorem finish_watch (outcome : Except HandoffError Unit) (watch : Watch cli inSyscall told (renames outcome) w) :
    (finish outcome).Within ⟨Serves cli, Elsewhere cli⟩ (Sane cli) (Proceeding cli) w :=
  finish_within outcome _ watch_stable watch (fun _ held => held.sane) (fun _ held => held.renamed) fun _ held => .inl held.frost

theorem Watch.loosened (watch : Watch cli inSyscall told renamed w) : Loose cli renamed .never true w.loose :=
  WlResprox.loosened watch.lawful watch.renamed watch.frost

theorem bail_within (armed : Bool) (failure : HandoffError) (plain : renames (.error failure) = false)
    (watch : Watch cli inSyscall told false w) :
    (bail armed failure).Within ⟨Serves cli, Elsewhere cli⟩ (Sane cli) (Proceeding cli) w := by
  cases armed with
  | false => exact finish_watch (.error failure) (plain ▸ watch)
  | true =>
      refine within_call watch_stable watch (fun w held => held.sane) _ _ fun w answer w' held answered => ?_
      cases answered with
      | detached => exact finish_loose (.error failure) (plain ▸ held.loosened) (.inl rfl)
      | notDetached => exact finish_watch (.error failure) (plain ▸ held)

-- The stop the target is in does not show its socket.
def Clear (cli : HandoffCli) (stop : Stop) (w : Scene) : Prop :=
  ∀ listening, w.names cli.watchName = some (.target listening) → .bound cli.watchName false ∈ w.log ∨
    ∀ rax, stop = .exit (.bind cli.watchName) rax → ¬ 0 ≤ rax.toInt64

structure Stopped (cli : HandoffCli) (inSyscall : Bool) (stop : Stop) (w : Scene) : Prop where
  watch : Watch cli inSyscall (some stop) false w
  clear : Clear cli stop w

theorem stopped_stable (stop : Stop) : Stable ⟨Serves cli, Elsewhere cli⟩ (Stopped cli inSyscall stop) := by
  intro w w' stopped moved
  refine ⟨watch_stable w w' stopped.watch moved, fun listening held => ?_⟩
  have halt : (∃ stop, w.tracee = .stopped stop true) ∨ w.Gone :=
    (stopped.watch.told stop rfl).imp (fun is => ⟨stop, is⟩) id
  have still : ∀ tracee, (∀ stop, tracee ≠ .stopped stop true) → (∀ status reported, tracee ≠ .dead status reported) → w.tracee ≠ tracee := by
    rintro _ unstopped alive rfl
    rcases halt with ⟨stop, is⟩ | ⟨status, reported, is⟩
    · exact unstopped stop is
    · exact alive status reported is
  cases moved with
  | runs running free => exact absurd running (still _ (by simp) (by simp))
  | enters call running free untraced => exact absurd running (still _ (by simp) (by simp))
  | entersTraced call running free traced => exact absurd running (still _ (by simp) (by simp))
  | binds name rax inside vacant succeeds => exact absurd inside (still _ (by simp) (by simp))
  | listens name rax inside held => exact absurd inside (still _ (by simp) (by simp))
  | returns call rax inside => exact absurd inside (still _ (by simp) (by simp))
  | interrupted running traced => exact absurd running (still _ (by simp) (by simp))
  | signalled sig running traced => exact absurd running (still _ (by simp) (by simp))
  | halts halted untraced => exact stopped.clear listening held
  | dies status alive => exact stopped.clear listening held
  | renames names theirs => exact stopped.clear listening (theirs _ listening held)
  | connects takes alive => exact (stopped.clear listening held).imp (List.mem_append_left _) id

def Stop.isExit : Stop → Bool
  | .exit _ _ => true
  | _ => false

def Stop.isEntry : Stop → Bool
  | .entry _ => true
  | _ => false

-- The helper is told of a stop, and its count tells an exit from everything else.
theorem Watch.report (watch : Watch cli inSyscall none renamed w) (stop : Stop) (stopped : w.tracee = .stopped stop false) :
    Watch cli inSyscall (some stop) renamed (w.move (.stopped stop true)) ∧ inSyscall = stop.isExit := by
  have alive : ¬ w.Gone := by
    rintro ⟨status, reported, is⟩
    cases stopped.symm.trans is
  constructor
  · exact
      { lawful := watch.lawful
        renamed := watch.renamed
        traced := watch.traced
        unreported := fun other is => by
          obtain ⟨rfl, -⟩ := Tracee.stopped.inj is
          rfl
        told := fun other is => by
          obtain rfl := Option.some.inj is
          exact .inl rfl
        parity := fun inside is => by
          cases stop <;> cases is
        exposed := fun listening held => by
          rcases watch.exposed listening held with known | gone | ⟨deaf, rax, reported, is, succeeds⟩
          · exact .inl known
          · exact absurd gone alive
          · obtain ⟨rfl, -⟩ := Tracee.stopped.inj (stopped.symm.trans is)
            exact .inr (.inr ⟨deaf, rax, true, rfl, succeeds⟩)
        signals := by
          rcases watch.signals with gone | kept
          · exact absurd gone alive
          · rw [stopped] at kept
            exact .inr (by cases stop <;> exact kept)
        frost := watch.frost }
  · apply watch.parity
    rw [expects, stopped]
    cases stop <;> rfl

theorem Watch.hidden {stop : Stop} (watch : Watch cli inSyscall (some stop) false w) (clear : Clear cli stop w)
    (stopped : w.tracee = .stopped stop true) (listening : Bool) (held : w.names cli.watchName = some (.target listening)) :
    .bound cli.watchName false ∈ w.log := by
  rcases clear listening held with known | hidden
  · exact known
  · rcases watch.exposed listening held with known | ⟨status, reported, is⟩ | ⟨-, rax, reported, is, succeeds⟩
    · exact known
    · cases stopped.symm.trans is
    · obtain ⟨rfl, -⟩ := Tracee.stopped.inj (stopped.symm.trans is)
      exact absurd succeeds (hidden rax rfl)

-- The target goes on out of a stop, `more` being the signal that it takes along.
theorem Watch.released {stop : Stop} (watch : Watch cli inSyscall (some stop) false w) (clear : Clear cli stop w)
    (stopped : w.tracee = .stopped stop true) (more : List Happening) (given : more = [] ∨ ∃ sig, more = [.delivered sig])
    (kept : deliveredOn (w.log ++ more) = (caughtOn (w.log ++ more)).filter passes) (tracee : Tracee)
    (going : tracee = .running ∨ ∃ call, tracee = .inside call) (next : Bool)
    (parity : ∀ inside, expects { w with tracee, syscalls := true } = some inside → next = inside) :
    Watch cli next none false { w with tracee, syscalls := true, log := w.log ++ more } where
  lawful := by
    rcases given with rfl | ⟨sig, rfl⟩
    · rw [List.append_nil]
      exact watch.lawful
    · exact lawful_note watch.lawful trivial
  renamed := by
    rcases given with rfl | ⟨sig, rfl⟩
    · rw [List.append_nil]
      exact watch.renamed
    · exact (renamed_snoc w.log (.delivered sig) (by simp)).trans watch.renamed
  traced := watch.traced
  unreported := by rcases going with rfl | ⟨call, rfl⟩ <;> simp
  told := by simp
  parity := parity
  exposed := fun listening held => .inl (List.mem_append_left _ (watch.hidden clear stopped listening held))
  signals := by
    have silent : waiting tracee = [] := by
      rcases going with rfl | ⟨call, rfl⟩ <;> rfl
    exact .inr (by rw [silent, List.append_nil]; exact kept)
  frost := by
    rcases given with rfl | ⟨sig, rfl⟩
    · rw [List.append_nil]
      exact watch.frost
    · simp [watch.frost]

theorem Watch.kept {stop : Stop} (watch : Watch cli inSyscall told renamed w) (stopped : w.tracee = .stopped stop true) :
    deliveredOn w.log ++ waiting (.stopped stop true) = (caughtOn w.log).filter passes := by
  rcases watch.signals with ⟨status, reported, is⟩ | kept
  · cases stopped.symm.trans is
  · rw [stopped] at kept
    exact kept

-- The target is let out of a stop, with the signal it stopped for when that is one
-- to hand on.
theorem Watch.resume {stop : Stop} (watch : Watch cli inSyscall (some stop) false w) (clear : Clear cli stop w)
    (stopped : w.tracee = .stopped stop true) (deliver : Option Signal)
    (fits : ∀ sig, stop = .signal sig → deliver = if passes sig then some sig else none) :
    Watch cli stop.isEntry none false (resumed w stop deliver) := by
  have kept := watch.kept stopped
  have plain : waiting (.stopped stop true) = [] → ∀ tracee, (tracee = .running ∨ ∃ call, tracee = .inside call) → ∀ next,
      (∀ inside, expects { w with tracee, syscalls := true } = some inside → next = inside) →
        Watch cli next none false { w with tracee, syscalls := true } := by
    intro quiet tracee going next parity
    rw [quiet, List.append_nil] at kept
    have released := watch.released clear stopped [] (.inl rfl) (by rw [List.append_nil]; exact kept) tracee going next parity
    rwa [List.append_nil] at released
  cases stop with
  | event => exact plain rfl .running (.inl rfl) false fun _ is => Option.some.inj is
  | entry call => exact plain rfl (.inside call) (.inr ⟨call, rfl⟩) true fun _ is => Option.some.inj is
  | exit call rax => exact plain rfl .running (.inl rfl) false fun _ is => Option.some.inj is
  | signal sig =>
      obtain rfl := fits sig rfl
      cases handed : passes sig with
      | false => exact plain (by simp [waiting, handed]) .running (.inl rfl) false fun _ is => Option.some.inj is
      | true =>
          apply watch.released clear stopped [.delivered sig] (.inr ⟨sig, rfl⟩) _ .running (.inl rfl) false
          · exact fun _ is => Option.some.inj is
          · rw [delivered_snoc, caught_snoc, List.filter_append, ← kept]
            simp [deliveredOn, caughtOn, waiting, handed]

end Calls

section Rounds

variable {cli : HandoffCli} {inSyscall : Bool} {w : Scene}

abbrev Holds (cli : HandoffCli) (program : HandoffProgram HandoffPass) (w : Scene) : Prop :=
  program.Within ⟨Serves cli, Elsewhere cli⟩ (Sane cli) (Proceeding cli) w

theorem alive_within (holds : Scene → Prop) (stable : Stable ⟨Serves cli, Elsewhere cli⟩ holds) (sane : ∀ w, holds w → Sane cli w)
    (next : Bool → HandoffProgram HandoffPass) (onward : ∀ alive w, holds w → Holds cli (next alive) w) (here : holds w) :
    Holds cli (targetIsAlive >>= next) w := by
  refine within_call stable here sane _ _ fun w signalled w' held answered => ?_
  cases answered
  cases signalled with
  | false => exact onward false w held
  | true =>
      refine within_call stable held sane _ _ fun w lines w' held answered => ?_
      cases answered
      cases lines with
      | none => exact onward false w held
      | some lines => exact onward _ w held

theorem resume_within {stop : Stop} (ptrace : cli.freezeMethod = .ptrace) (stopped : Stopped cli inSyscall stop w)
    (deliver : Option Signal) (fits : ∀ sig, stop = .signal sig → deliver = if passes sig then some sig else none)
    (failure : HandoffError) (plain : renames (.error failure) = false) :
    Holds cli (resumeTarget deliver stop.isEntry failure) w := by
  refine within_call (stopped_stable stop) stopped (fun w held => held.watch.sane) _ _ fun w answer w' held answered => ?_
  cases answered with
  | syscall _ other there =>
      obtain rfl := Option.some.inj (held.watch.unreported other there)
      have next := held.watch.resume held.clear there deliver fits
      exact within_ret watch_stable next _ fun w watch => ⟨watch.sane, ptrace, watch⟩
  | notResumed => exact bail_within true failure plain held.watch

-- The target stands at the exit of a bind that succeeded when its socket moves.
theorem Watch.rename {call : Syscall} {rax : UInt64} (watch : Watch cli inSyscall (some (.exit call rax)) false w)
    (ptrace : cli.freezeMethod = .ptrace) (different : cli.watchName ≠ cli.renameTo) (bind : call.number = sysBind)
    (succeeds : 0 ≤ rax.toInt64) (owner : Owner) :
    Watch cli inSyscall (some (.exit call rax)) true
      (((w.put cli.watchName none).put cli.renameTo (some owner)).note (.renamed w.tracee)) where
  lawful := by
    refine lawful_note watch.lawful ⟨fun other there => ?_, fun _ => ?_, fun sigstop => ?_⟩
    · exact Bool.false_ne_true (watch.renamed.mp ⟨other, there⟩)
    · rcases watch.told _ rfl with stopped | ⟨status, reported, is⟩
      · exact .inl ⟨call, rax, stopped, bind, succeeds⟩
      · exact .inr ⟨status, reported, is⟩
    · rw [ptrace] at sigstop
      cases sigstop
  renamed := by simp [Scene.note]
  traced := watch.traced
  unreported := watch.unreported
  told := watch.told
  parity := watch.parity
  exposed listening held := by
    have vacated : (if cli.watchName = cli.renameTo then some owner else
      if cli.watchName = cli.watchName then none else w.names cli.watchName) = some (.target listening) := held
    rw [if_neg different, if_pos rfl] at vacated
    cases vacated
  signals := by
    refine watch.signals.imp id fun kept => ?_
    show deliveredOn (w.log ++ [.renamed w.tracee]) ++ waiting w.tracee = (caughtOn (w.log ++ [.renamed w.tracee])).filter passes
    rw [delivered_snoc, caught_snoc]
    simpa [deliveredOn, caughtOn] using kept
  frost := by simp [Scene.note, Scene.put, watch.frost]

theorem hand_over_within {call : Syscall} {rax : UInt64} (watch : Watch cli inSyscall (some (.exit call rax)) false w)
    (ptrace : cli.freezeMethod = .ptrace) (different : cli.watchName ≠ cli.renameTo) (bind : call.number = sysBind)
    (succeeds : 0 ≤ rax.toInt64) : Holds cli (handOver cli) w := by
  refine within_call watch_stable watch (fun w held => held.sane) _ _ fun w answer w' held answered => ?_
  cases answered with
  | renamed _ _ owner present =>
      have moved := held.rename ptrace different bind succeeds owner
      refine within_call watch_stable moved (fun w held => held.sane) _ _ fun w answer w' held answered => ?_
      cases answered with
      | detached => exact finish_loose (.ok ()) held.loosened (.inl rfl)
      | notDetached => exact finish_watch (.error .detach) held
  | notRenamed =>
      refine within_call watch_stable held (fun w held => held.sane) _ _ fun w answer w' held answered => ?_
      cases answered with
      | detached => exact finish_loose (.error .renaming) held.loosened (.inl rfl)
      | notDetached => exact finish_watch (.error .renaming) held

theorem int64_inj {a b : UInt64} (same : a.toInt64 = b.toInt64) : a = b := congrArg Int64.toUInt64 same

theorem examine_within {call : Syscall} {rax : UInt64} (watch : Watch cli inSyscall (some (.exit call rax)) false w)
    (ptrace : cli.freezeMethod = .ptrace) (different : cli.watchName ≠ cli.renameTo) :
    Holds cli (examine cli ⟨call.number, rax⟩) w := by
  by_cases bound : call.number.toInt64 = sysBind.toInt64 ∧ 0 ≤ rax.toInt64
  · rw [examine, if_pos bound]
    refine within_call watch_stable watch (fun w held => held.sane) _ _ fun w answer w' held answered => ?_
    cases answered
    cases present : (w.names cli.watchName).isSome with
    | true => exact hand_over_within held ptrace different (int64_inj bound.1) bound.2
    | false =>
        have vacant : w.names cli.watchName = none := by simpa using present
        have stopped : Stopped cli inSyscall (.exit call rax) w := ⟨held, fun listening there => by cases vacant.symm.trans there⟩
        exact resume_within ptrace stopped none (by simp) .syscallAtExit rfl
  · rw [examine, if_neg bound]
    have stopped : Stopped cli inSyscall (.exit call rax) w := by
      refine ⟨watch, fun listening held => .inr fun value is succeeds => bound ?_⟩
      obtain ⟨rfl, rfl⟩ := Stop.exit.inj is
      exact ⟨rfl, succeeds⟩
    exact resume_within ptrace stopped none (by simp) .syscallAtExit rfl

theorem syscall_exit_within {call : Syscall} {rax : UInt64} (watch : Watch cli inSyscall (some (.exit call rax)) false w)
    (ptrace : cli.freezeMethod = .ptrace) (different : cli.watchName ≠ cli.renameTo) : Holds cli (syscallExit cli) w := by
  refine within_call watch_stable watch (fun w held => held.sane) _ _ fun w answer w' held answered => ?_
  cases answered with
  | registers _ value there =>
      obtain ⟨rfl, rfl⟩ := Stop.exit.inj (Option.some.inj (held.unreported _ there))
      exact examine_within held ptrace different
  | otherRegisters stop regs there other =>
      exact absurd (Option.some.inj (held.unreported _ there)).symm (other call rax)
  | noRegisters => exact bail_within true .getregs rfl held

-- A death is reported at most once, and is not a stop.
theorem Watch.mourned (watch : Watch cli inSyscall none false w) (status : WaitStatus) :
    Watch cli inSyscall none false (w.move (.dead status true)) :=
  { watch with
    unreported := by simp [Scene.move]
    told := by simp
    parity := by simp [expects, Scene.move]
    exposed := fun _ _ => .inr (.inl ⟨status, true, rfl⟩)
    signals := .inl ⟨status, true, rfl⟩ }

-- One pass of the tracing loop: the helper's count of entries and exits is the
-- target's own, so what it takes for an exit is one.
theorem ptrace_round_within (watch : Watch cli inSyscall none false w) (ptrace : cli.freezeMethod = .ptrace)
    (different : cli.watchName ≠ cli.renameTo) : Holds cli (ptraceRound cli inSyscall) w := by
  refine within_call watch_stable watch (fun w held => held.sane) _ _ fun w late w' held answered => ?_
  cases answered
  cases late with
  | true => exact bail_within true .timedOut rfl held
  | false =>
      refine within_call watch_stable held (fun w held => held.sane) _ _ fun w answer w' held answered => ?_
      cases answered with
      | stopReported stop there =>
          obtain ⟨watch, counted⟩ := held.report stop there
          have stopped : (∀ call rax, stop ≠ .exit call rax) → Stopped cli inSyscall stop (w.move (.stopped stop true)) :=
            fun other => ⟨watch, fun _ _ => .inr fun rax is => absurd is (other _ rax)⟩
          cases stop with
          | event =>
              obtain rfl : inSyscall = false := counted
              exact resume_within ptrace (stopped (by simp)) none (by simp) .syscallAfterEvent rfl
          | entry call =>
              obtain rfl : inSyscall = false := counted
              exact resume_within ptrace (stopped (by simp)) none (by simp) .syscallAtEntry rfl
          | exit call rax =>
              obtain rfl : inSyscall = true := counted
              exact syscall_exit_within watch ptrace different
          | signal sig =>
              obtain rfl : inSyscall = false := counted
              cases sig with
              | sigtrap | sigstop => exact resume_within ptrace (stopped (by simp)) none (by simp [passes]) .syscallAfterSignal rfl
              | sigcont => exact resume_within ptrace (stopped (by simp)) (some .sigcont) (by simp [passes]) .syscallAfterSignal rfl
              | other number =>
                  exact resume_within ptrace (stopped (by simp)) (some (.other number)) (by simp [passes]) .syscallAfterSignal rfl
      | deathReported status died ending =>
          have mourned := held.mourned status
          rcases ending with ⟨code, rfl⟩ | ⟨sig, rfl⟩
          · exact bail_within false (.exited code) rfl mourned
          · exact bail_within false (.signaled sig) rfl mourned
      | stillAlive =>
          refine within_call watch_stable held (fun w held => held.sane) _ _ fun w answer w' held answered => ?_
          cases answered
          exact within_ret watch_stable held _ fun w watch => ⟨watch.sane, ptrace, watch⟩
      | waitFailed errno =>
          cases errno with
          | echild => exact bail_within false .gone rfl held
          | other number => exact bail_within true .waitpid rfl held

theorem Loose.seize (loose : Loose cli false .never false w) : Watch cli false none false { w with traced := true } where
  lawful := loose.lawful
  renamed := loose.renamed
  traced := rfl
  unreported stop is := absurd is (loose.free stop true)
  told := by simp
  parity inside is := by
    cases at_ : w.tracee with
    | running => simpa [expects, at_] using is
    | inside call => simpa [expects, at_, loose.syscalls] using is
    | stopped stop reported => exact absurd at_ (loose.free stop reported)
    | dead => simp [expects, at_] at is
  exposed listening held := .inl ((loose.exposed.resolve_left Bool.false_ne_true) listening held)
  signals := by
    obtain ⟨caught, delivered⟩ := loose.quiet.resolve_left Bool.false_ne_true
    refine .inr ?_
    rw [caught, delivered, loose.silent]
    rfl
  frost := loose.frost

theorem run_ptrace_within (loose : Loose cli false .never false w) (ptrace : cli.freezeMethod = .ptrace) :
    Holds cli runPtrace w := by
  refine alive_within _ loose_stable (fun w held => held.sane) _ (fun alive w held => ?_) loose
  cases alive with
  | false => exact finish_loose (.error .exitedBefore) held (.inl rfl)
  | true =>
      refine within_call loose_stable held (fun w held => held.sane) _ _ fun w answer w' held answered => ?_
      cases answered with
      | notSeized => exact finish_loose (.error .seize) held (.inl rfl)
      | seized alive =>
          have watch := held.seize
          refine within_call watch_stable watch (fun w held => held.sane) _ _ fun w answer w' held answered => ?_
          cases answered
          cases answer with
          | false => exact bail_within true .interrupt rfl held
          | true => exact within_ret watch_stable held _ fun w watch => ⟨watch.sane, ptrace, watch⟩

theorem run_sigstop_within (loose : Loose cli false .never false w) (sigstop : cli.freezeMethod = .sigstop) :
    Holds cli runSigstop w := by
  refine within_call loose_stable loose (fun w held => held.sane) _ _ fun w answer w' held answered => ?_
  cases answered
  cases answer with
  | false => exact finish_loose (.error .inotifyInit) held (.inl rfl)
  | true =>
      refine within_call loose_stable held (fun w held => held.sane) _ _ fun w answer w' held answered => ?_
      cases answered
      cases answer with
      | false => exact finish_loose (.error .watching) held (.inl rfl)
      | true => exact within_ret loose_stable held _ fun w loose => ⟨loose.sane, sigstop, loose⟩

theorem Loose.freeze (loose : Loose cli false .never false w) : Loose cli false .frozen false ({ w with halted := true }.note .froze) where
  lawful := lawful_note loose.lawful trivial
  renamed := (renamed_snoc w.log .froze (by simp)).trans loose.renamed
  traced := loose.traced
  syscalls := loose.syscalls
  free := loose.free
  detached := by simp
  exposed := loose.exposed.imp id fun known listening held => List.mem_append_left _ (known listening held)
  quiet := quiet_snoc w.log .froze loose.quiet (by simp [caughtOn, deliveredOn])
  frost := ⟨by simp [Scene.note], by simp [Scene.note, loose.frost.2]⟩

-- The socket moves between the SIGSTOP and the SIGCONT.
theorem Loose.rename (loose : Loose cli false .frozen false w) (sigstop : cli.freezeMethod = .sigstop) (owner : Owner)
    (present : w.names cli.watchName = some owner) :
    Loose cli true .frozen false (((w.put cli.watchName none).put cli.renameTo (some owner)).note (.renamed w.tracee)) where
  lawful := by
    refine lawful_note loose.lawful ⟨fun other there => ?_, fun ptrace => ?_, fun _ => loose.frost⟩
    · exact Bool.false_ne_true (loose.renamed.mp ⟨other, there⟩)
    · rw [sigstop] at ptrace
      cases ptrace
  renamed := by simp [Scene.note]
  traced := loose.traced
  syscalls := loose.syscalls
  free := loose.free
  detached := by simp
  exposed := by
    refine .inr fun listening held => List.mem_append_left _ ?_
    have moved : (if cli.watchName = cli.renameTo then some owner else
      if cli.watchName = cli.watchName then none else w.names cli.watchName) = some (.target listening) := held
    split at moved
    · exact (loose.exposed.resolve_left Bool.false_ne_true) listening (present.trans moved)
    · rw [if_pos rfl] at moved
      cases moved
  quiet := quiet_snoc w.log (.renamed w.tracee) loose.quiet (by simp [caughtOn, deliveredOn])
  frost := ⟨by simp [Scene.note, Scene.put, loose.frost.1], by simp [Scene.note, Scene.put, loose.frost.2]⟩

theorem Loose.thaw {renamed : Bool} (loose : Loose cli renamed .frozen false w) :
    Loose cli renamed .thawed false ({ w with halted := false }.note .thawed) where
  lawful := lawful_note loose.lawful trivial
  renamed := (renamed_snoc w.log .thawed (by simp)).trans loose.renamed
  traced := loose.traced
  syscalls := loose.syscalls
  free := loose.free
  detached := by simp
  exposed := loose.exposed.imp id fun known listening held => List.mem_append_left _ (known listening held)
  quiet := quiet_snoc w.log .thawed loose.quiet (by simp [caughtOn, deliveredOn])
  frost := .inl (by simp [Scene.note])

theorem thaw_within (outcome : Except HandoffError Unit) (loose : Loose cli (renames outcome) .frozen false w) :
    Holds cli (.call (.kill .sigcont) fun _ => finish outcome) w := by
  refine within_call loose_stable loose (fun w held => held.sane) _ _ fun w answer w' held answered => ?_
  cases answered with
  | thawed => exact finish_loose outcome held.thaw (.inr rfl)
  | notKilled sig gone =>
      have parted : Loose cli (renames outcome) .thawed false w := { held with frost := .inr (gone rfl) }
      exact finish_loose outcome parted (.inr rfl)

theorem freeze_and_rename_within (loose : Loose cli false .never false w) (sigstop : cli.freezeMethod = .sigstop) :
    Holds cli (freezeAndRename cli) w := by
  refine within_call loose_stable loose (fun w held => held.sane) _ _ fun w answer w' held answered => ?_
  cases answered with
  | notKilled => exact finish_loose (.error .sigstop) held (.inl rfl)
  | frozen =>
      refine within_call loose_stable held.freeze (fun w held => held.sane) _ _ fun w answer w' held answered => ?_
      cases answered with
      | renamed _ _ owner present => exact thaw_within (.ok ()) (held.rename sigstop owner present)
      | notRenamed => exact thaw_within (.error .renaming) held

theorem read_through_within (loose : Loose cli false .never false w) (sigstop : cli.freezeMethod = .sigstop)
    (events : List (Option String)) : Holds cli (readThrough cli events) w := by
  unfold readThrough
  split
  · exact freeze_and_rename_within loose sigstop
  · exact within_ret loose_stable loose _ fun w loose => ⟨loose.sane, sigstop, loose⟩

theorem sigstop_round_within (loose : Loose cli false .never false w) (sigstop : cli.freezeMethod = .sigstop) :
    Holds cli (sigstopRound cli) w := by
  refine within_call loose_stable loose (fun w held => held.sane) _ _ fun w late w' held answered => ?_
  cases answered
  cases late with
  | true => exact finish_loose (.error .timedOut) held (.inl rfl)
  | false =>
      refine alive_within _ loose_stable (fun w held => held.sane) _ (fun alive w held => ?_) held
      cases alive with
      | false => exact finish_loose (.error .exitedBefore) held (.inl rfl)
      | true =>
          refine within_call loose_stable held (fun w held => held.sane) _ _ fun w answer w' held answered => ?_
          cases answered
          cases answer with
          | none => exact finish_loose (.error .poll) held (.inl rfl)
          | some ready =>
              cases ready with
              | false => exact within_ret loose_stable held _ fun w loose => ⟨loose.sane, sigstop, loose⟩
              | true =>
                  refine within_call loose_stable held (fun w held => held.sane) _ _ fun w answer w' held answered => ?_
                  cases answered
                  cases answer with
                  | none => exact finish_loose (.error .readingEvents) held (.inl rfl)
                  | some events => exact read_through_within held sigstop events

theorem start_within (loose : Loose cli false .never false w) : Holds cli (handoff cli .start) w := by
  have method : ∀ w, Loose cli false .never false w → Holds cli (if cli.freezeMethod = .sigstop then runSigstop else runPtrace) w := by
    intro w held
    cases method : cli.freezeMethod with
    | sigstop => exact run_sigstop_within held method
    | ptrace => exact run_ptrace_within held method
  refine within_call loose_stable loose (fun w held => held.sane) _ _ fun w stale w' held answered => ?_
  cases answered
  cases (w.names cli.watchName).isSome with
  | false => exact method w held
  | true =>
      refine within_call loose_stable held (fun w held => held.sane) _ _ fun w done w' held answered => ?_
      cases answered
      cases done with
      | false => exact finish_loose (.error .removingStale) held (.inl rfl)
      | true =>
          apply method
          apply held.moved w.tracee _ w.halted held.free id
          intro listening there
          cases (if_pos rfl).symm.trans there

theorem pass_within (different : cli.watchName ≠ cli.renameTo) (next : HandoffPoint) (stands : Proceeding cli (.again next) w) :
    Holds cli (handoff cli next) w := by
  cases next with
  | start => exact stands.elim
  | tracing inSyscall => exact ptrace_round_within stands.2 stands.1 different
  | watching => exact sigstop_round_within stands.2 stands.1

end Rounds

-- Before the helper starts: the target has bound nothing yet, and nobody traces it.
structure Unbound (w : Scene) : Prop where
  log : w.log = []
  traced : w.traced = false
  syscalls : w.syscalls = false
  free : ∀ stop reported, w.tracee ≠ .stopped stop reported
  names : ∀ name listening, w.names name ≠ some (.target listening)

theorem handoff_within {cli : HandoffCli} {start w : Scene} {program : HandoffProgram HandoffPass}
    (different : cli.watchName ≠ cli.renameTo) (unbound : Unbound start)
    (reached : Arrives ⟨Serves cli, Elsewhere cli⟩ (handoff cli) .start start program w) : Holds cli program w := by
  apply reached.within (start_within _) fun next later stands => pass_within different next stands
  exact
    { lawful := by rw [unbound.log]; trivial
      renamed := by simp [unbound.log]
      traced := unbound.traced
      syscalls := unbound.syscalls
      free := unbound.free
      detached := by simp
      exposed := .inr fun listening held => absurd held (unbound.names _ listening)
      quiet := .inr (by simp [unbound.log, caughtOn, deliveredOn])
      frost := by simp [Frost.Fits, unbound.log] }

def coreCli : HandoffCli := ⟨"wayland-0", "host-0", .ptrace⟩

-- A target about to start, and a name left over from the last cycle.
def coreScene : Scene where
  tracee := .running
  traced := false
  syscalls := false
  halted := false
  names name := if name = "wayland-0" then some .somebody else none
  log := []

theorem core_unbound : Unbound coreScene where
  log := rfl
  traced := rfl
  syscalls := rfl
  free := by simp [coreScene]
  names name listening := by
    rw [coreScene]
    dsimp only
    split <;> simp

theorem first_move {cli : HandoffCli} {program next last : HandoffProgram HandoffPass} {w w' : Scene} {fits : Scene → Prop}
    (move : Advances ⟨Serves cli, Elsewhere cli⟩ (handoff cli) (program, w) (next, w'))
    (rest : ∃ w, Relation.ReflTransGen (Advances ⟨Serves cli, Elsewhere cli⟩ (handoff cli)) (next, w') (last, w) ∧ fits w) :
    ∃ w', Relation.ReflTransGen (Advances ⟨Serves cli, Elsewhere cli⟩ (handoff cli)) (program, w) (last, w') ∧ fits w' :=
  arrives_then move rest

-- The target is seized, gets a signal, binds, and has its socket renamed.
theorem core_handed_over : ∃ w : Scene, Arrives ⟨Serves coreCli, Elsewhere coreCli⟩ (handoff coreCli) .start coreScene (.ret (.leave (.ok ()))) w ∧
    w.names "host-0" = some (.target false) ∧ deliveredOn w.log = [.other 28] ∧
      .renamed (.stopped (.exit (.bind "wayland-0") 0) true) ∈ w.log := by
  apply first_move (.answered _ _ _ _ true (.exists _ _))
  apply first_move (.answered _ _ _ _ true (.removed _ _ true))
  apply first_move (.answered _ _ _ _ true (.killZero _ true))
  apply first_move (.answered _ _ _ _ (some ["State:\tS (sleeping)".toList]) (.procStatus _ _))
  apply first_move (.answered _ _ _ _ true (.seized _ (running_alive rfl)))
  apply first_move (.answered _ _ _ _ true (.interrupt _ true))
  apply first_move (.again _ _)
  apply first_move (.meanwhile _ _ _ (.interrupted _ rfl rfl))
  apply first_move (.answered _ _ _ _ false (.deadline _ false))
  apply first_move (.answered _ _ _ _ (Except.ok .ptraceEvent) (.stopReported _ .event rfl))
  apply first_move (.answered _ _ _ _ true (.syscall _ none .event rfl))
  apply first_move (.again _ _)
  apply first_move (.meanwhile _ _ _ (.signalled _ (.other 28) rfl rfl))
  apply first_move (.answered _ _ _ _ false (.deadline _ false))
  apply first_move (.answered _ _ _ _ (Except.ok (.stopped (.other 28))) (.stopReported _ (.signal (.other 28)) rfl))
  apply first_move (.answered _ _ _ _ true (.syscall _ (some (.other 28)) (.signal (.other 28)) rfl))
  apply first_move (.again _ _)
  apply first_move (.meanwhile _ _ _ (.entersTraced _ (.bind "wayland-0") rfl rfl rfl))
  apply first_move (.answered _ _ _ _ false (.deadline _ false))
  apply first_move (.answered _ _ _ _ (Except.ok .ptraceSyscall) (.stopReported _ (.entry (.bind "wayland-0")) rfl))
  apply first_move (.answered _ _ _ _ true (.syscall _ none (.entry (.bind "wayland-0")) rfl))
  apply first_move (.again _ _)
  apply first_move (.meanwhile _ _ _ (.binds _ "wayland-0" 0 rfl rfl (by decide)))
  apply first_move (.answered _ _ _ _ false (.deadline _ false))
  apply first_move (.answered _ _ _ _ (Except.ok .ptraceSyscall) (.stopReported _ (.exit (.bind "wayland-0") 0) rfl))
  apply first_move (.answered _ _ _ _ (some ⟨49, 0⟩) (.registers _ (.bind "wayland-0") 0 rfl))
  apply first_move (.answered _ _ _ _ true (.exists _ _))
  apply first_move (.answered _ _ _ _ true (.renamed _ _ _ (.target false) rfl))
  apply first_move (.answered _ _ _ _ true (.detached _ (.exit (.bind "wayland-0") 0) true rfl))
  apply first_move (.answered _ _ _ _ () (.exits _))
  exact ⟨_, .refl, rfl, rfl, by decide⟩

-- At every moment of every handover: a helper that traces its target keeps it from
-- running, and everybody from reaching it, while its socket is under the public
-- name, unless it bound that name untraced or was let go; and the one renaming is
-- made while the target stands at the exit of a bind that succeeded.
theorem swap_unexposed (cli : HandoffCli) (start w : Scene) (program : HandoffProgram HandoffPass)
    (different : cli.watchName ≠ cli.renameTo) (unbound : Unbound start)
    (reached : Arrives ⟨Serves cli, Elsewhere cli⟩ (handoff cli) .start start program w) : Lawful (Handing cli) [] w.log :=
  (handoff_within different unbound reached).safe.lawful

theorem swap_unexposed_core : ∃ w : Scene, w.names "host-0" = some (.target false) ∧
    .renamed (.stopped (.exit (.bind "wayland-0") 0) true) ∈ w.log ∧ Lawful (Handing coreCli) [] w.log := by
  obtain ⟨w, run, named, -, renamed⟩ := core_handed_over
  exact ⟨w, named, renamed, swap_unexposed coreCli coreScene w _ (by decide) core_unbound run⟩

-- Until it is let go, what the target got of the signals sent to it is all of them
-- but SIGTRAP and SIGSTOP, in order.
theorem signals_passed (cli : HandoffCli) (start w : Scene) (program : HandoffProgram HandoffPass)
    (different : cli.watchName ≠ cli.renameTo) (unbound : Unbound start) (ptrace : cli.freezeMethod = .ptrace)
    (reached : Arrives ⟨Serves cli, Elsewhere cli⟩ (handoff cli) .start start program w) : SignalsKept w :=
  (handoff_within different unbound reached).safe.signals ptrace

theorem signals_passed_core : ∃ w : Scene, deliveredOn w.log = [.other 28] ∧ SignalsKept w := by
  obtain ⟨w, run, -, delivered, -⟩ := core_handed_over
  exact ⟨w, delivered, signals_passed coreCli coreScene w _ (by decide) core_unbound rfl run⟩

-- A helper that ended let go of the target, thawed one it froze, and its outcome
-- says whether the socket was renamed.
theorem swap_ends (cli : HandoffCli) (start w : Scene) (outcome : Except HandoffError Unit)
    (different : cli.watchName ≠ cli.renameTo) (unbound : Unbound start)
    (reached : Arrives ⟨Serves cli, Elsewhere cli⟩ (handoff cli) .start start (.ret (.leave outcome)) w) : Handed cli outcome w :=
  (handoff_within different unbound reached w .refl).2

theorem swap_ends_core : ∃ w : Scene, w.names "host-0" = some (.target false) ∧ Handed coreCli (.ok ()) w := by
  obtain ⟨w, run, named, -, -⟩ := core_handed_over
  exact ⟨w, named, swap_ends coreCli coreScene w _ (by decide) core_unbound run⟩

end WlResprox
