import Mathlib.Logic.Relation

set_option autoImplicit false

namespace WlResprox

-- What one process does, as a tree of calls on the world around it: a call is
-- resumed with the answer it gets.
inductive Program (Call : Type) (Answer : Call → Type) (α : Type) where
  | ret (value : α)
  | call (c : Call) (resume : Answer c → Program Call Answer α)

namespace Program

variable {Call : Type} {Answer : Call → Type} {α β : Type}

def bind : Program Call Answer α → (α → Program Call Answer β) → Program Call Answer β
  | ret value, next => next value
  | call c resume, next => call c fun answer => (resume answer).bind next

instance programMonad : Monad (Program Call Answer) where
  pure := ret
  bind := bind

def ask (c : Call) : Program Call Answer (Answer c) := call c ret

@[simp] theorem pure_ret (value : α) : (pure value : Program Call Answer α) = ret value := rfl

@[simp] theorem ret_bind (value : α) (next : α → Program Call Answer β) : (ret value >>= next) = next value := rfl

@[simp] theorem call_bind (c : Call) (resume : Answer c → Program Call Answer α) (next : α → Program Call Answer β) :
    (call c resume >>= next) = call c fun answer => resume answer >>= next := rfl

@[simp] theorem ask_bind (c : Call) (next : Answer c → Program Call Answer β) : (ask c >>= next) = call c next := rfl

end Program

-- How one pass through a loop ends.
inductive Pass (σ ε : Type) where
  | again (state : σ)
  | leave (outcome : ε)

-- The world a process runs in: what a call may do to it, and what everybody else
-- may do to it between two calls.
structure Surroundings (Call : Type) (Answer : Call → Type) (W : Type) where
  does : W → (c : Call) → Answer c → W → Prop
  meanwhile : W → W → Prop

variable {Call : Type} {Answer : Call → Type} {W α σ ε : Type}

-- A process inside a loop, interleaved with everybody else.
inductive Advances (around : Surroundings Call Answer W) (body : σ → Program Call Answer (Pass σ ε)) :
    Program Call Answer (Pass σ ε) × W → Program Call Answer (Pass σ ε) × W → Prop where
  | meanwhile (program : Program Call Answer (Pass σ ε)) (w w' : W) (others : around.meanwhile w w') :
      Advances around body (program, w) (program, w')
  | answered (c : Call) (resume : Answer c → Program Call Answer (Pass σ ε)) (w w' : W) (answer : Answer c)
      (done : around.does w c answer w') : Advances around body (.call c resume, w) (resume answer, w')
  | again (state : σ) (w : W) : Advances around body (.ret (.again state), w) (body state, w)

def Arrives (around : Surroundings Call Answer W) (body : σ → Program Call Answer (Pass σ ε)) (state : σ) (w : W)
    (program : Program Call Answer (Pass σ ε)) (w' : W) : Prop :=
  Relation.ReflTransGen (Advances around body) (body state, w) (program, w')

-- Whatever the others do at any moment and whatever a call answers, the world
-- stays safe, and the program returns in a world its result fits.
def Program.Within (around : Surroundings Call Answer W) (always : W → Prop) (post : α → W → Prop) :
    Program Call Answer α → W → Prop
  | .ret value, w => ∀ w', Relation.ReflTransGen around.meanwhile w w' → always w' ∧ post value w'
  | .call c resume, w => ∀ w', Relation.ReflTransGen around.meanwhile w w' →
      always w' ∧ ∀ answer w'', around.does w' c answer w'' → (resume answer).Within around always post w''

def Stable (around : Surroundings Call Answer W) (holds : W → Prop) : Prop :=
  ∀ w w', holds w → around.meanwhile w w' → holds w'

section Rules

variable {around : Surroundings Call Answer W} {always holds : W → Prop} {post : α → W → Prop} {w : W}

theorem Stable.later (stable : Stable around holds) {w' : W} (here : holds w)
    (others : Relation.ReflTransGen around.meanwhile w w') : holds w' := by
  induction others with
  | refl => exact here
  | tail _ step ih => exact stable _ _ ih step

theorem within_ret (stable : Stable around holds) (here : holds w) (value : α)
    (fits : ∀ w, holds w → always w ∧ post value w) : (Program.ret value : Program Call Answer α).Within around always post w :=
  fun _ others => fits _ (stable.later here others)

theorem within_call (stable : Stable around holds) (here : holds w) (keeps : ∀ w, holds w → always w) (c : Call)
    (resume : Answer c → Program Call Answer α)
    (next : ∀ w answer w', holds w → around.does w c answer w' → (resume answer).Within around always post w') :
    (Program.call c resume).Within around always post w :=
  fun _ others => ⟨keeps _ (stable.later here others), fun answer w' done => next _ answer w' (stable.later here others) done⟩

theorem Program.Within.safe {program : Program Call Answer α} (within : program.Within around always post w) : always w := by
  cases program with
  | ret value => exact (within w .refl).1
  | call c resume => exact (within w .refl).1

theorem Program.Within.meanwhile {program : Program Call Answer α} (within : program.Within around always post w) {w' : W}
    (others : around.meanwhile w w') : program.Within around always post w' := by
  cases program with
  | ret value => exact fun later rest => within later (.head others rest)
  | call c resume => exact fun later rest => within later (.head others rest)

end Rules

-- A loop whose every pass keeps to its rules keeps to them for as long as it runs.
theorem Arrives.within {around : Surroundings Call Answer W} {body : σ → Program Call Answer (Pass σ ε)} {always : W → Prop}
    {post : Pass σ ε → W → Prop} {state : σ} {w w' : W} {program : Program Call Answer (Pass σ ε)}
    (entry : (body state).Within around always post w)
    (turns : ∀ next later, post (.again next) later → (body next).Within around always post later)
    (reached : Arrives around body state w program w') : program.Within around always post w' := by
  suffices ∀ config, Relation.ReflTransGen (Advances around body) (body state, w) config → config.1.Within around always post config.2 from
    this (program, w') reached
  intro config reached
  induction reached with
  | refl => exact entry
  | tail _ move ih =>
      cases move with
      | meanwhile program w w' others => exact ih.meanwhile others
      | answered c resume w w' answer done => exact (ih w .refl).2 answer w' done
      | again next w => exact turns next w (ih w .refl).2

theorem arrives_then {around : Surroundings Call Answer W} {body : σ → Program Call Answer (Pass σ ε)}
    {program next last : Program Call Answer (Pass σ ε)} {w w' : W} {fits : W → Prop}
    (move : Advances around body (program, w) (next, w'))
    (rest : ∃ w, Relation.ReflTransGen (Advances around body) (next, w') (last, w) ∧ fits w) :
    ∃ w', Relation.ReflTransGen (Advances around body) (program, w) (last, w') ∧ fits w' := by
  obtain ⟨w, moves, fit⟩ := rest
  exact ⟨w, .head move moves, fit⟩

section Pairs

variable {CallA CallB : Type} {AnswerA : CallA → Type} {AnswerB : CallB → Type} {σA σB εA εB : Type}
  (doesA : W → (c : CallA) → AnswerA c → W → Prop) (doesB : W → (c : CallB) → AnswerB c → W → Prop)
  (bodyA : σA → Program CallA AnswerA (Pass σA εA)) (bodyB : σB → Program CallB AnswerB (Pass σB εB))

-- Two processes on one world, taking turns at every call.
inductive Together : Program CallA AnswerA (Pass σA εA) × Program CallB AnswerB (Pass σB εB) × W →
    Program CallA AnswerA (Pass σA εA) × Program CallB AnswerB (Pass σB εB) × W → Prop where
  | first (p p' : Program CallA AnswerA (Pass σA εA)) (q : Program CallB AnswerB (Pass σB εB)) (w w' : W)
      (move : Advances ⟨doesA, fun _ _ => False⟩ bodyA (p, w) (p', w')) : Together (p, q, w) (p', q, w')
  | second (p : Program CallA AnswerA (Pass σA εA)) (q q' : Program CallB AnswerB (Pass σB εB)) (w w' : W)
      (move : Advances ⟨doesB, fun _ _ => False⟩ bodyB (q, w) (q', w')) : Together (p, q, w) (p, q', w')

variable {doesA doesB bodyA bodyB}

theorem together_first {p p' : Program CallA AnswerA (Pass σA εA)} {w w' : W} (q : Program CallB AnswerB (Pass σB εB))
    (moves : Relation.ReflTransGen (Advances ⟨doesA, fun _ _ => False⟩ bodyA) (p, w) (p', w')) :
    Relation.ReflTransGen (Together doesA doesB bodyA bodyB) (p, q, w) (p', q, w') :=
  moves.lift (fun config => (config.1, q, config.2)) fun _ _ move => .first _ _ q _ _ move

theorem together_second (p : Program CallA AnswerA (Pass σA εA)) {q q' : Program CallB AnswerB (Pass σB εB)} {w w' : W}
    (moves : Relation.ReflTransGen (Advances ⟨doesB, fun _ _ => False⟩ bodyB) (q, w) (q', w')) :
    Relation.ReflTransGen (Together doesA doesB bodyA bodyB) (p, q, w) (p, q', w') :=
  moves.lift (fun config => (p, config.1, config.2)) fun _ _ move => .second p _ _ _ _ move

theorem move_within {around : Surroundings Call Answer W} {body : σ → Program Call Answer (Pass σ ε)} {always : W → Prop}
    {post : Pass σ ε → W → Prop} {program program' : Program Call Answer (Pass σ ε)} {w w' : W}
    (turns : ∀ next later, post (.again next) later → (body next).Within around always post later)
    (within : program.Within around always post w)
    (move : Advances ⟨around.does, fun _ _ => False⟩ body (program, w) (program', w')) :
    program'.Within around always post w' ∧ (w' = w ∨ ∃ c answer, around.does w c answer w') := by
  cases move with
  | meanwhile program w w' others => exact others.elim
  | answered c resume w w' answer done => exact ⟨(within w .refl).2 answer w' done, .inr ⟨c, answer, done⟩⟩
  | again next w => exact ⟨turns next w (within w .refl).2, .inl rfl⟩

-- Two processes keep to their rules together when each allows for what the calls
-- of the other do.
theorem together_within {relyA relyB : W → W → Prop} {alwaysA alwaysB : W → Prop}
    {postA : Pass σA εA → W → Prop} {postB : Pass σB εB → W → Prop}
    (turnsA : ∀ next w, postA (.again next) w → (bodyA next).Within ⟨doesA, relyA⟩ alwaysA postA w)
    (turnsB : ∀ next w, postB (.again next) w → (bodyB next).Within ⟨doesB, relyB⟩ alwaysB postB w)
    (allowsA : ∀ w c answer w', alwaysB w → doesB w c answer w' → relyA w w')
    (allowsB : ∀ w c answer w', alwaysA w → doesA w c answer w' → relyB w w')
    {p : Program CallA AnswerA (Pass σA εA)} {q : Program CallB AnswerB (Pass σB εB)} {w : W}
    (entryA : p.Within ⟨doesA, relyA⟩ alwaysA postA w) (entryB : q.Within ⟨doesB, relyB⟩ alwaysB postB w)
    {config : Program CallA AnswerA (Pass σA εA) × Program CallB AnswerB (Pass σB εB) × W}
    (reached : Relation.ReflTransGen (Together doesA doesB bodyA bodyB) (p, q, w) config) :
    config.1.Within ⟨doesA, relyA⟩ alwaysA postA config.2.2 ∧ config.2.1.Within ⟨doesB, relyB⟩ alwaysB postB config.2.2 := by
  induction reached with
  | refl => exact ⟨entryA, entryB⟩
  | tail _ step ih =>
      obtain ⟨withinA, withinB⟩ := ih
      cases step with
      | first p p' q w w' move =>
          obtain ⟨after, same | ⟨c, answer, done⟩⟩ : p'.Within ⟨doesA, relyA⟩ alwaysA postA w' ∧
            (w' = w ∨ ∃ c answer, doesA w c answer w') := move_within turnsA withinA move
          · exact ⟨after, same ▸ withinB⟩
          · exact ⟨after, withinB.meanwhile (allowsB w c answer w' withinA.safe done)⟩
      | second p q q' w w' move =>
          obtain ⟨after, same | ⟨c, answer, done⟩⟩ : q'.Within ⟨doesB, relyB⟩ alwaysB postB w' ∧
            (w' = w ∨ ∃ c answer, doesB w c answer w') := move_within turnsB withinB move
          · exact ⟨same ▸ withinA, after⟩
          · exact ⟨withinA.meanwhile (allowsA w c answer w' withinB.safe done), after⟩

end Pairs

end WlResprox
