import Mathlib.Data.List.Induction
import Mathlib.Tactic.Common

set_option autoImplicit false

universe u v

namespace WlResprox

-- Runs of a partial step function in which every step taken is an allowed one.
inductive Runs {σ : Type u} {ε : Type v} (step : σ → ε → Option σ) (allowed : σ → ε → Prop) (start : σ) :
    List ε → σ → Prop where
  | refl : Runs step allowed start [] start
  | snoc (events : List ε) (s next : σ) (event : ε) (before : Runs step allowed start events s)
      (permitted : allowed s event) (taken : step s event = some next) : Runs step allowed start (events ++ [event]) next

namespace Runs

variable {σ : Type u} {ε : Type v} {step : σ → ε → Option σ} {allowed : σ → ε → Prop} {start s : σ} {events : List ε}

theorem invariant (inv : σ → Prop) (initial : inv start)
    (preserved : ∀ s event next, inv s → allowed s event → step s event = some next → inv next)
    (run : Runs step allowed start events s) : inv s := by
  induction run with
  | refl => exact initial
  | snoc events s next event before permitted taken ih => exact preserved s event next ih permitted taken

theorem weaken (fewer : σ → ε → Prop) (implied : ∀ s event, allowed s event → fewer s event)
    (run : Runs step allowed start events s) : Runs step fewer start events s := by
  induction run with
  | refl => exact .refl
  | snoc events s next event before permitted taken ih => exact .snoc events s next event ih (implied s event permitted) taken

theorem of_checked (check : σ → ε → Bool) (sound : ∀ s event, check s event = true → allowed s event)
    (fold : events.foldlM (fun s event => if check s event then step s event else none) start = some s) :
    Runs step allowed start events s := by
  induction events using List.reverseRecOn generalizing s with
  | nil =>
      cases fold
      exact .refl
  | append_singleton events event ih =>
      simp only [List.foldlM_append, List.foldlM_cons, List.foldlM_nil, Option.bind_eq_bind, Option.bind_eq_some_iff] at fold
      obtain ⟨middle, before, next, taken, same⟩ := fold
      cases same
      split at taken
      · rename_i checked
        exact .snoc events middle _ event (ih before) (sound middle event checked) taken
      · cases taken

theorem of_fold (fold : events.foldlM step start = some s) : Runs step (fun _ _ => True) start events s :=
  of_checked (fun _ _ => true) (fun _ _ _ => trivial) (by simpa using fold)

theorem fold (run : Runs step allowed start events s) : events.foldlM step start = some s := by
  induction run with
  | refl => rfl
  | snoc events s next event before permitted taken ih => simp [List.foldlM_append, ih, taken]

end Runs

section Readings

universe w

variable {σ : Type u} {ε : Type v} {α β γ : Type w}

-- What is read off each step of a run.
def along (step : σ → ε → Option σ) (read : σ → ε → List α) (start : σ) : List ε → List α
  | [] => []
  | event :: rest => read start event ++ ((step start event).map fun next => along step read next rest).getD []

-- Readings that agree in each step agree in a run.
theorem along_agrees {step : σ → ε → Option σ} {allowed : σ → ε → Prop} {start s : σ} {events : List ε}
    (run : Runs step allowed start events s) (read : σ → ε → List α) (other : σ → ε → List β) (f : α → Option γ) (g : β → Option γ)
    (agree : ∀ s event next, step s event = some next → (read s event).filterMap f = (other s event).filterMap g) :
    (along step read start events).filterMap f = (along step other start events).filterMap g := by
  have reached := run.fold
  clear run
  induction events generalizing start with
  | nil => rfl
  | cons event rest ih =>
      obtain ⟨middle, taken, onward⟩ := Option.bind_eq_some_iff.mp reached
      simp only [along, taken, Option.map_some, Option.getD_some, List.filterMap_append, agree start event middle taken, ih onward]

end Readings

-- Entries an observer takes no note of can be added freely.
theorem fold_quiet {τ : Type u} {α : Type v} (note : α → τ → α) (noted : α) (history added : List τ)
    (quiet : ∀ entry ∈ added, ∀ a, note a entry = a) : (history ++ added).foldl note noted = history.foldl note noted := by
  rw [List.foldl_append]
  induction added with
  | nil => rfl
  | cons entry rest ih =>
      rw [List.foldl_cons, quiet entry List.mem_cons_self]
      exact ih fun e member => quiet e (List.mem_cons_of_mem entry member)

section Members

variable {α : Type u} (holds : α → Prop) [DecidablePred holds]

-- What holds of the members of a list or an option is decided by going through
-- the members, and not through the whole of a finite type.
instance (priority := 2000) decidableForallMember (as : List α) : Decidable (∀ a ∈ as, holds a) := List.decidableBAll holds as

instance (priority := 2000) decidableExistsMember (as : List α) : Decidable (∃ a ∈ as, holds a) := List.decidableBEx holds as

instance (priority := 2000) decidableForallPresent (o : Option α) : Decidable (∀ a ∈ o, holds a) := Option.decidableForallMem o

instance (priority := 2000) decidableExistsPresent (o : Option α) : Decidable (∃ a ∈ o, holds a) := Option.decidableExistsMem o

end Members

-- A history is lawful when each entry is, given the entries before it.
def Lawful {τ : Type u} (law : List τ → τ → Prop) (past : List τ) : List τ → Prop
  | [] => True
  | entry :: rest => law past entry ∧ Lawful law (past ++ [entry]) rest

instance {τ : Type u} (law : List τ → τ → Prop) [∀ past entry, Decidable (law past entry)] (past : List τ) :
    ∀ history, Decidable (Lawful law past history)
  | [] => .isTrue trivial
  | entry :: rest =>
      have := instDecidableLawful law (past ++ [entry]) rest
      inferInstanceAs (Decidable (law past entry ∧ Lawful law (past ++ [entry]) rest))

theorem lawful_append {τ : Type u} (law : List τ → τ → Prop) (past first second : List τ) :
    Lawful law past (first ++ second) ↔ Lawful law past first ∧ Lawful law (past ++ first) second := by
  induction first generalizing past with
  | nil => simp [Lawful]
  | cons entry rest ih =>
      simp only [List.cons_append, List.nil_append, Lawful, ih, List.append_assoc, and_assoc]

theorem lawful_of_each {τ : Type u} (law : List τ → τ → Prop) (past added : List τ)
    (each : ∀ before entry after, added = before ++ entry :: after → law (past ++ before) entry) : Lawful law past added := by
  induction added generalizing past with
  | nil => trivial
  | cons entry rest ih =>
      refine ⟨by simpa using each [] entry rest rfl, ih _ fun before later after split => ?_⟩
      rw [List.append_assoc]
      exact each (entry :: before) later after (by rw [split]; rfl)

theorem lawful_split {τ : Type u} (law : List τ → τ → Prop) (past later : List τ) (entry : τ) (history : List τ)
    (lawful : Lawful law [] history) (split : history = past ++ entry :: later) : law past entry := by
  subst split
  rw [lawful_append] at lawful
  simpa using lawful.2.1

end WlResprox
