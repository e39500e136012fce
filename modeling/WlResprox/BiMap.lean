import Mathlib.Data.List.Nodup
import Mathlib.Tactic.Common

set_option autoImplicit false

namespace WlResprox

-- A finite one-to-one relation, as the bimap crate documents it: every left and
-- every right value occurs in at most one pair, and insert drops the pairs that
-- hold either of the two values it adds.
structure BiMap (α β : Type) where
  pairs : List (α × β)
  lefts : pairs.Pairwise fun p q => p.1 ≠ q.1
  rights : pairs.Pairwise fun p q => p.2 ≠ q.2

namespace BiMap

variable {α β : Type} [DecidableEq α] [DecidableEq β]

def empty : BiMap α β := ⟨[], List.Pairwise.nil, List.Pairwise.nil⟩

def getByLeft (m : BiMap α β) (l : α) : Option β := (m.pairs.find? fun p => p.1 = l).map Prod.snd

def getByRight (m : BiMap α β) (r : β) : Option α := (m.pairs.find? fun p => p.2 = r).map Prod.fst

def insert (m : BiMap α β) (l : α) (r : β) : BiMap α β where
  pairs := (l, r) :: m.pairs.filter fun p => p.1 ≠ l ∧ p.2 ≠ r
  lefts := List.Pairwise.cons (fun p member => by simp at member; exact Ne.symm member.2.1) (m.lefts.filter _)
  rights := List.Pairwise.cons (fun p member => by simp at member; exact Ne.symm member.2.2) (m.rights.filter _)

def removeByLeft (m : BiMap α β) (l : α) : BiMap α β where
  pairs := m.pairs.filter fun p => p.1 ≠ l
  lefts := m.lefts.filter _
  rights := m.rights.filter _

omit [DecidableEq β] in
theorem get_by_left_iff (m : BiMap α β) (l : α) (r : β) : m.getByLeft l = some r ↔ (l, r) ∈ m.pairs := by
  constructor
  · intro found
    obtain ⟨p, hit, value⟩ := Option.map_eq_some_iff.mp found
    have key : p.1 = l := by simpa using List.find?_some hit
    have member := List.mem_of_find?_eq_some hit
    obtain ⟨a, b⟩ := p
    simp only at key value
    subst key value
    exact member
  · intro member
    cases hit : m.pairs.find? fun p => p.1 = l with
    | none =>
        have absent := List.find?_eq_none.mp hit (l, r) member
        simp at absent
    | some p =>
        have key : p.1 = l := by simpa using List.find?_some hit
        have same := List.inj_on_of_nodup_map (List.pairwise_map.mpr m.lefts) (List.mem_of_find?_eq_some hit) member key
        simp [getByLeft, hit, same]

omit [DecidableEq α] in
theorem get_by_right_iff (m : BiMap α β) (l : α) (r : β) : m.getByRight r = some l ↔ (l, r) ∈ m.pairs := by
  constructor
  · intro found
    obtain ⟨p, hit, value⟩ := Option.map_eq_some_iff.mp found
    have key : p.2 = r := by simpa using List.find?_some hit
    have member := List.mem_of_find?_eq_some hit
    obtain ⟨a, b⟩ := p
    simp only at key value
    subst key value
    exact member
  · intro member
    cases hit : m.pairs.find? fun p => p.2 = r with
    | none =>
        have absent := List.find?_eq_none.mp hit (l, r) member
        simp at absent
    | some p =>
        have key : p.2 = r := by simpa using List.find?_some hit
        have same := List.inj_on_of_nodup_map (List.pairwise_map.mpr m.rights) (List.mem_of_find?_eq_some hit) member key
        simp [getByRight, hit, same]

theorem left_right (m : BiMap α β) (l : α) (r : β) : m.getByLeft l = some r ↔ m.getByRight r = some l := by
  rw [get_by_left_iff, get_by_right_iff]

theorem get_by_left_insert_iff (m : BiMap α β) (l a : α) (r b : β) :
    (m.insert l r).getByLeft a = some b ↔ (a = l ∧ b = r) ∨ (a ≠ l ∧ b ≠ r ∧ m.getByLeft a = some b) := by
  simp only [get_by_left_iff, insert, List.mem_cons, List.mem_filter, Prod.mk.injEq, decide_eq_true_eq]
  tauto

@[simp] theorem get_by_left_insert_same (m : BiMap α β) (l : α) (r : β) : (m.insert l r).getByLeft l = some r := by
  rw [get_by_left_insert_iff]
  exact .inl ⟨rfl, rfl⟩

omit [DecidableEq β] in
theorem get_by_left_remove_iff (m : BiMap α β) (l a : α) (b : β) :
    (m.removeByLeft l).getByLeft a = some b ↔ a ≠ l ∧ m.getByLeft a = some b := by
  simp only [get_by_left_iff, removeByLeft, List.mem_filter, decide_eq_true_eq]
  tauto

end BiMap

end WlResprox
