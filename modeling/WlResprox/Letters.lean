import Mathlib.Data.List.Infix
import WlResprox.Wire

set_option autoImplicit false

namespace WlResprox

-- One whole message with the descriptors its sender attached to it.
structure Letter where
  msg : Bytes
  fds : List Fd
  whole : takeMessage msg = some (msg, msg.length)

def bytesOf (letters : List Letter) : Bytes := letters.flatMap Letter.msg

def fdsOf (letters : List Letter) : List Fd := letters.flatMap Letter.fds

-- The letters of which some byte is among the first n bytes. A socket hands
-- over a letter's descriptors together with its first byte.
def begun : List Letter → Nat → List Letter
  | [], _ => []
  | letter :: rest, n => if n = 0 then [] else letter :: begun rest (n - letter.msg.length)

theorem letter_length (letter : Letter) : headerLen ≤ letter.msg.length :=
  (take_message_spec letter.msg letter.msg letter.msg.length letter.whole).1

@[simp] theorem begun_zero (letters : List Letter) : begun letters 0 = [] := by
  cases letters <;> simp [begun]

theorem begun_cons (letter : Letter) (rest : List Letter) (n : Nat) (some : n ≠ 0) :
    begun (letter :: rest) n = letter :: begun rest (n - letter.msg.length) := by
  simp [begun, some]

theorem begun_monotone (letters : List Letter) (n m : Nat) (le : n ≤ m) : begun letters n <+: begun letters m := by
  induction letters generalizing n m with
  | nil => simp [begun]
  | cons letter rest ih =>
      by_cases zero : n = 0
      · subst zero
        simp
      · rw [begun_cons letter rest n zero, begun_cons letter rest m (by omega)]
        exact List.prefix_cons_inj letter |>.mpr (ih _ _ (by omega))

theorem begun_grows (letters : List Letter) (n m : Nat) (le : n ≤ m) :
    fdsOf (begun letters m) = fdsOf (begun letters n) ++ fdsOf ((begun letters m).drop (begun letters n).length) := by
  have whole := List.prefix_append_drop (begun_monotone letters n m le)
  exact (congrArg fdsOf whole).trans List.flatMap_append

-- What a buffer frames first is the first letter still pending.
theorem take_first_letter (pending : List Letter) (buf msg : Bytes) (consumed : Nat) (arrived : buf <+: bytesOf pending)
    (taken : takeMessage buf = some (msg, consumed)) :
    ∃ letter rest, pending = letter :: rest ∧ msg = letter.msg ∧ consumed = letter.msg.length := by
  obtain ⟨later, all⟩ := arrived
  have framed := take_message_append buf later msg consumed taken
  rw [all] at framed
  cases pending with
  | nil => simp [bytesOf, takeMessage, MessageHeader.parse, headerLen] at framed
  | cons letter rest =>
      have first := take_message_append letter.msg (bytesOf rest) letter.msg letter.msg.length letter.whole
      have same : letter.msg ++ bytesOf rest = bytesOf (letter :: rest) := by simp [bytesOf]
      rw [same, framed] at first
      simp only [Option.some.injEq, Prod.mk.injEq] at first
      exact ⟨letter, rest, rfl, first.1, first.2⟩

theorem drop_first_letter (letter : Letter) (rest : List Letter) (buf : Bytes) (arrived : buf <+: bytesOf (letter :: rest)) :
    buf.drop letter.msg.length <+: bytesOf rest := by
  have dropped := List.IsPrefix.drop arrived letter.msg.length
  simpa [bytesOf] using dropped

-- The queue holds the descriptors of the letters that have begun to arrive,
-- after those of letters that were taken without popping them.
structure Lagging (late : List Fd) (pending : List Letter) (readBuf : Bytes) (readFds : List Fd) : Prop where
  bytes : readBuf <+: bytesOf pending
  fds : readFds = late ++ fdsOf (begun pending readBuf.length)

abbrev Aligned (pending : List Letter) (readBuf : Bytes) (readFds : List Fd) : Prop := Lagging [] pending readBuf readFds

-- What one read brings: the next bytes, and the descriptors of the letters
-- that begin among them.
structure Delivers (pending : List Letter) (readBuf bytes : Bytes) (fds : List Fd) : Prop where
  arrived : readBuf ++ bytes <+: bytesOf pending
  attached : fds = fdsOf ((begun pending (readBuf ++ bytes).length).drop (begun pending readBuf.length).length)

theorem Lagging.fill {late : List Fd} {pending : List Letter} {readBuf bytes : Bytes} {readFds fds : List Fd}
    (lagging : Lagging late pending readBuf readFds) (delivers : Delivers pending readBuf bytes fds) :
    Lagging late pending (readBuf ++ bytes) (readFds ++ fds) where
  bytes := delivers.arrived
  fds := by
    rw [lagging.fds, delivers.attached, List.append_assoc, ← begun_grows pending _ _ (by simp)]

theorem Lagging.skim {late : List Fd} {pending : List Letter} {readBuf msg : Bytes} {readFds : List Fd} {consumed : Nat}
    (lagging : Lagging late pending readBuf readFds) (taken : takeMessage readBuf = some (msg, consumed)) :
    ∃ letter rest, pending = letter :: rest ∧ msg = letter.msg ∧ consumed = letter.msg.length ∧
      Lagging (late ++ letter.fds) rest (readBuf.drop consumed) readFds := by
  obtain ⟨letter, rest, rfl, rfl, rfl⟩ := take_first_letter pending readBuf msg consumed lagging.bytes taken
  have enough := take_message_spec readBuf _ _ taken
  refine ⟨letter, rest, rfl, rfl, rfl, drop_first_letter letter rest readBuf lagging.bytes, ?_⟩
  rw [lagging.fds, begun_cons letter rest _ (by have := enough.1; simp [headerLen] at this; omega), List.length_drop]
  simp [fdsOf]

theorem Lagging.aligned_iff {late : List Fd} {pending : List Letter} {readBuf : Bytes} {readFds : List Fd}
    (lagging : Lagging late pending readBuf readFds) : Aligned pending readBuf readFds ↔ late = [] := by
  constructor
  · intro aligned
    have both := lagging.fds.symm.trans aligned.fds
    simpa using both
  · rintro rfl
    exact lagging

end WlResprox
