import WlResprox.Protocol

set_option autoImplicit false

namespace WlResprox

-- The words a walk locates: those the relay may overwrite.
def SignatureWalk.Slot (walk : SignatureWalk) (offset : Nat) : Prop :=
  offset ∈ walk.objectOffsets ∨ walk.newIdOffset = some offset

-- Two payloads of one length that differ in located words only.
structure AgreeOutside (walk : SignatureWalk) (a b : Bytes) : Prop where
  lengths : b.length = a.length
  bytes : ∀ i, (∀ offset, walk.Slot offset → i < offset ∨ offset + 4 ≤ i) → byteAt b i = byteAt a i

namespace AgreeOutside

variable {walk : SignatureWalk} {a b c : Bytes}

theorem refl (walk : SignatureWalk) (a : Bytes) : AgreeOutside walk a a := ⟨rfl, fun _ _ => rfl⟩

theorem trans (first : AgreeOutside walk a b) (second : AgreeOutside walk b c) : AgreeOutside walk a c :=
  ⟨second.lengths.trans first.lengths, fun i outside => (second.bytes i outside).trans (first.bytes i outside)⟩

theorem set_word (walk : SignatureWalk) (a : Bytes) (offset : Nat) (v : UInt32) (slot : walk.Slot offset)
    (fits : offset + 4 ≤ a.length) : AgreeOutside walk a (setWord a offset v) :=
  ⟨set_word_length a offset v fits, fun i outside => byte_at_set_word a offset i v fits (outside offset slot)⟩

end AgreeOutside

-- One argument of a walk: where it ends, and the one word or descriptor it adds.
structure Strides (payload : Bytes) (st next : WalkState) (argType : ArgumentType) : Prop where
  forward : st.offset ≤ next.offset
  inside : st.offset ≤ payload.length → next.offset ≤ payload.length
  slots : ∀ offset, next.walk.Slot offset → st.walk.Slot offset ∨
    (offset = st.offset ∧ next.offset = offset + 4 ∧ (argType = .object ∨ argType = .newId))
  fdCount : next.walk.fdCount = st.walk.fdCount + [argType].count .fd
  objects : next.walk.objectOffsets = st.walk.objectOffsets ++ if argType = .object then [st.offset] else []
  newId : argType = .newId → next.walk.newIdOffset = some st.offset
  notNewId : argType ≠ .newId → next.walk.newIdOffset = st.walk.newIdOffset

theorem walk_argument_strides (payload : Bytes) (st next : WalkState) (argType : ArgumentType)
    (ok : walkArgument payload st argType = .ok next) : Strides payload st next argType := by
  cases argType with
  | int | uint | fixed =>
      simp only [walkArgument] at ok
      split at ok
      · cases ok
      · rename_i stop advanced
        obtain ⟨rfl, fits⟩ := advance_ok _ _ _ _ advanced
        cases ok
        exact ⟨by simp, fun _ => fits, fun _ slot => .inl slot, rfl, by simp, by simp, fun _ => rfl⟩
  | object =>
      simp only [walkArgument] at ok
      split at ok
      · cases ok
      · rename_i stop advanced
        obtain ⟨rfl, fits⟩ := advance_ok _ _ _ _ advanced
        cases ok
        refine ⟨by simp, fun _ => fits, ?_, rfl, rfl, by simp, fun _ => rfl⟩
        rintro offset (member | located)
        · rcases List.mem_append.mp member with earlier | here
          · exact .inl (.inl earlier)
          · rw [List.mem_singleton] at here
            exact .inr ⟨here, by rw [here], .inl rfl⟩
        · exact .inl (.inr located)
  | newId =>
      simp only [walkArgument] at ok
      split at ok
      · cases ok
      · rename_i stop advanced
        obtain ⟨rfl, fits⟩ := advance_ok _ _ _ _ advanced
        cases ok
        refine ⟨by simp, fun _ => fits, ?_, rfl, by simp, fun _ => rfl, by simp⟩
        rintro offset (member | located)
        · exact .inl (.inl member)
        · cases located
          exact .inr ⟨rfl, rfl, .inr rfl⟩
  | str | array =>
      simp only [walkArgument] at ok
      split at ok
      · cases ok
      · rename_i lenEnd length
        obtain ⟨rfl, -⟩ := advance_ok _ _ _ _ length
        split at ok
        · cases ok
        · rename_i dataEnd data
          obtain ⟨rfl, fits⟩ := advance_ok _ _ _ _ data
          split at ok
          all_goals
            cases ok
            exact ⟨by dsimp only; omega, fun _ => fits, fun _ slot => .inl slot, rfl, by simp, by simp, fun _ => rfl⟩
  | fd =>
      cases ok
      exact ⟨Nat.le_refl _, fun inside => inside, fun _ slot => .inl slot, by simp, by simp, by simp, fun _ => rfl⟩

-- Words are located behind the walk, so later arguments never reach back.
def Placed (st : WalkState) : Prop := ∀ offset, st.walk.Slot offset → offset + 4 ≤ st.offset

theorem strides_placed (payload : Bytes) (st next : WalkState) (argType : ArgumentType)
    (strides : Strides payload st next argType) (placed : Placed st) : Placed next := by
  intro offset slot
  rcases strides.slots offset slot with earlier | ⟨-, here, -⟩
  · exact Nat.le_trans (placed offset earlier) strides.forward
  · exact Nat.le_of_eq here.symm

theorem walk_from_cons (payload : Bytes) (st last : WalkState) (argType : ArgumentType) (rest : List ArgumentType)
    (ok : walkFrom payload st (argType :: rest) = .ok last) :
    ∃ next, walkArgument payload st argType = .ok next ∧ walkFrom payload next rest = .ok last := by
  simp only [walkFrom, List.foldlM_cons] at ok
  cases first : walkArgument payload st argType with
  | error e =>
      rw [first] at ok
      cases ok
  | ok next =>
      rw [first] at ok
      exact ⟨next, rfl, ok⟩

-- The whole walk, from what each argument adds.
structure Walks (payload : Bytes) (st last : WalkState) (signature : List ArgumentType) : Prop where
  forward : st.offset ≤ last.offset
  inside : st.offset ≤ payload.length → last.offset ≤ payload.length
  slots : ∀ offset, last.walk.Slot offset → st.walk.Slot offset ∨ st.offset ≤ offset
  placed : Placed last
  fdCount : last.walk.fdCount = st.walk.fdCount + signature.count .fd
  newId : last.walk.newIdOffset.isSome = (st.walk.newIdOffset.isSome || decide (ArgumentType.newId ∈ signature))

theorem walk_from_walks (payload : Bytes) (st last : WalkState) (signature : List ArgumentType)
    (ok : walkFrom payload st signature = .ok last) (placed : Placed st) : Walks payload st last signature := by
  induction signature generalizing st with
  | nil =>
      cases ok
      exact ⟨Nat.le_refl _, fun inside => inside, fun _ slot => .inl slot, placed, rfl, by simp⟩
  | cons argType rest ih =>
      obtain ⟨next, first, remaining⟩ := walk_from_cons payload st last argType rest ok
      have strides := walk_argument_strides payload st next argType first
      have later := ih next remaining (strides_placed payload st next argType strides placed)
      refine ⟨Nat.le_trans strides.forward later.forward, fun inside => later.inside (strides.inside inside), ?_,
        later.placed, ?_, ?_⟩
      · intro offset slot
        rcases later.slots offset slot with earlier | after
        · rcases strides.slots offset earlier with before | ⟨here, -, -⟩
          · exact .inl before
          · exact .inr (Nat.le_of_eq here.symm)
        · exact .inr (Nat.le_trans strides.forward after)
      · rw [later.fdCount, strides.fdCount, Nat.add_assoc, ← List.count_append]
        rfl
      · rw [later.newId]
        by_cases newId : argType = .newId
        · simp [strides.newId newId, newId]
        · simp [strides.notNewId newId, Ne.symm newId]

theorem walk_argument_congr (a b : Bytes) (st next : WalkState) (argType : ArgumentType)
    (ok : walkArgument a st argType = .ok next) (lengths : b.length = a.length)
    (same : argType = .str ∨ argType = .array → ∀ i, st.offset ≤ i → i < next.offset → byteAt b i = byteAt a i) :
    walkArgument b st argType = .ok next := by
  have steps : ∀ offset width, advance b offset width = advance a offset width := fun offset width =>
    advance_congr b a offset width lengths
  cases argType with
  | int | uint | fixed | object | newId =>
      simp only [walkArgument, steps] at ok ⊢
      exact ok
  | fd => exact ok
  | str | array =>
      have reads := same (by simp)
      simp only [walkArgument, steps] at ok ⊢
      split at ok
      · cases ok
      · rename_i lenEnd length
        obtain ⟨rfl, -⟩ := advance_ok _ _ _ _ length
        split at ok
        · cases ok
        · rename_i dataEnd data
          obtain ⟨rfl, fits⟩ := advance_ok _ _ _ _ data
          have far : next.offset = st.offset + 4 + nextMultipleOf4 (wordAt a st.offset).toNat := by
            split at ok <;> cases ok <;> rfl
          have padded : (wordAt a st.offset).toNat ≤ nextMultipleOf4 (wordAt a st.offset).toNat := by
            simp only [nextMultipleOf4]
            omega
          have word : wordAt b st.offset = wordAt a st.offset := by
            simp only [wordAt]
            rw [reads st.offset (by omega) (by omega), reads (st.offset + 1) (by omega) (by omega),
              reads (st.offset + 2) (by omega) (by omega), reads (st.offset + 3) (by omega) (by omega)]
          have text : slice b (st.offset + 4) (st.offset + 4 + (wordAt a st.offset).toNat - 1) =
              slice a (st.offset + 4) (st.offset + 4 + (wordAt a st.offset).toNat - 1) := by
            apply byte_ext
            · simp only [slice_length, lengths]
            · intro i
              simp only [byte_at_slice]
              split
              · exact reads _ (by omega) (by omega)
              · rfl
          simp only [word, data, text]
          exact ok

-- A walk reads the lengths and texts between located words, never the words.
theorem walk_from_agrees (a b : Bytes) (st last : WalkState) (signature : List ArgumentType)
    (ok : walkFrom a st signature = .ok last) (placed : Placed st) (agree : AgreeOutside last.walk a b) :
    walkFrom b st signature = .ok last := by
  induction signature generalizing st with
  | nil => exact ok
  | cons argType rest ih =>
      obtain ⟨next, first, remaining⟩ := walk_from_cons a st last argType rest ok
      have strides := walk_argument_strides a st next argType first
      have onward := strides_placed a st next argType strides placed
      have again : walkArgument b st argType = .ok next := by
        refine walk_argument_congr a b st next argType first agree.lengths fun text i after before => ?_
        refine agree.bytes i fun offset slot => ?_
        rcases (walk_from_walks a next last rest remaining onward).slots offset slot with earlier | later
        · rcases strides.slots offset earlier with old | ⟨-, -, word⟩
          · exact .inr (Nat.le_trans (placed offset old) after)
          · rcases text with rfl | rfl <;> simp at word
        · exact .inl (Nat.lt_of_lt_of_le before later)
      simp only [walkFrom, List.foldlM_cons, again]
      exact ih next remaining onward

-- No two located words overlap.
structure Apart (walk : SignatureWalk) : Prop where
  objects : walk.objectOffsets.Pairwise fun a b => a + 4 ≤ b
  newId : ∀ offset, walk.newIdOffset = some offset → ∀ object ∈ walk.objectOffsets, object + 4 ≤ offset ∨ offset + 4 ≤ object

theorem strides_apart (payload : Bytes) (st next : WalkState) (argType : ArgumentType)
    (strides : Strides payload st next argType) (placed : Placed st) (apart : Apart st.walk) : Apart next.walk := by
  by_cases object : argType = .object
  · have located := strides.objects
    rw [if_pos object] at located
    have kept := strides.notNewId (by simp [object])
    refine ⟨?_, fun offset is other member => ?_⟩
    · rw [located, List.pairwise_append]
      refine ⟨apart.objects, List.pairwise_singleton _ _, fun a member b here => ?_⟩
      rw [List.mem_singleton] at here
      rw [here]
      exact placed a (.inl member)
    · rw [kept] at is
      rw [located] at member
      rcases List.mem_append.mp member with before | here
      · exact apart.newId offset is other before
      · rw [List.mem_singleton] at here
        rw [here]
        exact .inr (placed offset (.inr is))
  · have located := strides.objects
    rw [if_neg object, List.append_nil] at located
    refine ⟨by rw [located]; exact apart.objects, fun offset is other member => ?_⟩
    rw [located] at member
    by_cases newId : argType = .newId
    · rw [strides.newId newId] at is
      cases is
      exact .inl (placed other (.inl member))
    · rw [strides.notNewId newId] at is
      exact apart.newId offset is other member

theorem walk_from_apart (payload : Bytes) (st last : WalkState) (signature : List ArgumentType)
    (ok : walkFrom payload st signature = .ok last) (placed : Placed st) (apart : Apart st.walk) : Apart last.walk := by
  induction signature generalizing st with
  | nil =>
      cases ok
      exact apart
  | cons argType rest ih =>
      obtain ⟨next, first, remaining⟩ := walk_from_cons payload st last argType rest ok
      have strides := walk_argument_strides payload st next argType first
      exact ih next remaining (strides_placed payload st next argType strides placed)
        (strides_apart payload st next argType strides placed apart)

theorem walk_from_objects (payload : Bytes) (st last : WalkState) (signature : List ArgumentType)
    (ok : walkFrom payload st signature = .ok last) :
    last.walk.objectOffsets.length = st.walk.objectOffsets.length + signature.count .object := by
  induction signature generalizing st with
  | nil =>
      cases ok
      rfl
  | cons argType rest ih =>
      obtain ⟨next, first, remaining⟩ := walk_from_cons payload st last argType rest ok
      rw [ih next remaining, (walk_argument_strides payload st next argType first).objects]
      by_cases object : argType = .object
      · simp only [object, if_true, List.length_append, List.length_singleton, List.count_cons_self]
        omega
      · simp [object]

theorem placed_start : Placed ⟨0, ⟨none, [], 0, none⟩⟩ := by
  rintro offset (member | located)
  · cases member
  · cases located

theorem walk_signature_from (payload : Bytes) (signature : List ArgumentType) (walk : SignatureWalk)
    (ok : walkSignature payload signature = .ok walk) :
    ∃ last, walkFrom payload ⟨0, ⟨none, [], 0, none⟩⟩ signature = .ok last ∧ last.walk = walk := by
  unfold walkSignature at ok
  cases walked : walkFrom payload ⟨0, ⟨none, [], 0, none⟩⟩ signature with
  | error e =>
      rw [walked] at ok
      cases ok
  | ok last =>
      rw [walked] at ok
      cases ok
      exact ⟨last, rfl, rfl⟩

section Signature

variable (payload : Bytes) (signature : List ArgumentType) (walk : SignatureWalk)
  (ok : walkSignature payload signature = .ok walk)

include ok

theorem walk_fd_count : walk.fdCount = signature.count .fd := by
  obtain ⟨last, walked, rfl⟩ := walk_signature_from payload signature walk ok
  simpa using (walk_from_walks payload _ last signature walked placed_start).fdCount

theorem walk_new_id : walk.newIdOffset.isSome = decide (ArgumentType.newId ∈ signature) := by
  obtain ⟨last, walked, rfl⟩ := walk_signature_from payload signature walk ok
  simpa using (walk_from_walks payload _ last signature walked placed_start).newId

theorem walk_apart : Apart walk := by
  obtain ⟨last, walked, rfl⟩ := walk_signature_from payload signature walk ok
  exact walk_from_apart payload _ last signature walked placed_start ⟨List.Pairwise.nil, by simp⟩

theorem walk_object_count : walk.objectOffsets.length = signature.count .object := by
  obtain ⟨last, walked, rfl⟩ := walk_signature_from payload signature walk ok
  simpa using walk_from_objects payload _ last signature walked

theorem walk_slot_fits (offset : Nat) (slot : walk.Slot offset) : offset + 4 ≤ payload.length := by
  obtain ⟨last, walked, rfl⟩ := walk_signature_from payload signature walk ok
  have walks := walk_from_walks payload _ last signature walked placed_start
  exact Nat.le_trans (walks.placed offset slot) (walks.inside (Nat.zero_le _))

theorem walk_signature_agrees (b : Bytes) (agree : AgreeOutside walk payload b) : walkSignature b signature = .ok walk := by
  obtain ⟨last, walked, rfl⟩ := walk_signature_from payload signature walk ok
  rw [walkSignature, walk_from_agrees payload b _ last signature walked placed_start agree]
  rfl

end Signature

section Leading

variable (payload : Bytes) (st last : WalkState)

theorem walk_word (next : WalkState) (argType : ArgumentType) (plain : argType = .uint ∨ argType = .object)
    (ok : walkArgument payload st argType = .ok next) : next.offset = st.offset + 4 := by
  rcases plain with rfl | rfl
  all_goals
    simp only [walkArgument] at ok
    split at ok <;> cases ok
    rename_i stop advanced
    exact (advance_ok _ _ _ _ advanced).1

-- Leading words take four bytes each.
theorem walk_from_words (words rest : List ArgumentType) (plain : ∀ argType ∈ words, argType = .uint ∨ argType = .object)
    (placed : Placed st) (ok : walkFrom payload st (words ++ rest) = .ok last) : st.offset + 4 * words.length ≤ last.offset := by
  induction words generalizing st with
  | nil => exact (walk_from_walks payload st last rest ok placed).forward
  | cons argType words ih =>
      obtain ⟨next, first, remaining⟩ := walk_from_cons payload st last argType (words ++ rest) ok
      have step := walk_word payload st next argType (plain argType List.mem_cons_self) first
      have strides := walk_argument_strides payload st next argType first
      have later := ih next (fun other member => plain other (List.mem_cons_of_mem _ member))
        (strides_placed payload st next argType strides placed) remaining
      rw [step] at later
      simp only [List.length_cons]
      omega

theorem walk_from_extends (signature : List ArgumentType) (ok : walkFrom payload st signature = .ok last) :
    ∃ more, last.walk.objectOffsets = st.walk.objectOffsets ++ more := by
  induction signature generalizing st with
  | nil =>
      cases ok
      exact ⟨[], by simp⟩
  | cons argType rest ih =>
      obtain ⟨next, first, remaining⟩ := walk_from_cons payload st last argType rest ok
      obtain ⟨more, grown⟩ := ih next remaining
      rw [grown, (walk_argument_strides payload st next argType first).objects, List.append_assoc]
      exact ⟨_, rfl⟩

-- Every argument but a descriptor takes up four bytes or more.
theorem walk_argument_room (next : WalkState) (argType : ArgumentType) (bytes : argType ≠ .fd)
    (ok : walkArgument payload st argType = .ok next) : st.offset + 4 ≤ next.offset := by
  cases argType with
  | fd => exact absurd rfl bytes
  | str | array =>
      simp only [walkArgument] at ok
      split at ok
      · cases ok
      · rename_i lenEnd first
        split at ok
        · cases ok
        · rename_i dataEnd second
          have begins := (advance_ok _ _ _ _ first).1
          have ends := (advance_ok _ _ _ _ second).1
          split at ok <;> cases ok <;> dsimp only <;> omega
  | _ =>
      simp only [walkArgument] at ok
      split at ok <;> cases ok
      rename_i stop advanced
      have ends := (advance_ok _ _ _ _ advanced).1
      dsimp only
      omega

theorem walk_from_room (signature : List ArgumentType) (ok : walkFrom payload st signature = .ok last) :
    st.offset + 4 * signature.countP (· ≠ .fd) ≤ last.offset := by
  induction signature generalizing st with
  | nil =>
      cases ok
      simp
  | cons argType rest ih =>
      obtain ⟨next, first, remaining⟩ := walk_from_cons payload st last argType rest ok
      have later := ih next remaining
      rw [List.countP_cons]
      by_cases bytes : argType = .fd
      · have forward := (walk_argument_strides payload st next argType first).forward
        rw [if_neg (by simp [bytes])]
        omega
      · have room := walk_argument_room payload st next argType bytes first
        rw [if_pos (by simp [bytes])]
        omega

theorem walk_from_keeps_new_id (signature : List ArgumentType) (none : ArgumentType.newId ∉ signature)
    (ok : walkFrom payload st signature = .ok last) : last.walk.newIdOffset = st.walk.newIdOffset := by
  induction signature generalizing st with
  | nil =>
      cases ok
      rfl
  | cons argType rest ih =>
      obtain ⟨next, first, remaining⟩ := walk_from_cons payload st last argType rest ok
      rw [List.mem_cons, not_or] at none
      rw [ih next none.2 remaining]
      exact (walk_argument_strides payload st next argType first).notNewId (Ne.symm none.1)

end Leading

theorem walk_room (payload : Bytes) (signature : List ArgumentType) (walk : SignatureWalk)
    (ok : walkSignature payload signature = .ok walk) : 4 * signature.countP (· ≠ .fd) ≤ payload.length := by
  obtain ⟨last, from_start, -⟩ := walk_signature_from payload signature walk ok
  have inside := (walk_from_walks payload _ last signature from_start placed_start).inside (Nat.zero_le _)
  have room := walk_from_room payload _ last signature from_start
  simp only [Nat.zero_add] at room
  omega

theorem walk_leading_new_id (payload : Bytes) (walk : SignatureWalk) (rest : List ArgumentType) (none : ArgumentType.newId ∉ rest)
    (ok : walkSignature payload (.newId :: rest) = .ok walk) : walk.newIdOffset = some 0 := by
  obtain ⟨last, from_start, rfl⟩ := walk_signature_from payload _ walk ok
  obtain ⟨next, first, remaining⟩ := walk_from_cons payload _ last .newId rest from_start
  rw [walk_from_keeps_new_id payload next last rest none remaining]
  exact (walk_argument_strides payload _ next .newId first).newId rfl

theorem walk_leading_words (payload : Bytes) (walk : SignatureWalk) (words rest : List ArgumentType)
    (plain : ∀ argType ∈ words, argType = .uint ∨ argType = .object)
    (ok : walkSignature payload (words ++ rest) = .ok walk) : 4 * words.length ≤ payload.length := by
  obtain ⟨last, walked, -⟩ := walk_signature_from payload _ walk ok
  have long := walk_from_words payload _ last words rest plain placed_start walked
  have inside := (walk_from_walks payload _ last _ walked placed_start).inside (Nat.zero_le _)
  simp only [Nat.zero_add] at long
  omega

-- A message without object arguments and new ids goes through as it is.
theorem agree_plain (walk : SignatureWalk) (a b : Bytes) (agree : AgreeOutside walk a b) (objects : walk.objectOffsets = [])
    (newId : walk.newIdOffset = none) : b = a :=
  byte_ext _ _ agree.lengths fun i => agree.bytes i fun offset slot => by
    rcases slot with object | new
    · rw [objects] at object
      cases object
    · rw [newId] at new
      cases new

-- An object behind one word sits at offset four.
theorem walk_second_object (payload : Bytes) (walk : SignatureWalk) (rest : List ArgumentType)
    (ok : walkSignature payload (.uint :: .object :: rest) = .ok walk) : ∃ more, walk.objectOffsets = 4 :: more := by
  obtain ⟨last, walked, rfl⟩ := walk_signature_from payload _ walk ok
  obtain ⟨one, first, remaining⟩ := walk_from_cons payload _ last .uint _ walked
  obtain ⟨two, second, remaining⟩ := walk_from_cons payload _ last .object _ remaining
  obtain ⟨more, grown⟩ := walk_from_extends payload two last rest remaining
  have word := walk_word payload _ one .uint (.inl rfl) first
  have plain := (walk_argument_strides payload _ one .uint first).objects
  have object := (walk_argument_strides payload one two .object second).objects
  rw [grown, object, plain, word]
  exact ⟨more, rfl⟩

end WlResprox
