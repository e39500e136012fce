import WlResprox.Relay
import WlResprox.Walks

set_option autoImplicit false

namespace WlResprox

-- What the relay does to the bytes of a message before it passes them on: it
-- overwrites the sender and located words of the payload.
structure Rewrites (walk : SignatureWalk) (msg out : Bytes) : Prop where
  lengths : out.length = msg.length
  opcode : wordAt out 4 = wordAt msg 4
  payload : AgreeOutside walk (msg.drop headerLen) (out.drop headerLen)

namespace Rewrites

variable {walk : SignatureWalk} {msg out later : Bytes}

theorem refl (walk : SignatureWalk) (msg : Bytes) : Rewrites walk msg msg := ⟨rfl, rfl, .refl walk _⟩

theorem trans (first : Rewrites walk msg out) (second : Rewrites walk out later) : Rewrites walk msg later :=
  ⟨second.lengths.trans first.lengths, second.opcode.trans first.opcode, first.payload.trans second.payload⟩

theorem set_slot (walk : SignatureWalk) (msg : Bytes) (offset : Nat) (v : UInt32) (slot : walk.Slot offset)
    (fits : headerLen + offset + 4 ≤ msg.length) : Rewrites walk msg (setWord msg (headerLen + offset) v) where
  lengths := set_word_length _ _ _ fits
  opcode := word_at_set_word_apart _ _ _ _ fits (.inl (by simp only [headerLen]; omega))
  payload := by
    rw [drop_set_word msg offset headerLen v fits]
    exact .set_word walk _ offset v slot (by simp; omega)

theorem set_sender (walk : SignatureWalk) (msg : Bytes) (v : UInt32) (long : headerLen ≤ msg.length) :
    Rewrites walk msg (writeSenderId msg v) where
  lengths := set_word_length _ _ _ (by simp only [headerLen] at long; omega)
  opcode := word_at_set_word_apart _ _ _ _ (by simp only [headerLen] at long; omega) (.inr (by omega))
  payload := by
    have same : (writeSenderId msg v).drop headerLen = msg.drop headerLen := by
      have head : (toNeBytes v ++ msg.drop 4).drop 8 = (msg.drop 4).drop 4 := by simp [toNeBytes]
      simpa [writeSenderId, setWord, headerLen] using head
    rw [same]
    exact .refl walk _

theorem walk_signature (rewrites : Rewrites walk msg out) (signature : List ArgumentType)
    (ok : walkSignature (msg.drop headerLen) signature = .ok walk) : walkSignature (out.drop headerLen) signature = .ok walk :=
  walk_signature_agrees _ signature walk ok _ rewrites.payload

end Rewrites

theorem translate_objects_rewrites (objects : ShadowTable) (direction : Direction) (walk : SignatureWalk)
    (offsets : List Nat) (msg translated : Bytes)
    (slots : ∀ offset ∈ offsets, walk.Slot offset ∧ headerLen + offset + 4 ≤ msg.length)
    (result : translateObjects objects direction offsets msg = some translated) : Rewrites walk msg translated := by
  induction offsets generalizing msg with
  | nil =>
      cases result
      exact .refl walk _
  | cons offset rest ih =>
      simp only [translateObjects] at result
      split at result
      · cases result
      · rename_i known _
        obtain ⟨slot, fits⟩ := slots offset List.mem_cons_self
        have first := Rewrites.set_slot walk msg offset known slot fits
        refine first.trans (ih _ (fun other member => ?_) result)
        obtain ⟨placed, inside⟩ := slots other (List.mem_cons_of_mem offset member)
        exact ⟨placed, by rw [first.lengths]; exact inside⟩

section Resolved

variable (env : Env) (objects : ShadowTable) (direction : Direction) (header : MessageHeader) (msg : Bytes) (m : Inbound)
  (resolved : Resolved env.protocol objects direction header msg m) (long : headerLen ≤ msg.length)

include resolved long

theorem resolved_slot_fits (offset : Nat) (slot : m.walk.Slot offset) : headerLen + offset + 4 ≤ msg.length := by
  have inside := walk_slot_fits _ _ _ resolved.walk offset slot
  simp only [List.length_drop] at inside
  omega

theorem translated_rewrites (translated : Bytes)
    (translating : translateObjects objects direction m.walk.objectOffsets msg = some translated) :
    Rewrites m.walk msg translated :=
  translate_objects_rewrites objects direction m.walk m.walk.objectOffsets msg translated
    (fun offset member => ⟨.inl member, resolved_slot_fits env objects direction header msg m resolved long offset (.inl member)⟩)
    translating

theorem introduced_rewrites (s introduced : Session) (translated rewritten : Bytes) (created : Option Creation)
    (translating : translateObjects objects direction m.walk.objectOffsets msg = some translated)
    (introducing : introduceObject env.protocol s m translated = .ok (created, introduced, rewritten)) :
    Rewrites m.walk msg rewritten := by
  have first := translated_rewrites env objects direction header msg m resolved long translated translating
  obtain ⟨-, -, -, rfl⟩ | ⟨offset, child, version, located, -, -, -, rfl⟩ := introduce_object_ok _ _ _ _ _ _ _ introducing
  · exact first
  · refine first.trans (.set_slot m.walk translated offset _ (.inr located) ?_)
    rw [first.lengths]
    exact resolved_slot_fits env objects direction header msg m resolved long offset (.inr located)

end Resolved

-- Only the host's delete_id has a word outside the walk translated, and only a
-- corrected app id rebuilds a request.
theorem forget_deleted_other (s next : Session) (m : Inbound) (msg renamed : Bytes)
    (result : forgetDeleted s m msg = some (next, renamed)) (other : ¬(m.interface.name = "wl_display" ∧ m.desc.name = "delete_id")) :
    next = s ∧ renamed = msg := by
  rw [forgetDeleted, if_neg other] at result
  cases result
  exact ⟨rfl, rfl⟩

theorem update_recipes_message (env : Env) (ambient : Ambient) (graph : RecreationGraph) (m : Inbound) (msg : Bytes) :
    (updateRecipes env ambient graph m msg).2 = msg ∨
      ∃ text, (updateRecipes env ambient graph m msg).2 = buildMessage m.header.senderId m.header.opcode text := by
  simp only [updateRecipes]
  split
  · split <;> exact .inl rfl
  · split
    · split <;> exact .inl rfl
    · split
      · split
        · exact .inl rfl
        · split
          · exact .inl rfl
          · exact .inr ⟨_, rfl⟩
      · split
        · split <;> exact .inl rfl
        · exact .inl rfl

theorem update_recipes_other (env : Env) (ambient : Ambient) (graph : RecreationGraph) (m : Inbound) (msg : Bytes)
    (other : m.isRequest "xdg_toplevel" "set_app_id" = false) : (updateRecipes env ambient graph m msg).2 = msg := by
  simp only [updateRecipes, other]
  split
  · split <;> rfl
  · split
    · split <;> rfl
    · split
      · contradiction
      · split
        · split <;> rfl
        · rfl

end WlResprox
