import WlResprox.Turns

set_option autoImplicit false

namespace WlResprox

def Direction.reverse : Direction → Direction
  | .clientToHost => .hostToClient
  | .hostToClient => .clientToHost

-- Only null stands for null, as long as no new id is null.
structure ShadowTable.NullApart (t : ShadowTable) : Prop where
  host : ∀ g, t.hostId g = some 0 → g = 0
  guest : ∀ h, t.guestId h = some 0 → h = 0

def ShadowTable.nextId (t : ShadowTable) : Direction → UInt32
  | .clientToHost => t.nextHostId
  | .hostToClient => t.nextGuestServerId

-- A new object's two ids, the one it comes with and the one allocated for it,
-- are not null and not mapped.
structure FreshPair (t : ShadowTable) (direction : Direction) (id : UInt32) : Prop where
  named : id ≠ 0
  unmapped : translate t direction id = none
  nextNamed : t.nextId direction ≠ 0
  nextUnmapped : translate t direction.reverse (t.nextId direction) = none

namespace ShadowTable

variable (t : ShadowTable)

theorem guest_id_map (g h a b : UInt32) (i : Interface) (named : b ≠ 0) :
    (t.map g h i).guestId b = some a ↔ (a = g ∧ b = h) ∨ (a ≠ g ∧ b ≠ h ∧ t.guestId b = some a) := by
  rw [guest_id_iff _ a b named, guest_id_iff t a b named, current_map]
  show _ ∧ (t.guestToHost.insert g h).getByLeft a = some b ↔ _
  rw [BiMap.get_by_left_insert_iff]
  by_cases same : a = g <;> simp [same]
  tauto

theorem map_null_apart (apart : t.NullApart) (g h : UInt32) (i : Interface) (guest : g ≠ 0) (host : h ≠ 0) :
    (t.map g h i).NullApart where
  host a found := by
    by_contra named
    obtain ⟨-, zero⟩ | ⟨-, -, before⟩ := (host_id_map t g h a 0 i named).mp found
    · exact host zero.symm
    · exact named (apart.host a before)
  guest b found := by
    by_contra named
    obtain ⟨zero, -⟩ | ⟨-, -, before⟩ := (guest_id_map t g h 0 b i named).mp found
    · exact guest zero.symm
    · exact named (apart.guest b before)

end ShadowTable

theorem translate_null (t : ShadowTable) (direction : Direction) : translate t direction 0 = some 0 := by
  cases direction <;> rfl

theorem translate_reverse (t : ShadowTable) (apart : t.NullApart) (direction : Direction) (a b : UInt32)
    (found : translate t direction a = some b) : translate t direction.reverse b = some a := by
  by_cases null : a = 0
  · subst null
    rw [translate_null] at found
    cases found
    exact translate_null t _
  · cases direction with
    | clientToHost =>
        have named : b ≠ 0 := fun zero => null (apart.host a (by rw [← zero]; exact found))
        exact (t.host_guest a b null named).mp found
    | hostToClient =>
        have named : b ≠ 0 := fun zero => null (apart.guest a (by rw [← zero]; exact found))
        exact (t.host_guest b a named null).mpr found

section Creating

variable (t : ShadowTable) (apart : t.NullApart) (direction : Direction) (id : UInt32) (child : Interface)
  (fresh : FreshPair t direction id)

include apart fresh

-- Mapping a fresh pair adds that pair to the translation and takes none away.
theorem create_object_translate (a b : UInt32) :
    translate (createObject t direction id child).2 direction a = some b ↔
      (a = id ∧ b = t.nextId direction) ∨ translate t direction a = some b := by
  by_cases null : a = 0
  · subst null
    rw [translate_null, translate_null]
    exact ⟨.inr, fun either => either.resolve_left fun same => fresh.named same.1.symm⟩
  have unused : translate t direction a = some b → a ≠ id ∧ b ≠ t.nextId direction := by
    refine fun found => ⟨fun same => ?_, fun same => ?_⟩
    · rw [same, fresh.unmapped] at found
      cases found
    · have back := translate_reverse t apart direction a b found
      rw [same, fresh.nextUnmapped] at back
      cases back
  have mapped : translate (createObject t direction id child).2 direction a = some b ↔
      (a = id ∧ b = t.nextId direction) ∨ (a ≠ id ∧ b ≠ t.nextId direction ∧ translate t direction a = some b) := by
    cases direction with
    | clientToHost => exact ShadowTable.host_id_map t.allocateHostId.2 id t.nextHostId a b child null
    | hostToClient =>
        have both := ShadowTable.guest_id_map t.allocateGuestServerId.2 t.nextGuestServerId id b a child null
        exact both.trans (by
          simp only [and_comm, translate, ShadowTable.nextId, ne_eq, ShadowTable.allocate_guest_server_id_guest_id]
          tauto)
  rw [mapped]
  exact ⟨fun either => either.imp_right fun late => late.2.2, fun either => either.imp_right fun found =>
    ⟨(unused found).1, (unused found).2, found⟩⟩

theorem create_object_null_apart : (createObject t direction id child).2.NullApart := by
  cases direction with
  | clientToHost =>
      exact ShadowTable.map_null_apart t.allocateHostId.2 ⟨apart.host, apart.guest⟩ _ _ child fresh.named fresh.nextNamed
  | hostToClient =>
      exact ShadowTable.map_null_apart t.allocateGuestServerId.2 ⟨apart.host, apart.guest⟩ _ _ child fresh.nextNamed fresh.named

end Creating

theorem translate_same {t t' : ShadowTable} (same : SameTable t t') (direction : Direction) (a : UInt32) :
    translate t' direction a = translate t direction a := by
  cases direction
  · exact same.hostId a
  · exact same.guestId a

theorem null_apart_same {t t' : ShadowTable} (same : SameTable t t') (apart : t.NullApart) : t'.NullApart where
  host g found := apart.host g (by rw [← same.hostId]; exact found)
  guest h found := apart.guest h (by rw [← same.guestId]; exact found)

-- The words of a payload that stand for objects: its arguments of that kind,
-- and what the display's delete_id deletes.
def Inbound.deletesId (m : Inbound) : Bool := m.interface.name = "wl_display" ∧ m.desc.name = "delete_id"

def Inbound.references (m : Inbound) : List Nat :=
  m.walk.objectOffsets ++ m.walk.newIdOffset.toList ++ if m.deletesId then [0] else []

def translateBack (t : ShadowTable) (direction : Direction) (offsets : List Nat) (out : Bytes) : Option Bytes :=
  match translateObjects t direction.reverse offsets out with
  | none => none
  | some body => (translate t direction.reverse (senderOf body)).map (writeSenderId body)

-- Overwriting words with what another buffer has there makes the two agree.
theorem translate_objects_restores (t : ShadowTable) (direction : Direction) (offsets : List Nat) (out msg : Bytes)
    (lengths : out.length = msg.length) (fits : ∀ offset ∈ offsets, headerLen + offset + 4 ≤ out.length)
    (apart : offsets.Pairwise fun a b => a + 4 ≤ b ∨ b + 4 ≤ a)
    (words : ∀ offset ∈ offsets, translate t direction (wordAt out (headerLen + offset)) = some (wordAt msg (headerLen + offset)))
    (elsewhere : ∀ i, 4 ≤ i → (∀ offset ∈ offsets, i < headerLen + offset ∨ headerLen + offset + 4 ≤ i) → byteAt out i = byteAt msg i) :
    ∃ body, translateObjects t direction offsets out = some body ∧ body.length = msg.length ∧
      (∀ i, 4 ≤ i → byteAt body i = byteAt msg i) ∧ wordAt body 0 = wordAt out 0 := by
  induction offsets generalizing out with
  | nil => exact ⟨out, rfl, lengths, fun i behind => elsewhere i behind (by simp), rfl⟩
  | cons offset rest ih =>
      have here := fits offset List.mem_cons_self
      obtain ⟨away, later⟩ := List.pairwise_cons.mp apart
      have head : headerLen = 8 := rfl
      obtain ⟨body, onward, sized, agrees, sender⟩ := ih (setWord out (headerLen + offset) (wordAt msg (headerLen + offset)))
        (by rw [set_word_length _ _ _ here]; exact lengths)
        (fun other member => by rw [set_word_length _ _ _ here]; exact fits other (List.mem_cons_of_mem _ member)) later
        (fun other member => by
          have disjoint := away other member
          rw [word_at_set_word_apart _ _ _ _ here (by omega)]
          exact words other (List.mem_cons_of_mem _ member))
        (fun i behind outside => by
          by_cases inside : headerLen + offset ≤ i ∧ i < headerLen + offset + 4
          · have placed := byte_at_set_word_copied out msg (headerLen + offset) (i - (headerLen + offset)) here (by omega)
            rwa [Nat.add_sub_cancel' inside.1] at placed
          · rw [byte_at_set_word _ _ _ _ here (by omega)]
            refine elsewhere i behind fun other member => ?_
            rcases List.mem_cons.mp member with rfl | further
            · omega
            · exact outside other further)
      refine ⟨body, ?_, sized, agrees, ?_⟩
      · rw [translateObjects, words offset List.mem_cons_self]
        exact onward
      · rw [sender, word_at_set_word_apart _ _ _ _ here (by omega)]

theorem translate_back_restores (t : ShadowTable) (direction : Direction) (offsets : List Nat) (out msg : Bytes)
    (long : headerLen ≤ msg.length) (lengths : out.length = msg.length)
    (fits : ∀ offset ∈ offsets, headerLen + offset + 4 ≤ msg.length) (apart : offsets.Pairwise fun a b => a + 4 ≤ b ∨ b + 4 ≤ a)
    (sender : translate t direction.reverse (senderOf out) = some (senderOf msg))
    (words : ∀ offset ∈ offsets,
      translate t direction.reverse (wordAt out (headerLen + offset)) = some (wordAt msg (headerLen + offset)))
    (elsewhere : ∀ i, 4 ≤ i → (∀ offset ∈ offsets, i < headerLen + offset ∨ headerLen + offset + 4 ≤ i) → byteAt out i = byteAt msg i) :
    translateBack t direction offsets out = some msg := by
  obtain ⟨body, translated, sized, agrees, kept⟩ := translate_objects_restores t direction.reverse offsets out msg lengths
    (fun offset member => by rw [lengths]; exact fits offset member) apart words elsewhere
  have same : senderOf body = senderOf out := kept
  have room : 0 + 4 ≤ body.length := by
    simp only [headerLen] at long
    omega
  simp only [translateBack, translated, same, sender, Option.map_some, Option.some.injEq]
  refine byte_ext _ _ ?_ fun i => ?_
  · rw [writeSenderId, set_word_length _ _ _ room, sized]
  · by_cases behind : 4 ≤ i
    · rw [writeSenderId, byte_at_set_word _ _ _ _ room (.inr (by omega)), agrees i behind]
    · have placed := byte_at_set_word_copied body msg 0 i room (by omega)
      rwa [Nat.zero_add] at placed

-- Everything the table says while a message is rewritten it still says after
-- the step, but a deleted object is gone by then.
def Inbound.moment (m : Inbound) (before after : ShadowTable) : ShadowTable := if m.deletesId then before else after

-- What a message says, said to the other side.
structure Renders (before after : ShadowTable) (m : Inbound) (msg out : Bytes) : Prop where
  lengths : out.length = msg.length
  header : wordAt out 4 = wordAt msg 4
  elsewhere : ∀ i, headerLen ≤ i → (∀ offset ∈ m.references, i < headerLen + offset ∨ headerLen + offset + 4 ≤ i) →
    byteAt out i = byteAt msg i
  sender : translate (m.moment before after) m.direction (senderOf msg) = some (senderOf out)
  objects : ∀ offset ∈ m.walk.objectOffsets,
    translate before m.direction (wordAt msg (headerLen + offset)) = some (wordAt out (headerLen + offset))
  newId : ∀ offset, m.walk.newIdOffset = some offset → wordAt out (headerLen + offset) = before.nextId m.direction ∧
    translate after m.direction (wordAt msg (headerLen + offset)) = some (wordAt out (headerLen + offset))
  deleted : m.deletesId = true → translate before m.direction (wordAt msg headerLen) = some (wordAt out headerLen)
  back : translateBack (m.moment before after) m.direction m.references out = some msg

theorem Rewrites.elsewhere {walk : SignatureWalk} {msg out : Bytes} (rewrites : Rewrites walk msg out) (i : Nat)
    (behind : headerLen ≤ i) (outside : ∀ offset, walk.Slot offset → i < headerLen + offset ∨ headerLen + offset + 4 ≤ i) :
    byteAt out i = byteAt msg i := by
  have kept := rewrites.payload.bytes (i - headerLen) fun offset slot => by
    have away := outside offset slot
    omega
  rw [byte_at_drop, byte_at_drop, Nat.add_sub_cancel' behind] at kept
  exact kept

section Forwarded

variable (env : Env) (covered : Covered env.protocol) (direction : Direction) (s : Session) (msg : Bytes)
  (long : headerLen ≤ msg.length) (m : Inbound) (resolved : Resolved env.protocol s.objects direction (headerOf msg) msg m)
  (translated rewritten renamed : Bytes) (created : Option Creation) (introduced forgotten : Session)
  (translating : translateObjects s.objects direction m.walk.objectOffsets msg = some translated)
  (introducing : introduceObject env.protocol s m translated = .ok (created, introduced, rewritten))
  (forgetting : forgetDeleted introduced m rewritten = some (forgotten, renamed))

include resolved long translating

theorem translated_objects (offset : Nat) (member : offset ∈ m.walk.objectOffsets) :
    translate s.objects direction (wordAt msg (headerLen + offset)) = some (wordAt translated (headerLen + offset)) := by
  have words := translate_objects_words s.objects direction m.walk.objectOffsets msg translated
    (fun other there => resolved_slot_fits env s.objects direction _ msg m resolved long other (.inl there))
    (walk_apart _ _ _ resolved.walk).objects translating
  rw [wordsAt, wordsAt, List.forall₂_map_left_iff, List.forall₂_map_right_iff, List.forall₂_same] at words
  exact words offset member

include introducing

theorem introduced_objects (offset : Nat) (member : offset ∈ m.walk.objectOffsets) :
    translate s.objects direction (wordAt msg (headerLen + offset)) = some (wordAt rewritten (headerLen + offset)) := by
  have found := translated_objects env direction s msg long m resolved translated translating offset member
  obtain ⟨-, -, -, rfl⟩ | ⟨located, child, version, newId, -, -, -, rfl⟩ := introduce_object_ok _ _ _ _ _ _ _ introducing
  · exact found
  · have first := translated_rewrites env s.objects direction _ msg m resolved long translated translating
    have here : headerLen + located + 4 ≤ translated.length := by
      rw [first.lengths]
      exact resolved_slot_fits env s.objects direction _ msg m resolved long located (.inr newId)
    have away := (walk_apart _ _ _ resolved.walk).newId located newId offset member
    rw [word_at_set_word_apart _ _ _ _ here (by omega)]
    exact found

-- A message with a new object gets the next id there, and its pair is mapped.
theorem introduced_new_id (offset : Nat) (located : m.walk.newIdOffset = some offset) :
    wordAt rewritten (headerLen + offset) = s.objects.nextId direction ∧
      ∃ child, introduced.objects = (createObject s.objects direction (wordAt msg (headerLen + offset)) child).2 := by
  have first := translated_rewrites env s.objects direction _ msg m resolved long translated translating
  have fits := resolved_slot_fits env s.objects direction _ msg m resolved long
  have here : headerLen + offset + 4 ≤ translated.length := by
    rw [first.lengths]
    exact fits offset (.inr located)
  have original : wordAt translated (headerLen + offset) = wordAt msg (headerLen + offset) :=
    translate_objects_apart s.objects direction m.walk.objectOffsets msg translated offset
      (fun other member => fits other (.inl member))
      (fun other member => ((walk_apart _ _ _ resolved.walk).newId offset located other member).symm) translating
  obtain ⟨absent, -, -, -⟩ | ⟨there, child, version, newId, -, -, rfl, rfl⟩ := introduce_object_ok _ _ _ _ _ _ _ introducing
  · rw [located] at absent
    cases absent
  · rw [located] at newId
    cases newId
    refine ⟨?_, child, ?_⟩
    · rw [word_at_set_word _ _ _ here, resolved.way]
      cases direction <;> rfl
    · rw [WlResprox.introduced, resolved.way, original]

-- What the references of a message are, when it is not a delete_id.
omit long translating introducing in
theorem references_apart (keeps : m.deletesId = false) :
    (∀ offset ∈ m.references, m.walk.Slot offset) ∧ m.references.Pairwise fun a b => a + 4 ≤ b ∨ b + 4 ≤ a := by
  have apart := walk_apart _ _ _ resolved.walk
  simp only [Inbound.references, keeps, Bool.false_eq_true, if_false, List.append_nil, List.mem_append, Option.mem_toList]
  refine ⟨fun offset member => member, List.pairwise_append.mpr ⟨apart.objects.imp .inl, ?_, ?_⟩⟩
  · cases m.walk.newIdOffset <;> simp
  · intro object member offset located
    exact apart.newId offset (Option.mem_toList.mp located) object member

variable (after : ShadowTable) (otherSide : UInt32) (apart : s.objects.NullApart) (same : SameTable forgotten.objects after)
  (found : otherSideSenderId after m = some otherSide)

include forgetting apart same found

theorem kept_renders (keeps : m.deletesId = false)
    (fresh : ∀ offset, m.walk.newIdOffset = some offset → FreshPair s.objects direction (wordAt msg (headerLen + offset))) :
    Renders s.objects after m msg (writeSenderId renamed otherSide) := by
  obtain ⟨rfl, rfl⟩ := forget_deleted_other _ _ _ _ _ forgetting (by simpa [Inbound.deletesId] using keeps)
  have rewrites := introduced_rewrites env s.objects direction _ msg m resolved long s forgotten translated renamed created
    translating introducing
  have out := rewrites.trans (.set_sender m.walk renamed otherSide (by rw [rewrites.lengths]; exact long))
  have objects := introduced_objects env direction s msg long m resolved translated renamed created forgotten translating introducing
  have newIds := introduced_new_id env direction s msg long m resolved translated renamed created forgotten translating introducing
  have fits := resolved_slot_fits env s.objects direction _ msg m resolved long
  have room : headerLen ≤ renamed.length := by rw [rewrites.lengths]; exact long
  have words : ∀ offset, wordAt (writeSenderId renamed otherSide) (headerLen + offset) = wordAt renamed (headerLen + offset) :=
    fun offset => word_at_write_sender renamed otherSide _ room (by simp only [headerLen]; omega)
  -- With a fresh pair mapped the table says all it said before, and that pair.
  have grown : after.NullApart ∧ (∀ a b, translate s.objects direction a = some b → translate after direction a = some b) ∧
      ∀ offset, m.walk.newIdOffset = some offset →
        translate after direction (wordAt msg (headerLen + offset)) = some (s.objects.nextId direction) := by
    cases located : m.walk.newIdOffset with
    | none =>
        obtain ⟨-, -, kept, -⟩ | ⟨offset, child, version, there, -⟩ := introduce_object_ok _ _ _ _ _ _ _ introducing
        · rw [kept] at same
          exact ⟨null_apart_same same apart, fun a b before => (translate_same same direction a).trans before, by simp⟩
        · rw [located] at there
          cases there
    | some offset =>
        obtain ⟨-, child, mapped⟩ := newIds offset located
        rw [mapped] at same
        have pairs := create_object_translate s.objects apart direction _ child (fresh offset located)
        refine ⟨null_apart_same same (create_object_null_apart s.objects apart direction _ child (fresh offset located)),
          fun a b before => ?_, fun other here => ?_⟩
        · rw [translate_same same, pairs]
          exact .inr before
        · cases here
          rw [translate_same same, pairs]
          exact .inl ⟨rfl, rfl⟩
  obtain ⟨afterApart, still, mapped⟩ := grown
  have sender : translate after direction (senderOf msg) = some (senderOf (writeSenderId renamed otherSide)) := by
    rw [sender_of_written _ _ room]
    cases direction with
    | clientToHost =>
        rw [otherSideSenderId, resolved.way] at found
        rw [← resolved_request env s.objects _ msg m resolved rfl]
        exact found
    | hostToClient =>
        rw [otherSideSenderId, resolved.way] at found
        cases found
        exact still _ _ (resolved_event env s.objects _ msg m resolved rfl)
  have reads : ∀ offset ∈ m.references,
      translate after direction (wordAt msg (headerLen + offset)) = some (wordAt renamed (headerLen + offset)) := by
    intro offset member
    simp only [Inbound.references, keeps, Bool.false_eq_true, if_false, List.append_nil, List.mem_append, Option.mem_toList] at member
    rcases member with object | newId
    · exact still _ _ (objects offset object)
    · rw [(newIds offset newId).1]
      exact mapped offset newId
  obtain ⟨slots, disjoint⟩ := references_apart env direction s msg m resolved keeps
  have elsewhere : ∀ i, headerLen ≤ i →
      (∀ offset ∈ m.references, i < headerLen + offset ∨ headerLen + offset + 4 ≤ i) →
        byteAt (writeSenderId renamed otherSide) i = byteAt msg i := by
    intro i behind outside
    refine out.elsewhere i behind fun offset slot => outside offset ?_
    simp only [Inbound.references, keeps, Bool.false_eq_true, if_false, List.append_nil, List.mem_append, Option.mem_toList]
    exact slot
  have moment : m.moment s.objects after = after := by simp [Inbound.moment, keeps]
  refine ⟨out.lengths, out.opcode, elsewhere, ?_, fun offset member => ?_, fun offset located => ?_, fun deletes => ?_, ?_⟩
  · rw [moment, resolved.way]
    exact sender
  · rw [resolved.way, words]
    exact objects offset member
  · rw [words, resolved.way, (newIds offset located).1]
    exact ⟨rfl, mapped offset located⟩
  · rw [keeps] at deletes
    cases deletes
  · rw [moment, resolved.way]
    refine translate_back_restores after direction m.references _ msg long out.lengths
      (fun offset member => fits offset (slots offset member)) disjoint (translate_reverse after afterApart _ _ _ sender)
      (fun offset member => ?_) fun i behind outside => ?_
    · rw [words]
      exact translate_reverse after afterApart _ _ _ (reads offset member)
    · by_cases payload : headerLen ≤ i
      · exact elsewhere i payload outside
      · have word := byte_at_word (writeSenderId renamed otherSide) msg 4 (i - 4)
          (by rw [out.lengths]; simp only [headerLen] at long; omega) out.opcode (by simp only [headerLen] at payload; omega)
        rwa [Nat.add_sub_cancel' behind] at word

omit same
include covered

theorem deleted_renders (deletes : m.deletesId = true) : Renders s.objects after m msg (writeSenderId renamed otherSide) := by
  simp only [Inbound.deletesId, decide_eq_true_eq] at deletes
  obtain ⟨rfl, signature⟩ := delete_id_plain env covered s.objects direction msg m resolved deletes.1 deletes.2
  obtain ⟨guestId, known, -, -, -, rfl, fits⟩ := delete_id_forgets env covered s msg m resolved translated rewritten renamed created
    introduced forgotten translating introducing forgetting deletes.1 deletes.2
  have noObjects : m.walk.objectOffsets = [] := by
    have count := walk_object_count _ _ _ resolved.walk
    rw [signature] at count
    exact List.length_eq_zero_iff.mp count
  have noNewId : m.walk.newIdOffset = none := by
    have located := walk_new_id _ _ _ resolved.walk
    rw [signature] at located
    simpa using located
  have references : m.references = [0] := by simp [Inbound.references, Inbound.deletesId, deletes, noObjects, noNewId]
  have moment : m.moment s.objects after = s.objects := by simp [Inbound.moment, Inbound.deletesId, deletes]
  have head : headerLen = 8 := rfl
  have sized : (setWord msg headerLen guestId).length = msg.length := set_word_length _ _ _ fits
  have lengths : (writeSenderId (setWord msg headerLen guestId) otherSide).length = msg.length := by
    rw [writeSenderId, set_word_length _ _ _ (by omega), sized]
  have sender : translate s.objects .hostToClient (senderOf msg) =
      some (senderOf (writeSenderId (setWord msg headerLen guestId) otherSide)) := by
    rw [otherSideSenderId, resolved.way] at found
    cases found
    rw [sender_of_written _ _ (by rw [sized]; exact long)]
    exact resolved_event env s.objects _ msg m resolved rfl
  have word : wordAt (writeSenderId (setWord msg headerLen guestId) otherSide) headerLen = guestId := by
    rw [word_at_write_sender _ _ _ (by rw [sized]; exact long) (by omega), word_at_set_word _ _ _ fits]
  have header : wordAt (writeSenderId (setWord msg headerLen guestId) otherSide) 4 = wordAt msg 4 := by
    rw [word_at_write_sender _ _ _ (by rw [sized]; exact long) (by omega), word_at_set_word_apart _ _ _ _ fits (by omega)]
  have elsewhere : ∀ i, 4 ≤ i → (∀ offset ∈ m.references, i < headerLen + offset ∨ headerLen + offset + 4 ≤ i) →
      byteAt (writeSenderId (setWord msg headerLen guestId) otherSide) i = byteAt msg i := by
    intro i behind outside
    have away := outside 0 (by simp [references])
    rw [writeSenderId, byte_at_set_word _ _ _ _ (by omega) (.inr (by omega)), byte_at_set_word _ _ _ _ fits (by omega)]
  refine ⟨lengths, header, fun i behind => elsewhere i (by omega), ?_, ?_, ?_, fun _ => ?_, ?_⟩
  · rw [moment, resolved.way]
    exact sender
  · simp [noObjects]
  · simp [noNewId]
  · rw [resolved.way, word]
    exact known
  · rw [moment, resolved.way, references]
    refine translate_back_restores s.objects .hostToClient [0] _ msg long lengths (by simpa using fits) (List.pairwise_singleton _ _)
      (translate_reverse _ apart _ _ _ sender) ?_ ?_
    · simp only [List.mem_singleton, forall_eq, Nat.add_zero, word]
      exact translate_reverse _ apart .hostToClient _ _ known
    · intro i behind outside
      exact elsewhere i behind (by rw [references]; exact outside)

end Forwarded

-- What a turn writes on of the message it took.
def PassesOn (s next : Session) (sent : Sent) : Prop :=
  ∃ added, next.trace = s.trace ++ added ∧ .sent sent ∈ added ∧ sent.origin = .relayed

def Traffic.Unrelayed : Traffic → Prop
  | .sent m => m.origin ≠ .relayed
  | _ => True

theorem unrelayed_of_made_up (entry : Traffic) (makesUp : MakesUp entry) : entry.Unrelayed := by
  cases entry with
  | sent m => simp [Traffic.Unrelayed, makesUp.1]
  | _ => trivial

theorem adds_passes_nothing {s next : Session} (adds : Adds Traffic.Unrelayed s next) (sent : Sent) : ¬PassesOn s next sent := by
  rintro ⟨added, grown, member, relayed⟩
  obtain ⟨others, fine, is⟩ := adds
  rw [List.append_cancel_left (grown.symm.trans is)] at member
  exact fine _ member relayed

theorem frame_adds_unrelayed {s next : Session} (frame : Observes s next) : Adds Traffic.Unrelayed s next :=
  frame.adds unrelayed_of_made_up

-- The one way a message is passed on, with everything that was decided on it.
structure Forwarding (env : Env) (ambient : Ambient) (direction : Direction) (s next : Session) (msg : Bytes) (sent : Sent)
    (m : Inbound) (translated rewritten renamed : Bytes) (created : Option Creation) (introduced forgotten : Session)
    (graph : RecreationGraph) (otherSide : UInt32) : Prop where
  resolved : Resolved env.protocol s.objects direction (headerOf msg) msg m
  translating : translateObjects s.objects direction m.walk.objectOffsets msg = some translated
  introducing : introduceObject env.protocol s m translated = .ok (created, introduced, rewritten)
  forgetting : forgetDeleted introduced m rewritten = some (forgotten, renamed)
  table : SameTable forgotten.objects next.objects
  found : otherSideSenderId next.objects m = some otherSide
  peer : sent.peer = direction.dst
  msg : sent.msg = writeSenderId (updateRecipes env ambient graph m renamed).2 otherSide

theorem handled_passes (env : Env) (ambient : Ambient) (direction : Direction) (s next : Session) (msg : Bytes)
    (disposal : Disposal) (handled : Handled env ambient direction s (headerOf msg) msg disposal next) (sent : Sent)
    (passes : PassesOn s next sent) :
    ∃ m translated rewritten renamed created introduced forgotten graph otherSide,
      Forwarding env ambient direction s next msg sent m translated rewritten renamed created introduced forgotten graph otherSide := by
  cases handled with
  | intercepted intercepting =>
      refine absurd passes (adds_passes_nothing ?_ sent)
      exact (handle_synthetic_served ambient s msg (headerOf msg).opcode).2.2.2.mono fun entry served => by
        cases entry with
        | sent => exact served.elim
        | _ => trivial
  | unknown | parseError | untranslatable => exact absurd passes (adds_passes_nothing (.same rfl) sent)
  | unresolvableChild m translated dropped resolved translating failed =>
      refine absurd passes (adds_passes_nothing (.same ?_) sent)
      obtain ⟨-, -, rfl | ⟨guest, name, rfl⟩⟩ := introduce_object_error _ _ _ _ _ failed <;> rfl
  | untrackedDeleteId m translated rewritten created introduced resolved translating introducing failed =>
      exact absurd passes (adds_passes_nothing (frame_adds_unrelayed (introduce_object_frame _ _ _ _ _ _ _ introducing)) sent)
  | passedOn m translated rewritten renamed created introduced forgotten next disposal spared resolved translating introducing
      forgetting passing =>
      have first := introduce_object_frame _ _ _ _ _ _ _ introducing
      have second := forget_deleted_frame _ _ _ _ _ forgetting
      cases passing with
      | staleGeneration updated is stale =>
          have observed := observe_recipes_frame forgotten env ambient m renamed
          rw [← is] at observed
          exact absurd passes (adds_passes_nothing (frame_adds_unrelayed ((first.trans second).trans observed)) sent)
      | untranslatedSender noted is failed =>
          have observed := observe_flow_frame forgotten env ambient m created renamed
          rw [← is] at observed
          have dropped := drop_stale_sender_frame env.protocol noted m created
          exact absurd passes (adds_passes_nothing (frame_adds_unrelayed (((first.trans second).trans observed).trans dropped)) sent)
      | forwarded noted otherSide is fresh found =>
          have observed := observe_flow_frame forgotten env ambient m created renamed
          rw [← is] at observed
          obtain ⟨earlier, quiet, grown⟩ := frame_adds_unrelayed ((first.trans second).trans observed)
          obtain ⟨fds, outcome, last⟩ := forward_trace ambient noted m created (writeSenderId
            (updateRecipes env ambient (observeInput ambient forgotten m (renamed.drop headerLen)).graph m renamed).2 otherSide)
          have objects := (forward_parts ambient noted m created (writeSenderId
            (updateRecipes env ambient (observeInput ambient forgotten m (renamed.drop headerLen)).graph m renamed).2 otherSide)).1
          obtain ⟨added, written, member, relayed⟩ := passes
          have entry : live noted m.direction = true ∧ sent = ⟨m.direction.dst, .relayed, m.interface, writeSenderId
              (updateRecipes env ambient (observeInput ambient forgotten m (renamed.drop headerLen)).graph m renamed).2 otherSide,
              fds, outcome⟩ := by
            rw [last] at written
            split at written
            · rename_i alive
              refine ⟨alive, ?_⟩
              rw [grown, List.append_assoc] at written
              rw [← List.append_cancel_left written] at member
              rcases List.mem_append.mp member with before | now
              · exact absurd relayed (quiet _ before)
              · simpa using now
            · rw [grown] at written
              rw [← List.append_cancel_left written] at member
              exact absurd relayed (quiet _ member)
          have table : SameTable forgotten.objects noted.objects := by
            rw [is]
            exact (observe_input_aside forgotten ambient m (renamed.drop headerLen)).table
          refine ⟨m, translated, rewritten, renamed, created, introduced, forgotten,
            (observeInput ambient forgotten m (renamed.drop headerLen)).graph, otherSide, resolved, translating, introducing, forgetting, by rw [objects]; exact table, by rw [objects]; exact found, ?_, ?_⟩
          · rw [entry.2, resolved.way]
          · rw [entry.2]

-- Whether the relay puts another app id in the place of the client's.
def correctsAppId (env : Env) (ambient : Ambient) (m : Inbound) (msg : Bytes) : Bool :=
  m.isRequest "xdg_toplevel" "set_app_id" && ((readStr (msg.drop headerLen) 0).bind fun read => correctedAppId env ambient read.1).isSome

-- A reference the table cannot translate, in the space the message comes from.
-- A request may name its own new object as its sender.
inductive Inbound.Untranslatable (objects : ShadowTable) (m : Inbound) (msg : Bytes) : Prop where
  | object (offset : Nat) (member : offset ∈ m.walk.objectOffsets)
      (unknown : translate objects m.direction (wordAt msg (headerLen + offset)) = none)
  | sender (unknown : translate objects m.direction (senderOf msg) = none)
      (other : ∀ offset, m.walk.newIdOffset = some offset → wordAt msg (headerLen + offset) ≠ senderOf msg)
  | deleted (deletes : m.deletesId = true) (unknown : translate objects m.direction (wordAt msg headerLen) = none)

theorem set_app_id_signature {env : Env} (covered : Covered env.protocol) (objects : ShadowTable) {direction : Direction} (msg : Bytes)
    (m : Inbound) (resolved : Resolved env.protocol objects direction (headerOf msg) msg m)
    (names : m.isRequest "xdg_toplevel" "set_app_id" = true) : m.desc.signature = [.str] := by
  obtain ⟨request, toplevel, named⟩ := (is_request_iff _ _ _).mp names
  have member := resolved_member env objects direction msg m resolved
  rw [← resolved.way, request, interface_named _ _ toplevel] at member
  exact (declared_entry _ _ _ _ (covered.requests _) covered.setAppId m.desc member named).1

-- The request carries nothing but the string.
theorem set_app_id_plain {env : Env} (covered : Covered env.protocol) (objects : ShadowTable) {direction : Direction} (msg : Bytes)
    (m : Inbound) (resolved : Resolved env.protocol objects direction (headerOf msg) msg m)
    (names : m.isRequest "xdg_toplevel" "set_app_id" = true) : m.walk.objectOffsets = [] ∧ m.walk.newIdOffset = none := by
  have signature := set_app_id_signature covered objects msg m resolved names
  constructor
  · have count := walk_object_count _ _ _ resolved.walk
    rw [signature] at count
    exact List.length_eq_zero_iff.mp count
  · have located := walk_new_id _ _ _ resolved.walk
    rw [signature] at located
    simpa using located

section Turn

variable {env : Env} {ambient : Ambient} {direction : Direction} {s next : Session} {msg : Bytes} {sent : Sent}
  {m : Inbound} {translated rewritten renamed : Bytes} {created : Option Creation} {introduced forgotten : Session}
  {graph : RecreationGraph} {otherSide : UInt32}
  (covered : Covered env.protocol) (long : headerLen ≤ msg.length)
  (forwarding : Forwarding env ambient direction s next msg sent m translated rewritten renamed created introduced forgotten graph
    otherSide)

include covered long forwarding

theorem forwarding_uncorrected (uncorrected : correctsAppId env ambient m msg = false) :
    (updateRecipes env ambient graph m renamed).2 = renamed := by
  by_cases renames : m.isRequest "xdg_toplevel" "set_app_id" = true
  · have resolved := forwarding.resolved
    obtain ⟨plain, bare⟩ := set_app_id_plain covered s.objects msg m resolved renames
    have toplevel := ((is_request_iff _ _ _).mp renames).2.1
    obtain ⟨-, rfl⟩ := forget_deleted_other _ _ _ _ _ forwarding.forgetting (by simp [toplevel])
    have rewrites := introduced_rewrites env s.objects direction _ msg m resolved long s introduced translated renamed created
      forwarding.translating forwarding.introducing
    have payload := agree_plain m.walk _ _ rewrites.payload plain bare
    simp only [correctsAppId, renames, Bool.true_and] at uncorrected
    simp only [updateRecipes, payload, renames, if_true]
    split
    · split <;> rfl
    · split
      · split <;> rfl
      · split
        · rfl
        · rename_i appId rest read
          have same : correctedAppId env ambient appId = none := by simpa [read] using uncorrected
          simp [same]
  · exact update_recipes_other env ambient graph m renamed (Bool.eq_false_iff.mpr renames)

theorem forwarding_renders (apart : s.objects.NullApart) (uncorrected : correctsAppId env ambient m msg = false)
    (fresh : ∀ offset, m.walk.newIdOffset = some offset → FreshPair s.objects direction (wordAt msg (headerLen + offset))) :
    Renders s.objects next.objects m msg sent.msg := by
  rw [forwarding.msg, forwarding_uncorrected covered long forwarding uncorrected]
  by_cases deletes : m.deletesId = true
  · exact deleted_renders env covered direction s msg long m forwarding.resolved translated rewritten renamed created introduced
      forgotten forwarding.translating forwarding.introducing forwarding.forgetting next.objects otherSide apart forwarding.found deletes
  · exact kept_renders env direction s msg long m forwarding.resolved translated rewritten renamed created introduced forgotten
      forwarding.translating forwarding.introducing forwarding.forgetting next.objects otherSide apart forwarding.table
      forwarding.found (Bool.eq_false_iff.mpr deletes) fresh

-- A message that is passed on has nothing in it the table cannot translate.
theorem forwarding_translatable (untranslatable : m.Untranslatable s.objects msg) : False := by
  have resolved := forwarding.resolved
  cases untranslatable with
  | object offset member unknown =>
      have known := translated_objects env direction s msg long m resolved translated forwarding.translating offset member
      rw [resolved.way, known] at unknown
      cases unknown
  | sender unknown other =>
      rw [resolved.way] at unknown
      cases direction with
      | hostToClient =>
          have known := resolved_event env s.objects _ msg m resolved rfl
          have same : s.objects.guestId (senderOf msg) = none := unknown
          rw [known] at same
          cases same
      | clientToHost =>
          have named : senderOf msg ≠ 0 := by
            intro null
            rw [null, translate_null] at unknown
            cases unknown
          have found := forwarding.found
          have keeps : ¬(m.interface.name = "wl_display" ∧ m.desc.name = "delete_id") := by
            intro deletes
            cases (delete_id_plain env covered s.objects _ msg m resolved deletes.1 deletes.2).1
          obtain ⟨rfl, -⟩ := forget_deleted_other _ _ _ _ _ forwarding.forgetting keeps
          rw [otherSideSenderId, resolved.way] at found
          dsimp only at found
          rw [resolved_request env s.objects _ msg m resolved rfl, forwarding.table.hostId] at found
          cases located : m.walk.newIdOffset with
          | none =>
              obtain ⟨-, -, kept, -⟩ | ⟨offset, child, version, there, -⟩ := introduce_object_ok _ _ _ _ _ _ _ forwarding.introducing
              · rw [kept] at found
                have same : s.objects.hostId (senderOf msg) = none := unknown
                rw [found] at same
                cases same
              · rw [located] at there
                cases there
          | some offset =>
              obtain ⟨-, child, mapped⟩ := introduced_new_id env .clientToHost s msg long m resolved translated rewritten created
                forgotten forwarding.translating forwarding.introducing offset located
              rw [mapped] at found
              obtain ⟨same, -⟩ | ⟨-, -, before⟩ := (ShadowTable.host_id_map s.objects.allocateHostId.2 _ _ _ _ child named).mp found
              · exact other offset located same.symm
              · have same : s.objects.hostId (senderOf msg) = none := unknown
                rw [ShadowTable.allocate_host_id_host_id, same] at before
                cases before
  | deleted deletes unknown =>
      simp only [Inbound.deletesId, decide_eq_true_eq] at deletes
      obtain ⟨rfl, -⟩ := delete_id_plain env covered s.objects direction msg m resolved deletes.1 deletes.2
      obtain ⟨guestId, known, -⟩ := delete_id_forgets env covered s msg m resolved translated rewritten renamed created
        introduced forgotten forwarding.translating forwarding.introducing forwarding.forgetting deletes.1 deletes.2
      rw [resolved.way] at unknown
      have same : s.objects.guestId (wordAt msg headerLen) = none := unknown
      rw [known] at same
      cases same

end Turn

-- What a turn of the loop passes on went the one way.
theorem relay_turn_passes (env : Env) (ambient : Ambient) (direction : Direction) (s next : Session) (disposal : Disposal)
    (msg : Bytes) (consumed : Nat) (taken : takeMessage (s.conn direction.src).readBuf = some (msg, consumed))
    (turned : relayTurn env ambient direction s = some (disposal, next)) :
    ∃ handled, next = handled.drainBuf direction.src consumed ∧ ∀ sent, PassesOn s next sent →
      ∃ m translated rewritten renamed created introduced forgotten graph otherSide,
        Forwarding env ambient direction (s.log (.took direction.src msg)) handled msg sent m translated rewritten renamed created
          introduced forgotten graph otherSide := by
  obtain ⟨msg', consumed', handled, taken', handling, rfl⟩ := relay_turn_some env ambient direction s next disposal turned
  rw [taken] at taken'
  cases taken'
  have way := relay_message_handled env ambient direction (s.log (.took direction.src msg)) (headerOf msg) msg
  rw [handling] at way
  -- The log of the message itself comes before anything the turn writes.
  have passed : ∀ sent, PassesOn s (handled.drainBuf direction.src consumed) sent →
      PassesOn (s.log (.took direction.src msg)) handled sent := by
    rintro sent ⟨added, grown, member, relayed⟩
    obtain ⟨others, -, is⟩ := (handled_frame _ env ambient direction _ msg disposal handled way).trace
    have shape : added = .took direction.src msg :: others := by
      refine List.append_cancel_left (grown.symm.trans ?_)
      show handled.trace = _
      rw [is]
      simp [Session.log]
    rw [shape] at member
    exact ⟨others, is, by simpa using member, relayed⟩
  exact ⟨handled, rfl, fun sent passes => handled_passes env ambient direction _ handled msg disposal way sent (passed sent passes)⟩

def registryAsked : Session := { coreStart.session with gtk := { coreStart.session.gtk with readBuf := requestRegistry 2 } }

theorem new_table_null_apart : ShadowTable.new.NullApart where
  host g found := by
    by_contra named
    cases ((ShadowTable.host_id_new g 0 named).mp found).2
  guest h found := by
    by_contra named
    obtain ⟨zero, -⟩ | ⟨-, -, before⟩ := (ShadowTable.guest_id_map _ 1 1 0 h wlDisplay named).mp found
    · cases zero
    · rw [ShadowTable.guestId, if_neg named] at before
      cases before

end WlResprox
