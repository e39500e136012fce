import WlResprox.GlobalNames
import WlResprox.Reserves
import WlResprox.Turns

set_option autoImplicit false

namespace WlResprox

-- The requests of a splice: it binds a data device manager of its own, and then
-- everything it asks for goes through that.
def BindsOwn (m : Sent) : Prop := m.peer = .host ∧ m.origin = .own ∧ m.interface = wlRegistry

def Selects (serial : UInt32) : Traffic → Prop
  | .sent m => m.peer = .host ∧ m.origin = .own ∧ m.interface ∈ [wlDataDeviceManager, wlDataSource, wlDataDevice] ∧
      (m.interface = wlDataDevice → wordAt m.msg (headerLen + 4) = serial)
  | _ => False

inductive SpliceRequests (serial : UInt32) : List Traffic → Prop where
  | nothing : SpliceRequests serial []
  | bound (bind : Sent) (rest : List Traffic) (binds : BindsOwn bind) (selects : ∀ entry ∈ rest, Selects serial entry) :
      SpliceRequests serial (.sent bind :: rest)

structure CreatesSource (p : Protocol) (id : UInt32) (m : Sent) : Prop where
  own : m.peer = .host ∧ m.origin = .own
  whole : m.outcome = .complete
  manager : m.interface = wlDataDeviceManager
  makes : m.Makes p id wlDataSource

theorem SpliceRequests.append {serial : UInt32} {added more : List Traffic} (requests : SpliceRequests serial added)
    (started : added ≠ []) (selects : ∀ entry ∈ more, Selects serial entry) : SpliceRequests serial (added ++ more) := by
  cases requests with
  | nothing => exact absurd rfl started
  | bound bind rest binds before =>
      refine .bound bind (rest ++ more) binds fun entry member => ?_
      exact (List.mem_append.mp member).elim (before entry) (selects entry)

theorem built_second_word (sender : UInt32) (opcode : UInt16) (first second : UInt32) :
    wordAt (buildMessage sender opcode (putU32 (putU32 [] first) second)) (headerLen + 4) = second := by
  rw [← word_at_drop, build_message_payload]
  have words := word_at_append_right (toNeBytes first) (toNeBytes second) 0
  rw [to_ne_bytes_length] at words
  have last := word_at_to_ne_bytes second []
  rw [List.append_nil] at last
  simpa [putU32] using words.trans last

section Requests

variable {s t : Session}

inductive OwnObject (s : Session) (request : WriteOutcome → Sent) : Option UInt32 → Session → Prop where
  | made (t : Session) (objects : t.objects = s.objects.allocateHostId.2) (reclaim : t.reclaim = s.reclaim)
      (trace : t.trace = s.trace ++ [.sent (request .complete)]) : OwnObject s request (some s.objects.nextHostId) t
  | failed (t : Session) (outcome : WriteOutcome) (objects : t.objects = s.objects) (reclaim : t.reclaim = s.reclaim)
      (trace : t.trace = s.trace ++ [.sent (request outcome)]) : OwnObject s request none t

theorem create_own_object_own {interface : Interface} {sender : UInt32} {opcode : UInt16} {payload : UInt32 → Bytes}
    {made : Option UInt32} (result : createOwnObject s interface sender opcode payload = (made, t)) :
    OwnObject s (ownRequest interface sender opcode (payload s.objects.nextHostId)) made t := by
  simp only [createOwnObject] at result
  split at result
  · rename_i written wrote
    cases result
    have complete : s.host.nextWrite = .complete := of_decide_eq_true (congrArg Prod.fst wrote)
    obtain rfl : _ = t := congrArg Prod.snd wrote
    refine .made _ rfl rfl ?_
    rw [Session.write_trace]
    show s.trace ++ [.sent (ownRequest interface sender opcode (payload s.objects.nextHostId) s.host.nextWrite)] = _
    rw [complete]
  · rename_i failed wrote
    cases result
    obtain rfl : _ = failed := congrArg Prod.snd wrote
    exact .failed _ s.host.nextWrite (unallocate_allocated s.objects) rfl rfl

theorem offer_mime_types_own (serial : UInt32) (s : Session) (source : UInt32) (mimeTypes : List String) :
    (offerMimeTypes s source mimeTypes).2.objects = s.objects ∧ (offerMimeTypes s source mimeTypes).2.reclaim = s.reclaim ∧
      Adds (Selects serial) s (offerMimeTypes s source mimeTypes).2 := by
  induction mimeTypes generalizing s with
  | nil => exact ⟨rfl, rfl, .same rfl⟩
  | cons mimeType rest ih =>
      have asks : ∀ outcome, Selects serial (.sent (ownRequest wlDataSource source 0 (putStr [] mimeType) outcome)) :=
        fun _ => ⟨rfl, rfl, by simp [ownRequest], fun other => absurd other (by simp [ownRequest, wlDataSource, wlDataDevice])⟩
      simp only [offerMimeTypes]
      split
      · rename_i written wrote
        obtain rfl : _ = written := congrArg Prod.snd wrote
        obtain ⟨objects, reclaim, adds⟩ := ih (s.writeMessage .host .own wlDataSource (buildMessage source 0 (putStr [] mimeType)) []).2
        exact ⟨objects, reclaim, .trans (.wrote rfl asks) adds⟩
      · rename_i failed wrote
        exact ⟨by rw [← congrArg Prod.snd wrote]; rfl, by rw [← congrArg Prod.snd wrote]; rfl, .wrote wrote asks⟩

-- What a splice comes to: its requests, and perhaps a live source it created.
structure Splices (p : Protocol) (serial : UInt32) (s t : Session) : Prop where
  rations : Rations 3 s t
  pending : t.reclaim.pending = s.reclaim.pending
  requests : ∃ added, t.trace = s.trace ++ added ∧ SpliceRequests serial added ∧
    ∀ id, t.reclaim.activeSourceHostId = some id →
      s.reclaim.activeSourceHostId = some id ∨ ∃ m, .sent m ∈ added ∧ CreatesSource p id m

variable {p : Protocol} {serial : UInt32}

theorem Splices.broken {spent : Nat} {added : List Traffic} (few : spent ≤ 3) (counts : Counts spent s.objects t.objects)
    (reclaim : t.reclaim = s.reclaim) (trace : t.trace = s.trace ++ added) (requests : SpliceRequests serial added) :
    Splices p serial s t where
  rations := .mono (.table reclaim counts) few
  pending := by rw [reclaim]
  requests := ⟨added, trace, requests, fun id kept => .inl (by rw [← reclaim]; exact kept)⟩

theorem source_makes (covered : Covered p) (ddm id : UInt32) :
    CreatesSource p id (ownRequest wlDataDeviceManager ddm 0 (putU32 [] id) .complete) where
  own := ⟨rfl, rfl⟩
  whole := rfl
  manager := rfl
  makes := own_request_makes wlDataDeviceManager ddm 0 _ _ _ _ _ _ _ covered.createDataSource (encoded_new_id id) (word_small _) rfl rfl

theorem claim_selection_splices (covered : Covered p) (s : Session) (registry seat name version serial : UInt32)
    (mimeTypes : List String) : Splices p serial s (claimSelection s registry seat name version serial mimeTypes) := by
  have manager : ∀ sender opcode payload outcome,
      Selects serial (.sent (ownRequest wlDataDeviceManager sender opcode payload outcome)) := fun _ _ _ _ =>
    ⟨rfl, rfl, by simp [ownRequest], fun other => absurd other (by simp [ownRequest, wlDataDeviceManager, wlDataDevice])⟩
  unfold claimSelection
  split
  · rename_i t result
    cases create_own_object_own result with
    | failed _ outcome objects reclaim trace =>
        have counts : Counts 0 s.objects t.objects := by
          rw [objects]
          exact .refl _
        exact .broken (by decide) counts reclaim trace (.bound _ [] ⟨rfl, rfl, rfl⟩ (by simp))
  · rename_i ddm s₁ result₁
    cases create_own_object_own result₁ with
    | made _ objects₁ reclaim₁ trace₁ =>
    have bound : SpliceRequests serial [.sent (ownRequest wlRegistry registry 0
        (bindPayload name "wl_data_device_manager" version s.objects.nextHostId) .complete)] := .bound _ [] ⟨rfl, rfl, rfl⟩ (by simp)
    generalize ownRequest wlRegistry registry 0 _ .complete = bind at trace₁ bound
    have counts₁ : Counts 1 s.objects s₁.objects := by
      rw [objects₁]
      exact .allocated _
    split
    · rename_i t result
      cases create_own_object_own result with
      | failed _ outcome objects reclaim trace =>
          rw [← objects] at counts₁
          refine .broken (by decide) counts₁ (reclaim.trans reclaim₁)
            (by rw [trace, trace₁, List.append_assoc]) (bound.append (by simp) fun entry member => ?_)
          rw [List.mem_singleton.mp member]
          exact manager _ _ _ _
    · rename_i source s₂ result₂
      cases create_own_object_own result₂ with
      | made _ objects₂ reclaim₂ trace₂ =>
      have step₂ : Counts 1 s₁.objects s₂.objects := by
        rw [objects₂]
        exact .allocated _
      obtain ⟨objects₃, reclaim₃, offered, offers, trace₃⟩ := offer_mime_types_own serial s₂ s₁.objects.nextHostId mimeTypes
      have created := source_makes covered s.objects.nextHostId s₁.objects.nextHostId
      generalize ownRequest wlDataDeviceManager s.objects.nextHostId 0 (putU32 [] s₁.objects.nextHostId) .complete = create at trace₂ created
      have whole₃ : (offerMimeTypes s₂ s₁.objects.nextHostId mimeTypes).2.trace = s.trace ++ ([.sent bind] ++ .sent create :: offered) := by
        rw [trace₃, trace₂, trace₁]
        simp
      have first : Selects serial (.sent create) := ⟨created.own.1, created.own.2, by simp [created.manager],
        fun other => absurd (created.manager.symm.trans other) (by decide)⟩
      have asks₃ : ∀ entry ∈ Traffic.sent create :: offered, Selects serial entry := by
        rintro entry (_ | ⟨_, member⟩)
        · exact first
        · exact offers entry member
      have reclaimed := reclaim₃.trans (reclaim₂.trans reclaim₁)
      have counts₃ : Counts 2 s.objects (offerMimeTypes s₂ s₁.objects.nextHostId mimeTypes).2.objects := by
        rw [objects₃]
        exact counts₁.trans step₂
      split
      · rename_i s₃ offering
        rw [offering] at whole₃ reclaimed counts₃
        exact .broken (by decide) counts₃ reclaimed whole₃ (bound.append (by simp) asks₃)
      · rename_i s₃ offering
        rw [offering] at whole₃ reclaimed counts₃ objects₃
        split
        · rename_i t result
          cases create_own_object_own result with
          | failed _ outcome objects reclaim trace =>
              rw [← objects] at counts₃
              refine .broken (by decide) counts₃ (reclaim.trans reclaimed)
                (by rw [trace, whole₃, List.append_assoc]) ((bound.append (by simp) asks₃).append (by simp) fun entry member => ?_)
              rw [List.mem_singleton.mp member]
              exact manager _ _ _ _
        · rename_i device s₄ result₄
          cases create_own_object_own result₄ with
          | made _ objects₄ reclaim₄ trace₄ =>
          have step₄ : Counts 1 s₃.objects s₄.objects := by
            rw [objects₄]
            exact .allocated _
          have counts₄ := counts₃.trans step₄
          have asks₅ : SpliceRequests serial (([.sent bind] ++ .sent create :: offered) ++ [.sent (ownRequest wlDataDeviceManager
              s.objects.nextHostId 1 (putU32 (putU32 [] s₃.objects.nextHostId) seat) .complete), .sent (ownRequest wlDataDevice
              s₃.objects.nextHostId 1 (putU32 (putU32 [] s₁.objects.nextHostId) serial) s₄.host.nextWrite)]) := by
            refine (bound.append (by simp) asks₃).append (by simp) ?_
            rintro entry (_ | ⟨_, _ | ⟨_, ⟨⟩⟩⟩)
            · exact manager _ _ _ _
            · exact ⟨rfl, rfl, by simp [ownRequest], fun _ => built_second_word _ _ _ _⟩
          have whole₅ : (s₄.writeMessage .host .own wlDataDevice
              (buildMessage s₃.objects.nextHostId 1 (putU32 (putU32 [] s₁.objects.nextHostId) serial)) []).2.trace =
                s.trace ++ (([.sent bind] ++ .sent create :: offered) ++ [.sent (ownRequest wlDataDeviceManager
                  s.objects.nextHostId 1 (putU32 (putU32 [] s₃.objects.nextHostId) seat) .complete), .sent (ownRequest wlDataDevice
                  s₃.objects.nextHostId 1 (putU32 (putU32 [] s₁.objects.nextHostId) serial) s₄.host.nextWrite)]) := by
            rw [Session.write_trace, trace₄, whole₃]
            simp [ownRequest, Session.conn]
          split
          · rename_i t selected
            obtain rfl : _ = t := congrArg Prod.snd selected
            exact .broken (by decide) counts₄ (reclaim₄.trans reclaimed) whole₅ asks₅
          · rename_i t selected
            obtain rfl : _ = t := congrArg Prod.snd selected
            refine ⟨fun room spaced => ?_, ?_, _, whole₅, asks₅, fun id kept => ?_⟩
            · obtain ⟨spaced₁, bound₁⟩ := counts₁ _ (by omega) spaced
              obtain ⟨-, bound₄⟩ := counts₄ _ room spaced
              refine ⟨?_, bound₄⟩
              show Spaced (some s₁.objects.nextHostId) s₄.objects
              have claimed := spaced₁.claimed (by omega)
              rw [objects₄, objects₃, objects₂]
              refine claimed.allocated ?_
              show (s₁.objects.nextHostId + 1).toNat + 1 ≤ serverIds
              rw [Spaced.next_to_nat (by omega)]
              omega
            · have pending : s₄.reclaim.pending = s.reclaim.pending := congrArg _ (reclaim₄.trans reclaimed)
              exact pending
            · cases kept
              exact .inr ⟨create, by simp, created⟩

-- What an attempt comes to. There is one for each time the splice is pending.
structure Attempted (p : Protocol) (serial : UInt32) (s t : Session) : Prop where
  was : s.reclaim.pending = true
  splices : Splices p serial { s with reclaim := { s.reclaim with pending := false } } t

theorem attempt_clipboard_splice_splices (covered : Covered p) (ambient : Ambient) (s : Session) (serial : UInt32) :
    Splices p serial { s with reclaim := { s.reclaim with pending := false } } (attemptClipboardSplice ambient s serial) := by
  have spent : Splices p serial { s with reclaim := { s.reclaim with pending := false } }
      { s with reclaim := { s.reclaim with pending := false } } :=
    .broken (by decide) (.refl _) rfl (by simp) .nothing
  simp only [attemptClipboardSplice]
  split
  · exact spent
  · split
    · split
      · exact claim_selection_splices covered _ _ _ _ _ _ _
      · exact spent
    · exact spent

theorem splice_on_input_attempts (covered : Covered p) (ambient : Ambient) (s : Session) (m : Inbound) (payload : Bytes) :
    spliceOnInput ambient s m payload = s ∨
      ∃ serial, m.carriesInputSerial = true ∧ readU32 payload 0 = some serial ∧ Attempted p serial s (spliceOnInput ambient s m payload) := by
  unfold spliceOnInput
  split
  · rename_i due
    obtain ⟨pending, carries⟩ := Bool.and_eq_true_iff.mp due
    split
    · exact .inl rfl
    · rename_i serial read
      exact .inr ⟨serial, carries, read, pending, attempt_clipboard_splice_splices covered ambient s serial⟩
  · exact .inl rfl

end Requests

-- The entries that are no part of a splice.
def Traffic.Unspliced : Traffic → Prop
  | .sent m => m.peer = .host → m.origin = .own → m.interface = wlDisplay
  | .reconnected => False
  | _ => True

theorem tells_unspliced {p : Protocol} (entry : Traffic) (tells : Tells p entry) : entry.Unspliced := by
  cases entry with
  | sent m => exact fun toHost => absurd (tells.1.symm.trans toHost) (by decide)
  | _ => exact tells.elim

theorem served_unspliced (entry : Traffic) (served : entry.Served) : entry.Unspliced := by
  cases entry with
  | served => trivial
  | _ => exact served.elim

-- The input events the splice borrows a serial of, by where they stand in the tables.
def serialEvents : List (String × String) :=
  [("wl_pointer", "enter"), ("wl_pointer", "leave"), ("wl_pointer", "button"), ("wl_keyboard", "enter"),
    ("wl_keyboard", "leave"), ("wl_keyboard", "key"), ("wl_touch", "down")]

def SerialsFirst (p : Protocol) : Prop :=
  ∀ entry ∈ serialEvents, ∀ desc ∈ p.events ⟨entry.1⟩, desc.name = entry.2 → desc.signature.head? = some .uint

section Turns

variable (env : Env) (covered : Covered env.protocol) (ambient : Ambient) (s : Session) (msg : Bytes) (m : Inbound)

omit ambient in
theorem carries_input_serial (carries : m.carriesInputSerial = true) :
    m.direction = .hostToClient ∧ (m.interface.name, m.desc.name) ∈ serialEvents := by
  simp only [Inbound.carriesInputSerial, Bool.or_eq_true, is_event_iff] at carries
  simp only [serialEvents, List.mem_cons, Prod.mk.injEq, List.not_mem_nil, or_false]
  tauto

theorem forward_keeps (created : Option Creation) (out : Bytes) :
    Rations 0 s (forward ambient s m created out).2 ∧ (forward ambient s m created out).2.reclaim = s.reclaim ∧
      Adds Traffic.Unspliced s (forward ambient s m created out).2 := by
  have reclaim : (forward ambient s m created out).2.reclaim = s.reclaim := by
    unfold forward
    dsimp only
    split <;> rfl
  refine ⟨.same (forward_parts ambient s m created out).1 reclaim, reclaim, ?_⟩
  obtain ⟨fds, outcome, trace⟩ := forward_trace ambient s m created out
  split at trace
  · exact ⟨[_], by simp [Traffic.Unspliced], trace⟩
  · exact .same trace

theorem drop_stale_sender_keeps (p : Protocol) (created : Option Creation) :
    (dropStaleSender p s m created).reclaim = s.reclaim ∧ Adds Traffic.Unspliced s (dropStaleSender p s m created) := by
  have reclaim : ∀ t, (rollBackCreation t m created).reclaim = t.reclaim := fun t => by cases created <;> rfl
  refine ⟨(reclaim _).trans (answer_stale_sender_reclaim s m p created), ?_⟩
  have told : Adds Traffic.Unspliced s (answerStaleSender p s m created) :=
    (answer_stale_sender_spec p s m created).1.adds tells_unspliced
  exact told.trans (.same (roll_back_creation_trace _ m created))

-- The id a client's request names its new object by is the next of the counter.
theorem handled_request_keeps (covered : Covered env.protocol) (disposal : Disposal) (next : Session)
    (handled : Handled env ambient .clientToHost s (headerOf msg) msg disposal next) :
    Rations 1 s next ∧ next.reclaim = s.reclaim ∧ Adds Traffic.Unspliced s next := by
  have nothing : Rations 1 s s ∧ s.reclaim = s.reclaim ∧ Adds Traffic.Unspliced s s :=
    ⟨.mono (.same rfl rfl) (Nat.zero_le 1), rfl, .same rfl⟩
  cases handled with
  | intercepted intercepting => simp [intercepts] at intercepting
  | unknown | parseError | untranslatable => exact nothing
  | unresolvableChild m translated dropped resolved translating failed =>
      have rations := introduce_request_rations env s m resolved.way translated
      rw [failed] at rations
      obtain ⟨-, -, rfl | ⟨guest, name, rfl⟩⟩ := introduce_object_error _ _ _ _ _ failed
      · exact nothing
      · exact ⟨rations, rfl, .same rfl⟩
  | untrackedDeleteId m translated rewritten created introduced resolved translating introducing failed =>
      have rations := introduce_request_rations env s m resolved.way translated
      rw [introducing] at rations
      refine ⟨rations, ?_⟩
      obtain ⟨-, -, rfl, -⟩ | ⟨_, _, _, -, -, -, rfl, -⟩ := introduce_object_ok _ _ _ _ _ _ _ introducing <;> exact ⟨rfl, .same rfl⟩
  | passedOn m translated rewritten renamed created introduced forgotten next disposal spared resolved translating introducing
      forgetting passing =>
      have request : m.direction = .clientToHost := resolved.way
      have quiet := request_carries_no_serial m request
      have rations := introduce_request_rations env s m request translated
      rw [introducing] at rations
      have rations := rations.unspent (forget_deleted_rations introduced m _ _ _ forgetting)
      have before : forgotten.reclaim = s.reclaim ∧ forgotten.trace = s.trace := by
        obtain ⟨rfl, -⟩ | ⟨_, _, -, -, -, -, rfl, -⟩ := forget_deleted_some _ _ _ _ _ forgetting <;>
          obtain ⟨-, -, rfl, -⟩ | ⟨_, _, _, -, -, -, rfl, -⟩ := introduce_object_ok _ _ _ _ _ _ _ introducing <;> exact ⟨rfl, rfl⟩
      have input : ∀ payload, observeInput ambient forgotten m payload = { forgotten with grabs := observeGrabs forgotten.grabs m payload } := by
        intro payload
        simp [observeInput, spliceOnInput, quiet]
      have observed : ∀ payload, Rations 0 forgotten (observeFlow (observeRecipes env ambient (observeInput ambient forgotten m payload) m
          renamed) m created) := fun payload => .same (by rw [input]; rfl) (by rw [input]; rfl)
      have same : ∀ payload, (observeFlow (observeRecipes env ambient (observeInput ambient forgotten m payload) m renamed) m
          created).reclaim = s.reclaim := fun payload => by rw [← before.1, input]; rfl
      have quietly : ∀ payload, Adds Traffic.Unspliced s (observeFlow (observeRecipes env ambient
          (observeInput ambient forgotten m payload) m renamed) m created) := fun payload =>
        .same (by rw [← before.2, input]; rfl)
      cases passing with
      | staleGeneration updated is stale =>
          rw [is]
          exact ⟨rations.unspent (observed _), same _, quietly _⟩
      | untranslatedSender noted is failed =>
          obtain ⟨dropped, told⟩ := drop_stale_sender_keeps noted m env.protocol created
          rw [is] at dropped told ⊢
          refine ⟨fun room spaced => ?_, dropped.trans (same _), (quietly _).trans told⟩
          refine (rations.unspent (observed _)).unspent (drop_stale_sender_rations _ m env.protocol created ?_) room spaced
          intro c h made found
          have objects : (observeFlow (observeRecipes env ambient (observeInput ambient forgotten m (renamed.drop headerLen)) m renamed)
              m created).objects = forgotten.objects := by
            rw [input]
            rfl
          rw [objects, request_deletes_nothing env covered s msg m resolved rewritten renamed introduced forgotten forgetting] at found
          obtain ⟨-, rfl, -, -⟩ | ⟨offset, child, version, -, -, rfl, rfl, -⟩ := introduce_object_ok _ _ _ _ _ _ _ introducing
          · cases made
          · cases made
            have shape : createObject s.objects m.direction (wordAt translated (headerLen + offset)) child =
                (⟨wordAt translated (headerLen + offset), s.objects.nextHostId, child⟩,
                  s.objects.allocateHostId.2.map (wordAt translated (headerLen + offset)) s.objects.nextHostId child) := by
              rw [request]
              rfl
            simp only [WlResprox.introduced, shape] at found
            by_cases null : wordAt translated (headerLen + offset) = 0
            · rw [null, ShadowTable.host_id_null] at found
              exact .inl (Option.some.inj found).symm
            · rw [ShadowTable.host_id_map_same _ _ _ _ null] at found
              rw [← Option.some.inj found]
              exact .inr spaced.counter
      | forwarded noted otherSide is fresh found =>
          obtain ⟨free, kept, adds⟩ := forward_keeps ambient noted m created
            (writeSenderId (updateRecipes env ambient (observeInput ambient forgotten m (renamed.drop headerLen)).graph m renamed).2 otherSide)
          rw [is] at free kept adds ⊢
          exact ⟨(rations.unspent (observed _)).unspent free, kept.trans (same _), (quietly _).trans adds⟩

-- What hearing an event comes to: nothing of the splice's but perhaps its end, or an attempt.
inductive Hears (p : Protocol) (serial : UInt32) (s next : Session) : Prop where
  | quietly (rations : Rations 0 s next) (pending : next.reclaim.pending = s.reclaim.pending)
      (source : next.reclaim.activeSourceHostId = s.reclaim.activeSourceHostId ∨ next.reclaim.activeSourceHostId = none)
      (adds : Adds Traffic.Unspliced s next) : Hears p serial s next
  | attempted (was : s.reclaim.pending = true) (spent : next.reclaim.pending = false) (rations : Rations 3 s next)
      (requests more : List Traffic) (grown : next.trace = s.trace ++ (requests ++ more)) (asks : SpliceRequests serial requests)
      (unspliced : ∀ entry ∈ more, entry.Unspliced)
      (source : ∀ id, next.reclaim.activeSourceHostId = some id →
        s.reclaim.activeSourceHostId = some id ∨ ∃ m, .sent m ∈ requests ∧ CreatesSource p id m) : Hears p serial s next

theorem Hears.onward {p : Protocol} {serial : UInt32} {s t next : Session} (hears : Hears p serial s t) (rations : Rations 0 t next)
    (reclaim : next.reclaim = t.reclaim) (adds : Adds Traffic.Unspliced t next) : Hears p serial s next := by
  cases hears with
  | quietly before pending source quiet =>
      exact .quietly (before.unspent rations) (by rw [reclaim]; exact pending) (by rw [reclaim]; exact source) (quiet.trans adds)
  | attempted was spent before requests more grown asks unspliced source =>
      obtain ⟨later, fine, grown'⟩ := adds
      refine .attempted was (by rw [reclaim]; exact spent) (before.unspent rations) requests (more ++ later) ?_ asks ?_
        (by rw [reclaim]; exact source)
      · rw [grown', grown]
        simp
      · intro entry member
        exact (List.mem_append.mp member).elim (unspliced entry) (fine entry)

theorem Hears.after {p : Protocol} {serial : UInt32} {s t next : Session} (hears : Hears p serial t next) (rations : Rations 0 s t)
    (reclaim : t.reclaim = s.reclaim) (trace : t.trace = s.trace) : Hears p serial s next := by
  cases hears with
  | quietly after pending source quiet =>
      rw [reclaim] at pending source
      exact .quietly (rations.trans after) pending source ((Adds.same trace).trans quiet)
  | attempted was spent after requests more grown asks unspliced source =>
      rw [reclaim] at was source
      rw [trace] at grown
      exact .attempted was spent (by simpa using rations.trans after) requests more grown asks unspliced source

theorem handle_synthetic_hears (p : Protocol) (opcode : UInt16) (serial : UInt32) :
    Hears p serial s (handleSyntheticClipboardEvent ambient s msg opcode) := by
  have adds : Adds Traffic.Unspliced s (handleSyntheticClipboardEvent ambient s msg opcode) :=
    (handle_synthetic_served ambient s msg opcode).2.2.2.mono served_unspliced
  revert adds
  unfold handleSyntheticClipboardEvent
  split
  · split
    · exact fun adds => .quietly (.same rfl rfl) rfl (.inl rfl) adds
    · dsimp only
      split
      · exact fun adds => .quietly (.same rfl rfl) rfl (.inl rfl) adds
      · split
        · exact fun adds => .quietly (.same rfl rfl) rfl (.inl rfl) adds
        · split <;> exact fun adds => .quietly (.same rfl rfl) rfl (.inl rfl) adds
  · split
    · exact fun adds => .quietly (fun room spaced => ⟨spaced.dropped, Nat.le_refl _⟩) rfl (.inr rfl) adds
    · exact fun adds => .quietly (.same rfl rfl) rfl (.inl rfl) adds

-- The serial an attempt uses is the first word of the event it rides on.
theorem carried_serial (serials : SerialsFirst env.protocol) (resolved : Resolved env.protocol s.objects .hostToClient (headerOf msg) msg m)
    (renamed : Bytes) (rewrites : Rewrites m.walk msg renamed) (carries : m.carriesInputSerial = true) (serial : UInt32)
    (read : readU32 (renamed.drop headerLen) 0 = some serial) : serial = wordAt msg headerLen := by
  have listed := serials _ (carries_input_serial m carries).2 m.desc (resolved_member env s.objects .hostToClient msg m resolved) rfl
  obtain ⟨rest, signature⟩ : ∃ rest, m.desc.signature = .uint :: rest := by
    cases shape : m.desc.signature with
    | nil => simp [shape] at listed
    | cons first rest =>
        rw [shape] at listed
        obtain rfl := Option.some.inj listed
        exact ⟨rest, rfl⟩
  have walked := resolved.walk
  rw [signature] at walked
  have same := leading_word_agrees m.walk _ _ rest walked rewrites.payload
  unfold readU32 at read
  split at read
  · rw [← Option.some.inj read, same, word_at_drop]
    rfl
  · cases read

theorem handled_event_hears (covered : Covered env.protocol) (serials : SerialsFirst env.protocol) (long : headerLen ≤ msg.length)
    (names : ∀ m, Resolved env.protocol s.objects .hostToClient (headerOf msg) msg m → ∀ newId,
      (decode env.protocol .hostToClient m.interface msg).bind Call.newId = some newId → serverIds ≤ newId.toNat)
    (disposal : Disposal) (next : Session) (handled : Handled env ambient .hostToClient s (headerOf msg) msg disposal next) :
    Hears env.protocol (wordAt msg headerLen) s next := by
  have nothing : Hears env.protocol (wordAt msg headerLen) s s := .quietly (.same rfl rfl) rfl (.inl rfl) (.same rfl)
  have chosen : ∀ m translated, Resolved env.protocol s.objects .hostToClient (headerOf msg) msg m →
      translateObjects s.objects .hostToClient m.walk.objectOffsets msg = some translated → ∀ offset, m.walk.newIdOffset = some offset →
        serverIds ≤ (wordAt translated (headerLen + offset)).toNat := fun m translated resolved translating offset located =>
    names m resolved _ (original_new_id env s .hostToClient msg m resolved long translated offset located translating)
  cases handled with
  | intercepted intercepting => exact handle_synthetic_hears ambient s msg _ _ _
  | unknown | parseError | untranslatable => exact nothing
  | unresolvableChild m translated dropped resolved translating failed =>
      have rations := introduce_event_rations env s m resolved.way translated (chosen m translated resolved translating)
      rw [failed] at rations
      obtain ⟨-, -, rfl | ⟨guest, name, rfl⟩⟩ := introduce_object_error _ _ _ _ _ failed
      · exact nothing
      · exact .quietly rations rfl (.inl rfl) (.same rfl)
  | untrackedDeleteId m translated rewritten created introduced resolved translating introducing failed =>
      have rations := introduce_event_rations env s m resolved.way translated (chosen m translated resolved translating)
      rw [introducing] at rations
      obtain ⟨-, -, rfl, -⟩ | ⟨_, _, _, -, -, -, rfl, -⟩ := introduce_object_ok _ _ _ _ _ _ _ introducing <;>
        exact .quietly rations rfl (.inl rfl) (.same rfl)
  | passedOn m translated rewritten renamed created introduced forgotten next disposal spared resolved translating introducing
      forgetting passing =>
      have event : m.direction = .hostToClient := resolved.way
      have rations := introduce_event_rations env s m event translated (chosen m translated resolved translating)
      rw [introducing] at rations
      have rations := rations.unspent (forget_deleted_rations introduced m _ _ _ forgetting)
      have before : forgotten.reclaim = s.reclaim ∧ forgotten.trace = s.trace := by
        obtain ⟨rfl, -⟩ | ⟨_, _, -, -, -, -, rfl, -⟩ := forget_deleted_some _ _ _ _ _ forgetting <;>
          obtain ⟨-, -, rfl, -⟩ | ⟨_, _, _, -, -, -, rfl, -⟩ := introduce_object_ok _ _ _ _ _ _ _ introducing <;> exact ⟨rfl, rfl⟩
      have input : Hears env.protocol (wordAt msg headerLen) forgotten (observeInput ambient forgotten m (renamed.drop headerLen)) := by
        unfold observeInput
        obtain same | ⟨serial, carries, read, was, splices⟩ := splice_on_input_attempts covered ambient
          { forgotten with grabs := observeGrabs forgotten.grabs m (renamed.drop headerLen) } m (renamed.drop headerLen)
        · rw [same]
          exact .quietly (.same rfl rfl) rfl (.inl rfl) (.same rfl)
        · have keeps := (serial_event_quiet env covered s msg m resolved carries).2
          have rewrites := renamed_rewrites env s msg long m resolved translated rewritten renamed created introduced forgotten
            translating introducing forgetting fun deletes => keeps deletes.1
          have taken := carried_serial env s msg m serials resolved renamed rewrites carries serial read
          obtain ⟨requests, grown, asks, source⟩ := splices.requests
          refine .attempted was splices.pending ?_ requests [] (by simpa using grown) (by rw [← taken]; exact asks) nofun source
          exact splices.rations
      have observed := input.after rations before.1 before.2
      cases passing with
      | staleGeneration updated is stale =>
          rw [is]
          exact observed.onward (.same rfl rfl) rfl (.same rfl)
      | untranslatedSender noted is failed => simp [otherSideSenderId, event] at failed
      | forwarded noted otherSide is fresh found =>
          have noting : Hears env.protocol (wordAt msg headerLen) s noted := by
            rw [is]
            exact observed.onward (.same rfl rfl) rfl (.same rfl)
          obtain ⟨free, kept, adds⟩ := forward_keeps ambient noted m created
            (writeSenderId (updateRecipes env ambient (observeInput ambient forgotten m (renamed.drop headerLen)).graph m renamed).2 otherSide)
          exact noting.onward free kept adds

end Turns

end WlResprox
