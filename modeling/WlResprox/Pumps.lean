import WlResprox.Connection

set_option autoImplicit false

namespace WlResprox

def maxCachedBytes : Nat := 5 * 1024 * 1024

def chunkBytes : Nat := 16 * 1024

-- What a read that returned bytes left in the pump's buffer.
structure Chunk where
  bytes : Bytes
  filled : bytes ≠ []
  fits : bytes.length ≤ chunkBytes

-- One round of the pump: a read, and for a chunk the write_all that follows it.
inductive Arrival where
  | chunk (chunk : Chunk) (write : WriteOutcome)
  | eof
  | readError

structure Pump where
  mimeType : String
  toHost : Bytes
  collected : Option Bytes
  returned : Bool

namespace Pump

def start (mimeType : String) : Pump := ⟨mimeType, [], some [], false⟩

def collect (collected : Option Bytes) (bytes : Bytes) : Option Bytes :=
  match collected with
  | none => none
  | some soFar => if soFar.length + bytes.length > maxCachedBytes then none else some (soFar ++ bytes)

def turn (pump : Pump) (cache : ClipboardCache) : Arrival → Pump × ClipboardCache
  | .chunk chunk .complete =>
      ({ pump with toHost := pump.toHost ++ chunk.bytes, collected := collect pump.collected chunk.bytes }, cache)
  | .chunk chunk (.failed accepted) =>
      ({ pump with toHost := pump.toHost ++ chunk.bytes.take accepted, returned := true }, cache)
  | .readError => ({ pump with returned := true }, cache)
  | .eof =>
      ({ pump with returned := true },
        match pump.collected with
        | none => cache
        | some bytes => if bytes.isEmpty then cache else cache.store pump.mimeType bytes)

end Pump

-- The pump shares the cache with other tasks, which may change it between two
-- of its rounds.
inductive Sharing where
  | round (chunk : Chunk)
  | others (change : ClipboardCache → ClipboardCache)

inductive Ending where
  | eof
  | readError
  | writeError (chunk : Chunk) (accepted : Nat)

def Ending.arrival : Ending → Arrival
  | .eof => .eof
  | .readError => .readError
  | .writeError chunk accepted => .chunk chunk (.failed accepted)

-- What the real fd takes of a chunk whose write fails.
def Ending.accepted : Ending → Bytes
  | .eof | .readError => []
  | .writeError chunk accepted => chunk.bytes.take accepted

def share (task : Pump × ClipboardCache) : Sharing → Pump × ClipboardCache
  | .round chunk => task.1.turn task.2 (.chunk chunk .complete)
  | .others change => (task.1, change task.2)

def shared (mimeType : String) (cache : ClipboardCache) (rounds : List Sharing) : Pump × ClipboardCache :=
  rounds.foldl share (Pump.start mimeType, cache)

def content (rounds : List Sharing) : Bytes :=
  rounds.flatMap fun
    | .round chunk => chunk.bytes
    | .others _ => []

def othersAlone (cache : ClipboardCache) (rounds : List Sharing) : ClipboardCache :=
  rounds.foldl (fun cache entry => match entry with | .round _ => cache | .others change => change cache) cache

-- What the accumulator holds when these bytes have come: all of them, or
-- nothing any more.
def collects (bytes : Bytes) : Option Bytes := if bytes.length ≤ maxCachedBytes then some bytes else none

theorem collect_collects (before bytes : Bytes) : Pump.collect (collects before) bytes = collects (before ++ bytes) := by
  unfold collects Pump.collect
  by_cases within : before.length ≤ maxCachedBytes
  · simp only [if_pos within, List.length_append]
    split
    · rw [if_neg (by omega)]
    · rw [if_pos (by omega)]
  · simp only [if_neg within, List.length_append]
    rw [if_neg (by omega)]

theorem collects_start : some [] = collects [] := by simp [collects]

structure Pumped (mimeType : String) (cache : ClipboardCache) (rounds : List Sharing) (reached : Pump × ClipboardCache) : Prop where
  mime : reached.1.mimeType = mimeType
  forwarded : reached.1.toHost = content rounds
  collected : reached.1.collected = collects (content rounds)
  untouched : reached.2 = othersAlone cache rounds

theorem share_pumped (mimeType : String) (cache : ClipboardCache) (rounds : List Sharing) (reached : Pump × ClipboardCache)
    (pumped : Pumped mimeType cache rounds reached) (entry : Sharing) :
    Pumped mimeType cache (rounds ++ [entry]) (share reached entry) := by
  cases entry with
  | round chunk =>
      have grown : content (rounds ++ [.round chunk]) = content rounds ++ chunk.bytes := by simp [content]
      refine ⟨pumped.mime, ?_, ?_, ?_⟩
      · show reached.1.toHost ++ chunk.bytes = _
        rw [grown, pumped.forwarded]
      · show Pump.collect reached.1.collected chunk.bytes = _
        rw [grown, pumped.collected, collect_collects]
      · show reached.2 = _
        rw [pumped.untouched]
        simp [othersAlone]
  | others change =>
      have same : content (rounds ++ [.others change]) = content rounds := by simp [content]
      refine ⟨pumped.mime, by rw [same]; exact pumped.forwarded, by rw [same]; exact pumped.collected, ?_⟩
      show change reached.2 = _
      rw [pumped.untouched]
      simp [othersAlone]

theorem shared_pumped (mimeType : String) (cache : ClipboardCache) (rounds : List Sharing) :
    Pumped mimeType cache rounds (shared mimeType cache rounds) := by
  induction rounds using List.reverseRecOn with
  | nil => exact ⟨rfl, rfl, collects_start, rfl⟩
  | append_singleton rounds entry ih =>
      have step : shared mimeType cache (rounds ++ [entry]) = share (shared mimeType cache rounds) entry := by simp [shared]
      rw [step]
      exact share_pumped mimeType cache rounds _ ih entry

theorem get_store (cache : ClipboardCache) (mimeType query : String) (bytes : Bytes) :
    (cache.store mimeType bytes).get query = if query = mimeType then some bytes else cache.get query := by
  unfold ClipboardCache.get ClipboardCache.store
  split
  · rename_i same
    rw [same, AList.lookup_insert]
  · rename_i other
    rw [AList.lookup_insert_ne other]

-- At the end of the stream the accumulator is handed over whole.
theorem turn_eof (pump : Pump) (cache : ClipboardCache) (bytes : Bytes) (collected : pump.collected = collects bytes) :
    (pump.turn cache .eof).2 =
      if 1 ≤ bytes.length ∧ bytes.length ≤ maxCachedBytes then cache.store pump.mimeType bytes else cache := by
  simp only [Pump.turn, collected, collects]
  by_cases fits : bytes.length ≤ maxCachedBytes
  · simp only [and_true, fits]
    cases bytes with
    | nil => rfl
    | cons byte rest => simp
  · simp [fits]

-- What a connection sees of the pump's last round is its cached event.
theorem turn_eof_cached (env : Env) (st : State) (pump : Pump) (bytes : Bytes) (held : pump.collected = some bytes)
    (filled : bytes ≠ []) :
    step env st (.cached pump.mimeType bytes) =
      some { st with session := { st.session with clipboardCache := (pump.turn st.session.clipboardCache .eof).2 } } := by
  simp [step, Pump.turn, held, filled]

structure Transparent (mimeType : String) (cache : ClipboardCache) (rounds : List Sharing) : Prop where
  forwarded : (shared mimeType cache rounds).1.toHost = content rounds
  capped : ∀ bytes, (shared mimeType cache rounds).1.collected = some bytes → bytes.length ≤ maxCachedBytes
  untouched : (shared mimeType cache rounds).2 = othersAlone cache rounds
  ended : ∀ ending : Ending,
    let task := shared mimeType cache rounds
    let last := task.1.turn task.2 ending.arrival
    last.1.returned = true ∧ last.1.toHost = content rounds ++ ending.accepted ∧
      (ending = .eof ∧ 1 ≤ (content rounds).length ∧ (content rounds).length ≤ maxCachedBytes →
        last.2 = task.2.store mimeType (content rounds) ∧ last.2.get mimeType = some (content rounds)) ∧
      (¬ (ending = .eof ∧ 1 ≤ (content rounds).length ∧ (content rounds).length ≤ maxCachedBytes) → last.2 = task.2)

theorem clipboard_tee_transparent (mimeType : String) (cache : ClipboardCache) (rounds : List Sharing) :
    Transparent mimeType cache rounds := by
  have pumped := shared_pumped mimeType cache rounds
  refine ⟨pumped.forwarded, fun bytes held => ?_, pumped.untouched, fun ending => ?_⟩
  · rw [pumped.collected, collects] at held
    split at held
    · cases held
      assumption
    · cases held
  · cases ending with
    | eof =>
        have handed := turn_eof _ (shared mimeType cache rounds).2 _ pumped.collected
        rw [pumped.mime] at handed
        refine ⟨rfl, ?_, fun ⟨_, whole⟩ => ?_, fun unfit => ?_⟩
        · show (shared mimeType cache rounds).1.toHost = _
          simp [pumped.forwarded, Ending.accepted]
        · rw [if_pos whole] at handed
          refine ⟨handed, ?_⟩
          show ((shared mimeType cache rounds).1.turn _ .eof).2.get mimeType = _
          rw [handed, get_store, if_pos rfl]
        · rw [if_neg (fun whole => unfit ⟨rfl, whole⟩)] at handed
          exact handed
    | readError =>
        refine ⟨rfl, ?_, fun both => (nomatch both.1), fun _ => rfl⟩
        show (shared mimeType cache rounds).1.toHost = _
        simp [pumped.forwarded, Ending.accepted]
    | writeError chunk accepted =>
        refine ⟨rfl, ?_, fun both => (nomatch both.1), fun _ => rfl⟩
        show (shared mimeType cache rounds).1.toHost ++ chunk.bytes.take accepted = _
        rw [pumped.forwarded]
        rfl

end WlResprox
