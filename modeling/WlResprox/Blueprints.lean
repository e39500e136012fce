import WlResprox.Rebuilding
import WlResprox.Translations

set_option autoImplicit false

namespace WlResprox

-- A recovery on paper: what a new compositor is asked for and what the client's
-- objects are called there, worked out from the recipes alone, with no sockets,
-- no waits and no past connections.
structure Blueprint where
  objects : UInt32 → Option (UInt32 × Interface)
  next : UInt32
  requests : List (UInt32 × HostRequest)

-- The request of that name, if the interface has it and it takes such values.
def composed (p : Protocol) (hostId : UInt32) (interface : Interface) (request : String) (values : List WaylandValue) :
    Option HostRequest :=
  match requestOpcode p interface request with
  | none => none
  | some opcode =>
  match (p.requests interface)[opcode.toNat]? with
  | none => none
  | some desc =>
  match encodeArguments desc.signature values with
  | .error _ => none
  | .ok (payload, fds) => some ⟨interface, buildMessage hostId opcode payload, fds⟩

-- The commit that asks for a first configure.
def initialCommit (p : Protocol) (graph : RecreationGraph) (objects : UInt32 → Option (UInt32 × Interface))
    (xdgSurfaceGuestId : UInt32) : Option HostRequest :=
  match graph.recipeFor xdgSurfaceGuestId with
  | some (.xdgSurface _ surfaceGuestId) =>
      match objects surfaceGuestId with
      | some (surfaceHostId, surface) =>
          (requestOpcode p surface "commit").map fun opcode => ⟨surface, buildMessage surfaceHostId opcode [], []⟩
      | none => none
  | _ => none

-- What most recipes come down to: a parent, the other object that the request
-- names (0 where it names none), and the request with its values.
structure Errand where
  parent : UInt32
  other : UInt32
  request : String
  values : UInt32 → UInt32 → List WaylandValue

def Recreatable.errand : Recreatable → Option Errand
  | .global _ _ | .dmabufBuffer _ _ _ _ _ _ => none
  | .surface parent => some ⟨parent, 0, "create_surface", fun id _ => [.newId id]⟩
  | .xdgSurface parent wlSurface => some ⟨parent, wlSurface, "get_xdg_surface", fun id other => [.newId id, .object other]⟩
  | .xdgToplevel parent _ _ => some ⟨parent, 0, "get_toplevel", fun id _ => [.newId id]⟩
  | .shmPool wlShm fd size => some ⟨wlShm, 0, "create_pool", fun id _ => [.newId id, .fd fd, .int size]⟩
  | .shmBuffer pool offset width height stride format => some ⟨pool, 0, "create_buffer", fun id _ =>
      [.newId id, .int offset, .int width, .int height, .int stride, .uint format]⟩
  | .seatDevice seat kind => some ⟨seat, 0, kind.requestName, fun id _ => [.newId id]⟩
  | .viewport viewporter wlSurface _ => some ⟨viewporter, wlSurface, "get_viewport", fun id other => [.newId id, .object other]⟩
  | .fractionalScale manager wlSurface => some ⟨manager, wlSurface, "get_fractional_scale", fun id other =>
      [.newId id, .object other]⟩

namespace Blueprint

-- The display is 1, and the registry and a sync callback are asked for first.
def opening (registryGuestId : UInt32) : Blueprint where
  objects g := if g = registryGuestId then some (2, wlRegistry) else if g = 1 then some (1, wlDisplay) else none
  next := 4
  requests := [(registryGuestId, ⟨wlDisplay, buildMessage 1 1 (putU32 [] 2), []⟩)]

def hostId (b : Blueprint) (guestId : UInt32) : Option UInt32 :=
  if guestId = 0 then some 0 else (b.objects guestId).map Prod.fst

def ask (b : Blueprint) (guestId : UInt32) (request : Option HostRequest) : Blueprint :=
  { b with requests := b.requests ++ (request.map fun r => (guestId, r)).toList }

def spend (b : Blueprint) : Blueprint := { b with next := b.next + 1 }

def place (b : Blueprint) (guestId hostId : UInt32) (interface : Interface) : Blueprint :=
  { b with objects := fun g =>
      if g = guestId then some (hostId, interface) else (b.objects g).filter fun object => object.1 ≠ hostId }

section Recipes

variable (p : Protocol) (globals : Globals) (graph : RecreationGraph)

def bind (b : Blueprint) (guestId : UInt32) (interface : Interface) (version : UInt32) : Blueprint :=
  match if interface.name ∈ recreatableGlobals then globals.lookup interface.name else none with
  | none => b
  | some (name, freshMaxVersion) =>
      ((b.ask guestId (some ⟨wlRegistry, buildMessage 2 0 (bindPayload name interface.name (min version freshMaxVersion) b.next), []⟩)
        ).place guestId b.next interface).spend

-- A child takes the next id, where its parent is there and can be asked.
def bear (b : Blueprint) (guestId : UInt32) (errand : Errand) (child : Interface) : Option Blueprint :=
  match b.objects errand.parent, b.hostId errand.other with
  | some (parentHostId, parent), some otherHostId =>
      match composed p parentHostId parent errand.request (errand.values b.next otherHostId) with
      | none => none
      | some request => some ((b.ask guestId (some request)).place guestId b.next child).spend
  | _, _ => none

def tell (b : Blueprint) (guestId hostId : UInt32) (interface : Interface) (request : String) : Option String → Blueprint
  | none => b
  | some text => b.ask guestId (composed p hostId interface request [.string text])

-- What a child is told once it is there.
def furnish (b : Blueprint) (guestId hostId : UInt32) : Recreatable → Blueprint
  | .viewport _ _ (some (width, height)) =>
      b.ask guestId (composed p hostId ⟨"wp_viewport"⟩ "set_destination" [.int width, .int height])
  | .xdgToplevel parent title appId =>
      let told := (b.tell p guestId hostId ⟨"xdg_toplevel"⟩ "set_title" title).tell p guestId hostId ⟨"xdg_toplevel"⟩ "set_app_id" appId
      told.ask guestId (initialCommit p graph told.objects parent)
  | _ => b

def fill (b : Blueprint) (guestId paramsHostId : UInt32) (planes : List DmabufPlane) : Blueprint :=
  planes.foldl (fun b plane => b.ask guestId (composed p paramsHostId bufferParams "add" (planeValues plane))) b

def immediate (b : Blueprint) (guestId paramsHostId : UInt32) (width height : Int32) (format flags : UInt32) : Blueprint :=
  match composed p paramsHostId bufferParams "create_immed"
      [.newId b.next, .int width, .int height, .uint format, .uint flags] with
  | none => b
  | some request => ((b.ask guestId (some request)).place guestId b.next ⟨"wl_buffer"⟩).spend

-- The params object takes an id of its own and is placed nowhere.
def buffer (b : Blueprint) (guestId dmabufGuestId : UInt32) (width height : Int32) (format flags : UInt32)
    (planes : List DmabufPlane) : Blueprint :=
  match b.objects dmabufGuestId with
  | none => b
  | some (dmabufHostId, dmabuf) =>
      match composed p dmabufHostId dmabuf "create_params" [.newId b.next] with
      | none => b
      | some params =>
          let asked := (b.ask guestId (some params)).spend
          if requestOpcode p bufferParams "add" = none then asked
          else (asked.fill p guestId b.next planes).immediate p guestId b.next width height format flags

def add (b : Blueprint) (entry : UInt32 × Recreatable) : Blueprint :=
  match entry.2, entry.2.errand with
  | .global interface version, _ => b.bind globals entry.1 interface version
  | .dmabufBuffer dmabuf width height format flags planes, _ => b.buffer p entry.1 dmabuf width height format flags planes
  | recipe, some errand =>
      (b.bear p entry.1 errand recipe.interface).elim b fun born => born.furnish p graph entry.1 b.next recipe
  | _, none => b

def drawn (registryGuestId : UInt32) (done : List (UInt32 × Recreatable)) : Blueprint :=
  done.foldl (add p globals graph) (opening registryGuestId)

end Recipes

end Blueprint

deriving instance DecidableEq for HostRequest

-- What was written to the host for a recipe, under the guest id it was for.
def Traffic.replay : Traffic → Option (UInt32 × HostRequest)
  | .sent m =>
      match m.origin with
      | .replayed guestId => some (guestId, ⟨m.interface, m.msg, m.fds⟩)
      | _ => none
  | _ => none

def replayLog (history : List Traffic) : List (UInt32 × HostRequest) := history.filterMap Traffic.replay

-- A host's object for a guest id, as the table has it.
def ShadowTable.resolved (t : ShadowTable) (guestId : UInt32) : Option (UInt32 × Interface) :=
  match t.hostId guestId, t.interface guestId with
  | some hostId, some interface => some (hostId, interface)
  | _, _ => none

-- A session stands where the blueprint says.
structure OnPaper (s : Session) (b : Blueprint) : Prop where
  next : s.objects.nextHostId = b.next
  objects : ∀ g, s.objects.resolved g = b.objects g
  requests : replayLog (connection s.trace) = b.requests


section Resolving

variable (t : ShadowTable)

theorem resolved_host (null : t.interface 0 = none) (g h : UInt32) (i : Interface) :
    t.resolved g = some (h, i) ↔ g ≠ 0 ∧ t.hostId g = some h ∧ t.interface g = some i := by
  unfold ShadowTable.resolved
  constructor
  · intro found
    split at found
    · rename_i hostId interface held known
      cases found
      refine ⟨?_, held, known⟩
      rintro rfl
      rw [null] at known
      cases known
    · cases found
  · rintro ⟨-, held, known⟩
    rw [held, known]

theorem resolved_host_id (g : UInt32) (nonzero : g ≠ 0) : t.hostId g = (t.resolved g).map Prod.fst := by
  unfold ShadowTable.resolved
  cases held : t.hostId g with
  | none => rfl
  | some h =>
      obtain ⟨i, known⟩ := t.host_id_interface g h nonzero held
      rw [known]
      rfl

theorem resolved_map (null : t.interface 0 = none) (g h : UInt32) (i : Interface) (nonzero : g ≠ 0) (a : UInt32) :
    (t.map g h i).resolved a = if a = g then some (h, i) else (t.resolved a).filter fun object => object.1 ≠ h := by
  have kept : (t.map g h i).interface 0 = none := by rw [t.interface_map, if_neg (Ne.symm nonzero), null]
  ext ⟨b, j⟩
  rw [resolved_host _ kept, t.interface_map]
  split
  · rename_i same
    subst same
    simp [t.host_id_map_same a h i nonzero, nonzero]
  · rename_i other
    rw [Option.filter_eq_some_iff, resolved_host t null]
    constructor
    · rintro ⟨named, held, known⟩
      rcases (t.host_id_map g h a b i named).mp held with ⟨same, -⟩ | ⟨-, apart, was⟩
      · exact absurd same other
      · exact ⟨⟨named, was, known⟩, by simpa using apart⟩
    · rintro ⟨⟨named, was, known⟩, apart⟩
      exact ⟨named, (t.host_id_map g h a b i named).mpr (.inr ⟨other, by simpa using apart, was⟩), known⟩

theorem resolved_bump (null : t.interface 0 = none) (a : UInt32) :
    t.bumpGeneration.resolved a = if a = 1 then some (1, wlDisplay) else none := by
  have listed : ∀ b, t.bumpGeneration.interface b = if b = 1 then some wlDisplay else t.interface b :=
    fun b => HashMap.lookup_insert _ _ _ _
  have kept : t.bumpGeneration.interface 0 = none := (fresh_bump t null).null
  ext ⟨b, j⟩
  rw [resolved_host _ kept, listed]
  constructor
  · rintro ⟨named, held, known⟩
    obtain ⟨rfl, rfl⟩ := (t.host_id_bump a b named).mp held
    simpa using known
  · intro found
    split at found
    · rename_i display
      cases found
      subst display
      exact ⟨by decide, (t.host_id_bump 1 1 (by decide)).mpr ⟨rfl, rfl⟩, by simp⟩
    · cases found

end Resolving

section Writing

variable {guestId : UInt32} {s t : Session} {requests : List HostRequest} {finished : Bool} {added : List Traffic}

theorem InTurn.sends (turn : InTurn guestId requests finished added) : ∀ entry ∈ added, entry ≠ .reconnected := by
  induction turn with
  | done => simp
  | failed => simp [HostRequest.sent]
  | wrote r rest finished added _ ih =>
      intro entry member
      rcases List.mem_cons.mp member with rfl | later
      · simp [HostRequest.sent]
      · exact ih entry later

theorem InTurn.succeeded (turn : InTurn guestId requests finished added) (succeed : HostWritesSucceed added) :
    finished = true ∧ replayLog added = requests.map fun r => (guestId, r) := by
  induction turn with
  | done => exact ⟨rfl, rfl⟩
  | failed r rest outcome fails => exact absurd (succeed _ List.mem_cons_self rfl) fails
  | wrote r rest finished added _ ih =>
      obtain ⟨done, log⟩ := ih fun m member => succeed m (List.mem_cons_of_mem _ member)
      exact ⟨done, congrArg (List.cons (guestId, r)) log⟩

theorem replay_log_append (history added : List Traffic) : replayLog (history ++ added) = replayLog history ++ replayLog added :=
  List.filterMap_append

theorem Wrote.succeeded (wrote : Wrote guestId s t requests finished) (succeed : HostWritesSucceed (connection t.trace)) :
    finished = true ∧ HostWritesSucceed (connection s.trace) ∧
      replayLog (connection t.trace) = replayLog (connection s.trace) ++ requests.map fun r => (guestId, r) := by
  obtain ⟨added, grown, turn⟩ := wrote
  rw [grown, connection_append _ _ turn.sends] at succeed ⊢
  obtain ⟨done, log⟩ := turn.succeeded fun m member => succeed m (List.mem_append_right _ member)
  exact ⟨done, fun m member => succeed m (List.mem_append_left _ member), by rw [replay_log_append, log]⟩

end Writing

-- One stretch of the replay: what it does to a session, it does on paper, as
-- far as the writes succeed.
structure Draws (s t : Session) (b b' : Blueprint) : Prop where
  before : HostWritesSucceed (connection t.trace) → HostWritesSucceed (connection s.trace)
  paper : HostWritesSucceed (connection t.trace) → OnPaper s b → OnPaper t b'

namespace Draws

variable {s t u : Session} {b b' b'' : Blueprint}

theorem refl (s : Session) (b : Blueprint) : Draws s s b b := ⟨id, fun _ => id⟩

theorem trans (first : Draws s t b b') (second : Draws t u b' b'') : Draws s u b b'' where
  before succeed := first.before (second.before succeed)
  paper succeed onPaper := second.paper succeed (first.paper (second.before succeed) onPaper)

-- A write that fails leaves nothing to compare.
theorem of_failed {guestId : UInt32} {requests : List HostRequest} (wrote : Wrote guestId s t requests false) (b b' : Blueprint) :
    Draws s t b b' where
  before succeed := (wrote.succeeded succeed).2.1
  paper succeed := absurd (wrote.succeeded succeed).1 (by simp)

-- At most one request is written, and it is the one on paper.
theorem of_request {guestId : UInt32} {request : Option HostRequest} {result : Bool × Session}
    (is : (request = none ∧ result = (false, s)) ∨
      ∃ r : HostRequest, request = some r ∧ result = s.writeMessage .host (.replayed guestId) r.interface r.msg r.fds)
    (b : Blueprint) : Draws s result.2 b (b.ask guestId request) := by
  rcases is with ⟨rfl, rfl⟩ | ⟨r, rfl, is⟩
  · refine ⟨id, fun _ onPaper => ⟨onPaper.next, onPaper.objects, ?_⟩⟩
    rw [onPaper.requests]
    simp [Blueprint.ask]
  · have wrote := wrote_one r result is.symm
    subst is
    refine ⟨fun succeed => (wrote.succeeded succeed).2.1, fun succeed onPaper => ⟨onPaper.next, onPaper.objects, ?_⟩⟩
    rw [(wrote.succeeded succeed).2.2, onPaper.requests]
    rfl

end Draws

section Requests

variable {p : Protocol} (s : Session) (guestId hostId : UInt32) (interface : Interface)

theorem replay_request_composed (request : String) (values : List WaylandValue) :
    (composed p hostId interface request values = none ∧ replayRequest p s guestId hostId interface request values = (false, s)) ∨
      ∃ r : HostRequest, composed p hostId interface request values = some r ∧
        replayRequest p s guestId hostId interface request values =
          s.writeMessage .host (.replayed guestId) r.interface r.msg r.fds := by
  cases found : requestOpcode p interface request with
  | none => exact .inl ⟨by simp only [composed, found], by simp only [replayRequest, found]⟩
  | some opcode =>
      cases listed : (p.requests interface)[opcode.toNat]? with
      | none => exact .inl ⟨by simp only [composed, found, listed], by simp only [replayRequest, found, listed]⟩
      | some desc =>
          cases encoded : encodeArguments desc.signature values with
          | error e => exact .inl ⟨by simp only [composed, found, listed, encoded], by simp only [replayRequest, found, listed, encoded]⟩
          | ok result =>
              refine .inr ⟨⟨interface, buildMessage hostId opcode result.1, result.2⟩, ?_, ?_⟩
              · simp only [composed, found, listed, encoded]
              · simp only [replayRequest, found, listed, encoded]

theorem replay_request_draws (request : String) (values : List WaylandValue) (b : Blueprint) :
    Draws s (replayRequest p s guestId hostId interface request values).2 b
      (b.ask guestId (composed p hostId interface request values)) :=
  .of_request (replay_request_composed s guestId hostId interface request values) b

theorem replay_string_draws (request : String) (text : Option String) (b : Blueprint) :
    Draws s (replayString p s guestId hostId interface request text) b (b.tell p guestId hostId interface request text) := by
  cases text with
  | none => exact .refl s b
  | some text => exact replay_request_draws s guestId hostId interface request _ b

theorem send_initial_commit_composed (xdgSurface : UInt32) :
    (initialCommit p s.graph s.objects.resolved xdgSurface = none ∧ sendInitialCommit p s guestId xdgSurface = (false, s)) ∨
      ∃ r : HostRequest, initialCommit p s.graph s.objects.resolved xdgSurface = some r ∧
        sendInitialCommit p s guestId xdgSurface = s.writeMessage .host (.replayed guestId) r.interface r.msg r.fds := by
  cases recipe : s.graph.recipeFor xdgSurface with
  | none => exact .inl ⟨by simp only [initialCommit, recipe], by simp only [sendInitialCommit, recipe]⟩
  | some recorded =>
      cases recorded with
      | xdgSurface parent surface =>
          cases held : s.objects.hostId surface with
          | none =>
              refine .inl ⟨?_, by simp only [sendInitialCommit, recipe, held]⟩
              simp only [initialCommit, recipe, ShadowTable.resolved, held]
          | some surfaceHostId =>
              cases known : s.objects.interface surface with
              | none =>
                  refine .inl ⟨?_, by simp only [sendInitialCommit, recipe, held, known]⟩
                  simp only [initialCommit, recipe, ShadowTable.resolved, held, known]
              | some wlSurface =>
                  cases found : requestOpcode p wlSurface "commit" with
                  | none =>
                      refine .inl ⟨?_, by simp only [sendInitialCommit, recipe, held, known, found]⟩
                      simp only [initialCommit, recipe, ShadowTable.resolved, held, known, found, Option.map_none]
                  | some opcode =>
                      refine .inr ⟨⟨wlSurface, buildMessage surfaceHostId opcode [], []⟩, ?_, ?_⟩
                      · simp only [initialCommit, recipe, ShadowTable.resolved, held, known, found, Option.map_some]
                      · simp only [sendInitialCommit, recipe, held, known, found]
      | _ => exact .inl ⟨by simp only [initialCommit, recipe], by simp only [sendInitialCommit, recipe]⟩

theorem send_initial_commit_draws (xdgSurface : UInt32) (b : Blueprint) :
    Draws s (sendInitialCommit p s guestId xdgSurface).2 b (b.ask guestId (initialCommit p s.graph b.objects xdgSurface)) := by
  have draws := Draws.of_request (@send_initial_commit_composed p s guestId xdgSurface) b
  refine ⟨draws.before, fun succeed onPaper => ?_⟩
  rw [← funext onPaper.objects]
  exact draws.paper succeed onPaper

end Requests


section Children

variable {p : Protocol} {s : Session} {guestId : UInt32} {b : Blueprint} (covered : Covered p)

theorem on_paper_host (onPaper : OnPaper s b) (g : UInt32) : s.objects.hostId g = b.hostId g := by
  unfold Blueprint.hostId
  split
  · rename_i zero
    rw [zero]
    rfl
  · rename_i nonzero
    rw [← onPaper.objects, resolved_host_id _ g nonzero]

-- A child that is mapped as soon as it is asked for.
theorem on_paper_placed {t : Session} {r : HostRequest} (onPaper : OnPaper s b) (null : s.objects.interface 0 = none)
    (nonzero : guestId ≠ 0) (wrote : Wrote guestId s t [r] true) (objects : t.objects = s.objects.allocateHostId.2)
    (succeed : HostWritesSucceed (connection t.trace)) (child : Interface) :
    OnPaper { t with objects := t.objects.map guestId s.objects.nextHostId child }
      ((b.ask guestId (some r)).place guestId b.next child).spend where
  next := by
    show t.objects.nextHostId = b.next + 1
    rw [objects, ← onPaper.next]
    rfl
  objects g := by
    show (t.objects.map guestId s.objects.nextHostId child).resolved g = _
    rw [objects, resolved_map s.objects.allocateHostId.2 null guestId _ child nonzero, onPaper.next]
    show (if g = guestId then _ else (s.objects.resolved g).filter _) = _
    rw [onPaper.objects]
    rfl
  requests := by
    show replayLog (connection t.trace) = _
    rw [(wrote.succeeded succeed).2.2, onPaper.requests]
    rfl

-- What comes of asking for a child, mapped or not.
inductive AsksChild (p : Protocol) (s : Session) (guestId : UInt32) (parent : Interface) (parentHostId : UInt32) (request : String)
    (values : UInt32 → List WaylandValue) (child : Interface) : Recreation → Prop where
  | absent (none : composed p parentHostId parent request (values s.objects.nextHostId) = none) :
      AsksChild p s guestId parent parentHostId request values child (.skipped s)
  | failed (t : Session) (r : HostRequest) (wrote : Wrote guestId s t [r] false) :
      AsksChild p s guestId parent parentHostId request values child (.skipped t)
  | asked (t : Session) (r : HostRequest) (is : composed p parentHostId parent request (values s.objects.nextHostId) = some r)
      (wrote : Wrote guestId s t [r] true) (objects : t.objects = s.objects.allocateHostId.2) :
      AsksChild p s guestId parent parentHostId request values child (.recreated ⟨t, s.objects.nextHostId, child, parentHostId, parent⟩)

include covered in
theorem request_child_asks (parent : Interface) (parentHostId : UInt32) (request child : String) (signature : List ArgumentType)
    (values : UInt32 → List WaylandValue) (shape : Creates p request signature child) (listed : parent.name ∈ recoveredInterfaces)
    (payload : Bytes) (fds : List Fd) (encoded : encodeArguments signature (values s.objects.nextHostId) = .ok (payload, fds)) :
    AsksChild p s guestId parent parentHostId request values ⟨child⟩ (requestChild p s guestId parent parentHostId request values) := by
  cases found : requestOpcode p parent request with
  | none =>
      simp only [requestChild, found]
      exact .absent (by simp only [composed, found])
  | some opcode =>
      obtain ⟨desc, at_opcode, member, named⟩ := opcode_listed _ _ _ (covered.requests parent) found
      have typed := (shape.2 parent listed desc member named).1
      rcases request_child_writes covered s guestId parent parentHostId request child signature values shape listed opcode found payload
        fds encoded with ⟨t, is, wrote⟩ | ⟨t, is, wrote, objects⟩
      · rw [is]
        exact .failed t _ wrote
      · rw [is]
        exact .asked t _ (by simp only [composed, found, at_opcode, typed, encoded]) wrote objects

-- What comes of asking a parent for a child, beside what it comes to on paper.
inductive Borne (p : Protocol) (s : Session) (guestId : UInt32) (b : Blueprint) (errand : Errand) (child : Interface) :
    Recreation → Prop where
  | absent (none : OnPaper s b → b.bear p guestId errand child = none) : Borne p s guestId b errand child (.skipped s)
  | failed (t : Session) (r : HostRequest) (wrote : Wrote guestId s t [r] false) : Borne p s guestId b errand child (.skipped t)
  | born (recreated : Recreated) (kind : recreated.interface = child) (graph : recreated.session.graph = s.graph)
      (before : HostWritesSucceed (connection recreated.session.trace) → HostWritesSucceed (connection s.trace))
      (own : OnPaper s b → recreated.hostId = b.next)
      (paper : HostWritesSucceed (connection recreated.session.trace) → OnPaper s b →
        ∃ after, b.bear p guestId errand child = some after ∧ OnPaper recreated.session after) :
      Borne p s guestId b errand child (.recreated recreated)

variable (fresh : Fresh s.objects) (nonzero : guestId ≠ 0)

include covered fresh nonzero

theorem recreate_child_borne (errand : Errand) (named : Option UInt32) (other : errand.other = named.getD 0)
    (signature : List ArgumentType) (child : String) (shape : Creates p errand.request signature child)
    (encodes : ∀ id otherId, ∃ payload fds, encodeArguments signature (errand.values id otherId) = .ok (payload, fds)) :
    Borne p s guestId b errand ⟨child⟩ (recreateChild p s guestId errand.parent named errand.request errand.values) := by
  unfold recreateChild
  split
  · rename_i parent parentHostId otherHostId known held otherHeld
    have listed := fresh.listed errand.parent parentHostId parent known held
    have there : OnPaper s b → b.objects errand.parent = some (parentHostId, parent) ∧ b.hostId errand.other = some otherHostId :=
      fun onPaper => by
        rw [← onPaper.objects, ← on_paper_host onPaper, other, otherHeld]
        unfold ShadowTable.resolved
        rw [held, known]
        exact ⟨rfl, rfl⟩
    obtain ⟨payload, fds, encoded⟩ := encodes s.objects.nextHostId otherHostId
    have asks := @request_child_asks p s guestId covered parent parentHostId errand.request child signature
      (fun hostId => errand.values hostId otherHostId) shape listed payload fds encoded
    have redone := request_child_redoing p s guestId parent parentHostId errand.request (fun hostId => errand.values hostId otherHostId)
    generalize requestChild p s guestId parent parentHostId errand.request (fun hostId => errand.values hostId otherHostId) =
      recreation at asks redone
    cases asks with
    | absent none =>
        refine .absent fun onPaper => ?_
        rw [onPaper.next] at none
        simp only [Blueprint.bear, there onPaper, none]
    | failed t r wrote => exact .failed t r wrote
    | asked t r is wrote objects =>
        refine .born _ rfl (redone t rfl).kept.graph (fun succeed => (wrote.succeeded succeed).2.1) (fun onPaper => onPaper.next)
          fun succeed onPaper => ?_
        refine ⟨_, ?_, on_paper_placed onPaper fresh.null nonzero wrote objects succeed ⟨child⟩⟩
        rw [onPaper.next] at is
        simp only [Blueprint.bear, there onPaper, is]
  · rename_i unresolved
    refine .absent fun onPaper => ?_
    unfold Blueprint.bear
    split
    · rename_i parentHostId parent otherHostId found otherFound
      rw [← onPaper.objects] at found
      obtain ⟨-, held, known⟩ := (resolved_host _ fresh.null _ _ _).mp found
      rw [← on_paper_host onPaper, other] at otherFound
      exact absurd otherFound (unresolved _ _ _ known held)
    · rfl

omit covered fresh nonzero

theorem Borne.skipped_draws {errand : Errand} {child : Interface} {t : Session}
    (borne : Borne p s guestId b errand child (.skipped t)) (finish : Blueprint → Blueprint) :
    Draws s t b ((b.bear p guestId errand child).elim b finish) := by
  cases borne with
  | absent none =>
      refine ⟨id, fun _ onPaper => ?_⟩
      rw [none onPaper]
      exact onPaper
  | failed _ r wrote => exact .of_failed wrote _ _

theorem Borne.recreated_draws {errand : Errand} {child : Interface} {recreated : Recreated}
    (borne : Borne p s guestId b errand child (.recreated recreated)) (finish : UInt32 → Blueprint → Blueprint) (t : Session)
    (furnished : recreated.interface = child → recreated.session.graph = s.graph →
      ∀ after, Draws recreated.session t after (finish recreated.hostId after)) :
    Draws s t b ((b.bear p guestId errand child).elim b (finish b.next)) := by
  cases borne with
  | born _ kind graph before own paper =>
      have later := furnished kind graph
      refine ⟨fun succeed => before ((later b).before succeed), fun succeed onPaper => ?_⟩
      obtain ⟨after, is, drawn⟩ := paper ((later b).before succeed) onPaper
      rw [is, ← own onPaper]
      exact (later after).paper succeed drawn

-- A recipe that comes down to its errand.
theorem Borne.draws {errand : Errand} {child : Interface} {recreation : Recreation} {t : Session}
    (borne : Borne p s guestId b errand child recreation) (reached : recreation.session = some t) :
    Draws s t b ((b.bear p guestId errand child).elim b id) := by
  cases recreation with
  | skipped =>
      cases reached
      exact borne.skipped_draws id
  | panicked => cases reached
  | recreated child =>
      cases reached
      exact borne.recreated_draws (fun _ after => after) _ fun _ _ after => .refl _ after

include covered fresh nonzero

variable (globals : Globals)

theorem recreate_viewport_draws (viewporter surface : UInt32) (destination : Option (Int32 × Int32)) (t : Session)
    (result : recreateViewport p s guestId viewporter surface destination = some t) :
    Draws s t b (b.add p globals s.graph (guestId, .viewport viewporter surface destination)) := by
  have borne := @recreate_child_borne p s guestId b covered fresh nonzero
    ⟨viewporter, surface, "get_viewport", fun id other => [.newId id, .object other]⟩ (some surface) rfl _ "wp_viewport"
    covered.getViewport fun id otherId => ⟨_, _, encoded_new_id_object id otherId⟩
  simp only [recreateViewport] at result
  generalize recreateChild p s guestId viewporter (some surface) "get_viewport"
    (fun hostId surfaceHostId => [.newId hostId, .object surfaceHostId]) = recreation at borne result
  cases recreation with
  | skipped =>
      cases result
      exact borne.skipped_draws _
  | panicked => cases result
  | recreated child =>
      refine borne.recreated_draws (fun hostId after => after.furnish p s.graph guestId hostId (.viewport viewporter surface destination))
        t fun kind _ after => ?_
      cases destination with
      | none =>
          cases result
          exact .refl _ after
      | some size =>
          cases result
          rw [kind]
          exact replay_request_draws child.session guestId child.hostId ⟨"wp_viewport"⟩ "set_destination" _ after

theorem recreate_xdg_toplevel_draws (parent : UInt32) (title appId : Option String) (t : Session) (handshake : Option Handshake)
    (result : recreateXdgToplevel p s guestId parent title appId = some (t, handshake)) :
    Draws s t b (b.add p globals s.graph (guestId, .xdgToplevel parent title appId)) := by
  have borne := @recreate_child_borne p s guestId b covered fresh nonzero
    ⟨parent, 0, "get_toplevel", fun id _ => [.newId id]⟩ none rfl _ "xdg_toplevel" covered.getToplevel
    fun id _ => ⟨_, _, encoded_new_id id⟩
  rcases recreate_xdg_toplevel_some p s guestId parent title appId t handshake result with
    skipped | ⟨child, titled, named, recreated, writesTitle, writesAppId, rfl⟩
  · rw [skipped] at borne
    exact borne.skipped_draws _
  · rw [recreated] at borne
    refine borne.recreated_draws (fun hostId after => after.furnish p s.graph guestId hostId (.xdgToplevel parent title appId)) _
      fun kind graph after => ?_
    have first := replay_string_draws (p := p) child.session guestId child.hostId child.interface "set_title" title after
    rw [← writesTitle] at first
    have second := replay_string_draws (p := p) titled guestId child.hostId child.interface "set_app_id" appId
      (after.tell p guestId child.hostId child.interface "set_title" title)
    rw [← writesAppId] at second
    have still : named.graph = s.graph := by
      rw [writesAppId, (replay_string_redoing p titled guestId child.hostId child.interface "set_app_id" appId).kept.graph,
        writesTitle, (replay_string_redoing p child.session guestId child.hostId child.interface "set_title" title).kept.graph, graph]
    have third := send_initial_commit_draws (p := p) named guestId parent
      ((after.tell p guestId child.hostId child.interface "set_title" title).tell p guestId child.hostId child.interface "set_app_id" appId)
    rw [still, kind] at third
    rw [kind] at first second
    exact (first.trans second).trans third

theorem recreate_global_draws (interface : Interface) (version : UInt32) (t : Session)
    (result : recreateGlobal p globals wlRegistry 2 s guestId interface version = some t) :
    Draws s t b (b.add p globals s.graph (guestId, .global interface version)) := by
  show Draws s t b (b.bind globals guestId interface version)
  unfold recreateGlobal at result
  unfold Blueprint.bind
  obtain absent | ⟨⟨name, freshMaxVersion⟩, chosen⟩ := Option.eq_none_or_eq_some
    (if interface.name ∈ recreatableGlobals then globals.lookup interface.name else none)
  · simp only [absent] at result ⊢
    cases result
    exact .refl s b
  · have encoded := encoded_bind name (min version freshMaxVersion) s.objects.nextHostId interface.name
    have listed : (p.requests wlRegistry)[0]? = some ⟨"bind", false, [.uint, .str, .uint, .newId], none⟩ := covered.bind
    have allocated : s.objects.allocateHostId.1 = s.objects.nextHostId := rfl
    simp only [chosen, listed, allocated, encoded] at result ⊢
    let spent : Session := { s with objects := s.objects.allocateHostId.2 }
    have wrote := @wrote_one guestId spent ⟨wlRegistry, buildMessage 2 0
      (bindPayload name interface.name (min version freshMaxVersion) s.objects.nextHostId), []⟩ _ rfl
    split at result
    · rename_i failed written
      cases result
      rw [written] at wrote
      exact .of_failed (s := s) wrote _ _
    · rename_i asked written
      cases result
      rw [written] at wrote
      have objects : asked.objects = s.objects.allocateHostId.2 := by
        cases (Prod.ext_iff.mp written).2
        rfl
      have whole : Wrote guestId s asked _ true := wrote
      refine ⟨fun succeed => (whole.succeeded succeed).2.1, fun succeed onPaper => ?_⟩
      have placed := on_paper_placed onPaper fresh.null nonzero whole objects succeed interface
      rw [← onPaper.next] at placed ⊢
      exact placed

omit covered fresh nonzero in
theorem blueprint_fill (paramsHostId : UInt32) (add : UInt16) (planes : List DmabufPlane)
    (request : ∀ plane, composed p paramsHostId bufferParams "add" (planeValues plane) =
      some ⟨bufferParams, buildMessage paramsHostId add (planeBytes plane), [plane.fd]⟩) (b : Blueprint) :
    b.fill p guestId paramsHostId planes = { b with requests := b.requests ++ (planes.map fun plane =>
      (⟨bufferParams, buildMessage paramsHostId add (planeBytes plane), [plane.fd]⟩ : HostRequest)).map fun r => (guestId, r) } := by
  induction planes generalizing b with
  | nil => simp [Blueprint.fill]
  | cons plane rest ih =>
      show (b.ask guestId (composed p paramsHostId bufferParams "add" (planeValues plane))).fill p guestId paramsHostId rest = _
      rw [ih, request plane]
      simp [Blueprint.ask, List.append_assoc]

omit fresh nonzero in
theorem composed_plane (paramsHostId : UInt32) (add : UInt16) (found : requestOpcode p bufferParams "add" = some add)
    (plane : DmabufPlane) : composed p paramsHostId bufferParams "add" (planeValues plane) =
      some ⟨bufferParams, buildMessage paramsHostId add (planeBytes plane), [plane.fd]⟩ := by
  obtain ⟨desc, at_opcode, member, named⟩ := opcode_listed _ _ _ (covered.requests bufferParams) found
  have signature := (declared_entry _ _ _ _ (covered.requests _) covered.add desc member named).1
  have encoded : encodeArguments [.fd, .uint, .uint, .uint, .uint, .uint] (planeValues plane) = .ok (planeBytes plane, [plane.fd]) := by
    simp [encodeArguments, planeValues, encodeFrom, encodeArgument, planeBytes, putU32]
  simp only [composed, found, at_opcode, signature, encoded]

omit fresh nonzero in
theorem add_planes_draws (paramsHostId : UInt32) (add : UInt16) (found : requestOpcode p bufferParams "add" = some add)
    (planes : List DmabufPlane) (s : Session) (b : Blueprint) :
    Draws s (addPlanes p s guestId paramsHostId bufferParams planes).2 b (b.fill p guestId paramsHostId planes) := by
  have wrote := planes_write covered s guestId paramsHostId add found planes
  have table := add_planes_objects (p := p) s guestId paramsHostId bufferParams planes
  refine ⟨fun succeed => (wrote.succeeded succeed).2.1, fun succeed onPaper => ?_⟩
  rw [blueprint_fill paramsHostId add planes (composed_plane covered paramsHostId add found)]
  refine ⟨by rw [table]; exact onPaper.next, by rw [table]; exact onPaper.objects, ?_⟩
  rw [(wrote.succeeded succeed).2.2, onPaper.requests]

omit covered nonzero fresh in
theorem AsksChild.draws {parent : Interface} {parentHostId : UInt32} {request : String} {values : UInt32 → List WaylandValue}
    {child : Interface} {asked : Recreated}
    (asks : AsksChild p s guestId parent parentHostId request values child (.recreated asked)) :
    ∃ r, composed p parentHostId parent request (values s.objects.nextHostId) = some r ∧ asked.interface = child ∧
      asked.hostId = s.objects.nextHostId ∧ asked.session.objects = s.objects.allocateHostId.2 ∧
      ∀ b : Blueprint, Draws s asked.session b (b.ask guestId (some r)).spend := by
  cases asks with
  | asked t r is wrote objects =>
      refine ⟨r, is, rfl, rfl, objects, fun b => ⟨fun succeed => (wrote.succeeded succeed).2.1, fun succeed onPaper => ⟨?_, ?_, ?_⟩⟩⟩
      · show t.objects.nextHostId = b.next + 1
        rw [objects, ← onPaper.next]
        rfl
      · intro g
        rw [objects]
        exact onPaper.objects g
      · rw [(wrote.succeeded succeed).2.2, onPaper.requests]
        rfl

theorem create_immed_draws (paramsHostId : UInt32) (width height : Int32) (format flags : UInt32) (t : Session)
    (result : (match requestChild p s guestId bufferParams paramsHostId "create_immed" fun hostId =>
        [.newId hostId, .int width, .int height, .uint format, .uint flags] with
      | .recreated buffer => some (mapRecreated guestId buffer)
      | other => other.session) = some t) :
    Draws s t b (b.immediate p guestId paramsHostId width height format flags) := by
  obtain ⟨payload, fds, encoded, -⟩ := encoded_immed s.objects.nextHostId width height format flags
  have asks := @request_child_asks p s guestId covered bufferParams paramsHostId "create_immed" _ _
    (fun hostId => [.newId hostId, .int width, .int height, .uint format, .uint flags]) covered.createImmed (by decide) payload fds encoded
  generalize requestChild p s guestId bufferParams paramsHostId "create_immed"
    (fun hostId => [.newId hostId, .int width, .int height, .uint format, .uint flags]) = recreation at asks result
  cases asks with
  | absent none =>
      cases result
      refine ⟨id, fun _ onPaper => ?_⟩
      rw [onPaper.next] at none
      simp only [Blueprint.immediate, none]
      exact onPaper
  | failed _ r wrote =>
      cases result
      exact .of_failed wrote _ _
  | asked u r is wrote objects =>
      cases result
      refine ⟨fun succeed => (wrote.succeeded succeed).2.1, fun succeed onPaper => ?_⟩
      have placed := on_paper_placed onPaper fresh.null nonzero wrote objects succeed ⟨"wl_buffer"⟩
      rw [onPaper.next] at is
      simp only [Blueprint.immediate, is]
      exact placed

theorem recreate_dmabuf_buffer_draws (dmabufGuestId : UInt32) (width height : Int32) (format flags : UInt32)
    (planes : List DmabufPlane) (t : Session)
    (result : recreateDmabufBuffer p s guestId dmabufGuestId width height format flags planes = some t) :
    Draws s t b (b.buffer p guestId dmabufGuestId width height format flags planes) := by
  unfold recreateDmabufBuffer at result
  split at result
  · rename_i dmabuf dmabufHostId known held
    have listed := fresh.listed dmabufGuestId dmabufHostId dmabuf known held
    have there : OnPaper s b → b.objects dmabufGuestId = some (dmabufHostId, dmabuf) := fun onPaper => by
      rw [← onPaper.objects]
      unfold ShadowTable.resolved
      rw [held, known]
    have first := @request_child_asks p s guestId covered dmabuf dmabufHostId "create_params" _ _ (fun hostId => [.newId hostId])
      covered.createParams listed _ _ (encoded_new_id s.objects.nextHostId)
    generalize requestChild p s guestId dmabuf dmabufHostId "create_params" (fun hostId => [.newId hostId]) = recreation at first result
    cases recreation with
    | skipped =>
        cases result
        cases first with
        | absent none =>
            refine ⟨id, fun _ onPaper => ?_⟩
            rw [onPaper.next] at none
            simp only [Blueprint.buffer, there onPaper, none]
            exact onPaper
        | failed _ r wrote => exact .of_failed wrote _ _
    | panicked => cases result
    | recreated params =>
        obtain ⟨r, is, kind, own, objects, opens⟩ := first.draws
        have bufferKind : params.interface = bufferParams := kind
        simp only [bufferKind] at result
        have asked := opens b
        have composes : OnPaper s b → composed p dmabufHostId dmabuf "create_params" [.newId b.next] = some r := fun onPaper => by
          rw [← onPaper.next]
          exact is
        split at result
        · rename_i unknown
          cases result
          refine ⟨asked.before, fun succeed onPaper => ?_⟩
          simp only [Blueprint.buffer, there onPaper, composes onPaper, unknown, if_true]
          exact asked.paper succeed onPaper
        · rename_i known
          obtain ⟨add, adds⟩ := Option.ne_none_iff_exists'.mp known
          have filled := @add_planes_draws p guestId covered params.hostId add adds planes params.session
            (b.ask guestId (some r)).spend
          have wrote := planes_write covered params.session guestId params.hostId add adds planes
          have table := add_planes_objects (p := p) params.session guestId params.hostId bufferParams planes
          generalize addPlanes p params.session guestId params.hostId bufferParams planes = added at result filled wrote table
          obtain ⟨_ | _, u⟩ := added
          · cases result
            exact asked.trans (.of_failed wrote _ _)
          · have still : Fresh u.objects := by
              rw [show u.objects = params.session.objects from table, objects]
              exact fresh_allocated _ fresh
            have sealed := create_immed_draws (b := (b.ask guestId (some r)).spend.fill p guestId params.hostId planes) covered still nonzero
              params.hostId width height format flags t result
            have whole := (asked.trans filled).trans sealed
            refine ⟨whole.before, fun succeed onPaper => ?_⟩
            simp only [Blueprint.buffer, there onPaper, composes onPaper, known, if_false]
            rw [← onPaper.next, ← own]
            exact whole.paper succeed onPaper
  · rename_i unresolved
    cases result
    refine ⟨id, fun _ onPaper => ?_⟩
    have absent : s.objects.resolved dmabufGuestId = none := by
      unfold ShadowTable.resolved
      split
      · rename_i held known
        exact absurd held (unresolved _ _ known)
      · rfl
    rw [onPaper.objects] at absent
    simp only [Blueprint.buffer, absent]
    exact onPaper

omit fresh nonzero in
-- Every errand asks for its recipe's own interface, with values that fit.
theorem errand_shape (recipe : Recreatable) (errand : Errand) (asks : recipe.errand = some errand) :
    ∃ signature, Creates p errand.request signature recipe.interface.name ∧
      ∀ id otherId, ∃ payload fds, encodeArguments signature (errand.values id otherId) = .ok (payload, fds) := by
  have one : ∀ id : UInt32, ∃ payload fds, encodeArguments [.newId] [.newId id] = .ok (payload, fds) := fun id => ⟨_, _, encoded_new_id id⟩
  have two : ∀ id otherId : UInt32, ∃ payload fds, encodeArguments [.newId, .object] [.newId id, .object otherId] = .ok (payload, fds) :=
    fun id otherId => ⟨_, _, encoded_new_id_object id otherId⟩
  cases recipe with
  | global | dmabufBuffer => cases asks
  | surface =>
      cases asks
      exact ⟨_, covered.createSurface, fun id _ => one id⟩
  | xdgSurface =>
      cases asks
      exact ⟨_, covered.getXdgSurface, two⟩
  | xdgToplevel =>
      cases asks
      exact ⟨_, covered.getToplevel, fun id _ => one id⟩
  | shmPool wlShm fd size =>
      cases asks
      exact ⟨_, covered.createPool, fun id _ => (encoded_pool id fd size).imp fun _ => Exists.imp fun _ => And.left⟩
  | shmBuffer pool offset width height stride format =>
      cases asks
      exact ⟨_, covered.createBuffer, fun id _ =>
        (encoded_buffer id offset width height stride format).imp fun _ => Exists.imp fun _ => And.left⟩
  | seatDevice seat kind =>
      cases asks
      exact ⟨_, seat_device_creates covered kind, fun id _ => one id⟩
  | viewport =>
      cases asks
      exact ⟨_, covered.getViewport, two⟩
  | fractionalScale =>
      cases asks
      exact ⟨_, covered.getFractionalScale, two⟩

-- What replaying a recipe does, it does on paper.
theorem replay_recipe_draws (recipe : Recreatable) (t : Session) (handshake : Option Handshake)
    (result : replayRecipe p globals wlRegistry 2 s guestId recipe = some (t, handshake)) :
    Draws s t b (b.add p globals s.graph (guestId, recipe)) := by
  cases recipe
  case xdgToplevel parent title appId =>
      exact recreate_xdg_toplevel_draws covered fresh nonzero globals parent title appId t handshake result
  all_goals
    obtain ⟨done, arm, same⟩ := Option.map_eq_some_iff.mp result
    cases same
  case global interface version => exact recreate_global_draws covered fresh nonzero globals interface version t arm
  case viewport viewporter surface destination =>
      exact recreate_viewport_draws covered fresh nonzero globals viewporter surface destination t arm
  case dmabufBuffer dmabuf width height format flags planes =>
      exact recreate_dmabuf_buffer_draws covered fresh nonzero dmabuf width height format flags planes t arm
  case surface parent =>
      obtain ⟨signature, shape, encodes⟩ := errand_shape covered (.surface parent) _ rfl
      exact Borne.draws (recreate_child_borne covered fresh nonzero _ none rfl signature _ shape encodes) arm
  case xdgSurface parent surface =>
      obtain ⟨signature, shape, encodes⟩ := errand_shape covered (.xdgSurface parent surface) _ rfl
      exact Borne.draws (recreate_child_borne covered fresh nonzero _ (some surface) rfl signature _ shape encodes) arm
  case shmPool wlShm fd size =>
      obtain ⟨signature, shape, encodes⟩ := errand_shape covered (.shmPool wlShm fd size) _ rfl
      exact Borne.draws (recreate_child_borne covered fresh nonzero _ none rfl signature _ shape encodes) arm
  case shmBuffer pool offset width height stride format =>
      obtain ⟨signature, shape, encodes⟩ := errand_shape covered (.shmBuffer pool offset width height stride format) _ rfl
      exact Borne.draws (recreate_child_borne covered fresh nonzero _ none rfl signature _ shape encodes) arm
  case seatDevice seat kind =>
      obtain ⟨signature, shape, encodes⟩ := errand_shape covered (.seatDevice seat kind) _ rfl
      exact Borne.draws (recreate_child_borne covered fresh nonzero _ none rfl signature _ shape encodes) arm
  case fractionalScale manager surface =>
      obtain ⟨signature, shape, encodes⟩ := errand_shape covered (.fractionalScale manager surface) _ rfl
      exact Borne.draws (recreate_child_borne covered fresh nonzero _ (some surface) rfl signature _ shape encodes) arm

end Children


-- An entry that is none of the replay's, on the same connection.
def Traffic.Bystands (entry : Traffic) : Prop := entry.replay = none ∧ entry ≠ .reconnected

-- A stretch between two recipes.
structure Pauses (s t : Session) : Prop where
  objects : t.objects = s.objects
  graph : t.graph = s.graph
  adds : Adds Traffic.Bystands s t

namespace Pauses

variable {s t u : Session}

theorem same (objects : t.objects = s.objects) (graph : t.graph = s.graph) (trace : t.trace = s.trace) : Pauses s t :=
  ⟨objects, graph, .same trace⟩

theorem trans (first : Pauses s t) (second : Pauses t u) : Pauses s u :=
  ⟨second.objects.trans first.objects, second.graph.trans first.graph, first.adds.trans second.adds⟩

theorem took (s : Session) (peer : Peer) (consumed : Nat) (msg : Bytes) : Pauses s (skimmed s peer consumed msg) :=
  ⟨rfl, rfl, .skimmed s peer consumed msg ⟨rfl, by simp⟩⟩

theorem ended (s : Session) (peer : Peer) : Pauses s (endWait s peer) := ⟨rfl, rfl, .ended s peer fun _ => ⟨rfl, by simp⟩⟩

theorem grown (pauses : Pauses s t) : ∃ added, replayLog added = [] ∧ connection t.trace = connection s.trace ++ added := by
  obtain ⟨added, aside, trace⟩ := pauses.adds
  refine ⟨added, ?_, by rw [trace, connection_append _ _ fun entry member => (aside entry member).2]⟩
  exact List.filterMap_eq_nil_iff.mpr fun entry member => (aside entry member).1

theorem before (pauses : Pauses s t) (succeed : HostWritesSucceed (connection t.trace)) : HostWritesSucceed (connection s.trace) := by
  obtain ⟨added, -, trace⟩ := pauses.grown
  rw [trace] at succeed
  exact fun m member => succeed m (List.mem_append_left _ member)

theorem log (pauses : Pauses s t) : replayLog (connection t.trace) = replayLog (connection s.trace) := by
  obtain ⟨added, none, trace⟩ := pauses.grown
  rw [trace, replay_log_append, none, List.append_nil]

theorem paper (pauses : Pauses s t) {b : Blueprint} (onPaper : OnPaper s b) : OnPaper t b :=
  ⟨by rw [pauses.objects]; exact onPaper.next, by rw [pauses.objects]; exact onPaper.objects, by rw [pauses.log]; exact onPaper.requests⟩

end Pauses

section Waits

variable (p : Protocol) (s : Session) (h : Handshake) (r : Replay) (msg : Bytes)

theorem heed_configure_objects : (heedConfigure p s h r msg).session.objects = s.objects := by
  have passed : ∀ guestId interface done t, passToClient s guestId interface msg = (done, t) → t.objects = s.objects := by
    intro guestId interface done t result
    cases result
    rfl
  unfold heedConfigure
  split
  · split
    · rename_i written wrote
      exact passed _ _ _ written wrote
    · rename_i failed wrote
      exact passed _ _ _ failed wrote
  · split
    · split
      · rename_i written wrote
        exact passed _ _ _ written wrote
      · rename_i failed wrote
        exact passed _ _ _ failed wrote
    · rfl

theorem heed_configure_pauses : Pauses s (heedConfigure p s h r msg).session where
  objects := heed_configure_objects p s h r msg
  graph := (heed_configure_books p s h r msg).graph
  adds := heed_configure_adds s msg (fun _ _ => ⟨rfl, by simp⟩) p h r fun _ _ _ _ => ⟨rfl, by simp⟩

theorem heed_ack_pauses : Pauses s (heedAck p s h r msg).session where
  objects := by
    unfold heedAck
    split <;> rfl
  graph := (heed_ack_books p s h r msg).graph
  adds := heed_ack_adds s msg (fun _ _ => ⟨rfl, by simp⟩) p h r fun _ _ _ => ⟨rfl, by simp⟩

end Waits


-- Recovery follows the blueprint: of its recipes, as many as it has been through.
structure Plotted (p : Protocol) (st : State) : Prop where
  waiting : ∀ w, st.control = .awaitingRegistry w → w.registryHostId = 2 ∧ w.registryGuestId ≠ 1 ∧
    (HostWritesSucceed (connection st.session.trace) → st.session.objects.nextHostId = 4 ∧
      (∀ g, st.session.objects.resolved g = if g = 1 then some (1, wlDisplay) else none) ∧
      replayLog (connection st.session.trace) = (Blueprint.opening w.registryGuestId).requests)
  replaying : ∀ r, st.control.replay = some r → r.registryHostId = 2 ∧
    ∃ registryGuestId done, registryGuestId ≠ 0 ∧ registryGuestId ≠ 1 ∧ st.session.graph.recipes = done ++ r.rest ∧
      (HostWritesSucceed (connection st.session.trace) →
        OnPaper st.session (.drawn p r.globals st.session.graph registryGuestId done))

namespace Plotted

variable {p : Protocol} {st next : State}

theorem idle (none : next.control.replay = none) (unasked : ∀ w, next.control ≠ .awaitingRegistry w) : Plotted p next where
  waiting w waits := absurd waits (unasked w)
  replaying r has := by
    rw [none] at has
    cases has

theorem pause (plotted : Plotted p st) (pauses : Pauses st.session next.session) (unasked : ∀ w, next.control ≠ .awaitingRegistry w)
    (same : ∀ r, next.control.replay = some r → st.control.replay = some r) : Plotted p next where
  waiting w waits := absurd waits (unasked w)
  replaying r has := by
    obtain ⟨own, registryGuestId, done, nonzero, apart, split, drawn⟩ := plotted.replaying r (same r has)
    refine ⟨own, registryGuestId, done, nonzero, apart, by rw [pauses.graph]; exact split, fun succeed => ?_⟩
    rw [pauses.graph]
    exact pauses.paper (drawn (pauses.before succeed))

theorem wait (plotted : Plotted p st) (w w' : RegistryWait) (waits : st.control = .awaitingRegistry w)
    (onward : next.control = .awaitingRegistry w') (hostId : w'.registryHostId = w.registryHostId)
    (guestId : w'.registryGuestId = w.registryGuestId) (pauses : Pauses st.session next.session) : Plotted p next where
  waiting w'' is := by
    rw [onward] at is
    cases is
    obtain ⟨own, apart, asked⟩ := plotted.waiting w waits
    refine ⟨hostId.trans own, by rw [guestId]; exact apart, fun succeed => ?_⟩
    obtain ⟨counter, objects, log⟩ := asked (pauses.before succeed)
    rw [pauses.objects, pauses.log, guestId]
    exact ⟨counter, objects, log⟩
  replaying r has := by
    rw [onward] at has
    cases has

end Plotted

section Steps

variable {p : Protocol} (s : Session)

-- The wait for the registry ends with nothing replayed yet.
theorem heed_registry_plotted (w : RegistryWait) (consumed : Nat) (msg : Bytes) (kind : w.registry = wlRegistry)
    (nonzero : w.registryGuestId ≠ 0) (null : s.objects.interface 0 = none) (plotted : Plotted p ⟨s, .awaitingRegistry w⟩) :
    Plotted p (heedRegistry (skimmed s .host consumed msg) w msg) := by
  have took := Pauses.took s .host consumed msg
  unfold heedRegistry
  split
  · exact plotted.wait w _ rfl rfl rfl rfl took
  · split
    · have ended := took.trans (.ended (skimmed s .host consumed msg) .host)
      refine ⟨fun w' is => (by cases is), fun r has => ?_⟩
      cases has
      obtain ⟨own, apart, asked⟩ := plotted.waiting w rfl
      refine ⟨own, w.registryGuestId, [], nonzero, apart, rfl, fun succeed => ?_⟩
      obtain ⟨counter, objects, log⟩ := asked (ended.before succeed)
      refine ⟨counter, fun g => ?_, ended.log.trans log⟩
      show (s.objects.map w.registryGuestId w.registryHostId w.registry).resolved g = _
      rw [resolved_map _ null _ _ _ nonzero, kind, own]
      show _ = if g = w.registryGuestId then some (2, wlRegistry) else if g = 1 then some (1, wlDisplay) else none
      split
      · rfl
      · rw [objects]
        split <;> rfl
    · exact plotted.wait w _ rfl rfl rfl rfl took

theorem ask_for_globals_log (registryGuestId : UInt32) (asked : Session)
    (result : askForGlobals s registryGuestId = (true, asked)) :
    ∃ outcome sync, sync.origin = .own ∧ asked.trace = s.trace ++
      [HostRequest.sent ⟨wlDisplay, buildMessage 1 1 (putU32 [] s.objects.nextHostId), []⟩ registryGuestId outcome, .sent sync] := by
  simp only [askForGlobals] at result
  split at result
  · cases result
  · rename_i first wrote
    obtain rfl : _ = first := congrArg Prod.snd wrote
    obtain rfl : _ = asked := congrArg Prod.snd result
    refine ⟨s.host.nextWrite, ⟨.host, .own, wlDisplay, buildMessage 1 0 (putU32 [] (s.objects.nextHostId + 1)), [],
      s.host.spendWrite.nextWrite⟩, rfl, ?_⟩
    rw [Session.write_trace, Session.write_trace, List.append_assoc]
    rfl

theorem begin_recovery_plotted (order : HashOrder) (outcomes : List WriteOutcome) (null : s.objects.interface 0 = none) :
    Plotted p (beginRecovery p order (reconnected s outcomes)) := by
  unfold beginRecovery
  dsimp only
  split
  · exact .idle rfl (by simp [resume])
  · rename_i registryGuestId found
    split
    · exact .idle rfl (by simp)
    · rename_i registry known
      split
      · exact .idle rfl (by simp)
      · rename_i asked wrote
        refine ⟨fun w is => ?_, fun r has => by cases has⟩
        cases is
        have apart : registryGuestId ≠ 1 := by
          rintro rfl
          obtain ⟨i, listed, name⟩ := ShadowTable.find_guest_id_spec _ order "wl_registry" 1 found
          have display : (reconnected s outcomes).objects.interface 1 = some wlDisplay := by
            show (s.objects.interfaces.insert 1 wlDisplay).lookup 1 = _
            rw [HashMap.lookup_insert, if_pos rfl]
          rw [show (reconnected s outcomes).objects.interface 1 = some i from listed] at display
          rw [Option.some.inj display] at name
          exact absurd name (by decide)
        refine ⟨rfl, apart, fun _ => ?_⟩
        obtain ⟨outcome, sync, own, trace⟩ := ask_for_globals_log _ registryGuestId asked wrote
        have table := ask_for_globals_objects { reconnected s outcomes with
          reclaim := { (reconnected s outcomes).reclaim with activeSourceHostId := none } } registryGuestId
        rw [wrote] at table
        refine ⟨?_, fun g => ?_, ?_⟩
        · rw [show asked.objects = _ from table]
          rfl
        · rw [show asked.objects = _ from table]
          exact resolved_bump _ null g
        · rw [show asked.trace = _ from trace, connection_append _ _ (by simp [HostRequest.sent])]
          have begun : connection (reconnected s outcomes).trace = [] := by
            simp [reconnected, Session.log, connection_snoc, sinceReconnect]
          rw [show connection _ = [] from begun]
          simp [replayLog, HostRequest.sent, Traffic.replay, own, Blueprint.opening]
          rfl

theorem replay_turn_plotted (covered : Covered p) (order : HashOrder) (r : Replay) (fresh : Fresh s.objects)
    (kind : r.registry = wlRegistry) (named : ∀ id ∈ r.rest.map Prod.fst, id ≠ 0) (plotted : Plotted p ⟨s, .replaying r⟩) :
    Plotted p (replayTurn p order s r) := by
  obtain ⟨own, registryGuestId, done, nonzero, apart, split, drawn⟩ := plotted.replaying r rfl
  unfold replayTurn
  split
  · exact .idle rfl (by simp [resume])
  · rename_i guestId recipe rest more
    have onward : ∀ t handshake, replayRecipe p r.globals r.registry r.registryHostId s guestId recipe = some (t, handshake) →
        t.graph.recipes = (done ++ [(guestId, recipe)]) ++ rest ∧ (HostWritesSucceed (connection t.trace) →
          OnPaper t (.drawn p r.globals t.graph registryGuestId (done ++ [(guestId, recipe)]))) := by
      intro t handshake result
      have graph : t.graph = s.graph := (replay_recipe_frame p s _ _ _ _ _ t handshake result).kept.graph
      rw [kind, own] at result
      have real : guestId ≠ 0 := named guestId (by rw [more]; exact List.mem_cons_self)
      have draws := @replay_recipe_draws p s guestId (.drawn p r.globals s.graph registryGuestId done) covered fresh real r.globals
        recipe t handshake result
      refine ⟨?_, fun succeed => ?_⟩
      · rw [graph, List.append_assoc]
        exact split.trans (congrArg (done ++ ·) more)
      · rw [graph, Blueprint.drawn, List.foldl_append]
        exact draws.paper succeed (drawn (draws.before succeed))
    split
    · exact .idle rfl (by simp)
    · rename_i t result
      obtain ⟨remaining, paper⟩ := onward t none result
      refine ⟨fun w is => (by cases is), fun r' has => ?_⟩
      cases has
      exact ⟨own, registryGuestId, _, nonzero, apart, remaining, paper⟩
    · rename_i t h result
      obtain ⟨remaining, paper⟩ := onward t (some h) result
      refine ⟨fun w is => (by cases is), fun r' has => ?_⟩
      cases has
      exact ⟨own, registryGuestId, _, nonzero, apart, remaining, paper⟩

theorem transition_plotted {env : Env} (covered : Covered env.protocol) {st next : State} {event : Event}
    (transition : Transition env st event next) (ready : Ready st) (plotted : Plotted env.protocol st) :
    Plotted env.protocol next := by
  cases transition with
  | readClient | clientGone | readHost | hostGone | registryGone | relayed | relayDone => exact .idle rfl (by simp)
  | readAck s | readConfigure s => exact plotted.pause (.same rfl rfl rfl) (by simp) fun _ => id
  | ackGone s | ackLapse s => exact plotted.pause (.ended s .gtk) (by simp) fun _ => id
  | configureGone s | configureLapse s => exact plotted.pause (.ended s .host) (by simp) fun _ => id
  | readRegistry s fill c w => exact plotted.wait w w rfl rfl rfl rfl (.same rfl rfl rfl)
  | skimRegistry s w ambient msg consumed taken =>
      exact heed_registry_plotted s w consumed msg ready.prepared.2 ready.prepared.1 ready.null plotted
  | skimConfigure s h r ambient msg consumed taken =>
      have pauses := (Pauses.took s .host consumed msg).trans (heed_configure_pauses env.protocol _ h r msg)
      rcases @heed_configure_control env.protocol (skimmed s .host consumed msg) h r msg with is | is | is <;>
        exact plotted.pause pauses (by simp [is]) fun r' has => by rw [is] at has; exact has
  | skimAck s h r ambient msg consumed taken =>
      have pauses := (Pauses.took s .gtk consumed msg).trans (heed_ack_pauses env.protocol _ h r msg)
      rcases @heed_ack_control env.protocol (skimmed s .gtk consumed msg) h r msg with is | is <;>
        exact plotted.pause pauses (by simp [is]) fun r' has => by rw [is] at has; exact has
  | replayed s r ambient =>
      exact replay_turn_plotted s covered ambient.order r (ready.fresh rfl) ready.prepared.1 ready.prepared.2 plotted
  | reconnect s ambient outcomes frozen => exact begin_recovery_plotted s ambient.order outcomes ready.null
  | cached s control mimeType bytes =>
      cases control with
      | awaitingRegistry w => exact plotted.wait w w rfl rfl rfl rfl (.same rfl rfl rfl)
      | _ => exact plotted.pause (.same rfl rfl rfl) (by simp) fun _ => id

end Steps

theorem plotted_of_run (env : Env) (covered : Covered env.protocol) (gtkOutcomes hostOutcomes : List WriteOutcome)
    (cache : ClipboardCache) (events : List Event) (st : State)
    (run : Runs (step env) (Picks env) (start gtkOutcomes hostOutcomes cache) events st) (few : Few env.protocol st.session.trace) :
    Plotted env.protocol st := by
  refine (run.invariant (fun st => Counting env.protocol st ∧ (Few env.protocol st.session.trace → Plotted env.protocol st))
    ⟨counting_start _ _ _ _, fun _ => .idle rfl (by simp [start])⟩ ?_).2 few
  rintro s event next ⟨counting, plotted⟩ picks taken
  have transition := step_transition env s event next taken
  refine ⟨transition_counting covered s event next transition picks counting, fun few => ?_⟩
  have before := few.earlier (transition_grows transition)
  exact transition_plotted covered transition (counting.current before).1 (plotted before)

-- Whatever else a run does, before the recovery and during it, what the host
-- has been asked for and what its objects are called are as on paper.
theorem recovery_on_paper (env : Env) (covered : Covered env.protocol) (gtkOutcomes hostOutcomes : List WriteOutcome)
    (cache : ClipboardCache) (events : List Event) (st : State)
    (run : Runs (step env) (Picks env) (start gtkOutcomes hostOutcomes cache) events st) (few : Few env.protocol st.session.trace)
    (succeed : HostWritesSucceed (connection st.session.trace)) (r : Replay) (replaying : st.control.replay = some r) :
    ∃ registryGuestId done, registryGuestId ≠ 0 ∧ registryGuestId ≠ 1 ∧ st.session.graph.recipes = done ++ r.rest ∧
      OnPaper st.session (.drawn env.protocol r.globals st.session.graph registryGuestId done) := by
  obtain ⟨-, registryGuestId, done, nonzero, apart, split, drawn⟩ :=
    (plotted_of_run env covered gtkOutcomes hostOutcomes cache events st run few).replaying r replaying
  exact ⟨registryGuestId, done, nonzero, apart, split, drawn succeed⟩

-- The window of seven recipes is back: the registry and each object is asked
-- for once, and the last request is the toplevel's first commit.
theorem recovery_on_paper_window : ∃ st r, Runs (step coreEnv) (Picks coreEnv) coreStart (windowReconfigured 7).dropLast st ∧
    st.control = .replaying r ∧ r.rest = [] ∧ (replayLog (connection st.session.trace)).map Prod.fst = [2, 3, 4, 5, 6, 7, 8, 9, 9] ∧
      ∃ registryGuestId done, registryGuestId ≠ 0 ∧ registryGuestId ≠ 1 ∧ st.session.graph.recipes = done ++ r.rest ∧
        OnPaper st.session (.drawn coreProtocol r.globals st.session.graph registryGuestId done) := by
  have fold : (coreRun picksWell (windowReconfigured 7).dropLast).map (fun st =>
      (isDistinct coreProtocol st.session.trace, st.control.isReplaying [],
        decide ((replayLog (connection st.session.trace)).map Prod.fst = [2, 3, 4, 5, 6, 7, 8, 9, 9]))) = some (true, true, true) := by
    decide +kernel
  obtain ⟨st, reached, facts⟩ := Option.map_eq_some_iff.mp fold
  simp only [Prod.mk.injEq, decide_eq_true_eq] at facts
  obtain ⟨distinct, replays, log⟩ := facts
  obtain ⟨r, control, done⟩ := Control.is_replaying replays
  have sound := is_distinct_sound coreProtocol _ distinct
  have run := Runs.of_checked picksWell picks_well_sound reached
  exact ⟨st, r, run, control, done, log, recovery_on_paper coreEnv core_covered [] [] ClipboardCache.new _ st run sound.few sound.succeed r
    (by rw [control]; rfl)⟩

end WlResprox
