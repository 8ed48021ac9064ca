import RouteGuard.Lib.Handles
import RouteGuard.Platform.RouteRemoval
import RouteGuard.Platform.TunnelUp

/-! # Tunnels over whole runs

Calls of `up_impl` and `down_impl` for any tunnels, interleaved between any two
calls of the driver.  An adapter goes with the handle that created it, and other
programs have handles as well. -/
set_option autoImplicit false
namespace RouteGuard

open Fallible GuardedRun Handles HashTable Upsert

/-! ## The driver -/

structure NtAdapter where
  name : String
  ifIndex : Nat
  up : Bool := false
  config : List UInt8 := []
deriving DecidableEq, Repr

inductive Process where
  | service
  | other
deriving DecidableEq, Repr

/-- The number of an adapter is its LUID. -/
abbrev NtDriver := Store Process NtAdapter

/-- The adapter the name leads to, the failure where it leads to none, and the index of the
interface where one is created. -/
structure OpenAnswers where
  pick : Option Nat := none
  failure : AdapterFailure
  create : Except String Nat

namespace NtDriver

def named (driver : NtDriver) (name : String) (luid : Nat) : Bool :=
  (driver.objects.get luid).any fun o => o.value.name == name

def indexes (driver : NtDriver) : List Nat :=
  driver.objects.items.map fun row => row.2.value.ifIndex

def freeIndex (driver : NtDriver) (wanted : Nat) : Nat :=
  if wanted ≠ 0 ∧ wanted ∉ driver.indexes then wanted else driver.indexes.foldr max 0 + 1

def openAdapter (driver : NtDriver) (owner : Process) (name : String) (answers : OpenAnswers) :
    Except AdapterFailure (Nat × NtDriver) :=
  match (answers.pick.filter (driver.named name)).bind (driver.attach owner) with
  | none => .error answers.failure
  | some opened => .ok opened

def createAdapter (driver : NtDriver) (owner : Process) (name : String) (answers : OpenAnswers) :
    Except String (Nat × NtDriver) :=
  answers.create.map fun wanted =>
    driver.create owner { name := name, ifIndex := driver.freeIndex wanted }

def openOrCreate (driver : NtDriver) (owner : Process) (name : String) (answers : OpenAnswers) :
    Except String (Nat × Bool × NtDriver) :=
  match driver.openAdapter owner name answers with
  | .ok opened => .ok (opened.1, false, opened.2)
  | .error failure =>
      if failure.code = some 2 then
        (driver.createAdapter owner name answers).map fun created => (created.1, true, created.2)
      else .error failure.text

/-- `luid_to_if_index`, which is 0 for an adapter that is gone. -/
def ifIndex (driver : NtDriver) (handle : Nat) : Nat :=
  ((driver.object handle).map fun o => o.value.ifIndex).getD 0

def setConfiguration (driver : NtDriver) (handle : Nat) (config : List UInt8) : NtDriver :=
  driver.modify handle fun adapter => { adapter with config := config }

def setAdapterState (driver : NtDriver) (handle : Nat) (up : Bool) : NtDriver :=
  driver.modify handle fun adapter => { adapter with up := up }

def ownedBy (driver : NtDriver) (owner : Process) (handle : Nat) : Bool :=
  (driver.handles.get handle).any fun entry => entry.owner == owner

def released (driver : NtDriver) (handle ifIndex : Nat) : Bool :=
  (driver.objects.get handle).any fun o => o.value.ifIndex == ifIndex

end NtDriver

/-! ## Calls -/

inductive UpPhase where
  | opened
  | configured
  | raised
  /-- The handshake is waited for. -/
  | waiting (routes : SessionRoutes)
  /-- The session is in the map. -/
  | settled
  /-- The handshake did not come. -/
  | lowering
  /-- `down_impl` took the session out of the map. -/
  | leaving (routes : SessionRoutes)
  | clearing (routes : SessionRoutes)
  /-- The session is dropped. -/
  | closing

structure NtCall where
  name : String
  handle : Nat
  created : Bool
  parsed : ParsedConf
  wireConfig : List UInt8
  phase : UpPhase := .opened

structure UpRequest where
  config : TunnelConfig
  library : Except String Unit := .ok ()
  file : Except String String
  padding : Nat → UInt8 := fun _ => 0
  adapter : OpenAnswers

/-- `calls` has the adapter handle of every session and of every call in flight. -/
structure NtWorld where
  backend : WireGuardNtBackend := {}
  driver : NtDriver := {}
  calls : Table Nat NtCall := ∅
  nextUuid : Nat := 0

inductive OtherCall where
  | create (name : String) (answers : OpenAnswers)
  | openAdapter (name : String) (answers : OpenAnswers)
  | setConfiguration (handle : Nat) (config : List UInt8)
  | setAdapterState (handle : Nat) (up : Bool)
  | close (handle : Nat)

inductive NtStep where
  | up (request : UpRequest)
  /-- The call goes on, and the driver answers. -/
  | proceed (id : Nat) (order : Order) (answer : Except String Unit)
  /-- The future is dropped. -/
  | cancel (id : Nat)
  | down (id : Nat)
  | other (call : OtherCall)

namespace NtWorld

def withCall (id : Nat) (call : NtCall) (phase : UpPhase) (w : NtWorld) : NtWorld :=
  { w with calls := w.calls.insert id { call with phase := phase } }

/-- The handle is closed; an adapter it created goes, and its routes with it. -/
def closeHandle (handle : Nat) (w : NtWorld) : NtWorld :=
  { w with
    backend := WireGuardNtBackend.closeAdapter (w.driver.released handle) w.backend
    driver := w.driver.close handle }

section Up
variable (parseNet : String → Except String IpNet)

/-- `up_impl` before it asks the driver. -/
def prepareUp (request : UpRequest) : Except (Abort RouteGuardError) (ParsedConf × List UInt8) := do
  tunnelText request.library
  let parsed ← wgntText (parseConfFile parseNet request.config.configPath request.file)
  let wireConfig ← wgntText (serializeInterface request.padding parsed)
  pure (parsed, wireConfig)

def startUp (request : UpRequest) (w : NtWorld) : NtWorld :=
  match prepareUp parseNet request with
  | .error _ => w
  | .ok (parsed, wireConfig) =>
      match w.driver.openOrCreate .service request.config.name request.adapter with
      | .error _ => w
      | .ok (handle, created, driver) =>
          { w with
            driver := driver
            calls := w.calls.insert w.nextUuid
              { name := request.config.name, handle, created, parsed, wireConfig }
            nextUuid := w.nextUuid + 1 }

end Up

def proceed (id : Nat) (order : Order) (answer : Except String Unit) (call : NtCall)
    (w : NtWorld) : NtWorld :=
  match call.phase, answer with
  | .opened, .ok _ =>
      { w.withCall id call .configured with
        driver := w.driver.setConfiguration call.handle call.wireConfig }
  | .opened, .error _ => w.withCall id call .closing
  | .configured, .ok _ =>
      { w.withCall id call .raised with driver := w.driver.setAdapterState call.handle true }
  | .configured, .error _ => w.withCall id call .closing
  | .raised, _ =>
      match exec (WireGuardNtBackend.installSession (w.driver.ifIndex call.handle) call.parsed)
          w.backend with
      | (.ok routes, backend) => { w.withCall id call (.waiting routes) with backend := backend }
      | (.error _, backend) => { w.withCall id call .closing with backend := backend }
  | .waiting routes, .ok _ =>
      { w.withCall id call .settled with
        backend := { w.backend with
          sessions := w.backend.sessions.insert id
            ⟨call.name, .connected, call.created, routes⟩ } }
  | .waiting _, .error _ => w.withCall id call .lowering
  | .settled, _ => w
  | .lowering, .ok _ =>
      { w.withCall id call .closing with driver := w.driver.setAdapterState call.handle false }
  | .lowering, .error _ => w.withCall id call .closing
  | .leaving routes, .ok _ =>
      { w.withCall id call (.clearing routes) with
        driver := w.driver.setAdapterState call.handle false }
  | .leaving routes, .error _ => w.withCall id call (.clearing routes)
  | .clearing routes, _ =>
      { w.withCall id call .closing with
        backend := w.backend.withRoutes
          (exec (SessionRoutes.clear order) ⟨routes, w.backend.routes⟩).2.table }
  | .closing, _ => { w.closeHandle call.handle with calls := w.calls.remove id }

/-- The handshake is the one place where `up_impl` is suspended. -/
def cancel (id : Nat) (call : NtCall) (w : NtWorld) : NtWorld :=
  match call.phase with
  | .waiting _ => w.withCall id call .closing
  | _ => w

/-- Another program uses its own handles. -/
def otherStep (w : NtWorld) : OtherCall → NtWorld
  | .create name answers =>
      match w.driver.createAdapter .other name answers with
      | .error _ => w
      | .ok (_, driver) => { w with driver := driver }
  | .openAdapter name answers =>
      match w.driver.openAdapter .other name answers with
      | .error _ => w
      | .ok (_, driver) => { w with driver := driver }
  | .setConfiguration handle config =>
      if w.driver.ownedBy .other handle then
        { w with driver := w.driver.setConfiguration handle config } else w
  | .setAdapterState handle up =>
      if w.driver.ownedBy .other handle then
        { w with driver := w.driver.setAdapterState handle up } else w
  | .close handle => if w.driver.ownedBy .other handle then w.closeHandle handle else w

def step (parseNet : String → Except String IpNet) (w : NtWorld) : NtStep → NtWorld
  | .up request => w.startUp parseNet request
  | .proceed id order answer =>
      match w.calls.get id with
      | none => w
      | some call => w.proceed id order answer call
  | .cancel id =>
      match w.calls.get id with
      | none => w
      | some call => w.cancel id call
  | .down id =>
      match w.backend.sessions.get id, w.calls.get id with
      | some session, some call =>
          { w.withCall id call (.leaving session.sessionRoutes) with
            backend := { w.backend with sessions := w.backend.sessions.remove id } }
      | _, _ => w
  | .other call => w.otherStep call

end NtWorld

/-! ## What the driver gives -/

structure NtDriver.Sound (driver : NtDriver) : Prop where
  wellFormed : driver.WellFormed
  apart : driver.Apart NtAdapter.ifIndex
  indexed : ∀ luid o, driver.objects.get luid = some o → o.value.ifIndex ≠ 0

namespace NtDriver
variable {driver after : NtDriver} {owner : Process} {name : String} {answers : OpenAnswers}
  {handle : Nat}

theorem mem_indexes {luid : Nat} {o : Object NtAdapter}
    (hobject : driver.objects.get luid = some o) : o.value.ifIndex ∈ driver.indexes :=
  List.mem_map.mpr ⟨(luid, o), (mem_items driver.objects luid o).mpr hobject, rfl⟩

theorem freeIndex_ne_zero (wanted : Nat) : driver.freeIndex wanted ≠ 0 := by
  unfold freeIndex
  split
  · next h => exact h.1
  · exact Nat.succ_ne_zero _

theorem freeIndex_free (wanted : Nat) {luid : Nat} {o : Object NtAdapter}
    (hobject : driver.objects.get luid = some o) : o.value.ifIndex ≠ driver.freeIndex wanted := by
  have hmem := mem_indexes hobject
  unfold freeIndex
  split
  · next h =>
      intro heq
      exact h.2 (heq ▸ hmem)
  · have hle := List.le_max_of_le hmem (Nat.le_refl _)
    intro heq
    rw [heq] at hle
    exact Nat.not_succ_le_self _ hle

theorem Sound.older (h : driver.Sound) (hwell : after.WellFormed)
    (holder : Store.Older NtAdapter.ifIndex driver after) : after.Sound := by
  refine ⟨hwell, h.apart.older holder, ?_⟩
  intro luid o' hobject
  obtain ⟨o, hold, hvalue⟩ := holder luid o' hobject
  exact hvalue ▸ h.indexed luid o hold

theorem openAdapter_gives (h : driver.Sound)
    (hopen : driver.openAdapter owner name answers = .ok (handle, after)) :
    driver.Gives owner false handle after ∧ after.Sound := by
  unfold openAdapter at hopen
  split at hopen
  · cases hopen
  · next opened hbind =>
      cases hopen
      obtain ⟨luid, -, hattach⟩ := Option.bind_eq_some_iff.mp hbind
      exact ⟨Store.attach_gives hattach, h.older (Store.attach_wellFormed h.wellFormed hattach)
        (Store.attach_older hattach)⟩

theorem create_sound (h : driver.Sound) (owner : Process) (name : String) (wanted : Nat) :
    Sound (driver.create owner { name := name, ifIndex := driver.freeIndex wanted }).2 := by
  refine ⟨Store.create_wellFormed h.wellFormed owner _, ?_, ?_⟩
  · exact h.apart.create owner fun luid o hobject => freeIndex_free wanted hobject
  · intro luid o hobject
    rw [Store.create_objects] at hobject
    split at hobject
    · cases hobject
      exact freeIndex_ne_zero wanted
    · exact h.indexed luid o hobject

theorem createAdapter_gives (h : driver.Sound)
    (hcreate : driver.createAdapter owner name answers = .ok (handle, after)) :
    driver.Gives owner true handle after ∧ after.Sound ∧
      after.Alone handle fun adapter => adapter.name = name := by
  obtain ⟨wanted, -, hafter⟩ := ok_of_map hcreate
  obtain ⟨rfl, rfl⟩ := Prod.mk.inj hafter
  exact ⟨Store.create_gives h.wellFormed owner _, create_sound h owner name wanted,
    Store.alone_create owner rfl⟩

theorem openOrCreate_gives (h : driver.Sound) {created : Bool}
    (hopen : driver.openOrCreate owner name answers = .ok (handle, created, after)) :
    driver.Gives owner created handle after ∧ after.Sound ∧
      (created = true → after.Alone handle fun adapter => adapter.name = name) := by
  unfold openOrCreate at hopen
  split at hopen
  · next opened hgiven =>
      cases hopen
      obtain ⟨hgives, hsound⟩ := openAdapter_gives h hgiven
      exact ⟨hgives, hsound, fun hcreated => absurd hcreated Bool.false_ne_true⟩
  · split at hopen
    · obtain ⟨made, hcreate, hmade⟩ := ok_of_map hopen
      cases hmade
      obtain ⟨hgives, hsound, halone⟩ := createAdapter_gives h hcreate
      exact ⟨hgives, hsound, fun _ => halone⟩
    · cases hopen

theorem modify_sound (h : driver.Sound) (handle : Nat) {f : NtAdapter → NtAdapter}
    (hf : ∀ adapter, (f adapter).ifIndex = adapter.ifIndex) : Sound (driver.modify handle f) :=
  h.older (Store.modify_wellFormed h.wellFormed handle f) (Store.modify_older hf handle)

theorem close_sound (h : driver.Sound) (handle : Nat) : Sound (driver.close handle) :=
  h.older (Store.close_wellFormed h.wellFormed handle) (Store.close_older h.wellFormed handle)

end NtDriver

/-! ## What holds throughout -/

/-- The routes of the call are in the table, each as it was written last. -/
def NtCall.Routed (call : NtCall) (rows : List OsRoute) (adapter : NtAdapter) : Prop :=
  ∀ row, LastWrite OsRoute.key
    ((WireGuardNtBackend.plannedAdditions adapter.ifIndex call.parsed).map Addition.row) row →
      row ∈ rows

/-- The adapter shows how far the call has come. -/
def NtCall.Reached (call : NtCall) (rows : List OsRoute) (adapter : NtAdapter) : Prop :=
  adapter.name = call.name ∧ match call.phase with
    | .configured => adapter.config = call.wireConfig
    | .raised => adapter.config = call.wireConfig ∧ adapter.up = true
    | .waiting _ | .settled =>
        adapter.config = call.wireConfig ∧ adapter.up = true ∧ call.Routed rows adapter
    | _ => True

structure NtCall.Shows (call : NtCall) (session : WireGuardNtBackend.TunnelSession) : Prop where
  settled : call.phase = .settled
  adapter : session.adapter = call.name
  lifecycle : session.lifecycle = .connected
  created : session.created = call.created

namespace NtWorld

/-- The open handles of the service are those of its calls, one for each. -/
structure Owned (w : NtWorld) : Prop where
  driver : w.driver.Sound
  held : ∀ id call, w.calls.get id = some call → ∃ entry,
    w.driver.handles.get call.handle = some entry ∧ entry.owner = .service ∧
      entry.created = call.created
  known : ∀ handle entry, w.driver.handles.get handle = some entry → entry.owner = .service →
    ∃ id call, w.calls.get id = some call ∧ call.handle = handle
  once : ∀ id id' call call', w.calls.get id = some call → w.calls.get id' = some call' →
    call.handle = call'.handle → id = id'
  ids : ∀ id call, w.calls.get id = some call → id < w.nextUuid

structure Recorded (w : NtWorld) : Prop where
  shows : ∀ id session, w.backend.sessions.get id = some session →
    ∃ call, w.calls.get id = some call ∧ call.Shows session
  settled : ∀ id call, w.calls.get id = some call → call.phase = .settled →
    ∃ session, w.backend.sessions.get id = some session

/-- A row was there before, or lies on interface 0 or on that of an adapter that is there. -/
def Placed (before : List OsRoute) (w : NtWorld) : Prop :=
  ∀ row ∈ w.backend.routes.os.rows, row ∈ before ∨ row.ifIndex = 0 ∨
    ∃ luid o, w.driver.objects.get luid = some o ∧ o.value.ifIndex = row.ifIndex

/-- An adapter that a call created, and to which no further handle was attached, is as the call
left it, whatever the other calls did. -/
def InForce (w : NtWorld) : Prop :=
  ∀ id call, w.calls.get id = some call → call.created = true →
    w.driver.Alone call.handle (call.Reached w.backend.routes.os.rows)

structure Consistent (before : List OsRoute) (w : NtWorld) : Prop where
  owned : w.Owned
  recorded : w.Recorded
  placed : w.Placed before
  inForce : w.InForce

/-! ## One call goes on -/

section Moved
variable {w : NtWorld} {id : Nat} {call : NtCall} {before : List OsRoute}

theorem get_withCall {id' : Nat} {call' : NtCall} {phase : UpPhase}
    (h : (w.withCall id call phase).calls.get id' = some call') :
    id' = id ∧ call' = { call with phase := phase } ∨
      id' ≠ id ∧ w.calls.get id' = some call' := by
  rw [withCall, get_insert] at h
  split at h
  · next heq => exact Or.inl ⟨heq, (Option.some.inj h).symm⟩
  · next hne => exact Or.inr ⟨hne, h⟩

theorem withCall_self (phase : UpPhase) :
    (w.withCall id call phase).calls.get id = some { call with phase := phase } := by
  rw [withCall, get_insert, if_pos rfl]

theorem withCall_other {id' : Nat} (hne : id' ≠ id) (phase : UpPhase) :
    (w.withCall id call phase).calls.get id' = w.calls.get id' := by
  rw [withCall, get_insert, if_neg hne]

theorem Owned.moved (h : w.Owned) (hcall : w.calls.get id = some call) {driver : NtDriver}
    (hdriver : driver.Sound) (hhandles : driver.handles = w.driver.handles)
    (backend : WireGuardNtBackend) (phase : UpPhase) :
    Owned { w.withCall id call phase with driver := driver, backend := backend } := by
  have hold : ∀ {id' call'}, (w.withCall id call phase).calls.get id' = some call' →
      ∃ old, w.calls.get id' = some old ∧ call'.handle = old.handle ∧
        call'.created = old.created := by
    intro id' call' hget
    rcases get_withCall hget with ⟨rfl, rfl⟩ | ⟨-, hget⟩
    · exact ⟨call, hcall, rfl, rfl⟩
    · exact ⟨call', hget, rfl, rfl⟩
  refine ⟨hdriver, ?_, ?_, ?_, ?_⟩
  · intro id' call' hget
    obtain ⟨old, hget, hhandle, hcreated⟩ := hold hget
    dsimp only
    rw [hhandles, hhandle, hcreated]
    exact h.held id' old hget
  · intro handle entry hopen howner
    dsimp only at hopen
    rw [hhandles] at hopen
    obtain ⟨id', old, hget, hhandle⟩ := h.known handle entry hopen howner
    by_cases heq : id' = id
    · subst heq
      rw [hcall] at hget
      cases hget
      exact ⟨id', _, withCall_self phase, hhandle⟩
    · exact ⟨id', old, (withCall_other heq phase).trans hget, hhandle⟩
  · intro id₁ id₂ call₁ call₂ hget₁ hget₂ heq
    obtain ⟨old₁, hget₁, hhandle₁, -⟩ := hold hget₁
    obtain ⟨old₂, hget₂, hhandle₂, -⟩ := hold hget₂
    exact h.once id₁ id₂ old₁ old₂ hget₁ hget₂ (by rw [← hhandle₁, ← hhandle₂, heq])
  · intro id' call' hget
    obtain ⟨old, hget, -, -⟩ := hold hget
    exact h.ids id' old hget

/-- No step in flight touches the map. -/
theorem Recorded.moved (h : w.Recorded) (hcall : w.calls.get id = some call) {phase : UpPhase}
    (hbefore : call.phase ≠ .settled) (hafter : phase ≠ .settled) (driver : NtDriver)
    (routes : RouteTableManager) :
    Recorded { w.withCall id call phase with
      driver := driver, backend := w.backend.withRoutes routes } := by
  refine ⟨?_, ?_⟩
  · intro id' session hsession
    obtain ⟨call', hget, hshows⟩ := h.shows id' session hsession
    have hne : id' ≠ id := by
      rintro rfl
      rw [hcall] at hget
      cases hget
      exact hbefore hshows.settled
    exact ⟨call', (withCall_other hne phase).trans hget, hshows⟩
  · intro id' call' hget hsettled
    rcases get_withCall hget with ⟨-, rfl⟩ | ⟨-, hget⟩
    · exact absurd hsettled hafter
    · exact h.settled id' call' hget hsettled

theorem InForce.moved {driver : NtDriver} {backend : WireGuardNtBackend} {phase : UpPhase}
    (hself : call.created = true → driver.Alone call.handle
      (NtCall.Reached { call with phase := phase } backend.routes.os.rows))
    (hother : ∀ id' call', id' ≠ id → w.calls.get id' = some call' → call'.created = true →
      driver.Alone call'.handle (call'.Reached backend.routes.os.rows)) :
    InForce { w.withCall id call phase with driver := driver, backend := backend } := by
  intro id' call' hget hcreated
  rcases get_withCall hget with ⟨-, rfl⟩ | ⟨hne, hget⟩
  · exact hself hcreated
  · exact hother id' call' hne hget hcreated

theorem Owned.apart (h : w.Owned) (hcall : w.calls.get id = some call) {id' : Nat}
    {call' : NtCall} (hne : id' ≠ id) (hcall' : w.calls.get id' = some call') :
    call.handle ≠ call'.handle := by
  intro heq
  exact hne (h.once id id' call call' hcall hcall' heq).symm

/-! ### The driver changes the adapter of the call -/

theorem modify_ifIndex {driver : NtDriver} (handle : Nat) {f : NtAdapter → NtAdapter}
    (hf : ∀ adapter, (f adapter).ifIndex = adapter.ifIndex) {luid : Nat} {o : Object NtAdapter}
    (hobject : driver.objects.get luid = some o) :
    ∃ o', (driver.modify handle f).objects.get luid = some o' ∧
      o'.value.ifIndex = o.value.ifIndex := by
  rcases Store.modify_objects (s := driver) handle f luid with hsame | ⟨_, o', -, -, hold, hnew⟩
  · exact ⟨o, hsame.trans hobject, rfl⟩
  · rw [hobject] at hold
    cases hold
    exact ⟨_, hnew, hf o.value⟩

theorem Placed.modify (h : w.Placed before) (handle : Nat) {f : NtAdapter → NtAdapter}
    (hf : ∀ adapter, (f adapter).ifIndex = adapter.ifIndex) :
    Placed before { w with driver := w.driver.modify handle f } := by
  intro row hrow
  rcases h row hrow with hbefore | hzero | ⟨luid, o, hobject, hindex⟩
  · exact Or.inl hbefore
  · exact Or.inr (Or.inl hzero)
  · obtain ⟨o', hobject', hindex'⟩ := modify_ifIndex handle hf hobject
    exact Or.inr (Or.inr ⟨luid, o', hobject', hindex'.trans hindex⟩)

theorem modified_consistent (h : w.Consistent before) (hcall : w.calls.get id = some call)
    {old phase : UpPhase} (hphase : call.phase = old) (hold : old ≠ .settled)
    (hafter : phase ≠ .settled)
    {f : NtAdapter → NtAdapter} (hf : ∀ adapter, (f adapter).ifIndex = adapter.ifIndex)
    (hreached : ∀ adapter, call.Reached w.backend.routes.os.rows adapter →
      NtCall.Reached { call with phase := phase } w.backend.routes.os.rows (f adapter)) :
    Consistent before
      { w.withCall id call phase with driver := w.driver.modify call.handle f } := by
  have hsound := NtDriver.modify_sound h.owned.driver call.handle hf
  refine ⟨h.owned.moved hcall hsound (Store.modify_handles ..) w.backend phase,
    h.recorded.moved hcall (hphase ▸ hold) hafter _ w.backend.routes,
    h.placed.modify call.handle hf, InForce.moved ?_ ?_⟩
  · intro hcreated
    obtain ⟨entry, hopen, -, hentry⟩ := h.owned.held id call hcall
    exact (h.inForce id call hcall hcreated).modify_self h.owned.driver.wellFormed hopen
      (hentry.trans hcreated) hreached
  · intro id' call' hne hcall' hcreated
    exact (h.inForce id' call' hcall' hcreated).modify_other h.owned.driver.wellFormed
      (h.owned.apart hcall hne hcall') f

theorem rephased_consistent (h : w.Consistent before) (hcall : w.calls.get id = some call)
    {old phase : UpPhase} (hphase : call.phase = old) (hold : old ≠ .settled)
    (hafter : phase ≠ .settled)
    (hreached : ∀ adapter, call.Reached w.backend.routes.os.rows adapter →
      NtCall.Reached { call with phase := phase } w.backend.routes.os.rows adapter) :
    Consistent before (w.withCall id call phase) := by
  refine ⟨h.owned.moved hcall h.owned.driver rfl w.backend phase,
    h.recorded.moved hcall (hphase ▸ hold) hafter w.driver w.backend.routes, h.placed,
    InForce.moved ?_ ?_⟩
  · intro hcreated
    exact (h.inForce id call hcall hcreated).mono fun o _ _ => hreached o.value
  · intro id' call' _ hcall' hcreated
    exact h.inForce id' call' hcall' hcreated

/-! ### The call writes its routes -/

theorem ifIndex_placed (driver : NtDriver) (handle : Nat) :
    driver.ifIndex handle = 0 ∨ ∃ luid o, driver.objects.get luid = some o ∧
      o.value.ifIndex = driver.ifIndex handle := by
  cases hobject : driver.object handle with
  | none => exact Or.inl (by rw [NtDriver.ifIndex, hobject]; rfl)
  | some o =>
      obtain ⟨entry, -, hget⟩ := Option.bind_eq_some_iff.mp hobject
      exact Or.inr ⟨entry.key, o, hget, by rw [NtDriver.ifIndex, hobject]; rfl⟩

/-- The adapter that another call created is not at the interface of this one. -/
theorem Owned.other_ifIndex (h : w.Owned) (hcall : w.calls.get id = some call) {id' : Nat}
    {call' : NtCall} (hne : id' ≠ id) (hcall' : w.calls.get id' = some call')
    {o : Object NtAdapter} (hobject : w.driver.objects.get call'.handle = some o)
    (hattached : o.attached = []) : w.driver.ifIndex call.handle ≠ o.value.ifIndex := by
  obtain ⟨entry, hopen, -, -⟩ := h.held id call hcall
  have helsewhere := h.driver.wellFormed.elsewhere hobject hattached hopen
    (h.apart hcall hne hcall')
  cases hown : w.driver.objects.get entry.key with
  | none =>
      have hzero : w.driver.ifIndex call.handle = 0 := by
        simp only [NtDriver.ifIndex, Store.object, hopen, Option.bind_some, hown, Option.map_none,
          Option.getD_none]
      rw [hzero]
      exact (h.driver.indexed _ o hobject).symm
  | some own =>
      have hindex : w.driver.ifIndex call.handle = own.value.ifIndex := by
        simp only [NtDriver.ifIndex, Store.object, hopen, Option.bind_some, hown, Option.map_some,
          Option.getD_some]
      rw [hindex]
      intro heq
      exact helsewhere (h.driver.apart entry.key call'.handle own o hown hobject heq)

theorem reached_rows {rows rows' : List OsRoute} {adapter : NtAdapter}
    (h : call.Reached rows adapter)
    (hrows : ∀ row ∈ rows, row.ifIndex = adapter.ifIndex → row ∈ rows') :
    call.Reached rows' adapter := by
  have hrouted : call.Routed rows adapter → call.Routed rows' adapter := fun h row hlast =>
    hrows row (h row hlast) (WireGuardNtBackend.planned_ifIndex hlast.mem)
  obtain ⟨hname, hphase⟩ := h
  refine ⟨hname, ?_⟩
  revert hphase
  cases call.phase with
  | waiting routes => exact fun h => ⟨h.1, h.2.1, hrouted h.2.2⟩
  | settled => exact fun h => ⟨h.1, h.2.1, hrouted h.2.2⟩
  | opened | configured | raised | lowering | leaving | clearing | closing => exact id

theorem install_consistent (h : w.Consistent before) (hcall : w.calls.get id = some call)
    (hphase : call.phase = .raised) (order : Order) (answer : Except String Unit) :
    Consistent before (w.proceed id order answer call) := by
  obtain ⟨result, table, hexec, hrows, hends⟩ := WireGuardNtBackend.installSession_exec
    (w.driver.ifIndex call.handle) call.parsed w.backend
  have hbefore : call.phase ≠ .settled := by
    rw [hphase]
    exact UpPhase.noConfusion
  have hplaced : Placed before { w with backend := w.backend.withRoutes table } := by
    intro row hrow
    rw [show (w.backend.withRoutes table).routes.os.rows = table.os.rows from rfl, hrows,
      mem_upsertAll] at hrow
    rcases hrow with hnew | ⟨hold, -⟩
    · obtain ⟨addition, hmem, rfl⟩ := List.mem_map.mp hnew.mem
      have hindex := WireGuardNtBackend.planned_ifIndex
        (List.mem_map_of_mem (mem_acceptedAdditions hmem))
      rw [hindex]
      exact Or.inr (ifIndex_placed w.driver call.handle)
    · exact h.placed row hold
  have hother : ∀ id' call', id' ≠ id → w.calls.get id' = some call' → call'.created = true →
      w.driver.Alone call'.handle (call'.Reached table.os.rows) := by
    intro id' call' hne hcall' hcreated
    refine (h.inForce id' call' hcall' hcreated).mono fun o hobject hattached hreached => ?_
    refine reached_rows hreached fun row hrow hindex => ?_
    rw [hrows, mem_upsertAll]
    refine Or.inr ⟨hrow, fun new hnew hkey => ?_⟩
    obtain ⟨addition, hmem, rfl⟩ := List.mem_map.mp hnew
    have hplan := WireGuardNtBackend.planned_ifIndex
      (List.mem_map_of_mem (mem_acceptedAdditions hmem))
    have hsame : addition.row.ifIndex = row.ifIndex := congrArg Prod.snd hkey
    exact h.owned.other_ifIndex hcall hne hcall' hobject hattached
      (hplan.symm.trans (hsame.trans hindex))
  cases result with
  | error e =>
      have hafter : w.proceed id order answer call =
          { w.withCall id call .closing with backend := w.backend.withRoutes table } := by
        simp only [proceed, hphase, hexec]
      rw [hafter]
      refine ⟨h.owned.moved hcall h.owned.driver rfl _ _,
        h.recorded.moved hcall hbefore UpPhase.noConfusion w.driver table, hplaced,
        InForce.moved ?_ hother⟩
      intro hcreated
      exact (h.inForce id call hcall hcreated).mono fun o _ _ hreached => ⟨hreached.1, trivial⟩
  | ok routes =>
      have hafter : w.proceed id order answer call =
          { w.withCall id call (.waiting routes) with backend := w.backend.withRoutes table } := by
        simp only [proceed, hphase, hexec]
      rw [hafter]
      refine ⟨h.owned.moved hcall h.owned.driver rfl _ _,
        h.recorded.moved hcall hbefore UpPhase.noConfusion w.driver table, hplaced,
        InForce.moved ?_ hother⟩
      intro hcreated
      refine (h.inForce id call hcall hcreated).mono fun o hobject _ hreached => ?_
      obtain ⟨hname, hraised⟩ := hreached
      rw [hphase] at hraised
      refine ⟨hname, hraised.1, hraised.2, ?_⟩
      -- every planned route was accepted, on the interface of the adapter
      have hall : acceptedAdditions w.backend.routes.os.faults w.backend.routes.os.calls
          (WireGuardNtBackend.plannedAdditions (w.driver.ifIndex call.handle) call.parsed) =
            WireGuardNtBackend.plannedAdditions (w.driver.ifIndex call.handle) call.parsed := by
        by_contra hne
        obtain ⟨e, he⟩ := hends.mpr hne
        cases he
      obtain ⟨entry, hopen, -, hentry⟩ := h.owned.held id call hcall
      have hkey := (h.owned.driver.wellFormed.created call.handle entry hopen
        (hentry.trans hcreated)).1
      have hindex : w.driver.ifIndex call.handle = o.value.ifIndex := by
        simp only [NtDriver.ifIndex, Store.object, hopen, Option.bind_some, hkey, hobject,
          Option.map_some, Option.getD_some]
      intro row hlast
      dsimp only at hlast ⊢
      rw [show (w.backend.withRoutes table).routes.os.rows = table.os.rows from rfl, hrows, hall,
        mem_upsertAll, hindex]
      exact Or.inl hlast

/-! ### The call clears its routes -/

/-- Of `rows` the table has lost rows on interface 0 at most. -/
def OnlyZeroLost (rows : List OsRoute) (table : RouteTableManager) : Prop :=
  ∀ row, (row ∈ table.os.rows → row ∈ rows) ∧
    (row ∈ rows → row.ifIndex ≠ 0 → row ∈ table.os.rows)

theorem keeps_removeRoute (rows : List OsRoute) (handle : Nat) :
    Keeps (OnlyZeroLost rows) (RouteTableManager.removeRoute handle) := by
  have hdelete : ∀ cidr, Keeps (OnlyZeroLost rows) (RouteTableManager.osDelete cidr) := by
    intro cidr table h
    have hafter : (exec (RouteTableManager.osDelete cidr) table).2 =
        { table with os := (table.os.delete (osDest cidr) 0).2 } := by
      simp only [RouteTableManager.osDelete, exec_bind, exec_get, exec_set]
      split <;> rfl
    rw [hafter]
    intro row
    dsimp only
    rw [RouteTableManager.mem_delete_rows]
    exact ⟨fun hrow => (h row).1 hrow.1,
      fun hrow hindex => ⟨(h row).2 hrow hindex, fun hdeleted => hindex hdeleted.2.2⟩⟩
  refine keeps_bind keeps_get fun table => ?_
  split
  · exact keeps_pure _
  · exact keeps_bind (keeps_modify fun _ h => h) fun _ => hdelete _

theorem keeps_clear (rows : List OsRoute) (order : Order) :
    Keeps (fun st : RouteState => OnlyZeroLost rows st.table) (SessionRoutes.clear order) := by
  have hremove : ∀ handle, Keeps (fun st : RouteState => OnlyZeroLost rows st.table)
      (SessionRoutes.onTable (RouteTableManager.removeRoute handle)) := fun handle =>
    keeps_zoom (keeps_removeRoute rows handle) (fun _ h => h) fun _ _ _ h => h
  have hsession : ∀ f, Keeps (fun st : RouteState => OnlyZeroLost rows st.table)
      (SessionRoutes.modifySession f) := fun f => keeps_modify fun _ h => h
  have hdomain : ∀ ip, Keeps (fun st : RouteState => OnlyZeroLost rows st.table)
      (SessionRoutes.removeDomainRoute ip) := by
    intro ip
    refine keeps_bind keeps_get fun st => ?_
    split
    · exact keeps_pure _
    · exact keeps_bind (hsession _) fun _ => hremove _
  refine keeps_bind (keeps_bind keeps_get fun _ => keeps_forEach hdomain _) fun _ => ?_
  refine keeps_bind (keeps_bind keeps_get fun _ => keeps_bind (hsession _) fun _ =>
    keeps_forEach hremove _) fun _ => ?_
  refine keeps_bind keeps_get fun _ => keeps_bind (hsession _) fun _ => ?_
  exact keeps_bind (keeps_forEach hremove _) fun _ => hsession _

/-- The routes of the tunnel stay where they are: they go with the adapter. -/
theorem clear_consistent (h : w.Consistent before) (hcall : w.calls.get id = some call)
    {old : UpPhase} (hphase : call.phase = old) (hold : old ≠ .settled) (order : Order)
    (routes : SessionRoutes) :
    Consistent before { w.withCall id call .closing with
      backend := w.backend.withRoutes
        (exec (SessionRoutes.clear order) ⟨routes, w.backend.routes⟩).2.table } := by
  have hlost : OnlyZeroLost w.backend.routes.os.rows
      (exec (SessionRoutes.clear order) ⟨routes, w.backend.routes⟩).2.table :=
    keeps_clear w.backend.routes.os.rows order ⟨routes, w.backend.routes⟩
      fun row => ⟨fun hrow => hrow, fun hrow _ => hrow⟩
  generalize (exec (SessionRoutes.clear order) ⟨routes, w.backend.routes⟩).2.table = table at hlost
  refine ⟨h.owned.moved hcall h.owned.driver rfl _ _,
    h.recorded.moved hcall (hphase ▸ hold) UpPhase.noConfusion w.driver table,
    fun row hrow => h.placed row ((hlost row).1 hrow), InForce.moved ?_ ?_⟩
  · intro hcreated
    exact (h.inForce id call hcall hcreated).mono fun o _ _ hreached => ⟨hreached.1, trivial⟩
  · intro id' call' _ hcall' hcreated
    refine (h.inForce id' call' hcall' hcreated).mono fun o hobject _ hreached => ?_
    refine reached_rows hreached fun row hrow hindex => (hlost row).2 hrow ?_
    rw [hindex]
    exact h.owned.driver.indexed _ o hobject

/-! ### The map -/

theorem settle_consistent (h : w.Consistent before) (hcall : w.calls.get id = some call)
    {routes : SessionRoutes} (hphase : call.phase = .waiting routes) :
    Consistent before { w.withCall id call .settled with
      backend := { w.backend with
        sessions := w.backend.sessions.insert id
          ⟨call.name, .connected, call.created, routes⟩ } } := by
  refine ⟨h.owned.moved hcall h.owned.driver rfl _ _, ⟨?_, ?_⟩, h.placed, InForce.moved ?_ ?_⟩
  · intro id' session hsession
    dsimp only at hsession
    rw [get_insert] at hsession
    split at hsession
    · next heq =>
        subst heq
        cases hsession
        exact ⟨_, withCall_self _, rfl, rfl, rfl, rfl⟩
    · next hne =>
        obtain ⟨call', hget, hshows⟩ := h.recorded.shows id' session hsession
        exact ⟨call', (withCall_other hne _).trans hget, hshows⟩
  · intro id' call' hget hsettled
    dsimp only
    rw [get_insert]
    split
    · exact ⟨_, rfl⟩
    · next hne =>
        rcases get_withCall hget with ⟨heq, -⟩ | ⟨-, hget⟩
        · exact absurd heq hne
        · exact h.recorded.settled id' call' hget hsettled
  · intro hcreated
    refine (h.inForce id call hcall hcreated).mono fun o _ _ hreached => ?_
    obtain ⟨hname, hwaiting⟩ := hreached
    rw [hphase] at hwaiting
    exact ⟨hname, hwaiting⟩
  · intro id' call' _ hcall' hcreated
    exact h.inForce id' call' hcall' hcreated

theorem leave_consistent (h : w.Consistent before) (hcall : w.calls.get id = some call)
    (routes : SessionRoutes) :
    Consistent before { w.withCall id call (.leaving routes) with
      backend := { w.backend with sessions := w.backend.sessions.remove id } } := by
  refine ⟨h.owned.moved hcall h.owned.driver rfl _ _, ⟨?_, ?_⟩, h.placed, InForce.moved ?_ ?_⟩
  · intro id' session hsession
    dsimp only at hsession
    rw [get_remove] at hsession
    split at hsession
    · cases hsession
    · next hne =>
        obtain ⟨call', hget, hshows⟩ := h.recorded.shows id' session hsession
        exact ⟨call', (withCall_other hne _).trans hget, hshows⟩
  · intro id' call' hget hsettled
    rcases get_withCall hget with ⟨-, rfl⟩ | ⟨hne, hget⟩
    · cases hsettled
    · dsimp only
      rw [get_remove, if_neg hne]
      exact h.recorded.settled id' call' hget hsettled
  · intro hcreated
    exact (h.inForce id call hcall hcreated).mono fun o _ _ hreached => ⟨hreached.1, trivial⟩
  · intro id' call' _ hcall' hcreated
    exact h.inForce id' call' hcall' hcreated

/-! ### Handles are closed -/

theorem Placed.closeHandle (h : w.Placed before) (hsound : w.driver.Sound) (handle : Nat) :
    Placed before (w.closeHandle handle) := by
  intro row hrow
  obtain ⟨hold, hkept⟩ := (WireGuardNtBackend.mem_closeAdapter _ w.backend row).mp hrow
  rcases h row hold with hbefore | hzero | ⟨luid, o, hobject, hindex⟩
  · exact Or.inl hbefore
  · exact Or.inr (Or.inl hzero)
  · have hne : luid ≠ handle := by
      rintro rfl
      rw [NtDriver.released, hobject, Option.any_some, hindex, beq_self_eq_true] at hkept
      cases hkept
    refine Or.inr (Or.inr ⟨luid, o, ?_, hindex⟩)
    dsimp only [NtWorld.closeHandle]
    rw [Store.close_objects hsound.wellFormed, if_neg hne, hobject]

/-- What goes with a handle is not at the interface of another adapter. -/
theorem alone_closeHandle (hsound : w.driver.Sound) {handle : Nat} (hne : handle ≠ call.handle)
    (h : w.driver.Alone call.handle (call.Reached w.backend.routes.os.rows)) :
    (w.closeHandle handle).driver.Alone call.handle
      (call.Reached (w.closeHandle handle).backend.routes.os.rows) := by
  refine (h.mono fun o hobject _ hreached => ?_).close_other hsound.wellFormed
  refine reached_rows hreached fun row hrow hindex => ?_
  refine (WireGuardNtBackend.mem_closeAdapter _ w.backend row).mpr ⟨hrow, ?_⟩
  cases hown : w.driver.objects.get handle with
  | none => rw [NtDriver.released, hown, Option.any_none]
  | some own =>
      rw [NtDriver.released, hown, Option.any_some, beq_eq_false_iff_ne]
      intro heq
      exact hne (hsound.apart handle call.handle own o hown hobject (heq.trans hindex))

theorem Owned.closed (h : w.Owned) (hcall : w.calls.get id = some call) :
    Owned { w.closeHandle call.handle with calls := w.calls.remove id } := by
  have hold : ∀ {id' call'}, (w.calls.remove id).get id' = some call' →
      id' ≠ id ∧ w.calls.get id' = some call' := by
    intro id' call' hget
    rw [get_remove] at hget
    split at hget
    · cases hget
    · next hne => exact ⟨hne, hget⟩
  refine ⟨NtDriver.close_sound h.driver call.handle, ?_, ?_, ?_, ?_⟩
  · intro id' call' hget
    obtain ⟨hne, hget⟩ := hold hget
    obtain ⟨entry, hopen, hentry⟩ := h.held id' call' hget
    refine ⟨entry, ?_, hentry⟩
    dsimp only [NtWorld.closeHandle]
    rw [Store.close_handles, if_neg (h.apart hcall hne hget).symm, hopen]
  · intro handle entry hopen howner
    dsimp only [NtWorld.closeHandle] at hopen
    rw [Store.close_handles] at hopen
    split at hopen
    · cases hopen
    · next hne =>
        obtain ⟨id', call', hget, hhandle⟩ := h.known handle entry hopen howner
        refine ⟨id', call', ?_, hhandle⟩
        dsimp only
        rw [get_remove, if_neg, hget]
        rintro rfl
        rw [hcall] at hget
        cases hget
        exact hne hhandle.symm
  · intro id₁ id₂ call₁ call₂ hget₁ hget₂
    exact h.once id₁ id₂ call₁ call₂ (hold hget₁).2 (hold hget₂).2
  · intro id' call' hget
    exact h.ids id' call' (hold hget).2

theorem closed_consistent (h : w.Consistent before) (hcall : w.calls.get id = some call)
    (hphase : call.phase = .closing) :
    Consistent before { w.closeHandle call.handle with calls := w.calls.remove id } := by
  refine ⟨h.owned.closed hcall, ⟨?_, ?_⟩, h.placed.closeHandle h.owned.driver call.handle, ?_⟩
  · intro id' session hsession
    obtain ⟨call', hget, hshows⟩ := h.recorded.shows id' session hsession
    refine ⟨call', ?_, hshows⟩
    dsimp only
    rw [get_remove, if_neg, hget]
    rintro rfl
    rw [hcall] at hget
    cases hget
    cases hphase.symm.trans hshows.settled
  · intro id' call' hget hsettled
    dsimp only at hget
    rw [get_remove] at hget
    split at hget
    · cases hget
    · exact h.recorded.settled id' call' hget hsettled
  · intro id' call' hget hcreated
    dsimp only at hget
    rw [get_remove] at hget
    split at hget
    · cases hget
    · next hne =>
        exact alone_closeHandle h.owned.driver (h.owned.apart hcall hne hget)
          (h.inForce id' call' hget hcreated)

theorem proceed_consistent (h : w.Consistent before) (hcall : w.calls.get id = some call)
    (order : Order) (answer : Except String Unit) :
    Consistent before (w.proceed id order answer call) := by
  cases hphase : call.phase with
  | opened =>
      cases answer with
      | error e =>
          simp only [proceed, hphase]
          exact rephased_consistent h hcall hphase UpPhase.noConfusion UpPhase.noConfusion
            fun _ hreached => ⟨hreached.1, trivial⟩
      | ok _ =>
          simp only [proceed, hphase]
          exact modified_consistent h hcall hphase UpPhase.noConfusion UpPhase.noConfusion
            (fun _ => rfl) fun _ hreached => ⟨hreached.1, rfl⟩
  | configured =>
      cases answer with
      | error e =>
          simp only [proceed, hphase]
          exact rephased_consistent h hcall hphase UpPhase.noConfusion UpPhase.noConfusion
            fun _ hreached => ⟨hreached.1, trivial⟩
      | ok _ =>
          simp only [proceed, hphase]
          refine modified_consistent h hcall hphase UpPhase.noConfusion UpPhase.noConfusion
            (fun _ => rfl) ?_
          intro adapter hreached
          obtain ⟨hname, hconfigured⟩ := hreached
          rw [hphase] at hconfigured
          exact ⟨hname, hconfigured, rfl⟩
  | raised => exact install_consistent h hcall hphase order answer
  | waiting routes =>
      cases answer with
      | error e =>
          simp only [proceed, hphase]
          exact rephased_consistent h hcall hphase UpPhase.noConfusion UpPhase.noConfusion
            fun _ hreached => ⟨hreached.1, trivial⟩
      | ok _ =>
          simp only [proceed, hphase]
          exact settle_consistent h hcall hphase
  | settled =>
      simp only [proceed, hphase]
      exact h
  | lowering =>
      cases answer with
      | error e =>
          simp only [proceed, hphase]
          exact rephased_consistent h hcall hphase UpPhase.noConfusion UpPhase.noConfusion
            fun _ hreached => ⟨hreached.1, trivial⟩
      | ok _ =>
          simp only [proceed, hphase]
          exact modified_consistent h hcall hphase UpPhase.noConfusion UpPhase.noConfusion
            (fun _ => rfl) fun _ hreached => ⟨hreached.1, trivial⟩
  | leaving routes =>
      cases answer with
      | error e =>
          simp only [proceed, hphase]
          exact rephased_consistent h hcall hphase UpPhase.noConfusion UpPhase.noConfusion
            fun _ hreached => ⟨hreached.1, trivial⟩
      | ok _ =>
          simp only [proceed, hphase]
          exact modified_consistent h hcall hphase UpPhase.noConfusion UpPhase.noConfusion
            (fun _ => rfl) fun _ hreached => ⟨hreached.1, trivial⟩
  | clearing routes =>
      simp only [proceed, hphase]
      exact clear_consistent h hcall hphase UpPhase.noConfusion order routes
  | closing =>
      simp only [proceed, hphase]
      exact closed_consistent h hcall hphase

theorem cancel_consistent (h : w.Consistent before) (hcall : w.calls.get id = some call) :
    Consistent before (w.cancel id call) := by
  unfold cancel
  split
  · next routes hphase =>
      exact rephased_consistent h hcall hphase UpPhase.noConfusion UpPhase.noConfusion
        fun _ hreached => ⟨hreached.1, trivial⟩
  · exact h

end Moved

/-! ## Handles are given out -/

section Given
variable {w : NtWorld} {before : List OsRoute} {driver : NtDriver} {handle : Nat} {created : Bool}

theorem Placed.given {owner : Process} (h : w.Placed before)
    (hgives : w.driver.Gives owner created handle driver) (calls : Table Nat NtCall)
    (nextUuid : Nat) : Placed before ⟨w.backend, driver, calls, nextUuid⟩ := by
  intro row hrow
  rcases h row hrow with hbefore | hzero | ⟨luid, o, hobject, hindex⟩
  · exact Or.inl hbefore
  · exact Or.inr (Or.inl hzero)
  · obtain ⟨o', hobject', hvalue⟩ := hgives.objects luid o hobject
    exact Or.inr (Or.inr ⟨luid, o', hobject', by rw [hvalue, hindex]⟩)

theorem InForce.given {owner : Process} (h : w.InForce) (howned : w.Owned)
    (hgives : w.driver.Gives owner created handle driver) {id : Nat} {call : NtCall}
    (hcall : w.calls.get id = some call) (hcreated : call.created = true) :
    driver.Alone call.handle (call.Reached w.backend.routes.os.rows) := by
  obtain ⟨entry, hopen, -, -⟩ := howned.held id call hcall
  exact hgives.alone call.handle _ (howned.driver.wellFormed.older call.handle entry hopen).1
    (h id call hcall hcreated)

theorem given_consistent (h : w.Consistent before)
    (hgives : w.driver.Gives .other created handle driver) (hsound : driver.Sound) :
    Consistent before { w with driver := driver } := by
  refine ⟨⟨hsound, ?_, ?_, h.owned.once, h.owned.ids⟩, ⟨h.recorded.shows, h.recorded.settled⟩,
    h.placed.given hgives w.calls w.nextUuid, ?_⟩
  · intro id call hcall
    obtain ⟨entry, hopen, hentry⟩ := h.owned.held id call hcall
    exact ⟨entry, hgives.kept h.owned.driver.wellFormed hopen, hentry⟩
  · intro other entry hopen howner
    rcases hgives.older hopen with ⟨-, hother⟩ | hopen
    · cases howner.symm.trans hother
    · exact h.owned.known other entry hopen howner
  · intro id call hcall hcreated
    exact h.inForce.given h.owned hgives hcall hcreated

theorem opened_consistent (h : w.Consistent before) (call : NtCall)
    (hgives : w.driver.Gives .service call.created call.handle driver) (hsound : driver.Sound)
    (hphase : call.phase = .opened) (hname : call.created = true →
      driver.Alone call.handle fun adapter => adapter.name = call.name) :
    Consistent before { w with
      driver := driver
      calls := w.calls.insert w.nextUuid call
      nextUuid := w.nextUuid + 1 } := by
  have hcases : ∀ {id call'}, (w.calls.insert w.nextUuid call).get id = some call' →
      id = w.nextUuid ∧ call' = call ∨ w.calls.get id = some call' := by
    intro id call' hget
    rw [get_insert] at hget
    split at hget
    · next heq => exact Or.inl ⟨heq, (Option.some.inj hget).symm⟩
    · exact Or.inr hget
  have hold : ∀ {id call'}, w.calls.get id = some call' →
      (w.calls.insert w.nextUuid call).get id = some call' := by
    intro id call' hget
    rw [get_insert, if_neg (Nat.ne_of_lt (h.owned.ids id call' hget)), hget]
  have hfresh : ∀ {id call'}, w.calls.get id = some call' → call'.handle ≠ call.handle := by
    intro id call' hget heq
    obtain ⟨entry, hopen, -, -⟩ := h.owned.held id call' hget
    have holder := (h.owned.driver.wellFormed.older _ entry hopen).1
    rw [heq, hgives.handle_next] at holder
    exact Nat.lt_irrefl _ holder
  refine ⟨⟨hsound, ?_, ?_, ?_, ?_⟩, ⟨?_, ?_⟩, h.placed.given hgives _ _, ?_⟩
  · intro id call' hget
    rcases hcases hget with ⟨-, rfl⟩ | hget
    · exact hgives.given
    · obtain ⟨entry, hopen, hentry⟩ := h.owned.held id call' hget
      exact ⟨entry, hgives.kept h.owned.driver.wellFormed hopen, hentry⟩
  · intro handle entry hopen howner
    rcases hgives.older hopen with ⟨hhandle, -⟩ | hopen
    · exact ⟨w.nextUuid, call, by dsimp only; rw [get_insert, if_pos rfl], hhandle.symm⟩
    · obtain ⟨id, call', hget, hhandle⟩ := h.owned.known handle entry hopen howner
      exact ⟨id, call', hold hget, hhandle⟩
  · intro id₁ id₂ call₁ call₂ hget₁ hget₂ heq
    rcases hcases hget₁ with ⟨rfl, rfl⟩ | hold₁
    · rcases hcases hget₂ with ⟨rfl, -⟩ | hold₂
      · rfl
      · exact absurd heq.symm (hfresh hold₂)
    · rcases hcases hget₂ with ⟨-, rfl⟩ | hold₂
      · exact absurd heq (hfresh hold₁)
      · exact h.owned.once id₁ id₂ call₁ call₂ hold₁ hold₂ heq
  · intro id call' hget
    rcases hcases hget with ⟨rfl, -⟩ | hget
    · exact Nat.lt_succ_self _
    · exact Nat.lt_succ_of_lt (h.owned.ids id call' hget)
  · intro id session hsession
    obtain ⟨call', hget, hshows⟩ := h.recorded.shows id session hsession
    exact ⟨call', hold hget, hshows⟩
  · intro id call' hget hsettled
    rcases hcases hget with ⟨-, rfl⟩ | hget
    · cases hphase.symm.trans hsettled
    · exact h.recorded.settled id call' hget hsettled
  · intro id call' hget hcreated
    rcases hcases hget with ⟨-, rfl⟩ | hget
    · refine (hname hcreated).mono fun o _ _ hnamed => ⟨hnamed, ?_⟩
      rw [hphase]
      trivial
    · exact h.inForce.given h.owned hgives hget hcreated

theorem startUp_consistent (h : w.Consistent before) (parseNet : String → Except String IpNet)
    (request : UpRequest) : Consistent before (w.startUp parseNet request) := by
  unfold startUp
  split
  · exact h
  · next parsed wireConfig _ =>
      split
      · exact h
      · next handle created driver hopen =>
          obtain ⟨hgives, hsound, hname⟩ := NtDriver.openOrCreate_gives h.owned.driver hopen
          exact opened_consistent h
            { name := request.config.name, handle, created, parsed, wireConfig } hgives hsound rfl
            hname

end Given

/-! ## Other programs -/

section Others
variable {w : NtWorld} {before : List OsRoute} {handle : Nat}

theorem Owned.not_other (h : w.Owned) (howned : w.driver.ownedBy .other handle = true) {id : Nat}
    {call : NtCall} (hcall : w.calls.get id = some call) : handle ≠ call.handle := by
  rintro rfl
  obtain ⟨entry, hopen, howner, -⟩ := h.held id call hcall
  rw [NtDriver.ownedBy, hopen, Option.any_some, howner] at howned
  cases howned

theorem otherModify_consistent (h : w.Consistent before)
    (howned : w.driver.ownedBy .other handle = true) {f : NtAdapter → NtAdapter}
    (hf : ∀ adapter, (f adapter).ifIndex = adapter.ifIndex) :
    Consistent before { w with driver := w.driver.modify handle f } := by
  have hhandles := Store.modify_handles (s := w.driver) handle f
  refine ⟨⟨NtDriver.modify_sound h.owned.driver handle hf, ?_, ?_, h.owned.once, h.owned.ids⟩,
    ⟨h.recorded.shows, h.recorded.settled⟩, h.placed.modify handle hf, ?_⟩
  · intro id call hcall
    dsimp only
    rw [hhandles]
    exact h.owned.held id call hcall
  · intro other entry hopen howner
    dsimp only at hopen
    rw [hhandles] at hopen
    exact h.owned.known other entry hopen howner
  · intro id call hcall hcreated
    exact (h.inForce id call hcall hcreated).modify_other h.owned.driver.wellFormed
      (h.owned.not_other howned hcall) f

theorem otherClose_consistent (h : w.Consistent before)
    (howned : w.driver.ownedBy .other handle = true) :
    Consistent before (w.closeHandle handle) := by
  refine ⟨⟨NtDriver.close_sound h.owned.driver handle, ?_, ?_, h.owned.once, h.owned.ids⟩,
    ⟨h.recorded.shows, h.recorded.settled⟩, h.placed.closeHandle h.owned.driver handle, ?_⟩
  · intro id call hcall
    obtain ⟨entry, hopen, hentry⟩ := h.owned.held id call hcall
    refine ⟨entry, ?_, hentry⟩
    dsimp only [closeHandle]
    rw [Store.close_handles, if_neg (h.owned.not_other howned hcall).symm, hopen]
  · intro other entry hopen howner
    dsimp only [closeHandle] at hopen
    rw [Store.close_handles] at hopen
    split at hopen
    · cases hopen
    · exact h.owned.known other entry hopen howner
  · intro id call hcall hcreated
    exact alone_closeHandle h.owned.driver (h.owned.not_other howned hcall)
      (h.inForce id call hcall hcreated)

theorem otherStep_consistent (h : w.Consistent before) (call : OtherCall) :
    Consistent before (w.otherStep call) := by
  cases call with
  | create name answers =>
      simp only [otherStep]
      split
      · exact h
      · next handle driver hcreate =>
          obtain ⟨hgives, hsound, -⟩ := NtDriver.createAdapter_gives h.owned.driver hcreate
          exact given_consistent h hgives hsound
  | openAdapter name answers =>
      simp only [otherStep]
      split
      · exact h
      · next handle driver hopen =>
          obtain ⟨hgives, hsound⟩ := NtDriver.openAdapter_gives h.owned.driver hopen
          exact given_consistent h hgives hsound
  | setConfiguration handle config =>
      simp only [otherStep]
      split
      · next howned => exact otherModify_consistent h howned fun _ => rfl
      · exact h
  | setAdapterState handle up =>
      simp only [otherStep]
      split
      · next howned => exact otherModify_consistent h howned fun _ => rfl
      · exact h
  | close handle =>
      simp only [otherStep]
      split
      · next howned => exact otherClose_consistent h howned
      · exact h

end Others

/-! ## Runs -/

theorem step_consistent (parseNet : String → Except String IpNet) (before : List OsRoute)
    (w : NtWorld) (event : NtStep) (h : w.Consistent before) :
    Consistent before (w.step parseNet event) := by
  cases event with
  | up request => exact startUp_consistent h parseNet request
  | proceed id order answer =>
      simp only [step]
      split
      · exact h
      · next call hcall => exact proceed_consistent h hcall order answer
  | cancel id =>
      simp only [step]
      split
      · exact h
      · next call hcall => exact cancel_consistent h hcall
  | down id =>
      simp only [step]
      split
      · next session call _ hcall => exact leave_consistent h hcall session.sessionRoutes
      · exact h
  | other call => exact otherStep_consistent h call

def start (table : RouteTableManager) : NtWorld := { backend := { routes := table } }

theorem start_consistent (table : RouteTableManager) :
    (start table).Consistent table.os.rows := by
  have hnone : ∀ {V : Type} {id : Nat} {v : V} {P : Prop},
      (∅ : Table Nat V).get id = some v → P := by
    intro V id v P hget
    rw [get_empty] at hget
    cases hget
  refine ⟨⟨⟨Store.wellFormed_empty, ?_, ?_⟩, ?_, ?_, ?_, ?_⟩, ⟨?_, ?_⟩, ?_, ?_⟩
  · exact fun _ _ _ _ hobject => hnone hobject
  · exact fun _ _ hobject => hnone hobject
  · exact fun _ _ hcall => hnone hcall
  · exact fun _ _ hopen => hnone hopen
  · exact fun _ _ _ _ hcall => hnone hcall
  · exact fun _ _ hcall => hnone hcall
  · exact fun _ _ hsession => hnone hsession
  · exact fun _ _ hcall => hnone hcall
  · exact fun row hrow => Or.inl hrow
  · exact fun _ _ hcall => hnone hcall

/-- In every run, whatever the driver answers and other programs do, the service holds the handles
of its calls and no others, an adapter of its own is there exactly while the call that created it
holds it, and its tunnel is in force there. -/
theorem run_consistent (parseNet : String → Except String IpNet) (table : RouteTableManager)
    (events : List NtStep) :
    (run (step parseNet) (start table) events).Consistent table.os.rows :=
  run_keeps (step parseNet) (step_consistent parseNet table.os.rows) events _
    (start_consistent table)

/-- A service whose calls are all over has no handle; the adapters that are there belong to other
programs, and so do the interfaces of the rows it left. -/
theorem Consistent.over {w : NtWorld} {before : List OsRoute} (h : w.Consistent before)
    (hover : ∀ id, w.calls.get id = none) :
    (∀ handle entry, w.driver.handles.get handle = some entry → entry.owner = .other) ∧
      ∀ row ∈ w.backend.routes.os.rows, row ∈ before ∨ row.ifIndex = 0 ∨
        ∃ luid o entry, w.driver.objects.get luid = some o ∧ o.value.ifIndex = row.ifIndex ∧
          w.driver.handles.get luid = some entry ∧ entry.owner = .other := by
  have howner : ∀ handle entry, w.driver.handles.get handle = some entry →
      entry.owner = .other := by
    intro handle entry hopen
    cases howner : entry.owner with
    | other => rfl
    | service =>
        obtain ⟨id, call, hcall, -⟩ := h.owned.known handle entry hopen howner
        rw [hover id] at hcall
        cases hcall
  refine ⟨howner, fun row hrow => ?_⟩
  rcases h.placed row hrow with hbefore | hzero | ⟨luid, o, hobject, hindex⟩
  · exact Or.inl hbefore
  · exact Or.inr (Or.inl hzero)
  · obtain ⟨entry, hopen, -⟩ := h.owned.driver.wellFormed.present luid o hobject
    exact Or.inr (Or.inr ⟨luid, o, entry, hobject, hindex, hopen, howner luid entry hopen⟩)

/-! ## A call that is not interrupted -/

section Solo
variable {parseNet : String → Except String IpNet} {w : NtWorld} {id : Nat} {call : NtCall}
  {order : Order}

def upAnswers (request : UpRequest) (w : NtWorld)
    (configured raised handshake : Except String Unit) : UpAnswers where
  library := request.library
  readFile _ := request.file
  padding := request.padding
  openAdapter name := (w.driver.openAdapter .service name request.adapter).map fun _ => ()
  createAdapter name := (w.driver.createAdapter .service name request.adapter).map fun _ => ()
  setConfiguration _ := configured
  setStateUp := raised
  luid := match w.driver.openOrCreate .service request.config.name request.adapter with
    | .error _ => 0
    | .ok (handle, _, driver) => ((driver.handles.get handle).map Handle.key).getD 0
  convertLuid luid := match w.driver.openOrCreate .service request.config.name request.adapter with
    | .error _ => none
    | .ok (_, _, driver) => (driver.objects.get luid).map fun o => o.value.ifIndex
  id := w.nextUuid
  waitForHandshake := handshake
  released ifIndex :=
    match w.driver.openOrCreate .service request.config.name request.adapter with
    | .error _ => false
    | .ok (handle, _, driver) => driver.released handle ifIndex

theorem upAnswers_openOrCreate (request : UpRequest) (w : NtWorld)
    (configured raised handshake : Except String Unit) :
    (upAnswers request w configured raised handshake).openOrCreate request.config.name =
      (w.driver.openOrCreate .service request.config.name request.adapter).map
        fun opened => opened.2.1 := by
  unfold UpAnswers.openOrCreate NtDriver.openOrCreate upAnswers
  dsimp only
  cases w.driver.openAdapter .service request.config.name request.adapter with
  | ok opened => rfl
  | error failure =>
      simp only [Except.map]
      split
      · cases w.driver.createAdapter .service request.config.name request.adapter <;> rfl
      · rfl

theorem released_modify (driver : NtDriver) (handle other : Nat) {f : NtAdapter → NtAdapter}
    (hf : ∀ adapter, (f adapter).ifIndex = adapter.ifIndex) :
    NtDriver.released (driver.modify handle f) other = driver.released other := by
  funext ifIndex
  unfold NtDriver.released
  rcases Store.modify_objects (s := driver) handle f other with hsame | ⟨_, o, -, -, hold, hnew⟩
  · rw [hsame]
  · rw [hold, hnew, Option.any_some, Option.any_some, hf]

theorem ifIndex_modify (driver : NtDriver) (handle : Nat) {f : NtAdapter → NtAdapter}
    (hf : ∀ adapter, (f adapter).ifIndex = adapter.ifIndex) :
    NtDriver.ifIndex (driver.modify handle f) handle = driver.ifIndex handle := by
  unfold NtDriver.ifIndex Store.object
  rw [Store.modify_handles]
  cases driver.handles.get handle with
  | none => rfl
  | some entry =>
      dsimp only [Option.bind_some]
      rcases Store.modify_objects (s := driver) handle f entry.key with
        hsame | ⟨_, o, -, -, hold, hnew⟩
      · rw [hsame]
      · rw [hold, hnew, Option.map_some, Option.map_some, hf]

theorem run_gone (h : w.calls.get id = none) (answers : List (Except String Unit)) :
    run (step parseNet) w (answers.map (.proceed id order)) = w := by
  induction answers with
  | nil => rfl
  | cons answer rest ih =>
      have hstep : w.step parseNet (.proceed id order answer) = w := by simp only [step, h]
      rw [List.map_cons, run_cons, hstep, ih]

theorem run_settled (backend : WireGuardNtBackend) (answers : List (Except String Unit)) :
    (run (step parseNet) { w.withCall id call .settled with backend := backend }
      (answers.map (.proceed id order))).backend = backend := by
  induction answers with
  | nil => rfl
  | cons answer rest ih =>
      rw [List.map_cons, run_cons]
      simp only [step, withCall_self, proceed]
      exact ih

theorem run_closing (driver : NtDriver) (backend : WireGuardNtBackend)
    (answer : Except String Unit) (rest : List (Except String Unit)) :
    (run (step parseNet)
        { w.withCall id call .closing with driver := driver, backend := backend }
        ((answer :: rest).map (.proceed id order))).backend =
      WireGuardNtBackend.closeAdapter (driver.released call.handle) backend := by
  rw [List.map_cons, run_cons]
  simp only [step, withCall_self, proceed]
  rw [run_gone]
  · rfl
  · dsimp only
    rw [get_remove, if_pos rfl]

/-- `up_impl` up to the driver. -/
theorem upImpl_exec {answers : UpAnswers} (request : UpRequest)
    (hlibrary : answers.library = request.library)
    (hfile : answers.readFile request.config.configPath = request.file)
    (hpadding : answers.padding = request.padding) (backend : WireGuardNtBackend) :
    exec (WireGuardNtBackend.upImpl parseNet answers request.config) backend =
      match prepareUp parseNet request with
      | .error e => (.error e, backend)
      | .ok (parsed, wireConfig) =>
          match answers.openOrCreate request.config.name with
          | .error text => (.error (.error (.tunnel text)), backend)
          | .ok created => exec (WireGuardNtBackend.holdingAdapter answers.released
              (WireGuardNtBackend.bringUp answers request.config parsed created wireConfig))
              backend := by
  rw [WireGuardNtBackend.upImpl, hlibrary, hfile, hpadding]
  unfold prepareUp
  cases hlib : tunnelText request.library with
  | error e => exact exec_fromResult_error rfl _ _
  | ok _ =>
  rw [exec_fromResult_ok rfl]
  cases hconf : wgntText (parseConfFile parseNet request.config.configPath request.file) with
  | error e => exact exec_fromResult_error rfl _ _
  | ok parsed =>
  rw [exec_fromResult_ok rfl]
  cases hwire : wgntText (serializeInterface request.padding parsed) with
  | error e =>
      rw [exec_fromResult_error rfl]
      simp only [bind, Except.bind, hwire]
  | ok wireConfig =>
  rw [exec_fromResult_ok rfl]
  simp only [bind, Except.bind, hwire, pure, Except.pure]
  cases hopen : answers.openOrCreate request.config.name with
  | error text => exact exec_fromResult_error rfl _ _
  | ok created => exact exec_fromResult_ok rfl _ _

/-- `up_impl` from the open adapter on, by the answers of the driver. -/
theorem bringUp_exec (answers : UpAnswers) (config : TunnelConfig) (parsed : ParsedConf)
    (created : Bool) (wireConfig : List UInt8) (backend : WireGuardNtBackend) :
    (exec (WireGuardNtBackend.holdingAdapter answers.released
        (WireGuardNtBackend.bringUp answers config parsed created wireConfig)) backend).2 =
      match answers.setConfiguration wireConfig, answers.setStateUp with
      | .error _, _ => WireGuardNtBackend.closeAdapter answers.released backend
      | .ok _, .error _ => WireGuardNtBackend.closeAdapter answers.released backend
      | .ok _, .ok _ =>
          match exec (WireGuardNtBackend.installSession answers.ifIndex parsed) backend with
          | (.error _, after) => WireGuardNtBackend.closeAdapter answers.released after
          | (.ok routes, after) =>
              match answers.waitForHandshake with
              | .error _ => WireGuardNtBackend.closeAdapter answers.released after
              | .ok _ => { after with
                  sessions := after.sessions.insert answers.id
                    ⟨config.name, .connected, created, routes⟩ } := by
  have hindex : answers.luidToIfIndex answers.luid = answers.ifIndex := rfl
  simp only [WireGuardNtBackend.holdingAdapter, WireGuardNtBackend.bringUp, exec_bind, exec_caught,
    exec_fromResult, hindex]
  cases answers.setConfiguration wireConfig with
  | error e => rfl
  | ok _ =>
  cases answers.setStateUp with
  | error e => rfl
  | ok _ =>
  simp only [tunnelText, Except.mapError]
  cases exec (WireGuardNtBackend.installSession answers.ifIndex parsed) backend with
  | mk result after =>
  cases result with
  | error e => rfl
  | ok routes =>
  cases answers.waitForHandshake with
  | error e => rfl
  | ok _ => rfl

theorem run_waiting (driver : NtDriver) (backend : WireGuardNtBackend) (routes : SessionRoutes)
    (handshake lowered : Except String Unit) :
    (run (step parseNet)
        { w.withCall id call (.waiting routes) with driver := driver, backend := backend }
        ([handshake, lowered, .ok ()].map (.proceed id order))).backend =
      match handshake with
      | .error _ => WireGuardNtBackend.closeAdapter (driver.released call.handle) backend
      | .ok _ => { backend with
          sessions := backend.sessions.insert id
            ⟨call.name, .connected, call.created, routes⟩ } := by
  rw [List.map_cons, run_cons]
  cases handshake with
  | ok _ =>
      simp only [step, withCall_self, proceed]
      exact run_settled _ _
  | error e =>
      simp only [step, withCall_self, proceed]
      rw [List.map_cons, run_cons]
      cases lowered with
      | error e' =>
          simp only [step, withCall_self, proceed]
          exact run_closing _ _ _ _
      | ok _ =>
          simp only [step, withCall_self, proceed]
          refine (run_closing _ _ _ _).trans ?_
          exact congrArg (fun released => WireGuardNtBackend.closeAdapter released backend)
            (released_modify _ _ _ fun _ => rfl)

theorem run_raised (driver : NtDriver) (backend : WireGuardNtBackend)
    (handshake lowered : Except String Unit) :
    (run (step parseNet)
        { w.withCall id call .raised with driver := driver, backend := backend }
        ([.ok (), handshake, lowered, .ok ()].map (.proceed id order))).backend =
      match exec (WireGuardNtBackend.installSession (driver.ifIndex call.handle) call.parsed)
          backend with
      | (.error _, after) => WireGuardNtBackend.closeAdapter (driver.released call.handle) after
      | (.ok routes, after) =>
          match handshake with
          | .error _ => WireGuardNtBackend.closeAdapter (driver.released call.handle) after
          | .ok _ => { after with
              sessions := after.sessions.insert id
                ⟨call.name, .connected, call.created, routes⟩ } := by
  rw [List.map_cons, run_cons]
  simp only [step, withCall_self, proceed]
  cases exec (WireGuardNtBackend.installSession (driver.ifIndex call.handle) call.parsed)
      backend with
  | mk result after =>
  cases result with
  | error e => exact run_closing _ _ _ _
  | ok routes => exact run_waiting _ _ _ _ _

/-- The same call in a world where nothing else happens. -/
theorem run_opened {answers : UpAnswers} {config : TunnelConfig}
    {configured raised handshake : Except String Unit}
    (hcall : w.calls.get answers.id = some call) (hphase : call.phase = .opened)
    (hname : call.name = config.name)
    (hconfigured : answers.setConfiguration call.wireConfig = configured)
    (hraised : answers.setStateUp = raised) (hhandshake : answers.waitForHandshake = handshake)
    (hindex : answers.ifIndex = w.driver.ifIndex call.handle)
    (hreleased : answers.released = w.driver.released call.handle)
    (lowered : Except String Unit) :
    (run (step parseNet) w ([configured, raised, .ok (), handshake, lowered, .ok ()].map
      (.proceed answers.id order))).backend =
        (exec (WireGuardNtBackend.holdingAdapter answers.released
          (WireGuardNtBackend.bringUp answers config call.parsed call.created call.wireConfig))
          w.backend).2 := by
  rw [bringUp_exec, hconfigured, hraised, hhandshake, hindex, hreleased, ← hname, List.map_cons,
    run_cons]
  cases configured with
  | error e =>
      simp only [step, hcall, proceed, hphase]
      exact run_closing _ _ _ _
  | ok _ =>
  have hrel : NtDriver.released (w.driver.setConfiguration call.handle call.wireConfig)
      call.handle = w.driver.released call.handle := released_modify _ _ _ fun _ => rfl
  have hif : NtDriver.ifIndex (w.driver.setConfiguration call.handle call.wireConfig)
      call.handle = w.driver.ifIndex call.handle := ifIndex_modify _ _ fun _ => rfl
  simp only [step, hcall, proceed, hphase]
  rw [← hrel, ← hif]
  generalize w.driver.setConfiguration call.handle call.wireConfig = driver
  rw [List.map_cons, run_cons]
  cases raised with
  | error e =>
      simp only [step, withCall_self, proceed]
      exact run_closing _ _ _ _
  | ok _ =>
  have hrel : NtDriver.released (driver.setAdapterState call.handle true) call.handle =
      driver.released call.handle := released_modify _ _ _ fun _ => rfl
  have hif : NtDriver.ifIndex (driver.setAdapterState call.handle true) call.handle =
      driver.ifIndex call.handle := ifIndex_modify _ _ fun _ => rfl
  simp only [step, withCall_self, proceed]
  rw [← hrel, ← hif]
  exact run_raised _ _ _ _

/-- A call that nothing interrupts does what `up_impl` does. -/
theorem run_upImpl (request : UpRequest) (w : NtWorld) (hdriver : w.driver.Sound)
    (hfresh : w.calls.get w.nextUuid = none)
    (configured raised handshake lowered : Except String Unit) :
    (run (step parseNet) w (.up request ::
        [configured, raised, .ok (), handshake, lowered, .ok ()].map
          (.proceed w.nextUuid order))).backend =
      (exec (WireGuardNtBackend.upImpl parseNet
        (upAnswers request w configured raised handshake) request.config) w.backend).2 := by
  rw [upImpl_exec request rfl rfl rfl, upAnswers_openOrCreate, run_cons]
  simp only [step, startUp]
  cases prepareUp parseNet request with
  | error e => exact congrArg NtWorld.backend (run_gone hfresh _)
  | ok prepared =>
  obtain ⟨parsed, wireConfig⟩ := prepared
  cases hopen : w.driver.openOrCreate .service request.config.name request.adapter with
  | error text => exact congrArg NtWorld.backend (run_gone hfresh _)
  | ok opened =>
  obtain ⟨handle, created, driver⟩ := opened
  obtain ⟨hgives, -, -⟩ := NtDriver.openOrCreate_gives hdriver hopen
  obtain ⟨entry, hentry, -⟩ := hgives.given
  have hindex : (upAnswers request w configured raised handshake).ifIndex =
      driver.ifIndex handle := by
    simp only [UpAnswers.ifIndex, UpAnswers.luidToIfIndex, upAnswers, hopen, NtDriver.ifIndex,
      Store.object, hentry, Option.map_some, Option.getD_some, Option.bind_some]
  have hreleased : (upAnswers request w configured raised handshake).released =
      driver.released handle := by
    funext ifIndex
    simp only [upAnswers, hopen]
  let call : NtCall := { name := request.config.name, handle, created, parsed, wireConfig }
  have hcall : (w.calls.insert w.nextUuid call).get w.nextUuid = some call := by
    rw [get_insert, if_pos rfl]
  exact @run_opened parseNet
    { w with driver := driver, calls := w.calls.insert w.nextUuid call, nextUuid := w.nextUuid + 1 }
    call order (upAnswers request w configured raised handshake) request.config configured raised
    handshake hcall rfl rfl rfl rfl rfl hindex hreleased lowered

end Solo

end NtWorld
end RouteGuard
