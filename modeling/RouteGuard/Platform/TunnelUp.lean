import RouteGuard.Platform.AwgBackend
import RouteGuard.Platform.TunnelRoutes

/-! # Bringing up a WireGuard tunnel

`up_impl` of `tunnel.rs`.  The library, the file and the driver answer as
`UpAnswers` says; the route calls answer as the table does.  The session of the
call is local until the handshake, and a call that fails drops it. -/
set_option autoImplicit false
namespace RouteGuard

open HashTable Fallible Upsert

/-! ## Answers from outside -/

/-- A `WgntError` of the driver: the Win32 code of its `Api` variant and the text. -/
structure AdapterFailure where
  code : Option Nat
  text : String
deriving DecidableEq, Repr

structure UpAnswers where
  library : Except String Unit
  readFile : String → Except String String
  /-- What the padding of the records holds. -/
  padding : Nat → UInt8 := fun _ => 0
  openAdapter : String → Except AdapterFailure Unit
  createAdapter : String → Except String Unit
  setConfiguration : List UInt8 → Except String Unit
  setStateUp : Except String Unit
  luid : Nat
  convertLuid : Nat → Option Nat
  id : Nat
  waitForHandshake : Except String Unit
  /-- The interfaces whose routes the system takes away when the adapter is closed:
  `WireGuardCloseAdapter` removes an adapter that this handle created. -/
  released : Nat → Bool

namespace UpAnswers

/-- `AdapterHandle::open_or_create`; 2 is `ERROR_FILE_NOT_FOUND`. -/
def openOrCreate (answers : UpAnswers) (name : String) : Except String Bool :=
  match answers.openAdapter name with
  | .ok _ => .ok false
  | .error failure =>
      if failure.code = some 2 then (answers.createAdapter name).map fun _ => true
      else .error failure.text

def luidToIfIndex (answers : UpAnswers) (luid : Nat) : Nat := (answers.convertLuid luid).getD 0

def ifIndex (answers : UpAnswers) : Nat := answers.luidToIfIndex answers.luid

end UpAnswers

def parseConfFile (parseNet : String → Except String IpNet) (path : String)
    (file : Except String String) : WgntResult ParsedConf :=
  match file with
  | .error e => wgntConfig ("read " ++ path ++ ": " ++ e)
  | .ok text => parseConfText parseNet text

theorem parseConfFile_ok (parseNet : String → Except String IpNet) (path text : String) :
    parseConfFile parseNet path (.ok text) = parseConfText parseNet text := rfl

/-! ## The call -/

inductive TunnelLifecycle where
  | disconnected
  | connecting
  | connected
  | reconnecting
  | disconnecting
  | error
deriving DecidableEq, Repr

/-- The adapter of a session is known by its name. -/
structure WireGuardNtBackend.TunnelSession where
  adapter : String
  lifecycle : TunnelLifecycle
  created : Bool
  sessionRoutes : SessionRoutes

structure WireGuardNtBackend where
  sessions : Table Nat WireGuardNtBackend.TunnelSession := ∅
  routes : RouteTableManager := {}

def tunnelText {A : Type} (result : Except String A) : Except (Abort RouteGuardError) A :=
  result.mapError fun text => .error (.tunnel text)

def wgntText {A : Type} (result : WgntResult A) : Except (Abort RouteGuardError) A :=
  result.mapError fun e => e.mapError fun e => .tunnel e.toString

namespace WireGuardNtBackend

abbrev UpProg (A : Type) := Prog WireGuardNtBackend (Abort RouteGuardError) A

def withRoutes (routes : RouteTableManager) (backend : WireGuardNtBackend) : WireGuardNtBackend :=
  { backend with routes := routes }

def closeAdapter (released : Nat → Bool) (backend : WireGuardNtBackend) : WireGuardNtBackend :=
  backend.withRoutes { backend.routes with os := { backend.routes.os with
    rows := backend.routes.os.rows.filter fun row => !released row.ifIndex } }

/-- The body owns the adapter, and drops it where it fails. -/
def holdingAdapter {A : Type} (released : Nat → Bool) (body : UpProg A) : UpProg A := do
  match ← caught body with
  | .ok a => pure a
  | .error e => do
      modify (closeAdapter released)
      throw e

def installSession (ifIndex : Nat) (parsed : ParsedConf) : UpProg SessionRoutes :=
  mapError .error
    (zoom (fun backend => ⟨{}, backend.routes⟩) (fun st => withRoutes st.table) do
      installRoutes ifIndex parsed
      pure (← get).session)

section Up
variable (parseNet : String → Except String IpNet) (answers : UpAnswers) (config : TunnelConfig)

def bringUp (parsed : ParsedConf) (created : Bool) (wireConfig : List UInt8) :
    UpProg TunnelHandle := do
  fromResult (tunnelText (answers.setConfiguration wireConfig))
  fromResult (tunnelText answers.setStateUp)
  let ifIndex := answers.luidToIfIndex answers.luid
  let sessionRoutes ← installSession ifIndex parsed
  fromResult (tunnelText answers.waitForHandshake)
  modify fun backend => { backend with
    sessions := backend.sessions.insert answers.id
      ⟨config.name, .connected, created, sessionRoutes⟩ }
  pure ⟨answers.id, config.name, ifIndex, answers.luid, .wireGuardNt⟩

def upImpl : UpProg TunnelHandle := do
  fromResult (tunnelText answers.library)
  let parsed ← fromResult (wgntText
    (parseConfFile parseNet config.configPath (answers.readFile config.configPath)))
  let wireConfig ← fromResult (wgntText (serializeInterface answers.padding parsed))
  let created ← fromResult (tunnelText (answers.openOrCreate config.name))
  holdingAdapter answers.released (bringUp answers config parsed created wireConfig)

/-! ## What a failed call leaves -/

def prepared : Except (Abort RouteGuardError) ParsedConf := do
  tunnelText answers.library
  let parsed ← wgntText
    (parseConfFile parseNet config.configPath (answers.readFile config.configPath))
  let wireConfig ← wgntText (serializeInterface answers.padding parsed)
  let _ ← tunnelText (answers.openOrCreate config.name)
  tunnelText (answers.setConfiguration wireConfig)
  tunnelText answers.setStateUp
  pure parsed

/-- The routes the system accepts of those the configuration asks for. -/
def acceptedRoutes (backend : WireGuardNtBackend) (parsed : ParsedConf) : List Addition :=
  acceptedAdditions backend.routes.os.faults backend.routes.os.calls
    (plannedAdditions answers.ifIndex parsed)

/-- The call fails with routes in the table: one is refused, or the handshake does not come. -/
def FailsLate (backend : WireGuardNtBackend) (parsed : ParsedConf) : Prop :=
  acceptedRoutes answers backend parsed ≠ plannedAdditions answers.ifIndex parsed ∨
    ∃ e, answers.waitForHandshake = .error e

def SameRoutes (before after : WireGuardNtBackend) : Prop :=
  ∀ row, row ∈ after.routes.os.rows ↔ row ∈ before.routes.os.rows

/-- Where the call returns an error, the table is as it was before. -/
def RestoresRoutes (backend : WireGuardNtBackend) : Prop :=
  ∀ e after, exec (upImpl parseNet answers config) backend = (.error e, after) →
    SameRoutes backend after

/-- The routes of a late failure go with the adapter, or each was there before. -/
def RoutesGo (backend : WireGuardNtBackend) : Prop :=
  ∀ parsed, prepared parseNet answers config = .ok parsed → FailsLate answers backend parsed →
    answers.released answers.ifIndex = true ∨
      Kept OsRoute.key backend.routes.os.rows
        ((acceptedRoutes answers backend parsed).map Addition.row)

variable {parseNet answers config} {backend : WireGuardNtBackend} {parsed : ParsedConf}

theorem installSession_exec (ifIndex : Nat) (parsed : ParsedConf) (backend : WireGuardNtBackend) :
    ∃ result table, exec (installSession ifIndex parsed) backend =
        (result, backend.withRoutes table) ∧
      table.os.rows = upsertAll OsRoute.key backend.routes.os.rows
        ((acceptedAdditions backend.routes.os.faults backend.routes.os.calls
          (plannedAdditions ifIndex parsed)).map Addition.row) ∧
      ((∃ e, result = .error e) ↔
        acceptedAdditions backend.routes.os.faults backend.routes.os.calls
          (plannedAdditions ifIndex parsed) ≠ plannedAdditions ifIndex parsed) := by
  obtain ⟨hrows, hends⟩ := installRoutes_installed ifIndex parsed ⟨{}, backend.routes⟩
  cases hinstall : exec (installRoutes ifIndex parsed) ⟨{}, backend.routes⟩ with
  | mk result st =>
      rw [hinstall] at hrows hends
      cases result with
      | ok _ =>
          refine ⟨.ok st.session, st.table, ?_, hrows, ?_⟩
          · simp only [installSession, exec_mapError, exec_zoom, exec_bind, hinstall, exec_get,
              exec_pure]
            rfl
          · constructor
            · intro h
              obtain ⟨e, he⟩ := h
              cases he
            · intro h
              exact absurd (hends.mp rfl) h
      | error e =>
          refine ⟨.error (.error e), st.table, ?_, hrows, ?_⟩
          · simp only [installSession, exec_mapError, exec_zoom, exec_bind, hinstall]
            rfl
          · refine ⟨fun _ haccepted => ?_, fun _ => ⟨_, rfl⟩⟩
            cases hends.mpr haccepted

section Prepared

theorem bringUp_late (config : TunnelConfig) (created : Bool)
    (hlate : FailsLate answers backend parsed)
    {wireConfig : List UInt8} (hconfigured : answers.setConfiguration wireConfig = .ok ())
    (hstate : answers.setStateUp = .ok ()) :
    ∃ e after, exec (bringUp answers config parsed created wireConfig) backend =
        (.error e, after) ∧
      after.routes.os.rows = upsertAll OsRoute.key backend.routes.os.rows
        ((acceptedRoutes answers backend parsed).map Addition.row) := by
  obtain ⟨result, table, hinstall, hrows, hends⟩ :=
    installSession_exec answers.ifIndex parsed backend
  have hifIndex : answers.luidToIfIndex answers.luid = answers.ifIndex := rfl
  cases result with
  | error e =>
      refine ⟨e, backend.withRoutes table, ?_, hrows⟩
      simp only [bringUp, exec_bind, exec_fromResult, hconfigured, hstate, tunnelText,
        Except.mapError, hifIndex, hinstall]
  | ok session =>
      have hall : acceptedRoutes answers backend parsed =
          plannedAdditions answers.ifIndex parsed := by
        by_contra hne
        obtain ⟨e, he⟩ := hends.mpr hne
        cases he
      rcases hlate with hrefused | ⟨e, hshake⟩
      · exact absurd hall hrefused
      · refine ⟨.error (.tunnel e), backend.withRoutes table, ?_, hrows⟩
        simp only [bringUp, exec_bind, exec_fromResult, hconfigured, hstate, tunnelText,
          Except.mapError, hifIndex, hinstall, hshake]

theorem bringUp_through (config : TunnelConfig) (created : Bool)
    (hlate : ¬FailsLate answers backend parsed)
    {wireConfig : List UInt8} (hconfigured : answers.setConfiguration wireConfig = .ok ())
    (hstate : answers.setStateUp = .ok ()) :
    ∃ handle after, exec (bringUp answers config parsed created wireConfig) backend =
      (.ok handle, after) := by
  rw [FailsLate, not_or, not_not] at hlate
  obtain ⟨hall, hshake⟩ := hlate
  obtain ⟨result, table, hinstall, -, hends⟩ := installSession_exec answers.ifIndex parsed backend
  have hifIndex : answers.luidToIfIndex answers.luid = answers.ifIndex := rfl
  cases result with
  | error e => exact absurd hall (hends.mp ⟨e, rfl⟩)
  | ok session =>
      cases hwait : answers.waitForHandshake with
      | error e => exact absurd ⟨e, hwait⟩ hshake
      | ok _ =>
          simp only [bringUp, exec_bind, exec_fromResult, hconfigured, hstate, tunnelText,
            Except.mapError, hifIndex, hinstall, hwait, exec_modify, exec_pure]
          exact ⟨_, _, rfl⟩

theorem holdingAdapter_error {A : Type} {released : Nat → Bool} {body : UpProg A}
    {e : Abort RouteGuardError} {after : WireGuardNtBackend}
    (h : exec body backend = (.error e, after)) :
    exec (holdingAdapter released body) backend = (.error e, closeAdapter released after) := by
  simp only [holdingAdapter, exec_bind, exec_caught, h, exec_modify, exec_throw]

theorem holdingAdapter_ok {A : Type} {released : Nat → Bool} {body : UpProg A} {a : A}
    {after : WireGuardNtBackend} (h : exec body backend = (.ok a, after)) :
    exec (holdingAdapter released body) backend = (.ok a, after) := by
  simp only [holdingAdapter, exec_bind, exec_caught, h, exec_pure]

theorem prepared_ok {wireConfig : List UInt8} {created : Bool}
    (hlibrary : tunnelText answers.library = .ok ())
    (hconf : wgntText (parseConfFile parseNet config.configPath
      (answers.readFile config.configPath)) = .ok parsed)
    (hwire : wgntText (serializeInterface answers.padding parsed) = .ok wireConfig)
    (hadapter : tunnelText (answers.openOrCreate config.name) = .ok created)
    (hconfigured : tunnelText (answers.setConfiguration wireConfig) = .ok ())
    (hstate : tunnelText answers.setStateUp = .ok ()) :
    prepared parseNet answers config = .ok parsed := by
  simp only [prepared, hlibrary, hconf, bind, Except.bind, hwire, hadapter, hconfigured, hstate,
    pure, Except.pure]

theorem upImpl_prepared (h : prepared parseNet answers config = .ok parsed)
    (backend : WireGuardNtBackend) :
    ∃ created wireConfig, answers.setConfiguration wireConfig = .ok () ∧
      answers.setStateUp = .ok () ∧ exec (upImpl parseNet answers config) backend =
        exec (holdingAdapter answers.released (bringUp answers config parsed created wireConfig))
          backend := by
  obtain ⟨_, hlibrary, h⟩ := ok_of_bind h
  obtain ⟨conf, hconf, h⟩ := ok_of_bind h
  obtain ⟨wireConfig, hwire, h⟩ := ok_of_bind h
  obtain ⟨created, hadapter, h⟩ := ok_of_bind h
  obtain ⟨_, hconfigured, h⟩ := ok_of_bind h
  obtain ⟨_, hstate, h⟩ := ok_of_bind h
  obtain rfl : conf = parsed := Except.ok.inj h
  refine ⟨created, wireConfig, ok_of_mapError hconfigured, ok_of_mapError hstate, ?_⟩
  rw [upImpl, exec_fromResult_ok hlibrary, exec_fromResult_ok hconf, exec_fromResult_ok hwire,
    exec_fromResult_ok hadapter]

/-- A call that fails earlier adds nothing; the adapter may have been open already. -/
theorem upImpl_unprepared (h : ∀ parsed, prepared parseNet answers config ≠ .ok parsed)
    (backend : WireGuardNtBackend) :
    ∃ e after, exec (upImpl parseNet answers config) backend = (.error e, after) ∧
      (after = backend ∨ after = closeAdapter answers.released backend) := by
  unfold upImpl
  cases hlibrary : tunnelText answers.library with
  | error e => exact ⟨e, backend, exec_fromResult_error rfl _ _, Or.inl rfl⟩
  | ok _ =>
  rw [exec_fromResult_ok rfl]
  cases hconf : wgntText
      (parseConfFile parseNet config.configPath (answers.readFile config.configPath)) with
  | error e => exact ⟨e, backend, exec_fromResult_error rfl _ _, Or.inl rfl⟩
  | ok conf =>
  rw [exec_fromResult_ok rfl]
  cases hwire : wgntText (serializeInterface answers.padding conf) with
  | error e => exact ⟨e, backend, exec_fromResult_error rfl _ _, Or.inl rfl⟩
  | ok wireConfig =>
  rw [exec_fromResult_ok rfl]
  cases hadapter : tunnelText (answers.openOrCreate config.name) with
  | error e => exact ⟨e, backend, exec_fromResult_error rfl _ _, Or.inl rfl⟩
  | ok created =>
  rw [exec_fromResult_ok rfl]
  cases hconfigured : tunnelText (answers.setConfiguration wireConfig) with
  | error e =>
      refine ⟨e, closeAdapter answers.released backend, ?_, Or.inr rfl⟩
      exact holdingAdapter_error (exec_fromResult_error hconfigured _ _)
  | ok _ =>
  cases hstate : tunnelText answers.setStateUp with
  | error e =>
      refine ⟨e, closeAdapter answers.released backend, ?_, Or.inr rfl⟩
      apply holdingAdapter_error
      rw [bringUp, exec_fromResult_ok hconfigured, exec_fromResult_error hstate]
  | ok _ => exact absurd (prepared_ok hlibrary hconf hwire hadapter hconfigured hstate) (h conf)

end Prepared

theorem mem_closeAdapter (released : Nat → Bool) (backend : WireGuardNtBackend) (row : OsRoute) :
    row ∈ (closeAdapter released backend).routes.os.rows ↔
      row ∈ backend.routes.os.rows ∧ released row.ifIndex = false := by
  simp [closeAdapter, withRoutes]

/-- A late failure: the accepted routes are written, then the adapter is closed. -/
theorem upImpl_late (hprepared : prepared parseNet answers config = .ok parsed)
    (hlate : FailsLate answers backend parsed) :
    ∃ e after, exec (upImpl parseNet answers config) backend = (.error e, after) ∧
      ∀ row, row ∈ after.routes.os.rows ↔
        row ∈ upsertAll OsRoute.key backend.routes.os.rows
          ((acceptedRoutes answers backend parsed).map Addition.row) ∧
        answers.released row.ifIndex = false := by
  obtain ⟨created, wireConfig, hconfigured, hstate, hexec⟩ := upImpl_prepared hprepared backend
  obtain ⟨e, after, hbring, hrows⟩ := bringUp_late config created hlate hconfigured hstate
  refine ⟨e, closeAdapter answers.released after, ?_, ?_⟩
  · rw [hexec]
    exact holdingAdapter_error hbring
  · intro row
    rw [mem_closeAdapter, hrows]

theorem upImpl_through (hprepared : prepared parseNet answers config = .ok parsed)
    (hlate : ¬FailsLate answers backend parsed) :
    ∃ handle after, exec (upImpl parseNet answers config) backend = (.ok handle, after) := by
  obtain ⟨created, wireConfig, hconfigured, hstate, hexec⟩ := upImpl_prepared hprepared backend
  obtain ⟨handle, after, hbring⟩ := bringUp_through config created hlate hconfigured hstate
  refine ⟨handle, after, ?_⟩
  rw [hexec]
  exact holdingAdapter_ok hbring

theorem accepted_ifIndex {row : OsRoute}
    (h : row ∈ (acceptedRoutes answers backend parsed).map Addition.row) :
    row.ifIndex = answers.ifIndex := by
  obtain ⟨addition, hmem, rfl⟩ := List.mem_map.mp h
  exact planned_ifIndex (List.mem_map_of_mem (mem_acceptedAdditions hmem))

/-- When the call fails the table is as it was exactly when, of a late failure, the routes go with
the adapter or were there before.  An adapter that takes routes with it is new: no route that was
there before lies on its interface. -/
theorem upImpl_restores_iff (hnew : ∀ row ∈ backend.routes.os.rows,
      answers.released row.ifIndex = false) :
    RestoresRoutes parseNet answers config backend ↔ RoutesGo parseNet answers config backend := by
  constructor
  · intro hrestores parsed hprepared hlate
    cases hreleased : answers.released answers.ifIndex with
    | true => exact Or.inl rfl
    | false =>
        right
        obtain ⟨e, after, hexec, hrows⟩ := upImpl_late hprepared hlate
        rw [← upsertAll_same_iff]
        intro row
        rw [← hrestores e after hexec row, hrows]
        constructor
        · intro hrow
          refine ⟨hrow, ?_⟩
          rcases (mem_upsertAll OsRoute.key).mp hrow with hlast | ⟨hold, _⟩
          · rw [accepted_ifIndex hlast.mem, hreleased]
          · exact hnew row hold
        · exact And.left
  · intro hgo e after hexec
    by_cases hprepared : ∃ parsed, prepared parseNet answers config = .ok parsed
    · obtain ⟨parsed, hprepared⟩ := hprepared
      by_cases hlate : FailsLate answers backend parsed
      · obtain ⟨e', after', hexec', hrows⟩ := upImpl_late hprepared hlate
        obtain ⟨_, rfl⟩ := Prod.mk.inj (hexec.symm.trans hexec')
        intro row
        rw [hrows]
        rcases hgo parsed hprepared hlate with hreleased | hkept
        · -- every row of the call lies on a released interface, and no older row does
          rw [mem_upsertAll]
          constructor
          · intro h
            obtain ⟨hlast | ⟨hold, _⟩, hkept⟩ := h
            · rw [accepted_ifIndex hlast.mem, hreleased] at hkept
              cases hkept
            · exact hold
          · intro hold
            refine ⟨Or.inr ⟨hold, fun new hmem hkey => ?_⟩, hnew row hold⟩
            have hif : row.ifIndex = answers.ifIndex :=
              (congrArg Prod.snd hkey).symm.trans (accepted_ifIndex hmem)
            have hlive := hnew row hold
            rw [hif, hreleased] at hlive
            cases hlive
        · rw [(upsertAll_same_iff OsRoute.key).mpr hkept row]
          exact and_iff_left_of_imp (hnew row)
      · obtain ⟨handle, after', hexec'⟩ := upImpl_through hprepared hlate
        cases hexec.symm.trans hexec'
    · obtain ⟨e', after', hexec', hafter⟩ :=
        upImpl_unprepared (fun parsed h => hprepared ⟨parsed, h⟩) backend
      obtain ⟨_, rfl⟩ := Prod.mk.inj (hexec.symm.trans hexec')
      intro row
      rcases hafter with rfl | rfl
      · exact Iff.rfl
      · rw [mem_closeAdapter]
        exact and_iff_left_of_imp (hnew row)

end Up

/-! ## A handshake that does not come -/

def silentAnswers (existing : Bool) : UpAnswers where
  library := .ok ()
  readFile _ := .ok (junkText "4" "25")
  openAdapter _ := if existing then .ok ()
    else .error ⟨some 2, "WireGuard API call WireGuardOpenAdapter failed: Win32 error 2 (win32=2)"⟩
  createAdapter _ := .ok ()
  setConfiguration _ := .ok ()
  setStateUp := .ok ()
  luid := 7
  convertLuid := some
  id := 1
  waitForHandshake := .error "handshake timeout after 30s"
  released ifIndex := !existing && ifIndex == 7

def homeConfig : TunnelConfig where
  name := "home"
  configPath := "home.conf"

def homeBackend : WireGuardNtBackend where
  routes := { os := { rows := [⟨SessionRoutes.defaultV4, 3, 25⟩] } }

theorem silent_prepared (existing : Bool) :
    prepared ipv4NetOf (silentAnswers existing) homeConfig = .ok (junkConf 25) := by
  have hconf : parseConfFile ipv4NetOf homeConfig.configPath
      ((silentAnswers existing).readFile homeConfig.configPath) = .ok (junkConf 25) :=
    (parseConfFile_ok ipv4NetOf homeConfig.configPath (junkText "4" "25")).trans
      (junkText_conf .four)
  have hwire := serializeInterface_eq (silentAnswers existing).padding (junkConf 25) (by decide)
  have hadapter : (silentAnswers existing).openOrCreate homeConfig.name = .ok !existing := by
    cases existing <;> rfl
  exact prepared_ok rfl (congrArg wgntText hconf) (congrArg wgntText hwire)
    (congrArg tunnelText hadapter) rfl rfl

theorem upImpl_restores_created :
    RestoresRoutes ipv4NetOf (silentAnswers false) homeConfig homeBackend :=
  (upImpl_restores_iff (by decide)).mpr fun _ _ _ => Or.inl rfl

/-- The adapter stays, and the default route through it with it. -/
theorem upImpl_leaves_default :
    ¬RestoresRoutes ipv4NetOf (silentAnswers true) homeConfig homeBackend := by
  intro hrestores
  have hlate : FailsLate (silentAnswers true) homeBackend (junkConf 25) := Or.inr ⟨_, rfl⟩
  obtain ⟨e, after, hexec, hrows⟩ := upImpl_late (silent_prepared true) hlate
  have hdefault : (⟨osDest SessionRoutes.defaultV4, 7, 100⟩ : OsRoute) ∈ after.routes.os.rows := by
    rw [hrows]
    exact ⟨by decide, rfl⟩
  exact absurd ((hrestores e after hexec _).mp hdefault) (by decide)

end WireGuardNtBackend
end RouteGuard
