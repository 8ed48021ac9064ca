import RouteGuard.Service.Ownership
import RouteGuard.Service.ProfileStore

/-! # Connecting a profile by name

`handle_connect` looks the profile up and goes on without one where that fails,
with the tunnel of the configuration.  Where the profile is found, the tunnel
comes up from the text that the vault has for the name. -/
set_option autoImplicit false
namespace RouteGuard

open HashTable Fallible GuardedRun

section Lookup
variable {F : Type} (fileOf : String → F) (fs : FsAnswers) (vault : Vault F)

/-- `if let Ok(Some(profile)) = get_profile(..)`. -/
def Vault.found (name : String) : Option TunnelProfile :=
  (exec (getProfile fs name) vault).1.toOption.join

def Vault.readConf (path : String) : Except String String :=
  match fs.readConf with
  | some e => .error e
  | none =>
      match (vault.files (fileOf path)).join with
      | none => .error fs.noContents
      | some text => .ok text

/-- The request with what it finds in the vault: the profile, then the text at the path of the
tunnel it selects. -/
def ConnectRequest.against (req : ConnectRequest) (cfg : AppConfig) : ConnectRequest :=
  let req := { req with
    profile := (req.params.toOption.bind ConnectParams.profileName).bind (vault.found fs) }
  match selectTunnel req cfg with
  | .error _ => req
  | .ok selected => { req with confText := vault.readConf fileOf fs selected.tunnelCfg.configPath }

/-- The steps up to the backend all answer. -/
def ConnectRequest.BringsUp (req : ConnectRequest) (cfg : AppConfig) : Prop :=
  ∃ plan, req.plan cfg = .ok plan ∧ (req.startResult plan.choice).isOk = true ∧
    req.storeConf.isOk = true ∧ (resolveBackend req plan.tunnelCfg).isOk = true ∧
      req.backendUp.isOk = true

def Vault.Readable : Prop := fs.indexSeen = true ∧ (vault.loaded fs).isOk = true

/-- A success is a tunnel from the text that the vault has for the name; where the name is not
there or the index cannot be read, the request fails and opens no session. -/
def ConnectsByName (req : ConnectRequest) (ctx : ServiceContext) (name : String) : Prop :=
  let request := req.against fileOf fs vault ctx.config
  let run := exec (handleConnect request) ctx
  (∀ result, run.1 = .ok result → ∃ plan text, request.plan ctx.config = .ok plan ∧
    plan.confText = text ∧ fullExport fileOf vault name = some text) ∧
  (vault.lookup name = none ∨ ¬vault.Readable fs →
    (∃ e, run.1 = .error e) ∧ run.2.held.sessions = ctx.held.sessions)

end Lookup

section Found
variable {F : Type} {fileOf : String → F} {fs : FsAnswers} {vault : Vault F}

theorem found_eq (name : String) : vault.found fs name =
    if (vault.loaded fs).isOk ∧ fs.indexSeen then vault.lookup name else none := by
  rw [Vault.found, exec_getProfile]
  cases hload : vault.loaded fs with
  | error e => simp [Except.map, Except.toOption, Except.isOk, Except.toBool]
  | ok index =>
      simp only [Except.map, Except.toOption, Option.join_some, find?_loaded hload]
      simp [Except.isOk, Except.toBool]

theorem found_isSome_iff (name : String) : (vault.found fs name).isSome = true ↔
    (vault.lookup name).isSome = true ∧ vault.Readable fs := by
  rw [found_eq, Vault.Readable]
  by_cases hread : (vault.loaded fs).isOk ∧ fs.indexSeen
  · rw [if_pos hread]
    exact ⟨fun h => ⟨h, hread.2, hread.1⟩, fun h => h.1⟩
  · rw [if_neg hread]
    exact ⟨(fun h => by cases h), fun h => absurd ⟨h.2.2, h.2.1⟩ hread⟩

end Found

/-! ## Exits -/

section Exits
variable {req : ConnectRequest} {ctx : ServiceContext}

/-- A request opens a session exactly where its steps up to the backend answer, and succeeds
nowhere else. -/
theorem connectExit_cases {response : Except IpcError ConnectResult} {held : Held}
    (h : ConnectExit req ctx response held) :
    (req.BringsUp ctx.config ∧ held.sessions ≠ ctx.held.sessions) ∨
      (¬req.BringsUp ctx.config ∧ (∃ e, response = .error e) ∧
        held.sessions = ctx.held.sessions) := by
  cases h with
  | noPlan hplan =>
      refine Or.inr ⟨?_, ⟨_, rfl⟩, rfl⟩
      rintro ⟨plan, hsome, -⟩
      cases hplan.symm.trans hsome
  | noTransport hplan hstart =>
      refine Or.inr ⟨?_, ⟨_, rfl⟩, rfl⟩
      rintro ⟨plan, hsome, hok, -⟩
      cases hplan.symm.trans hsome
      rw [hstart] at hok
      cases hok
  | notWritten hplan hstart hstore hfresh =>
      refine Or.inr ⟨?_, ⟨_, rfl⟩, Held.started_sessions _ _ _ _⟩
      rintro ⟨plan, -, -, hok, -⟩
      rw [hstore] at hok
      cases hok
  | noBackend hplan hstart hstore hresolve =>
      refine Or.inr ⟨?_, ⟨_, rfl⟩, rfl⟩
      rintro ⟨plan, hsome, -, -, hok, -⟩
      cases hplan.symm.trans hsome
      rw [hresolve] at hok
      cases hok
  | backendDown hplan hstart hstore hresolve hup =>
      refine Or.inr ⟨?_, ⟨_, rfl⟩, rfl⟩
      rintro ⟨plan, -, -, -, -, hok⟩
      rw [hup] at hok
      cases hok
  | @connected plan relay backend choice link handle active session hplan hstart hstore hresolve
      hup hbrought =>
      refine Or.inl ⟨⟨plan, hplan, ?_, ?_, ?_, ?_⟩, fun heq => ?_⟩
      · rw [hstart]
        rfl
      · rw [hstore]
        rfl
      · rw [hresolve]
        rfl
      · rw [hup]
        rfl
      · have hsession := congrFun (congrFun heq choice.kind) handle.id
        simp only [Held.connected, Held.opened, and_self, if_true,
          hbrought.freshSession] at hsession
        cases hsession

theorem selectTunnel_path {cfg : AppConfig} {params : ConnectParams} {name : String}
    {profile : TunnelProfile} {selected : SelectedTunnel} (hparams : req.params = .ok params)
    (hname : params.profileName = some name) (hpath : params.configPath = none)
    (hprofile : req.profile = some profile) (h : selectTunnel req cfg = .ok selected) :
    selected.tunnelCfg.configPath = profile.configPath := by
  rw [selectTunnel, hparams] at h
  dsimp only at h
  cases htunnel : cfg.tunnel with
  | none =>
      rw [htunnel] at h
      cases h
  | some tunnel =>
      rw [htunnel, hname, hpath, Option.bind_some, hprofile] at h
      cases h
      rfl

end Exits

/-! ## Connecting by name -/

section ByName
variable {F : Type} {fileOf : String → F} {fs : FsAnswers} {vault : Vault F}
  {req : ConnectRequest} {ctx : ServiceContext} {params : ConnectParams} {name : String}

theorem against_params (cfg : AppConfig) :
    (req.against fileOf fs vault cfg).params = req.params := by
  rw [ConnectRequest.against]
  dsimp only
  split <;> rfl

theorem against_profile (cfg : AppConfig) (hparams : req.params = .ok params)
    (hname : params.profileName = some name) :
    (req.against fileOf fs vault cfg).profile = vault.found fs name := by
  have hbind : (req.params.toOption.bind ConnectParams.profileName).bind (vault.found fs) =
      vault.found fs name := by
    rw [hparams, Except.toOption, Option.bind_some, hname, Option.bind_some]
  rw [ConnectRequest.against]
  dsimp only
  split <;> exact hbind

theorem against_confText {cfg : AppConfig} {selected : SelectedTunnel}
    (h : selectTunnel (req.against fileOf fs vault cfg) cfg = .ok selected) :
    (req.against fileOf fs vault cfg).confText =
      vault.readConf fileOf fs selected.tunnelCfg.configPath := by
  rw [ConnectRequest.against] at h ⊢
  dsimp only at h ⊢
  split at h
  · rename_i e herror
    rw [herror] at h
    cases h
  · rename_i selected' hselected
    have hsame : selected' = selected := Except.ok.inj (hselected.symm.trans h)
    rw [hsame]

theorem plan_text {cfg : AppConfig} {plan : ConnectPlan} {profile : TunnelProfile}
    (hparams : req.params = .ok params) (hname : params.profileName = some name)
    (hpath : params.configPath = none) (hfound : vault.found fs name = some profile)
    (hplan : (req.against fileOf fs vault cfg).plan cfg = .ok plan) :
    (vault.lookup name).bind (vault.textOf fileOf) = some plan.confText := by
  have hlookup : vault.lookup name = some profile := by
    rw [found_eq] at hfound
    split_ifs at hfound
    exact hfound
  rw [ConnectRequest.plan] at hplan
  cases hselect : selectTunnel (req.against fileOf fs vault cfg) cfg with
  | error e =>
      rw [hselect] at hplan
      cases hplan
  | ok selected =>
      rw [hselect] at hplan
      have hprofile := @against_profile F fileOf fs vault req params name cfg hparams hname
      have hconfigPath := selectTunnel_path ((against_params cfg).trans hparams) hname hpath
        (hprofile.trans hfound) hselect
      obtain ⟨-, hread, -, -⟩ := readPlan_ok _ hplan
      have htext := (against_confText hselect).symm.trans hread
      rw [hconfigPath, Vault.readConf] at htext
      rw [hlookup, Option.bind_some, Vault.textOf]
      cases hread : fs.readConf with
      | some e =>
          rw [hread] at htext
          cases htext
      | none =>
          rw [hread] at htext
          dsimp only at htext
          cases hcontents : (vault.files (fileOf profile.configPath)).join with
          | none =>
              rw [hcontents] at htext
              cases htext
          | some text =>
              rw [hcontents] at htext
              rw [Except.ok.inj htext]

/-- A request by name keeps to the name exactly where the profile is found, or where it would not
bring up the tunnel of the configuration either. -/
theorem connectsByName_iff [DecidableEq F] (fileOf : String → F) (fs : FsAnswers)
    (vault : Vault F) (req : ConnectRequest) (ctx : ServiceContext) (params : ConnectParams)
    (name : String) (h : Reachable ctx) (hparams : req.params = .ok params)
    (hname : params.profileName = some name) (hpath : params.configPath = none) :
    ConnectsByName fileOf fs vault req ctx name ↔
      (vault.found fs name).isSome = true ∨
        ¬(req.against fileOf fs vault ctx.config).BringsUp ctx.config := by
  have hexit := connectExit_cases (handleConnect_exit (req.against fileOf fs vault ctx.config)
    (Reachable.numbered h))
  rw [ConnectsByName]
  constructor
  · rintro ⟨-, hmissing⟩
    rcases hexit with ⟨-, hopened⟩ | ⟨hnot, -⟩
    · left
      rw [found_isSome_iff]
      by_contra habsent
      rw [not_and_or, Option.not_isSome_iff_eq_none] at habsent
      exact hopened (hmissing habsent).2
    · exact Or.inr hnot
  · rintro (hfound | hnot)
    · refine ⟨fun result hok => ?_, fun habsent => ?_⟩
      · obtain ⟨profile, hprofile⟩ := Option.isSome_iff_exists.mp hfound
        rcases hexit with ⟨⟨plan, hplan, -⟩, -⟩ | ⟨-, ⟨e, herror⟩, -⟩
        · refine ⟨plan, plan.confText, hplan, rfl, ?_⟩
          rw [fullExport_eq]
          exact plan_text hparams hname hpath hprofile hplan
        · cases hok.symm.trans herror
      · rw [found_isSome_iff] at hfound
        rcases habsent with hnone | hunreadable
        · rw [hnone] at hfound
          cases hfound.1
        · exact absurd hfound.2 hunreadable
    · rcases hexit with ⟨hbrings, -⟩ | ⟨-, herror, hsame⟩
      · exact absurd hbrings hnot
      · refine ⟨fun result hok => ?_, fun _ => ⟨herror, hsame⟩⟩
        obtain ⟨e, he⟩ := herror
        cases hok.symm.trans he

def exampleFiles (path : String) : Option FileContents :=
  if path = "wg0.conf" ∨ path = "work.conf" then
    some (some "[Peer]\nEndpoint = 1.2.3.4:51820\n")
  else none

def workRequest : ConnectRequest :=
  { exampleConnect with params := .ok { profileName := some "work" } }

theorem connectsByName_work : ConnectsByName id {}
    { index := .profiles [⟨"work", .auto, "work.conf", none⟩], files := exampleFiles }
    workRequest exampleService "work" :=
  (connectsByName_iff id {} _ workRequest exampleService _ "work" (Reachable.start _ _) rfl rfl
    rfl).mpr (Or.inl (by decide))

/-- No profile is stored, and the tunnel of the configuration comes up. -/
theorem not_connectsByName : ¬∀ (fileOf : String → String) (fs : FsAnswers) (vault : Vault String)
    (req : ConnectRequest) (ctx : ServiceContext) (params : ConnectParams) (name : String),
    Reachable ctx → req.params = .ok params → params.profileName = some name →
    params.configPath = none → ConnectsByName fileOf fs vault req ctx name := by
  intro h
  have hname := h id {} { files := exampleFiles } workRequest exampleService _ "work"
    (Reachable.start _ _) rfl rfl rfl
  obtain ⟨e, herror⟩ := (hname.2 (Or.inl rfl)).1
  have hok : (exec (handleConnect (workRequest.against id {} { files := exampleFiles }
      exampleService.config)) exampleService).1.isOk = true := by
    decide +kernel
  rw [herror] at hok
  cases hok

end ByName

end RouteGuard
