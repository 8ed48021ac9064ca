import RouteGuard.Routing.Engine

/-! # Changing the application rules

`rules_ops.rs`, and the texts of modes and targets that `handler.rs` reads. -/
set_option autoImplicit false
namespace RouteGuard

/-! ## Texts -/

def parseRuleMode (s : String) : Except RouteGuardError RuleMode :=
  let lower := toAsciiLowercase s
  if lower = "exclude" then .ok .exclude
  else if lower = "include" then .ok .include
  else .error (.routing ("invalid mode: " ++ s))

def parseRouteTarget (s : String) : Except RouteGuardError RouteTarget :=
  let lower := toAsciiLowercase s
  if lower = "tunnel" ∨ lower = "vpn" then .ok .tunnel
  else if lower = "bypass" ∨ lower = "direct" then .ok .bypass
  else if lower = "block" then .ok .block
  else .error (.routing ("invalid target: " ++ s))

/-! ## Rules -/

def maxAppRules : Nat := 256

structure AddAppRuleRequest where
  path : String
  mode : RuleMode
  priority : Nat
deriving DecidableEq, Repr

/-- `Path::is_absolute` and `Path::exists`. -/
structure PathAnswers where
  isAbsolute : String → Bool
  «exists» : String → Bool

section Ops
variable (env : Externals) (paths : PathAnswers)

def validateAppPath (path : String) : Except String String :=
  if !paths.isAbsolute path then .error "app path must be absolute"
  else if !endsWith (env.toLowercase path) ".exe" then .error "app path must end with .exe"
  else if !paths.exists path then .error ("app path not found: " ++ path)
  else .ok path

/-- `saturating_add` on `u16`. -/
def defaultPriorityForMode (cfg : AppConfig) (mode : RuleMode) : Nat :=
  let priorities := (cfg.routing.appRules.filter fun rule => rule.mode = mode).map AppRule.priority
  min (priorities.max?.getD 0 + 10) (2 ^ 16 - 1)

/-- The mode of the configuration takes rules of one mode only. -/
def RoutingMode.ruleMode : RoutingMode → RuleMode
  | .fullTunnel => .exclude
  | .splitInclude => .include

def modeMismatch : RoutingMode → String
  | .fullTunnel => "full_tunnel mode only supports exclude rules"
  | .splitInclude => "split_include mode only supports include rules"

def AppConfig.withAppRules (cfg : AppConfig) (rules : List AppRule) : AppConfig :=
  { cfg with routing := { cfg.routing with appRules := rules } }

def addAppRule (cfg : AppConfig) (req : AddAppRuleRequest) : Except String (AppRule × AppConfig) :=
  if maxAppRules ≤ cfg.routing.appRules.length then
    .error ("max app rules (" ++ toString maxAppRules ++ ") reached")
  else
    match validateAppPath env paths req.path with
    | .error e => .error e
    | .ok path =>
        if cfg.routing.appRules.any fun rule =>
            normalizePath env rule.path == normalizePath env path then
          .error "app rule already exists"
        else if req.mode ≠ cfg.routing.mode.ruleMode then .error (modeMismatch cfg.routing.mode)
        else
          let rule : AppRule := ⟨req.priority, req.mode, path⟩
          .ok (rule,
            cfg.withAppRules (sortByPriority AppRule.priority (cfg.routing.appRules ++ [rule])))

/-- The path of a rule and the path asked for, up to a common end. -/
def sameApp (path : String) (rule : AppRule) : Bool :=
  let normalized := normalizePath env path
  let own := normalizePath env rule.path
  own == normalized || endsWith own normalized || endsWith normalized own

def removeAppRule (cfg : AppConfig) (path : String) : Except String (AppRule × AppConfig) :=
  match cfg.routing.appRules.find? (sameApp env path) with
  | none => .error "app rule not found"
  | some rule => .ok (rule, cfg.withAppRules (cfg.routing.appRules.eraseP (sameApp env path)))

end Ops

/-! ## What a change leaves alone -/

section Changes
variable {env : Externals} {paths : PathAnswers} {cfg cfg' : AppConfig} {rule : AppRule}

theorem addAppRule_ok {req : AddAppRuleRequest}
    (h : addAppRule env paths cfg req = .ok (rule, cfg')) :
    cfg' = cfg.withAppRules (sortByPriority AppRule.priority (cfg.routing.appRules ++ [rule])) := by
  unfold addAppRule at h
  split at h
  · cases h
  · split at h
    · cases h
    · split_ifs at h
      cases h
      rfl

theorem removeAppRule_ok {path : String} (h : removeAppRule env cfg path = .ok (rule, cfg')) :
    cfg.routing.appRules.find? (sameApp env path) = some rule ∧
      cfg' = cfg.withAppRules (cfg.routing.appRules.eraseP (sameApp env path)) := by
  unfold removeAppRule at h
  split at h
  · cases h
  · rename_i found hfound
    cases h
    exact ⟨hfound, rfl⟩

end Changes

end RouteGuard
