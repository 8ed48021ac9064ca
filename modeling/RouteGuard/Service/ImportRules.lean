import RouteGuard.Service.RuleSync

/-! # What an import takes over

`routing.import_rules` reads the entries of a request one by one and leaves out
those whose mode or target it does not know.  The imported rules are the
enabled entries of the request just when it knows every text among them, or the
request fails for another reason and leaves nothing behind. -/
set_option autoImplicit false
namespace RouteGuard

open Fallible

/-! ## Entries and rules -/

def RoutingMode.text : RoutingMode → String
  | .fullTunnel => "full_tunnel"
  | .splitInclude => "split_include"

/-- The rule is the entry, with 100 for a priority that is not given. -/
structure ImportAppRule.Reads (entry : ImportAppRule) (rule : AppRule) : Prop where
  path : rule.path = entry.path
  priority : rule.priority = entry.priority.getD 100
  mode : parseRuleMode entry.mode = .ok rule.mode

structure ImportIpRule.Reads (entry : ImportIpRule) (rule : IpRule) : Prop where
  cidr : rule.cidr = entry.cidr
  priority : rule.priority = entry.priority.getD 100
  target : parseRouteTarget entry.target = .ok rule.target

structure ImportDomainRule.Reads (entry : ImportDomainRule) (rule : DomainRule) : Prop where
  pattern : rule.pattern = entry.pattern
  priority : rule.priority = entry.priority.getD 100
  target : parseRouteTarget entry.target = .ok rule.target

namespace ImportRulesParams
variable (p : ImportRulesParams)

/-- The rules are the enabled entries in order, one for each, and the mode is the one asked for. -/
structure TakenOver (routing : RoutingConfig) : Prop where
  mode : toAsciiLowercase p.mode = routing.mode.text
  app : List.Forall₂ ImportAppRule.Reads (p.appRules.filter ImportAppRule.enabled)
    routing.appRules
  ip : List.Forall₂ ImportIpRule.Reads (p.ipRules.filter ImportIpRule.enabled) routing.ipRules
  domain : List.Forall₂ ImportDomainRule.Reads
    (p.domainRules.filter ImportDomainRule.enabled) routing.domainRules

structure Known : Prop where
  mode : ∃ mode : RoutingMode, toAsciiLowercase p.mode = mode.text
  app : ∀ entry ∈ p.appRules, entry.enabled = true → ∃ mode, parseRuleMode entry.mode = .ok mode
  ip : ∀ entry ∈ p.ipRules, entry.enabled = true →
    ∃ target, parseRouteTarget entry.target = .ok target
  domain : ∀ entry ∈ p.domainRules, entry.enabled = true →
    ∃ target, parseRouteTarget entry.target = .ok target

end ImportRulesParams

section Reading

end Reading

/-! ## Requests -/

section Requests
variable (env : Externals) (fromCidr : String → Except String IpNet)

/-- Nothing of a request stays: not in the configuration, not in the domain manager, not as the
other program's tunnel; the engine at most has been built anew from the configuration. -/
structure ImportsNothing (before after : ServiceState) : Prop where
  config : after.ctx.config = before.ctx.config
  rules : after.ctx.domain.store.rules = before.ctx.domain.store.rules
  entries : after.ctx.domain.store.byIp.get = before.ctx.domain.store.byIp.get
  external : after.ctx.externalTunnel = before.ctx.externalTunnel
  tables : after.ctx.domain.engine.tables = before.ctx.domain.engine.tables ∨
    ∃ engine, RoutingEngine.fromConfig env before.ctx.config = .ok engine ∧
      after.ctx.domain.engine.tables = engine.tables

/-- A success takes the entries over, and a text that is not known is an error and imports
nothing. -/
structure FaithfulOutcome (p : ImportRulesParams) (before : ServiceState)
    (outcome : Except IpcError Unit × ServiceState) : Prop where
  success : outcome.1 = .ok () → p.TakenOver outcome.2.ctx.config.routing
  refusal : ¬p.Known → (∃ e, outcome.1 = .error e) ∧ ImportsNothing env before outcome.2

def ImportsFaithfully (p : ImportRulesParams) (rebuildAt : Moment) (answers : ChangeAnswers)
    (s : ServiceState) : Prop :=
  FaithfulOutcome env p s
    (exec (ChangeRequest.program env fromCidr answers (.importRules (.ok p) rebuildAt)) s)

variable {env fromCidr}

theorem ImportsFaithfully.refuses {p : ImportRulesParams} {rebuildAt : Moment}
    {answers : ChangeAnswers} {s : ServiceState}
    (h : ImportsFaithfully env fromCidr p rebuildAt answers s) (hunknown : ¬p.Known) :
    (exec (ChangeRequest.program env fromCidr answers (.importRules (.ok p) rebuildAt)) s).1 ≠
      .ok () := by
  obtain ⟨⟨e, he⟩, _⟩ := h.refusal hunknown
  rw [he]
  intro heq
  cases heq

/-! ### A target that is not known -/

end Requests
end RouteGuard
