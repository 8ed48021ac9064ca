import RouteGuard.Routing.RuleInverse
import RouteGuard.Service.ImportRules

/-! # The limits of the application rules

`add_app_rule` keeps the application rules few, distinct, sorted and of the
mode of the configuration; `routing.import_rules` replaces the whole list with
what the request says.  Which imports keep the limits in every state of a run. -/
set_option autoImplicit false
namespace RouteGuard

open Fallible GuardedRun

/-! ## Limits -/

section Limits
variable (env : Externals)

structure WithinLimits (cfg : AppConfig) : Prop where
  count : cfg.routing.appRules.length ≤ maxAppRules
  paths : (cfg.routing.appRules.map fun rule => normalizePath env rule.path).Nodup
  sorted : cfg.routing.appRules.Pairwise fun a b => a.priority ≤ b.priority
  modes : ∀ rule ∈ cfg.routing.appRules, rule.mode = cfg.routing.mode.ruleMode

def ImportRulesParams.kept (p : ImportRulesParams) : List ImportAppRule :=
  p.appRules.filter fun entry => entry.enabled && (parseRuleMode entry.mode).isOk

def ImportRulesParams.asksSplit (p : ImportRulesParams) : Bool :=
  toAsciiLowercase p.mode = "split_include"

/-- The import clears the rules, or its entries are within the limits. -/
structure ImportRulesParams.Limited (p : ImportRulesParams) : Prop where
  count : p.kept.length ≤ maxAppRules
  paths : (p.kept.map fun entry => normalizePath env entry.path).Nodup
  sorted : p.kept.Pairwise fun a b => a.priority.getD 100 ≤ b.priority.getD 100
  modes : ∀ entry ∈ p.kept,
    parseRuleMode entry.mode = .ok (if p.asksSplit then .include else .exclude)

def ChangeRequest.FitsLimits : ChangeRequest → Prop
  | .importRules (.ok p) _ => p.clear = true ∨ p.Limited env
  | _ => True

end Limits

section Imported
variable {env : Externals}

theorem imported_kept (p : ImportRulesParams) :
    List.Forall₂ ImportAppRule.Reads p.kept
      ((p.appRules.filter ImportAppRule.enabled).filterMap ImportAppRule.rule?) := by
  unfold ImportRulesParams.kept
  induction p.appRules with
  | nil => exact .nil
  | cons entry rest ih =>
      cases henabled : entry.enabled with
      | false =>
          rw [List.filter_cons_of_neg (by simp [henabled]),
            List.filter_cons_of_neg (by simp [henabled])]
          exact ih
      | true =>
          rw [List.filter_cons_of_pos (p := ImportAppRule.enabled) henabled]
          cases hmode : parseRuleMode entry.mode with
          | error e =>
              rw [List.filter_cons_of_neg (by simp [henabled, hmode, Except.isOk, Except.toBool]),
                List.filterMap_cons_none (by rw [ImportAppRule.rule?, hmode]; rfl)]
              exact ih
          | ok mode =>
              have hrule : entry.rule? = some ⟨entry.priority.getD 100, mode, entry.path⟩ := by
                rw [ImportAppRule.rule?, hmode]
                rfl
              rw [List.filter_cons_of_pos (by simp [henabled, hmode, Except.isOk, Except.toBool]),
                List.filterMap_cons_some hrule]
              exact .cons ⟨rfl, rfl, hmode⟩ ih

theorem forall₂_map_eq {A B C : Type} {R : A → B → Prop} {f : A → C} {g : B → C}
    {left : List A} {right : List B} (h : List.Forall₂ R left right)
    (hR : ∀ a b, R a b → g b = f a) : right.map g = left.map f := by
  induction h with
  | nil => rfl
  | cons hr _ ih => rw [List.map_cons, List.map_cons, hR _ _ hr, ih]

theorem importing_within_iff {p : ImportRulesParams} (hclear : p.clear = false)
    (cfg : AppConfig) : WithinLimits env (cfg.importing p) ↔ p.Limited env := by
  let rules := (p.appRules.filter ImportAppRule.enabled).filterMap ImportAppRule.rule?
  have hreads : List.Forall₂ ImportAppRule.Reads p.kept rules := imported_kept p
  have hrouting : (cfg.importing p).routing.appRules = rules ∧
      (cfg.importing p).routing.mode.ruleMode = if p.asksSplit then .include else .exclude := by
    unfold AppConfig.importing ImportRulesParams.routing ImportRulesParams.asksSplit
    rw [if_neg (by rw [hclear]; exact Bool.false_ne_true)]
    refine ⟨rfl, ?_⟩
    by_cases hsplit : toAsciiLowercase p.mode = "split_include"
    · simp only [hsplit, if_true, decide_true]
      rfl
    · simp only [hsplit, if_false, decide_false, Bool.false_eq_true]
      rfl
  have hpaths : (rules.map fun rule => normalizePath env rule.path) =
      p.kept.map fun entry => normalizePath env entry.path :=
    forall₂_map_eq hreads fun _ _ h => congrArg (normalizePath env) h.path
  have hpriorities : rules.map AppRule.priority =
      p.kept.map fun entry => entry.priority.getD 100 :=
    forall₂_map_eq hreads fun _ _ h => h.priority
  have hmodes : (rules.map fun rule => (Except.ok rule.mode : Except RouteGuardError RuleMode)) =
      p.kept.map fun entry => parseRuleMode entry.mode :=
    forall₂_map_eq hreads fun _ _ h => h.mode.symm
  have hsorted : rules.Pairwise (fun a b => a.priority ≤ b.priority) ↔
      p.kept.Pairwise fun a b => a.priority.getD 100 ≤ b.priority.getD 100 := by
    rw [← List.pairwise_map (f := AppRule.priority) (R := fun a b => a ≤ b), hpriorities,
      List.pairwise_map]
  have hall : ∀ mode : RuleMode, (∀ rule ∈ rules, rule.mode = mode) ↔
      ∀ entry ∈ p.kept, parseRuleMode entry.mode = .ok mode := by
    intro mode
    have hanswers : (∀ rule ∈ rules, rule.mode = mode) ↔
        ∀ answer ∈ rules.map fun rule => (Except.ok rule.mode : Except RouteGuardError RuleMode),
          answer = .ok mode := by
      simp only [List.forall_mem_map, Except.ok.injEq]
    rw [hanswers, hmodes]
    exact List.forall_mem_map
  constructor
  · rintro ⟨hcount, hnodup, hpairwise, hmode⟩
    rw [hrouting.1] at hcount hnodup hpairwise hmode
    rw [hrouting.2] at hmode
    refine ⟨?_, ?_, hsorted.mp hpairwise, (hall _).mp hmode⟩
    · rw [hreads.length_eq]
      exact hcount
    · rw [← hpaths]
      exact hnodup
  · rintro ⟨hcount, hnodup, hpairwise, hmode⟩
    refine ⟨?_, ?_, ?_, ?_⟩
    · rw [hrouting.1, ← hreads.length_eq]
      exact hcount
    · rw [hrouting.1, hpaths]
      exact hnodup
    · rw [hrouting.1]
      exact hsorted.mpr hpairwise
    · rw [hrouting.1, hrouting.2]
      exact (hall _).mpr hmode

end Imported

/-! ## Steps -/

section Steps
variable {env : Externals} {fromCidr : String → Except String IpNet}

theorem default_within : WithinLimits env {} :=
  ⟨Nat.zero_le _, List.nodup_nil, .nil, fun _ hmem => by cases hmem⟩

theorem WithinLimits.added {cfg cfg' : AppConfig} {req : AddAppRuleRequest} {rule : AppRule}
    (h : WithinLimits env cfg) (hadded : Added env cfg cfg' req rule) :
    WithinLimits env cfg' := by
  have hperm : (sortByPriority AppRule.priority (cfg.routing.appRules ++ [rule])).Perm
      (cfg.routing.appRules ++ [rule]) := List.perm_insertionSort _ _
  rw [hadded.config]
  refine ⟨?_, ?_, sortByPriority_sorted _ _, ?_⟩
  · have hlen := hperm.length_eq
    have hroom := hadded.room
    rw [List.length_append, List.length_singleton] at hlen
    show (sortByPriority AppRule.priority (cfg.routing.appRules ++ [rule])).length ≤ maxAppRules
    omega
  · have hpath : rule.path = req.path := by rw [hadded.rule_eq]
    apply (hperm.map _).nodup_iff.mpr
    rw [List.map_append, List.nodup_append]
    refine ⟨h.paths, List.nodup_singleton _, ?_⟩
    intro path hmem path' hmem'
    obtain ⟨other, hother, rfl⟩ := List.mem_map.mp hmem
    rw [List.map_singleton, List.mem_singleton] at hmem'
    rw [hmem', hpath]
    exact hadded.fresh other hother
  · intro other hmem
    rcases List.mem_append.mp (hperm.mem_iff.mp hmem) with hmem | hmem
    · exact h.modes other hmem
    · rw [List.mem_singleton.mp hmem, hadded.rule_eq]
      exact hadded.mode

theorem WithinLimits.removed {cfg : AppConfig} (h : WithinLimits env cfg)
    (matching : AppRule → Bool) :
    WithinLimits env (cfg.withAppRules (cfg.routing.appRules.eraseP matching)) := by
  have hsub : (cfg.routing.appRules.eraseP matching).Sublist cfg.routing.appRules :=
    List.eraseP_sublist
  refine ⟨Nat.le_trans hsub.length_le h.count, h.paths.sublist (hsub.map _),
    h.sorted.sublist hsub, ?_⟩
  intro rule hmem
  exact h.modes rule (hsub.subset hmem)

theorem changed_within_iff {cfg : AppConfig} (h : WithinLimits env cfg) {request : ChangeRequest}
    {asked : RuleChange} (hasked : request.change env cfg = .ok asked) :
    WithinLimits env asked.cfg ↔ request.FitsLimits env := by
  cases request with
  | addApp paths params =>
      obtain ⟨row, hadd, rfl⟩ := ok_of_map hasked
      refine iff_of_true ?_ trivial
      unfold addAppChange at hadd
      split at hadd
      · cases hadd
      · split at hadd
        · cases hadd
        · exact h.added (addAppRule_added (ok_of_mapError hadd))
  | removeApp params =>
      obtain ⟨row, hremove, rfl⟩ := ok_of_map hasked
      refine iff_of_true ?_ trivial
      unfold removeAppChange at hremove
      split at hremove
      · cases hremove
      · rw [(removeAppRule_ok (ok_of_mapError hremove)).2]
        exact h.removed _
  | importRules params rebuildAt =>
      cases params with
      | error e => cases hasked
      | ok p =>
          cases hasked
          unfold ChangeRequest.FitsLimits
          cases hclear : p.clear with
          | true =>
              refine iff_of_true ?_ (Or.inl hclear)
              rw [AppConfig.importing, ImportRulesParams.routing, if_pos hclear]
              exact ⟨Nat.zero_le _, List.nodup_nil, .nil, fun _ hmem => by cases hmem⟩
          | false =>
              rw [importing_within_iff hclear]
              simp only [hclear, Bool.false_eq_true, false_or]

/-- The configuration of the request is taken back: the file was written and a later step
failed. -/
def ChangeRequest.TakenBack (env : Externals) (fromCidr : String → Except String IpNet)
    (answers : ChangeAnswers) (s : ServiceState) (asked : RuleChange) : Prop :=
  answers.saved = .ok () ∧ ¬asked.Succeeds env fromCidr answers s

/-- The request is refused, asks for rules within the limits, or is taken back. -/
def ChangeRequest.KeepsLimits (env : Externals) (fromCidr : String → Except String IpNet)
    (answers : ChangeAnswers) (s : ServiceState) (request : ChangeRequest) : Prop :=
  match request.change env s.ctx.config with
  | .error _ => True
  | .ok asked => request.FitsLimits env ∨ TakenBack env fromCidr answers s asked

theorem change_within_iff {s : ServiceState} (h : WithinLimits env s.ctx.config)
    (request : ChangeRequest) (answers : ChangeAnswers) :
    WithinLimits env (exec (request.program env fromCidr answers) s).2.ctx.config ↔
      request.KeepsLimits env fromCidr answers s := by
  unfold ChangeRequest.KeepsLimits
  cases hasked : request.change env s.ctx.config with
  | error e =>
      rw [exec_change, hasked]
      exact iff_of_true h trivial
  | ok asked =>
      have hchanged := changed_within_iff h hasked
      have hconfig := @change_config env fromCidr _ answers s _ hasked
      dsimp only at hconfig ⊢
      rw [← hchanged, ChangeRequest.TakenBack]
      rcases hconfig with ⟨hsucceeds, hafter⟩ | ⟨hfails, hafter⟩
      · rw [hafter]
        simp only [hsucceeds, not_true, and_false, or_false]
      · cases hsaved : answers.saved with
        | error e =>
            rw [hsaved] at hafter
            rw [hafter]
            simp only [reduceCtorEq, false_and, or_false]
        | ok _ =>
            rw [hsaved] at hafter
            rw [hafter]
            exact iff_of_true h (Or.inr ⟨rfl, hfails⟩)

end Steps

/-! ## Runs -/

section Runs
variable (env : Externals) (fromCidr : String → Except String IpNet)

/-- A request to add, to remove or to import rules, with what it meets outside the service. -/
structure AskedChange where
  request : ChangeRequest
  answers : ChangeAnswers

def ServiceState.serveChange (s : ServiceState) (facing : Facing AskedChange) : ServiceState :=
  s.serveRules env fromCidr
    ⟨.change facing.request.request facing.request.answers, facing.faults, facing.saveFault⟩

def ServiceState.changeAnswer (s : ServiceState) (facing : Facing AskedChange) :
    Except IpcError Unit :=
  (exec (facing.request.request.program env fromCidr facing.request.answers)
    (s.facing facing.faults facing.saveFault)).1

def ServiceState.KeepsLimits (s : ServiceState) (facing : Facing AskedChange) : Prop :=
  facing.request.request.KeepsLimits env fromCidr facing.request.answers
    (s.facing facing.faults facing.saveFault)

variable {env fromCidr}

theorem new_config {at_ : Moment} {config : AppConfig} {loaded : Option DomainRouteStore} {os : Os}
    {lock : LockContext} {driver : Bool} {s : ServiceState}
    (h : ServiceState.new env at_ config loaded os lock driver = .ok s) :
    s.ctx.config = config := by
  obtain ⟨engine, store, domain, -, rfl, -⟩ := ServiceState.new_cases h
  rfl

/-- In a run from the default configuration the application rules are within the limits in every
state reached just when every request keeps them there. -/
theorem run_within_iff {at_ : Moment} {loaded : Option DomainRouteStore} {os : Os}
    {lock : LockContext} {driver : Bool} {s : ServiceState}
    (h : ServiceState.new env at_ {} loaded os lock driver = .ok s)
    (requests : List (Facing AskedChange)) :
    (∀ first, first <+: requests →
      WithinLimits env (run (ServiceState.serveChange env fromCidr) s first).ctx.config) ↔
      Guarded (ServiceState.serveChange env fromCidr) (ServiceState.KeepsLimits env fromCidr) s
        requests := by
  have hstart : WithinLimits env s.ctx.config := by
    rw [new_config h]
    exact default_within
  apply holds_throughout_iff (Q := fun _ => True) (P := fun s => WithinLimits env s.ctx.config)
    _ _ (fun _ _ _ => trivial) _ requests s trivial hstart
  intro s facing _ hs
  exact change_within_iff (s := s.facing facing.faults facing.saveFault) hs _ _

/-! ### An import that is not sorted -/

def importTwo (first second : Nat) : Facing AskedChange where
  request :=
    { request := .importRules (.ok { appRules :=
        [⟨"C:\\a.exe", "exclude", some first, true⟩, ⟨"C:\\b.exe", "exclude", some second, true⟩] })
          midnight
      answers := ⟨.ok (), calmAnswers⟩ }

theorem run_within_iff_importTwo :
    (∀ first, first <+: [importTwo 10 20] →
      WithinLimits .asciiIpv4
        (run (ServiceState.serveChange .asciiIpv4 readCidr) plainService first).ctx.config) ↔
      Guarded (ServiceState.serveChange .asciiIpv4 readCidr)
        (ServiceState.KeepsLimits .asciiIpv4 readCidr) plainService [importTwo 10 20] :=
  run_within_iff plainService_new _

/-- The import is answered with a success and leaves the rules out of order. -/
theorem importTwo_unsorted : ServiceState.new .asciiIpv4 midnight {} none {}
      { session := { engine := WfpEngine.empty } } false = .ok plainService ∧
    plainService.changeAnswer .asciiIpv4 readCidr (importTwo 20 10) = .ok () ∧
    ¬WithinLimits .asciiIpv4
      (run (ServiceState.serveChange .asciiIpv4 readCidr) plainService
        [importTwo 20 10]).ctx.config := by
  refine ⟨rfl, by decide +kernel, ?_⟩
  intro hwithin
  have hrules : (run (ServiceState.serveChange .asciiIpv4 readCidr) plainService
      [importTwo 20 10]).ctx.config.routing.appRules =
        [⟨20, .exclude, "C:\\a.exe"⟩, ⟨10, .exclude, "C:\\b.exe"⟩] := by decide +kernel
  have hsorted := hwithin.sorted
  rw [hrules] at hsorted
  exact absurd hsorted (by decide)

end Runs
end RouteGuard
