import RouteGuard.Lib.LeastFirst
import RouteGuard.Routing.RuleOps

/-! # Removing a rule that was added

`add_app_rule` compares normalized paths for equality, `remove_app_rule` takes
the first rule whose path is an end of the one asked for or has it as an end.
The second undoes the first just when no rule at or below the priority number
of the new one is related to it in that way. -/
set_option autoImplicit false
namespace RouteGuard

open LeastFirst

section Inverse
variable {env : Externals} {paths : PathAnswers} {cfg cfg' : AppConfig} {rule : AppRule}
  {req : AddAppRuleRequest}

/-- What an addition that succeeds checked and did. -/
structure Added (env : Externals) (cfg cfg' : AppConfig) (req : AddAppRuleRequest)
    (rule : AppRule) : Prop where
  rule_eq : rule = ⟨req.priority, req.mode, req.path⟩
  room : cfg.routing.appRules.length < maxAppRules
  fresh : ∀ other ∈ cfg.routing.appRules, normalizePath env other.path ≠ normalizePath env req.path
  mode : req.mode = cfg.routing.mode.ruleMode
  config : cfg' =
    cfg.withAppRules (sortByPriority AppRule.priority (cfg.routing.appRules ++ [rule]))

theorem validateAppPath_ok {path path' : String}
    (h : validateAppPath env paths path = .ok path') : path' = path := by
  unfold validateAppPath at h
  split_ifs at h
  injection h with h
  exact h.symm

theorem addAppRule_added (h : addAppRule env paths cfg req = .ok (rule, cfg')) :
    Added env cfg cfg' req rule := by
  unfold addAppRule at h
  split at h
  · cases h
  · rename_i hroom
    split at h
    · cases h
    · rename_i path hpath
      have hpath := validateAppPath_ok hpath
      subst hpath
      split_ifs at h with hfresh hmode
      injection h with h
      injection h with hrule hcfg
      refine ⟨hrule.symm, Nat.lt_of_not_le hroom, ?_, ?_, ?_⟩
      · intro other hother heq
        apply hfresh
        rw [List.any_eq_true]
        exact ⟨other, hother, beq_iff_eq.mpr heq⟩
      · by_contra hne
        exact hmode hne
      · rw [← hcfg, ← hrule]

theorem sameApp_self : sameApp env req.path ⟨req.priority, req.mode, req.path⟩ = true := by
  simp only [sameApp, beq_self_eq_true, Bool.true_or]

theorem Added.not_mem (h : Added env cfg cfg' req rule) : rule ∉ cfg.routing.appRules := by
  intro hmem
  apply h.fresh rule hmem
  rw [h.rule_eq]

theorem Added.find (h : Added env cfg cfg' req rule) :
    cfg'.routing.appRules.find? (sameApp env req.path) =
      select AppRule.priority (sameApp env req.path) (cfg.routing.appRules ++ [rule]) := by
  rw [h.config]
  calc (sortByPriority AppRule.priority (cfg.routing.appRules ++ [rule])).find?
        (sameApp env req.path)
      = select AppRule.priority (sameApp env req.path)
          (sortByPriority AppRule.priority (cfg.routing.appRules ++ [rule])) :=
        find_sorted (sortByPriority_sorted _ _)
    _ = select AppRule.priority (sameApp env req.path) (cfg.routing.appRules ++ [rule]) :=
        select_insertionSort _

theorem removeAppRule_eq {path : String} (h : cfg.routing.appRules.find? (sameApp env path) =
    some rule) : removeAppRule env cfg path =
      .ok (rule, cfg.withAppRules (cfg.routing.appRules.erase rule)) := by
  unfold removeAppRule
  rw [h, eraseP_eq_erase h]

/-- After an addition, the removal of the same path takes the rule just added and leaves the
previous rules sorted just when every rule related to the path by an end has a greater priority
number. -/
theorem removeAppRule_undoes_iff (h : addAppRule env paths cfg req = .ok (rule, cfg')) :
    removeAppRule env cfg' req.path =
        .ok (rule, cfg.withAppRules (sortByPriority AppRule.priority cfg.routing.appRules)) ↔
      ∀ other ∈ cfg.routing.appRules, sameApp env req.path other = true →
        req.priority < other.priority := by
  have hadded := addAppRule_added h
  have hself : sameApp env req.path rule = true := by
    rw [hadded.rule_eq]
    exact sameApp_self
  have hpriority : rule.priority = req.priority := by rw [hadded.rule_eq]
  rw [← hpriority, ← select_append_eq_iff hself hadded.not_mem, ← hadded.find]
  constructor
  · intro hremove
    exact (removeAppRule_ok hremove).1
  · intro hfind
    rw [removeAppRule_eq hfind, hadded.config]
    have hrules : (sortByPriority AppRule.priority (cfg.routing.appRules ++ [rule])).erase rule =
        sortByPriority AppRule.priority cfg.routing.appRules :=
      erase_insertionSort_append hadded.not_mem
    rw [← hrules]
    rfl

/-! ### A rule named by its file -/

def driveC : PathAnswers where
  isAbsolute path := startsWith path "C:\\"
  «exists» _ := true

def appRequest : AddAppRuleRequest := ⟨"C:\\tools\\app.exe", .exclude, 10⟩

def rulesOnly (rules : List AppRule) : AppConfig := AppConfig.withAppRules {} rules

/-- With an imported rule named by the file alone, of a lower priority number, the removal takes
that one. -/
theorem removeAppRule_takes_imported :
    addAppRule .asciiIpv4 driveC (rulesOnly [⟨5, .exclude, "app.exe"⟩]) appRequest =
        .ok (⟨10, .exclude, "C:\\tools\\app.exe"⟩,
          rulesOnly [⟨5, .exclude, "app.exe"⟩, ⟨10, .exclude, "C:\\tools\\app.exe"⟩]) ∧
      removeAppRule .asciiIpv4
          (rulesOnly [⟨5, .exclude, "app.exe"⟩, ⟨10, .exclude, "C:\\tools\\app.exe"⟩])
          appRequest.path =
        .ok (⟨5, .exclude, "app.exe"⟩, rulesOnly [⟨10, .exclude, "C:\\tools\\app.exe"⟩]) := by
  constructor <;> decide

theorem removeAppRule_undoes_example :
    removeAppRule .asciiIpv4
        (rulesOnly [⟨10, .exclude, "C:\\tools\\app.exe"⟩, ⟨20, .exclude, "app.exe"⟩])
        appRequest.path =
      .ok (⟨10, .exclude, "C:\\tools\\app.exe"⟩, rulesOnly [⟨20, .exclude, "app.exe"⟩]) := by
  have hadd : addAppRule .asciiIpv4 driveC (rulesOnly [⟨20, .exclude, "app.exe"⟩]) appRequest =
      .ok (⟨10, .exclude, "C:\\tools\\app.exe"⟩,
        rulesOnly [⟨10, .exclude, "C:\\tools\\app.exe"⟩, ⟨20, .exclude, "app.exe"⟩]) := by
    decide
  exact (removeAppRule_undoes_iff hadd).mpr (by decide)

end Inverse
end RouteGuard
