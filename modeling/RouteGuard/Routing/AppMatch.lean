import RouteGuard.Lib.LeastFirst
import RouteGuard.Routing.Decisions

/-! # What an application rule matches

`AppRuleSet::match_path` selects among the rules whose text ends the path
anywhere.  A rule names a program when its text ends the path from a component
on; the selection is the least of those rules just when no rule that ends
inside a component comes before them all. -/
set_option autoImplicit false
namespace RouteGuard

open LeastFirst

/-! ## Suffixes of a path -/

/-- The text ends the path, and starts where a component starts. -/
def EndsAtComponent (rule candidate : String) : Prop :=
  '\\' :: rule.toList <:+ candidate.toList ∨
    (rule.toList.head? = some '\\' ∧ rule.toList <:+ candidate.toList)

instance (rule candidate : String) : Decidable (EndsAtComponent rule candidate) :=
  inferInstanceAs (Decidable (_ ∨ _))

/-- The rule names the program at the path: by a glob, or by the path or its last components. -/
def NamesProgram (rule candidate : String) : Prop :=
  if rule.toList.contains '*' then globMatch rule candidate = true
  else rule ≠ "" ∧ (candidate = rule ∨ EndsAtComponent rule candidate)

instance (rule candidate : String) : Decidable (NamesProgram rule candidate) :=
  inferInstanceAs (Decidable (if rule.toList.contains '*' then globMatch rule candidate = true
    else rule ≠ "" ∧ (candidate = rule ∨ EndsAtComponent rule candidate)))

/-- The rule is an end of the path that starts inside a component, or no text at all. -/
def EndsInside (rule candidate : String) : Prop :=
  rule.toList.contains '*' = false ∧ rule.toList <:+ candidate.toList ∧
    (rule = "" ∨ (candidate ≠ rule ∧ ¬ EndsAtComponent rule candidate))

section Suffixes

theorem EndsAtComponent.suffix {rule candidate : String} (h : EndsAtComponent rule candidate) :
    rule.toList <:+ candidate.toList := by
  rcases h with h | ⟨_, h⟩
  · exact (List.suffix_cons '\\' rule.toList).trans h
  · exact h

theorem pathMatches_plain {rule : String} (hplain : rule.toList.contains '*' = false)
    (candidate : String) :
    pathMatches rule candidate = true ↔ rule.toList <:+ candidate.toList := by
  unfold pathMatches
  rw [if_neg (by rw [hplain]; exact Bool.false_ne_true), Bool.or_eq_true, beq_iff_eq]
  constructor
  · rintro (rfl | h)
    · exact List.suffix_refl _
    · exact List.isSuffixOf_iff_suffix.mp h
  · intro h
    exact Or.inr (List.isSuffixOf_iff_suffix.mpr h)

theorem NamesProgram.pathMatches {rule candidate : String} (h : NamesProgram rule candidate) :
    pathMatches rule candidate = true := by
  unfold NamesProgram at h
  cases hglob : rule.toList.contains '*' with
  | true =>
      rw [if_pos hglob] at h
      unfold RouteGuard.pathMatches
      rw [if_pos hglob]
      exact h
  | false =>
      rw [if_neg (by rw [hglob]; exact Bool.false_ne_true)] at h
      rw [pathMatches_plain hglob]
      rcases h.2 with rfl | hends
      · exact List.suffix_refl _
      · exact hends.suffix

/-- What `path_matches` adds. -/
theorem endsInside_iff (rule candidate : String) :
    EndsInside rule candidate ↔
      pathMatches rule candidate = true ∧ ¬ NamesProgram rule candidate := by
  unfold EndsInside NamesProgram
  cases hglob : rule.toList.contains '*' with
  | true =>
      unfold pathMatches
      rw [if_pos hglob, if_pos rfl]
      simp
  | false =>
      rw [pathMatches_plain hglob, if_neg Bool.false_ne_true]
      by_cases hempty : rule = ""
      · simp [hempty]
      · simp [hempty]

end Suffixes

/-! ## The least rule -/

section Least
variable (env : Externals)

def AppRule.names (mode : RoutingMode) (path : String) (rule : AppRule) : Bool :=
  decide (rule.mode = mode.activeRules ∧
    NamesProgram (normalizePath env rule.path) (normalizePath env path))

def leastNaming (rules : List AppRule) (mode : RoutingMode) (path : String) :
    Option (RuleMode × Nat) :=
  ((rules.filter (AppRule.names env mode path)).map AppRule.priority).min?.map fun priority =>
    (mode.activeRules, priority)

variable {env}

theorem AppRule.applies_iff {mode : RoutingMode} {path : String} {rule : AppRule} :
    rule.applies env mode (some path) = true ↔ rule.mode = mode.activeRules ∧
      pathMatches (normalizePath env rule.path) (normalizePath env path) = true := by
  rw [AppRule.applies, Bool.and_eq_true, decide_eq_true_iff]
  rfl

/-- `match_path` selects among the active rules that `path_matches` takes. -/
theorem matchPath_select (rules : List AppRule) (mode : RoutingMode) (path : String) :
    (AppRuleSet.fromRules env rules).matchPath env path mode =
      ((select AppRule.priority (AppRule.applies env mode (some path)) rules).map
        AppRule.priority).map fun priority => (mode.activeRules, priority) := by
  let entry : AppRule → AppRuleEntry := fun rule =>
    ⟨rule.priority, rule.path, normalizePath env rule.path⟩
  let hit : AppRuleEntry → Bool := fun rule => pathMatches rule.normalized (normalizePath env path)
  have hfilter : (rules.filter fun rule => decide (rule.mode = mode.activeRules)).filter
      (fun rule => hit (entry rule)) = rules.filter (AppRule.applies env mode (some path)) := by
    rw [List.filter_filter]
    apply List.filter_congr
    intro rule _
    exact Bool.and_comm _ _
  have hfind : (AppRuleSet.entriesFor env rules mode.activeRules).find? hit =
      (select AppRule.priority (AppRule.applies env mode (some path)) rules).map entry := by
    calc (AppRuleSet.entriesFor env rules mode.activeRules).find? hit
        = select AppRuleEntry.priority hit (AppRuleSet.entriesFor env rules mode.activeRules) :=
          find_sorted (sortByPriority_sorted _ _)
      _ = select AppRuleEntry.priority hit
            ((rules.filter fun rule => decide (rule.mode = mode.activeRules)).map entry) :=
          select_insertionSort _
      _ = (select AppRule.priority (fun rule => hit (entry rule))
            (rules.filter fun rule => decide (rule.mode = mode.activeRules))).map entry :=
          select_map entry _
      _ = (select AppRule.priority (AppRule.applies env mode (some path)) rules).map entry := by
          rw [select, hfilter, select]
  have hmatch : (AppRuleSet.fromRules env rules).matchPath env path mode =
      ((AppRuleSet.entriesFor env rules mode.activeRules).find? hit).map fun rule =>
        (mode.activeRules, rule.priority) := by
    cases mode <;> rfl
  rw [hmatch, hfind, Option.map_map, Option.map_map]
  rfl

theorem leastNaming_select (rules : List AppRule) (mode : RoutingMode) (path : String) :
    leastNaming env rules mode path =
      ((select AppRule.priority (AppRule.names env mode path) rules).map AppRule.priority).map
        fun priority => (mode.activeRules, priority) := by
  rw [leastNaming, select_key]

/-- The answer is the least priority of the rules that name the program just when every active
rule that ends inside a component has one of them at or below its own priority number. -/
theorem matchPath_least_iff (env : Externals) (rules : List AppRule) (mode : RoutingMode)
    (path : String) :
    (AppRuleSet.fromRules env rules).matchPath env path mode = leastNaming env rules mode path ↔
      ∀ rule ∈ rules, rule.mode = mode.activeRules →
        EndsInside (normalizePath env rule.path) (normalizePath env path) →
          ∃ other ∈ rules, other.mode = mode.activeRules ∧
            NamesProgram (normalizePath env other.path) (normalizePath env path) ∧
            other.priority ≤ rule.priority := by
  have hwider : ∀ rule : AppRule, rule.names env mode path = true →
      rule.applies env mode (some path) = true := by
    intro rule h
    obtain ⟨hmode, hnames⟩ := of_decide_eq_true h
    exact AppRule.applies_iff.mpr ⟨hmode, hnames.pathMatches⟩
  have hinjective : Function.Injective (Option.map fun priority : Nat =>
      (mode.activeRules, priority)) := Option.map_injective (Prod.mk_right_injective _)
  rw [matchPath_select, leastNaming_select, hinjective.eq_iff, select_key_eq_iff hwider]
  constructor
  · intro h rule hmem hmode hinside
    obtain ⟨hpath, hnot⟩ := (endsInside_iff _ _).mp hinside
    have hfalse : rule.names env mode path = false :=
      decide_eq_false fun hnames => hnot hnames.2
    obtain ⟨other, hother, hnames, hle⟩ :=
      h rule hmem (AppRule.applies_iff.mpr ⟨hmode, hpath⟩) hfalse
    obtain ⟨hmode', hnames⟩ := of_decide_eq_true hnames
    exact ⟨other, hother, hmode', hnames, hle⟩
  · intro h rule hmem happlies hfalse
    obtain ⟨hmode, hpath⟩ := AppRule.applies_iff.mp happlies
    have hinside : EndsInside (normalizePath env rule.path) (normalizePath env path) := by
      rw [endsInside_iff]
      refine ⟨hpath, ?_⟩
      intro hnames
      exact of_decide_eq_false hfalse ⟨hmode, hnames⟩
    obtain ⟨other, hother, hmode', hnames, hle⟩ := h rule hmem hmode hinside
    exact ⟨other, hother, decide_eq_true ⟨hmode', hnames⟩, hle⟩

/-- A rule for `app.exe` takes `evilapp.exe` out of the tunnel. -/
theorem matchPath_evilapp :
    (AppRuleSet.fromRules .asciiIpv4 [⟨10, .exclude, "app.exe"⟩]).matchPath .asciiIpv4
        "C:\\tools\\evilapp.exe" .fullTunnel = some (.exclude, 10) ∧
      (AppRuleSet.fromRules .asciiIpv4 [⟨10, .exclude, "app.exe"⟩]).matchPath .asciiIpv4
        "C:\\tools\\evilapp.exe" .fullTunnel ≠
          leastNaming .asciiIpv4 [⟨10, .exclude, "app.exe"⟩] .fullTunnel
            "C:\\tools\\evilapp.exe" := by
  constructor <;> decide

end Least
end RouteGuard
