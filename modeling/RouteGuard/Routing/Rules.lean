import RouteGuard.Core.Config
import RouteGuard.Core.Text
import Mathlib.Data.List.Sort
import Mathlib.Data.List.MinMax

/-! # Rule tables

`ip.rs`, `app.rs` and the rule part of `domain.rs`: CIDR rules and application
rules sorted by priority number, and the matching of host names against domain
patterns. -/
set_option autoImplicit false
namespace RouteGuard

/-- `sort_by_key(|r| r.priority)`, a stable sort. -/
def sortByPriority {α : Type} (priority : α → Nat) (rules : List α) : List α :=
  rules.insertionSort fun a b => priority a ≤ priority b

section Priority
variable {α : Type} (priority : α → Nat)

instance priorityTotal : Std.Total fun a b : α => priority a ≤ priority b :=
  ⟨fun a b => Nat.le_total (priority a) (priority b)⟩

instance priorityTrans : IsTrans α fun a b : α => priority a ≤ priority b :=
  ⟨fun _ _ _ => Nat.le_trans⟩

theorem mem_sortByPriority (rules : List α) (rule : α) :
    rule ∈ sortByPriority priority rules ↔ rule ∈ rules :=
  (List.perm_insertionSort _ rules).mem_iff

theorem sortByPriority_sorted (rules : List α) :
    (sortByPriority priority rules).Pairwise fun a b => priority a ≤ priority b :=
  List.pairwise_insertionSort _ rules

theorem find_sorted_least (matching : α → Bool) (rules : List α) (rule : α)
    (found : (sortByPriority priority rules).find? matching = some rule) :
    rule ∈ rules ∧ matching rule = true ∧
      ∀ other ∈ rules, matching other = true → priority rule ≤ priority other := by
  obtain ⟨hmatch, before, after, hsplit, hbefore⟩ := List.find?_eq_some_iff_append.mp found
  have hsorted := sortByPriority_sorted priority rules
  rw [hsplit] at hsorted
  refine ⟨?_, hmatch, ?_⟩
  · rw [← mem_sortByPriority priority, hsplit]
    simp
  · intro other hother hm
    rw [← mem_sortByPriority priority, hsplit] at hother
    rcases List.mem_append.mp hother with hb | ha
    · have hnot := hbefore other hb
      simp [hm] at hnot
    · rcases List.mem_cons.mp ha with rfl | ha
      · exact Nat.le_refl _
      · have htail := (List.pairwise_append.mp hsorted).2.1
        exact (List.pairwise_cons.mp htail).1 other ha

end Priority

/-! ## CIDR rules -/

structure IpRuleEntry where
  priority : Nat
  cidr : IpNet
  target : RouteTarget
deriving DecidableEq, Repr

structure IpRuleTable where
  rules : List IpRuleEntry
deriving DecidableEq, Repr

section Ip
variable (env : Externals)

/-- The parsing loop of `IpRuleTable::from_rules`; it stops at the first bad CIDR. -/
def parseIpRules : List IpRule → Except String (List IpRuleEntry)
  | [] => .ok []
  | rule :: rest =>
      match env.parseNet rule.cidr with
      | .error e => .error ("invalid cidr " ++ rule.cidr ++ ": " ++ e)
      | .ok cidr =>
          match parseIpRules rest with
          | .error e => .error e
          | .ok entries => .ok (⟨rule.priority, cidr, rule.target⟩ :: entries)

def IpRuleTable.fromRules (rules : List IpRule) : Except String IpRuleTable :=
  match parseIpRules env rules with
  | .error e => .error e
  | .ok entries => .ok ⟨sortByPriority IpRuleEntry.priority entries⟩

def IpRuleTable.lookup (table : IpRuleTable) (ip : IpAddr) : Option IpRuleEntry :=
  table.rules.find? fun rule => rule.cidr.contains ip

/-- `all_bypass_cidrs` and `all_block_cidrs`, for their target. -/
def IpRuleTable.allCidrs (table : IpRuleTable) (target : RouteTarget) : List IpNet :=
  (table.rules.filter fun rule => rule.target = target).map IpRuleEntry.cidr

def Reads (rule : IpRule) (entry : IpRuleEntry) : Prop :=
  entry.priority = rule.priority ∧ entry.target = rule.target ∧
    env.parseNet rule.cidr = .ok entry.cidr

theorem parseIpRules_reads : ∀ (rules : List IpRule) (entries : List IpRuleEntry),
    parseIpRules env rules = .ok entries →
      (∀ rule ∈ rules, ∃ entry ∈ entries, Reads env rule entry) ∧
      (∀ entry ∈ entries, ∃ rule ∈ rules, Reads env rule entry) := by
  intro rules
  induction rules with
  | nil =>
      intro entries h
      cases h
      simp
  | cons rule rest ih =>
      intro entries h
      simp only [parseIpRules] at h
      cases hp : env.parseNet rule.cidr with
      | error e => simp [hp] at h
      | ok cidr =>
          cases hr : parseIpRules env rest with
          | error e => simp [hp, hr] at h
          | ok tail =>
              simp only [hp, hr, Except.ok.injEq] at h
              subst h
              have hhead : Reads env rule ⟨rule.priority, cidr, rule.target⟩ := ⟨rfl, rfl, hp⟩
              obtain ⟨hrules, hentries⟩ := ih tail hr
              constructor
              · intro r hmem
                rcases List.mem_cons.mp hmem with rfl | hmem
                · exact ⟨_, List.mem_cons_self, hhead⟩
                · obtain ⟨entry, hentry, hreads⟩ := hrules r hmem
                  exact ⟨entry, List.mem_cons_of_mem _ hentry, hreads⟩
              · intro entry hmem
                rcases List.mem_cons.mp hmem with rfl | hmem
                · exact ⟨rule, List.mem_cons_self, hhead⟩
                · obtain ⟨r, hrule, hreads⟩ := hentries entry hmem
                  exact ⟨r, List.mem_cons_of_mem _ hrule, hreads⟩

variable {env}

theorem fromRules_ok {rules : List IpRule} {table : IpRuleTable}
    (h : IpRuleTable.fromRules env rules = .ok table) :
    ∃ entries, parseIpRules env rules = .ok entries ∧
      table = ⟨sortByPriority IpRuleEntry.priority entries⟩ := by
  simp only [IpRuleTable.fromRules] at h
  cases hp : parseIpRules env rules with
  | error e => simp [hp] at h
  | ok entries =>
      simp only [hp, Except.ok.injEq] at h
      exact ⟨entries, rfl, h.symm⟩

theorem fromRules_entry {rules : List IpRule} {table : IpRuleTable}
    (h : IpRuleTable.fromRules env rules = .ok table) {rule : IpRule} (hmem : rule ∈ rules) :
    ∃ entry ∈ table.rules, Reads env rule entry := by
  obtain ⟨entries, hp, rfl⟩ := fromRules_ok h
  obtain ⟨entry, hentry, hreads⟩ := (parseIpRules_reads env rules entries hp).1 rule hmem
  exact ⟨entry, (mem_sortByPriority _ entries entry).mpr hentry, hreads⟩

theorem fromRules_rule {rules : List IpRule} {table : IpRuleTable}
    (h : IpRuleTable.fromRules env rules = .ok table) {entry : IpRuleEntry}
    (hmem : entry ∈ table.rules) : ∃ rule ∈ rules, Reads env rule entry := by
  obtain ⟨entries, hp, rfl⟩ := fromRules_ok h
  have hentry := (mem_sortByPriority _ entries entry).mp hmem
  exact (parseIpRules_reads env rules entries hp).2 entry hentry

theorem lookup_least {rules : List IpRule} {table : IpRuleTable}
    (h : IpRuleTable.fromRules env rules = .ok table) {ip : IpAddr} {entry : IpRuleEntry}
    (found : table.lookup ip = some entry) :
    entry ∈ table.rules ∧ entry.cidr.contains ip = true ∧
      ∀ other ∈ table.rules, other.cidr.contains ip = true → entry.priority ≤ other.priority := by
  obtain ⟨entries, hp, rfl⟩ := fromRules_ok h
  obtain ⟨hmem, hcontains, hleast⟩ :=
    find_sorted_least IpRuleEntry.priority (fun rule => rule.cidr.contains ip) entries entry found
  refine ⟨(mem_sortByPriority _ entries entry).mpr hmem, hcontains, ?_⟩
  intro other hother hc
  exact hleast other ((mem_sortByPriority _ entries other).mp hother) hc

theorem lookup_isSome_of_contains {table : IpRuleTable} {ip : IpAddr} {entry : IpRuleEntry}
    (hmem : entry ∈ table.rules) (hcontains : entry.cidr.contains ip = true) :
    ∃ found, table.lookup ip = some found := by
  have hsome : (table.rules.find? fun rule => rule.cidr.contains ip).isSome = true :=
    List.find?_isSome.mpr ⟨entry, hmem, hcontains⟩
  exact Option.isSome_iff_exists.mp hsome

end Ip

/-! ## Application rules -/

structure AppRuleEntry where
  priority : Nat
  path : String
  normalized : String
deriving DecidableEq, Repr

structure AppRuleSet where
  excludes : List AppRuleEntry
  includes : List AppRuleEntry
deriving DecidableEq, Repr

section App
variable (env : Externals)

def normalizePath (path : String) : String :=
  env.toLowercase (String.ofList (path.toList.map fun c => if c = '/' then '\\' else c))

def AppRuleSet.entriesFor (rules : List AppRule) (mode : RuleMode) : List AppRuleEntry :=
  sortByPriority AppRuleEntry.priority
    ((rules.filter fun rule => rule.mode = mode).map fun rule =>
      ⟨rule.priority, rule.path, normalizePath env rule.path⟩)

def AppRuleSet.fromRules (rules : List AppRule) : AppRuleSet where
  excludes := AppRuleSet.entriesFor env rules .exclude
  includes := AppRuleSet.entriesFor env rules .include

def findAfter (part : List Char) : List Char → Option (List Char)
  | [] => if part.isEmpty then some [] else none
  | c :: rest =>
      if part.isPrefixOf (c :: rest) then some ((c :: rest).drop part.length)
      else findAfter part rest

/-- The parts after the first, against `text[pos..]`. -/
def globRest : List (List Char) → List Char → Bool
  | [], _ => true
  | [last], text => last.isEmpty || last.isSuffixOf text
  | part :: next :: more, text =>
      if part.isEmpty then globRest (next :: more) text
      else match findAfter part text with
        | some text' => globRest (next :: more) text'
        | none => false

def globMatch (pattern text : String) : Bool :=
  match pattern.toList.splitOn '*' with
  | [] => true
  | first :: more =>
      if first.isPrefixOf text.toList then globRest more (text.toList.drop first.length) else false

def pathMatches (rule candidate : String) : Bool :=
  if rule.toList.contains '*' then globMatch rule candidate
  else candidate == rule || endsWith candidate rule

def AppRuleSet.matchPath (set : AppRuleSet) (appPath : String) (mode : RoutingMode) :
    Option (RuleMode × Nat) :=
  let normalized := normalizePath env appPath
  match mode with
  | .fullTunnel =>
      (set.excludes.find? fun rule => pathMatches rule.normalized normalized).map fun rule =>
        (.exclude, rule.priority)
  | .splitInclude =>
      (set.includes.find? fun rule => pathMatches rule.normalized normalized).map fun rule =>
        (.include, rule.priority)

end App

/-! ## Domain patterns -/

structure DomainRuleEntry where
  priority : Nat
  pattern : String
  target : RouteTarget
deriving DecidableEq, Repr

def normalizeDomain (domain : String) : String := toAsciiLowercase (trimEndMatches '.' domain)

section Domain
variable (env : Externals)

def domainMatches (pattern host : String) : Bool :=
  let host := normalizeDomain host
  let pattern := env.toLowercase (trimEndMatches '.' pattern)
  if startsWith pattern "*." then
    let suffix := dropFirst pattern
    endsWith host suffix && decide (suffix.utf8ByteSize < host.utf8ByteSize)
  else host == pattern || endsWith host ("." ++ pattern)

def DomainRuleEntry.ofRule (rule : DomainRule) : DomainRuleEntry :=
  ⟨rule.priority, rule.pattern, rule.target⟩

/-- The entries of `DomainCache::from_rules` and `DomainRouteStore::set_rules`. -/
def domainRuleEntries (rules : List DomainRule) : List DomainRuleEntry :=
  sortByPriority DomainRuleEntry.priority (rules.map DomainRuleEntry.ofRule)

/-- `filter(domain_matches).min_by_key(priority)`: the first of the least priority number. -/
def matchDomain (rules : List DomainRuleEntry) (host : String) : Option DomainRuleEntry :=
  (rules.filter fun rule => domainMatches env rule.pattern host).argmin DomainRuleEntry.priority

end Domain
end RouteGuard
