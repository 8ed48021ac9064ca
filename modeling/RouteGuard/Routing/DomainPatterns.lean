import RouteGuard.Lib.LeastFirst
import RouteGuard.Lib.Segments
import RouteGuard.Routing.DomainStore

/-! # What a domain pattern matches

Suffix tests on host names coincide with suffixes of label lists, and the two
selectors of a domain rule, `DomainCache::match_domain` and
`DomainRouteStore::match_domain`, choose the same rule. -/
set_option autoImplicit false
namespace RouteGuard

open Segments

def DomainCache.matchDomain (env : Externals) (cache : DomainCache) (host : String) :
    Option DomainRuleEntry :=
  RouteGuard.matchDomain env cache.rules host

/-! ## Case and trailing dots -/

section Normal

theorem rdropWhile_map {α β : Type} (p : β → Bool) (f : α → β) (text : List α) :
    (text.map f).rdropWhile p = (text.rdropWhile fun a => p (f a)).map f := by
  rw [List.rdropWhile, ← List.map_reverse, List.dropWhile_map, ← List.map_reverse, List.rdropWhile]
  rfl

theorem normalizeDomain_toList (domain : String) :
    (normalizeDomain domain).toList =
      (domain.toList.rdropWhile fun d => d == '.').map Char.toLower := by
  simp only [normalizeDomain, toAsciiLowercase, trimEndMatches, String.toList_ofList]

theorem normalizeDomain_normalizeDomain (domain : String) :
    normalizeDomain (normalizeDomain domain) = normalizeDomain domain := by
  have hdot : (fun a : Char => a.toLower == '.') = fun a => a == '.' := by
    funext a
    rw [Bool.eq_iff_iff, beq_iff_eq, beq_iff_eq]
    exact toLower_eq_iff (by decide) a
  apply String.toList_inj.mp
  rw [normalizeDomain_toList, normalizeDomain_toList, rdropWhile_map, hdot,
    List.rdropWhile_idempotent, List.map_map]
  exact List.map_congr_left fun c _ => toLower_toLower c

theorem domainMatches_normalizeDomain (env : Externals) (pattern host : String) :
    domainMatches env pattern (normalizeDomain host) = domainMatches env pattern host := by
  unfold domainMatches
  rw [normalizeDomain_normalizeDomain]

end Normal

/-! ## Labels -/

def domainLabels (domain : String) : List (List Char) := (normalizeDomain domain).toList.splitOn '.'

def AsciiName (domain : String) : Prop :=
  (∀ c ∈ domain.toList, c.toNat < 128) ∧ ∀ label ∈ domainLabels domain, label ≠ []

instance (domain : String) : Decidable (AsciiName domain) :=
  @instDecidableAnd _ _ (List.decidableBAll _ _) (List.decidableBAll _ _)

/-- The labels of the pattern end those of the host; after a leading `*.` something stands
before them. -/
def PatternCovers (pattern host : String) : Prop :=
  if startsWith (normalizeDomain pattern) "*." then
    ProperSuffix (domainLabels pattern).tail (domainLabels host)
  else domainLabels pattern <:+ domainLabels host

instance (pattern host : String) : Decidable (PatternCovers pattern host) :=
  inferInstanceAs (Decidable (if startsWith (normalizeDomain pattern) "*." then
    ProperSuffix (domainLabels pattern).tail (domainLabels host)
  else domainLabels pattern <:+ domainLabels host))

/-- What `str::to_lowercase` documents of ASCII text. -/
def Externals.LowersAscii (env : Externals) : Prop :=
  ∀ s : String, (∀ c ∈ s.toList, c.toNat < 128) → env.toLowercase s = toAsciiLowercase s

section Labels
variable {env : Externals}

theorem endsWith_iff (s tail : String) : endsWith s tail = true ↔ tail.toList <:+ s.toList :=
  List.isSuffixOf_iff_suffix

theorem startsWith_star {s : String} (h : startsWith s "*." = true) :
    ∃ rest, s.toList = '*' :: '.' :: rest := by
  obtain ⟨rest, hrest⟩ := List.isPrefixOf_iff_prefix.mp h
  exact ⟨rest, hrest.symm⟩

theorem lower_trimmed (lower : env.LowersAscii) {pattern : String} (h : AsciiName pattern) :
    env.toLowercase (trimEndMatches '.' pattern) = normalizeDomain pattern := by
  apply lower
  intro c hc
  apply h.1
  simp only [trimEndMatches, String.toList_ofList] at hc
  exact (List.rdropWhile_prefix _ _).subset hc

theorem utf8ByteSize_lt_of_suffix {s tail : String} (h : tail.toList <:+ s.toList)
    (hne : tail ≠ s) : tail.utf8ByteSize < s.utf8ByteSize := by
  obtain ⟨before, hbefore⟩ := h
  have hs : s = String.ofList before ++ tail := by
    apply String.toList_inj.mp
    rw [String.toList_append, String.toList_ofList, hbefore]
  have hpos : (String.ofList before).utf8ByteSize ≠ 0 := by
    intro hzero
    rw [String.utf8ByteSize_eq_zero_iff] at hzero
    rw [hzero, String.empty_append] at hs
    exact hne hs.symm
  rw [hs, String.utf8ByteSize_append]
  omega

theorem not_dot_first {host : String} (h : AsciiName host) (rest : List Char) :
    (normalizeDomain host).toList ≠ '.' :: rest := by
  intro heq
  have hlabels : domainLabels host = [] :: rest.splitOn '.' := by
    rw [domainLabels, heq, List.splitOn_cons_eq_if_modifyHead]
    rfl
  exact h.2 [] (by rw [hlabels]; exact List.mem_cons_self) rfl

theorem domainMatches_iff_covers (lower : env.LowersAscii) {pattern host : String}
    (hpattern : AsciiName pattern) (hhost : AsciiName host) :
    domainMatches env pattern host = true ↔ PatternCovers pattern host := by
  unfold domainMatches PatternCovers
  simp only [lower_trimmed lower hpattern]
  by_cases hstar : startsWith (normalizeDomain pattern) "*." = true
  · rw [if_pos hstar, if_pos hstar]
    obtain ⟨rest, hrest⟩ := startsWith_star hstar
    have htail : (domainLabels pattern).tail = rest.splitOn '.' := by
      rw [domainLabels, hrest]
      exact congrArg List.tail (List.splitOn_append_cons_self ['*'] rest)
    have hsuffix : (dropFirst (normalizeDomain pattern)).toList = '.' :: rest := by
      rw [dropFirst, hrest, String.toList_ofList]
      rfl
    rw [Bool.and_eq_true, endsWith_iff, decide_eq_true_iff, hsuffix, htail, sep_suffix_iff]
    constructor
    · exact And.left
    · intro hproper
      refine ⟨hproper, utf8ByteSize_lt_of_suffix ?_ ?_⟩
      · rw [hsuffix]
        exact (sep_suffix_iff _ rest).mpr hproper
      · intro heq
        exact not_dot_first hhost rest (by rw [← heq, hsuffix])
  · rw [if_neg hstar, if_neg hstar]
    have hdotted : ("." ++ normalizeDomain pattern).toList =
        '.' :: (normalizeDomain pattern).toList := by
      rw [String.toList_append]
      rfl
    rw [Bool.or_eq_true, beq_iff_eq, endsWith_iff, hdotted, domainLabels, domainLabels,
      splitOn_suffix_iff, String.toList_inj]

end Labels

/-! ## The two selectors -/

section Selectors
variable (env : Externals)

theorem matchDomain_domainRuleEntries (rules : List DomainRule) (host : String) :
    matchDomain env (domainRuleEntries rules) host =
      (LeastFirst.select DomainRule.priority (fun rule => domainMatches env rule.pattern host)
        rules).map DomainRuleEntry.ofRule := by
  have hselect : matchDomain env (domainRuleEntries rules) host =
      LeastFirst.select DomainRuleEntry.priority
        (fun entry => domainMatches env entry.pattern host) (domainRuleEntries rules) := rfl
  rw [hselect, domainRuleEntries, sortByPriority, LeastFirst.select_insertionSort,
    LeastFirst.select_map]
  rfl

theorem storeMatchDomain_eq (store : DomainRouteStore) (host : String) :
    store.matchDomain env host = matchDomain env store.rules host := by
  unfold DomainRouteStore.matchDomain matchDomain
  simp only [domainMatches_normalizeDomain]

/-- Both selectors return the first, in list order, of the matching rules of least priority,
and on names of labels a pattern matches what its labels end. -/
theorem matchDomain_first_least :
    (∀ (store : DomainRouteStore) (rules : List DomainRule) (host : String),
      ∃ choice : Option DomainRule,
        LeastFirst.Selects DomainRule.priority
          (fun rule => domainMatches env rule.pattern host) rules choice ∧
        (store.setRules rules).matchDomain env host = choice.map DomainRuleEntry.ofRule ∧
        (DomainCache.fromRules rules).matchDomain env host =
          choice.map DomainRuleEntry.ofRule) ∧
    (env.LowersAscii → ∀ pattern host : String, AsciiName pattern → AsciiName host →
      (domainMatches env pattern host = true ↔ PatternCovers pattern host)) := by
  constructor
  · intro store rules host
    refine ⟨_, LeastFirst.select_selects rules, ?_, ?_⟩
    · rw [storeMatchDomain_eq]
      exact matchDomain_domainRuleEntries env rules host
    · exact matchDomain_domainRuleEntries env rules host
  · intro lower pattern host hpattern hhost
    exact domainMatches_iff_covers lower hpattern hhost

theorem asciiIpv4_lowersAscii : Externals.asciiIpv4.LowersAscii := fun _ _ => rfl

theorem matchDomain_first_least_example :
    domainMatches .asciiIpv4 "*.Example.com." "a.example.COM" = true ∧
      domainMatches .asciiIpv4 "*.example.com" "evil-example.com" = false := by
  have hcovers := (matchDomain_first_least .asciiIpv4).2 asciiIpv4_lowersAscii
  constructor
  · exact (hcovers _ _ (by decide) (by decide)).mpr (by decide)
  · rw [← Bool.not_eq_true, hcovers _ _ (by decide) (by decide)]
    decide

end Selectors
end RouteGuard
