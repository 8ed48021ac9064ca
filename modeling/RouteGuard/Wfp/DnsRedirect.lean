import RouteGuard.Wfp.Engine

/-! # Filters of the DNS redirection

`install_dns_redirect_filters` of `dns_callout_wfp.rs`, and the flows whose
verdict its filters change. -/
set_option autoImplicit false
namespace RouteGuard

open HashTable Fallible Arbitration

/-! ## Installation -/

def dnsName (suffix : String) : String := "RouteGuard_DNS_" ++ suffix

def udp53V4 : FilterStep where
  rule := .ok ((FilterRule.permit (dnsName "UDP53_V4")).withProtocol .udp)
  wrap e := .networkLock ("dns redirect udp v4 filter: " ++ e)

def tcp53V4 : FilterStep where
  rule := .ok ((FilterRule.permit (dnsName "TCP53_V4")).withProtocol .tcp)
  wrap e := .networkLock ("dns redirect tcp v4 filter: " ++ e)

section Install
variable (fromCidr : String → Except String IpNet)

def proxyLoopback : FilterStep where
  rule := (ipMaskFromStr fromCidr "127.0.0.1").map fun net =>
    ((FilterRule.permit (dnsName "PROXY_LOOPBACK")).withRemoteIp net).withProtocol .udp
  wrap e := .networkLock ("dns proxy loopback permit: " ++ e)

/-- The port of the proxy is in no filter. -/
def installDnsRedirectFilters (_proxyPort : UInt16) : SessionProg (List Nat) := do
  let udp ← udp53V4.add
  trackFilter udp
  let loopback ← (proxyLoopback fromCidr).add
  trackFilter loopback
  let tcp ← tcp53V4.add
  trackFilter tcp
  pure [udp, loopback, tcp]

def removeDnsRedirectFilters (ids : List Nat) : SessionProg Unit := do
  deleteIgnored ids
  untrackFilters ids

def dnsSteps : List FilterStep := [udp53V4, proxyLoopback fromCidr, tcp53V4]

theorem installDnsRedirectFilters_eq (proxyPort : UInt16) :
    installDnsRedirectFilters fromCidr proxyPort = addTracked (dnsSteps fromCidr) := by
  simp [installDnsRedirectFilters, addTracked, dnsSteps, collect]

def loopbackHost : IpAddr := ipv4 127 0 0 1

def dnsRules : List FilterRule :=
  [(FilterRule.permit (dnsName "UDP53_V4")).withProtocol .udp,
   ((FilterRule.permit (dnsName "PROXY_LOOPBACK")).withRemoteIp
     (IpNet.host loopbackHost)).withProtocol .udp,
   (FilterRule.permit (dnsName "TCP53_V4")).withProtocol .tcp]

theorem dnsSteps_rules : (dnsSteps fromCidr).map FilterStep.rule = dnsRules.map .ok := by
  have hparse : ipMaskFromStr fromCidr "127.0.0.1" = .ok (IpNet.host loopbackHost) := by
    have hslash : '/' ∉ "127.0.0.1".toList := by decide
    have hread : IpAddr.parse "127.0.0.1" = some loopbackHost := by decide
    rw [ipMaskFromStr, if_neg hslash, hread]
  simp only [dnsSteps, List.map_cons, List.map_nil, proxyLoopback, hparse]
  rfl

theorem exec_installDns (proxyPort : UInt16) (session : WfpSessionInner) :
    FiltersAdded (addedRules (dnsSteps fromCidr) session.engine.faults) session.engine
      (exec (installDnsRedirectFilters fromCidr proxyPort) session).2.engine := by
  obtain ⟨result, after, hexec, hadded, _⟩ := exec_addAll (dnsSteps fromCidr) session
  have hengine := addTracked_engine (dnsSteps fromCidr) session.engine session.activeFilters
    session.activeFilters
  rw [installDnsRedirectFilters_eq]
  have hsame : (exec (addTracked (dnsSteps fromCidr)) session).2.engine = after := by
    rw [hengine, hexec]
    rfl
  rw [hsame]
  exact hadded

end Install

/-! ## Flows -/

section Flows
variable {fromCidr : String → Except String IpNet} (flow : OutboundFlow)

/-- The call adds a permit for the protocol of the flow. -/
def PermitsProtocol (faults : List (Option String)) (flow : OutboundFlow) : Prop :=
  flow.protocol = .udp ∧ AllClear faults 1 ∨ flow.protocol = .tcp ∧ AllClear faults 3

theorem allClear_of_le {faults : List (Option String)} {count count' : Nat}
    (h : AllClear faults count')
    (hle : count ≤ count') : AllClear faults count := by
  intro fault hmem
  exact h fault (List.mem_of_mem_take (i := count) (by rwa [List.take_take, Nat.min_eq_left hle]))

theorem applies_protocolPermit (suffix : String) (protocol : FlowProtocol) :
    ((FilterRule.permit (dnsName suffix)).withProtocol protocol).Applies flow ↔
      flow.protocol = protocol := by
  rw [FilterRule.applies_withProtocol rfl]
  simp only [FilterRule.applies_permit, true_and]

/-- The permit for the proxy applies to UDP only, which the first filter permits anyway. -/
theorem applies_proxyPermit :
    (((FilterRule.permit (dnsName "PROXY_LOOPBACK")).withRemoteIp
      (IpNet.host loopbackHost)).withProtocol .udp).Applies flow ↔
      loopbackHost = flow.remoteIp ∧ flow.protocol = .udp := by
  rw [FilterRule.applies_withProtocol rfl, FilterRule.applies_withRemoteIp rfl, IpNet.contains_host]
  simp only [FilterRule.applies_permit, true_and]

theorem matched_dns_iff (faults : List (Option String)) (wanted : Tier) :
    Matched FilterRule.tier FilterRule.Applies wanted
        {rule | rule ∈ addedRules (dnsSteps fromCidr) faults} flow ↔
      wanted = .permit ∧ PermitsProtocol faults flow := by
  have hrules := dnsSteps_rules fromCidr
  have hudp := applies_protocolPermit flow "UDP53_V4" .udp
  have htcp := applies_protocolPermit flow "TCP53_V4" .tcp
  have hproxy := applies_proxyPermit flow
  have htier : ∀ rule ∈ dnsRules, rule.tier = .permit := by decide
  simp only [Matched, Set.mem_ofPred_eq]
  rcases clear_or_fails faults 3 with hclear | ⟨k, hk, hfails⟩
  · rw [addedRules_of_clear hrules hclear]
    have hclear' : AllClear faults 1 := allClear_of_le hclear (by omega)
    constructor
    · intro hex
      obtain ⟨rule, hmem, hwanted, happlies⟩ := hex
      refine ⟨by rw [← hwanted, htier rule hmem], ?_⟩
      simp only [dnsRules, List.mem_cons, List.not_mem_nil, or_false] at hmem
      rcases hmem with rfl | rfl | rfl
      · exact Or.inl ⟨hudp.mp happlies, hclear'⟩
      · exact Or.inl ⟨(hproxy.mp happlies).2, hclear'⟩
      · exact Or.inr ⟨htcp.mp happlies, hclear⟩
    · intro hpermits
      obtain ⟨rfl, hproto, _⟩ | ⟨rfl, hproto, _⟩ := and_or_left.mp hpermits
      · exact ⟨_, List.mem_cons_self, rfl, hudp.mpr hproto⟩
      · exact ⟨_, List.mem_cons_of_mem _ (List.mem_cons_of_mem _ List.mem_cons_self), rfl,
          htcp.mpr hproto⟩
  · rw [addedRules_of_fails hrules hfails]
    have hnot3 : ¬ AllClear faults 3 := fun hclear => hclear.not_failsAfter hk hfails
    constructor
    · intro hex
      obtain ⟨rule, hmem, hwanted, happlies⟩ := hex
      have hfront : rule ∈ dnsRules.take 2 :=
        (List.take_subset_take_left dnsRules (Nat.le_of_lt_succ hk)) hmem
      refine ⟨by rw [← hwanted, htier rule (List.mem_of_mem_take hmem)], ?_⟩
      have hpos : 1 ≤ k := by
        cases k with
        | zero => rw [List.take_zero] at hmem; cases hmem
        | succ k => omega
      have hclear' : AllClear faults 1 := allClear_of_le hfails.1 hpos
      simp only [dnsRules, List.take_succ_cons, List.take_zero, List.mem_cons, List.not_mem_nil,
        or_false] at hfront
      rcases hfront with rfl | rfl
      · exact Or.inl ⟨hudp.mp happlies, hclear'⟩
      · exact Or.inl ⟨(hproxy.mp happlies).2, hclear'⟩
    · intro hpermits
      obtain ⟨rfl, hproto, hclear'⟩ | ⟨rfl, _, hclear⟩ := and_or_left.mp hpermits
      · cases k with
        | zero => exact absurd hfails (hclear'.not_failsAfter (by omega))
        | succ k =>
            rw [dnsRules, List.take_succ_cons]
            exact ⟨_, List.mem_cons_self, rfl, hudp.mpr hproto⟩
      · exact absurd hclear hnot3

/-- Beside any other filters, the redirection leaves the verdict on a flow alone where it adds no
permit for the flow's protocol or the flow is permitted anyway. -/
theorem installDns_unchanged_iff (fromCidr : String → Except String IpNet)
    (session : WfpSessionInner)
    (proxyPort : UInt16) (flow : OutboundFlow) :
    (Permitted (exec (installDnsRedirectFilters fromCidr proxyPort) session).2.engine.rules flow ↔
      Permitted session.engine.rules flow) ↔
      ¬ PermitsProtocol session.engine.faults flow ∨ Permitted session.engine.rules flow := by
  have hmatched : ∀ wanted, Matched FilterRule.tier FilterRule.Applies wanted
      {rule | rule ∈ addedRules (dnsSteps fromCidr) session.engine.faults} flow ↔
      wanted = .permit ∧ PermitsProtocol session.engine.faults flow :=
    matched_dns_iff flow session.engine.faults
  have hblock : ¬ Matched FilterRule.tier FilterRule.Applies .block
      {rule | rule ∈ addedRules (dnsSteps fromCidr) session.engine.faults} flow := by
    rw [hmatched]
    intro hcase
    cases hcase.1
  rw [(exec_installDns fromCidr proxyPort session).rules_eq]
  refine (permits_union_eq_iff hblock).trans ?_
  rw [hmatched, imp_iff_not_or]
  simp only [true_and]
  rfl

end Flows

/-! ## A locked machine -/

def webFlow : OutboundFlow := ⟨"c:\\app.exe", ipv4 198 51 100 7, 443, .tcp, 5⟩

/-- Redirecting DNS opens a machine that blocks everything to the web. -/
theorem webFlow_opened : webFlow.remotePort ≠ 53 ∧ webFlow.remoteIp ≠ loopbackHost ∧
    ¬ (Permitted (exec (installDnsRedirectFilters readCidr 5353) blockedSession).2.engine.rules
        webFlow ↔ Permitted blockedSession.engine.rules webFlow) := by
  refine ⟨by decide, by decide, fun hsame => ?_⟩
  have hpermits : PermitsProtocol blockedSession.engine.faults webFlow :=
    Or.inr ⟨rfl, allClear_nil 3⟩
  apply not_permitted_blocked webFlow
  rw [← hsame, (exec_installDns readCidr 5353 blockedSession).rules_eq]
  exact permits_of_matched
    (matched_union.mpr (Or.inr ((matched_dns_iff _ _ _).mpr ⟨rfl, hpermits⟩)))

end RouteGuard
