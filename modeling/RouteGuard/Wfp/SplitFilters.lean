import RouteGuard.Wfp.Engine

/-! # Filters of the application split tunnel

`apply_split_tunnel` of `split_tunnel.rs`: which flows its filters change beside
other filters, and what they decide about a listed application. -/
set_option autoImplicit false
namespace RouteGuard

open HashTable Fallible Arbitration

/-! ## Installation -/

def splitName (suffix : String) : String := "RouteGuard_SPLIT_" ++ suffix

def numbered (kind : String) (index : Nat) : String := splitName (kind ++ ToString.toString index)

/-- `add_filter` of `split_tunnel.rs`, for a rule or the error met in building it. -/
def splitStep (rule : Except RouteGuardError FilterRule) : FilterStep where
  rule := rule
  wrap e := .routing ("split filter: " ++ e)

def appSteps (permitKind blockKind : String) (row : AppFilterEntry × Nat) : List FilterStep :=
  [splitStep (.ok ((FilterRule.permit (numbered permitKind row.2)).withAppPath row.1.path)),
   splitStep (.ok ((FilterRule.block (numbered blockKind row.2)).withAppPath row.1.path))]

def tunnelPermit : FilterRule := FilterRule.permit (splitName "PERMIT_TUN")

def installApps (permitKind blockKind : String) (apps : List AppFilterEntry) :
    SessionProg (List Nat) := do
  let ids ← collect (fun row => addAll (appSteps permitKind blockKind row)) apps.zipIdx
  pure ids.flatten

def removeSplitFilters (ids : List Nat) : SessionProg Unit := do
  deleteIgnored ids
  untrackFilters ids

def installSplitInclude (policy : PolicySnapshot) : SessionProg (List Nat) :=
  installApps "PERMIT_INC_" "BLOCK_PHYS_INC_" policy.tunnelApps

section Install
variable (fromCidr : String → Except String IpNet)

def blockCidrStep (row : String × Nat) : FilterStep :=
  splitStep ((ipMaskFromStr fromCidr row.1).map fun net =>
    (FilterRule.block (numbered "IP_BLOCK_" row.2)).withRemoteIp net)

def installFullTunnelExclude (policy : PolicySnapshot) : SessionProg (List Nat) := do
  let apps ← installApps "PERMIT_EXCL_" "BLOCK_TUN_EXCL_" policy.bypassApps
  let tunnel ← if policy.tunnelIfIndex.isSome && !policy.bypassApps.isEmpty then do
      let id ← (splitStep (.ok tunnelPermit)).add
      pure [id]
    else pure []
  let blocks ← collect (fun row => (blockCidrStep fromCidr row).add) policy.blockCidrs.zipIdx
  pure (apps ++ tunnel ++ blocks)

def installForMode (policy : PolicySnapshot) : SessionProg (List Nat) :=
  match policy.routingMode with
  | .fullTunnel => installFullTunnelExclude fromCidr policy
  | .splitInclude => installSplitInclude policy

def applySplitTunnel (policy : PolicySnapshot) (previousIds : List Nat) :
    SessionProg (List Nat) := do
  removeSplitFilters previousIds
  if policy.tunnelIfIndex.isNone then
    pure []
  else do
    let ids ← installForMode fromCidr policy
    forEach trackFilter ids
    pure ids

/-! ## The filters in the order in which they are added -/

def splitSteps (policy : PolicySnapshot) : List FilterStep :=
  if policy.tunnelIfIndex.isNone then []
  else
    match policy.routingMode with
    | .fullTunnel =>
        policy.bypassApps.zipIdx.flatMap (appSteps "PERMIT_EXCL_" "BLOCK_TUN_EXCL_") ++
        ((if policy.bypassApps.isEmpty then [] else [splitStep (.ok tunnelPermit)]) ++
          policy.blockCidrs.zipIdx.map (blockCidrStep fromCidr))
    | .splitInclude => policy.tunnelApps.zipIdx.flatMap (appSteps "PERMIT_INC_" "BLOCK_PHYS_INC_")

theorem addAll_append (steps rest : List FilterStep) : addAll (steps ++ rest) = (do
    let front ← addAll steps
    let back ← addAll rest
    pure (front ++ back)) := collect_append _ _ _

theorem addAll_flatMap {A : Type} (steps : A → List FilterStep) (items : List A) :
    addAll (items.flatMap steps) = (do
      let ids ← collect (fun item => addAll (steps item)) items
      pure ids.flatten) := by
  induction items with
  | nil => rfl
  | cons item rest ih =>
      rw [List.flatMap_cons, addAll_append, ih]
      simp [collect]

theorem installApps_eq (permitKind blockKind : String) (apps : List AppFilterEntry) :
    installApps permitKind blockKind apps =
      addAll (apps.zipIdx.flatMap (appSteps permitKind blockKind)) := by
  rw [addAll_flatMap]
  rfl

theorem installFullTunnelExclude_eq {policy : PolicySnapshot}
    (htunnel : policy.tunnelIfIndex.isNone = false)
    (hmode : policy.routingMode = .fullTunnel) :
    installFullTunnelExclude fromCidr policy = addAll (splitSteps fromCidr policy) := by
  have hsome : policy.tunnelIfIndex.isSome = true := by
    cases hindex : policy.tunnelIfIndex with
    | none => rw [hindex] at htunnel; cases htunnel
    | some index => rfl
  have hblocks : collect (fun row => (blockCidrStep fromCidr row).add) policy.blockCidrs.zipIdx =
      addAll (policy.blockCidrs.zipIdx.map (blockCidrStep fromCidr)) := by
    rw [addAll, collect_map]
  simp only [splitSteps, htunnel, hmode, Bool.false_eq_true, if_false, addAll_append]
  rw [installFullTunnelExclude, hblocks, hsome, installApps_eq]
  cases policy.bypassApps.isEmpty with
  | true => simp [addAll, collect]
  | false => simp [addAll, collect]

theorem installForMode_eq {policy : PolicySnapshot}
    (htunnel : policy.tunnelIfIndex.isNone = false) :
    installForMode fromCidr policy = addAll (splitSteps fromCidr policy) := by
  rw [installForMode]
  cases hmode : policy.routingMode with
  | fullTunnel => exact installFullTunnelExclude_eq fromCidr htunnel hmode
  | splitInclude =>
      simp only [splitSteps, htunnel, hmode, Bool.false_eq_true, if_false]
      exact installApps_eq _ _ _

theorem exec_trackAll (ids : List Nat) : ∀ session : WfpSessionInner,
    exec (forEach trackFilter ids) session =
      (.ok (), { session with activeFilters := session.activeFilters ++ ids }) := by
  induction ids with
  | nil => intro session; rw [List.append_nil]; rfl
  | cons id ids ih =>
      intro session
      have hstep : exec (trackFilter id) session =
          (.ok (), { session with activeFilters := session.activeFilters ++ [id] }) := rfl
      rw [forEach, exec_bind_ok hstep, ih, List.append_assoc]
      rfl

/-- What `apply_split_tunnel` does to the engine: the previous filters go, then the new ones are
added up to the first failure. -/
theorem exec_applySplitTunnel (policy : PolicySnapshot) (previousIds : List Nat)
    (session : WfpSessionInner) :
    FiltersAdded (addedRules (splitSteps fromCidr policy)
        (session.engine.faults.drop previousIds.length))
      (exec (removeSplitFilters previousIds) session).2.engine
      (exec (applySplitTunnel fromCidr policy previousIds) session).2.engine := by
  obtain ⟨engine, hdelete, _, hfaults⟩ := exec_deleteIgnored previousIds session
  obtain ⟨active, hremove⟩ : ∃ active, exec (removeSplitFilters previousIds) session =
      (.ok (), ⟨engine, active⟩) := ⟨_, by rw [removeSplitFilters, exec_bind_ok hdelete]; rfl⟩
  rw [← hfaults, applySplitTunnel, exec_bind_ok hremove, hremove]
  cases htunnel : policy.tunnelIfIndex.isNone with
  | true =>
      simp only [splitSteps, htunnel, if_true, addedRules, exec_pure]
      exact added_nil (fun _ => rfl) rfl
  | false =>
      obtain ⟨result, after, hexec, hadded, _⟩ :=
        exec_addAll (splitSteps fromCidr policy) ⟨engine, active⟩
      rw [if_neg Bool.false_ne_true, installForMode_eq fromCidr htunnel, exec_bind, hexec]
      cases result with
      | error e => exact hadded
      | ok ids =>
          simp only [exec_bind, exec_trackAll, exec_pure]
          exact hadded

end Install

/-! ## Flows of other applications -/

section OtherApps
variable {fromCidr : String → Except String IpNet} {policy : PolicySnapshot} {flow : OutboundFlow}

/-- The flow belongs to no listed application and goes to no blocked network. -/
structure Unlisted (fromCidr : String → Except String IpNet) (policy : PolicySnapshot)
    (flow : OutboundFlow) : Prop where
  bypass : ∀ app ∈ policy.bypassApps, flow.app ≠ app.path
  tunnel : ∀ app ∈ policy.tunnelApps, flow.app ≠ app.path
  cidrs : ∀ cidr ∈ policy.blockCidrs, ∀ net, ipMaskFromStr fromCidr cidr = .ok net →
    net.contains flow.remoteIp = false

def appRules (permitKind blockKind : String) (apps : List AppFilterEntry) : List FilterRule :=
  apps.zipIdx.flatMap fun row =>
    [(FilterRule.permit (numbered permitKind row.2)).withAppPath row.1.path,
     (FilterRule.block (numbered blockKind row.2)).withAppPath row.1.path]

theorem appSteps_rules (permitKind blockKind : String) (apps : List AppFilterEntry) :
    (apps.zipIdx.flatMap (appSteps permitKind blockKind)).map FilterStep.rule =
      (appRules permitKind blockKind apps).map .ok := by
  rw [appRules, List.map_flatMap, List.map_flatMap]
  rfl

theorem length_appRules (permitKind blockKind : String) (apps : List AppFilterEntry) :
    (appRules permitKind blockKind apps).length = 2 * apps.length := by
  have hflat : ∀ rows : List (AppFilterEntry × Nat), (rows.flatMap fun row =>
      [(FilterRule.permit (numbered permitKind row.2)).withAppPath row.1.path,
       (FilterRule.block (numbered blockKind row.2)).withAppPath row.1.path]).length =
      2 * rows.length := by
    intro rows
    induction rows with
    | nil => rfl
    | cons row rest ih =>
        rw [List.flatMap_cons, List.length_append, ih]
        simp only [List.length_cons, List.length_nil]
        omega
  rw [appRules, hflat, List.length_zipIdx]

/-- No rule of the steps applies to the flow. -/
def Silent (steps : List FilterStep) (flow : OutboundFlow) : Prop :=
  ∀ step ∈ steps, ∀ rule, step.rule = .ok rule → ¬ rule.Applies flow

theorem not_matched_of_silent {steps : List FilterStep} (h : Silent steps flow)
    (faults : List (Option String)) (wanted : Tier) :
    ¬ ∃ rule ∈ addedRules steps faults, rule.tier = wanted ∧ rule.Applies flow := by
  intro hex
  obtain ⟨rule, hmem, _, happlies⟩ := hex
  obtain ⟨step, hstep, hrule⟩ := mem_addedRules hmem
  exact h step hstep rule hrule happlies

theorem silent_appSteps (permitKind blockKind : String) {apps : List AppFilterEntry}
    (hother : ∀ app ∈ apps, flow.app ≠ app.path) :
    Silent (apps.zipIdx.flatMap (appSteps permitKind blockKind)) flow := by
  intro step hstep rule hrule happlies
  obtain ⟨row, hrow, hmem⟩ := List.mem_flatMap.mp hstep
  have happ : row.1 ∈ apps := List.fst_mem_of_mem_zipIdx hrow
  simp only [appSteps, List.mem_cons, List.not_mem_nil, or_false] at hmem
  rcases hmem with rfl | rfl
  · cases hrule
    exact hother row.1 happ ((FilterRule.applies_withAppPath rfl _).mp happlies).2
  · cases hrule
    exact hother row.1 happ ((FilterRule.applies_withAppPath rfl _).mp happlies).2

theorem not_applies_appRules (permitKind blockKind : String) {apps : List AppFilterEntry}
    (hother : ∀ app ∈ apps, flow.app ≠ app.path) :
    ∀ rule ∈ appRules permitKind blockKind apps, ¬ rule.Applies flow := by
  intro rule hmem
  have hstep :=
    List.mem_map_of_mem (f := (Except.ok : FilterRule → Except RouteGuardError FilterRule)) hmem
  rw [← appSteps_rules] at hstep
  obtain ⟨step, hin, hrule⟩ := List.mem_map.mp hstep
  exact silent_appSteps permitKind blockKind hother step hin rule hrule

theorem silent_blockCidrs (hcidrs : ∀ cidr ∈ policy.blockCidrs, ∀ net,
      ipMaskFromStr fromCidr cidr = .ok net → net.contains flow.remoteIp = false) :
    Silent (policy.blockCidrs.zipIdx.map (blockCidrStep fromCidr)) flow := by
  intro step hstep rule hrule happlies
  obtain ⟨row, hrow, rfl⟩ := List.mem_map.mp hstep
  have hmem : row.1 ∈ policy.blockCidrs := List.fst_mem_of_mem_zipIdx hrow
  simp only [blockCidrStep, splitStep] at hrule
  cases hparse : ipMaskFromStr fromCidr row.1 with
  | error e => rw [hparse] at hrule; cases hrule
  | ok net =>
      rw [hparse] at hrule
      cases hrule
      have hin := ((FilterRule.applies_withRemoteIp rfl net).mp happlies).2
      rw [hcidrs row.1 hmem net hparse] at hin
      cases hin

/-- The call adds the permit of the tunnel: full tunnel with an excluded application, and no
addition up to that one fails. -/
def AddsTunnelPermit (policy : PolicySnapshot) (faults : List (Option String)) : Prop :=
  policy.tunnelIfIndex.isSome = true ∧ policy.routingMode = .fullTunnel ∧ policy.bypassApps ≠ [] ∧
    AllClear faults (2 * policy.bypassApps.length + 1)

/-- With an excluded application, the permit of the tunnel is added unless an addition up to it
fails, and it is the only filter that applies to an unlisted flow. -/
theorem matched_exclude_iff (h : Unlisted fromCidr policy flow) (faults : List (Option String))
    (wanted : Tier) :
    (∃ rule ∈ addedRules (policy.bypassApps.zipIdx.flatMap
        (appSteps "PERMIT_EXCL_" "BLOCK_TUN_EXCL_") ++ ([splitStep (.ok tunnelPermit)] ++
          policy.blockCidrs.zipIdx.map (blockCidrStep fromCidr))) faults,
      rule.tier = wanted ∧ rule.Applies flow) ↔
      wanted = .permit ∧ AllClear faults (2 * policy.bypassApps.length + 1) := by
  have happRules := not_applies_appRules "PERMIT_EXCL_" "BLOCK_TUN_EXCL_" h.bypass
  have hcidrs := silent_blockCidrs h.cidrs
  have hrules : (policy.bypassApps.zipIdx.flatMap (appSteps "PERMIT_EXCL_" "BLOCK_TUN_EXCL_") ++
      [splitStep (.ok tunnelPermit)]).map FilterStep.rule =
      (appRules "PERMIT_EXCL_" "BLOCK_TUN_EXCL_" policy.bypassApps ++ [tunnelPermit]).map .ok := by
    rw [List.map_append, List.map_append, appSteps_rules]
    rfl
  have hlen :
      (appRules "PERMIT_EXCL_" "BLOCK_TUN_EXCL_" policy.bypassApps ++ [tunnelPermit]).length =
      2 * policy.bypassApps.length + 1 := by
    rw [List.length_append, length_appRules]
    rfl
  rw [← List.append_assoc]
  rcases clear_or_fails faults (2 * policy.bypassApps.length + 1) with hclear | ⟨k, hk, hfails⟩
  · rw [addedRules_front_of_clear hrules (by rw [hlen]; exact hclear)]
    constructor
    · intro hex
      obtain ⟨rule, hmem, htier, happlies⟩ := hex
      rcases List.mem_append.mp hmem with hfront | hback
      · rcases List.mem_append.mp hfront with happ | htun
        · exact absurd happlies (happRules rule happ)
        · rw [List.mem_singleton] at htun
          rw [htun] at htier
          exact ⟨htier.symm, hclear⟩
      · exact absurd ⟨rule, hback, htier, happlies⟩ (not_matched_of_silent hcidrs _ wanted)
    · intro hpermit
      refine ⟨tunnelPermit, ?_, hpermit.1.symm, FilterRule.applies_permit _ _⟩
      simp
  · rw [addedRules_front_of_fails hrules hfails (by rw [hlen]; exact hk)]
    constructor
    · intro hex
      obtain ⟨rule, hmem, _, happlies⟩ := hex
      rw [List.take_append_of_le_length (by rw [length_appRules]; omega)] at hmem
      exact absurd happlies (happRules rule (List.mem_of_mem_take hmem))
    · intro hpermit
      exact absurd hfails (hpermit.2.not_failsAfter hk)

theorem matched_added_iff (h : Unlisted fromCidr policy flow) (faults : List (Option String))
    (wanted : Tier) :
    Matched FilterRule.tier FilterRule.Applies wanted
        {rule | rule ∈ addedRules (splitSteps fromCidr policy) faults} flow ↔
      wanted = .permit ∧ AddsTunnelPermit policy faults := by
  simp only [Matched, Set.mem_ofPred_eq, AddsTunnelPermit]
  rw [splitSteps]
  cases hindex : policy.tunnelIfIndex with
  | none => simp [addedRules]
  | some index =>
      cases hmode : policy.routingMode with
      | splitInclude =>
          have hnone := not_matched_of_silent
            (silent_appSteps "PERMIT_INC_" "BLOCK_PHYS_INC_" h.tunnel)
            faults wanted
          simpa using hnone
      | fullTunnel =>
          cases happs : policy.bypassApps with
          | nil =>
              have hnone := not_matched_of_silent (silent_blockCidrs h.cidrs) faults wanted
              simpa using hnone
          | cons app rest =>
              have hexclude := matched_exclude_iff h faults wanted
              rw [happs] at hexclude
              simpa using hexclude

/-- Beside any other filters, the call leaves the verdict on an unlisted flow alone where it does
not add the permit of the tunnel or the flow is permitted anyway. -/
theorem applySplitTunnel_unchanged_iff (session : WfpSessionInner) (previousIds : List Nat)
    (h : Unlisted fromCidr policy flow) :
    (Permitted (exec (applySplitTunnel fromCidr policy previousIds) session).2.engine.rules flow ↔
      Permitted (exec (removeSplitFilters previousIds) session).2.engine.rules flow) ↔
      ¬ AddsTunnelPermit policy (session.engine.faults.drop previousIds.length) ∨
        Permitted (exec (removeSplitFilters previousIds) session).2.engine.rules flow := by
  have hadded := exec_applySplitTunnel fromCidr policy previousIds session
  have hmatched := matched_added_iff h (session.engine.faults.drop previousIds.length)
  have hblock : ¬ Matched FilterRule.tier FilterRule.Applies .block
      {rule | rule ∈ addedRules (splitSteps fromCidr policy)
        (session.engine.faults.drop previousIds.length)} flow := by
    rw [hmatched]
    intro hcase
    cases hcase.1
  rw [hadded.rules_eq]
  refine (permits_union_eq_iff hblock).trans ?_
  rw [hmatched, imp_iff_not_or]
  simp only [true_and]
  rfl

end OtherApps

/-! ## Flows of listed applications -/

/-- Where a listed application may leave: beside the tunnel, or through it. -/
def PolicySnapshot.AllowsEgress (policy : PolicySnapshot) (tunnelIf egressIf : Nat) : Prop :=
  match policy.routingMode with
  | .fullTunnel => egressIf ≠ tunnelIf
  | .splitInclude => egressIf = tunnelIf

def splitEngine (fromCidr : String → Except String IpNet) (policy : PolicySnapshot) : WfpEngine :=
  (exec (applySplitTunnel fromCidr policy []) { engine := .empty }).2.engine

def WfpEngine.numbered (engine : WfpEngine) : Set (Nat × FilterRule) :=
  {row | engine.filters.get row.1 = some row.2}

/-- The filters that match a flow, of which the arbitration makes the verdict. -/
def WfpEngine.matching (engine : WfpEngine) (flow : OutboundFlow) : Set (Nat × FilterRule) :=
  applying (fun row => row.2.Applies) engine.numbered flow

/-- The verdict on the flow is that of its interface. -/
def SplitsByInterface (permits : Set (Nat × FilterRule) → Prop) (engine : WfpEngine)
    (policy : PolicySnapshot) (tunnelIf : Nat) (flow : OutboundFlow) : Prop :=
  ∀ egressIf, permits (engine.matching { flow with egressIf := egressIf }) ↔
    policy.AllowsEgress tunnelIf egressIf

theorem matching_interface (engine : WfpEngine) (flow : OutboundFlow) (egressIf egressIf' : Nat) :
    engine.matching { flow with egressIf := egressIf } =
      engine.matching { flow with egressIf := egressIf' } :=
  applying_congr _ fun _ _ => Iff.rfl

/-- A mode that lets an application out beside the tunnel does not let it out through it, and the
other way round. -/
theorem allowsEgress_differs (policy : PolicySnapshot) (tunnelIf : Nat) :
    ¬(policy.AllowsEgress tunnelIf tunnelIf ↔ policy.AllowsEgress tunnelIf (tunnelIf + 1)) := by
  simp only [PolicySnapshot.AllowsEgress]
  cases policy.routingMode with
  | fullTunnel => simp
  | splitInclude => simp

/-- However the matching filters are arbitrated, the interfaces are not told apart. -/
theorem splitFilters_never_split (permits : Set (Nat × FilterRule) → Prop)
    (fromCidr : String → Except String IpNet) (policy : PolicySnapshot) (tunnelIf : Nat)
    (flow : OutboundFlow) :
    ¬SplitsByInterface permits (splitEngine fromCidr policy) policy tunnelIf flow := by
  intro hsplits
  have hsame := matching_interface (splitEngine fromCidr policy) flow tunnelIf (tunnelIf + 1)
  apply allowsEgress_differs policy tunnelIf
  rw [← hsplits tunnelIf, ← hsplits (tunnelIf + 1), hsame]

/-! ## A browser excluded from the tunnel -/

def excludeBrowser : PolicySnapshot where
  tunnelIfIndex := some 42
  bypassApps := [⟨"c:\\browser.exe", 10, .exclude⟩]

def browserFlow : OutboundFlow := ⟨"c:\\browser.exe", ipv4 8 8 8 8, 443, .tcp, 42⟩

def mailFlow : OutboundFlow := ⟨"c:\\mail.exe", ipv4 8 8 8 8, 443, .tcp, 5⟩

theorem mailFlow_unlisted : Unlisted readCidr excludeBrowser mailFlow := by
  constructor
  · decide
  · decide
  · intro cidr hcidr
    cases hcidr

theorem applySplitTunnel_unchanged_iff_mail :
    (Permitted (exec (applySplitTunnel readCidr excludeBrowser []) blockedSession).2.engine.rules
        mailFlow ↔
      Permitted (exec (removeSplitFilters []) blockedSession).2.engine.rules mailFlow) ↔
      ¬ AddsTunnelPermit excludeBrowser [] ∨
        Permitted (exec (removeSplitFilters []) blockedSession).2.engine.rules mailFlow :=
  applySplitTunnel_unchanged_iff blockedSession [] mailFlow_unlisted

/-- Excluding a browser opens a locked machine to every other application. -/
theorem mailFlow_opened :
    ¬ (Permitted (exec (applySplitTunnel readCidr excludeBrowser []) blockedSession).2.engine.rules
        mailFlow ↔
      Permitted (exec (removeSplitFilters []) blockedSession).2.engine.rules mailFlow) := by
  have hadded := exec_applySplitTunnel readCidr excludeBrowser [] blockedSession
  have hadds : AddsTunnelPermit excludeBrowser [] := ⟨rfl, rfl, by decide, allClear_nil _⟩
  have hmatched := (matched_added_iff mailFlow_unlisted [] .permit).mpr ⟨rfl, hadds⟩
  intro hsame
  have hblocked :
      ¬ Permitted (exec (removeSplitFilters []) blockedSession).2.engine.rules mailFlow :=
    not_permitted_blocked mailFlow
  apply hblocked
  rw [← hsame, hadded.rules_eq]
  exact permits_of_matched (matched_union.mpr (Or.inr hmatched))

/-- No arbitration lets the excluded browser out beside the tunnel and keeps it from the tunnel. -/
theorem browserFlow_not_split : ¬∃ permits : Set (Nat × FilterRule) → Prop,
    (permits ((splitEngine readCidr excludeBrowser).matching { browserFlow with egressIf := 5 }) ↔
        excludeBrowser.AllowsEgress 42 5) ∧
      (permits ((splitEngine readCidr excludeBrowser).matching browserFlow) ↔
        excludeBrowser.AllowsEgress 42 browserFlow.egressIf) := by
  rintro ⟨permits, hdirect, htunnel⟩
  have hsame := matching_interface (splitEngine readCidr excludeBrowser) browserFlow 5 42
  have hout : excludeBrowser.AllowsEgress 42 5 := show 5 ≠ 42 by decide
  have hin : ¬excludeBrowser.AllowsEgress 42 42 := fun h => h rfl
  rw [hsame] at hdirect
  exact hin (htunnel.mp (hdirect.mpr hout))

end RouteGuard
