import RouteGuard.Service.ConnectExits
import RouteGuard.Service.RuleSync

/-! # Beside the network lock

The split filters and the DNS redirection share the filter engine with the
network lock.  What they and the routes of a policy leave alone: the filters of
the lock, and the identifiers that the service keeps for its other filters. -/
set_option autoImplicit false
namespace RouteGuard

open HashTable Fallible

/-! ## Lock filters and other filters -/

/-- The same lock filters stand in both engines. -/
structure LockSame (before after : WfpEngine) : Prop where
  nextId : before.nextId ≤ after.nextId
  same : ∀ id rule, rule.isLock = true →
    (after.filters.get id = some rule ↔ before.filters.get id = some rule)

/-- The identifier was drawn, and not for a filter of the lock. -/
def Foreign (engine : WfpEngine) (id : Nat) : Prop := id < engine.nextId ∧ ¬LockAt engine id

namespace LockSame
variable {before middle after : WfpEngine}

theorem refl (engine : WfpEngine) : LockSame engine engine := ⟨Nat.le_refl _, fun _ _ _ => Iff.rfl⟩

theorem trans (h : LockSame before middle) (h' : LockSame middle after) : LockSame before after :=
  ⟨h.nextId.trans h'.nextId, fun id rule hlock =>
    (h'.same id rule hlock).trans (h.same id rule hlock)⟩

theorem lockAt_iff (h : LockSame before after) (id : Nat) : LockAt after id ↔ LockAt before id :=
  exists_congr fun rule => and_congr_left fun hlock => h.same id rule hlock

theorem foreign (h : LockSame before after) {id : Nat} (hid : Foreign before id) :
    Foreign after id :=
  ⟨Nat.lt_of_lt_of_le hid.1 h.nextId, fun hat => hid.2 ((h.lockAt_iff id).mp hat)⟩

theorem lockedBy_iff (h : LockSame before after) (policy : NetworkLockPolicy) :
    LockedBy policy after ↔ LockedBy policy before := by
  have hcarry : ∀ {engine engine' : WfpEngine}, (∀ id rule, rule.isLock = true →
      (engine.filters.get id = some rule ↔ engine'.filters.get id = some rule)) →
        LockedBy policy engine → LockedBy policy engine' := by
    intro engine engine' hsame hlocked
    obtain ⟨ids, hnodup, hids, hmap⟩ := hlocked
    have hat : ∀ id, LockAt engine' id ↔ LockAt engine id := fun id =>
      exists_congr fun rule => and_congr_left fun hlock => (hsame id rule hlock).symm
    refine ⟨ids, hnodup, fun id => (hat id).trans (hids id), ?_⟩
    rw [← hmap]
    apply List.map_congr_left
    intro id hmem
    obtain ⟨rule, hget, hlock⟩ := (hids id).mpr hmem
    rw [hget, (hsame id rule hlock).mp hget]
  exact ⟨hcarry h.same, hcarry fun id rule hlock => (h.same id rule hlock).symm⟩

theorem of_removed {ids : List Nat} (h : FiltersRemoved ids before after)
    (hids : ∀ id ∈ ids, Foreign before id) : LockSame before after := by
  refine ⟨Nat.le_of_eq h.nextId.symm, fun id rule hlock => ?_⟩
  rw [h.get id]
  split
  · rename_i hmem
    refine iff_of_false (by simp) fun hget => ?_
    exact (hids id hmem).2 ⟨rule, hget, hlock⟩
  · exact Iff.rfl

theorem of_added {rules : List FilterRule} (h : FiltersAdded rules before after)
    (hrules : ∀ rule ∈ rules, rule.isLock = false) : LockSame before after := by
  refine ⟨by rw [h.nextId]; omega, fun id rule hlock => ?_⟩
  rw [h.get id]
  split
  · rename_i hle
    rw [before.fresh id hle]
    refine iff_of_false (fun hget => ?_) (by simp)
    have hnot := hrules rule (List.mem_of_getElem? hget)
    rw [hlock] at hnot
    cases hnot
  · exact Iff.rfl

end LockSame

theorem foreign_added {rules : List FilterRule} {before after : WfpEngine}
    (h : FiltersAdded rules before after) (hrules : ∀ rule ∈ rules, rule.isLock = false) {id : Nat}
    (hid : id ∈ List.range' before.nextId rules.length) : Foreign after id := by
  rw [List.mem_range'_1] at hid
  refine ⟨by rw [h.nextId]; exact hid.2, fun hat => ?_⟩
  obtain ⟨rule, hget, hlock⟩ := hat
  rw [h.get id, if_pos hid.1] at hget
  have hnot := hrules rule (List.mem_of_getElem? hget)
  rw [hlock] at hnot
  cases hnot

/-! ## Programs of the filter engine -/

/-- What a program leaves behind that meets no failure and touches no filter of the lock. -/
structure Quiet (before after : WfpSessionInner) : Prop where
  calm : after.engine.faults = []
  same : LockSame before.engine after.engine

section Calm

/-- No operation of the engine is about to fail. -/
def Calm (session : WfpSessionInner) : Prop := session.engine.faults = []

theorem add_calm (step : FilterStep) : Keeps Calm step.add := by
  intro session h
  have hnone : session.engine.nextFault = none := by rw [WfpEngine.nextFault, h]; rfl
  have htail : session.engine.faults.tail = [] := by rw [h]; rfl
  cases hrule : step.rule with
  | error e =>
      simp only [FilterStep.add, hrule, exec_bind, exec_fromResult]
      exact h
  | ok rule =>
      simp only [FilterStep.add, hrule, exec_bind, exec_fromResult, onEngine, exec_zoom,
        exec_mapError, exec_addFilter_ok rule hnone]
      exact htail

theorem collect_calm {A B : Type} {body : A → SessionProg B} (hbody : ∀ a, Keeps Calm (body a))
    (xs : List A) : Keeps Calm (collect body xs) := by
  induction xs with
  | nil => exact keeps_pure _
  | cons a rest ih =>
      exact keeps_bind (hbody a) fun _ => keeps_bind ih fun _ => keeps_pure _

theorem installDns_calm (fromCidr : String → Except String IpNet) (port : UInt16) :
    Keeps Calm (installDnsRedirectFilters fromCidr port) := by
  rw [installDnsRedirectFilters_eq]
  refine collect_calm (fun step => ?_) _
  exact keeps_bind (add_calm step) fun _ => keeps_bind (keeps_modify fun _ h => h) fun _ =>
    keeps_pure _

theorem deleteIgnored_calm (ids : List Nat) : Keeps Calm (deleteIgnored ids) := by
  intro session h
  obtain ⟨after, hexec, _, hfaults⟩ := exec_deleteIgnored ids session
  rw [hexec]
  have hcalm : session.engine.faults = [] := h
  rw [hcalm, List.drop_nil] at hfaults
  exact hfaults

theorem applySplitTunnel_calm (fromCidr : String → Except String IpNet) (policy : PolicySnapshot)
    (previous : List Nat) : Keeps Calm (applySplitTunnel fromCidr policy previous) := by
  have hremove : Keeps Calm (removeSplitFilters previous) :=
    keeps_bind (deleteIgnored_calm previous) fun _ => keeps_modify fun _ h => h
  refine keeps_bind hremove fun _ => ?_
  cases htunnel : policy.tunnelIfIndex.isNone with
  | true => exact keeps_pure _
  | false =>
      rw [if_neg Bool.false_ne_true, installForMode_eq fromCidr htunnel]
      refine keeps_bind (collect_calm add_calm _) fun ids => keeps_bind ?_ fun _ => keeps_pure _
      have htrack : ∀ id, Keeps Calm (trackFilter id) := fun _ => keeps_modify fun _ h => h
      exact keeps_forEach htrack ids

end Calm

section Programs
variable {fromCidr : String → Except String IpNet} {session : WfpSessionInner}

theorem not_isLock_of_isSplit {rule : FilterRule} (h : rule.isSplit = true) :
    rule.isLock = false := by
  rw [Bool.eq_false_iff]
  intro hlock
  rw [not_isSplit_of_isLock hlock] at h
  cases h

theorem not_isLock_dnsRules : ∀ rule ∈ dnsRules, rule.isLock = false := by decide

theorem removeDns_quiet (hcalm : Calm session) {ids : List Nat}
    (hids : ∀ id ∈ ids, Foreign session.engine id) :
    (exec (removeDnsRedirectFilters ids) session).1 = .ok () ∧
      Quiet session (exec (removeDnsRedirectFilters ids) session).2 := by
  obtain ⟨after, hexec, hremoved, hfaults⟩ := exec_deleteIgnored ids session
  have hcalm' : session.engine.faults = [] := hcalm
  rw [hcalm', List.drop_nil] at hfaults
  rw [removeDnsRedirectFilters, exec_bind_ok hexec]
  refine ⟨rfl, hfaults, LockSame.of_removed hremoved fun id hmem => ?_⟩
  exact hids id (mem_of_mem_deletable hmem)

theorem addAll_lockSame {steps : List FilterStep}
    (hsteps : ∀ step ∈ steps, ∀ rule, step.rule = .ok rule → rule.isLock = false) :
    LockSame session.engine (exec (addAll steps) session).2.engine ∧
      ∀ ids, (exec (addAll steps) session).1 = .ok ids →
        ∀ id ∈ ids, Foreign (exec (addAll steps) session).2.engine id := by
  have hrules : ∀ rule ∈ addedRules steps session.engine.faults, rule.isLock = false := by
    intro rule hmem
    obtain ⟨step, hstep, hrule⟩ := mem_addedRules hmem
    exact hsteps step hstep rule hrule
  obtain ⟨result, after, hexec, hadded, hresult⟩ := exec_addAll steps session
  rw [hexec]
  refine ⟨LockSame.of_added hadded hrules, fun ids hok id hmem => ?_⟩
  rcases hresult with ⟨hlen, hids⟩ | ⟨_, e, he⟩
  · cases hids.symm.trans hok
    rw [← hlen] at hmem
    exact foreign_added hadded hrules hmem
  · cases he.symm.trans hok

theorem installDns_quiet (port : UInt16) (hcalm : Calm session) :
    Quiet session (exec (installDnsRedirectFilters fromCidr port) session).2 ∧
      ∀ ids, (exec (installDnsRedirectFilters fromCidr port) session).1 = .ok ids →
        ∀ id ∈ ids,
          Foreign (exec (installDnsRedirectFilters fromCidr port) session).2.engine id := by
  have hsteps : ∀ step ∈ dnsSteps fromCidr, ∀ rule, step.rule = .ok rule →
      rule.isLock = false := by
    intro step hstep rule hrule
    have hmem : Except.ok rule ∈ (dnsSteps fromCidr).map FilterStep.rule :=
      List.mem_map.mpr ⟨step, hstep, hrule⟩
    rw [dnsSteps_rules, List.mem_map] at hmem
    obtain ⟨rule', hmem', heq⟩ := hmem
    cases heq
    exact not_isLock_dnsRules rule hmem'
  obtain ⟨hsame, hids⟩ := @addAll_lockSame session _ hsteps
  obtain ⟨hresult, hengine⟩ := addTracked_same (dnsSteps fromCidr) session.engine
    session.activeFilters session.activeFilters
  have hafter := installDns_calm fromCidr port session hcalm
  rw [installDnsRedirectFilters_eq] at hafter ⊢
  have hforeign : ∀ ids, (exec (addTracked (dnsSteps fromCidr)) session).1 = .ok ids →
      ∀ id ∈ ids, Foreign (exec (addTracked (dnsSteps fromCidr)) session).2.engine id := by
    intro ids hok id hmem
    rw [hengine]
    exact hids ids (hresult.symm.trans hok) id hmem
  refine ⟨⟨hafter, ?_⟩, hforeign⟩
  rw [hengine]
  exact hsame

theorem applySplitTunnel_quiet (policy : PolicySnapshot) (hcalm : Calm session)
    {previous : List Nat} (hprevious : ∀ id ∈ previous, Foreign session.engine id) :
    Quiet session (exec (applySplitTunnel fromCidr policy previous) session).2 ∧
      ∀ ids, (exec (applySplitTunnel fromCidr policy previous) session).1 = .ok ids →
        ∀ id ∈ ids,
          Foreign (exec (applySplitTunnel fromCidr policy previous) session).2.engine id := by
  have hafter := applySplitTunnel_calm fromCidr policy previous session hcalm
  obtain ⟨result, removed, after, active, hexec, hremoved, hadded, hcase⟩ :=
    @applySplitTunnel_spec fromCidr policy previous session
  have hrules : ∀ rule ∈ newRules fromCidr policy previous session.engine, rule.isLock = false :=
    fun rule hmem => not_isLock_of_isSplit (isSplit_addedRules hmem)
  rw [hexec] at hafter ⊢
  refine ⟨⟨hafter, ?_⟩, fun ids hok id hmem => ?_⟩
  · refine (LockSame.of_removed hremoved fun id hmem => ?_).trans (LockSame.of_added hadded hrules)
    exact hprevious id (mem_of_mem_deletable hmem)
  · rcases hcase with ⟨hcompletes, hids, _⟩ | ⟨_, e, he⟩
    · cases hids.symm.trans hok
      have hlen : (newRules fromCidr policy previous session.engine).length =
          (splitSteps fromCidr policy).length := hcompletes
      rw [← hlen, ← hremoved.nextId] at hmem
      exact foreign_added hadded hrules hmem
    · cases he.symm.trans hok

end Programs

/-! ## Routes of a session -/

namespace SessionRoutes

/-- The filters listed in the session routes are among these. -/
def Lists (among : Nat → Prop) (st : RouteState) : Prop := ∀ id ∈ st.session.wfpFilterIds, among id

section Lists
variable {among : Nat → Prop}

theorem onTable_lists {A : Type} (m : Prog RouteTableManager RouteGuardError A) :
    Keeps (Lists among) (onTable m) := by
  have hany : Keeps (fun _ : RouteTableManager => True) m := fun _ h => h
  exact keeps_zoom hany (fun _ _ => trivial) fun _ _ h _ => h

theorem modifySession_lists {f : SessionRoutes → SessionRoutes}
    (hf : ∀ session, (f session).wfpFilterIds = session.wfpFilterIds) :
    Keeps (Lists among) (modifySession f) := by
  refine keeps_modify fun st h id hmem => h id ?_
  rw [← hf]
  exact hmem

theorem removeDomainRoute_lists (ip : IpAddr) : Keeps (Lists among) (removeDomainRoute ip) := by
  refine keeps_bind keeps_get fun st => ?_
  split
  · exact keeps_pure _
  · exact keeps_bind (modifySession_lists fun _ => rfl) fun _ => onTable_lists _

theorem installDomainRoute_lists (ip : IpAddr) (target : RouteTarget)
    (tunnelIf physicalIf expiresAt : Nat) :
    Keeps (Lists among) (installDomainRoute ip target tunnelIf physicalIf expiresAt) := by
  have hadd : Keeps (Lists among) (addDomainRoute ip target tunnelIf physicalIf expiresAt) := by
    unfold addDomainRoute
    split
    · exact keeps_pure _
    · exact keeps_bind (onTable_lists _) fun _ => modifySession_lists fun _ => rfl
  refine keeps_bind keeps_get fun st => ?_
  split
  · exact hadd
  · split
    · exact keeps_pure _
    · exact keeps_bind (removeDomainRoute_lists ip) fun _ => hadd

theorem clearSplit_lists : Keeps (Lists among) clearSplit := by
  refine keeps_bind keeps_get fun st => keeps_bind (modifySession_lists fun _ => rfl) fun _ => ?_
  exact keeps_forEach (fun _ => onTable_lists _) _

theorem addSplit_lists (cidr : IpNet) (ifIndex metric : Nat) :
    Keeps (Lists among) (addSplit cidr ifIndex metric) :=
  keeps_bind (onTable_lists _) fun _ => modifySession_lists fun _ => rfl

theorem installSplitRoutes_lists (env : Externals) (policy : PolicySnapshot) :
    Keeps (Lists among) (installSplitRoutes env policy) := by
  have htext : ∀ (label : String) (ifIndex metric : Nat) (cidr : String),
      Keeps (Lists among) (addSplitText env label ifIndex metric cidr) := by
    intro label ifIndex metric cidr
    unfold addSplitText
    split
    · exact keeps_throw _
    · exact addSplit_lists _ _ _
  refine keeps_bind clearSplit_lists fun _ => ?_
  split
  · refine keeps_bind (addSplit_lists _ _ _) fun _ => keeps_bind (addSplit_lists _ _ _) fun _ => ?_
    refine keeps_bind (addSplit_lists _ _ _) fun _ => keeps_bind (addSplit_lists _ _ _) fun _ => ?_
    exact keeps_bind (keeps_forEach (htext _ _ _) _) fun _ => keeps_forEach (htext _ _ _) _
  · exact keeps_pure _

theorem clear_lists (o : Order) : Keeps (Lists among) (clear o) := by
  have hdomain : Keeps (Lists among) (clearDomainRoutes o) :=
    keeps_bind keeps_get fun st => keeps_forEach (fun ip => removeDomainRoute_lists ip) _
  refine keeps_bind hdomain fun _ => keeps_bind clearSplit_lists fun _ => ?_
  refine keeps_bind keeps_get fun st => keeps_bind (modifySession_lists fun _ => rfl) fun _ => ?_
  refine keeps_bind (keeps_forEach (fun _ => onTable_lists _) _) fun _ => ?_
  refine keeps_modify fun st _ id hmem => ?_
  cases hmem

end Lists

end SessionRoutes

theorem domainApply_lists {among : Nat → Prop} (env : Externals) (at_ : Moment) (view : PolicyView)
    {w : DomainRouting} (h : SessionRoutes.Lists among w.routes) :
    SessionRoutes.Lists among (w.applySplitPolicy env at_ view).2.routes := by
  have hentries : ∀ (tunnelIf physicalIf : Nat) (entries : List ResolvedIpEntry)
      (w : DomainRouting), SessionRoutes.Lists among w.routes → SessionRoutes.Lists among
        (entries.foldl (fun w entry => w.installEntry tunnelIf physicalIf entry) w).routes := by
    intro tunnelIf physicalIf entries
    induction entries with
    | nil => intro w h; exact h
    | cons entry rest ih =>
        intro w h
        exact ih _ (SessionRoutes.installDomainRoute_lists _ _ _ _ _ w.routes h)
  unfold DomainRouting.applySplitPolicy
  split
  · exact h
  · rename_i policy _
    dsimp only
    split
    · have hroutes := SessionRoutes.installSplitRoutes_lists env policy w.routes h
      split
      · rename_i heq
        rw [heq] at hroutes
        exact hroutes
      · rename_i heq
        rw [heq] at hroutes
        unfold DomainRouting.reinstallRoutesFromCache
        dsimp only
        split
        · exact hroutes
        · exact hentries _ _ _ _ hroutes
    · exact h

/-! ## Handlers of a connection -/

/-- A property of the domain routing and of the configuration of the lock alone. -/
def OfPolicy (P : ServiceContext → Prop) : Prop :=
  ∀ ctx ctx' : ServiceContext, ctx'.domain = ctx.domain →
    ctx'.config.networkLock = ctx.config.networkLock → P ctx → P ctx'

section Connections
variable {P : ServiceContext → Prop} (hP : OfPolicy P) (req : ConnectRequest)
include hP

theorem modify_ofPolicy {E : Type} {f : ServiceContext → ServiceContext}
    (hf : ∀ ctx, (f ctx).domain = ctx.domain ∧
      (f ctx).config.networkLock = ctx.config.networkLock) :
    Keeps P (modify f : ServiceProg E PUnit) :=
  keeps_modify fun ctx h => hP ctx (f ctx) (hf ctx).1 (hf ctx).2 h

theorem transportDown_ofPolicy {E : Type} (choice : TransportChoice) (session : TransportSession) :
    Keeps P (modify (transportDown choice session) : ServiceProg E PUnit) := by
  apply modify_ofPolicy hP
  intro ctx
  cases choice <;> exact ⟨rfl, rfl⟩

theorem publishIf_ofPolicy {E : Type} (condition : Bool) (event : TunnelEvent) :
    Keeps P (modify (ServiceContext.publishIf condition event) : ServiceProg E PUnit) := by
  apply modify_ofPolicy hP
  intro ctx
  cases condition <;> exact ⟨rfl, rfl⟩

theorem transportUp_ofPolicy (choice : TransportChoice) (cfg : TunnelTransportConfig)
    (peer : SocketAddr) : Keeps P (transportUp req choice cfg peer) := by
  cases choice with
  | directUdp => exact keeps_pure _
  | lwo =>
      refine keeps_bind (keeps_fromResult _) fun relay => keeps_bind keeps_get fun ctx => ?_
      exact keeps_bind (modify_ofPolicy hP fun _ => ⟨rfl, rfl⟩) fun _ => keeps_pure _
  | phantun =>
      refine keeps_bind (keeps_fromResult _) fun relay => keeps_bind keeps_get fun ctx => ?_
      refine keeps_bind (modify_ofPolicy hP fun _ => ⟨rfl, rfl⟩) fun _ => ?_
      refine keeps_bind (keeps_fromResult _) fun _ => ?_
      exact keeps_bind (modify_ofPolicy hP fun _ => ⟨rfl, rfl⟩) fun _ => keeps_pure _

theorem prepare_ofPolicy (choice : TransportChoice) (merged : TunnelTransportConfig)
    (peer : SocketAddr) (name confText : String) (resolved : ResolvedTransport) :
    Keeps P (prepare req choice merged peer name confText resolved) :=
  keeps_bind (transportUp_ofPolicy hP req choice merged peer) fun _ =>
    keeps_bind (keeps_fromResult _) fun _ => keeps_bind (keeps_fromResult _) fun _ => keeps_pure _

theorem restartTransport_ofPolicy (active : ActiveConnectSession) :
    Keeps P (restartTransport req active) := by
  refine keeps_bind (keeps_fromResult _) fun confText =>
    keeps_bind (keeps_caught ?_) fun result => ?_
  · exact keeps_bind (transportDown_ofPolicy hP _ _) fun _ => prepare_ofPolicy hP req _ _ _ _ _ _
  · cases result with
    | error e => exact keeps_throw _
    | ok prepared =>
        dsimp only
        split
        · exact keeps_throw _
        · exact keeps_pure _

theorem withSessions_ofPolicy (ctx : ServiceContext) (kind : BackendKind)
    (table : Table Nat TunnelSession) (h : P ctx) : P (ctx.withSessions kind table) := by
  cases kind <;> exact hP ctx _ rfl rfl h

theorem backendUp_ofPolicy (choice : BackendChoice) (config : TunnelConfig) :
    Keeps P (backendUp req choice config) := by
  refine keeps_bind (keeps_fromResult _) fun link => keeps_bind keeps_get fun ctx => ?_
  refine keeps_bind (keeps_modify fun ctx h => ?_) fun _ => keeps_pure _
  exact withSessions_ofPolicy hP _ _ _ (hP ctx _ rfl rfl h)

theorem failBackend_ofPolicy (plan : ConnectPlan) (prepared : PreparedConnect)
    (e : RouteGuardError) : Keeps P (failBackend plan prepared e) := by
  refine keeps_bind (modify_ofPolicy hP fun ctx => ?_) fun _ => keeps_throw _
  unfold rollbackTransport
  split
  · exact ⟨rfl, rfl⟩
  · cases plan.choice <;> exact ⟨rfl, rfl⟩

theorem finishConnect_ofPolicy (happly : Keeps P (applyFullPolicy req.policy)) (plan : ConnectPlan)
    (prepared : PreparedConnect) (backend : ResolvedBackend) (handle : TunnelHandle) :
    Keeps P (finishConnect req plan prepared backend handle) := by
  have hcomplete : Keeps P (modify (ServiceContext.completeConnect handle) :
      ServiceProg IpcError PUnit) := by
    apply modify_ofPolicy hP
    intro ctx
    unfold ServiceContext.completeConnect ServiceContext.publishIf
    split <;> exact ⟨rfl, rfl⟩
  have hstore : Keeps P (modify (storeActive plan prepared) : ServiceProg IpcError PUnit) := by
    apply modify_ofPolicy hP
    intro ctx
    unfold storeActive
    split <;> exact ⟨rfl, rfl⟩
  refine keeps_bind hcomplete fun _ => keeps_bind hstore fun _ => ?_
  refine keeps_bind (keeps_caught happly) fun result => ?_
  cases result with
  | error e => exact keeps_throw _
  | ok _ => exact keeps_pure _

theorem bringUp_ofPolicy (happly : Keeps P (applyFullPolicy req.policy)) (plan : ConnectPlan)
    (prepared : PreparedConnect) : Keeps P (bringUp req plan prepared) := by
  refine keeps_bind (modify_ofPolicy hP fun ctx => ?_) fun _ => ?_
  · unfold announceTransport
    split <;> exact ⟨rfl, rfl⟩
  · cases resolveBackend req (connectConfig plan prepared) with
    | error e => exact failBackend_ofPolicy hP plan prepared e
    | ok found =>
        refine keeps_bind (publishIf_ofPolicy hP _ _) fun _ => ?_
        refine keeps_bind (modify_ofPolicy hP fun _ => ⟨rfl, rfl⟩) fun _ => ?_
        refine keeps_bind (keeps_caught (backendUp_ofPolicy hP req _ _)) fun result => ?_
        cases result with
        | error e => exact failBackend_ofPolicy hP plan prepared e
        | ok handle => exact finishConnect_ofPolicy hP req happly plan prepared found.1 handle

theorem handleConnect_ofPolicy (happly : Keeps P (applyFullPolicy req.policy)) :
    Keeps P (handleConnect req) := by
  intro ctx h
  have hselected := exec_fromResult (selectTunnel req ctx.config) ctx
  rw [handleConnect, exec_bind_ok (exec_get ctx)]
  dsimp only
  cases hselect : selectTunnel req ctx.config with
  | error e =>
      rw [exec_bind_error (by rw [hselect] at hselected; exact hselected)]
      exact h
  | ok selected =>
      have hset : exec (modify (ServiceContext.setConfig
          { ctx.config with tunnel := some selected.tunnelCfg }) : ServiceProg IpcError PUnit) ctx =
          (.ok ⟨⟩, ctx.setConfig { ctx.config with tunnel := some selected.tunnelCfg }) := rfl
      rw [exec_bind_ok (exec_fromResult _ ctx), exec_bind_ok hset]
      have hconfig : P (ctx.setConfig { ctx.config with tunnel := some selected.tunnelCfg }) :=
        hP ctx _ rfl rfl h
      revert hconfig
      generalize ctx.setConfig { ctx.config with tunnel := some selected.tunnelCfg } = start
      revert start
      refine keeps_bind (keeps_fromResult _) fun plan => ?_
      refine keeps_bind (modify_ofPolicy hP fun ctx => ?_) fun _ => ?_
      · unfold announce ServiceContext.publishIf
        split <;> exact ⟨rfl, rfl⟩
      · refine keeps_bind (keeps_caught (prepare_ofPolicy hP req _ _ _ _ _ _)) fun result => ?_
        cases result with
        | error e =>
            exact keeps_bind (modify_ofPolicy hP fun _ => ⟨rfl, rfl⟩) fun _ => keeps_throw _
        | ok prepared => exact bringUp_ofPolicy hP req happly plan prepared

theorem handleDisconnect_ofPolicy (req : DisconnectRequest)
    (hclear : ∀ ctx, P ctx → P { ctx with
      domain := ctx.domain.attempt (SessionRoutes.clear req.routeOrder) }) :
    Keeps P (handleDisconnect req) := by
  refine keeps_bind keeps_get fun ctx => ?_
  cases ctx.handle with
  | none => exact keeps_throw _
  | some handle =>
      refine keeps_bind (modify_ofPolicy hP fun _ => ⟨rfl, rfl⟩) fun _ => ?_
      refine keeps_bind (modify_ofPolicy hP fun ctx => ?_) fun _ => ?_
      · unfold takeActive
        split
        · exact ⟨rfl, rfl⟩
        · rename_i active _
          unfold transportDown
          split <;> exact ⟨rfl, rfl⟩
      · refine keeps_bind (keeps_caught ?_) fun result => ?_
        · refine keeps_bind keeps_get fun ctx => ?_
          split
          · exact keeps_throw _
          · refine keeps_bind (keeps_modify fun ctx h => withSessions_ofPolicy hP _ _ _ h)
              fun _ => ?_
            split
            · exact keeps_throw _
            · exact keeps_pure _
        · cases result with
          | error e => exact keeps_throw _
          | ok _ =>
              refine keeps_bind (modify_ofPolicy hP fun _ => ⟨rfl, rfl⟩) fun _ => ?_
              exact keeps_modify fun ctx h => hP { ctx with
                domain := ctx.domain.attempt (SessionRoutes.clear req.routeOrder) } _ rfl rfl
                (hclear ctx h)

end Connections

/-! ## The policy of a request that succeeds -/

def ServiceContext.HasPolicy (ctx : ServiceContext) : Prop := ctx.domain.cachedPolicy ≠ none

theorem applyFullPolicy_cached (answers : PolicyAnswers) :
    EndsIn (applyFullPolicy answers) ServiceContext.HasPolicy := by
  intro ctx a ctx' h
  obtain ⟨policy, hcached, _⟩ := applyFullPolicy_built h
  rw [ServiceContext.HasPolicy, hcached]
  exact Option.some_ne_none policy

theorem handleConnect_cached (req : ConnectRequest) :
    EndsIn (handleConnect req) ServiceContext.HasPolicy := by
  have hfail : ∀ (plan : ConnectPlan) (prepared : PreparedConnect) (e : RouteGuardError),
      EndsIn (failBackend plan prepared e) ServiceContext.HasPolicy :=
    fun _ _ _ => endsIn_bind fun _ => endsIn_throw _
  have hbring : ∀ plan prepared, EndsIn (bringUp req plan prepared) ServiceContext.HasPolicy := by
    intro plan prepared
    refine endsIn_bind fun _ => ?_
    cases resolveBackend req (connectConfig plan prepared) with
    | error e => exact hfail plan prepared e
    | ok found =>
        refine endsIn_bind fun _ => endsIn_bind fun _ => endsIn_bind fun result => ?_
        cases result with
        | error e => exact hfail plan prepared e
        | ok handle =>
            refine endsIn_bind fun _ => endsIn_bind fun _ => ?_
            exact endsIn_caught (applyFullPolicy_cached req.policy) (fun _ => endsIn_throw _)
              fun _ => keeps_pure _
  refine endsIn_bind fun cfg => endsIn_bind fun selected => endsIn_bind fun _ => ?_
  refine endsIn_bind fun plan => endsIn_bind fun _ => endsIn_bind fun result => ?_
  cases result with
  | error e => exact endsIn_bind fun _ => endsIn_throw _
  | ok prepared => exact hbring plan prepared

end RouteGuard
