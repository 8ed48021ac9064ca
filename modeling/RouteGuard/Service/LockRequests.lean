import RouteGuard.Service.LockFrame

/-! # The network lock and the requests

Which requests take the filters of the network lock away, and when the lock is
installed just where the configuration asks for it.  No operation of the filter
engine fails here; everything else a request meets may. -/
set_option autoImplicit false
namespace RouteGuard

open HashTable Fallible GuardedRun

/-! ## Filters accounted for -/

/-- The lock is in step with its filters, and the other identifiers that the service keeps are not
those of lock filters. -/
structure Accounted (others : List Nat) (st : FilterState) : Prop where
  calm : Calm st.lock.session
  tidy : LockTidy st.lock
  inStep : LockInStep st.lock
  split : ∀ id ∈ st.wfpFilterIds, Foreign st.engine id
  others : ∀ id ∈ others, Foreign st.engine id

def ServiceState.Sound (s : ServiceState) : Prop := Accounted s.dnsCallout.filterIds s.filters

section Accounts
variable {others : List Nat} {st : FilterState}

theorem foreign_of_added {rules : List FilterRule} {before after : WfpEngine}
    (h : FiltersAdded rules before after) {id : Nat} (hid : Foreign before id) :
    Foreign after id := by
  refine ⟨Nat.lt_of_lt_of_le hid.1 (by rw [h.nextId]; omega), fun hat => hid.2 ?_⟩
  obtain ⟨rule, hget, hlock⟩ := hat
  rw [h.get id, if_neg (Nat.not_le.mpr hid.1)] at hget
  exact ⟨rule, hget, hlock⟩

theorem foreign_of_removed {ids : List Nat} {before after : WfpEngine}
    (h : FiltersRemoved ids before after) {id : Nat} (hid : Foreign before id) :
    Foreign after id :=
  ⟨by rw [h.nextId]; exact hid.1, fun hat => hid.2 ((lockAt_removed h id).mp hat).1⟩

theorem inStep_of_same {before after : LockContext} (htidy : LockTidy before)
    (h : LockInStep before) (hlock : after.lock = before.lock)
    (hsame : LockSame before.engine after.engine) : LockInStep after := by
  have htidy' : LockTidy after := by
    constructor
    · rw [hlock]
      exact htidy.nodup
    · rw [hlock]
      exact htidy.idle
  apply inStep_of_listed htidy'
  · intro id
    rw [hlock, hsame.lockAt_iff]
    exact h.listed id
  · rw [hlock, h.enabled_iff]
    exact exists_congr fun policy => (hsame.lockedBy_iff policy).symm

/-- A program of the engine that touches no lock filter, and the split filters listed after it. -/
theorem Accounted.beside (h : Accounted others st) {session : WfpSessionInner}
    (hquiet : Quiet st.lock.session session) {ids : List Nat}
    (hids : ∀ id ∈ ids, Foreign session.engine id) :
    Accounted others ⟨{ st.lock with session := session }, ids⟩ where
  calm := hquiet.calm
  tidy := ⟨h.tidy.nodup, h.tidy.idle⟩
  inStep := inStep_of_same h.tidy h.inStep rfl hquiet.same
  split := hids
  others id hmem := hquiet.same.foreign (h.others id hmem)

theorem facing_of_calm {ctx : LockContext} (h : Calm ctx.session) :
    ctx.facing [] ctx.saveFault = ctx := by
  obtain ⟨⟨⟨filters, nextId, faults, absent, fresh⟩, active⟩, lock, file, saveFault⟩ := ctx
  have hfaults : faults = [] := h
  subst hfaults
  rfl

theorem saveState_calm : Keeps (fun ctx : LockContext => Calm ctx.session) saveState := by
  refine keeps_bind keeps_get fun ctx => ?_
  split
  · exact keeps_throw _
  · exact keeps_modify fun _ h => h

theorem enable_calm (fromCidr : String → Except String IpNet) (policy : NetworkLockPolicy) :
    Keeps (fun ctx : LockContext => Calm ctx.session) (NetworkLock.enable fromCidr policy) := by
  refine keeps_bind keeps_get fun ctx => ?_
  split
  · exact keeps_pure _
  · refine keeps_bind ?_ fun _ => keeps_bind (keeps_modify fun _ h => h) fun _ => saveState_calm
    have hinstall : Keeps Calm (installNetworkLock fromCidr policy) := by
      rw [installNetworkLock_eq]
      exact collect_calm add_calm _
    exact keeps_zoom hinstall (fun _ h => h) fun _ _ _ h => h

theorem disable_calm : Keeps (fun ctx : LockContext => Calm ctx.session) NetworkLock.disable := by
  refine keeps_bind keeps_get fun ctx => ?_
  split
  · exact keeps_pure _
  · refine keeps_bind ?_ fun _ => keeps_bind (keeps_modify fun _ h => h) fun _ => saveState_calm
    have hdelete : ∀ wrap id, Keeps Calm (onEngine wrap (FilterBuilder.deleteFilter id)) := by
      intro wrap id
      have hcalm : Keeps (fun engine : WfpEngine => engine.faults = [])
          (FilterBuilder.deleteFilter id) := by
        intro engine h
        have hnone : engine.nextFault = none := by rw [WfpEngine.nextFault, h]; rfl
        have htail : engine.answered.faults = [] := by rw [WfpEngine.answered, h]; rfl
        cases hget : engine.filters.get id with
        | none =>
            simp only [FilterBuilder.deleteFilter, exec_bind, exec_get, hnone, hget]
            exact htail
        | some rule =>
            rw [exec_deleteFilter_ok hnone hget]
            exact htail
      exact keeps_zoom (keeps_mapError _ hcalm) (fun _ h => h) fun _ _ _ h => h
    have hremove : Keeps Calm (removeFilters ctx.lock.activeFilterIds) :=
      keeps_bind (keeps_forEach (fun id => hdelete _ id) _) fun _ => keeps_modify fun _ h => h
    exact keeps_zoom hremove (fun _ h => h) fun _ _ _ h => h

theorem enable_accounted {fromCidr : String → Except String IpNet}
    (hreads : ReadsLockCidrs fromCidr) (h : Accounted others st) (policy : NetworkLockPolicy) :
    ∃ result after, exec (FilterState.onLock (NetworkLock.enable fromCidr policy)) st =
        (result, after) ∧
      Accounted others after ∧ (st.lock.lock.enabled = true → after = st) ∧
      after.lock.lock.enabled = true := by
  cases hon : st.lock.lock.enabled with
  | true =>
      refine ⟨.ok (), st, ?_, h, fun _ => rfl, hon⟩
      rw [FilterState.onLock, exec_zoom, exec_enable_on fromCidr policy hon]
  | false =>
      have hcalm := enable_calm fromCidr policy st.lock h.calm
      have htidy := enable_tidy hreads st.lock h.tidy policy
      have hclear : AllClear [] (lockRules policy).length := allClear_nil _
      have hinStep := (enable_inStep_iff hreads h.tidy h.inStep policy [] st.lock.saveFault).mpr
        (Or.inr (Or.inl hclear))
      rw [facing_of_calm h.calm] at hinStep
      obtain ⟨result, after, hexec, hcase⟩ := exec_enable hreads policy hon
      have hfaults : st.lock.engine.faults = [] := h.calm
      rw [hfaults] at hcase
      rw [hexec] at hcalm htidy hinStep
      rcases hcase with ⟨_, hlock, hadded, _⟩ | ⟨k, hk, hfails, _⟩
      · refine ⟨result, { st with lock := after }, ?_, ⟨hcalm, htidy, hinStep, ?_, ?_⟩, ?_, ?_⟩
        · rw [FilterState.onLock, exec_zoom, hexec]
        · exact fun id hmem => foreign_of_added hadded (h.split id hmem)
        · exact fun id hmem => foreign_of_added hadded (h.others id hmem)
        · intro hcontra
          cases hcontra
        · exact congrArg NetworkLockState.enabled hlock
      · exact absurd hfails (hclear.not_failsAfter hk)

/-- Disabling the lock where no operation of the engine fails: its filters go even where the state
cannot be saved. -/
theorem disable_accounted (h : Accounted others st) :
    ∃ result after, exec (FilterState.onLock NetworkLock.disable) st = (result, after) ∧
      Accounted others after ∧ after.lock.lock.enabled = false ∧
      after.wfpFilterIds = st.wfpFilterIds ∧
      (result = .ok () ↔ st.lock.lock.enabled = true → st.lock.saveFault = none) := by
  cases hon : st.lock.lock.enabled with
  | false =>
      refine ⟨.ok (), st, ?_, h, hon, rfl, iff_of_true rfl fun hcontra => ?_⟩
      · rw [FilterState.onLock, exec_zoom, exec_disable_idle st.lock hon (h.tidy.idle hon)]
      · cases hcontra
  | true =>
      have hcalm := disable_calm st.lock h.calm
      have htidy := disable_tidy st.lock h.tidy
      have hclear : AllClear [] st.lock.lock.activeFilterIds.length := allClear_nil _
      have hinStep := (disable_inStep_iff h.tidy h.inStep [] st.lock.saveFault).mpr (Or.inl hclear)
      rw [facing_of_calm h.calm] at hinStep
      obtain ⟨result, after, hexec, hcase⟩ :=
        exec_disable st.lock hon h.tidy.nodup h.inStep.present
      have hfaults : st.lock.engine.faults = [] := h.calm
      rw [hfaults] at hcase
      rw [hexec] at hcalm htidy hinStep
      rcases hcase with ⟨_, hlock, hremoved, hok⟩ | ⟨k, hk, hfails, _⟩
      · refine ⟨result, { st with lock := after }, ?_, ⟨hcalm, htidy, hinStep, ?_, ?_⟩, ?_, rfl, ?_⟩
        · rw [FilterState.onLock, exec_zoom, hexec]
        · exact fun id hmem => foreign_of_removed hremoved (h.split id hmem)
        · exact fun id hmem => foreign_of_removed hremoved (h.others id hmem)
        · exact congrArg NetworkLockState.enabled hlock
        · rw [hok]
          exact ⟨fun hnone _ => hnone, fun hsave => hsave rfl⟩
      · exact absurd hfails (hclear.not_failsAfter hk)

end Accounts

/-! ## Applying the policy -/

/-- Nothing but filters beside the lock has changed. -/
structure Beside (s s' : ServiceState) : Prop where
  sound : s'.Sound
  ctx : s'.ctx = s.ctx
  lock : s'.lock.lock = s.lock.lock
  same : LockSame s.lock.engine s'.lock.engine

section Apply
variable {fromCidr : String → Except String IpNet} {s : ServiceState}

theorem Beside.refl (h : s.Sound) : Beside s s := ⟨h, rfl, rfl, LockSame.refl _⟩

theorem Beside.onWfp {s' : ServiceState} (h : Beside s s') {A : Type} {m : SessionProg A}
    (hquiet : Quiet s'.lock.session (exec m s'.lock.session).2) :
    Beside s (exec (RouteGuard.onWfp m) s').2 where
  sound := Accounted.beside h.sound hquiet fun id hmem =>
    hquiet.same.foreign (h.sound.split id hmem)
  ctx := h.ctx
  lock := h.lock
  same := h.same.trans hquiet.same

theorem Beside.withDns {s' : ServiceState} (h : Beside s s') {manager : DnsCalloutManager}
    (hids : ∀ id ∈ manager.filterIds, Foreign s'.lock.engine id) :
    Beside s { s' with dnsCallout := manager } where
  sound := ⟨h.sound.calm, h.sound.tidy, h.sound.inStep, h.sound.split, hids⟩
  ctx := h.ctx
  lock := h.lock
  same := h.same

theorem Beside.removeDns {s' : ServiceState} (h : Beside s s') :
    ∃ after, exec (RouteGuard.onWfp (removeDnsRedirectFilters s'.dnsCallout.filterIds)) s' =
        (.ok (), after) ∧ Beside s after := by
  obtain ⟨hok, hquiet⟩ := removeDns_quiet h.sound.calm h.sound.others
  exact ⟨_, Prod.ext hok rfl, h.onWfp hquiet⟩

theorem Beside.installDns {s' : ServiceState} (h : Beside s s') (port : UInt16) :
    ∃ result after, exec (RouteGuard.onWfp (installDnsRedirectFilters fromCidr port)) s' =
        (result, after) ∧ Beside s after ∧
      ∀ ids, result = .ok ids → ∀ id ∈ ids, Foreign after.lock.engine id := by
  obtain ⟨hquiet, hids⟩ := @installDns_quiet fromCidr _ port h.sound.calm
  exact ⟨_, _, rfl, h.onWfp hquiet, hids⟩

theorem removeDnsCallout_beside : Keeps (Beside s) removeDnsCallout := by
  intro s' h
  obtain ⟨after, hexec, hafter⟩ := h.removeDns
  rw [removeDnsCallout, exec_bind_ok (exec_get s'), exec_bind_ok hexec, exec_modify]
  exact hafter.withDns fun id hmem => absurd hmem List.not_mem_nil

theorem installDnsCallout_beside (answers : ApplyAnswers) (port : UInt16) (requireKernel : Bool) :
    Keeps (Beside s) (installDnsCallout fromCidr answers port requireKernel) := by
  have hstart : Keeps (Beside s) (startKernelRedirect answers requireKernel) := by
    refine keeps_bind (keeps_modify fun s' h => h.withDns h.sound.others) fun _ => ?_
    split
    · exact keeps_throw _
    · split
      · split
        · split
          · exact keeps_throw _
          · exact keeps_pure _
        · exact keeps_modify fun s' h => h.withDns h.sound.others
      · exact keeps_pure _
  refine keeps_bind hstart fun _ => ?_
  intro s' h
  obtain ⟨removed, hremove, hremoved⟩ := h.removeDns
  obtain ⟨result, after, hinstall, hafter, hids⟩ := @Beside.installDns fromCidr _ _ hremoved port
  rw [exec_bind_ok (exec_get s'), exec_bind_ok hremove]
  cases result with
  | error e =>
      rw [exec_bind_error hinstall]
      exact hafter
  | ok ids =>
      rw [exec_bind_ok hinstall, exec_modify]
      exact hafter.withDns (hids ids rfl)

theorem applyDomainDnsWfp_beside (answers : ApplyAnswers) :
    Keeps (Beside s) (applyDomainDnsWfp fromCidr answers) := by
  refine keeps_bind keeps_get fun _ => ?_
  dsimp only
  split
  · refine keeps_bind (keeps_caught (installDnsCallout_beside answers _ _)) fun result => ?_
    split
    · split
      · exact keeps_throw _
      · exact keeps_pure _
    · exact keeps_pure _
  · exact keeps_bind (keeps_caught removeDnsCallout_beside) fun _ => keeps_pure _

/-- A lock that is on stays as it is, and it comes on only where it is wanted. -/
structure LockKept (wanted : Bool) (st after : FilterState) : Prop where
  held : st.lock.lock.enabled = true →
    after.lock.lock = st.lock.lock ∧ LockSame st.engine after.engine
  wanted : after.lock.lock.enabled = true → st.lock.lock.enabled = true ∨ wanted = true

theorem LockKept.of_same {wanted : Bool} {st after : FilterState}
    (hlock : after.lock.lock = st.lock.lock) (hsame : LockSame st.engine after.engine) :
    LockKept wanted st after :=
  ⟨fun _ => ⟨hlock, hsame⟩, fun hon => Or.inl (hlock ▸ hon)⟩

theorem LockKept.trans {wanted : Bool} {st middle after : FilterState}
    (h : LockKept wanted st middle) (h' : LockKept wanted middle after) :
    LockKept wanted st after := by
  constructor
  · intro hon
    obtain ⟨hlock, hsame⟩ := h.held hon
    obtain ⟨hlock', hsame'⟩ := h'.held (by rw [hlock]; exact hon)
    exact ⟨hlock'.trans hlock, hsame.trans hsame'⟩
  · intro hon
    exact (h'.wanted hon).elim h.wanted Or.inr

theorem applySplitWfp_accounted (hreads : ReadsLockCidrs fromCidr) {others : List Nat}
    {st : FilterState} (h : Accounted others st) (call : SplitWfpCall) :
    ∃ result after, exec (applySplitWfp fromCidr call) st = (result, after) ∧
      Accounted others after ∧ LockKept call.lockEnabled st after ∧
      (result = .ok () → call.lockEnabled = true → after.lock.lock.enabled = true) := by
  obtain ⟨hquiet, hids⟩ := @applySplitTunnel_quiet fromCidr _ call.policy h.calm _ h.split
  have hsplit : exec (FilterState.onLock (onSession
      (applySplitTunnel fromCidr call.policy st.wfpFilterIds))) st =
      ((exec (applySplitTunnel fromCidr call.policy st.wfpFilterIds) st.lock.session).1,
        { st with lock := { st.lock with session :=
          (exec (applySplitTunnel fromCidr call.policy st.wfpFilterIds) st.lock.session).2 } }) :=
    rfl
  revert hquiet hids hsplit
  generalize exec (applySplitTunnel fromCidr call.policy st.wfpFilterIds) st.lock.session = split
  obtain ⟨result, session⟩ := split
  intro hquiet hids hsplit
  rw [applySplitWfp, exec_bind_ok (exec_get st)]
  cases result with
  | error e =>
      rw [exec_bind_error hsplit]
      refine ⟨.error e, _, rfl, ?_, .of_same rfl hquiet.same, fun hcontra => ?_⟩
      · exact h.beside hquiet fun id hmem => hquiet.same.foreign (h.split id hmem)
      · cases hcontra
  | ok ids =>
      have hlisted := h.beside hquiet (hids ids rfl)
      have hlist : exec (modify fun st : FilterState => { st with wfpFilterIds := ids } :
          FilterProg PUnit) { st with lock := { st.lock with session := session } } =
          (.ok ⟨⟩, ⟨{ st.lock with session := session }, ids⟩) := rfl
      rw [exec_bind_ok hsplit, exec_bind_ok hlist]
      cases hwanted : call.lockEnabled with
      | false =>
          obtain ⟨saved, hsaves, _⟩ := exec_saves call.saveAppRules call.saveSnapshot
            ⟨{ st.lock with session := session }, ids⟩
          refine ⟨saved, _, hsaves, hlisted, .of_same rfl hquiet.same, fun _ hcontra => ?_⟩
          cases hcontra
      | true =>
          obtain ⟨enabled, after, henable, hafter, hheld, hon⟩ :=
            enable_accounted hreads hlisted call.policy.networkLockPolicy
          have hkept : LockKept true st after := by
            refine ⟨fun hst => ?_, fun _ => Or.inr rfl⟩
            rw [hheld hst]
            exact ⟨rfl, hquiet.same⟩
          rw [if_pos rfl]
          cases enabled with
          | error e =>
              exact ⟨.error e, after, exec_bind_error henable _, hafter, hkept, fun _ _ => hon⟩
          | ok _ =>
              obtain ⟨saved, hsaves, _⟩ := exec_saves call.saveAppRules call.saveSnapshot after
              exact ⟨saved, after, (exec_bind_ok henable _).trans hsaves, hafter, hkept,
                fun _ _ => hon⟩

structure FiltersApplied (s : ServiceState) (result : Except RouteGuardError Unit)
    (after : ServiceState) : Prop where
  sound : after.Sound
  kept : LockKept s.ctx.config.networkLock.enabled s.filters after.filters
  enabled : result = .ok () → s.ctx.HasPolicy → s.ctx.config.networkLock.enabled = true →
    after.lock.lock.enabled = true

theorem applyFilters_applied (hreads : ReadsLockCidrs fromCidr) (answers : ApplyAnswers)
    (h : s.Sound) : FiltersApplied s (exec (applyFilters fromCidr answers) s).1
      (exec (applyFilters fromCidr answers) s).2 := by
  have hdns : Beside s (exec (applyDomainDnsWfp fromCidr answers) s).2 :=
    applyDomainDnsWfp_beside answers s (Beside.refl h)
  rw [applyFilters, exec_bind]
  cases hexec : exec (applyDomainDnsWfp fromCidr answers) s with
  | mk result middle =>
      rw [hexec] at hdns
      have hbeside : LockKept s.ctx.config.networkLock.enabled s.filters middle.filters :=
        .of_same hdns.lock hdns.same
      cases result with
      | error e => exact ⟨hdns.sound, hbeside, fun hcontra => by cases hcontra⟩
      | ok _ =>
          dsimp only
          rw [exec_bind_ok (exec_get middle), hdns.ctx]
          cases hpolicy : s.ctx.domain.cachedPolicy with
          | none => exact ⟨hdns.sound, hbeside, fun _ hcached => absurd hpolicy hcached⟩
          | some policy =>
              obtain ⟨result, after, hsplit, hafter, hkept, henabled⟩ :=
                applySplitWfp_accounted hreads hdns.sound ⟨policy,
                  s.ctx.config.networkLock.enabled, answers.saveAppRules, answers.saveSnapshot⟩
              dsimp only
              rw [onFilters, exec_zoom, hsplit]
              exact ⟨hafter, hbeside.trans hkept, fun hok _ hwanted => henabled hok hwanted⟩

end Apply

/-! ## Requests that leave the configuration of the lock alone -/

/-- The lock's configuration is the same, and no other split filters are listed. -/
structure LockView (before after : ServiceContext) : Prop where
  lists : SessionRoutes.Lists (fun id => id ∈ before.domain.routes.session.wfpFilterIds)
    after.domain.routes
  lock : after.config.networkLock = before.config.networkLock

theorem LockView.of_same {before after : ServiceContext}
    (hroutes : after.domain.routes = before.domain.routes)
    (hlock : after.config.networkLock = before.config.networkLock) : LockView before after :=
  ⟨fun id hmem => by rw [hroutes] at hmem; exact hmem, hlock⟩

theorem LockView.trans {before middle after : ServiceContext} (h : LockView before middle)
    (h' : LockView middle after) : LockView before after :=
  ⟨fun id hmem => h.lists id (h'.lists id hmem), h'.lock.trans h.lock⟩

theorem withBuilt_view (built : Except String RoutingEngine) (ctx : ServiceContext) :
    LockView ctx (ctx.withBuilt built) := by
  cases built <;> exact .of_same rfl rfl

theorem lockView_ofPolicy (ctx : ServiceContext) : OfPolicy (LockView ctx) := by
  intro before after hdomain hlock h
  exact h.trans (.of_same (congrArg DomainRouting.routes hdomain) hlock)

theorem applyFullPolicy_view (ctx : ServiceContext) (answers : PolicyAnswers) :
    Keeps (LockView ctx) (applyFullPolicy answers) := by
  intro ctx' h
  rw [applyFullPolicy_domain]
  exact ⟨domainApply_lists _ _ _ h.lists, h.lock⟩

/-- A property that every request keeps, but for a change of the lock's configuration. -/
structure LockStable (fromCidr : String → Except String IpNet) (P : ServiceState → Prop) :
    Prop where
  rest : ∀ s ctx, LockView s.ctx ctx → P s → P { s with ctx := ctx }
  filters : ∀ answers, Keeps P (applyFilters fromCidr answers)

section Stable
variable {env : Externals} {fromCidr : String → Except String IpNet} {P : ServiceState → Prop}
  (hP : LockStable fromCidr P)
include hP

theorem onCtx_stable {E A : Type} {m : ServiceProg E A} (hm : ∀ ctx, Keeps (LockView ctx) m) :
    Keeps P (onCtx m) := by
  intro s h
  exact hP.rest s _ (hm s.ctx s.ctx (.of_same rfl rfl)) h

theorem modify_stable {E : Type} {f : ServiceContext → ServiceContext}
    (hf : ∀ ctx, LockView ctx (f ctx)) : Keeps P (onCtx (modify f) : StateProg E PUnit) :=
  onCtx_stable hP fun _ => keeps_modify fun ctx' h => h.trans (hf ctx')

theorem applySplitPolicy_stable (answers : ApplyAnswers) :
    Keeps P (applySplitPolicy env fromCidr answers) :=
  keeps_bind (onCtx_stable hP fun ctx => applyFullPolicy_view ctx _) fun _ => hP.filters answers

theorem handleConnect_stable (req : ConnectRequest) (answers : ApplyAnswers) :
    Keeps P (ServiceState.handleConnect env fromCidr req answers) := by
  have hconnect : ∀ ctx, Keeps (LockView ctx)
      (RouteGuard.handleConnect { req with policy := answers.routes env }) := fun ctx =>
    handleConnect_ofPolicy (lockView_ofPolicy ctx) _ (applyFullPolicy_view ctx _)
  refine keeps_bind (onCtx_stable hP hconnect) fun _ => ?_
  exact keeps_bind (keeps_mapError _ (hP.filters answers)) fun _ => keeps_pure _

theorem recover_stable (req : ConnectRequest) (answers : ApplyAnswers) (attempt : Nat)
    (active : ActiveConnectSession) :
    Keeps P (ServiceState.recover env fromCidr req answers attempt active) := by
  refine keeps_bind keeps_get fun s => ?_
  split
  · exact keeps_pure _
  · have hrestart : ∀ ctx, Keeps (LockView ctx) (restartTransport req active) := fun ctx =>
      restartTransport_ofPolicy (lockView_ofPolicy ctx) req active
    refine keeps_bind (keeps_caught (onCtx_stable hP hrestart)) fun result => ?_
    have hpublish : ∀ event, Keeps P (onCtx (modify (ServiceContext.publish event)) :
        StateProg String PUnit) := fun event => modify_stable hP fun _ => .of_same rfl rfl
    cases result with
    | error reason => exact keeps_bind (hpublish _) fun _ => hpublish _
    | ok newActive =>
        refine keeps_bind (hpublish _) fun _ => keeps_bind (hpublish _) fun _ => ?_
        refine keeps_bind (modify_stable hP fun _ => .of_same rfl rfl) fun _ => ?_
        exact keeps_bind (keeps_caught (applySplitPolicy_stable hP answers)) fun _ => keeps_pure _

theorem setTunnelContext_stable (params : Except String TunnelContextParams)
    (answers : ApplyAnswers) :
    Keeps P (ServiceState.handleRoutingSetTunnelContext env fromCidr params answers) := by
  unfold ServiceState.handleRoutingSetTunnelContext
  split
  · exact keeps_throw _
  · refine keeps_bind (modify_stable hP fun _ => .of_same rfl rfl) fun _ => ?_
    exact keeps_bind (keeps_mapError _ (applySplitPolicy_stable hP answers)) fun _ => keeps_pure _

omit hP in
theorem rebuild_view (change : RuleChange) (ctx : ServiceContext) :
    LockView ctx (change.rebuild ctx) := by
  have hconfig := (change.rebuild_rest ctx).1
  refine .of_same ?_ (congrArg AppConfig.networkLock hconfig)
  unfold RuleChange.rebuild
  cases change.rebuildAt with
  | none => rfl
  | some at_ => exact (DomainRouting.rebuildRules_effect at_ _).1

omit hP in
/-- The rules are all that these requests change of the configuration. -/
theorem change_lock {request : ChangeRequest} {cfg : AppConfig} {change : RuleChange}
    (h : request.change env cfg = .ok change) : change.cfg.networkLock = cfg.networkLock := by
  have hrules : ∀ {row : AppRule × AppConfig}, (∃ rules, row.2 = cfg.withAppRules rules) →
      row.2.networkLock = cfg.networkLock := by
    intro row hrow
    obtain ⟨rules, hrow⟩ := hrow
    rw [hrow]
    rfl
  cases request with
  | addApp paths params =>
      obtain ⟨row, hadd, rfl⟩ := ok_of_map h
      exact hrules (addAppChange_ok hadd)
  | removeApp params =>
      obtain ⟨row, hremove, rfl⟩ := ok_of_map h
      exact hrules (removeAppChange_ok hremove)
  | importRules params rebuildAt =>
      cases params with
      | error e => cases h
      | ok p =>
          cases h
          rfl

theorem change_stable {s : ServiceState} (h : P s) (request : ChangeRequest)
    (answers : ChangeAnswers) : P (exec (request.program env fromCidr answers) s).2 := by
  rw [exec_change]
  cases hasked : request.change env s.ctx.config with
  | error e => exact h
  | ok change =>
      have hlock := change_lock hasked
      have htaken : P (change.taken s) := hP.rest s _ (.of_same rfl rfl) h
      have hexit := changeRules_exit env fromCidr change.cfg answers change.rebuild (change.taken s)
      revert hexit
      dsimp only
      generalize (exec (ServiceState.changeRules env fromCidr change.cfg answers change.rebuild)
        (change.taken s)).1 = response
      generalize (exec (ServiceState.changeRules env fromCidr change.cfg answers change.rebuild)
        (change.taken s)).2 = after
      intro hexit
      have hchanged : ∀ engine, P ((change.taken s).changed change.cfg engine change.rebuild) := by
        intro engine
        have hset : LockView (change.taken s).ctx
            (((change.taken s).ctx.setConfig change.cfg).withEngine engine) := .of_same rfl hlock
        exact hP.rest (change.taken s) _ (hset.trans (rebuild_view change _)) htaken
      have happly : Keeps P (applySplitPolicy env fromCidr answers.apply) :=
        applySplitPolicy_stable hP answers.apply
      cases hexit with
      | notSaved hsaved => exact hP.rest (change.taken s) _ (.of_same rfl hlock) htaken
      | unbuildable hsaved hbuilt => exact htaken
      | @applied engine _ hsaved hbuilt hexec =>
          have happlied := happly _ (hchanged engine)
          rw [hexec] at happlied
          exact happlied
      | @rolledBack engine _ failed hsaved hbuilt hexec =>
          have happlied := happly _ (hchanged engine)
          rw [hexec] at happlied
          have hconfig : failed.ctx.config = change.cfg :=
            (sameRules_of_exec env fromCidr hexec).config.trans (change.rebuild_rest _).1
          have hback : LockView failed.ctx (failed.ctx.setConfig (change.taken s).ctx.config) :=
            .of_same rfl (by rw [hconfig, hlock]; rfl)
          exact hP.rest failed _ (hback.trans (withBuilt_view _ _)) happlied

/-! ### Changes of the lock's configuration -/

theorem restored_stable {s : ServiceState} {cfg : AppConfig}
    (h : P { s with ctx := s.ctx.setConfig cfg }) : P (s.restored env cfg) := by
  have hview : LockView (s.ctx.setConfig cfg) (s.restored env cfg).ctx := withBuilt_view _ _
  exact hP.rest { s with ctx := s.ctx.setConfig cfg } _ hview h

theorem configSet_stable {s : ServiceState} (h : P s)
    (toml : Option (Except RouteGuardError AppConfig)) (answers : ChangeAnswers)
    (hset : ∀ cfg, toml = some (.ok cfg) → P { s with ctx := s.ctx.setConfig cfg }) :
    P (exec (ServiceState.handleConfigSet env fromCidr toml answers) s).2 := by
  match toml with
  | none => exact h
  | some (.error e) => exact h
  | some (.ok cfg) =>
      have hchanged := hset cfg rfl
      rw [exec_configSet]
      cases answers.saved with
      | error e => exact hchanged
      | ok _ =>
          refine keeps_mapError _ (applySplitPolicy_stable hP answers.apply) _ ?_
          exact restored_stable hP hchanged

theorem reload_stable {s : ServiceState} (h : P s) (load : Except RouteGuardError AppConfig)
    (answers : ApplyAnswers)
    (hset : ∀ cfg, load = .ok cfg → P { s with ctx := s.ctx.setConfig cfg }) :
    P (exec (ServiceState.handleRoutingReload env fromCidr load answers) s).2 := by
  cases load with
  | error e => exact h
  | ok cfg =>
      have hchanged := hset cfg rfl
      rw [ServiceState.handleRoutingReload, orReply, exec_mapError, exec_reload]
      cases hbuilt : RoutingEngine.fromConfig env cfg with
      | error e => exact hchanged
      | ok engine =>
          exact applySplitPolicy_stable hP answers _ (restored_stable hP hchanged)

theorem nlEnable_stable {s : ServiceState} (answers : ApplyAnswers)
    (hset : P (exec (ServiceState.switchLock true) s).2) :
    P (exec (ServiceState.handleNlEnable env fromCidr answers) s).2 := by
  have hexec : exec (ServiceState.switchLock true) s =
      (.ok ⟨⟩, (exec (ServiceState.switchLock true) s).2) := rfl
  rw [ServiceState.handleNlEnable, exec_bind_ok hexec]
  exact keeps_mapError _ (applySplitPolicy_stable hP answers) _ hset

end Stable

end RouteGuard
