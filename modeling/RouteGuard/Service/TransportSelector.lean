import RouteGuard.Core.TransportMerge
import RouteGuard.Lwo.Backend
import RouteGuard.Service.Sessions

/-! # The choice of the transport

`TransportSelector::resolve`: the preference of the merged configuration decides
where it names a transport, else the sections that are there.  A required
transport is only asked for on the way of that transport. -/
set_option autoImplicit false
namespace RouteGuard

/-! ## The selector -/

/-- What the selector finds outside: the base64 engine and the curve of the keys, and whether the
Phantun binary is there. -/
structure TransportProbes where
  standard : String → Except String (List UInt8)
  derivePublicKey : WireguardKey → WireguardKey
  phantunBinary : Bool

def Lwo.TransportValidationIssue.debug (issue : Lwo.TransportValidationIssue) : String :=
  "TransportValidationIssue \x7b field: \"" ++ issue.field ++ "\", message: \"" ++ issue.message ++
    "\" \x7d"

def debugIssues (issues : List Lwo.TransportValidationIssue) : String :=
  "[" ++ ", ".intercalate (issues.map Lwo.TransportValidationIssue.debug) ++ "]"

abbrev Selection :=
  Except RouteGuardError (ResolvedTransport × TransportChoice × TunnelTransportConfig)

section Selector
variable (probes : TransportProbes) (confText : String)

def lwoValidation (merged : TunnelTransportConfig) : Lwo.TransportValidateResult :=
  Lwo.validate probes.standard probes.derivePublicKey confText merged

def resolveLwo (merged : TunnelTransportConfig) (explicit : Bool) : Selection :=
  let validation := lwoValidation probes confText merged
  if !validation.valid then
    if merged.requireLwo || explicit then
      .error (.config ("LWO validation failed: " ++ debugIssues validation.issues))
    else .ok (⟨.directUdp, true, some "lwo_validation_failed", some .lwo⟩, .directUdp, merged)
  else .ok (⟨.lwo, false, none, none⟩, .lwo, merged)

def resolvePhantun (merged : TunnelTransportConfig) (explicit : Bool) : Selection :=
  if probes.phantunBinary then .ok (⟨.phantun, false, none, none⟩, .phantun, merged)
  else if merged.requirePhantun || explicit then
    .error (.platform "transport=phantun requires phantun_client.exe")
  else .ok (⟨.directUdp, true, some "phantun_unavailable", some .phantun⟩, .directUdp, merged)

/-- The configuration that `resolve` merges; an override hides the one of the tunnel. -/
def selectorConfig (tunnelTransport : TunnelTransportConfig)
    (profile overrideCfg : Option TunnelTransportConfig) : TunnelTransportConfig :=
  mergeTransportConfig (transportHintsFromConf confText) profile
    (overrideCfg.or (some tunnelTransport))

def resolveTransport (tunnelTransport : TunnelTransportConfig)
    (profile overrideCfg : Option TunnelTransportConfig) : Selection :=
  let merged := selectorConfig confText tunnelTransport profile overrideCfg
  match merged.preference with
  | .directUdp => .ok (⟨.directUdp, false, none, none⟩, .directUdp, merged)
  | .lwo => resolveLwo probes confText merged true
  | .phantun => resolvePhantun probes merged true
  | .auto =>
      let wantLwo := merged.lwo.isSome || confWantsLwo confText
      let wantPhantun := merged.phantun.isSome || confWantsPhantun confText
      if wantLwo && wantPhantun && merged.requirePhantun && merged.requireLwo then
        .error (.config "conflicting require_lwo and require_phantun")
      else if wantLwo then resolveLwo probes confText merged false
      else if wantPhantun then resolvePhantun probes merged false
      else .ok (⟨.directUdp, false, none, none⟩, .directUdp, merged)

end Selector

/-! ## Requests -/

structure TransportInputs where
  confText : String
  tunnel : TunnelTransportConfig := {}
  profile : Option TunnelTransportConfig := none
  overrideCfg : Option TunnelTransportConfig := none

namespace TransportInputs
variable (probes : TransportProbes) (inputs : TransportInputs)

def resolve : Selection :=
  resolveTransport probes inputs.confText inputs.tunnel inputs.profile inputs.overrideCfg

/-- The override, or the tunnel's configuration where there is none, over the profile's. -/
def upper : TunnelTransportConfig :=
  let top := inputs.overrideCfg.getD inputs.tunnel
  inputs.profile.elim top top.over

def hints : TunnelTransportConfig := transportHintsFromConf inputs.confText

/-- The first preference that is not `auto`, the text's last. -/
def asked : TransportPreference := inputs.upper.preference.orElse inputs.hints.preference

/-- Keys and a remote: what `LwoBackend::validate` looks for. -/
def LwoUsable : Prop :=
  (Lwo.parseLwoKeys probes.standard probes.derivePublicKey inputs.confText).isOk = true ∧
    (((inputs.upper.lwo.or inputs.hints.lwo).bind LwoTransportConfig.remoteUdp).isSome = true ∨
      (parsePeerEndpoint ScopedSocketAddr.parse inputs.confText).isSome = true)

theorem selectorConfig_eq :
    selectorConfig inputs.confText inputs.tunnel inputs.profile inputs.overrideCfg =
      inputs.upper.over inputs.hints := by
  have htop : (inputs.overrideCfg.or (some inputs.tunnel)).toList =
      [inputs.overrideCfg.getD inputs.tunnel] := by
    cases inputs.overrideCfg <;> rfl
  rw [selectorConfig, mergeTransportConfig_eq, htop, upper]
  cases inputs.profile with
  | none => rfl
  | some p => exact (TunnelTransportConfig.over_assoc _ _ _).symm

theorem selectorConfig_flags :
    (inputs.upper.over inputs.hints).requireLwo = inputs.upper.requireLwo ∧
      (inputs.upper.over inputs.hints).requirePhantun = inputs.upper.requirePhantun := by
  obtain ⟨hphantun, hlwo⟩ := hints_flags inputs.confText
  simp only [TunnelTransportConfig.over, hints, hphantun, hlwo, Bool.or_false, and_self]

theorem valid_iff :
    (lwoValidation probes inputs.confText (inputs.upper.over inputs.hints)).valid = true ↔
      inputs.LwoUsable probes := by
  have hissues : ∀ (keys remote peer flag : Bool) (a b c : Lwo.TransportValidationIssue),
      ((if keys then [] else [a]) ++ (if remote || peer then [] else [b]) ++
        (if flag && !keys then [c] else [])).isEmpty = true ↔
      keys = true ∧ (remote = true ∨ peer = true) := by
    intro keys remote peer flag a b c
    cases keys <;> cases remote <;> cases peer <;> simp
  exact hissues _ _ _ _ _ _ _

/-- Without a preference the text hints at nothing, and the sections decide. -/
theorem resolve_auto (h : inputs.asked = .auto) :
    inputs.resolve probes =
      let merged := inputs.upper.over inputs.hints
      if inputs.upper.lwo.isSome && inputs.upper.phantun.isSome && merged.requirePhantun &&
          merged.requireLwo then
        .error (.config "conflicting require_lwo and require_phantun")
      else if inputs.upper.lwo.isSome then resolveLwo probes inputs.confText merged false
      else if inputs.upper.phantun.isSome then resolvePhantun probes merged false
      else .ok (⟨.directUdp, false, none, none⟩, .directUdp, merged) := by
  obtain ⟨hupper, hhints⟩ := TransportPreference.orElse_eq_auto.mp h
  obtain ⟨hlwo, hphantun⟩ := wants_of_auto hhints
  have hnolwo : inputs.hints.lwo = none := by
    rw [← Option.isNone_iff_eq_none, ← Option.not_isSome, hints, hints_lwo_isSome, hlwo]
    rfl
  have hnophantun : inputs.hints.phantun = none := by
    rw [← Option.isNone_iff_eq_none, ← Option.not_isSome, hints, hints_phantun_isSome]
    rw [confWantsPhantun, Bool.or_eq_false_iff] at hphantun
    rw [hphantun.1]
    rfl
  have hmerged : (inputs.upper.over inputs.hints).preference = .auto := h
  rw [resolve, resolveTransport, selectorConfig_eq]
  dsimp only
  rw [hmerged, hlwo, hphantun]
  simp only [TunnelTransportConfig.over, hnolwo, hnophantun, Option.or_none, Bool.or_false]

/-- The way of a preference that is not `auto`. -/
def resolveAsked (merged : TunnelTransportConfig) : TransportPreference → Selection
  | .lwo => resolveLwo probes inputs.confText merged true
  | .phantun => resolvePhantun probes merged true
  | _ => .ok (⟨.directUdp, false, none, none⟩, .directUdp, merged)

theorem resolve_asked {preference : TransportPreference} (h : inputs.asked = preference)
    (hnot : preference ≠ .auto) :
    inputs.resolve probes =
      inputs.resolveAsked probes (inputs.upper.over inputs.hints) preference := by
  have hmerged : (inputs.upper.over inputs.hints).preference = preference := h
  rw [resolve, resolveTransport, selectorConfig_eq]
  dsimp only
  rw [hmerged]
  cases preference with
  | auto => exact absurd rfl hnot
  | directUdp => rfl
  | phantun => rfl
  | lwo => rfl

end TransportInputs

/-! ## Required transports -/

/-- Where a transport is chosen, it is this one. -/
def OnlyOver (kind : TransportKind) (selection : Selection) : Prop :=
  ∀ resolved choice merged, selection = .ok (resolved, choice, merged) →
    resolved.kind = kind ∧ choice.kind = kind

section OnlyOver
variable {probes : TransportProbes} {confText : String} {merged : TunnelTransportConfig}
variable {explicit : Bool} {kind : TransportKind}

theorem onlyOver_error (e : RouteGuardError) : OnlyOver kind (.error e) := by
  intro resolved choice merged h
  cases h

theorem onlyOver_ok {resolved : ResolvedTransport} {choice : TransportChoice}
    (hsame : resolved.kind = choice.kind) :
    OnlyOver kind (.ok (resolved, choice, merged)) ↔ resolved.kind = kind := by
  constructor
  · intro h
    exact (h resolved choice merged rfl).1
  · rintro h _ _ _ heq
    cases heq
    exact ⟨h, hsame ▸ h⟩

theorem onlyOver_direct (fallback : Bool) (reason : Option String)
    (requested : Option TransportKind) :
    OnlyOver kind (.ok (⟨.directUdp, fallback, reason, requested⟩, .directUdp, merged)) ↔
      kind = .directUdp :=
  (onlyOver_ok rfl).trans eq_comm

theorem onlyOver_resolveLwo :
    OnlyOver kind (resolveLwo probes confText merged explicit) ↔
      if (lwoValidation probes confText merged).valid then kind = .lwo
      else merged.requireLwo = true ∨ explicit = true ∨ kind = .directUdp := by
  rw [resolveLwo]
  cases (lwoValidation probes confText merged).valid with
  | true =>
      simp only [Bool.not_true, Bool.false_eq_true, if_false, if_true]
      exact (onlyOver_ok rfl).trans eq_comm
  | false =>
      simp only [Bool.not_false, Bool.false_eq_true, if_false, if_true]
      cases merged.requireLwo <;> cases explicit <;> simp [onlyOver_error, onlyOver_direct]

theorem onlyOver_resolvePhantun :
    OnlyOver kind (resolvePhantun probes merged explicit) ↔
      if probes.phantunBinary then kind = .phantun
      else merged.requirePhantun = true ∨ explicit = true ∨ kind = .directUdp := by
  rw [resolvePhantun]
  cases probes.phantunBinary with
  | true =>
      simp only [if_true]
      exact (onlyOver_ok rfl).trans eq_comm
  | false =>
      simp only [Bool.false_eq_true, if_false]
      cases merged.requirePhantun <;> cases explicit <;> simp [onlyOver_error, onlyOver_direct]

end OnlyOver

namespace TransportInputs
variable (probes : TransportProbes) (inputs : TransportInputs)

/-- The flag is set in the tunnel's configuration, the profile or the override. -/
def Requires (flag : TunnelTransportConfig → Bool) : Prop :=
  flag inputs.tunnel = true ∨ (∃ p ∈ inputs.profile, flag p = true) ∨
    ∃ o ∈ inputs.overrideCfg, flag o = true

/-- Neither a configuration nor the text asks for direct UDP. -/
def NoDirectUdp : Prop :=
  inputs.tunnel.preference ≠ .directUdp ∧ (∀ p ∈ inputs.profile, p.preference ≠ .directUdp) ∧
    (∀ o ∈ inputs.overrideCfg, o.preference ≠ .directUdp) ∧ inputs.hints.preference ≠ .directUdp

/-- What keeps a tunnel that requires LWO off the other transports. -/
def LwoKept : Prop :=
  match inputs.asked with
  | .lwo => True
  | .phantun => probes.phantunBinary = false
  | .auto => inputs.upper.lwo.isSome = true ∧
      (inputs.LwoUsable probes ∨ inputs.upper.requireLwo = true)
  | .directUdp => False

/-- What keeps a tunnel that requires Phantun off the other transports. -/
def PhantunKept : Prop :=
  match inputs.asked with
  | .phantun => True
  | .lwo => ¬inputs.LwoUsable probes
  | .auto => inputs.upper.lwo = none ∧ inputs.upper.phantun.isSome = true ∧
      (probes.phantunBinary = true ∨ inputs.upper.requirePhantun = true)
  | .directUdp => False

variable {inputs}

theorem asked_ne_directUdp (h : inputs.NoDirectUdp) : inputs.asked ≠ .directUdp := by
  obtain ⟨htunnel, hprofile, hoverride, hhints⟩ := h
  have horElse : ∀ {first second : TransportPreference}, first ≠ .directUdp →
      second ≠ .directUdp → first.orElse second ≠ .directUdp := by
    intro first second hfirst hsecond
    cases first with
    | auto => exact hsecond
    | directUdp => exact absurd rfl hfirst
    | phantun => exact hfirst
    | lwo => exact hfirst
  have htop : (inputs.overrideCfg.getD inputs.tunnel).preference ≠ .directUdp := by
    cases ho : inputs.overrideCfg with
    | none => exact htunnel
    | some o => exact hoverride o ho
  refine horElse ?_ hhints
  rw [upper]
  cases hp : inputs.profile with
  | none => exact htop
  | some p => exact horElse htop (hprofile p hp)

theorem upper_flag {flag : TunnelTransportConfig → Bool}
    (hover : ∀ a b : TunnelTransportConfig, flag (a.over b) = (flag a || flag b))
    (h : ¬inputs.Requires flag) : flag inputs.upper = false := by
  rw [Requires, not_or, not_or, not_exists, not_exists] at h
  obtain ⟨htunnel, hprofile, hoverride⟩ := h
  have htop : flag (inputs.overrideCfg.getD inputs.tunnel) = false := by
    cases ho : inputs.overrideCfg with
    | none => exact Bool.eq_false_iff.mpr htunnel
    | some o => exact Bool.eq_false_iff.mpr fun hflag => hoverride o ⟨ho, hflag⟩
  rw [upper]
  cases hp : inputs.profile with
  | none => exact htop
  | some p =>
      have hflag : flag p = false := Bool.eq_false_iff.mpr fun hflag => hprofile p ⟨hp, hflag⟩
      exact (hover _ p).trans (by rw [htop, hflag]; rfl)

theorem onlyOver_lwo_iff (hdirect : inputs.NoDirectUdp)
    (hphantun : ¬inputs.Requires TunnelTransportConfig.requirePhantun) :
    OnlyOver .lwo (inputs.resolve probes) ↔ inputs.LwoKept probes := by
  obtain ⟨hlwoFlag, hphantunFlag⟩ := inputs.selectorConfig_flags
  have hvalid := inputs.valid_iff probes
  rw [LwoKept]
  cases hasked : inputs.asked with
  | directUdp => exact absurd hasked (asked_ne_directUdp hdirect)
  | lwo =>
      rw [resolve_asked probes inputs hasked (by simp)]
      simp [resolveAsked, onlyOver_resolveLwo]
  | phantun =>
      rw [resolve_asked probes inputs hasked (by simp)]
      simp [resolveAsked, onlyOver_resolvePhantun]
  | auto =>
      have hunset : inputs.upper.requirePhantun = false := upper_flag (fun _ _ => rfl) hphantun
      rw [resolve_auto probes inputs hasked]
      dsimp only
      rw [hlwoFlag, hphantunFlag, hunset]
      simp only [Bool.and_false, Bool.false_and, Bool.false_eq_true, if_false]
      cases inputs.upper.lwo.isSome with
      | true =>
          simp only [if_true, onlyOver_resolveLwo, hlwoFlag, ← hvalid, true_and]
          cases (lwoValidation probes inputs.confText (inputs.upper.over inputs.hints)).valid <;>
            simp
      | false =>
          simp only [Bool.false_eq_true, if_false, false_and, iff_false]
          cases inputs.upper.phantun.isSome with
          | true => cases hbinary : probes.phantunBinary <;>
              simp [onlyOver_resolvePhantun, hbinary, hphantunFlag, hunset]
          | false => simp [onlyOver_direct]

theorem onlyOver_phantun_iff (hdirect : inputs.NoDirectUdp)
    (hlwo : ¬inputs.Requires TunnelTransportConfig.requireLwo) :
    OnlyOver .phantun (inputs.resolve probes) ↔ inputs.PhantunKept probes := by
  obtain ⟨hlwoFlag, hphantunFlag⟩ := inputs.selectorConfig_flags
  have hvalid := inputs.valid_iff probes
  rw [PhantunKept]
  cases hasked : inputs.asked with
  | directUdp => exact absurd hasked (asked_ne_directUdp hdirect)
  | lwo =>
      rw [resolve_asked probes inputs hasked (by simp)]
      simp [resolveAsked, onlyOver_resolveLwo, hvalid]
  | phantun =>
      rw [resolve_asked probes inputs hasked (by simp)]
      simp [resolveAsked, onlyOver_resolvePhantun]
  | auto =>
      have hunset : inputs.upper.requireLwo = false := upper_flag (fun _ _ => rfl) hlwo
      rw [resolve_auto probes inputs hasked]
      dsimp only
      rw [hlwoFlag, hphantunFlag, hunset]
      simp only [Bool.and_false, Bool.false_eq_true, if_false]
      cases hsection : inputs.upper.lwo with
      | some section_ => simp [onlyOver_resolveLwo, hlwoFlag, hunset]
      | none =>
          simp only [Option.isSome_none, Bool.false_eq_true, if_false, true_and]
          cases inputs.upper.phantun.isSome with
          | true => cases hbinary : probes.phantunBinary <;>
              simp [onlyOver_resolvePhantun, hbinary, hphantunFlag]
          | false => simp [onlyOver_direct]

/-- A required transport is the only one exactly where it is asked for first, or nothing is
asked for and its section is there with what it needs or with the flag in a configuration that
is merged. -/
theorem required_kept_iff (hdirect : inputs.NoDirectUdp) :
    (inputs.Requires TunnelTransportConfig.requireLwo →
      ¬inputs.Requires TunnelTransportConfig.requirePhantun →
      (OnlyOver .lwo (inputs.resolve probes) ↔ inputs.LwoKept probes)) ∧
    (inputs.Requires TunnelTransportConfig.requirePhantun →
      ¬inputs.Requires TunnelTransportConfig.requireLwo →
      (OnlyOver .phantun (inputs.resolve probes) ↔ inputs.PhantunKept probes)) :=
  ⟨fun _ hphantun => onlyOver_lwo_iff probes hdirect hphantun,
    fun _ hlwo => onlyOver_phantun_iff probes hdirect hlwo⟩

def plainText : String := "[Interface]\n[Peer]\nEndpoint = 1.2.3.4:51820\n"

theorem plainText_hints : transportHintsFromConf plainText = {} := by
  have hlines : ((lines plainText).all fun line =>
      !eqIgnoreAsciiCase (trim line) "[routeguard]") = true := by
    decide
  apply transportHintsFromConf_default
  intro line hline
  rw [← Bool.not_eq_true']
  exact List.all_eq_true.mp hlines line hline

def plainInputs (preference : TransportPreference) : TransportInputs :=
  { confText := plainText, tunnel := { preference := preference, requireLwo := true } }

theorem plainInputs_noDirectUdp {preference : TransportPreference}
    (h : preference ≠ .directUdp) : (plainInputs preference).NoDirectUdp := by
  refine ⟨h, fun p hp => ?_, fun o ho => ?_, ?_⟩
  · cases hp
  · cases ho
  · rw [hints, plainInputs, plainText_hints]
    simp

theorem plainInputs_requires (preference : TransportPreference) :
    (plainInputs preference).Requires TunnelTransportConfig.requireLwo ∧
      ¬(plainInputs preference).Requires TunnelTransportConfig.requirePhantun := by
  refine ⟨Or.inl rfl, ?_⟩
  rintro (htunnel | ⟨p, hp, -⟩ | ⟨o, ho, -⟩)
  · cases htunnel
  · cases hp
  · cases ho

theorem plainInputs_asked (preference : TransportPreference) :
    (plainInputs preference).asked = preference := by
  rw [asked, hints, plainInputs, plainText_hints]
  exact TransportPreference.orElse_auto preference

theorem required_kept_plain :
    OnlyOver .lwo ((plainInputs .lwo).resolve ⟨Lwo.referenceEngine, id, true⟩) := by
  obtain ⟨hlwo, hphantun⟩ := plainInputs_requires .lwo
  rw [(required_kept_iff ⟨Lwo.referenceEngine, id, true⟩ (plainInputs_noDirectUdp (by simp))).1
    hlwo hphantun, LwoKept, plainInputs_asked]
  exact trivial

/-- Nothing is asked for, so the flag is not looked at. -/
theorem required_not_kept : ¬∀ (probes : TransportProbes) (inputs : TransportInputs),
    inputs.NoDirectUdp →
    (inputs.Requires TunnelTransportConfig.requireLwo →
      ¬inputs.Requires TunnelTransportConfig.requirePhantun →
      OnlyOver .lwo (inputs.resolve probes)) ∧
    (inputs.Requires TunnelTransportConfig.requirePhantun →
      ¬inputs.Requires TunnelTransportConfig.requireLwo →
      OnlyOver .phantun (inputs.resolve probes)) := by
  intro h
  have hdirect : (plainInputs .auto).NoDirectUdp := plainInputs_noDirectUdp (by simp)
  obtain ⟨hlwo, hphantun⟩ := plainInputs_requires .auto
  have honly := (h ⟨Lwo.referenceEngine, id, true⟩ (plainInputs .auto) hdirect).1 hlwo hphantun
  rw [onlyOver_lwo_iff _ hdirect hphantun, LwoKept, plainInputs_asked] at honly
  have hsection : (plainInputs .auto).upper.lwo = none := rfl
  rw [hsection] at honly
  cases honly.1

end TransportInputs

end RouteGuard
