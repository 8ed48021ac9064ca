import RouteGuard.Awg.Params
import RouteGuard.Service.Connect
import RouteGuard.Service.ProfileStore
import RouteGuard.Service.TransportSelector

/-! # What an import records

`validate_conf_text` and the transport that `import_profile` stores with a
profile: the merged configuration, and a summary of the kind and the remote it
expects.  Connecting the profile merges the same configuration again, but
selects the transport on its own. -/
set_option autoImplicit false
namespace RouteGuard

open Fallible GuardedRun

/-! ## Validation -/

inductive ProfileKind where
  | standard
  | awg
deriving DecidableEq, Repr

structure ProfileValidationIssue where
  field : String
  message : String
deriving DecidableEq, Repr

structure ProfileValidateResult where
  valid : Bool
  kind : ProfileKind
  issues : List ProfileValidationIssue
deriving DecidableEq, Repr

def mapIssue (i : ValidationIssue) : ProfileValidationIssue := ⟨i.field, i.message⟩

def mapTransportIssue (i : Lwo.TransportValidationIssue) : ProfileValidationIssue :=
  ⟨i.field, i.message⟩

def containsText (text part : String) : Bool :=
  text.toList.tails.any fun rest => part.toList.isPrefixOf rest

section Validation
variable (probes : TransportProbes) (confText : String)

def directUdpValidation : Lwo.TransportValidateResult :=
  let valid := (parsePeerEndpoint ScopedSocketAddr.parse confText).isSome
  { valid := valid
    issues := if valid then []
      else [⟨"Peer.Endpoint", "missing peer Endpoint for direct UDP"⟩] }

def phantunValidation (cfg : TunnelTransportConfig) : Lwo.TransportValidateResult :=
  let peer := parsePeerEndpoint ScopedSocketAddr.parse confText
  let hasRemote := (cfg.phantun.bind PhantunTransportConfig.remoteTcp).isSome || peer.isSome
  let issues :=
    (if hasRemote then []
      else [⟨"transport.phantun.remoteTcp", "Phantun requires RemoteTCP or peer Endpoint"⟩]) ++
    (if cfg.requirePhantun && !probes.phantunBinary then
      [⟨"transport.requirePhantun", "require_phantun set but phantun_client.exe missing"⟩] else [])
  { valid := issues.isEmpty, issues := issues }

/-- The validation of the backend that the preference names. -/
def transportValidation (merged : TunnelTransportConfig) : Lwo.TransportValidateResult :=
  match merged.preference with
  | .phantun => phantunValidation probes confText merged
  | .lwo => lwoValidation probes confText merged
  | _ => directUdpValidation confText

def validateConfText (backend : Option TunnelBackendPreference)
    (transport : Option TunnelTransportConfig) : ProfileValidateResult :=
  let awg := parseAwgFromConf confText
  let merged := mergeTransportConfig (transportHintsFromConf confText) transport none
  let issues :=
    (if containsText (toAsciiLowercase confText) "privatekey" then []
      else [⟨"Interface", "missing PrivateKey"⟩]) ++
    (validateAwgParams awg).map mapIssue ++
    (if backend = some .wireGuardNt ∧ awg.hasAny then
      [⟨"backend", "AWG parameters present but backend set to wireguard-nt"⟩] else []) ++
    (transportValidation probes confText merged).issues.map mapTransportIssue
  { valid := issues.isEmpty
    kind := if isAwgProfile confText then .awg else .standard
    issues := issues }

/-- A text is valid where none of the checks finds anything. -/
theorem validateConfText_valid_iff (backend : Option TunnelBackendPreference)
    (transport : Option TunnelTransportConfig) :
    (validateConfText probes confText backend transport).valid = true ↔
      containsText (toAsciiLowercase confText) "privatekey" = true ∧
      validateAwgParams (parseAwgFromConf confText) = [] ∧
      ¬(backend = some .wireGuardNt ∧ (parseAwgFromConf confText).hasAny = true) ∧
      (transportValidation probes confText
        (mergeTransportConfig (transportHintsFromConf confText) transport none)).issues = [] := by
  rw [validateConfText, List.isEmpty_iff, List.append_eq_nil_iff, List.append_eq_nil_iff,
    List.append_eq_nil_iff, List.map_eq_nil_iff, List.map_eq_nil_iff, and_assoc, and_assoc]
  simp only [ite_eq_left_iff, ite_eq_right_iff, reduceCtorEq, imp_false, not_not]

end Validation

/-! ## Import -/

section Import
variable (probes : TransportProbes) (params : ProfileImportParams)

/-- The transport that is stored with the profile. -/
def mergedTransport : TunnelTransportConfig :=
  mergeTransportConfig (transportHintsFromConf params.confText) params.transport none

def importValidation : ProfileValidateResult :=
  validateConfText probes params.confText params.backend (some (mergedTransport params))

/-- What `import_profile` makes of its parameters before it writes; `issuesText` is the `Debug`
text of the issues. -/
def describeImport (issuesText : List ProfileValidationIssue → String) :
    Except RouteGuardError TunnelTransportConfig :=
  if (importValidation probes params).valid then .ok (mergedTransport params)
  else .error (.config
    ("profile validation failed: " ++ issuesText (importValidation probes params).issues))

def lwoRemote (cfg : TunnelTransportConfig) : Option ScopedSocketAddr :=
  (cfg.lwo.bind LwoTransportConfig.remoteUdp).bind ScopedSocketAddr.parse

def phantunRemote (cfg : TunnelTransportConfig) : Option ScopedSocketAddr :=
  (cfg.phantun.bind PhantunTransportConfig.remoteTcp).bind ScopedSocketAddr.parse

def importRemote : Option ScopedSocketAddr :=
  (lwoRemote (mergedTransport params)).or (phantunRemote (mergedTransport params))

def importKind : TransportKind :=
  match (mergedTransport params).preference with
  | .phantun => .phantun
  | .lwo => .lwo
  | _ =>
      let hints := transportHintsFromConf params.confText
      if hints.lwo.isSome then .lwo
      else if hints.phantun.isSome then .phantun
      else .directUdp

def transportSummary (kind : TransportKind) (remote : Option ScopedSocketAddr) : String :=
  match kind with
  | .directUdp => "direct_udp"
  | .phantun => remote.elim "phantun" fun a => "phantun → " ++ toString a
  | .lwo => remote.elim "lwo" fun a => "lwo → " ++ toString a

def importSummary : String := transportSummary (importKind params) (importRemote params)

end Import

/-! ## The merge is stable -/

/-- The transport that an import stores is what the selector merges again, with any tunnel. -/
theorem selectorConfig_imported (params : ProfileImportParams) {profile : TunnelProfile}
    (htransport : profile.transport = some (mergedTransport params)) (tunnel : TunnelConfig) :
    selectorConfig params.confText (withProfile profile tunnel).transport profile.transport none =
      mergedTransport params := by
  have htunnel : (withProfile profile tunnel).transport = mergedTransport params := by
    rw [withProfile, htransport]
    rfl
  rw [selectorConfig, htunnel, htransport, Option.none_or]
  exact mergeTransportConfig_again _ _ _

theorem resolveTransport_merged {probes : TransportProbes} {confText : String}
    {tunnelTransport : TunnelTransportConfig} {profile overrideCfg : Option TunnelTransportConfig}
    {resolved : ResolvedTransport} {choice : TransportChoice} {merged : TunnelTransportConfig}
    (h : resolveTransport probes confText tunnelTransport profile overrideCfg =
      .ok (resolved, choice, merged)) :
    merged = selectorConfig confText tunnelTransport profile overrideCfg := by
  have hlwo : ∀ cfg explicit, resolveLwo probes confText cfg explicit =
      .ok (resolved, choice, merged) → merged = cfg := by
    intro cfg explicit hlwo
    unfold resolveLwo at hlwo
    dsimp only at hlwo
    split_ifs at hlwo <;> cases hlwo <;> rfl
  have hphantun : ∀ cfg explicit, resolvePhantun probes cfg explicit =
      .ok (resolved, choice, merged) → merged = cfg := by
    intro cfg explicit hphantun
    unfold resolvePhantun at hphantun
    split_ifs at hphantun <;> cases hphantun <;> rfl
  rw [resolveTransport] at h
  dsimp only at h
  split at h
  · cases h
    rfl
  · exact hlwo _ _ h
  · exact hphantun _ _ h
  · split_ifs at h with _ hwantLwo hwantPhantun
    · exact hlwo _ _ h
    · exact hphantun _ _ h
    · cases h
      rfl

theorem describeImport_ok {probes : TransportProbes} {params : ProfileImportParams}
    {issuesText : List ProfileValidationIssue → String} {transport : TunnelTransportConfig}
    (h : describeImport probes params issuesText = .ok transport) :
    transport = mergedTransport params := by
  rw [describeImport] at h
  split_ifs at h
  exact (Except.ok.inj h).symm

section Stored
variable {F : Type} [DecidableEq F] (fileOf : String → F) (probes : TransportProbes)
  (issuesText : List ProfileValidationIssue → String)

def importDescription (params : ProfileImportParams) :
    Except RouteGuardError TunnelTransportConfig :=
  describeImport probes params issuesText

def importConf (fs : FsAnswers) (params : ProfileImportParams) : VaultProg F TunnelProfile :=
  importProfile fileOf fs (importDescription probes issuesText) params

theorem importConf_transport {fs : FsAnswers} {params : ProfileImportParams} {vault : Vault F}
    {profile : TunnelProfile}
    (h : (exec (importConf fileOf probes issuesText fs params) vault).1 = .ok profile) :
    profile.transport = some (mergedTransport params) := by
  rw [importConf] at h
  by_cases hearly : (importDescription probes issuesText params).isOk ∧ fs.createDir = none
  · obtain ⟨hok, hcreate⟩ := hearly
    cases hdescribe : importDescription probes issuesText params with
    | error e =>
        rw [hdescribe] at hok
        cases hok
    | ok transport =>
        obtain ⟨result, hexec, hreplaced, herror⟩ :=
          exec_importProfile fileOf vault hdescribe hcreate
        rw [hexec] at h
        by_cases hfate : fs.indexFate (fs.writeConf = .done && (vault.loaded fs).isOk) = .replaced
        · rw [hreplaced hfate] at h
          cases h
          rw [describeImport_ok hdescribe]
        · obtain ⟨e, he⟩ := herror hfate
          rw [he] at h
          cases h
  · obtain ⟨e, hexec⟩ := exec_importProfile_early fileOf vault hearly
    rw [hexec] at h
    cases h

/-- The merge of a text's hints and an import's transport is found again by merging it, and by the
selector wherever the imported profile is connected without override. -/
theorem import_merged_again :
    (∀ (confText : String) (transport : Option TunnelTransportConfig),
      let hints := transportHintsFromConf confText
      let merged := mergeTransportConfig hints transport none
      mergeTransportConfig hints (some merged) (some merged) = merged) ∧
    ∀ (fs : FsAnswers) (params : ProfileImportParams) (vault : Vault F) (profile : TunnelProfile),
      (exec (importConf fileOf probes issuesText fs params) vault).1 = .ok profile →
      profile.transport = some (mergedTransport params) ∧
      ∀ (tunnel : TunnelConfig),
        selectorConfig params.confText (withProfile profile tunnel).transport profile.transport
          none = mergedTransport params ∧
        ∀ resolved choice merged, resolveTransport probes params.confText
          (withProfile profile tunnel).transport profile.transport none =
            .ok (resolved, choice, merged) → merged = mergedTransport params := by
  refine ⟨fun confText transport => mergeTransportConfig_again _ _ _, ?_⟩
  intro fs params vault profile himport
  have htransport := importConf_transport fileOf probes issuesText himport
  refine ⟨htransport, fun tunnel => ?_⟩
  have hconfig := selectorConfig_imported params htransport tunnel
  refine ⟨hconfig, fun resolved choice merged hresolve => ?_⟩
  rw [resolveTransport_merged hresolve, hconfig]

end Stored

end RouteGuard
