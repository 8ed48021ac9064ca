import RouteGuard.Core.TransportHints

/-! # Layers of transport configuration

`merge_transport_config` lays the configuration of a profile and an override
over the hints of a text, each by rules of its own.  Both rules are one
operation, associative and idempotent, so merging the result of a merge changes
nothing. -/
set_option autoImplicit false
namespace RouteGuard

/-! ## The merge -/

/-- The branch of `merge_transport_config` for the profile. -/
def TunnelTransportConfig.withProfile (out p : TunnelTransportConfig) : TunnelTransportConfig where
  preference := if p.preference ≠ .auto ∨ out.preference = .auto then p.preference
    else out.preference
  requirePhantun := out.requirePhantun || p.requirePhantun
  requireLwo := out.requireLwo || p.requireLwo
  phantun := if p.phantun.isSome then p.phantun else out.phantun
  lwo := if p.lwo.isSome then p.lwo else out.lwo

def TunnelTransportConfig.withOverride (out o : TunnelTransportConfig) :
    TunnelTransportConfig where
  preference := if o.preference ≠ .auto then o.preference else out.preference
  requirePhantun := if o.requirePhantun then true else out.requirePhantun
  requireLwo := if o.requireLwo then true else out.requireLwo
  phantun := if o.phantun.isSome then o.phantun else out.phantun
  lwo := if o.lwo.isSome then o.lwo else out.lwo

def mergeTransportConfig (base : TunnelTransportConfig)
    (profile overrideCfg : Option TunnelTransportConfig) : TunnelTransportConfig :=
  let out := profile.elim base base.withProfile
  overrideCfg.elim out out.withOverride

/-! ## What a text asks for -/

def confWantsLwo (confText : String) : Bool :=
  let rg := parseRouteguardSection confText
  rg.lwoEnabled || rg.remoteUdp.isSome || rg.transport == some .lwo

def confWantsPhantun (confText : String) : Bool :=
  let rg := parseRouteguardSection confText
  rg.remoteTcp.isSome || rg.transport == some .phantun

section Hints
variable (confText : String)

theorem hints_preference : (transportHintsFromConf confText).preference =
    let rg := parseRouteguardSection confText
    if rg.transport.getD .auto ≠ .auto then rg.transport.getD .auto
    else if rg.remoteTcp.isSome then .phantun
    else if rg.lwoEnabled || rg.remoteUdp.isSome then .lwo
    else .auto := by
  rw [transportHintsFromConf]
  generalize parseRouteguardSection confText = rg
  dsimp only
  rcases htransport : rg.transport with _ | (_ | _ | _ | _) <;>
    cases htcp : rg.remoteTcp <;> cases hlwo : rg.lwoEnabled || rg.remoteUdp.isSome <;>
    simp_all

theorem hints_lwo_isSome :
    (transportHintsFromConf confText).lwo.isSome = confWantsLwo confText := by
  rw [transportHintsFromConf, confWantsLwo]
  generalize parseRouteguardSection confText = rg
  dsimp only
  cases hwants : rg.lwoEnabled || rg.remoteUdp.isSome || rg.transport == some .lwo <;>
    cases rg.remoteTcp <;> rfl

theorem hints_phantun_isSome : (transportHintsFromConf confText).phantun.isSome =
    (parseRouteguardSection confText).remoteTcp.isSome := by
  rw [transportHintsFromConf]
  generalize parseRouteguardSection confText = rg
  dsimp only
  cases hwants : rg.lwoEnabled || rg.remoteUdp.isSome || rg.transport == some .lwo <;>
    cases rg.remoteTcp <;> rfl

theorem hints_flags : (transportHintsFromConf confText).requirePhantun = false ∧
    (transportHintsFromConf confText).requireLwo = false := by
  rw [transportHintsFromConf]
  generalize parseRouteguardSection confText = rg
  dsimp only
  cases hwants : rg.lwoEnabled || rg.remoteUdp.isSome || rg.transport == some .lwo <;>
    cases rg.remoteTcp <;> exact ⟨rfl, rfl⟩

variable {confText}

theorem wants_of_auto (h : (transportHintsFromConf confText).preference = .auto) :
    confWantsLwo confText = false ∧ confWantsPhantun confText = false := by
  rw [hints_preference] at h
  rw [confWantsLwo, confWantsPhantun]
  generalize parseRouteguardSection confText = rg at h ⊢
  dsimp only at h ⊢
  rcases htransport : rg.transport with _ | (_ | _ | _ | _) <;>
    cases htcp : rg.remoteTcp <;> cases hlwo : rg.lwoEnabled || rg.remoteUdp.isSome <;>
    simp_all

end Hints

/-! ## Layers -/

section Layers

/-- The first preference unless it is `auto`. -/
def TransportPreference.orElse : TransportPreference → TransportPreference → TransportPreference
  | .auto, second => second
  | first, _ => first

@[simp] theorem TransportPreference.auto_orElse (second : TransportPreference) :
    TransportPreference.auto.orElse second = second := rfl

@[simp] theorem TransportPreference.orElse_auto (first : TransportPreference) :
    first.orElse .auto = first := by
  cases first <;> rfl

theorem TransportPreference.orElse_self (p : TransportPreference) : p.orElse p = p := by
  cases p <;> rfl

theorem TransportPreference.orElse_assoc (first second third : TransportPreference) :
    (first.orElse second).orElse third = first.orElse (second.orElse third) := by
  cases first <;> rfl

theorem TransportPreference.orElse_eq_auto {first second : TransportPreference} :
    first.orElse second = .auto ↔ first = .auto ∧ second = .auto := by
  cases first <;> simp [TransportPreference.orElse]

def TunnelTransportConfig.over (upper lower : TunnelTransportConfig) : TunnelTransportConfig where
  preference := upper.preference.orElse lower.preference
  requirePhantun := upper.requirePhantun || lower.requirePhantun
  requireLwo := upper.requireLwo || lower.requireLwo
  phantun := upper.phantun.or lower.phantun
  lwo := upper.lwo.or lower.lwo

theorem or_of_isSome {A : Type} (upper lower : Option A) :
    (if upper.isSome then upper else lower) = upper.or lower := by
  cases upper <;> rfl

/-- An `auto` that replaces an `auto` replaces nothing. -/
theorem withProfile_eq (out p : TunnelTransportConfig) : out.withProfile p = p.over out := by
  have hpreference : (if p.preference ≠ .auto ∨ out.preference = .auto then p.preference
      else out.preference) = p.preference.orElse out.preference := by
    cases hp : p.preference with
    | auto => cases out.preference <;> rfl
    | directUdp => rfl
    | phantun => rfl
    | lwo => rfl
  rw [TunnelTransportConfig.withProfile, TunnelTransportConfig.over, hpreference,
    or_of_isSome, or_of_isSome, Bool.or_comm, Bool.or_comm out.requireLwo]

theorem withOverride_eq (out o : TunnelTransportConfig) : out.withOverride o = o.over out := by
  have hpreference : (if o.preference ≠ .auto then o.preference else out.preference) =
      o.preference.orElse out.preference := by
    cases o.preference <;> rfl
  rw [TunnelTransportConfig.withOverride, TunnelTransportConfig.over, hpreference, or_of_isSome,
    or_of_isSome]
  simp only [Bool.if_true_left, Bool.decide_eq_true]

theorem TunnelTransportConfig.over_self (c : TunnelTransportConfig) : c.over c = c := by
  rw [TunnelTransportConfig.over, TransportPreference.orElse_self, Bool.or_self, Bool.or_self,
    Option.or_self, Option.or_self]

theorem TunnelTransportConfig.over_assoc (a b c : TunnelTransportConfig) :
    (a.over b).over c = a.over (b.over c) := by
  simp only [TunnelTransportConfig.over, TransportPreference.orElse_assoc, Bool.or_assoc,
    Option.or_assoc]

/-- The merge is the layers one over the other. -/
theorem mergeTransportConfig_eq (base : TunnelTransportConfig)
    (profile overrideCfg : Option TunnelTransportConfig) :
    mergeTransportConfig base profile overrideCfg =
      (overrideCfg.toList ++ profile.toList).foldr TunnelTransportConfig.over base := by
  rcases profile with _ | p <;> rcases overrideCfg with _ | o
  · rfl
  · exact withOverride_eq base o
  · exact withProfile_eq base p
  · exact (withOverride_eq _ o).trans (congrArg o.over (withProfile_eq base p))

theorem mergeTransportConfig_over (base : TunnelTransportConfig)
    (profile overrideCfg : Option TunnelTransportConfig) :
    (mergeTransportConfig base profile overrideCfg).over base =
      mergeTransportConfig base profile overrideCfg := by
  rw [mergeTransportConfig_eq]
  induction overrideCfg.toList ++ profile.toList with
  | nil => exact base.over_self
  | cons layer rest ih => rw [List.foldr_cons, TunnelTransportConfig.over_assoc, ih]

theorem mergeTransportConfig_again (base : TunnelTransportConfig)
    (profile overrideCfg : Option TunnelTransportConfig) :
    mergeTransportConfig base (some (mergeTransportConfig base profile overrideCfg))
        (some (mergeTransportConfig base profile overrideCfg)) =
      mergeTransportConfig base profile overrideCfg := by
  have hover := mergeTransportConfig_over base profile overrideCfg
  generalize mergeTransportConfig base profile overrideCfg = merged at hover ⊢
  rw [mergeTransportConfig_eq]
  calc merged.over (merged.over base) = merged.over merged := by rw [hover]
    _ = merged := merged.over_self

end Layers

end RouteGuard
