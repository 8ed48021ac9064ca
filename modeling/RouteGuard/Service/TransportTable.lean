import RouteGuard.Service.TransportSelector

/-! # The documented selection table

The table of `TRANSPORT_LAYER.md` over the preference that is written and the
hints that are there, and where the selector keeps to it. -/
set_option autoImplicit false
namespace RouteGuard

/-- A kind and whether it is a fallback. -/
abbrev TransportOutcome := TransportKind × Bool

def Meets (outcome : TransportOutcome) (selection : Selection) : Prop :=
  ∃ resolved choice merged, selection = .ok (resolved, choice, merged) ∧
    (resolved.kind, resolved.fallback) = outcome ∧ choice.kind = outcome.1

section Table
variable (probes : TransportProbes) (confText : String) (tunnel : TunnelTransportConfig)

/-- The preference of the configuration, else the one written in the text. -/
def writtenPreference : TransportPreference :=
  tunnel.preference.orElse ((parseRouteguardSection confText).transport.getD .auto)

def lwoHints : Bool := tunnel.lwo.isSome || confWantsLwo confText

def phantunHints : Bool := tunnel.phantun.isSome || confWantsPhantun confText

def keysValid : Bool := (Lwo.parseLwoKeys probes.standard probes.derivePublicKey confText).isOk

def orDirect (kind : TransportKind) (there : Bool) : TransportOutcome :=
  if there then (kind, false) else (.directUdp, true)

/-- The rows of the table. -/
def documentedOutcome : TransportOutcome :=
  match writtenPreference confText tunnel with
  | .directUdp => (.directUdp, false)
  | .lwo => orDirect .lwo (keysValid probes confText)
  | .phantun => orDirect .phantun probes.phantunBinary
  | .auto =>
      if lwoHints confText tunnel then (.lwo, false)
      else if phantunHints confText tunnel then orDirect .phantun probes.phantunBinary
      else (.directUdp, false)

def tunnelInputs : TransportInputs := { confText := confText, tunnel := tunnel }

/-- Where the selector keeps to the table. -/
def TableKept : Prop :=
  match writtenPreference confText tunnel with
  | .directUdp => True
  | .lwo => (tunnelInputs confText tunnel).LwoUsable probes
  | .phantun => probes.phantunBinary = true
  | .auto =>
      if (parseRouteguardSection confText).remoteTcp.isSome then
        lwoHints confText tunnel = false ∧ probes.phantunBinary = true
      else lwoHints confText tunnel = true → (tunnelInputs confText tunnel).LwoUsable probes

end Table

section Meets
variable {probes : TransportProbes} {confText : String} {merged : TunnelTransportConfig}
variable {outcome : TransportOutcome}

theorem not_meets_error (e : RouteGuardError) : ¬Meets outcome (.error e) := by
  rintro ⟨resolved, choice, merged, h, -⟩
  cases h

theorem meets_ok {resolved : ResolvedTransport} {choice : TransportChoice}
    (hsame : resolved.kind = choice.kind) :
    Meets outcome (.ok (resolved, choice, merged)) ↔
      outcome = (resolved.kind, resolved.fallback) := by
  constructor
  · rintro ⟨_, _, _, heq, houtcome, -⟩
    cases heq
    exact houtcome.symm
  · rintro rfl
    exact ⟨resolved, choice, merged, rfl, rfl, hsame.symm⟩

theorem meets_resolveLwo {explicit : Bool} (hflag : merged.requireLwo = false) :
    Meets outcome (resolveLwo probes confText merged explicit) ↔
      if (lwoValidation probes confText merged).valid then outcome = (.lwo, false)
      else explicit = false ∧ outcome = (.directUdp, true) := by
  rw [resolveLwo, hflag]
  cases (lwoValidation probes confText merged).valid with
  | true =>
      simp only [Bool.not_true, Bool.false_eq_true, if_false, if_true]
      exact meets_ok rfl
  | false =>
      cases explicit with
      | true => simp [not_meets_error]
      | false =>
          simp only [Bool.not_false, Bool.or_self, Bool.false_eq_true, if_false, if_true, true_and]
          exact meets_ok rfl

theorem meets_resolvePhantun {explicit : Bool} (hflag : merged.requirePhantun = false) :
    Meets outcome (resolvePhantun probes merged explicit) ↔
      if probes.phantunBinary then outcome = (.phantun, false)
      else explicit = false ∧ outcome = (.directUdp, true) := by
  rw [resolvePhantun, hflag]
  cases probes.phantunBinary with
  | true =>
      simp only [if_true]
      exact meets_ok rfl
  | false =>
      cases explicit with
      | true => simp [not_meets_error]
      | false =>
          simp only [Bool.or_self, Bool.false_eq_true, if_false, true_and]
          exact meets_ok rfl

end Meets

section Kept
variable {probes : TransportProbes} {confText : String} {tunnel : TunnelTransportConfig}

theorem asked_of_written {preference : TransportPreference}
    (h : writtenPreference confText tunnel = preference) (hnot : preference ≠ .auto) :
    (tunnelInputs confText tunnel).asked = preference := by
  have hhints := hints_preference confText
  rw [writtenPreference] at h
  rw [TransportInputs.asked]
  change tunnel.preference.orElse (transportHintsFromConf confText).preference = preference
  cases hpref : tunnel.preference with
  | auto =>
      rw [hpref, TransportPreference.auto_orElse] at h
      rw [TransportPreference.auto_orElse, hhints]
      dsimp only
      rw [h, if_pos hnot]
  | directUdp =>
      rw [hpref] at h
      exact h
  | phantun =>
      rw [hpref] at h
      exact h
  | lwo =>
      rw [hpref] at h
      exact h

theorem asked_of_auto (h : writtenPreference confText tunnel = .auto) :
    (tunnelInputs confText tunnel).asked =
      if (parseRouteguardSection confText).remoteTcp.isSome then .phantun
      else if confWantsLwo confText then .lwo
      else .auto := by
  obtain ⟨hpref, htransport⟩ := TransportPreference.orElse_eq_auto.mp h
  have hnot : ((parseRouteguardSection confText).transport == some .lwo) = false := by
    cases hsome : (parseRouteguardSection confText).transport with
    | none => rfl
    | some preference =>
        rw [hsome, Option.getD_some] at htransport
        rw [htransport]
        rfl
  rw [TransportInputs.asked]
  change tunnel.preference.orElse (transportHintsFromConf confText).preference = _
  rw [hpref, TransportPreference.auto_orElse, hints_preference, confWantsLwo]
  dsimp only
  rw [if_neg (not_not.mpr htransport), hnot, Bool.or_false]

theorem resolve_tunnel {preference : TransportPreference}
    (h : (tunnelInputs confText tunnel).asked = preference) (hnot : preference ≠ .auto) :
    resolveTransport probes confText tunnel none none =
      (tunnelInputs confText tunnel).resolveAsked probes
        (tunnel.over (transportHintsFromConf confText)) preference :=
  TransportInputs.resolve_asked probes (tunnelInputs confText tunnel) h hnot

theorem resolve_tunnel_auto (h : (tunnelInputs confText tunnel).asked = .auto)
    (hflag : tunnel.requireLwo = false) :
    resolveTransport probes confText tunnel none none =
      let merged := tunnel.over (transportHintsFromConf confText)
      if tunnel.lwo.isSome then resolveLwo probes confText merged false
      else if tunnel.phantun.isSome then resolvePhantun probes merged false
      else .ok (⟨.directUdp, false, none, none⟩, .directUdp, merged) := by
  refine (TransportInputs.resolve_auto probes (tunnelInputs confText tunnel) h).trans ?_
  obtain ⟨hlwoFlag, -⟩ := (tunnelInputs confText tunnel).selectorConfig_flags
  have hunset : (tunnelInputs confText tunnel).upper.requireLwo = false := hflag
  dsimp only
  rw [hlwoFlag, hunset, Bool.and_false, if_neg (by simp)]
  rfl

theorem tunnel_valid_iff : (lwoValidation probes confText
    (tunnel.over (transportHintsFromConf confText))).valid = true ↔
      (tunnelInputs confText tunnel).LwoUsable probes :=
  (tunnelInputs confText tunnel).valid_iff probes

theorem tunnel_flags (hphantun : tunnel.requirePhantun = false) (hlwo : tunnel.requireLwo = false) :
    (tunnel.over (transportHintsFromConf confText)).requireLwo = false ∧
      (tunnel.over (transportHintsFromConf confText)).requirePhantun = false := by
  obtain ⟨hlwoFlag, hphantunFlag⟩ := (tunnelInputs confText tunnel).selectorConfig_flags
  exact ⟨hlwoFlag.trans hlwo, hphantunFlag.trans hphantun⟩

theorem meets_sections_iff (hphantun : tunnel.requirePhantun = false)
    (hlwo : tunnel.requireLwo = false) (hasked : (tunnelInputs confText tunnel).asked = .auto) :
    Meets (if tunnel.lwo.isSome then (.lwo, false)
        else if tunnel.phantun.isSome then orDirect .phantun probes.phantunBinary
        else (.directUdp, false)) (resolveTransport probes confText tunnel none none) ↔
      (tunnel.lwo.isSome = true → (tunnelInputs confText tunnel).LwoUsable probes) := by
  have hflags := @tunnel_flags confText tunnel hphantun hlwo
  rw [resolve_tunnel_auto hasked hlwo, ← tunnel_valid_iff]
  dsimp only
  cases tunnel.lwo.isSome with
  | true =>
      simp only [if_true, meets_resolveLwo hflags.1]
      cases (lwoValidation probes confText
        (tunnel.over (transportHintsFromConf confText))).valid <;> simp
  | false =>
      simp only [Bool.false_eq_true, if_false, false_implies, iff_true]
      cases tunnel.phantun.isSome with
      | true =>
          simp only [if_true, meets_resolvePhantun hflags.2, orDirect]
          cases probes.phantunBinary <;> simp
      | false => exact (meets_ok rfl).mpr rfl

theorem meets_auto_iff (hphantun : tunnel.requirePhantun = false)
    (hlwo : tunnel.requireLwo = false) (hwritten : writtenPreference confText tunnel = .auto) :
    Meets (if lwoHints confText tunnel then (.lwo, false)
        else if phantunHints confText tunnel then orDirect .phantun probes.phantunBinary
        else (.directUdp, false)) (resolveTransport probes confText tunnel none none) ↔
      if (parseRouteguardSection confText).remoteTcp.isSome then
        lwoHints confText tunnel = false ∧ probes.phantunBinary = true
      else lwoHints confText tunnel = true → (tunnelInputs confText tunnel).LwoUsable probes := by
  have hflags := @tunnel_flags confText tunnel hphantun hlwo
  have hasked := asked_of_auto hwritten
  cases htcp : (parseRouteguardSection confText).remoteTcp.isSome with
  | true =>
      -- a remote for Phantun makes Phantun the preference, whatever else is hinted at
      have hwants : phantunHints confText tunnel = true := by
        rw [phantunHints, confWantsPhantun, htcp]
        simp
      rw [htcp, if_pos rfl] at hasked
      rw [resolve_tunnel hasked (by simp), if_pos rfl, hwants]
      refine (meets_resolvePhantun hflags.2).trans ?_
      cases lwoHints confText tunnel <;> cases probes.phantunBinary <;> simp [orDirect]
  | false =>
      rw [htcp, if_neg (by simp)] at hasked
      simp only [Bool.false_eq_true, if_false]
      cases hwants : confWantsLwo confText with
      | true =>
          have hhints : lwoHints confText tunnel = true := by
            rw [lwoHints, hwants, Bool.or_true]
          rw [hwants, if_pos rfl] at hasked
          rw [resolve_tunnel hasked (by simp), hhints, ← tunnel_valid_iff]
          refine (@meets_resolveLwo probes confText _ _ _ hflags.1).trans ?_
          cases (lwoValidation probes confText
            (tunnel.over (transportHintsFromConf confText))).valid <;> simp
      | false =>
          rw [hwants, if_neg (by simp)] at hasked
          have hhints : (transportHintsFromConf confText).preference = .auto :=
            (TransportPreference.orElse_eq_auto.mp hasked).2
          rw [lwoHints, hwants, Bool.or_false, phantunHints, (wants_of_auto hhints).2,
            Bool.or_false]
          exact meets_sections_iff hphantun hlwo hasked

/-- Without required transports, the selector keeps to the table exactly under the condition. -/
theorem meets_documented_iff (probes : TransportProbes) (confText : String)
    (tunnel : TunnelTransportConfig) (hphantun : tunnel.requirePhantun = false)
    (hlwo : tunnel.requireLwo = false) :
    Meets (documentedOutcome probes confText tunnel)
        (resolveTransport probes confText tunnel none none) ↔
      TableKept probes confText tunnel := by
  have hflags := @tunnel_flags confText tunnel hphantun hlwo
  have hvalid := @tunnel_valid_iff probes confText tunnel
  rw [documentedOutcome, TableKept]
  cases hwritten : writtenPreference confText tunnel with
  | directUdp =>
      rw [resolve_tunnel (asked_of_written hwritten (by simp)) (by simp)]
      exact (meets_ok rfl).trans (by simp)
  | lwo =>
      rw [resolve_tunnel (asked_of_written hwritten (by simp)) (by simp)]
      refine (@meets_resolveLwo probes confText _ _ _ hflags.1).trans ?_
      dsimp only
      rw [← hvalid]
      cases hok : (lwoValidation probes confText
        (tunnel.over (transportHintsFromConf confText))).valid with
      | true =>
          have hkeys : keysValid probes confText = true := (hvalid.mp hok).1
          simp [orDirect, hkeys]
      | false => simp
  | phantun =>
      rw [resolve_tunnel (asked_of_written hwritten (by simp)) (by simp)]
      refine (meets_resolvePhantun hflags.2).trans ?_
      cases probes.phantunBinary <;> simp [orDirect]
  | auto => exact meets_auto_iff hphantun hlwo hwritten

theorem plainText_section : parseRouteguardSection TransportInputs.plainText = {} := by
  decide

theorem meets_documented_plain :
    Meets (.directUdp, false) (resolveTransport ⟨Lwo.referenceEngine, id, true⟩
      TransportInputs.plainText {} none none) := by
  have hwritten : writtenPreference TransportInputs.plainText {} = .auto := by
    rw [writtenPreference, plainText_section]
    rfl
  have hhints : lwoHints TransportInputs.plainText {} = false ∧
      phantunHints TransportInputs.plainText {} = false := by
    rw [lwoHints, phantunHints, confWantsLwo, confWantsPhantun, plainText_section]
    exact ⟨rfl, rfl⟩
  have hmeets := (meets_documented_iff ⟨Lwo.referenceEngine, id, true⟩ TransportInputs.plainText {}
    rfl rfl).mpr (by
      rw [TableKept, hwritten, plainText_section, hhints.1]
      simp)
  rw [documentedOutcome, hwritten, hhints.1, hhints.2] at hmeets
  exact hmeets

def bothText : String := "[RouteGuard]\nRemoteTCP = 1.2.3.4:443\nRemoteUDP = 1.2.3.4:51820\n"

/-- LWO does not win over Phantun where both have a remote in the text. -/
theorem documented_not_met : ¬∀ (probes : TransportProbes) (confText : String)
    (tunnel : TunnelTransportConfig), tunnel.requirePhantun = false → tunnel.requireLwo = false →
    Meets (documentedOutcome probes confText tunnel)
      (resolveTransport probes confText tunnel none none) := by
  intro h
  have hsection : parseRouteguardSection bothText =
      { remoteTcp := some "1.2.3.4:443", remoteUdp := some "1.2.3.4:51820" } := by
    decide
  have hwritten : writtenPreference bothText {} = .auto := by
    rw [writtenPreference, hsection]
    rfl
  have hhints : lwoHints bothText {} = true := by
    rw [lwoHints, confWantsLwo, hsection]
    rfl
  have hmeets := h ⟨Lwo.referenceEngine, id, true⟩ bothText {} rfl rfl
  rw [documentedOutcome, hwritten] at hmeets
  have hkept := (meets_auto_iff rfl rfl hwritten).mp hmeets
  rw [hsection, hhints] at hkept
  cases hkept.1

end Kept

end RouteGuard
