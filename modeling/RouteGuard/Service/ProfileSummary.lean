import RouteGuard.Service.ProfileImport
import RouteGuard.Service.TransportTable

/-! # The summary of a profile

The summary names the transport of a profile by rules of its own: the kind by
the preference, then by the hints of the text; the remote by the first section
that has one.  It agrees with the connection where these rules come to what the
selector and the backend come to. -/
set_option autoImplicit false
namespace RouteGuard

def resolvePhantunRemoteTcp (cfg : TunnelTransportConfig) (peerEndpoint : ScopedSocketAddr) :
    Except RouteGuardError ScopedSocketAddr :=
  match cfg.phantun.bind PhantunTransportConfig.remoteTcp with
  | none => .ok peerEndpoint
  | some s =>
      match ScopedSocketAddr.parse s with
      | some remote => .ok remote
      | none => .error (.config "invalid remote_tcp: invalid socket address syntax")

def backendRemote (choice : TransportChoice) (merged : TunnelTransportConfig)
    (peerEndpoint : ScopedSocketAddr) : Except RouteGuardError ScopedSocketAddr :=
  match choice with
  | .directUdp => .ok peerEndpoint
  | .phantun => resolvePhantunRemoteTcp merged peerEndpoint
  | .lwo => Lwo.resolveLwoRemoteUdp merged peerEndpoint

/-! ## Agreement -/

section Agreement
variable (probes : TransportProbes) (params : ProfileImportParams)

/-- The remote is the one that the backend uses for the peer of the text. -/
def RemoteUsed (choice : TransportChoice) (merged : TunnelTransportConfig)
    (remote : ScopedSocketAddr) : Prop :=
  ∀ peer ∈ parsePeerEndpoint ScopedSocketAddr.parse params.confText,
    backendRemote choice merged peer = .ok remote

/-- A connection without override, with the stored transport as the tunnel's and the profile's,
selects the kind of the summary, and a remote in the summary is the one it uses. -/
def SummaryAgrees : Prop :=
  ∃ resolved choice merged recorded,
    resolveTransport probes params.confText (mergedTransport params)
        (some (mergedTransport params)) none = .ok (resolved, choice, merged) ∧
      importSummary params = transportSummary resolved.kind recorded ∧
      ∀ remote ∈ recorded, RemoteUsed params choice merged remote

/-- Where the rules of the summary come to what is connected. -/
def SummaryKept : Prop :=
  let merged := mergedTransport params
  match merged.preference with
  | .phantun => ∀ remote ∈ lwoRemote merged, RemoteUsed params .phantun merged remote
  | .lwo => lwoRemote merged = none →
      ∀ remote ∈ phantunRemote merged, RemoteUsed params .lwo merged remote
  | .directUdp => (transportHintsFromConf params.confText).lwo = none ∧
      (transportHintsFromConf params.confText).phantun = none
  | .auto => merged.lwo = none ∧ merged.phantun = none ∨
      merged.lwo.isSome = true ∧ keysValid probes params.confText = false ∧
        merged.requireLwo = false

end Agreement

/-! ## Reading a summary -/

section Reading

theorem toString_inj {a b : ScopedSocketAddr} (h : toString a = toString b) : a = b := by
  have hparse := ScopedSocketAddr.readsBack.parse_toString a
  rw [h, ScopedSocketAddr.readsBack.parse_toString b] at hparse
  exact (Option.some.inj hparse).symm

theorem head_elim {name arrow : String} {first : Char} (hname : name.toList.head? = some first)
    (harrow : arrow.toList.head? = some first) (remote : Option ScopedSocketAddr) :
    (remote.elim name fun a => arrow ++ toString a).toList.head? = some first := by
  cases remote with
  | none => exact hname
  | some a => rw [Option.elim_some, String.toList_append, List.head?_append, harrow, Option.some_or]

theorem head_transportSummary (kind : TransportKind) (remote : Option ScopedSocketAddr) :
    (transportSummary kind remote).toList.head? =
      match kind with
      | .directUdp => some 'd'
      | .phantun => some 'p'
      | .lwo => some 'l' := by
  cases kind with
  | directUdp =>
      change "direct_udp".toList.head? = some 'd'
      decide
  | phantun => exact head_elim (by decide) (by decide) remote
  | lwo => exact head_elim (by decide) (by decide) remote

theorem elim_inj {name arrow : String} (hname : name.toList.length < arrow.toList.length)
    {remote remote' : Option ScopedSocketAddr}
    (h : remote.elim name (fun a => arrow ++ toString a) =
      remote'.elim name fun a => arrow ++ toString a) : remote = remote' := by
  have hlist := congrArg String.toList h
  rcases remote with _ | a <;> rcases remote' with _ | b
  · rfl
  · have hlength := congrArg List.length hlist
    simp only [Option.elim_none, Option.elim_some, String.toList_append, List.length_append]
      at hlength
    omega
  · have hlength := congrArg List.length hlist
    simp only [Option.elim_none, Option.elim_some, String.toList_append, List.length_append]
      at hlength
    omega
  · simp only [Option.elim_some, String.toList_append, List.append_cancel_left_eq,
      String.toList_inj] at hlist
    rw [toString_inj hlist]

theorem transportSummary_inj {kind kind' : TransportKind}
    {remote remote' : Option ScopedSocketAddr} :
    transportSummary kind remote = transportSummary kind' remote' ↔
      kind = kind' ∧ (kind = .directUdp ∨ remote = remote') := by
  constructor
  · intro h
    have hkind : kind = kind' := by
      have hhead := congrArg (fun text => text.toList.head?) h
      rw [head_transportSummary, head_transportSummary] at hhead
      cases kind <;> cases kind' <;> first | rfl | simp at hhead
    subst hkind
    refine ⟨rfl, ?_⟩
    cases kind with
    | directUdp => exact Or.inl rfl
    | phantun => exact Or.inr (elim_inj (by decide) h)
    | lwo => exact Or.inr (elim_inj (by decide) h)
  · rintro ⟨rfl, rfl | rfl⟩ <;> rfl

end Reading

/-! ## The connection of an imported profile -/

section Connection
variable {probes : TransportProbes} {params : ProfileImportParams}

def importedInputs (params : ProfileImportParams) : TransportInputs where
  confText := params.confText
  tunnel := mergedTransport params
  profile := some (mergedTransport params)

theorem upper_imported : (importedInputs params).upper = mergedTransport params :=
  (mergedTransport params).over_self

theorem merged_imported :
    (mergedTransport params).over (importedInputs params).hints = mergedTransport params :=
  mergeTransportConfig_over _ _ _

theorem asked_imported : (importedInputs params).asked = (mergedTransport params).preference := by
  rw [TransportInputs.asked, upper_imported]
  exact congrArg TunnelTransportConfig.preference merged_imported

theorem resolve_imported {preference : TransportPreference}
    (h : (mergedTransport params).preference = preference) (hnot : preference ≠ .auto) :
    (importedInputs params).resolve probes =
      (importedInputs params).resolveAsked probes (mergedTransport params) preference := by
  rw [TransportInputs.resolve_asked probes _ (asked_imported.trans h) hnot, upper_imported,
    merged_imported]

theorem agrees_iff_of_ok {resolved : ResolvedTransport} {choice : TransportChoice}
    {merged : TunnelTransportConfig}
    (h : (importedInputs params).resolve probes = .ok (resolved, choice, merged)) :
    SummaryAgrees probes params ↔ importKind params = resolved.kind ∧
      (importKind params = .directUdp ∨
        ∀ remote ∈ importRemote params, RemoteUsed params choice merged remote) := by
  constructor
  · rintro ⟨resolved', choice', merged', recorded, hresolve, hsummary, hused⟩
    cases h.symm.trans hresolve
    obtain ⟨hkind, hremote⟩ := transportSummary_inj.mp hsummary
    refine ⟨hkind, hremote.imp_right fun hsame => ?_⟩
    rw [hsame]
    exact hused
  · rintro ⟨hkind, hremote⟩
    rcases hremote with hdirect | hused
    · refine ⟨resolved, choice, merged, none, h, ?_, fun remote hremote => by cases hremote⟩
      exact transportSummary_inj.mpr ⟨hkind, Or.inl hdirect⟩
    · refine ⟨resolved, choice, merged, importRemote params, h, ?_, hused⟩
      exact transportSummary_inj.mpr ⟨hkind, Or.inr rfl⟩

theorem not_agrees_of_error {e : RouteGuardError}
    (h : (importedInputs params).resolve probes = .error e) : ¬SummaryAgrees probes params := by
  rintro ⟨resolved, choice, merged, recorded, hresolve, -⟩
  cases h.symm.trans hresolve

theorem accepted_transport (h : (importValidation probes params).valid = true) :
    (transportValidation probes params.confText (mergedTransport params)).issues = [] := by
  have hmerged : mergeTransportConfig (transportHintsFromConf params.confText)
      (some (mergedTransport params)) none = mergedTransport params := by
    rw [mergeTransportConfig_eq]
    exact merged_imported
  rw [importValidation, validateConfText_valid_iff, hmerged] at h
  exact h.2.2.2

theorem accepted_lwo (h : (importValidation probes params).valid = true)
    (hpreference : (mergedTransport params).preference = .lwo) :
    (lwoValidation probes params.confText (mergedTransport params)).valid = true := by
  have hissues := accepted_transport h
  rw [transportValidation, hpreference] at hissues
  rw [lwoValidation, Lwo.validate, List.isEmpty_iff]
  exact hissues

theorem accepted_endpoint (h : (importValidation probes params).valid = true)
    (hpreference : (mergedTransport params).preference = .auto) :
    (parsePeerEndpoint ScopedSocketAddr.parse params.confText).isSome = true := by
  have hissues := accepted_transport h
  rw [transportValidation, hpreference] at hissues
  dsimp only [directUdpValidation] at hissues
  by_contra hnone
  rw [if_neg hnone] at hissues
  cases hissues

theorem remoteUsed_phantun {remote : ScopedSocketAddr}
    (h : phantunRemote (mergedTransport params) = some remote) :
    RemoteUsed params .phantun (mergedTransport params) remote := by
  intro peer _
  obtain ⟨text, htext, hparse⟩ := Option.bind_eq_some_iff.mp h
  rw [backendRemote, resolvePhantunRemoteTcp, htext]
  dsimp only
  rw [hparse]

theorem remoteUsed_lwo {remote : ScopedSocketAddr}
    (h : lwoRemote (mergedTransport params) = some remote) :
    RemoteUsed params .lwo (mergedTransport params) remote := by
  intro peer _
  obtain ⟨text, htext, hparse⟩ := Option.bind_eq_some_iff.mp h
  rw [backendRemote, Lwo.resolveLwoRemoteUdp, htext]
  dsimp only
  rw [hparse]

theorem noHints_of_auto (h : (mergedTransport params).preference = .auto) :
    (transportHintsFromConf params.confText).lwo = none ∧
      (transportHintsFromConf params.confText).phantun = none := by
  have hasked : (importedInputs params).asked = .auto := asked_imported.trans h
  have hhints : (transportHintsFromConf params.confText).preference = .auto :=
    (TransportPreference.orElse_eq_auto.mp hasked).2
  obtain ⟨hlwo, hphantun⟩ := wants_of_auto hhints
  constructor
  · rw [← Option.not_isSome_iff_eq_none, hints_lwo_isSome, hlwo]
    decide
  · rw [← Option.not_isSome_iff_eq_none, hints_phantun_isSome]
    rw [confWantsPhantun, Bool.or_eq_false_iff] at hphantun
    rw [hphantun.1]
    decide

theorem importKind_of_noHints (hpreference : (mergedTransport params).preference = .auto ∨
      (mergedTransport params).preference = .directUdp) :
    importKind params = .directUdp ↔ (transportHintsFromConf params.confText).lwo = none ∧
      (transportHintsFromConf params.confText).phantun = none := by
  rw [importKind]
  rcases hpreference with h | h <;> rw [h] <;> dsimp only <;>
    cases (transportHintsFromConf params.confText).lwo <;>
    cases (transportHintsFromConf params.confText).phantun <;> simp

theorem agrees_phantun_iff (hbinary : probes.phantunBinary = true)
    (hpreference : (mergedTransport params).preference = .phantun) :
    SummaryAgrees probes params ↔ ∀ remote ∈ lwoRemote (mergedTransport params),
      RemoteUsed params .phantun (mergedTransport params) remote := by
  have hresolve := @resolve_imported probes params _ hpreference (by simp)
  rw [TransportInputs.resolveAsked, resolvePhantun, if_pos hbinary] at hresolve
  have hkind : importKind params = .phantun := by
    rw [importKind, hpreference]
  rw [agrees_iff_of_ok hresolve, hkind, importRemote]
  cases hlwo : lwoRemote (mergedTransport params) with
  | some remote => simp
  | none =>
      have hused : ∀ remote ∈ phantunRemote (mergedTransport params),
          RemoteUsed params .phantun (mergedTransport params) remote :=
        fun remote hremote => remoteUsed_phantun hremote
      simpa using hused

theorem agrees_lwo_iff (haccepted : (importValidation probes params).valid = true)
    (hpreference : (mergedTransport params).preference = .lwo) :
    SummaryAgrees probes params ↔ (lwoRemote (mergedTransport params) = none →
      ∀ remote ∈ phantunRemote (mergedTransport params),
        RemoteUsed params .lwo (mergedTransport params) remote) := by
  have hresolve := @resolve_imported probes params _ hpreference (by simp)
  have hvalid : (lwoValidation probes (importedInputs params).confText
      (mergedTransport params)).valid = true := accepted_lwo haccepted hpreference
  rw [TransportInputs.resolveAsked, resolveLwo, hvalid] at hresolve
  have hkind : importKind params = .lwo := by
    rw [importKind, hpreference]
  rw [agrees_iff_of_ok hresolve, hkind, importRemote]
  cases hlwo : lwoRemote (mergedTransport params) with
  | some remote => simp [remoteUsed_lwo hlwo]
  | none => simp

theorem agrees_directUdp_iff (hpreference : (mergedTransport params).preference = .directUdp) :
    SummaryAgrees probes params ↔ (transportHintsFromConf params.confText).lwo = none ∧
      (transportHintsFromConf params.confText).phantun = none := by
  have hresolve := @resolve_imported probes params _ hpreference (by simp)
  rw [agrees_iff_of_ok hresolve, ← importKind_of_noHints (Or.inr hpreference)]
  exact ⟨fun h => h.1, fun h => ⟨h, Or.inl h⟩⟩

theorem agrees_of_direct (hkind : importKind params = .directUdp) {fallback : Bool}
    {reason : Option String} {requested : Option TransportKind}
    (h : (importedInputs params).resolve probes =
      .ok (⟨.directUdp, fallback, reason, requested⟩, .directUdp, mergedTransport params)) :
    SummaryAgrees probes params :=
  (agrees_iff_of_ok h).mpr ⟨hkind, Or.inl hkind⟩

theorem not_agrees_of_other (hkind : importKind params = .directUdp) {kind : TransportKind}
    {choice : TransportChoice} (hne : kind ≠ .directUdp)
    (h : (importedInputs params).resolve probes =
      .ok (⟨kind, false, none, none⟩, choice, mergedTransport params)) :
    ¬SummaryAgrees probes params := by
  intro hagrees
  exact hne (hkind.symm.trans ((agrees_iff_of_ok h).mp hagrees).1).symm

theorem valid_imported_iff (haccepted : (importValidation probes params).valid = true)
    (hpreference : (mergedTransport params).preference = .auto) :
    (lwoValidation probes params.confText (mergedTransport params)).valid =
      keysValid probes params.confText := by
  have hvalid := (importedInputs params).valid_iff probes
  rw [upper_imported, merged_imported] at hvalid
  rw [Bool.eq_iff_iff]
  refine hvalid.trans ⟨fun h => h.1, fun h => ⟨h, Or.inr ?_⟩⟩
  exact accepted_endpoint haccepted hpreference

/-- An LWO section that only the import has is not seen by the summary. -/
theorem agrees_auto_lwo_iff (haccepted : (importValidation probes params).valid = true)
    (hpreference : (mergedTransport params).preference = .auto)
    (hkind : importKind params = .directUdp)
    (hlwo : (mergedTransport params).lwo.isSome = true) :
    SummaryAgrees probes params ↔ keysValid probes params.confText = false ∧
      (mergedTransport params).requireLwo = false := by
  have hresolve := TransportInputs.resolve_auto probes (importedInputs params)
    (asked_imported.trans hpreference)
  have hvalid : (lwoValidation probes (importedInputs params).confText
      (mergedTransport params)).valid = keysValid probes params.confText :=
    valid_imported_iff haccepted hpreference
  rw [upper_imported, merged_imported] at hresolve
  simp only [hlwo, Bool.true_and, if_true, resolveLwo, hvalid] at hresolve
  cases hflag : (mergedTransport params).requireLwo with
  | true =>
      have hnot : ¬SummaryAgrees probes params := by
        simp only [hflag, Bool.and_true, Bool.true_or, if_true] at hresolve
        split_ifs at hresolve with hconflict hinvalid
        · exact not_agrees_of_error hresolve
        · exact not_agrees_of_error hresolve
        · exact not_agrees_of_other hkind (by simp) hresolve
      simpa using hnot
  | false =>
      simp only [hflag, Bool.and_false, Bool.or_false, Bool.false_eq_true, if_false] at hresolve
      cases hkeys : keysValid probes params.confText with
      | true =>
          rw [hkeys, Bool.not_true, if_neg (by simp)] at hresolve
          simpa using not_agrees_of_other hkind (by simp) hresolve
      | false =>
          rw [hkeys, Bool.not_false, if_pos rfl] at hresolve
          simpa using agrees_of_direct hkind hresolve

/-- Without a preference the summary is the one of direct UDP, whatever sections the import has. -/
theorem agrees_auto_iff (hbinary : probes.phantunBinary = true)
    (haccepted : (importValidation probes params).valid = true)
    (hpreference : (mergedTransport params).preference = .auto) :
    SummaryAgrees probes params ↔
      (mergedTransport params).lwo = none ∧ (mergedTransport params).phantun = none ∨
        (mergedTransport params).lwo.isSome = true ∧ keysValid probes params.confText = false ∧
          (mergedTransport params).requireLwo = false := by
  have hkind : importKind params = .directUdp :=
    (importKind_of_noHints (Or.inl hpreference)).mpr (noHints_of_auto hpreference)
  cases hlwo : (mergedTransport params).lwo with
  | some lwo =>
      have hsome : (mergedTransport params).lwo.isSome = true := by
        rw [hlwo]
        rfl
      rw [agrees_auto_lwo_iff haccepted hpreference hkind hsome]
      simp
  | none =>
      have hresolve := TransportInputs.resolve_auto probes (importedInputs params)
        (asked_imported.trans hpreference)
      rw [upper_imported, merged_imported] at hresolve
      simp only [hlwo, Option.isSome_none, Bool.false_and, Bool.false_eq_true, if_false] at hresolve
      cases hphantun : (mergedTransport params).phantun with
      | none =>
          rw [hphantun] at hresolve
          simpa using agrees_of_direct hkind hresolve
      | some phantun =>
          rw [hphantun] at hresolve
          simp only [Option.isSome_some, if_true, resolvePhantun, hbinary] at hresolve
          simpa using not_agrees_of_other hkind (by simp) hresolve

/-- The summary of an accepted import agrees with its connection exactly under the condition. -/
theorem summaryAgrees_iff (probes : TransportProbes) (params : ProfileImportParams)
    (hbinary : probes.phantunBinary = true)
    (haccepted : (importValidation probes params).valid = true) :
    SummaryAgrees probes params ↔ SummaryKept probes params := by
  rw [SummaryKept]
  cases hpreference : (mergedTransport params).preference with
  | phantun => exact agrees_phantun_iff hbinary hpreference
  | lwo => exact agrees_lwo_iff haccepted hpreference
  | directUdp => exact agrees_directUdp_iff hpreference
  | auto => exact agrees_auto_iff hbinary haccepted hpreference

end Connection

/-! ## Two imports -/

section Imports

def profileText : String := "[Interface]\nPrivateKey = x\n[Peer]\nEndpoint = 1.2.3.4:51820\n"

def exampleImport (phantun : Option PhantunTransportConfig) : ProfileImportParams :=
  { confText := profileText, transport := some { phantun := phantun } }

def exampleProbes : TransportProbes := ⟨Lwo.referenceEngine, id, true⟩

theorem profileText_hints : transportHintsFromConf profileText = {} := by
  have hsection : parseRouteguardSection profileText = {} := by
    decide +kernel
  rw [transportHintsFromConf, hsection]
  rfl

theorem exampleImport_merged (phantun : Option PhantunTransportConfig) :
    mergedTransport (exampleImport phantun) = { phantun := phantun } := by
  rw [mergedTransport, exampleImport, profileText_hints, mergeTransportConfig_eq]
  cases phantun <;> rfl

theorem exampleImport_accepted (phantun : Option PhantunTransportConfig) :
    (importValidation exampleProbes (exampleImport phantun)).valid = true := by
  have hkey : containsText (toAsciiLowercase profileText) "privatekey" = true := by
    decide +kernel
  have hawg : parseAwgFromConf profileText = {} := by
    decide +kernel
  have hendpoint : (parsePeerEndpoint ScopedSocketAddr.parse profileText).isSome = true := by
    decide +kernel
  have hmerged : mergeTransportConfig {} (some { phantun := phantun }) none =
      { phantun := phantun } := by
    rw [mergeTransportConfig_eq]
    cases phantun <;> rfl
  rw [importValidation, exampleImport_merged, validateConfText_valid_iff]
  refine ⟨hkey, ?_, (fun h => by cases h.1), ?_⟩
  · rw [exampleImport, hawg]
    rfl
  · rw [exampleImport, profileText_hints, hmerged, transportValidation]
    dsimp only [directUdpValidation]
    rw [hendpoint, if_pos rfl]

theorem summaryAgrees_plain : SummaryAgrees exampleProbes (exampleImport none) := by
  refine (summaryAgrees_iff exampleProbes _ rfl (exampleImport_accepted none)).mpr ?_
  rw [SummaryKept, exampleImport_merged]
  exact Or.inl ⟨rfl, rfl⟩

/-- A Phantun section of the import is connected over, and the summary says direct UDP. -/
theorem summary_not_agrees : ¬∀ (probes : TransportProbes) (params : ProfileImportParams),
    probes.phantunBinary = true → (importValidation probes params).valid = true →
    SummaryAgrees probes params := by
  intro h
  have haccepted := exampleImport_accepted (some {})
  have hpreference : (mergedTransport (exampleImport (some {}))).preference = .auto := by
    rw [exampleImport_merged]
  have hagrees := h exampleProbes (exampleImport (some {})) rfl haccepted
  rw [agrees_auto_iff rfl haccepted hpreference, exampleImport_merged] at hagrees
  simp at hagrees

end Imports

end RouteGuard
