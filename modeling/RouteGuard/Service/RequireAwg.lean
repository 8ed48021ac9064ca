import RouteGuard.Awg.Entries
import RouteGuard.Service.Ownership
import RouteGuard.Service.ProfileImport

/-! # Obfuscation that is required

`require_awg` is looked at only where a text counts as obfuscated, and it counts
as obfuscated by the parameters that are left of it: a parameter that cannot be
read is none.  Where one is left, the required backend is the only one unless
the library turns up between two looks. -/
set_option autoImplicit false
namespace RouteGuard

def awgKeys : List String := numberFields.map Prod.fst ++ headerFields.map Prod.fst

/-- The interface section has a line with a parameter's key and a value. -/
def HasAwgLine (text : String) : Prop :=
  ∃ entry ∈ awgEntries text, entry.1 ∈ awgKeys ∧ entry.2 ≠ ""

/-- The last line of some number can be read, or the last line of some header says something. -/
def ParamsSurvive (text : String) : Prop :=
  (∃ field ∈ numberFields, ∃ v ∈ lastValue field.1 (awgEntries text), (parseU16 v).isOk = true) ∨
    ∃ field ∈ headerFields, ∃ v ∈ lastValue field.1 (awgEntries text), v ≠ ""

/-- `read_conf_has_awg`, on a text or a file that cannot be read. -/
def readConfHasAwg (file : Option String) : Bool := (file.map isAwgProfile).getD false

section FailClosed

theorem isAwgProfile_iff (text : String) : isAwgProfile text = true ↔ ParamsSurvive text := by
  rw [isAwgProfile, hasAny_eq, Bool.or_eq_true, List.any_eq_true, List.any_eq_true, ParamsSurvive]
  refine or_congr (exists_congr fun field => and_congr_right fun hfield => ?_)
    (exists_congr fun field => and_congr_right fun hfield => ?_)
  · rw [number_parseAwgFromConf hfield]
    cases lastValue field.1 (awgEntries text) with
    | none => simp
    | some v =>
        cases hread : parseU16 v with
        | error e => simp [hread, Except.toOption, Except.isOk, Except.toBool]
        | ok value => simp [hread, Except.toOption, Except.isOk, Except.toBool]
  · rw [header_parseAwgFromConf hfield]
    cases lastValue field.1 (awgEntries text) with
    | none => simp [filledHeader]
    | some v => simp [filledHeader, Option.filter]

def OnlyAwg (resolution : Except RouteGuardError (ResolvedBackend × BackendChoice)) : Prop :=
  ∀ resolved choice, resolution = .ok (resolved, choice) → resolved.kind ≠ .wireGuardNt

theorem onlyAwg_iff {req : ConnectRequest} {config : TunnelConfig}
    (hbackend : config.backend = .auto) (hrequire : config.requireAwg = true) :
    OnlyAwg (resolveBackend req config) ↔
      req.confHasAwg = true ∧ (req.awgLibraryAgain = true → req.awgLibrary = true) := by
  rw [resolveBackend, hbackend, hrequire]
  dsimp only
  cases req.confHasAwg <;> cases req.awgLibrary <;> cases req.awgLibraryAgain <;>
    simp [OnlyAwg]

/-- A profile is found out, by its validation or as an obfuscated one, and is not connected over
WireGuardNT. -/
def FailsClosed (probes : TransportProbes) (text : String) (req : ConnectRequest)
    (config : TunnelConfig) : Prop :=
  (∀ backend transport, (validateConfText probes text backend transport).issues ≠ [] ∨
    isAwgProfile text = true) ∧ OnlyAwg (resolveBackend req config)

/-- Required obfuscation fails closed exactly where a parameter is left and the library does not
turn up between the looks. -/
theorem failsClosed_iff (probes : TransportProbes) (text : String) (req : ConnectRequest)
    (config : TunnelConfig) (hfile : req.confHasAwg = readConfHasAwg (some text))
    (hbackend : config.backend = .auto) (hrequire : config.requireAwg = true) :
    FailsClosed probes text req config ↔
      ParamsSurvive text ∧ (req.awgLibraryAgain = true → req.awgLibrary = true) := by
  rw [FailsClosed, onlyAwg_iff hbackend hrequire, hfile, ← isAwgProfile_iff]
  constructor
  · exact fun h => h.2
  · exact fun h => ⟨fun _ _ => Or.inr h.1, h⟩

def jcConf (jc : String) : String :=
  "[Interface]\nPrivateKey = x\nJc = " ++ jc ++ "\n[Peer]\nEndpoint = 1.2.3.4:51820\n"

def requiringAwg : TunnelConfig := { name := "wg0", configPath := "wg0.conf", requireAwg := true }

theorem failsClosed_junk : FailsClosed ⟨Lwo.referenceEngine, id, true⟩ (jcConf "4")
    { exampleConnect with confHasAwg := true } requiringAwg := by
  have hentries : awgEntries (jcConf "4") = [("privatekey", "x"), ("jc", "4")] := by
    decide +kernel
  have hsurvive : ParamsSurvive (jcConf "4") := by
    refine Or.inl ⟨("jc", AwgParams.jc), by simp [numberFields], "4", ?_, by decide⟩
    rw [hentries]
    decide
  have hfile : true = readConfHasAwg (some (jcConf "4")) :=
    ((isAwgProfile_iff (jcConf "4")).mpr hsurvive).symm
  exact (failsClosed_iff _ _ _ _ hfile rfl rfl).mpr ⟨hsurvive, fun h => by cases h⟩

/-- The only parameter is out of range, and is as if it were not there. -/
theorem required_not_failsClosed : ¬∀ (probes : TransportProbes) (text : String)
    (req : ConnectRequest) (config : TunnelConfig), HasAwgLine text →
    req.confHasAwg = readConfHasAwg (some text) → config.backend = .auto →
    config.requireAwg = true → FailsClosed probes text req config := by
  intro h
  have hentries : awgEntries (jcConf "70000") = [("privatekey", "x"), ("jc", "70000")] := by
    decide +kernel
  have hline : HasAwgLine (jcConf "70000") := by
    refine ⟨("jc", "70000"), ?_, by decide, by decide⟩
    rw [hentries]
    exact List.mem_cons_of_mem _ List.mem_cons_self
  have hnot : isAwgProfile (jcConf "70000") = false := by
    rw [isAwgProfile, parseAwgFromConf_entries, hentries]
    decide
  have hclosed := h ⟨Lwo.referenceEngine, id, true⟩ (jcConf "70000") exampleConnect requiringAwg
    hline hnot.symm rfl rfl
  cases ((onlyAwg_iff rfl rfl).mp hclosed.2).1

end FailClosed

end RouteGuard
