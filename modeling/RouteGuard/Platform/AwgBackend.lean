import RouteGuard.Lib.FirstError
import RouteGuard.Platform.WgBuffer

/-! # Bringing up the AWG backend

`AwgBackend::up` of `awg/mod.rs` checks the obfuscation parameters of a text and
leaves the rest to `up_impl` of `tunnel.rs`, which reads the text again. -/
set_option autoImplicit false
namespace RouteGuard

def Abort.mapError {E F : Type} (f : E → F) : Abort E → Abort F
  | .error e => .error (f e)
  | .panicked => .panicked

section Up
variable (parseNet : String → Except String IpNet)

/-- The buffer that `up_impl` hands to `set_configuration` of the open adapter. -/
def wireConfig (mem : Nat → UInt8) (text : String) : Except (Abort RouteGuardError) (List UInt8) :=
  match parseConfText parseNet text with
  | .error e => .error (e.mapError fun e => .tunnel e.toString)
  | .ok parsed =>
      match serializeInterface mem parsed with
      | .error e => .error (e.mapError fun e => .tunnel e.toString)
      | .ok buffer => .ok buffer

variable (issuesText : List ValidationIssue → String)

/-- The buffer of `AwgBackend::up`; `issuesText` is the `Debug` text of the issues. -/
def awgUp (mem : Nat → UInt8) (text : String) : Except (Abort RouteGuardError) (List UInt8) :=
  match validateAwgParamsStrict (parseAwgFromConf text) with
  | .error issues => .error (.error (.config ("AWG validation: " ++ issuesText issues)))
  | .ok _ => wireConfig parseNet mem text

def AwgAccepted (text : String) : Prop :=
  ∃ mem buffer, awgUp parseNet issuesText mem text = .ok buffer

/-- What the text says in the fields that the buffer has a place for. -/
def wireguardFields (text : String) :
    Option (Option WireguardKey × Option UInt16 × List ParsedPeer) :=
  (parseConfText parseNet text).toOption.map ParsedConf.wireguard

/-- Unequal parameters make unequal buffers, whatever the bytes hold that are not written. -/
def ParamsReach (text text' : String) : Prop :=
  parseAwgFromConf text ≠ parseAwgFromConf text' →
    ∀ mem mem', awgUp parseNet issuesText mem text ≠ awgUp parseNet issuesText mem' text'

variable {parseNet issuesText}

theorem wireConfig_of_parsed (mem : Nat → UInt8) {text : String} {conf : ParsedConf}
    (hparse : parseConfText parseNet text = .ok conf) (hpeers : conf.peers ≠ []) :
    ∃ buffer, serializeInterface mem conf = .ok buffer ∧
      wireConfig parseNet mem text = .ok buffer := by
  have hbuffer := serializeInterface_eq mem conf hpeers
  refine ⟨_, hbuffer, ?_⟩
  rw [wireConfig, hparse]
  dsimp only
  rw [hbuffer]

theorem parsed_of_wireConfig {mem : Nat → UInt8} {text : String} {buffer : List UInt8}
    (h : wireConfig parseNet mem text = .ok buffer) :
    ∃ conf, parseConfText parseNet text = .ok conf ∧ conf.peers ≠ [] := by
  rw [wireConfig] at h
  cases hparse : parseConfText parseNet text with
  | error e =>
      rw [hparse] at h
      cases h
  | ok conf =>
      refine ⟨conf, rfl, fun hnil => ?_⟩
      rw [hparse] at h
      dsimp only at h
      rw [serializeInterface_nil mem conf hnil] at h
      cases h

/-- An accepted text is a configuration with a peer, and of its parameters the buffer shows
nothing. -/
theorem AwgAccepted.parsed {text : String} (h : AwgAccepted parseNet issuesText text) :
    ∃ conf, parseConfText parseNet text = .ok conf ∧ conf.peers ≠ [] ∧
      ∀ mem, ∃ buffer, serializeInterface mem conf = .ok buffer ∧
        awgUp parseNet issuesText mem text = .ok buffer := by
  obtain ⟨mem, buffer, hup⟩ := h
  unfold awgUp at hup
  cases hvalid : validateAwgParamsStrict (parseAwgFromConf text) with
  | error issues =>
      rw [hvalid] at hup
      cases hup
  | ok _ =>
      rw [hvalid] at hup
      dsimp only at hup
      obtain ⟨conf, hparse, hpeers⟩ := parsed_of_wireConfig hup
      refine ⟨conf, hparse, hpeers, fun mem => ?_⟩
      unfold awgUp
      rw [hvalid]
      exact wireConfig_of_parsed mem hparse hpeers

/-- The buffers of two accepted texts differ exactly where the texts differ in the WireGuard
fields: the parameters do not reach the driver. -/
theorem paramsReach_iff {text text' : String} (haccepted : AwgAccepted parseNet issuesText text)
    (haccepted' : AwgAccepted parseNet issuesText text') :
    ParamsReach parseNet issuesText text text' ↔
      (parseAwgFromConf text ≠ parseAwgFromConf text' →
        wireguardFields parseNet text ≠ wireguardFields parseNet text') := by
  obtain ⟨conf, hparse, hpeers, hup⟩ := haccepted.parsed
  obtain ⟨conf', hparse', hpeers', hup'⟩ := haccepted'.parsed
  have hfields : wireguardFields parseNet text = wireguardFields parseNet text' ↔
      conf.wireguard = conf'.wireguard := by
    rw [wireguardFields, wireguardFields, hparse, hparse']
    exact Option.some_inj
  rw [ParamsReach, ne_eq (wireguardFields parseNet text), hfields]
  refine imp_congr_right fun _ => ⟨fun hdiffer hsame => ?_, fun hdiffer mem mem' heq => ?_⟩
  · obtain ⟨buffer, hbuffer, hrun⟩ := hup fun _ => 0
    obtain ⟨buffer', hbuffer', hrun'⟩ := hup' fun _ => 0
    refine hdiffer (fun _ => 0) (fun _ => 0) ?_
    have hsent := serializeInterface_congr (fun _ => 0) hsame
    rw [hbuffer, hbuffer', Except.ok.injEq] at hsent
    rw [hrun, hrun', hsent]
  · obtain ⟨buffer, hbuffer, hrun⟩ := hup mem
    obtain ⟨buffer', hbuffer', hrun'⟩ := hup' mem'
    rw [hrun, hrun', Except.ok.injEq] at heq
    subst heq
    exact hdiffer (serializeInterface_inj hpeers hpeers' (hbuffer.trans hbuffer'.symm))

end Up

/-! ## Two texts that differ in one parameter -/

def junkText (jc keepalive : String) : String :=
  "[Interface]\nPrivateKey = AAAAAAAAAAAAAAAAAAAAAAAAAAAAAAAAAAAAAAAAAAA=\nJc = " ++ jc ++
    "\nJmin = 50\nJmax = 1000\n[Peer]\nEndpoint = 127.0.0.1:51820\nAllowedIPs = 0.0.0.0/0\n" ++
      "PersistentKeepalive = " ++ keepalive ++ "\n"

def ipv4NetOf : String → Except String IpNet := Externals.asciiIpv4.parseNet

theorem awgUp_of_valid {parseNet : String → Except String IpNet}
    {issuesText : List ValidationIssue → String} {mem : Nat → UInt8} {text : String}
    (hvalid : validateAwgParams (parseAwgFromConf text) = []) :
    awgUp parseNet issuesText mem text = wireConfig parseNet mem text := by
  have hstrict : validateAwgParamsStrict (parseAwgFromConf text) = .ok () := by
    simp only [validateAwgParamsStrict, hvalid, List.isEmpty_nil, if_true]
  unfold awgUp
  rw [hstrict]

theorem AwgAccepted.of_valid {parseNet : String → Except String IpNet}
    {issuesText : List ValidationIssue → String} {text : String}
    (hvalid : validateAwgParams (parseAwgFromConf text) = [])
    (hpeers : ((parseConfText parseNet text).toOption.map ParsedConf.peers).getD [] ≠ []) :
    AwgAccepted parseNet issuesText text := by
  cases hconf : parseConfText parseNet text with
  | error e =>
      rw [hconf] at hpeers
      exact absurd rfl hpeers
  | ok conf =>
      rw [hconf] at hpeers
      obtain ⟨buffer, _, hrun⟩ := wireConfig_of_parsed (fun _ => 0) hconf hpeers
      refine ⟨fun _ => 0, buffer, ?_⟩
      rw [awgUp_of_valid hvalid]
      exact hrun

def junkHeadLines : List String :=
  ["[Interface]", "PrivateKey = AAAAAAAAAAAAAAAAAAAAAAAAAAAAAAAAAAAAAAAAAAA="]

def junkAwgLines (jc : String) : List String := ["Jc = " ++ jc, "Jmin = 50", "Jmax = 1000"]

def junkPeerLines (keepalive : String) : List String :=
  ["[Peer]", "Endpoint = 127.0.0.1:51820", "AllowedIPs = 0.0.0.0/0",
    "PersistentKeepalive = " ++ keepalive]

def junkParams (jc : UInt16) : AwgParams := { jc := some jc, jmin := some 50, jmax := some 1000 }

def junkPeer (keepalive : UInt16) : ParsedPeer where
  endpoint := some ⟨.v4 0x7f000001, 51820⟩
  allowedIps := [.v4 ⟨0, 0, Net.zero_le⟩]
  persistentKeepalive := some keepalive

def keyedScan : ConfScan where
  conf := { privateKey := some (Vector.replicate 32 0) }
  sectionName := "Interface"

def junkConf (keepalive : UInt16) : ParsedConf :=
  { keyedScan.conf with peers := [junkPeer keepalive] }

inductive JunkCase : String → UInt16 → String → UInt16 → Prop where
  | four : JunkCase "4" 4 "25" 25
  | five : JunkCase "5" 5 "25" 25
  | fiveSlow : JunkCase "5" 5 "30" 30

section Junk
variable {jc keepalive : String} {jcRead keepaliveRead : UInt16}

theorem lines_append (a b c d e f : String) : lines (a ++ b ++ c ++ d ++ e ++ f) =
    (linePieces ((a.toList ++ b.toList ++ c.toList ++ d.toList ++ e.toList ++ f.toList).splitOn
      '\n')).map String.ofList := by
  simp only [lines, String.toList_append]

theorem junkText_lines (h : JunkCase jc jcRead keepalive keepaliveRead) :
    lines (junkText jc keepalive) =
      junkHeadLines ++ (junkAwgLines jc ++ junkPeerLines keepalive) := by
  refine (lines_append _ _ _ _ _ _).trans ?_
  cases h <;> decide +kernel

theorem junkText_awg (h : JunkCase jc jcRead keepalive keepaliveRead) :
    parseAwgFromConf (junkText jc keepalive) = junkParams jcRead := by
  have hhead : junkHeadLines.foldl awgLine ({}, false) = ({}, true) := by decide +kernel
  rw [parseAwgFromConf, junkText_lines h, List.foldl_append, hhead]
  cases h <;> decide +kernel

theorem junkText_conf (h : JunkCase jc jcRead keepalive keepaliveRead) :
    parseConfText ipv4NetOf (junkText jc keepalive) = .ok (junkConf keepaliveRead) := by
  have hhead : junkHeadLines.foldlM (confLine ipv4NetOf) {} = .ok keyedScan := by decide +kernel
  have hawg : (junkAwgLines jc).foldlM (confLine ipv4NetOf) keyedScan = .ok keyedScan := by
    cases h <;> decide +kernel
  have hpeer : (junkPeerLines keepalive).foldlM (confLine ipv4NetOf) keyedScan =
      .ok { keyedScan with sectionName := "Peer", curPeer := some (junkPeer keepaliveRead) } := by
    cases h <;> decide +kernel
  have hscan : (lines (junkText jc keepalive)).foldlM (confLine ipv4NetOf) {} =
      .ok { keyedScan with sectionName := "Peer", curPeer := some (junkPeer keepaliveRead) } := by
    rw [junkText_lines h, FirstError.foldlM_append_ok _ hhead, FirstError.foldlM_append_ok _ hawg,
      hpeer]
  rw [parseConfText, hscan]
  rfl

theorem junkText_accepted (h : JunkCase jc jcRead keepalive keepaliveRead) :
    AwgAccepted ipv4NetOf (fun _ => "") (junkText jc keepalive) := by
  refine .of_valid ?_ ?_
  · rw [junkText_awg h]
    cases h <;> decide
  · rw [junkText_conf h]
    nofun

end Junk

/-- Four junk packets or five: the driver is told the same. -/
theorem junkCount_dropped :
    AwgAccepted ipv4NetOf (fun _ => "") (junkText "4" "25") ∧
      AwgAccepted ipv4NetOf (fun _ => "") (junkText "5" "25") ∧
      ¬ ParamsReach ipv4NetOf (fun _ => "") (junkText "4" "25") (junkText "5" "25") := by
  have hfour := junkText_accepted .four
  have hfive := junkText_accepted .five
  refine ⟨hfour, hfive, fun hreach => ?_⟩
  obtain ⟨conf, hconf, _, hup⟩ := hfour.parsed
  obtain ⟨conf', hconf', _, hup'⟩ := hfive.parsed
  have hsame : conf = conf' := by
    rw [junkText_conf .four, Except.ok.injEq] at hconf
    rw [junkText_conf .five, Except.ok.injEq] at hconf'
    exact hconf.symm.trans hconf'
  subst hsame
  have hparams : parseAwgFromConf (junkText "4" "25") ≠ parseAwgFromConf (junkText "5" "25") := by
    rw [junkText_awg .four, junkText_awg .five]
    decide
  obtain ⟨buffer, hbuffer, hrun⟩ := hup fun _ => 0
  obtain ⟨buffer', hbuffer', hrun'⟩ := hup' fun _ => 0
  refine hreach hparams (fun _ => 0) (fun _ => 0) ?_
  rw [hbuffer, Except.ok.injEq] at hbuffer'
  rw [hrun, hrun', hbuffer']

theorem paramsReach_iff_keepalive :
    ParamsReach ipv4NetOf (fun _ => "") (junkText "4" "25") (junkText "5" "30") := by
  have hfields : wireguardFields ipv4NetOf (junkText "4" "25") ≠
      wireguardFields ipv4NetOf (junkText "5" "30") := by
    rw [wireguardFields, wireguardFields, junkText_conf .four, junkText_conf .fiveSlow]
    decide
  exact (paramsReach_iff (junkText_accepted .four) (junkText_accepted .fiveSlow)).mpr
    fun _ => hfields

end RouteGuard
