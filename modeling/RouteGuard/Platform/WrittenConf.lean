import RouteGuard.Platform.ConfBlocks
import RouteGuard.Platform.WgKeys

/-! # Written configurations

Texts put together from sections and lines, as the parsers find them again. -/
set_option autoImplicit false
namespace RouteGuard

open Sections FirstError

/-! ## Lines -/

/-- A line that `str::lines` gives back as it was written. -/
def KeptLine (line : String) : Prop :=
  '\n' ∉ line.toList ∧ String.ofList (stripReturn line.toList) = line

def textOf (parts : List (List String)) : String := "\n".intercalate parts.flatten ++ "\n"

/-- A section that is found again as it was written. -/
structure WrittenPart (part : List String) : Prop where
  kept : ∀ line ∈ part, KeptLine line
  isSection : IsSection isHeaderLine part

theorem flatten_ne_nil {parts : List (List String)} (hne : parts ≠ [])
    (h : ∀ part ∈ parts, WrittenPart part) : parts.flatten ≠ [] := by
  cases parts with
  | nil => exact absurd rfl hne
  | cons part rest =>
      obtain ⟨header, body, rfl, -, -⟩ := (h part List.mem_cons_self).isSection.split
      simp

theorem lines_textOf {parts : List (List String)} (hne : parts ≠ [])
    (h : ∀ part ∈ parts, WrittenPart part) : lines (textOf parts) = parts.flatten := by
  have hkept : ∀ line ∈ parts.flatten, KeptLine line := by
    intro line hmem
    obtain ⟨part, hpart, hline⟩ := List.mem_flatten.mp hmem
    exact (h part hpart).kept line hline
  rw [textOf, lines_written _ (flatten_ne_nil hne h) fun line hmem => (hkept line hmem).1]
  conv_rhs => rw [← List.map_id parts.flatten]
  exact List.map_congr_left fun line hmem => (hkept line hmem).2

theorem confParts_textOf {parts : List (List String)} (hne : parts ≠ [])
    (h : ∀ part ∈ parts, WrittenPart part) : confParts (textOf parts) = [] :: parts := by
  have hcut := cut_flatten (fun line (hline : line ∈ []) => by cases hline)
    fun part hpart => (h part hpart).isSection
  rw [List.nil_append] at hcut
  rw [confParts, lines_textOf hne h, Sections.parts, hcut]

/-! ## Keys -/

def keyLine (name : String) (key : WireguardKey) : String :=
  String.ofList (name.toList ++ ' ' :: '=' :: ' ' :: Base64.encode key.toList)

theorem plain_privateKey : PlainKey "PrivateKey".toList where
  graphic := graphic_of_all (by decide)
  ne_nil := by decide
  no_comment := by decide
  no_sign := by decide
  no_header := by decide

theorem plain_publicKey : PlainKey "PublicKey".toList where
  graphic := graphic_of_all (by decide)
  ne_nil := by decide
  no_comment := by decide
  no_sign := by decide
  no_header := by decide

theorem keptLine_entry {key val : List Char} (hkey : Graphic key) (hval : Graphic val)
    (hne : val ≠ []) : KeptLine (String.ofList (key ++ ' ' :: '=' :: ' ' :: val)) := by
  have hspace : ∀ {text : List Char}, Graphic text → '\n' ∉ text := by
    intro text htext hmem
    have hnot := htext '\n' hmem
    revert hnot
    decide
  constructor
  · rw [String.toList_ofList]
    simp [hspace hkey, hspace hval]
  · have hlast : (key ++ ' ' :: '=' :: ' ' :: val).getLast? ≠ some '\r' := by
      rw [show key ++ ' ' :: '=' :: ' ' :: val = (key ++ [' ', '=', ' ']) ++ val by simp,
        List.getLast?_append_of_ne_nil _ hne]
      intro hreturn
      have hnot := hval '\r' (List.mem_of_getLast? hreturn)
      revert hnot
      decide
    rw [String.toList_ofList, stripReturn, if_neg hlast]

theorem keptLine_keyLine {name : String} (hname : PlainKey name.toList) (key : WireguardKey) :
    KeptLine (keyLine name key) :=
  keptLine_entry hname.graphic (plain_encode key.toList).1 (encode_ne_nil key)

theorem confEvent_keyLine {name : String} (hname : PlainKey name.toList) (key : WireguardKey) :
    confEvent (keyLine name key) =
      some (.entry (toAsciiLowercase name) (String.ofList (Base64.encode key.toList))) := by
  rw [keyLine, confEvent_entry hname (plain_encode _).1 (encode_ne_nil key) (plain_encode _).2,
    String.ofList_toList]

theorem passed_keyLine (inPeer : Bool) {name : String} {rest : List Char}
    (hname : name.toList = 'P' :: rest) (key : WireguardKey) :
    Passed inPeer (keyLine name key) := by
  have hfirst : (trim (keyLine name key)).toList.head? = some 'P' :=
    head_trim (by simp [keyLine, hname]) (by decide)
  exact passed_of_head inPeer hfirst (by decide) (by decide)

theorem endpointText_keyLine (inPeer : Bool) {name : String} {rest : List Char}
    (hname : name.toList = 'P' :: rest) (key : WireguardKey) :
    endpointText inPeer (keyLine name key) = none ∧
      nextInPeer inPeer (keyLine name key) = inPeer := by
  obtain ⟨hheader, hkey⟩ := passed_keyLine inPeer hname key
  rw [endpointText, nextInPeer, hheader, hkey]
  exact ⟨rfl, rfl⟩

/-! ## The interface -/

def interfacePart (privateKey : WireguardKey) : List String :=
  ["[Interface]", keyLine "PrivateKey" privateKey]

theorem confEvent_interface : confEvent "[Interface]" = some (.header "Interface") ∧
    toAsciiLowercase "Interface" = "interface" ∧ toAsciiLowercase "PrivateKey" = "privatekey" := by
  decide +kernel

theorem written_interface (privateKey : WireguardKey) : WrittenPart (interfacePart privateKey) := by
  obtain ⟨hheader, -, -⟩ := confEvent_interface
  constructor
  · have hfixed : KeptLine "[Interface]" := by
      unfold KeptLine
      decide
    simp [interfacePart, hfixed, keptLine_keyLine plain_privateKey]
  · refine ⟨_, _, rfl, ?_, ?_⟩
    · simp [isHeaderLine, hheader]
    · simp [isHeaderLine, confEvent_keyLine plain_privateKey]

theorem endpointTexts_interface (privateKey : WireguardKey) :
    endpointTexts (interfacePart privateKey) = [] := by
  have hheader : endpointText false "[Interface]" = none ∧
      nextInPeer false "[Interface]" = false := by
    decide
  have hkey := (endpointText_keyLine false
    (show "PrivateKey".toList = 'P' :: "rivateKey".toList by decide) privateKey).1
  simp [endpointTexts, interfacePart, outputs, hheader, hkey]

theorem name_interface (privateKey : WireguardKey) :
    nameOf (interfacePart privateKey) = "interface" := by
  obtain ⟨hheader, hname, -⟩ := confEvent_interface
  simp [nameOf, interfacePart, nextName, hheader, hname, confEvent_keyLine plain_privateKey]

theorem effect_interface (parseNet : String → Except String IpNet) (privateKey : WireguardKey) :
    sectionEffect parseNet {} (interfacePart privateKey) =
      .ok { privateKey := some privateKey } := by
  obtain ⟨hheader, -, hkey⟩ := confEvent_interface
  have hentries : entriesOf (interfacePart privateKey) =
      [("privatekey", String.ofList (Base64.encode privateKey.toList))] := by
    simp [entriesOf, interfacePart, entryOf, hheader, hkey, confEvent_keyLine plain_privateKey]
  have hdecode : decodeKey (String.ofList (Base64.encode privateKey.toList)) = .ok privateKey :=
    decodeKey_encode String.toList_ofList
  rw [sectionEffect, if_pos (name_interface privateKey), hentries, setEntries]
  simp [ParsedConf.setKey, hdecode, Except.map, pure, Except.pure, bind, Except.bind]

theorem parseConfText_textOf (parseNet : String → Except String IpNet) (privateKey : WireguardKey)
    {parts : List (List String)} (h : ∀ part ∈ parts, WrittenPart part) :
    parseConfText parseNet (textOf (interfacePart privateKey :: parts)) =
      match parts.foldlM (sectionEffect parseNet) { privateKey := some privateKey } with
      | .error e => .error e
      | .ok conf =>
          if conf.privateKey.isNone then wgntConfig "missing PrivateKey" else .ok conf := by
  have hall : ∀ part ∈ interfacePart privateKey :: parts, WrittenPart part :=
    List.forall_mem_cons.mpr ⟨written_interface privateKey, h⟩
  have hfront : sectionEffect parseNet {} [] = .ok {} := by
    rw [sectionEffect, if_neg (by decide), if_neg (by decide)]
  have hfold : (confParts (textOf (interfacePart privateKey :: parts))).foldlM
      (sectionEffect parseNet) {} =
        parts.foldlM (sectionEffect parseNet) { privateKey := some privateKey } := by
    rw [confParts_textOf (by simp) hall, foldlM_cons_ok _ hfront,
      foldlM_cons_ok _ (effect_interface parseNet privateKey)]
  cases hparts : parts.foldlM (sectionEffect parseNet) { privateKey := some privateKey } with
  | error e => simp only [parseConfText_sections, hfold, hparts]
  | ok conf => simp only [parseConfText_sections, hfold, hparts]

end RouteGuard
