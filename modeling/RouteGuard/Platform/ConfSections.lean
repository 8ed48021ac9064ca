import RouteGuard.Core.ConfRoundTrip
import RouteGuard.Lib.Sections
import RouteGuard.Platform.WgConf

/-! # The lines of a configuration as the driver stack takes them

A line is a section header, an entry or nothing.  What `parse_conf_text` does
with a line depends on that alone.  Cut at its headers, a text is a front and
sections, and what a scanner finds stands in one of them. -/
set_option autoImplicit false
namespace RouteGuard

inductive ConfEvent where
  | header (name : String)
  | entry (key val : String)
deriving DecidableEq, Repr

/-- The key is lower-cased, the name of the section is not. -/
def confEvent (line : String) : Option ConfEvent :=
  let line := trim (beforeComment line)
  if line = "" then none
  else if isSectionLine line then some (.header (sectionOf line))
  else (splitOnce '=' line).map fun (k, v) => .entry (toAsciiLowercase (trim k)) (trim v)

def confEvents (text : String) : List ConfEvent := (lines text).filterMap confEvent

/-! ## Written entries -/

section Written

theorem beforeComment_of_plain {text : List Char} (h : '#' ∉ text) :
    beforeComment (String.ofList text) = String.ofList text := by
  have hall : ∀ c ∈ text, (c != '#') = true := by
    intro c hc
    rw [bne_iff_ne]
    rintro rfl
    exact h hc
  rw [beforeComment, String.toList_ofList, List.takeWhile_eq_self_iff.mpr hall]

theorem splitOnce_append {c : Char} {before : List Char} (h : c ∉ before) (after : List Char) :
    splitOnce c (String.ofList (before ++ c :: after)) =
      some (String.ofList before, String.ofList after) := by
  have hall : ∀ d ∈ before, (d != c) = true := by
    intro d hd
    rw [bne_iff_ne]
    rintro rfl
    exact h hd
  have hspan : (before ++ c :: after).span (fun d => d != c) = (before, c :: after) := by
    rw [List.span_eq_takeWhile_dropWhile, List.takeWhile_append_of_pos hall,
      List.dropWhile_append_of_pos hall, List.takeWhile_cons_of_neg (by simp),
      List.dropWhile_cons_of_neg (by simp), List.append_nil]
  rw [splitOnce, String.toList_ofList, hspan]

theorem trim_blank_end {c : Char} (hc : isWhitespace c = true) (text : List Char) :
    trim (String.ofList (text ++ [c])) = trim (String.ofList text) := by
  rw [trim, trim, String.toList_ofList, String.toList_ofList, List.dropWhile_append]
  split
  · rename_i hempty
    rw [List.isEmpty_iff.mp hempty, List.dropWhile_cons_of_pos hc]
    rfl
  · rw [List.rdropWhile_concat_pos _ _ _ hc]

structure PlainKey (key : List Char) : Prop where
  graphic : Graphic key
  ne_nil : key ≠ []
  no_comment : '#' ∉ key
  no_sign : '=' ∉ key
  no_header : key.head? ≠ some '['

theorem confEvent_entry {key val : List Char} (hkey : PlainKey key) (hval : Graphic val)
    (hne : val ≠ []) (hcomment : '#' ∉ val) :
    confEvent (String.ofList (key ++ ' ' :: '=' :: ' ' :: val)) =
      some (.entry (toAsciiLowercase (String.ofList key)) (String.ofList val)) := by
  have hblank : isWhitespace ' ' = true := by decide
  have hfirst : ∀ rest, (key ++ rest).head? = key.head? := fun rest =>
    List.head?_append_of_ne_nil _ hkey.ne_nil
  have htrimmed : Trimmed (key ++ ' ' :: '=' :: ' ' :: val) := by
    constructor
    · rw [hfirst]
      exact hkey.graphic.trimmed.1
    · have hlast : (key ++ ' ' :: '=' :: ' ' :: val).getLast? = val.getLast? := by
        rw [show key ++ ' ' :: '=' :: ' ' :: val = (key ++ [' ', '=', ' ']) ++ val by simp,
          List.getLast?_append_of_ne_nil _ hne]
      rw [hlast]
      exact hval.trimmed.2
  have hplain : '#' ∉ key ++ ' ' :: '=' :: ' ' :: val := by
    simp [hkey.no_comment, hcomment]
  have hsection : isSectionLine (String.ofList (key ++ ' ' :: '=' :: ' ' :: val)) = false := by
    rw [isSectionLine, Bool.and_eq_false_iff]
    left
    rw [Bool.eq_false_iff]
    intro hstart
    obtain ⟨rest, hrest⟩ := List.isPrefixOf_iff_prefix.mp hstart
    apply hkey.no_header
    rw [← hfirst (' ' :: '=' :: ' ' :: val), ← String.toList_ofList
      (l := key ++ ' ' :: '=' :: ' ' :: val), ← hrest]
    rfl
  have hsign : '=' ∉ key ++ [' '] := by
    simp [hkey.no_sign]
  have hsplit := splitOnce_append hsign (' ' :: val)
  rw [List.append_assoc] at hsplit
  have htext : String.ofList (key ++ ' ' :: '=' :: ' ' :: val) ≠ "" := by
    intro hempty
    have hlist := congrArg String.toList hempty
    rw [String.toList_ofList] at hlist
    simp at hlist
  rw [confEvent, beforeComment_of_plain hplain, trim_of_trimmed htrimmed]
  dsimp only
  rw [if_neg htext, if_neg (by rw [hsection]; decide)]
  rw [show key ++ ' ' :: '=' :: ' ' :: val = key ++ ([' '] ++ '=' :: ' ' :: val) from rfl, hsplit,
    Option.map_some, trim_blank_end hblank, trim_blank hblank,
    trim_of_trimmed hkey.graphic.trimmed, trim_of_trimmed hval.trimmed]

end Written

section Steps
variable (parseNet : String → Except String IpNet)

def confStep (scan : ConfScan) : ConfEvent → WgntResult ConfScan
  | .header name => .ok { conf := scan.closed, sectionName := name, curPeer := none }
  | .entry key val =>
      if toAsciiLowercase scan.sectionName = "interface" then
        (scan.conf.setKey parseNet key val).map fun conf => { scan with conf := conf }
      else if toAsciiLowercase scan.sectionName = "peer" then
        ((scan.curPeer.getD {}).setKey parseNet key val).map fun peer =>
          { scan with curPeer := some peer }
      else .ok scan

theorem confLine_event (scan : ConfScan) (line : String) :
    confLine parseNet scan line =
      match confEvent line with
      | none => .ok scan
      | some event => confStep parseNet scan event := by
  rw [confLine, confEvent]
  dsimp only
  by_cases hempty : trim (beforeComment line) = ""
  · rw [if_pos hempty, if_pos hempty]
  · rw [if_neg hempty, if_neg hempty]
    by_cases hsection : isSectionLine (trim (beforeComment line)) = true
    · rw [if_pos hsection, if_pos hsection]
      rfl
    · rw [if_neg hsection, if_neg hsection]
      cases splitOnce '=' (trim (beforeComment line)) with
      | none => rfl
      | some pair => rfl

theorem foldlM_confLine (scan : ConfScan) (confLines : List String) :
    confLines.foldlM (confLine parseNet) scan =
      (confLines.filterMap confEvent).foldlM (confStep parseNet) scan := by
  induction confLines generalizing scan with
  | nil => rfl
  | cons line rest ih =>
      rw [List.foldlM_cons, confLine_event]
      cases hevent : confEvent line with
      | none =>
          rw [List.filterMap_cons_none hevent, ← ih]
          rfl
      | some event =>
          rw [List.filterMap_cons_some hevent, List.foldlM_cons]
          exact bind_congr fun scan' => ih scan'

theorem parseConfText_events (text : String) :
    parseConfText parseNet text =
      match (confEvents text).foldlM (confStep parseNet) {} with
      | .error e => .error e
      | .ok scan =>
          if scan.closed.privateKey.isNone then wgntConfig "missing PrivateKey"
          else .ok scan.closed := by
  rw [parseConfText, foldlM_confLine]
  rfl

end Steps

/-! ## Sections -/

def isHeaderLine (line : String) : Bool :=
  match confEvent line with
  | some (.header _) => true
  | _ => false

def confParts (text : String) : List (List String) := Sections.parts isHeaderLine (lines text)

def nextName (name line : String) : String :=
  match confEvent line with
  | some (.header next) => toAsciiLowercase next
  | _ => name

def valueOf (sec key name line : String) : Option String :=
  match confEvent line with
  | some (.entry k val) => if name = sec ∧ k = key then some val else none
  | _ => none

def valuesOf (sec key : String) (confLines : List String) : List String :=
  Sections.outputs nextName (valueOf sec key) "" confLines

theorem isHeaderLine_iff {line : String} :
    isHeaderLine line = true ↔ ∃ name, confEvent line = some (.header name) := by
  rw [isHeaderLine]
  rcases confEvent line with _ | ⟨name | ⟨key, val⟩⟩ <;> simp

theorem valuesOf_restarts (sec key : String) :
    Sections.Restarts nextName (valueOf sec key) isHeaderLine "" where
  next_eq name line hheader := by
    obtain ⟨next, hevent⟩ := isHeaderLine_iff.mp hheader
    rw [nextName, nextName, hevent]
  out_eq name line hheader := by
    obtain ⟨next, hevent⟩ := isHeaderLine_iff.mp hheader
    rw [valueOf, valueOf, hevent]

theorem valuesOf_parts (sec key confText : String) :
    (Sections.tagged (valuesOf sec key) (confParts confText)).map Prod.snd =
      valuesOf sec key (lines confText) := by
  rw [Sections.map_snd_tagged, valuesOf, Sections.outputs_parts (valuesOf_restarts sec key)]
  rfl

/-! ## The lines that `parse_peer_endpoint` looks at -/

def isBracketLine (line : String) : Bool := startsWith (trim line) "["

def nextInPeer (inPeer : Bool) (line : String) : Bool :=
  if startsWith (trim line) "[" then eqIgnoreAsciiCase (trim line) "[peer]" else inPeer

def endpointText (inPeer : Bool) (line : String) : Option String :=
  if startsWith (trim line) "[" then none
  else if inPeer && startsWith (toAsciiLowercase (trim line)) "endpoint" then
    (splitOnce '=' (trim line)).map Prod.snd
  else none

/-- The texts behind an endpoint key, where the scan takes itself to be in a peer section. -/
def endpointTexts (confLines : List String) : List String :=
  Sections.outputs nextInPeer endpointText false confLines

theorem scanPeerEndpoint_eq {A : Type} (parseAddr : String → Option A) (inPeer : Bool)
    (confLines : List String) :
    scanPeerEndpoint parseAddr inPeer confLines =
      (Sections.outputs nextInPeer endpointText inPeer confLines).head?.bind
        fun text => parseAddr (trim text) := by
  induction confLines generalizing inPeer with
  | nil => rfl
  | cons line rest ih =>
      rw [scanPeerEndpoint, Sections.outputs, nextInPeer, endpointText]
      by_cases hheader : startsWith (trim line) "[" = true
      · rw [if_pos hheader, if_pos hheader, if_pos hheader, ih]
        rfl
      · rw [if_neg hheader, if_neg hheader, if_neg hheader]
        by_cases hkey : (inPeer && startsWith (toAsciiLowercase (trim line)) "endpoint") = true
        · rw [if_pos hkey, if_pos hkey]
          cases splitOnce '=' (trim line) with
          | none => exact ih inPeer
          | some pair => rfl
        · rw [if_neg hkey, if_neg hkey, ih]
          rfl

theorem startsWith_bracket {s : String} (h : startsWith s "[" = true) :
    ∃ rest, s.toList = '[' :: rest := by
  obtain ⟨rest, hrest⟩ := List.isPrefixOf_iff_prefix.mp h
  exact ⟨rest, hrest.symm⟩

theorem startsWith_of_head {s : String} (h : s.toList.head? = some '[') :
    startsWith s "[" = true := by
  obtain ⟨rest, hrest⟩ := List.head?_eq_some_iff.mp h
  rw [startsWith, hrest]
  rfl

theorem startsWith_of_beforeComment {line : String}
    (h : startsWith (trim (beforeComment line)) "[" = true) :
    startsWith (trim line) "[" = true := by
  obtain ⟨rest, hrest⟩ := startsWith_bracket h
  have hfirst : (trim (beforeComment line)).toList.head? = some '[' := by
    rw [hrest]
    rfl
  apply startsWith_of_head
  rw [head?_trim, beforeComment, String.toList_ofList] at hfirst
  rw [head?_trim, ← List.takeWhile_append_dropWhile (p := fun c => c != '#') (l := line.toList),
    List.dropWhile_append]
  cases hfront : (line.toList.takeWhile fun c => c != '#').dropWhile isWhitespace with
  | nil =>
      rw [hfront] at hfirst
      cases hfirst
  | cons c others =>
      rw [hfront] at hfirst
      exact hfirst

theorem startsWith_of_isHeaderLine {line : String} (h : isHeaderLine line = true) :
    startsWith (trim line) "[" = true := by
  obtain ⟨name, hevent⟩ := isHeaderLine_iff.mp h
  rw [confEvent] at hevent
  dsimp only at hevent
  split_ifs at hevent with hempty hsection
  · obtain ⟨hstart, -⟩ := Bool.and_eq_true_iff.mp hsection
    exact startsWith_of_beforeComment hstart
  · obtain ⟨pair, -, hpair⟩ := Option.map_eq_some_iff.mp hevent
    cases hpair

theorem endpointTexts_restarts :
    Sections.Restarts nextInPeer endpointText isHeaderLine false where
  next_eq inPeer line hheader := by
    rw [nextInPeer, nextInPeer, if_pos (startsWith_of_isHeaderLine hheader),
      if_pos (startsWith_of_isHeaderLine hheader)]
  out_eq inPeer line hheader := by
    rw [endpointText, endpointText, if_pos (startsWith_of_isHeaderLine hheader),
      if_pos (startsWith_of_isHeaderLine hheader)]

theorem endpointTexts_parts (confText : String) :
    (Sections.tagged endpointTexts (confParts confText)).map Prod.snd =
      endpointTexts (lines confText) := by
  rw [Sections.map_snd_tagged, endpointTexts, Sections.outputs_parts endpointTexts_restarts]
  rfl

theorem endpointTexts_nil : endpointTexts [] = [] := rfl

end RouteGuard
