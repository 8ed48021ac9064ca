import RouteGuard.Core.Config
import RouteGuard.Core.Text

/-! # Configuration texts

What `transport/conf.rs` reads from a WireGuard configuration and how it writes
the runtime copy.  The socket addresses, their text and how they are read from
text are parameters. -/
set_option autoImplicit false
namespace RouteGuard

/-! ## Lines -/

section Lines

/-- The characters with the Unicode property `White_Space`. -/
def isWhitespace (c : Char) : Bool :=
  let n := c.toNat
  decide (9 ≤ n ∧ n ≤ 13 ∨ n = 0x20 ∨ n = 0x85 ∨ n = 0xa0 ∨ n = 0x1680 ∨ 0x2000 ≤ n ∧ n ≤ 0x200a ∨
    n = 0x2028 ∨ n = 0x2029 ∨ n = 0x202f ∨ n = 0x205f ∨ n = 0x3000)

def trim (s : String) : String :=
  String.ofList ((s.toList.dropWhile isWhitespace).rdropWhile isWhitespace)

def stripReturn (line : List Char) : List Char :=
  if line.getLast? = some '\r' then line.dropLast else line

/-- The pieces between line feeds; only the last piece is not ended by one. -/
def linePieces : List (List Char) → List (List Char)
  | [] => []
  | [last] => if last = [] then [] else [last]
  | line :: rest => stripReturn line :: linePieces rest

def lines (s : String) : List String :=
  (linePieces (s.toList.splitOn '\n')).map String.ofList

example : lines "[Peer]\r\nEndpoint = 1.2.3.4:51820\n" =
    ["[Peer]", "Endpoint = 1.2.3.4:51820"] := by
  decide

def splitOnce (c : Char) (s : String) : Option (String × String) :=
  match s.toList.span fun d => d != c with
  | (_, []) => none
  | (before, _ :: after) => some (String.ofList before, String.ofList after)

def eqIgnoreAsciiCase (s other : String) : Bool :=
  toAsciiLowercase s == toAsciiLowercase other

end Lines

/-! ## The endpoint of the peer -/

section Endpoint
variable {A : Type} (parseAddr : String → Option A)

def scanPeerEndpoint : Bool → List String → Option A
  | _, [] => none
  | inPeer, line :: rest =>
      let trimmed := trim line
      if startsWith trimmed "[" then scanPeerEndpoint (eqIgnoreAsciiCase trimmed "[peer]") rest
      else if inPeer && startsWith (toAsciiLowercase trimmed) "endpoint" then
        match splitOnce '=' trimmed with
        | some (_, value) => parseAddr (trim value)
        | none => scanPeerEndpoint inPeer rest
      else scanPeerEndpoint inPeer rest

def parsePeerEndpoint (confText : String) : Option A :=
  scanPeerEndpoint parseAddr false (lines confText)

end Endpoint

/-! ## The runtime copy -/

structure RewriteState where
  inPeer : Bool := false
  inRg : Bool := false
  wroteEndpoint : Bool := false
  wroteMtu : Bool := false
  out : List String := []
deriving DecidableEq, Repr

section Rewrite
variable {A : Type} [ToString A] (newEndpoint : A) (mtu : Option Nat)

def endpointLine : String := "Endpoint = " ++ toString newEndpoint

def mtuLine (mtu : Nat) : String := "MTU = " ++ toString mtu

/-- A section header first closes a peer section without endpoint. -/
def rewriteHeader (st : RewriteState) (line trimmed : String) : RewriteState :=
  let st := if st.inPeer && !st.wroteEndpoint then
      { st with out := st.out ++ [endpointLine newEndpoint], wroteEndpoint := true }
    else st
  let inRg := eqIgnoreAsciiCase trimmed "[routeguard]"
  let wroteMtu := if eqIgnoreAsciiCase trimmed "[interface]" then false else st.wroteMtu
  { st with
    inRg := inRg
    inPeer := eqIgnoreAsciiCase trimmed "[peer]"
    wroteMtu := wroteMtu
    out := if inRg then st.out else st.out ++ [line] }

/-- The keys of the `[RouteGuard]` section, dropped in any section. -/
def transportKeys : List String :=
  ["transport", "remotetcp", "remoteudp", "locallisten", "lwo", "protocolversion"]

def rewriteLine (st : RewriteState) (line : String) : RewriteState :=
  let trimmed := trim line
  let lower := toAsciiLowercase trimmed
  if startsWith trimmed "[" then rewriteHeader newEndpoint st line trimmed
  else if st.inRg then st
  else if st.inPeer && startsWith lower "endpoint" then
    { st with out := st.out ++ [endpointLine newEndpoint], wroteEndpoint := true }
  else if transportKeys.any (startsWith lower) then st
  else
    match mtu with
    | some m =>
        if startsWith lower "mtu" then { st with out := st.out ++ [mtuLine m], wroteMtu := true }
        else { st with out := st.out ++ [line] }
    | none => { st with out := st.out ++ [line] }

/-- Behind the first `[Interface]` line, else at the end. -/
def insertMtu (out : List String) (line : String) : List String :=
  match out.findIdx? fun l => eqIgnoreAsciiCase (trim l) "[interface]" with
  | some i => out.take (i + 1) ++ line :: out.drop (i + 1)
  | none => out ++ [line]

def rewriteLines (confLines : List String) : List String :=
  let st := confLines.foldl (rewriteLine newEndpoint mtu) {}
  let out := if st.inPeer && !st.wroteEndpoint then st.out ++ [endpointLine newEndpoint] else st.out
  match mtu with
  | some m => if st.wroteMtu then out else insertMtu out (mtuLine m)
  | none => out

def rewriteConfEndpoint (confText : String) : Except RouteGuardError String :=
  let out := rewriteLines newEndpoint mtu (lines confText)
  if out.isEmpty then .error (.config "empty conf")
  else .ok ("\n".intercalate out ++ "\n")

/-- An MTU line counts as written only once something is written. -/
def MtuWritten (st : RewriteState) : Prop := st.wroteMtu = true → st.out ≠ []

theorem rewriteHeader_mtuWritten {st : RewriteState} (h : MtuWritten st) (line trimmed : String) :
    MtuWritten (rewriteHeader newEndpoint st line trimmed) := by
  intro hwrote
  unfold rewriteHeader at hwrote ⊢
  simp only at hwrote ⊢
  split_ifs at hwrote ⊢ <;> simp_all [MtuWritten]

theorem rewriteLine_mtuWritten {st : RewriteState} (h : MtuWritten st) (line : String) :
    MtuWritten (rewriteLine newEndpoint mtu st line) := by
  have hgrown : ∀ (st' : RewriteState) (text : String),
      st'.out = st.out ++ [text] → MtuWritten st' := by
    intro st' text hout _
    simp [hout]
  unfold rewriteLine
  dsimp only
  split
  · exact rewriteHeader_mtuWritten newEndpoint h line (trim line)
  · split
    · exact h
    · split
      · exact hgrown _ _ rfl
      · split
        · exact h
        · cases mtu with
          | none => exact hgrown _ _ rfl
          | some m =>
              dsimp only
              split
              · exact hgrown _ _ rfl
              · exact hgrown _ _ rfl

theorem foldl_rewriteLine_mtuWritten (confLines : List String) (st : RewriteState)
    (h : MtuWritten st) : MtuWritten (confLines.foldl (rewriteLine newEndpoint mtu) st) := by
  induction confLines generalizing st with
  | nil => exact h
  | cons line rest ih =>
      -- Unfolding the fold by `rw` keeps the text functions folded.
      rw [List.foldl_cons]
      apply ih
      exact rewriteLine_mtuWritten newEndpoint mtu h line

theorem insertMtu_ne_nil (out : List String) (line : String) : insertMtu out line ≠ [] := by
  unfold insertMtu
  split <;> simp

/-- With an MTU to write the copy is never empty, so writing it cannot fail. -/
theorem rewriteConfEndpoint_ok (m : Nat) (confText : String) :
    ∃ text, rewriteConfEndpoint newEndpoint (some m) confText = .ok text := by
  have hwritten := foldl_rewriteLine_mtuWritten newEndpoint (some m) (lines confText) {}
    (by simp [MtuWritten])
  have hout : rewriteLines newEndpoint (some m) (lines confText) ≠ [] := by
    unfold rewriteLines
    generalize (lines confText).foldl (rewriteLine newEndpoint (some m)) {} = st at hwritten
    dsimp only
    by_cases hmtu : st.wroteMtu = true
    · rw [if_pos hmtu]
      split
      · simp
      · exact hwritten hmtu
    · rw [if_neg hmtu]
      exact insertMtu_ne_nil _ _
  refine ⟨"\n".intercalate (rewriteLines newEndpoint (some m) (lines confText)) ++ "\n", ?_⟩
  simp only [rewriteConfEndpoint, List.isEmpty_iff, hout, if_false]

end Rewrite
end RouteGuard
