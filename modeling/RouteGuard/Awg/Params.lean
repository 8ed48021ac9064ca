import RouteGuard.Core.Conf
import RouteGuard.Core.Numbers

/-! # The obfuscation parameters of a configuration text

`AwgParams`, `parse_awg_from_conf` and the validation of the `routeguard-awg`
crate. -/
set_option autoImplicit false
namespace RouteGuard

/-! ## Lines of a configuration -/

/-- `line.split('#').next()`. -/
def beforeComment (line : String) : String :=
  String.ofList (line.toList.takeWhile fun c => c != '#')

def splitOnChar (c : Char) (s : String) : List String :=
  (s.toList.splitOn c).map String.ofList

def isSectionLine (line : String) : Bool := startsWith line "[" && endsWith line "]"

/-! ## The parameters -/

structure AwgParams where
  jc : Option UInt16 := none
  jmin : Option UInt16 := none
  jmax : Option UInt16 := none
  s1 : Option UInt16 := none
  s2 : Option UInt16 := none
  h1 : Option String := none
  h2 : Option String := none
  h3 : Option String := none
  h4 : Option String := none
deriving DecidableEq, Repr

def AwgParams.setKey (params : AwgParams) (key val : String) : AwgParams :=
  if key = "jc" then { params with jc := (parseU16 val).toOption }
  else if key = "jmin" then { params with jmin := (parseU16 val).toOption }
  else if key = "jmax" then { params with jmax := (parseU16 val).toOption }
  else if key = "s1" then { params with s1 := (parseU16 val).toOption }
  else if key = "s2" then { params with s2 := (parseU16 val).toOption }
  else if key = "h1" then { params with h1 := some val }
  else if key = "h2" then { params with h2 := some val }
  else if key = "h3" then { params with h3 := some val }
  else if key = "h4" then { params with h4 := some val }
  else params

def awgLine (scan : AwgParams × Bool) (line : String) : AwgParams × Bool :=
  let line := trim (beforeComment line)
  if line = "" then scan
  else if isSectionLine line then (scan.1, eqIgnoreAsciiCase line "[Interface]")
  else if !scan.2 then scan
  else
    match splitOnce '=' line with
    | none => scan
    | some (k, v) => (scan.1.setKey (toAsciiLowercase (trim k)) (trim v), true)

def parseAwgFromConf (text : String) : AwgParams :=
  ((lines text).foldl awgLine ({}, false)).1

/-! ## What is set -/

def filledHeader (header : Option String) : Option String :=
  header.filter fun spec => decide (spec ≠ "")

def AwgParams.hasAny (params : AwgParams) : Bool :=
  params.jc.isSome || params.jmin.isSome || params.jmax.isSome || params.s1.isSome ||
    params.s2.isSome || (filledHeader params.h1).isSome || (filledHeader params.h2).isSome ||
    (filledHeader params.h3).isSome || (filledHeader params.h4).isSome

/-! ## Writing -/

/-- An absent parameter writes no line. -/
def pushLine (out name : String) : Option String → String
  | some v => out ++ (name ++ " = " ++ v ++ "\n")
  | none => out

def appendAwgLines (out : String) (params : AwgParams) : String :=
  let out := pushLine out "Jc" (params.jc.map toString)
  let out := pushLine out "Jmin" (params.jmin.map toString)
  let out := pushLine out "Jmax" (params.jmax.map toString)
  let out := pushLine out "S1" (params.s1.map toString)
  let out := pushLine out "S2" (params.s2.map toString)
  let out := pushLine out "H1" (filledHeader params.h1)
  let out := pushLine out "H2" (filledHeader params.h2)
  let out := pushLine out "H3" (filledHeader params.h3)
  pushLine out "H4" (filledHeader params.h4)

def isAwgProfile (text : String) : Bool := (parseAwgFromConf text).hasAny

/-! ## Validation -/

structure ValidationIssue where
  field : String
  message : String
deriving DecidableEq, Repr

def maxMagicHeaderLen : Nat := 256

def validateMagicHeaderSpec (spec : String) : Except String Unit :=
  match splitOnChar '-' spec with
  | start :: others =>
      if 1 < others.length then .error "magic header must be N or N-M"
      else
        match parseU64 start with
        | .error _ => .error ("invalid start value in " ++ spec)
        | .ok first =>
            match others.head?.elim (.ok first) parseU64 with
            | .error _ => .error ("invalid end value in " ++ spec)
            | .ok last =>
                if last < first then .error "magic header range end < start"
                else if first.toNat > 2 ^ 32 - 1 ∨ last.toNat > 2 ^ 32 - 1 then
                  .error "magic header values must fit u32"
                else .ok ()
  | [] => .error "magic header must be N or N-M"

def headerIssues (name : String) (header : Option String) : List ValidationIssue :=
  match filledHeader header with
  | none => []
  | some spec =>
      (if maxMagicHeaderLen < spec.utf8ByteSize then
        [⟨name, "magic header exceeds " ++ toString maxMagicHeaderLen ++ " chars"⟩] else []) ++
      (match validateMagicHeaderSpec spec with
        | .error msg => [⟨name, msg⟩]
        | .ok _ => [])

def junkIssues (params : AwgParams) : List ValidationIssue :=
  (match params.jc with
    | some jc =>
        if 0 < jc ∧ (params.jmin = none ∨ params.jmax = none) then
          [⟨"Jc", "Jc > 0 requires Jmin and Jmax"⟩]
        else []
    | none => []) ++
  (match params.jmin, params.jmax with
    | some jmin, some jmax => if jmax < jmin then [⟨"Jmin", "Jmin must be <= Jmax"⟩] else []
    | _, _ => [])

def validateAwgParams (params : AwgParams) : List ValidationIssue :=
  if !params.hasAny then []
  else
    junkIssues params ++ headerIssues "H1" params.h1 ++ headerIssues "H2" params.h2 ++
      headerIssues "H3" params.h3 ++ headerIssues "H4" params.h4

def validateAwgParamsStrict (params : AwgParams) : Except (List ValidationIssue) Unit :=
  let issues := validateAwgParams params
  if issues.isEmpty then .ok () else .error issues

example : validateMagicHeaderSpec "200-100" = .error "magic header range end < start" := by decide

end RouteGuard
