import RouteGuard.Core.Config
import RouteGuard.Core.Text
import RouteGuard.Core.AddrParse
import RouteGuard.Lib.Arbitration

/-! # Filters of the Windows Filtering Platform

The outbound filter rules of `windows-wfp` that the service builds, and which
flows they permit.  A filter applies to a flow when all its conditions hold;
permitting filters outrank blocking ones. -/
set_option autoImplicit false
namespace RouteGuard

open Arbitration

/-! ## Rules and flows -/

inductive FilterAction where
  | permit
  | block
deriving DecidableEq, Repr

/-- `windows_wfp::FilterWeight`, as far as it is used. -/
inductive FilterWeight where
  | userPermit
  | userBlock
deriving DecidableEq, Repr

/-- The protocol of a flow, with its number where the service has no name for it. -/
inductive FlowProtocol where
  | tcp
  | udp
  | other (number : Nat)
deriving DecidableEq, Repr

/-- `windows_wfp::FilterRule`; every rule of the service is outbound. -/
structure FilterRule where
  name : String
  action : FilterAction
  weight : FilterWeight
  appPath : Option String := none
  remoteIp : Option IpNet := none
  protocol : Option FlowProtocol := none
  remotePort : Option UInt16 := none
deriving DecidableEq, Repr

structure OutboundFlow where
  app : String
  remoteIp : IpAddr
  remotePort : UInt16
  protocol : FlowProtocol
  egressIf : Nat
deriving DecidableEq, Repr

namespace FilterRule

def permit (name : String) : FilterRule := ⟨name, .permit, .userPermit, none, none, none, none⟩

def block (name : String) : FilterRule := ⟨name, .block, .userBlock, none, none, none, none⟩

def withAppPath (path : String) (rule : FilterRule) : FilterRule :=
  { rule with appPath := some path }

def withRemoteIp (net : IpNet) (rule : FilterRule) : FilterRule :=
  { rule with remoteIp := some net }

def withProtocol (protocol : FlowProtocol) (rule : FilterRule) : FilterRule :=
  { rule with protocol := some protocol }

def withRemotePort (port : UInt16) (rule : FilterRule) : FilterRule :=
  { rule with remotePort := some port }

def tier (rule : FilterRule) : Tier :=
  match rule.weight with
  | .userPermit => .permit
  | .userBlock => .block

/-- A condition that is absent holds of every value. -/
def Applies (rule : FilterRule) (flow : OutboundFlow) : Prop :=
  (∀ path ∈ rule.appPath, flow.app = path) ∧
    (∀ net ∈ rule.remoteIp, net.contains flow.remoteIp = true) ∧
    (∀ protocol ∈ rule.protocol, flow.protocol = protocol) ∧
    ∀ port ∈ rule.remotePort, flow.remotePort = port

section Conditions
variable {rule : FilterRule} {flow : OutboundFlow}

theorem applies_permit (name : String) (flow : OutboundFlow) : (permit name).Applies flow := by
  simp [Applies, permit]

theorem applies_block (name : String) (flow : OutboundFlow) : (block name).Applies flow := by
  simp [Applies, block]

theorem applies_withAppPath (hnone : rule.appPath = none) (path : String) :
    (rule.withAppPath path).Applies flow ↔ rule.Applies flow ∧ flow.app = path := by
  simp only [Applies, withAppPath, hnone, Option.mem_def, Option.some.injEq, forall_eq',
    reduceCtorEq, IsEmpty.forall_iff, implies_true, true_and]
  exact and_comm

theorem applies_withRemoteIp (hnone : rule.remoteIp = none) (net : IpNet) :
    (rule.withRemoteIp net).Applies flow ↔
      rule.Applies flow ∧ net.contains flow.remoteIp = true := by
  simp only [Applies, withRemoteIp, hnone, Option.mem_def, Option.some.injEq, forall_eq',
    reduceCtorEq, IsEmpty.forall_iff, implies_true, true_and, and_assoc]
  exact and_congr_right fun _ => and_comm.trans and_assoc

theorem applies_withProtocol (hnone : rule.protocol = none) (protocol : FlowProtocol) :
    (rule.withProtocol protocol).Applies flow ↔ rule.Applies flow ∧ flow.protocol = protocol := by
  simp only [Applies, withProtocol, hnone, Option.mem_def, Option.some.injEq, forall_eq',
    reduceCtorEq, IsEmpty.forall_iff, implies_true, true_and, and_assoc]
  exact and_congr_right fun _ => and_congr_right fun _ => and_comm

theorem applies_withRemotePort (hnone : rule.remotePort = none) (port : UInt16) :
    (rule.withRemotePort port).Applies flow ↔ rule.Applies flow ∧ flow.remotePort = port := by
  simp only [Applies, withRemotePort, hnone, Option.mem_def, Option.some.injEq, forall_eq',
    reduceCtorEq, IsEmpty.forall_iff, implies_true, and_true, and_assoc]

end Conditions

end FilterRule

/-- The verdict on a flow if permits outrank blocks, which is for Windows to say. -/
def Permitted (rules : Set FilterRule) (flow : OutboundFlow) : Prop :=
  Permits FilterRule.tier FilterRule.Applies rules flow

theorem exists_numbered {A B : Type} {make : A × Nat → B} {P : B → Prop} {Q : A → Prop}
    (h : ∀ row, P (make row) ↔ Q row.1) (items : List A) :
    (∃ b ∈ items.zipIdx.map make, P b) ↔ ∃ a ∈ items, Q a := by
  have hitems : items.zipIdx.map Prod.fst = items := List.zipIdx_map_fst 0 items
  constructor
  · intro hex
    obtain ⟨b, hmem, hp⟩ := hex
    obtain ⟨row, hrow, rfl⟩ := List.mem_map.mp hmem
    refine ⟨row.1, ?_, (h row).mp hp⟩
    rw [← hitems]
    exact List.mem_map_of_mem hrow
  · intro hex
    obtain ⟨a, hmem, hq⟩ := hex
    rw [← hitems] at hmem
    obtain ⟨row, hrow, rfl⟩ := List.mem_map.mp hmem
    exact ⟨make row, List.mem_map_of_mem hrow, (h row).mpr hq⟩

/-! ## Address masks -/

section IpMask
variable (fromCidr : String → Except String IpNet)

/-- `ip_mask::from_str`; `fromCidr` is `IpAddrMask::from_cidr` with the text of its error. -/
def ipMaskFromStr (s : String) : Except RouteGuardError IpNet :=
  if '/' ∈ s.toList then
    (fromCidr s).mapError fun e => .routing ("cidr " ++ s ++ ": " ++ e)
  else
    match IpAddr.parse s with
    | some ip => .ok (IpNet.host ip)
    | none => .error (.routing ("ip " ++ s ++ ": invalid IP address syntax"))

end IpMask

def readCidr (s : String) : Except String IpNet :=
  match readIp s.toList with
  | some (ip, '/' :: len) =>
      match readNumber 10 (some 3) false 129 len, ip with
      | some (n, []), .v4 bits =>
          if h : n ≤ 32 then .ok (.v4 ⟨bits, n, h⟩) else .error "invalid prefix length"
      | some (n, []), .v6 bits =>
          if h : n ≤ 128 then .ok (.v6 ⟨bits, n, h⟩) else .error "invalid prefix length"
      | _, _ => .error "invalid prefix length"
  | _ => .error "invalid address"

end RouteGuard
