import RouteGuard.Core.Config
import RouteGuard.Core.Text
import RouteGuard.Lib.Fallible
import RouteGuard.Lib.HashTable

/-! # Session routes and the route table

`routes.rs` on Windows, over the forwarding table of the operating system.  The
statuses of the system calls are part of the state: `faults n` is what the call
number `n` returns, 0 for success. -/
set_option autoImplicit false
namespace RouteGuard

open HashTable Fallible

/-! ## The operating system's table -/

/-- A row of the forwarding table; destination prefix and interface are its key. -/
structure OsRoute where
  dest : IpNet
  ifIndex : Nat
  metric : Nat
deriving DecidableEq, Repr

structure Os where
  rows : List OsRoute := []
  calls : Nat := 0
  faults : Nat → Nat := fun _ => 0

namespace Os

def Healthy (os : Os) : Prop := ∀ call, os.faults call = 0

def keyed (dest : IpNet) (ifIndex : Nat) (row : OsRoute) : Bool :=
  decide (row.dest = dest ∧ row.ifIndex = ifIndex)

def create (os : Os) (row : OsRoute) : Nat × Os :=
  let status := os.faults os.calls
  (status, { os with
    calls := os.calls + 1
    rows := if status = 0 then os.rows.filter (fun r => !keyed row.dest row.ifIndex r) ++ [row]
      else os.rows })

/-- `DeleteIpForwardEntry2`; 1168 is `ERROR_NOT_FOUND`. -/
def delete (os : Os) (dest : IpNet) (ifIndex : Nat) : Nat × Os :=
  let status := os.faults os.calls
  let os := { os with calls := os.calls + 1 }
  if status ≠ 0 then (status, os)
  else if os.rows.any (keyed dest ifIndex) then
    (0, { os with rows := os.rows.filter fun r => !keyed dest ifIndex r })
  else (1168, os)

end Os

/-! ## Calls into the operating system -/

def swapBytes (bits : BitVec 32) : BitVec 32 :=
  bits.extractLsb' 0 8 ++ bits.extractLsb' 8 8 ++ bits.extractLsb' 16 8 ++ bits.extractLsb' 24 8

/-- The destination the system sees: `S_addr` is read in memory order, and
`u32::from_be_bytes` of the octets lies there reversed on a little-endian machine. -/
def osDest : IpNet → IpNet
  | .v4 net => .v4 { net with addr := swapBytes net.addr }
  | .v6 net => .v6 net

structure RouteTableManager where
  nextHandle : Nat := 1
  routes : Table Nat IpNet := ∅
  os : Os := {}

namespace RouteTableManager

def osAdd (cidr : IpNet) (ifIndex metric : Nat) : Prog RouteTableManager RouteGuardError PUnit := do
  let table ← get
  let (status, os) := table.os.create ⟨osDest cidr, ifIndex, metric⟩
  set { table with os := os }
  if status ≠ 0 then
    throw (.platform ("CreateIpForwardEntry2 failed: " ++ toString status))

/-- `windows_routes::delete_route`: the row is zeroed but for the destination. -/
def osDelete (cidr : IpNet) : Prog RouteTableManager RouteGuardError PUnit := do
  let table ← get
  let (status, os) := table.os.delete (osDest cidr) 0
  set { table with os := os }
  if status ≠ 0 ∧ status ≠ 1168 then
    throw (.platform ("DeleteIpForwardEntry2 failed: " ++ toString status))

def addRoute (cidr : IpNet) (ifIndex metric : Nat) :
    Prog RouteTableManager RouteGuardError Nat := do
  let handle := (← get).nextHandle
  modify fun table => { table with nextHandle := table.nextHandle + 1 }
  osAdd cidr ifIndex metric
  modify fun table => { table with routes := table.routes.insert handle cidr }
  pure handle

def setDefaultViaTunnel (ifIndex : Nat) (cidr : IpNet) :
    Prog RouteTableManager RouteGuardError Nat :=
  addRoute cidr ifIndex 100

def addBypassRoute (cidr : IpNet) (ifIndex : Nat) : Prog RouteTableManager RouteGuardError Nat :=
  addRoute cidr ifIndex 5

def addHostRouteOutsideTunnel (cidr : IpNet) (tunnelIfIndex : Nat) :
    Prog RouteTableManager RouteGuardError Nat :=
  addRoute cidr tunnelIfIndex 0

def removeRoute (handle : Nat) : Prog RouteTableManager RouteGuardError PUnit := do
  match (← get).routes.get handle with
  | none => pure ⟨⟩
  | some cidr =>
      modify fun table => { table with routes := table.routes.remove handle }
      osDelete cidr

end RouteTableManager

/-! ## Routes of one session -/

structure DomainRouteHandle where
  ip : IpAddr
  routeHandle : Nat
  expiresAt : Nat
  target : RouteTarget
deriving DecidableEq, Repr

structure SessionRoutes where
  wgHandles : List Nat := []
  splitHandles : List Nat := []
  domainRoutes : Table IpAddr DomainRouteHandle := ∅
  wfpFilterIds : List Nat := []

structure RouteState where
  session : SessionRoutes := {}
  table : RouteTableManager := {}

abbrev RouteProg (A : Type) := Prog RouteState RouteGuardError A

namespace SessionRoutes

def onTable {A : Type} (m : Prog RouteTableManager RouteGuardError A) : RouteProg A :=
  zoom RouteState.table (fun table st => { st with table := table }) m

def modifySession (f : SessionRoutes → SessionRoutes) : RouteProg PUnit :=
  modify fun st => { st with session := f st.session }

def pushWg (handle : Nat) : RouteProg PUnit :=
  modifySession fun session => { session with wgHandles := session.wgHandles ++ [handle] }

def addDefaultRoute (cidr : IpNet) (ifIndex : Nat) : RouteProg PUnit := do
  pushWg (← onTable (RouteTableManager.setDefaultViaTunnel ifIndex cidr))

def addBypass (cidr : IpNet) (ifIndex : Nat) : RouteProg PUnit := do
  pushWg (← onTable (RouteTableManager.addBypassRoute cidr ifIndex))

def addEndpointBypass (endpoint : SocketAddr) (tunnelIfIndex : Nat) : RouteProg PUnit := do
  pushWg (← onTable (RouteTableManager.addHostRouteOutsideTunnel (IpNet.host endpoint.ip)
    tunnelIfIndex))

/-! ### Split routes -/

def defaultV4 : IpNet := .v4 ⟨0, 0, by decide⟩

def defaultV6 : IpNet := .v6 ⟨0, 0, by decide⟩

/-- One `self.split_handles.push(table.add_route(..)?)`. -/
def addSplit (cidr : IpNet) (ifIndex metric : Nat) : RouteProg PUnit := do
  let handle ← onTable (RouteTableManager.addRoute cidr ifIndex metric)
  modifySession fun session => { session with splitHandles := session.splitHandles ++ [handle] }

/-- One CIDR text of the policy; `label` opens the text of a parse error. -/
def addSplitText (env : Externals) (label : String) (ifIndex metric : Nat) (cidr : String) :
    RouteProg PUnit :=
  match env.parseNet cidr with
  | .error e => throw (.routing (label ++ ": " ++ e))
  | .ok net => addSplit net ifIndex metric

/-- The handles leave the list before the first removal. -/
def clearSplit : RouteProg PUnit := do
  let handles := (← get).session.splitHandles
  modifySession fun session => { session with splitHandles := [] }
  forEach (fun handle => onTable (RouteTableManager.removeRoute handle)) handles

def installSplitRoutes (env : Externals) (policy : PolicySnapshot) : RouteProg PUnit := do
  clearSplit
  match policy.tunnelIfIndex, policy.physicalIfIndex with
  | some tunnelIf, some physicalIf => do
      addSplit defaultV4 physicalIf 1
      addSplit defaultV4 tunnelIf 100
      addSplit defaultV6 physicalIf 1
      addSplit defaultV6 tunnelIf 100
      forEach (addSplitText env "bad cidr" physicalIf 1) policy.bypassCidrs
      forEach (addSplitText env "bad dynamic tunnel" tunnelIf 100) policy.dynamicTunnelHosts
  | _, _ => pure ⟨⟩

/-! ### Domain routes -/

def removeDomainRoute (ip : IpAddr) : RouteProg PUnit := do
  match (← get).session.domainRoutes.get ip with
  | none => pure ⟨⟩
  | some entry =>
      modifySession fun session => { session with domainRoutes := session.domainRoutes.remove ip }
      onTable (RouteTableManager.removeRoute entry.routeHandle)

/-- The interface and the metric of a host route; a Block target has none. -/
def hostRoute (target : RouteTarget) (tunnelIf physicalIf : Nat) : Option (Nat × Nat) :=
  match target with
  | .bypass => some (physicalIf, 1)
  | .tunnel => some (tunnelIf, 100)
  | .block => none

def addDomainRoute (ip : IpAddr) (target : RouteTarget) (tunnelIf physicalIf expiresAt : Nat) :
    RouteProg PUnit :=
  match hostRoute target tunnelIf physicalIf with
  | none => pure ⟨⟩
  | some (ifIndex, metric) => do
      let handle ← onTable (RouteTableManager.addRoute (IpNet.host ip) ifIndex metric)
      modifySession fun session => { session with
        domainRoutes := session.domainRoutes.insert ip ⟨ip, handle, expiresAt, target⟩ }

def installDomainRoute (ip : IpAddr) (target : RouteTarget) (tunnelIf physicalIf expiresAt : Nat) :
    RouteProg PUnit := do
  match (← get).session.domainRoutes.get ip with
  | none => addDomainRoute ip target tunnelIf physicalIf expiresAt
  | some existing =>
      if expiresAt ≤ existing.expiresAt ∧ existing.target = target then pure ⟨⟩
      else do
        removeDomainRoute ip
        addDomainRoute ip target tunnelIf physicalIf expiresAt

def purgeExpiredDomainRoutes (o : Order) (now : Nat) : RouteProg (List IpAddr) := do
  let expired := ((o.items (← get).session.domainRoutes).filter
    fun row => row.2.expiresAt ≤ now).map Prod.fst
  forEach removeDomainRoute expired
  pure expired

def clearDomainRoutes (o : Order) : RouteProg PUnit := do
  let ips := o.keys (← get).session.domainRoutes
  forEach removeDomainRoute ips

def clear (o : Order) : RouteProg PUnit := do
  clearDomainRoutes o
  clearSplit
  let handles := (← get).session.wgHandles
  modifySession fun session => { session with wgHandles := [] }
  forEach (fun handle => onTable (RouteTableManager.removeRoute handle)) handles
  modifySession fun session => { session with wfpFilterIds := [] }

end SessionRoutes
end RouteGuard
