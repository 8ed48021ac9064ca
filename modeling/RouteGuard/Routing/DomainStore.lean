import RouteGuard.Lib.HashTable
import RouteGuard.Lib.WhileLoop
import RouteGuard.Routing.Rules

/-! # The domain route store and the engine's domain cache

`domain_store.rs` and the resolved part of `domain.rs`.  A call that reads the
wall clock takes the reading `now` in seconds as an argument; a call that walks
a hash map takes the order of the walk. -/
set_option autoImplicit false
namespace RouteGuard

open HashTable

/-! ## Clocks -/

/-- The two clocks of the host, in nanoseconds: `SystemTime` since the epoch and `Instant`. -/
structure Clock where
  wall : Nat
  mono : Nat
deriving DecidableEq, Repr

def nanosPerSec : Nat := 1000000000

def Clock.nowUnix (clock : Clock) : Nat := clock.wall / nanosPerSec

def Clock.advance (clock : Clock) (nanos : Nat) : Clock := ⟨clock.wall + nanos, clock.mono + nanos⟩

/-! ## Domain cache -/

structure CachedIp where
  ips : List IpAddr
  expires : Nat
  target : RouteTarget
deriving DecidableEq, Repr

structure DomainCache where
  rules : List DomainRuleEntry
  resolved : Table String CachedIp
  ipIndex : Table IpAddr RouteTarget

namespace DomainCache

def fromRules (rules : List DomainRule) : DomainCache := ⟨domainRuleEntries rules, ∅, ∅⟩

def clearResolved (cache : DomainCache) : DomainCache := { cache with resolved := ∅, ipIndex := ∅ }

/-- The entry written under a domain: the addresses accumulate, expiry and target are replaced. -/
def mergeCached (old : Option CachedIp) (ip : IpAddr) (target : RouteTarget) (expiry : Nat) :
    CachedIp :=
  match old with
  | some cached => ⟨if ip ∈ cached.ips then cached.ips else cached.ips ++ [ip], expiry, target⟩
  | none => ⟨[ip], expiry, target⟩

def insertResolved (clock : Clock) (cache : DomainCache) (domain : String) (ip : IpAddr)
    (target : RouteTarget) (expiresAtUnix : Nat) : DomainCache :=
  let now := clock.nowUnix
  if expiresAtUnix ≤ now then cache
  else
    let ttl := expiresAtUnix - now
    let expiry := clock.mono + ttl * nanosPerSec
    let key := normalizeDomain domain
    { cache with
      ipIndex := cache.ipIndex.insert ip target
      resolved := cache.resolved.insert key
        (mergeCached (cache.resolved.get key) ip target expiry) }

def listed (clock : Clock) (cache : DomainCache) (ip : IpAddr) : Bool :=
  cache.resolved.items.any fun row => decide (clock.mono < row.2.expires) && row.2.ips.contains ip

def lookupIp (clock : Clock) (cache : DomainCache) (ip : IpAddr) : Option RouteTarget :=
  match cache.ipIndex.get ip with
  | none => none
  | some target => if cache.listed clock ip then some target else none

end DomainCache

/-! ## Store -/

structure ResolvedIpEntry where
  ip : IpAddr
  domain : String
  pattern : String
  target : RouteTarget
  expiresAt : Nat
  ttlSecs : Nat
deriving DecidableEq, Repr

structure DomainRouteStoreConfig where
  maxResolvedIps : Nat := 50000
  maxDomains : Nat := 10000
  minTtlSecs : Nat := 30
  maxTtlSecs : Nat := 3600
deriving DecidableEq, Repr

structure ApplyDiff where
  added : List ResolvedIpEntry := []
  removed : List ResolvedIpEntry := []
  refreshed : List ResolvedIpEntry := []
deriving DecidableEq, Repr

structure DomainRouteStore where
  rules : List DomainRuleEntry := []
  byIp : Table IpAddr ResolvedIpEntry := ∅
  byDomain : Table String (Table IpAddr Unit) := ∅
  generation : Nat := 0
  config : DomainRouteStoreConfig := {}

structure PersistedDomainCache where
  version : Nat
  generation : Nat
  entries : List ResolvedIpEntry
deriving DecidableEq, Repr

def clampTtl (ttl : Nat) (config : DomainRouteStoreConfig) : Nat :=
  min (max ttl config.minTtlSecs) config.maxTtlSecs

namespace DomainRouteStore

def new (config : DomainRouteStoreConfig) : DomainRouteStore := { config := config }

/-- `saturating_add` on the `u64` counter. -/
def bumpGeneration (s : DomainRouteStore) : DomainRouteStore :=
  { s with generation := min (s.generation + 1) (2 ^ 64 - 1) }

def setRules (s : DomainRouteStore) (rules : List DomainRule) : DomainRouteStore :=
  bumpGeneration { s with rules := domainRuleEntries rules }

def matchDomain (env : Externals) (s : DomainRouteStore) (domain : String) :
    Option DomainRuleEntry :=
  RouteGuard.matchDomain env s.rules (normalizeDomain domain)

def entryForIp (now : Nat) (s : DomainRouteStore) (ip : IpAddr) : Option ResolvedIpEntry :=
  match s.byIp.get ip with
  | none => none
  | some entry => if entry.expiresAt ≤ now then none else some entry

def lookupIp (now : Nat) (s : DomainRouteStore) (ip : IpAddr) : Option RouteTarget :=
  (s.entryForIp now ip).map ResolvedIpEntry.target

/-! ### Index maintenance -/

def unindex (byDomain : Table String (Table IpAddr Unit)) (domain : String) (ip : IpAddr) :
    Table String (Table IpAddr Unit) :=
  match byDomain.get domain with
  | none => byDomain
  | some ips =>
      if (ips.remove ip).size = 0 then byDomain.remove domain
      else byDomain.insert domain (ips.remove ip)

/-- `by_domain.entry(domain).or_default().insert(ip)`. -/
def index (byDomain : Table String (Table IpAddr Unit)) (domain : String) (ip : IpAddr) :
    Table String (Table IpAddr Unit) :=
  byDomain.insert domain (((byDomain.get domain).getD ∅).insert ip ())

def removeIp (s : DomainRouteStore) (ip : IpAddr) : Option ResolvedIpEntry × DomainRouteStore :=
  match s.byIp.get ip with
  | none => (none, s)
  | some entry =>
      (some entry,
        { s with byIp := s.byIp.remove ip, byDomain := unindex s.byDomain entry.domain ip })

def removeIps : DomainRouteStore → List IpAddr → List ResolvedIpEntry × DomainRouteStore
  | s, [] => ([], s)
  | s, ip :: rest =>
      let (removed, s) := s.removeIp ip
      let (others, s) := removeIps s rest
      (removed.toList ++ others, s)

/-! ### Caps -/

/-- One iteration of the first eviction loop: the entry that expires first goes. -/
def evictOldest (o : Order) (s : DomainRouteStore) : Option DomainRouteStore :=
  if s.config.maxResolvedIps < s.byIp.size then
    match (o.items s.byIp).argmin fun row => row.2.expiresAt with
    | some (ip, _) => some (s.removeIp ip).2
    | none => none
  else none

def domainExpiry (o : Order) (s : DomainRouteStore) (ips : Table IpAddr Unit) : Option Nat :=
  (((o.keys ips).filterMap s.byIp.get).map ResolvedIpEntry.expiresAt).min?

def victimDomain (o : Order) (s : DomainRouteStore) : Option String :=
  let candidates := (o.items s.byDomain).filterMap fun row =>
    (s.domainExpiry o row.2).map fun expiry => (row.1, expiry)
  (candidates.argmin Prod.snd).map Prod.fst

def evictDomain (o : Order) (s : DomainRouteStore) : Option DomainRouteStore :=
  if s.config.maxDomains < s.byDomain.size then
    match s.victimDomain o with
    | some domain =>
        some { s with
          byDomain := s.byDomain.remove domain
          byIp := s.byIp.removeAll (o.keys ((s.byDomain.get domain).getD ∅)) }
    | none => none
  else none

/-- Both loops; each iteration shortens the map its fuel is the size of. -/
def enforceCaps (o : Order) (s : DomainRouteStore) : DomainRouteStore :=
  let s := WhileLoop.iterate (evictOldest o) s.byIp.size s
  WhileLoop.iterate (evictDomain o) s.byDomain.size s

/-- `insert_entry` before its call of `enforce_caps`. -/
def indexEntry (s : DomainRouteStore) (entry : ResolvedIpEntry) : DomainRouteStore :=
  let byDomain :=
    match s.byIp.get entry.ip with
    | some old => unindex s.byDomain old.domain entry.ip
    | none => s.byDomain
  { s with
    byIp := s.byIp.insert entry.ip entry
    byDomain := index byDomain entry.domain entry.ip }

def insertEntry (o : Order) (s : DomainRouteStore) (entry : ResolvedIpEntry) : DomainRouteStore :=
  enforceCaps o (s.indexEntry entry)

/-! ### Answers -/

/-- A record of an answer with its clamped lifetime. -/
structure Resolved where
  ip : IpAddr
  ttl : Nat
  expiresAt : Nat
deriving DecidableEq, Repr

def resolve (now : Nat) (config : DomainRouteStoreConfig) (record : IpAddr × Nat) : Resolved :=
  ⟨record.1, clampTtl record.2 config, now + clampTtl record.2 config⟩

def Resolved.entry (record : Resolved) (domain : String) (rule : DomainRuleEntry) :
    ResolvedIpEntry :=
  ⟨record.ip, domain, rule.pattern, rule.target, record.expiresAt, record.ttl⟩

/-- The entry of an address that the same domain holds under the same rule: a new answer
only changes its lifetime. -/
def refreshable (s : DomainRouteStore) (domain : String) (rule : DomainRuleEntry) (ip : IpAddr) :
    Option ResolvedIpEntry :=
  (s.byIp.get ip).filter fun e =>
    decide (e.domain = domain ∧ e.pattern = rule.pattern ∧ e.target = rule.target)

/-- One round of the record loop of `apply_resolved`. -/
def applyRecord (o : Order) (domain : String) (rule : DomainRuleEntry)
    (state : ApplyDiff × DomainRouteStore) (record : Resolved) : ApplyDiff × DomainRouteStore :=
  let (diff, s) := state
  match s.refreshable domain rule record.ip with
  | some existing =>
      let updated := { existing with ttlSecs := record.ttl, expiresAt := record.expiresAt }
      ({ diff with refreshed := diff.refreshed ++ [updated] },
        { s with byIp := s.byIp.insert record.ip updated })
  | none =>
      let entry := record.entry domain rule
      ({ diff with added := diff.added ++ [entry] }, s.insertEntry o entry)

def applyRecords (o : Order) (domain : String) (rule : DomainRuleEntry)
    (state : ApplyDiff × DomainRouteStore) (records : List Resolved) :
    ApplyDiff × DomainRouteStore :=
  records.foldl (applyRecord o domain rule) state

/-- The addresses the domain held and the answer no longer lists. -/
def dropped (o : Order) (s : DomainRouteStore) (domain : String) (ips : List IpAddr) :
    List IpAddr :=
  (o.keys ((s.byDomain.get domain).getD ∅)).filter fun ip => !ips.contains ip

def applyResolved (o : Order) (now : Nat) (s : DomainRouteStore) (domain : String)
    (ips : List (IpAddr × Nat)) (rule : DomainRuleEntry) : ApplyDiff × DomainRouteStore :=
  let domain := normalizeDomain domain
  let records := ips.map (resolve now s.config)
  let (removed, s) := s.removeIps (s.dropped o domain (ips.map Prod.fst))
  let (diff, s) := applyRecords o domain rule ({ removed := removed }, s) records
  if diff.added.isEmpty && diff.removed.isEmpty && diff.refreshed.isEmpty then
    (diff, { s with byDomain := s.byDomain.insert domain ((s.byDomain.get domain).getD ∅) })
  else (diff, s)

def purgeExpired (o : Order) (now : Nat) (s : DomainRouteStore) :
    List ResolvedIpEntry × DomainRouteStore :=
  s.removeIps (((o.items s.byIp).filter fun row => row.2.expiresAt ≤ now).map Prod.fst)

def clear (s : DomainRouteStore) : DomainRouteStore :=
  bumpGeneration { s with byIp := ∅, byDomain := ∅ }

def ruled (rules : List DomainRuleEntry) (pattern : String) (target : RouteTarget) : Bool :=
  rules.any fun rule => decide (rule.pattern = pattern ∧ rule.target = target)

def pruneUnmatchedRules (o : Order) (s : DomainRouteStore) :
    List ResolvedIpEntry × DomainRouteStore :=
  s.removeIps
    (((o.items s.byIp).filter fun row => !ruled s.rules row.2.pattern row.2.target).map Prod.fst)

/-! ### Persistence -/

def toPersisted (o : Order) (s : DomainRouteStore) : PersistedDomainCache :=
  ⟨1, s.generation, o.values s.byIp⟩

/-- `persist_json` with what `serde_json` makes of a value as a parameter. -/
def persistJson (encode : PersistedDomainCache → Except String String) (o : Order)
    (s : DomainRouteStore) : Except String String :=
  (encode (s.toPersisted o)).mapError fun e => "serialize domain cache: " ++ e

/-- `load_persisted` on what `serde_json` reads from the file. -/
def loadPersisted (o : Order) (now : Nat) (parsed : Except String PersistedDomainCache)
    (config : DomainRouteStoreConfig) : Except String DomainRouteStore :=
  match parsed with
  | .error e => .error ("parse domain cache: " ++ e)
  | .ok parsed =>
      if parsed.version ≠ 1 then
        .error ("unsupported domain cache version " ++ toString parsed.version)
      else
        .ok ((parsed.entries.filter fun entry => now < entry.expiresAt).foldl (insertEntry o)
          { new config with generation := parsed.generation })

/-! ### Derived views -/

def hostCidrsForTarget (o : Order) (now : Nat) (s : DomainRouteStore) (target : RouteTarget) :
    List String :=
  ((o.values s.byIp).filter fun e => decide (e.target = target ∧ now < e.expiresAt)).map
    fun e => ipToHostCidr e.ip

/-- `sync_domain_cache`, at one reading of the two clocks. -/
def syncDomainCache (o : Order) (clock : Clock) (s : DomainRouteStore) (cache : DomainCache) :
    DomainCache :=
  ((o.values s.byIp).filter fun e => clock.nowUnix < e.expiresAt).foldl
    (fun cache e => cache.insertResolved clock e.domain e.ip e.target e.expiresAt)
    cache.clearResolved

end DomainRouteStore
end RouteGuard
