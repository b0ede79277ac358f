import SearchR1.Library.LruCache
import SearchR1.Library.Runs
import Mathlib.Data.Multiset.AddSub
import Mathlib.Data.Multiset.Count

/-! # The load balancer of the LLM servers

The routing cache is that of a library. It is a parameter with what its documentation says: it
holds up to `maxsize` items and discards the least recently used ones first. -/

namespace SearchR1.LlmServer

variable {R S H : Type} [DecidableEq R] [DecidableEq S]

/-- `cachetools.LRUCache`. -/
structure RoutingCache (R S : Type) [DecidableEq R] where
  Cache : Type
  maxsize : ℕ
  empty : Cache
  /-- The items, the least recently used one first. -/
  items : Cache → Dict R S
  getitem : Cache → R → Cache
  setitem : Cache → R → S → Cache
  delitem : Cache → R → Cache
  maxsize_pos : 0 < maxsize
  items_empty : items empty = []
  items_getitem : ∀ c k, items (getitem c k) = LruCache.moveToEnd (items c) k
  items_setitem : ∀ c k v, k ∉ (items c).keys → items (setitem c k v) =
    (if (items c).length < maxsize then items c else (items c).drop 1) ++ [(k, v)]
  items_delitem : ∀ c k, items (delitem c k) = (items c).pop k

variable {routing : RoutingCache R S}

/-- `GlobalRequestLoadBalancer`. The counts and the handles are of the same servers, each once. -/
structure LoadBalancer (routing : RoutingCache R S) (H : Type) where
  servers : Dict S H
  inflightRequests : Dict S ℕ
  requestIdToServer : routing.Cache
  fullDeterminism : Bool
  keys_eq : inflightRequests.keys = servers.keys
  nodup : inflightRequests.keys.Nodup

namespace LoadBalancer

theorem keys_set_eq {d : Dict S ℕ} {e : Dict S H} (h : d.keys = e.keys) (sid : S) (c : ℕ)
    (handle : H) : (d.set sid c).keys = (e.set sid handle).keys := by
  rw [Dict.keys_set, Dict.keys_set, h]

theorem keys_pop {ν : Type} (d : Dict S ν) (sid : S) :
    (d.pop sid).keys = d.keys.filter (· ≠ sid) := by
  simp [Dict.keys, Dict.pop, List.filter_map, Function.comp_def]

/-- `self._inflight_requests[sid] = count` for a server of the pool. -/
def setCount (lb : LoadBalancer routing H) (sid : S) (count : ℕ)
    (h : sid ∈ lb.inflightRequests.keys) : LoadBalancer routing H where
  servers := lb.servers
  inflightRequests := lb.inflightRequests.set sid count
  requestIdToServer := lb.requestIdToServer
  fullDeterminism := lb.fullDeterminism
  keys_eq := by rw [Dict.keys_set, if_pos h, lb.keys_eq]
  nodup := Dict.nodup_keys_set _ _ _ lb.nodup

/-- `GlobalRequestLoadBalancer(servers)`; no server raises. -/
def new (routing : RoutingCache R S) (servers : Dict S H) (h : servers.keys.Nodup)
    (fullDeterminism : Bool) : Option (LoadBalancer routing H) :=
  if servers = [] then none
  else some {
    servers
    inflightRequests := servers.map fun entry => (entry.1, 0)
    requestIdToServer := routing.empty
    fullDeterminism
    keys_eq := by simp [Dict.keys]
    nodup := by simpa [Dict.keys, Function.comp_def] using h }

/-- The server for a request that is on none: one of the least loaded, the first of them or, with
`full_determinism`, the one that the hash of the request picks. -/
def selectServer (hash : R → ℤ) (lb : LoadBalancer routing H) (requestId : R) : Option S :=
  (lb.inflightRequests.map Prod.snd).min?.bind fun minCount =>
    let candidates := (lb.inflightRequests.filter fun entry => entry.2 = minCount).map Prod.fst
    if candidates.length ≠ 1 ∧ lb.fullDeterminism then
      candidates[(hash requestId % candidates.length).toNat]?
    else candidates.head?

/-- A server serves one more request. -/
def serve (lb : LoadBalancer routing H) (sid : S) : LoadBalancer routing H :=
  if h : sid ∈ lb.inflightRequests.keys then
    lb.setCount sid ((lb.inflightRequests.get? sid).getD 0 + 1) h
  else lb

/-- The server a request is on, while it is in the pool. -/
def stickyServer (lb : LoadBalancer routing H) (requestId : R) : Option S :=
  ((routing.items lb.requestIdToServer).get? requestId).filter fun sid =>
    sid ∈ lb.inflightRequests.keys

def withRoutes (lb : LoadBalancer routing H) (routes : routing.Cache) : LoadBalancer routing H :=
  { lb with requestIdToServer := routes }

/-- What a failed lookup leaves of the cache: the entry of a server that was removed goes. -/
def forget (lb : LoadBalancer routing H) (requestId : R) : LoadBalancer routing H :=
  if requestId ∈ (routing.items lb.requestIdToServer).keys then
    lb.withRoutes (routing.delitem (routing.getitem lb.requestIdToServer requestId) requestId)
  else lb

/-- `acquire_server`: the server with its handle, `none` when it raises, and the state after it. -/
def acquireServer (hash : R → ℤ) (lb : LoadBalancer routing H) (requestId : R) :
    Option (S × H) × LoadBalancer routing H :=
  match lb.stickyServer requestId with
  | some sid =>
      let lb := (lb.withRoutes (routing.getitem lb.requestIdToServer requestId)).serve sid
      ((lb.servers.get? sid).map fun handle => (sid, handle), lb)
  | none =>
      let lb := lb.forget requestId
      match lb.selectServer hash requestId with
      | none => (none, lb)
      | some sid =>
          let lb := (lb.withRoutes
            (routing.setitem lb.requestIdToServer requestId sid)).serve sid
          ((lb.servers.get? sid).map fun handle => (sid, handle), lb)

/-- `release_server`. -/
def releaseServer (lb : LoadBalancer routing H) (sid : S) : LoadBalancer routing H :=
  if h : sid ∈ lb.inflightRequests.keys then
    let count := (lb.inflightRequests.get? sid).getD 0
    if 0 < count then lb.setCount sid (count - 1) h else lb
  else lb

def addServer (lb : LoadBalancer routing H) (entry : S × H) : LoadBalancer routing H where
  servers := lb.servers.set entry.1 entry.2
  inflightRequests := lb.inflightRequests.set entry.1 0
  requestIdToServer := lb.requestIdToServer
  fullDeterminism := lb.fullDeterminism
  keys_eq := keys_set_eq lb.keys_eq _ _ _
  nodup := Dict.nodup_keys_set _ _ _ lb.nodup

/-- `add_servers`. -/
def addServers (lb : LoadBalancer routing H) (servers : Dict S H) : LoadBalancer routing H :=
  servers.foldl addServer lb

def removeServer (lb : LoadBalancer routing H) (sid : S) : LoadBalancer routing H where
  servers := lb.servers.pop sid
  inflightRequests := lb.inflightRequests.pop sid
  requestIdToServer := lb.requestIdToServer
  fullDeterminism := lb.fullDeterminism
  keys_eq := by rw [keys_pop, keys_pop, lb.keys_eq]
  nodup := by
    rw [keys_pop]
    exact lb.nodup.filter _

/-- `remove_servers`. -/
def removeServers (lb : LoadBalancer routing H) (serverIds : List S) : LoadBalancer routing H :=
  serverIds.foldl removeServer lb

/-- `get_inflight_count`. -/
def getInflightCount (lb : LoadBalancer routing H) (sid : S) : ℕ :=
  (lb.inflightRequests.get? sid).getD 0

end LoadBalancer

/-! ## The clients and the manager around it -/

/-- The calls the balancer serves, one at a time and in any order. -/
inductive Call (R S H : Type) where
  | acquire (requestId : R)
  /-- The release that a client sends when its request is done. -/
  | release (sid : S)
  | add (servers : Dict S H)
  | remove (serverIds : List S)

/-- The balancer together with the servers of the requests that were not yet released. -/
structure System (routing : RoutingCache R S) (H : Type) where
  balancer : LoadBalancer routing H
  outstanding : Multiset S

/-- One call. -/
def System.call (hash : R → ℤ) (s : System routing H) : Call R S H → System routing H
  | .acquire requestId =>
      let (served, balancer) := s.balancer.acquireServer hash requestId
      match served with
      | some (sid, _) => { balancer, outstanding := sid ::ₘ s.outstanding }
      | none => { s with balancer }
  | .release sid =>
      { balancer := s.balancer.releaseServer sid, outstanding := s.outstanding.erase sid }
  | .add servers => { s with balancer := s.balancer.addServers servers }
  | .remove serverIds => { s with balancer := s.balancer.removeServers serverIds }

/-- A client releases only what it acquired. -/
def System.Enabled (s : System routing H) : Call R S H → Prop
  | .release sid => sid ∈ s.outstanding
  | _ => True

/-- The calls of all clients and of the manager, interleaved in any way. -/
def System.machine (hash : R → ℤ) (routing : RoutingCache R S) (H : Type) :
    Runs.Machine (System routing H) (Call R S H) where
  init s := ∃ servers h fullDeterminism,
    LoadBalancer.new routing servers h fullDeterminism = some s.balancer ∧ s.outstanding = 0
  step s calls s' := ∃ call, s.Enabled call ∧ calls = [call] ∧ s' = s.call hash call

end SearchR1.LlmServer
