import SearchR1.Model.RequestLoadBalancer

/-! # What the counts of the load balancer say -/

namespace SearchR1.LlmServer

variable {R S H : Type} [DecidableEq R] [DecidableEq S] {routing : RoutingCache R S}

namespace LoadBalancer

variable {lb : LoadBalancer routing H} {sid : S} {requestId : R} (hash : R → ℤ)

/-! ## The counts after each operation -/

/-- The count of a server of the pool. -/
def count? (lb : LoadBalancer routing H) (sid : S) : Option ℕ := lb.inflightRequests.get? sid

theorem mem_keys_iff : sid ∈ lb.inflightRequests.keys ↔ ∃ c, lb.count? sid = some c := by
  rw [← Option.isSome_iff_exists, Option.isSome_iff_ne_none, ne_eq, count?,
    Dict.get?_eq_none_iff, not_not]

theorem exists_handle (h : sid ∈ lb.inflightRequests.keys) :
    ∃ handle, lb.servers.get? sid = some handle := by
  rw [lb.keys_eq] at h
  rw [← Option.isSome_iff_exists, Option.isSome_iff_ne_none, ne_eq, Dict.get?_eq_none_iff, not_not]
  exact h

theorem count?_setCount {c : ℕ} (h : sid ∈ lb.inflightRequests.keys) (other : S) :
    (lb.setCount sid c h).count? other = if other = sid then some c else lb.count? other := by
  by_cases hother : other = sid
  · subst hother
    rw [if_pos rfl]
    exact Dict.get?_set_self _ _ _
  · rw [if_neg hother]
    exact Dict.get?_set_of_ne _ _ hother

theorem count?_serve {c : ℕ} (h : lb.count? sid = some c) (other : S) :
    (lb.serve sid).count? other = if other = sid then some (c + 1) else lb.count? other := by
  have hmem := mem_keys_iff.mpr ⟨c, h⟩
  have hcount : (lb.inflightRequests.get? sid).getD 0 = c := by
    rw [show lb.inflightRequests.get? sid = some c from h]
    rfl
  rw [serve, dif_pos hmem, count?_setCount, hcount]

/-- A release takes one from the count of its server, where there is one to take. -/
theorem count?_releaseServer (lb : LoadBalancer routing H) (sid other : S) :
    (lb.releaseServer sid).count? other =
      if other = sid then (lb.count? sid).map (· - 1) else lb.count? other := by
  rw [releaseServer]
  split
  · rename_i hmem
    rcases mem_keys_iff.mp hmem with ⟨c, hc⟩
    have hget : (lb.inflightRequests.get? sid).getD 0 = c := by
      rw [show lb.inflightRequests.get? sid = some c from hc]
      rfl
    simp only [hget]
    split
    · rw [count?_setCount, hc]
      rfl
    · rename_i hzero
      have hc' : c = 0 := by omega
      subst hc'
      by_cases hother : other = sid
      · rw [if_pos hother, hother, hc]
        rfl
      · rw [if_neg hother]
  · rename_i hmem
    have hnone : lb.count? sid = none := (Dict.get?_eq_none_iff _ _).mpr hmem
    by_cases hother : other = sid
    · rw [if_pos hother, hother, hnone]
      rfl
    · rw [if_neg hother]

theorem count?_addServers (lb : LoadBalancer routing H) (servers : Dict S H) (other : S) :
    (lb.addServers servers).count? other =
      if other ∈ servers.keys then some 0 else lb.count? other := by
  induction servers generalizing lb with
  | nil => rfl
  | cons entry servers ih =>
      rw [addServers, List.foldl_cons, ← addServers, ih]
      by_cases hrest : other ∈ Dict.keys servers
      · rw [if_pos hrest, if_pos (show other ∈ Dict.keys (entry :: servers) from
          List.mem_cons_of_mem entry.1 hrest)]
      · rw [if_neg hrest]
        by_cases hother : other = entry.1
        · have hmem : other ∈ Dict.keys (entry :: servers) := by
            rw [hother]
            exact List.mem_cons_self
          rw [if_pos hmem, hother]
          exact Dict.get?_set_self _ _ _
        · have hmem : other ∉ Dict.keys (entry :: servers) := fun h =>
            (List.mem_cons.mp h).elim hother hrest
          rw [if_neg hmem]
          exact Dict.get?_set_of_ne _ _ hother

theorem count?_removeServers (lb : LoadBalancer routing H) (serverIds : List S) (other : S) :
    (lb.removeServers serverIds).count? other =
      if other ∈ serverIds then none else lb.count? other := by
  induction serverIds generalizing lb with
  | nil => rfl
  | cons sid serverIds ih =>
      rw [removeServers, List.foldl_cons, ← removeServers, ih]
      by_cases hrest : other ∈ serverIds
      · rw [if_pos hrest, if_pos (List.mem_cons_of_mem sid hrest)]
      · rw [if_neg hrest]
        by_cases hother : other = sid
        · rw [if_pos (by rw [hother]; exact List.mem_cons_self), hother]
          exact Dict.get?_pop_self _ _
        · rw [if_neg fun h => (List.mem_cons.mp h).elim hother hrest]
          exact Dict.get?_pop_of_ne _ hother

/-! ## What an acquisition does -/

/-- A server is selected from every pool, and it is one with the fewest requests. -/
theorem selectServer_cases (lb : LoadBalancer routing H) (requestId : R) :
    (lb.inflightRequests = [] ∧ lb.selectServer hash requestId = none) ∨
      ∃ sid c, lb.selectServer hash requestId = some sid ∧ lb.count? sid = some c ∧
        ∀ other c', lb.count? other = some c' → c ≤ c' := by
  cases hmin : (lb.inflightRequests.map Prod.snd).min? with
  | none =>
      left
      rw [List.min?_eq_none_iff, List.map_eq_nil_iff] at hmin
      exact ⟨hmin, by rw [selectServer, hmin]; rfl⟩
  | some c =>
      right
      rw [List.min?_eq_some_iff] at hmin
      rcases List.mem_map.mp hmin.1 with ⟨entry, hentry, rfl⟩
      let candidates := (lb.inflightRequests.filter fun other => other.2 = entry.2).map Prod.fst
      have hcandidate : ∀ sid ∈ candidates, lb.count? sid = some entry.2 := by
        intro sid hsid
        rcases List.mem_map.mp hsid with ⟨other, hother, rfl⟩
        rw [List.mem_filter, decide_eq_true_eq] at hother
        exact Dict.get?_of_mem lb.nodup (hother.2 ▸ hother.1)
      have hpos : 0 < candidates.length :=
        List.length_pos_of_mem (List.mem_map_of_mem (List.mem_filter.mpr ⟨hentry, by simp⟩))
      have hselect : lb.selectServer hash requestId =
          if candidates.length ≠ 1 ∧ lb.fullDeterminism then
            candidates[(hash requestId % candidates.length).toNat]?
          else candidates.head? := by
        rw [selectServer, List.min?_eq_some_iff.mpr ⟨hmin.1, hmin.2⟩]
        rfl
      have hsome : ∃ sid ∈ candidates, lb.selectServer hash requestId = some sid := by
        rw [hselect]
        split
        · have hindex : (hash requestId % candidates.length).toNat < candidates.length := by
            have hlt := Int.emod_lt_of_pos (hash requestId) (Int.natCast_pos.mpr hpos)
            omega
          exact ⟨_, List.getElem_mem hindex, List.getElem?_eq_getElem hindex⟩
        · cases hcandidates : candidates with
          | nil =>
              rw [hcandidates] at hpos
              exact absurd hpos (Nat.lt_irrefl 0)
          | cons sid rest => exact ⟨sid, List.mem_cons_self, rfl⟩
      rcases hsome with ⟨sid, hsid, hselected⟩
      refine ⟨sid, entry.2, hselected, hcandidate sid hsid, ?_⟩
      intro other c' hother
      exact hmin.2 c' (List.mem_map_of_mem (f := Prod.snd) (Dict.mem_of_get? hother))

/-- The items of the routing cache. -/
def routes (lb : LoadBalancer routing H) : Dict R S := routing.items lb.requestIdToServer

@[simp] theorem count?_withRoutes (lb : LoadBalancer routing H) (routes : routing.Cache)
    (other : S) : (lb.withRoutes routes).count? other = lb.count? other := rfl

omit [DecidableEq S] in
@[simp] theorem servers_withRoutes (lb : LoadBalancer routing H) (routes : routing.Cache) :
    (lb.withRoutes routes).servers = lb.servers := rfl

theorem count?_forget (lb : LoadBalancer routing H) (requestId : R) (other : S) :
    (lb.forget requestId).count? other = lb.count? other := by
  rw [forget]
  split <;> rfl

theorem servers_serve (lb : LoadBalancer routing H) (sid : S) :
    (lb.serve sid).servers = lb.servers := by
  rw [serve]
  split <;> rfl

theorem routes_serve (lb : LoadBalancer routing H) (sid : S) :
    (lb.serve sid).routes = lb.routes := by
  rw [serve]
  split <;> rfl

omit [DecidableEq S] in
theorem pop_moveToEnd (d : Dict R S) (k : R) : (LruCache.moveToEnd d k).pop k = d.pop k := by
  rw [LruCache.moveToEnd]
  split
  · rfl
  · simp [Dict.pop]

omit [DecidableEq S] in
theorem pop_of_not_mem {d : Dict R S} {k : R} (h : k ∉ d.keys) : d.pop k = d := by
  apply List.filter_eq_self.mpr
  intro entry hentry
  have hne : entry.1 ≠ k := fun hk => h (hk ▸ List.mem_map_of_mem hentry)
  simpa using hne

omit [DecidableEq S] in
/-- After a lookup that failed no route of the request is left. -/
theorem routes_forget (lb : LoadBalancer routing H) (requestId : R) :
    (lb.forget requestId).routes = lb.routes.pop requestId := by
  rw [forget]
  split
  · change routing.items (routing.delitem (routing.getitem lb.requestIdToServer requestId)
      requestId) = _
    rw [routing.items_delitem, routing.items_getitem, pop_moveToEnd]
    rfl
  · rename_i hnone
    exact (pop_of_not_mem hnone).symm

/-- The routes once a request was put on a server. -/
def routesWith (lb : LoadBalancer routing H) (requestId : R) (sid : S) : Dict R S :=
  let others := lb.routes.pop requestId
  (if others.length < routing.maxsize then others else others.drop 1) ++ [(requestId, sid)]

/-- How a request gets its server: it stays on the one it is on, or goes to a least loaded one. -/
inductive Routed (lb : LoadBalancer routing H) (requestId : R) (sid : S) (c : ℕ)
    (routes : Dict R S) : Prop where
  | sticky : lb.stickyServer requestId = some sid →
      routes = LruCache.moveToEnd lb.routes requestId → Routed lb requestId sid c routes
  | selected : lb.stickyServer requestId = none → (∀ other c', lb.count? other = some c' → c ≤ c') →
      routes = lb.routesWith requestId sid → Routed lb requestId sid c routes

/-- What a successful acquisition does. -/
structure Acquired (lb : LoadBalancer routing H) (requestId : R) (sid : S) (handle : H)
    (lb' : LoadBalancer routing H) : Prop where
  registered : lb.servers.get? sid = some handle
  servers_eq : lb'.servers = lb.servers
  routed : ∃ c, lb.count? sid = some c ∧ Routed lb requestId sid c lb'.routes ∧
    ∀ other, lb'.count? other = if other = sid then some (c + 1) else lb.count? other

theorem acquireServer_sticky (lb : LoadBalancer routing H) (requestId : R) (sid : S)
    (h : lb.stickyServer requestId = some sid) :
    ∃ handle, (lb.acquireServer hash requestId).1 = some (sid, handle) ∧
      Acquired lb requestId sid handle (lb.acquireServer hash requestId).2 := by
  have hmem : sid ∈ lb.inflightRequests.keys := by
    rw [stickyServer, Option.filter_eq_some_iff] at h
    simpa using h.2
  rcases mem_keys_iff.mp hmem with ⟨c, hc⟩
  rcases exists_handle hmem with ⟨handle, hhandle⟩
  refine ⟨handle, ?_, hhandle, ?_, c, hc, ?_, ?_⟩
  · simp only [acquireServer, h, servers_serve, servers_withRoutes, hhandle, Option.map_some]
  · simp only [acquireServer, h, servers_serve, servers_withRoutes]
  · apply Routed.sticky h
    simp only [acquireServer, h, routes_serve]
    exact routing.items_getitem _ _
  · intro other
    simp only [acquireServer, h]
    have hc' : (lb.withRoutes (routing.getitem lb.requestIdToServer requestId)).count? sid =
        some c := hc
    exact count?_serve hc' other

/-- An acquisition fails in an empty pool only. -/
theorem acquireServer_cases (lb : LoadBalancer routing H) (requestId : R) :
    (lb.inflightRequests = [] ∧ (lb.acquireServer hash requestId).1 = none ∧
        (lb.acquireServer hash requestId).2 = lb.forget requestId) ∨
      ∃ sid handle, (lb.acquireServer hash requestId).1 = some (sid, handle) ∧
        Acquired lb requestId sid handle (lb.acquireServer hash requestId).2 := by
  cases hsticky : lb.stickyServer requestId with
  | some sid => exact Or.inr ⟨sid, acquireServer_sticky hash lb requestId sid hsticky⟩
  | none =>
      rcases selectServer_cases hash (lb.forget requestId) requestId with
        ⟨hempty, hselect⟩ | ⟨sid, c, hselect, hc, hleast⟩
      · left
        have hpool : (lb.forget requestId).inflightRequests = lb.inflightRequests := by
          rw [forget]
          split <;> rfl
        refine ⟨hpool ▸ hempty, ?_, ?_⟩
        · simp only [acquireServer, hsticky, hselect]
        · simp only [acquireServer, hsticky, hselect]
      · right
        have hservers : (lb.forget requestId).servers = lb.servers := by
          rw [forget]
          split <;> rfl
        simp only [count?_forget] at hc hleast
        rcases exists_handle (mem_keys_iff.mpr ⟨c, hc⟩) with ⟨handle, hhandle⟩
        refine ⟨sid, handle, ?_, hhandle, ?_, c, hc, ?_, ?_⟩
        · simp only [acquireServer, hsticky, hselect, servers_serve, servers_withRoutes, hservers,
            hhandle, Option.map_some]
        · simp only [acquireServer, hsticky, hselect, servers_serve, servers_withRoutes, hservers]
        · apply Routed.selected hsticky hleast
          have hroutes := routes_forget lb requestId
          have hnew : requestId ∉ (routing.items (lb.forget requestId).requestIdToServer).keys := by
            change requestId ∉ (lb.forget requestId).routes.keys
            rw [hroutes, ← Dict.get?_eq_none_iff, Dict.get?_pop_self]
          simp only [acquireServer, hsticky, hselect, routes_serve]
          change routing.items (routing.setitem (lb.forget requestId).requestIdToServer requestId
            sid) = _
          rw [routing.items_setitem _ _ _ hnew, routesWith, ← hroutes]
          rfl
        · intro other
          simp only [acquireServer, hsticky, hselect]
          have hc' : ((lb.forget requestId).withRoutes
              (routing.setitem (lb.forget requestId).requestIdToServer requestId sid)).count? sid =
                some c := by
            rw [count?_withRoutes, count?_forget, hc]
          rw [count?_serve hc']
          split
          · rfl
          · rw [count?_withRoutes, count?_forget]

end LoadBalancer

/-! ## The counts against the requests in flight -/

section Accounting

variable {hash : R → ℤ}

/-- Every count stands in the relation to the number of requests that were not yet released. -/
def Counted (rel : ℕ → ℕ → Prop) (s : System routing H) : Prop :=
  ∀ sid c, s.balancer.count? sid = some c → rel c (s.outstanding.count sid)

theorem Counted.call {rel : ℕ → ℕ → Prop} (hsucc : ∀ c n, rel c n → rel (c + 1) (n + 1))
    (hpred : ∀ c n, rel c n → rel (c - 1) (n - 1)) {s : System routing H} (h : Counted rel s)
    {call : Call R S H}
    (hadd : ∀ servers, call = .add servers → ∀ sid ∈ servers.keys, rel 0 (s.outstanding.count sid)) :
    Counted rel (s.call hash call) := by
  intro sid c hc
  cases call with
  | acquire requestId =>
      rcases s.balancer.acquireServer_cases hash requestId with
        ⟨_, hnone, hstate⟩ | ⟨chosen, handle, hserved, hacquired⟩
      · simp only [System.call, hnone, hstate, LoadBalancer.count?_forget] at hc ⊢
        exact h sid c hc
      · rcases hacquired.routed with ⟨c', hc', _, hcounts⟩
        simp only [System.call, hserved, hcounts] at hc ⊢
        by_cases hsid : sid = chosen
        · subst hsid
          rw [if_pos rfl, Option.some_inj] at hc
          rw [Multiset.count_cons_self, ← hc]
          exact hsucc _ _ (h sid c' hc')
        · rw [if_neg hsid] at hc
          rw [Multiset.count_cons_of_ne hsid]
          exact h sid c hc
  | release released =>
      simp only [System.call, LoadBalancer.count?_releaseServer] at hc ⊢
      by_cases hsid : sid = released
      · subst hsid
        rw [if_pos rfl] at hc
        rcases Option.map_eq_some_iff.mp hc with ⟨c', hc', rfl⟩
        rw [Multiset.count_erase_self]
        exact hpred _ _ (h sid c' hc')
      · rw [if_neg hsid] at hc
        rw [Multiset.count_erase_of_ne hsid]
        exact h sid c hc
  | add servers =>
      simp only [System.call, LoadBalancer.count?_addServers] at hc ⊢
      split at hc
      · rename_i hmem
        rw [← Option.some_inj.mp hc]
        exact hadd servers rfl sid hmem
      · exact h sid c hc
  | remove serverIds =>
      simp only [System.call, LoadBalancer.count?_removeServers] at hc ⊢
      split at hc
      · cases hc
      · exact h sid c hc

theorem count?_new {servers : Dict S H} {hnodup : servers.keys.Nodup} {fullDeterminism : Bool}
    {lb : LoadBalancer routing H}
    (h : LoadBalancer.new routing servers hnodup fullDeterminism = some lb) {sid : S} {c : ℕ}
    (hc : lb.count? sid = some c) : c = 0 := by
  rw [LoadBalancer.new, Option.ite_none_left_eq_some] at h
  rw [← Option.some_inj.mp h.2] at hc
  have hmem : (sid, c) ∈ servers.map fun entry => (entry.1, 0) := Dict.mem_of_get? hc
  rcases List.mem_map.mp hmem with ⟨entry, _, hentry⟩
  exact (Prod.mk.inj hentry).2.symm

theorem getInflightCount_of_count? {lb : LoadBalancer routing H} {sid : S} {c : ℕ}
    (h : lb.count? sid = some c) : lb.getInflightCount sid = c := by
  rw [LoadBalancer.getInflightCount, show lb.inflightRequests.get? sid = some c from h,
    Option.getD_some]

/-- A request that is on no server of the pool goes to one with the lowest count. -/
theorem Acquired.least {lb lb' : LoadBalancer routing H} {requestId : R} {sid : S} {handle : H}
    (h : LoadBalancer.Acquired lb requestId sid handle lb') :
    lb.stickyServer requestId = some sid ∨
      ∀ other ∈ lb.inflightRequests.keys, lb.getInflightCount sid ≤ lb.getInflightCount other := by
  rcases h.routed with ⟨c, hc, hrouted, _⟩
  cases hrouted with
  | sticky hsticky _ => exact Or.inl hsticky
  | selected _ hleast _ =>
      right
      intro other hother
      rcases LoadBalancer.mem_keys_iff.mp hother with ⟨c', hc'⟩
      rw [getInflightCount_of_count? hc, getInflightCount_of_count? hc']
      exact hleast other c' hc'

/-- However acquisitions, releases and changes of the pool interleave: no count ever exceeds the
number of requests its server still serves, an acquisition fails only when the pool is empty, and
it returns a registered server with its handle, the one the request is on or else one with the
lowest count. -/
theorem inflight_le_outstanding (s : System routing H) (calls : List (Call R S H))
    (h : Runs.Run (System.machine hash routing H) s calls) :
    (∀ sid, s.balancer.getInflightCount sid ≤ s.outstanding.count sid) ∧
    ∀ requestId,
      ((s.balancer.acquireServer hash requestId).1 = none ↔ s.balancer.inflightRequests = []) ∧
      ∀ sid handle, (s.balancer.acquireServer hash requestId).1 = some (sid, handle) →
        s.balancer.servers.get? sid = some handle ∧
        (s.balancer.stickyServer requestId = some sid ∨
          ∀ other ∈ s.balancer.inflightRequests.keys,
            s.balancer.getInflightCount sid ≤ s.balancer.getInflightCount other) := by
  have hcounted : Counted (· ≤ ·) s := by
    apply h.invariant (I := fun s _ => Counted (· ≤ ·) s)
    · intro s hs sid c hc
      rcases hs with ⟨servers, hnodup, fullDeterminism, hnew, _⟩
      rw [count?_new hnew hc]
      exact Nat.zero_le _
    · intro s s' _ _ hs hstep
      rcases hstep with ⟨call, _, _, rfl⟩
      exact hs.call (fun _ _ h => Nat.succ_le_succ h) (fun _ _ h => Nat.sub_le_sub_right h 1)
        fun _ _ _ _ => Nat.zero_le _
  constructor
  · intro sid
    cases hc : s.balancer.count? sid with
    | none =>
        rw [LoadBalancer.getInflightCount, show s.balancer.inflightRequests.get? sid = none from hc]
        exact Nat.zero_le _
    | some c =>
        rw [getInflightCount_of_count? hc]
        exact hcounted sid c hc
  · intro requestId
    rcases s.balancer.acquireServer_cases hash requestId with
      ⟨hempty, hnone, _⟩ | ⟨sid, handle, hserved, hacquired⟩
    · refine ⟨iff_of_true hnone hempty, ?_⟩
      intro sid handle hserved
      rw [hnone] at hserved
      cases hserved
    · rcases hacquired.routed with ⟨c, hc, _⟩
      have hpool : s.balancer.inflightRequests ≠ [] := by
        intro hnil
        rw [LoadBalancer.count?, hnil] at hc
        cases hc
      refine ⟨iff_of_false (by rw [hserved]; exact Option.some_ne_none _) hpool, ?_⟩
      intro sid' handle' hserved'
      rw [hserved, Option.some_inj, Prod.mk.injEq] at hserved'
      rcases hserved' with ⟨rfl, rfl⟩
      exact ⟨hacquired.registered, Acquired.least hacquired⟩

/-- A server is (re)registered only when no request is left on it. -/
def System.Quiet (s : System routing H) : Call R S H → Prop
  | .add servers => ∀ sid ∈ servers.keys, sid ∉ s.outstanding
  | _ => True

/-- The runs in which no busy server is registered again. -/
def System.quietMachine (hash : R → ℤ) (routing : RoutingCache R S) (H : Type) :
    Runs.Machine (System routing H) (Call R S H) where
  init := (System.machine hash routing H).init
  step s calls s' := ∃ call, s.Enabled call ∧ s.Quiet call ∧ calls = [call] ∧ s' = s.call hash call

/-- As long as no busy server is registered again the counts are exact: a request that is on no
server of the pool goes to one that serves the fewest requests. -/
theorem inflight_eq_outstanding (s : System routing H) (calls : List (Call R S H))
    (h : Runs.Run (System.quietMachine hash routing H) s calls) :
    (∀ sid ∈ s.balancer.inflightRequests.keys,
      s.balancer.getInflightCount sid = s.outstanding.count sid) ∧
    ∀ requestId sid handle,
      (s.balancer.acquireServer hash requestId).1 = some (sid, handle) →
        s.balancer.stickyServer requestId = some sid ∨
          ∀ other ∈ s.balancer.inflightRequests.keys,
            s.outstanding.count sid ≤ s.outstanding.count other := by
  have hcounted : Counted (· = ·) s := by
    apply h.invariant (I := fun s _ => Counted (· = ·) s)
    · intro s hs sid c hc
      rcases hs with ⟨servers, hnodup, fullDeterminism, hnew, hzero⟩
      rw [count?_new hnew hc, hzero, Multiset.count_zero]
    · intro s s' _ _ hs hstep
      rcases hstep with ⟨call, _, hquiet, _, rfl⟩
      apply hs.call (fun _ _ h => congrArg Nat.succ h) (fun _ _ h => congrArg (· - 1) h)
      intro servers hcall sid hsid
      subst hcall
      exact (Multiset.count_eq_zero.mpr (hquiet sid hsid)).symm
  have hexact : ∀ sid ∈ s.balancer.inflightRequests.keys,
      s.balancer.getInflightCount sid = s.outstanding.count sid := by
    intro sid hsid
    rcases LoadBalancer.mem_keys_iff.mp hsid with ⟨c, hc⟩
    rw [getInflightCount_of_count? hc]
    exact hcounted sid c hc
  refine ⟨hexact, ?_⟩
  intro requestId sid handle hserved
  rcases s.balancer.acquireServer_cases hash requestId with
    ⟨_, hnone, _⟩ | ⟨sid', handle', hserved', hacquired⟩
  · rw [hnone] at hserved
    cases hserved
  · rw [hserved', Option.some_inj, Prod.mk.injEq] at hserved
    rcases hserved with ⟨rfl, rfl⟩
    rcases Acquired.least hacquired with hsticky | hleast
    · exact Or.inl hsticky
    · right
      intro other hother
      rcases hacquired.routed with ⟨c, hc, _⟩
      rw [← hexact sid' (LoadBalancer.mem_keys_iff.mpr ⟨c, hc⟩), ← hexact other hother]
      exact hleast other hother

/-- A routing cache as a list of its items. -/
def RoutingCache.ofItems (R S : Type) [DecidableEq R] (maxsize : ℕ) (h : 0 < maxsize) :
    RoutingCache R S where
  Cache := Dict R S
  maxsize := maxsize
  empty := []
  items := id
  getitem := LruCache.moveToEnd
  setitem c k v := (if c.length < maxsize then c else c.drop 1) ++ [(k, v)]
  delitem c k := c.pop k
  maxsize_pos := h
  items_empty := rfl
  items_getitem _ _ := rfl
  items_setitem _ _ _ _ := rfl
  items_delitem _ _ := rfl

/-- Two servers without requests. -/
def twoServers : System (RoutingCache.ofItems ℕ ℕ 8 (by decide)) ℕ where
  balancer := {
    servers := [(0, 10), (1, 11)]
    inflightRequests := [(0, 0), (1, 0)]
    requestIdToServer := []
    fullDeterminism := false
    keys_eq := rfl
    nodup := by decide }
  outstanding := 0

theorem init_twoServers :
    (System.machine Int.ofNat (RoutingCache.ofItems ℕ ℕ 8 (by decide)) ℕ).init twoServers :=
  ⟨[(0, 10), (1, 11)], by decide, false, rfl, rfl⟩

/-- One of the servers got a request. -/
def oneRequest : System (RoutingCache.ofItems ℕ ℕ 8 (by decide)) ℕ :=
  twoServers.call Int.ofNat (.acquire 7)

/-- The request was released and its server replaced. -/
def replacedServer : System (RoutingCache.ofItems ℕ ℕ 8 (by decide)) ℕ :=
  [.release 0, .remove [0], .add [(2, 12)]].foldl (System.call Int.ofNat) oneRequest

theorem inflight_le_outstanding_oneRequest :
    (∀ sid, oneRequest.balancer.getInflightCount sid ≤ oneRequest.outstanding.count sid) ∧
    ∀ requestId,
      ((oneRequest.balancer.acquireServer Int.ofNat requestId).1 = none ↔
        oneRequest.balancer.inflightRequests = []) ∧
      ∀ sid handle,
        (oneRequest.balancer.acquireServer Int.ofNat requestId).1 = some (sid, handle) →
        oneRequest.balancer.servers.get? sid = some handle ∧
        (oneRequest.balancer.stickyServer requestId = some sid ∨
          ∀ other ∈ oneRequest.balancer.inflightRequests.keys,
            oneRequest.balancer.getInflightCount sid ≤
              oneRequest.balancer.getInflightCount other) :=
  inflight_le_outstanding oneRequest [.acquire 7]
    (.step (.init init_twoServers) ⟨.acquire 7, trivial, rfl, rfl⟩)

theorem inflight_eq_outstanding_oneRequest :
    (∀ sid ∈ oneRequest.balancer.inflightRequests.keys,
      oneRequest.balancer.getInflightCount sid = oneRequest.outstanding.count sid) ∧
    ∀ requestId sid handle,
      (oneRequest.balancer.acquireServer Int.ofNat requestId).1 = some (sid, handle) →
        oneRequest.balancer.stickyServer requestId = some sid ∨
          ∀ other ∈ oneRequest.balancer.inflightRequests.keys,
            oneRequest.outstanding.count sid ≤ oneRequest.outstanding.count other :=
  inflight_eq_outstanding oneRequest [.acquire 7]
    (.step (.init (M := System.quietMachine Int.ofNat _ ℕ) init_twoServers)
      ⟨.acquire 7, trivial, trivial, rfl, rfl⟩)

end Accounting

end SearchR1.LlmServer
