import SearchR1.Verification.Serving.LoadBalancer
import Mathlib.Data.Finset.Card

/-! # Sessions that stay on their server -/

namespace SearchR1.LlmServer

variable {R S H : Type} [DecidableEq R] [DecidableEq S] {routing : RoutingCache R S}

/-! ## The routes as a list -/

/-- Where the route of a request stands: the routes behind it were used since. -/
structure RouteAt (routes : Dict R S) (requestId : R) (sid : S) (since : Finset R) : Prop where
  nodup : routes.keys.Nodup
  position : ∃ before after : Dict R S, routes = before ++ (requestId, sid) :: after ∧
    ∀ k ∈ after.keys, k ∈ since

omit [DecidableEq S] in
theorem RouteAt.get? {routes : Dict R S} {requestId : R} {sid : S} {since : Finset R}
    (h : RouteAt routes requestId sid since) : routes.get? requestId = some sid := by
  rcases h.position with ⟨before, after, heq, _⟩
  apply Dict.get?_of_mem h.nodup
  rw [heq]
  exact List.mem_append_right before List.mem_cons_self

omit [DecidableEq R] [DecidableEq S] in
theorem keys_append (d e : Dict R S) : Dict.keys (d ++ e) = d.keys ++ e.keys :=
  List.map_append

omit [DecidableEq S] in
theorem nodup_pop_append {routes : Dict R S} (h : routes.keys.Nodup) (k : R) (v : S) :
    (Dict.keys (routes.pop k ++ [(k, v)])).Nodup := by
  rw [keys_append, LoadBalancer.keys_pop]
  apply List.Nodup.append (h.filter _) (List.nodup_singleton k)
  intro j hj hk
  rw [List.mem_singleton.mp hk] at hj
  simp at hj

omit [DecidableEq S] in
/-- The use of another request moves its route to the end. -/
theorem RouteAt.pop_append {routes : Dict R S} {requestId other : R} {sid v : S} {since : Finset R}
    (h : RouteAt routes requestId sid since) (hother : other ≠ requestId) :
    RouteAt (routes.pop other ++ [(other, v)]) requestId sid (insert other since) := by
  rcases h.position with ⟨before, after, heq, hafter⟩
  refine ⟨nodup_pop_append h.nodup other v, before.pop other, after.pop other ++ [(other, v)], ?_, ?_⟩
  · have hkeep : decide (requestId ≠ other) = true := decide_eq_true hother.symm
    simp only [heq, Dict.pop, List.filter_append, List.filter_cons, hkeep, if_true,
      List.append_assoc, List.cons_append]
  · intro k hk
    rw [keys_append, LoadBalancer.keys_pop, List.mem_append, List.mem_filter] at hk
    rcases hk with hk | hk
    · exact Finset.mem_insert_of_mem (hafter k hk.1)
    · rw [List.mem_singleton.mp hk]
      exact Finset.mem_insert_self _ _

omit [DecidableEq S] in
/-- A new route pushes out the oldest one, which is another one as long as few requests were used
since. -/
theorem RouteAt.evict {routes : Dict R S} {requestId other : R} {sid v : S} {since : Finset R}
    {maxsize : ℕ} (h : RouteAt routes requestId sid since) (hother : other ≠ requestId)
    (hfew : (insert other since).card < maxsize) :
    RouteAt ((if (routes.pop other).length < maxsize then routes.pop other
      else (routes.pop other).drop 1) ++ [(other, v)]) requestId sid (insert other since) := by
  have hmoved := h.pop_append (v := v) hother
  split
  · exact hmoved
  · rename_i hfull
    rcases hmoved.position with ⟨before, after, heq, hafter⟩
    have hlength := congrArg List.length heq
    simp only [List.length_append, List.length_cons, List.length_nil] at hlength
    have hnodup : after.keys.Nodup := by
      have hall := hmoved.nodup
      rw [heq, keys_append, List.nodup_append] at hall
      exact (List.nodup_cons.mp hall.2.1).2
    -- the routes behind are of different requests, all of them used since
    have hbehind : after.length ≤ (insert other since).card := by
      calc after.length
          = after.keys.length := (List.length_map (Prod.fst (β := S))).symm
        _ = after.keys.toFinset.card := (List.toFinset_card_of_nodup hnodup).symm
        _ ≤ (insert other since).card :=
            Finset.card_le_card fun k hk => hafter k (List.mem_toFinset.mp hk)
    cases before with
    | nil =>
        simp only [List.length_nil] at hlength
        omega
    | cons oldest before =>
        have hrest : (routes.pop other).drop 1 ++ [(other, v)] =
            before ++ (requestId, sid) :: after := by
          cases hpop : routes.pop other with
          | nil =>
              rw [hpop, List.length_nil, List.length_cons] at hlength
              omega
          | cons first rest =>
              rw [hpop] at heq
              exact (List.cons.inj heq).2
        refine ⟨?_, before, after, hrest, hafter⟩
        have hall := hmoved.nodup
        rw [heq] at hall
        rw [hrest]
        exact (List.nodup_cons.mp hall).2

/-! ## A session between two of its requests -/

section Sessions

variable {hash : R → ℤ}

/-- The request that a call acquires a server for. -/
def Call.acquired : Call R S H → Option R
  | .acquire requestId => some requestId
  | _ => none

/-- The other requests that acquired a server in between. -/
def others (requestId : R) (calls : List (Call R S H)) : Finset R :=
  ((calls.filterMap Call.acquired).filter (· ≠ requestId)).toFinset

/-- The session of a request is on a server of the pool, and its route stands before those of the
requests since. -/
structure OnServer (s : System routing H) (requestId : R) (sid : S) (since : Finset R) : Prop where
  route : RouteAt s.balancer.routes requestId sid since
  pool : sid ∈ s.balancer.inflightRequests.keys

theorem OnServer.sticky {s : System routing H} {requestId : R} {sid : S} {since : Finset R}
    (h : OnServer s requestId sid since) : s.balancer.stickyServer requestId = some sid := by
  rw [LoadBalancer.stickyServer, show (routing.items s.balancer.requestIdToServer).get? requestId =
    some sid from h.route.get?, Option.filter_some, if_pos (decide_eq_true h.pool)]

omit [DecidableEq S] in
/-- The use of the request itself moves its own route to the end. -/
theorem RouteAt.refresh {routes : Dict R S} {requestId : R} {sid : S} {since : Finset R}
    (h : RouteAt routes requestId sid since) :
    RouteAt (LruCache.moveToEnd routes requestId) requestId sid since := by
  have hmove : LruCache.moveToEnd routes requestId = routes.pop requestId ++ [(requestId, sid)] := by
    rw [LruCache.moveToEnd, h.get?]
    rfl
  rw [hmove]
  refine ⟨nodup_pop_append h.nodup requestId sid, routes.pop requestId, [], rfl, ?_⟩
  intro k hk
  cases hk

theorem pool_of_acquired {lb lb' : LoadBalancer routing H} {requestId : R} {sid other : S}
    {handle : H} (h : LoadBalancer.Acquired lb requestId sid handle lb') :
    other ∈ lb'.inflightRequests.keys ↔ other ∈ lb.inflightRequests.keys := by
  rw [lb'.keys_eq, lb.keys_eq, h.servers_eq]

theorem balancer_acquire (s : System routing H) (requestId : R) :
    (s.call hash (.acquire requestId)).balancer = (s.balancer.acquireServer hash requestId).2 := by
  simp only [System.call]
  split <;> rfl

theorem OnServer.acquire {s : System routing H} {requestId : R} {sid : S} {since : Finset R}
    (h : OnServer s requestId sid since) {acquired : R}
    (hfew : acquired ≠ requestId → (insert acquired since).card < routing.maxsize) :
    OnServer (s.call hash (.acquire acquired)) requestId sid
      (if acquired = requestId then since else insert acquired since) := by
  rcases s.balancer.acquireServer_cases hash acquired with
    ⟨hempty, _⟩ | ⟨chosen, handle, _, hacquired⟩
  · have hpool := h.pool
    rw [hempty] at hpool
    cases hpool
  · constructor
    · rw [balancer_acquire]
      rcases hacquired.routed with ⟨c, _, hrouted, _⟩
      by_cases hself : acquired = requestId
      · subst hself
        rw [if_pos rfl]
        cases hrouted with
        | sticky _ hroutes =>
            rw [hroutes]
            exact h.route.refresh
        | selected hnone _ _ =>
            rw [h.sticky] at hnone
            cases hnone
      · rw [if_neg hself]
        cases hrouted with
        | sticky hsticky hroutes =>
            have hget : s.balancer.routes.get? acquired = some chosen := by
              rw [LoadBalancer.stickyServer, Option.filter_eq_some_iff] at hsticky
              exact hsticky.1
            have hmove : LruCache.moveToEnd s.balancer.routes acquired =
                s.balancer.routes.pop acquired ++ [(acquired, chosen)] := by
              rw [LruCache.moveToEnd, hget]
              rfl
            rw [hroutes, hmove]
            exact h.route.pop_append hself
        | selected _ _ hroutes =>
            rw [hroutes]
            exact h.route.evict hself (hfew hself)
    · rw [balancer_acquire, pool_of_acquired hacquired]
      exact h.pool

theorem routes_releaseServer (lb : LoadBalancer routing H) (sid : S) :
    (lb.releaseServer sid).routes = lb.routes := by
  simp only [LoadBalancer.releaseServer]
  split
  · split <;> rfl
  · rfl

theorem routes_addServers (lb : LoadBalancer routing H) (servers : Dict S H) :
    (lb.addServers servers).routes = lb.routes := by
  induction servers generalizing lb with
  | nil => rfl
  | cons entry servers ih => exact ih (lb.addServer entry)

theorem routes_removeServers (lb : LoadBalancer routing H) (serverIds : List S) :
    (lb.removeServers serverIds).routes = lb.routes := by
  induction serverIds generalizing lb with
  | nil => rfl
  | cons sid serverIds ih => exact ih (lb.removeServer sid)

/-- No other call takes the session off its server, as long as the server stays in the pool. -/
theorem OnServer.call {s : System routing H} {requestId : R} {sid : S} {since : Finset R}
    (h : OnServer s requestId sid since) {call : Call R S H} (hcall : call.acquired = none)
    (hkept : ∀ serverIds, call = .remove serverIds → sid ∉ serverIds) :
    OnServer (s.call hash call) requestId sid since := by
  rcases LoadBalancer.mem_keys_iff.mp h.pool with ⟨c, hc⟩
  cases call with
  | acquire acquired => cases hcall
  | release released =>
      refine ⟨by rw [System.call, routes_releaseServer]; exact h.route, ?_⟩
      rw [System.call, LoadBalancer.mem_keys_iff]
      simp only [LoadBalancer.count?_releaseServer]
      by_cases hsid : sid = released
      · rw [if_pos hsid, ← hsid, hc]
        exact ⟨c - 1, rfl⟩
      · rw [if_neg hsid]
        exact ⟨c, hc⟩
  | add servers =>
      refine ⟨by rw [System.call, routes_addServers]; exact h.route, ?_⟩
      rw [System.call, LoadBalancer.mem_keys_iff]
      simp only [LoadBalancer.count?_addServers]
      split
      · exact ⟨0, rfl⟩
      · exact ⟨c, hc⟩
  | remove serverIds =>
      refine ⟨by rw [System.call, routes_removeServers]; exact h.route, ?_⟩
      rw [System.call, LoadBalancer.mem_keys_iff]
      simp only [LoadBalancer.count?_removeServers, if_neg (hkept serverIds rfl)]
      exact ⟨c, hc⟩

omit [DecidableEq S] in
theorem others_snoc (requestId : R) (calls : List (Call R S H)) (call : Call R S H) :
    others requestId (calls ++ [call]) =
      match call.acquired with
      | none => others requestId calls
      | some acquired =>
          if acquired = requestId then others requestId calls
          else insert acquired (others requestId calls) := by
  cases hcall : call.acquired with
  | none => simp [others, List.filterMap_append, hcall]
  | some acquired =>
      by_cases hself : acquired = requestId
      · simp [others, List.filterMap_append, hcall, hself]
      · ext k
        simp [others, List.filterMap_append, hcall, hself]

variable (hash) in
/-- The rule of the session, call by call. -/
theorem OnServer.calls {s : System routing H} {requestId : R} {sid : S}
    (h : OnServer s requestId sid ∅) (calls : List (Call R S H))
    (hkept : ∀ serverIds, Call.remove serverIds ∈ calls → sid ∉ serverIds)
    (hfew : (others requestId calls).card < routing.maxsize) :
    OnServer (calls.foldl (System.call hash) s) requestId sid (others requestId calls) := by
  induction calls using List.reverseRecOn with
  | nil => exact h
  | append_singleton calls call ih =>
      have hsub : others requestId calls ⊆ others requestId (calls ++ [call]) := by
        rw [others_snoc]
        split
        · exact Finset.Subset.refl _
        · split
          · exact Finset.Subset.refl _
          · exact Finset.subset_insert _ _
      have hbefore := ih (fun serverIds hmem => hkept serverIds (List.mem_append_left _ hmem))
        ((Finset.card_le_card hsub).trans_lt hfew)
      rw [List.foldl_append, List.foldl_cons, List.foldl_nil]
      rw [others_snoc] at hfew ⊢
      cases hcall : call.acquired with
      | none =>
          apply hbefore.call hcall
          intro serverIds hremove
          apply hkept serverIds
          rw [hremove]
          exact List.mem_append_right _ (List.mem_singleton_self _)
      | some acquired =>
          rw [hcall] at hfew
          have hacquire : call = .acquire acquired := by
            cases call with
            | acquire requestId => exact congrArg _ (Option.some_inj.mp hcall)
            | release sid => cases hcall
            | add servers => cases hcall
            | remove serverIds => cases hcall
          subst hacquire
          apply hbefore.acquire
          intro hother
          simpa only [if_neg hother] using hfew

/-- Every reachable cache lists each request once. -/
theorem nodup_routes {s : System routing H} {calls : List (Call R S H)}
    (h : Runs.Run (System.machine hash routing H) s calls) : s.balancer.routes.keys.Nodup := by
  apply h.invariant (I := fun s _ => s.balancer.routes.keys.Nodup)
  · intro s hs
    rcases hs with ⟨servers, hnodup, fullDeterminism, hnew, _⟩
    rw [LoadBalancer.new, Option.ite_none_left_eq_some] at hnew
    have hroutes : s.balancer.routes = [] := by
      rw [← Option.some_inj.mp hnew.2]
      exact routing.items_empty
    rw [hroutes]
    exact List.nodup_nil
  · intro s s' _ _ hs hstep
    rcases hstep with ⟨call, _, _, rfl⟩
    cases call with
    | acquire requestId =>
        rw [balancer_acquire]
        rcases s.balancer.acquireServer_cases hash requestId with
          ⟨_, _, hstate⟩ | ⟨sid, handle, _, hacquired⟩
        · rw [hstate, LoadBalancer.routes_forget, LoadBalancer.keys_pop]
          exact hs.filter _
        · rcases hacquired.routed with ⟨c, _, hrouted, _⟩
          cases hrouted with
          | sticky hsticky hroutes =>
              rw [hroutes, LruCache.moveToEnd]
              split
              · exact hs
              · exact nodup_pop_append hs _ _
          | selected _ _ hroutes =>
              rw [hroutes, LoadBalancer.routesWith]
              have hall := nodup_pop_append hs requestId sid
              split
              · exact hall
              · exact hall.sublist (((List.drop_sublist 1 _).append_right _).map Prod.fst)
    | release sid => rw [System.call, routes_releaseServer]; exact hs
    | add servers => rw [System.call, routes_addServers]; exact hs
    | remove serverIds => rw [System.call, routes_removeServers]; exact hs

/-- Right after an acquisition the session is on the server that was returned. -/
theorem onServer_of_acquired {s : System routing H} {requestId : R} {sid : S} {handle : H}
    (hnodup : s.balancer.routes.keys.Nodup)
    (h : (s.balancer.acquireServer hash requestId).1 = some (sid, handle)) :
    OnServer (s.call hash (.acquire requestId)) requestId sid ∅ := by
  rcases s.balancer.acquireServer_cases hash requestId with
    ⟨_, hnone, _⟩ | ⟨sid', handle', hserved, hacquired⟩
  · rw [hnone] at h
    cases h
  · rw [hserved, Option.some_inj, Prod.mk.injEq] at h
    rcases h with ⟨rfl, rfl⟩
    rcases hacquired.routed with ⟨c, hc, hrouted, _⟩
    have hend : ∃ before : Dict R S, (s.balancer.acquireServer hash requestId).2.routes =
        before ++ [(requestId, sid')] ∧
          (Dict.keys (before ++ [(requestId, sid')])).Nodup := by
      have hall := nodup_pop_append hnodup requestId sid'
      cases hrouted with
      | sticky hsticky hroutes =>
          have hget : s.balancer.routes.get? requestId = some sid' := by
            rw [LoadBalancer.stickyServer, Option.filter_eq_some_iff] at hsticky
            exact hsticky.1
          refine ⟨s.balancer.routes.pop requestId, ?_, hall⟩
          rw [hroutes, LruCache.moveToEnd, hget]
          rfl
      | selected _ _ hroutes =>
          rw [hroutes, LoadBalancer.routesWith]
          refine ⟨_, rfl, ?_⟩
          split
          · exact hall
          · exact hall.sublist (((List.drop_sublist 1 _).append_right _).map Prod.fst)
    rcases hend with ⟨before, hbefore, hbeforeNodup⟩
    constructor
    · rw [balancer_acquire, hbefore]
      refine ⟨hbeforeNodup, before, [], rfl, ?_⟩
      intro k hk
      cases hk
    · rw [balancer_acquire, pool_of_acquired hacquired]
      exact LoadBalancer.mem_keys_iff.mpr ⟨c, hc⟩

/-- A conversation stays on its server: whatever happens between two of its requests, the second
one gets the server of the first, unless the server was removed or as many other requests as the
routing cache holds came in between. -/
theorem session_stays (s : System routing H) (before : List (Call R S H))
    (hrun : Runs.Run (System.machine hash routing H) s before) (requestId : R) (sid : S) (handle : H)
    (hfirst : (s.balancer.acquireServer hash requestId).1 = some (sid, handle))
    (calls : List (Call R S H))
    (hkept : ∀ serverIds, Call.remove serverIds ∈ calls → sid ∉ serverIds)
    (hfew : (others requestId calls).card < routing.maxsize) :
    ∃ handle', ((calls.foldl (System.call hash)
      (s.call hash (.acquire requestId))).balancer.acquireServer hash requestId).1 =
        some (sid, handle') := by
  have hstart := onServer_of_acquired (nodup_routes hrun) hfirst
  have hend := hstart.calls hash calls hkept hfew
  rcases LoadBalancer.acquireServer_sticky hash _ requestId sid hend.sticky with ⟨handle', h, _⟩
  exact ⟨handle', h⟩

theorem session_stays_twoServers :
    ∃ handle', (([.acquire 8, .release 0, .add [(2, 12)], .remove [1]].foldl
      (System.call Int.ofNat) (twoServers.call Int.ofNat (.acquire 7))).balancer.acquireServer
        Int.ofNat 7).1 = some (0, handle') :=
  session_stays twoServers [] (.init init_twoServers) 7 0 10 (by decide)
    [.acquire 8, .release 0, .add [(2, 12)], .remove [1]] (by simp) (by decide)

/-! ## Requests that are on no server -/

/-- No route of the request leads to a server of the pool. -/
def LoadBalancer.OnNoServer (lb : LoadBalancer routing H) (requestId : R) : Prop :=
  ∀ route ∈ lb.routes, route.1 = requestId → route.2 ∉ lb.inflightRequests.keys

instance decidableOnNoServer (lb : LoadBalancer routing H) (requestId : R) :
    Decidable (lb.OnNoServer requestId) :=
  inferInstanceAs (Decidable (∀ route ∈ lb.routes, _))

theorem LoadBalancer.OnNoServer.stickyServer_eq_none {lb : LoadBalancer routing H} {requestId : R}
    (h : lb.OnNoServer requestId) : lb.stickyServer requestId = none := by
  rw [stickyServer, Option.filter_eq_none_iff]
  intro sid hsid
  rw [decide_eq_true_eq]
  exact h (requestId, sid) (Dict.mem_of_get? hsid) rfl

theorem mem_routes_of_acquire {s : System routing H} {acquired : R} {route : R × S}
    (hne : route.1 ≠ acquired) (h : route ∈ (s.call hash (.acquire acquired)).balancer.routes) :
    route ∈ s.balancer.routes := by
  have hpop : ∀ d : Dict R S, route ∈ d.pop acquired → route ∈ d :=
    fun d hd => (List.mem_filter.mp hd).1
  have hnew : ∀ (d : Dict R S) (sid : S), route ∈ d ++ [(acquired, sid)] → route ∈ d := by
    intro d sid hd
    rcases List.mem_append.mp hd with hd | hd
    · exact hd
    · exact absurd (congrArg Prod.fst (List.mem_singleton.mp hd)) hne
  rw [balancer_acquire] at h
  rcases s.balancer.acquireServer_cases hash acquired with
    ⟨_, _, hstate⟩ | ⟨sid, handle, _, hacquired⟩
  · rw [hstate, LoadBalancer.routes_forget] at h
    exact hpop _ h
  · rcases hacquired.routed with ⟨c, _, hrouted, _⟩
    cases hrouted with
    | sticky _ hroutes =>
        rw [hroutes] at h
        exact LruCache.mem_moveToEnd h
    | selected _ _ hroutes =>
        rw [hroutes, LoadBalancer.routesWith] at h
        have hothers := hnew _ _ h
        split at hothers
        · exact hpop _ hothers
        · exact hpop _ (List.mem_of_mem_drop hothers)

theorem pool_acquire {s : System routing H} {acquired : R} {sid : S} :
    sid ∈ (s.call hash (.acquire acquired)).balancer.inflightRequests.keys ↔
      sid ∈ s.balancer.inflightRequests.keys := by
  rw [balancer_acquire]
  rcases s.balancer.acquireServer_cases hash acquired with
    ⟨_, _, hstate⟩ | ⟨chosen, handle, _, hacquired⟩
  · rw [hstate, LoadBalancer.mem_keys_iff, LoadBalancer.mem_keys_iff, LoadBalancer.count?_forget]
  · exact pool_of_acquired hacquired

/-- The acquisition of another request puts the request on no server. -/
theorem LoadBalancer.OnNoServer.acquire {s : System routing H} {acquired requestId : R}
    (h : s.balancer.OnNoServer requestId) (hne : requestId ≠ acquired) :
    (s.call hash (.acquire acquired)).balancer.OnNoServer requestId := by
  intro route hroute hrequest
  rw [pool_acquire]
  exact h route (mem_routes_of_acquire (hrequest ▸ hne) hroute) hrequest

/-- How far the counts of two servers lie apart at most. -/
def CountsWithin (bound : ℕ) (lb : LoadBalancer routing H) : Prop :=
  ∀ sid ∈ lb.inflightRequests.keys, ∀ sid' ∈ lb.inflightRequests.keys,
    lb.getInflightCount sid ≤ lb.getInflightCount sid' + bound

instance decidableCountsWithin (bound : ℕ) (lb : LoadBalancer routing H) :
    Decidable (CountsWithin bound lb) :=
  inferInstanceAs (Decidable (∀ sid ∈ lb.inflightRequests.keys, _))

/-- A request that is on no server does not widen the differences. -/
theorem CountsWithin.acquire {bound : ℕ} {s : System routing H}
    (h : CountsWithin bound s.balancer) (hpos : 1 ≤ bound) {requestId : R}
    (hnew : s.balancer.OnNoServer requestId) :
    CountsWithin bound (s.call hash (.acquire requestId)).balancer := by
  rcases s.balancer.acquireServer_cases hash requestId with
    ⟨hempty, _, _⟩ | ⟨chosen, handle, _, hacquired⟩
  · intro sid hsid
    rw [pool_acquire, hempty] at hsid
    cases hsid
  · rcases hacquired.routed with ⟨c, hc, hrouted, hcounts⟩
    have hleast : ∀ other c', s.balancer.count? other = some c' → c ≤ c' := by
      cases hrouted with
      | sticky hsticky _ =>
          rw [hnew.stickyServer_eq_none] at hsticky
          cases hsticky
      | selected _ hleast _ => exact hleast
    have hold : ∀ sid c', s.balancer.count? sid = some c' → c' ≤ c + bound := by
      intro sid c' hc'
      have hclose := h sid (LoadBalancer.mem_keys_iff.mpr ⟨c', hc'⟩) chosen
        (LoadBalancer.mem_keys_iff.mpr ⟨c, hc⟩)
      rwa [getInflightCount_of_count? hc', getInflightCount_of_count? hc] at hclose
    intro sid hsid sid' hsid'
    rw [balancer_acquire] at hsid hsid' ⊢
    rcases LoadBalancer.mem_keys_iff.mp hsid with ⟨n, hn⟩
    rcases LoadBalancer.mem_keys_iff.mp hsid' with ⟨n', hn'⟩
    rw [getInflightCount_of_count? hn, getInflightCount_of_count? hn']
    rw [hcounts] at hn hn'
    -- the chosen server had the lowest count and gets one more
    have hn : n ≤ c + bound := by
      split at hn
      · have := Option.some_inj.mp hn
        omega
      · exact hold sid n hn
    have hupper : c + 1 ≤ n' ∨ (c ≤ n' ∧ sid' ≠ chosen) := by
      split at hn'
      · exact Or.inl (Option.some_inj.mp hn').le
      · rename_i hne
        exact Or.inr ⟨hleast sid' n' hn', hne⟩
    rcases hupper with hupper | hupper <;> omega

/-- Requests that are on no server are spread evenly: from a pool whose counts differ by no more
than some bound, any number of them leaves counts that differ by no more than it. In an idle pool
no server gets two requests more than another one. -/
theorem countsWithin_of_newRequests (bound : ℕ) (hpos : 1 ≤ bound) (s : System routing H)
    (h : CountsWithin bound s.balancer) (requestIds : List R) (hnodup : requestIds.Nodup)
    (hnew : ∀ requestId ∈ requestIds, s.balancer.OnNoServer requestId) :
    CountsWithin bound (requestIds.foldl (fun s requestId => s.call hash (.acquire requestId))
      s).balancer := by
  induction requestIds generalizing s with
  | nil => exact h
  | cons requestId requestIds ih =>
      rw [List.nodup_cons] at hnodup
      rw [List.forall_mem_cons] at hnew
      rw [List.foldl_cons]
      apply ih _ (h.acquire hpos hnew.1) hnodup.2
      intro other hother
      apply (hnew.2 other hother).acquire
      intro heq
      exact hnodup.1 (heq ▸ hother)

theorem countsWithin_of_newRequests_replacedServer :
    CountsWithin 1 ([7, 5, 6, 8, 9].foldl
      (fun s requestId => s.call Int.ofNat (.acquire requestId)) replacedServer).balancer :=
  countsWithin_of_newRequests 1 (by decide) replacedServer
    (show CountsWithin 1 replacedServer.balancer by decide) [7, 5, 6, 8, 9] (by decide) (by decide)

end Sessions

end SearchR1.LlmServer
