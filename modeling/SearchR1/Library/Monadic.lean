import Mathlib.Data.List.Forall2
import Mathlib.Data.List.Induction

/-! # Loops that may fail -/

namespace PyLoop

universe u

variable {α β ε : Type*}

/-- A sequence of two computations succeeds when both do. -/
theorem bind_eq_ok_iff {α β : Type u} {x : Except ε α} {f : α → Except ε β} {b : β} :
    x >>= f = .ok b ↔ ∃ a, x = .ok a ∧ f a = .ok b := by
  cases x with
  | error e =>
      constructor
      · intro h
        cases h
      · rintro ⟨a, h, -⟩
        cases h
  | ok a =>
      constructor
      · intro h
        exact ⟨a, rfl, h⟩
      · rintro ⟨a', ha, h⟩
        cases ha
        exact h

/-- A round of a loop that collects results. -/
theorem bind_cons_eq_ok_iff {x : Except ε α} {xs : Except ε (List α)} {ys : List α} :
    (x >>= fun a => xs >>= fun as => pure (a :: as)) = .ok ys ↔
      ∃ a as, x = .ok a ∧ xs = .ok as ∧ ys = a :: as := by
  rw [bind_eq_ok_iff]
  constructor
  · intro h
    rcases h with ⟨a, hx, h⟩
    rw [bind_eq_ok_iff] at h
    rcases h with ⟨as, hxs, h⟩
    exact ⟨a, as, hx, hxs, (Except.ok.inj h).symm⟩
  · intro h
    rcases h with ⟨a, as, hx, hxs, rfl⟩
    exact ⟨a, hx, bind_eq_ok_iff.mpr ⟨as, hxs, rfl⟩⟩

/-- A loop over all items succeeds exactly when every item does, with its results in order. -/
theorem mapM_ok_iff {f : α → Except ε β} {xs : List α} {ys : List β} :
    xs.mapM f = .ok ys ↔ List.Forall₂ (fun x y => f x = .ok y) xs ys := by
  induction xs generalizing ys with
  | nil =>
      rw [List.mapM_nil, List.forall₂_nil_left_iff]
      constructor
      · intro h
        exact (Except.ok.inj h).symm
      · rintro rfl
        rfl
  | cons x xs ih =>
      rw [List.mapM_cons, bind_cons_eq_ok_iff]
      constructor
      · intro h
        rcases h with ⟨y, ys', hx, hxs, rfl⟩
        exact .cons hx (ih.mp hxs)
      · intro h
        cases h with
        | cons hx hxs => exact ⟨_, _, hx, ih.mpr hxs, rfl⟩

theorem exists_of_forall₂ {R : α → β → Prop} {xs : List α} {ys : List β}
    (h : List.Forall₂ R xs ys) {y : β} (hy : y ∈ ys) : ∃ x ∈ xs, R x y := by
  induction h with
  | nil => cases hy
  | cons hx _ ih =>
      rcases List.mem_cons.mp hy with rfl | hy
      · exact ⟨_, List.mem_cons_self, hx⟩
      · obtain ⟨x, hx, hR⟩ := ih hy
        exact ⟨x, List.mem_cons_of_mem _ hx, hR⟩

/-- Every result of a loop is the result of one of its items. -/
theorem exists_of_mem_mapM {f : α → Except ε β} {xs : List α} {ys : List β}
    (h : xs.mapM f = .ok ys) {y : β} (hy : y ∈ ys) : ∃ x ∈ xs, f x = .ok y :=
  exists_of_forall₂ (mapM_ok_iff.mp h) hy

/-- A loop raises exactly when one of its items does. -/
theorem mapM_error_iff {f : α → Except ε β} {xs : List α} :
    (∃ e, xs.mapM f = .error e) ↔ ∃ x ∈ xs, ∀ y, f x ≠ .ok y := by
  induction xs with
  | nil =>
      rw [List.mapM_nil]
      simp [pure, Except.pure]
  | cons x xs ih =>
      rw [List.mapM_cons]
      cases hx : f x with
      | error e =>
          apply iff_of_true
          · exact ⟨e, rfl⟩
          · exact ⟨x, List.mem_cons_self, by simp [hx]⟩
      | ok y =>
          have htail : (∃ e, (do let ys ← xs.mapM f; pure (y :: ys)) = (.error e : Except ε _)) ↔
              ∃ e, xs.mapM f = .error e := by
            cases xs.mapM f with
            | error e => exact Iff.rfl
            | ok ys => simp [pure, Except.pure, bind, Except.bind]
          simp only [List.exists_mem_cons_iff, hx]
          refine htail.trans (ih.trans ?_)
          simp

/-- What a loop raises is what the first item that raises does. -/
theorem exists_of_mapM_error {f : α → Except ε β} {xs : List α} {e : ε}
    (h : xs.mapM f = .error e) : ∃ before x after, xs = before ++ x :: after ∧
      (∀ y ∈ before, ∃ b, f y = .ok b) ∧ f x = .error e := by
  induction xs with
  | nil => cases h
  | cons x xs ih =>
      rw [List.mapM_cons] at h
      cases hx : f x with
      | error e' =>
          rw [hx] at h
          cases h
          exact ⟨[], x, xs, rfl, by simp, hx⟩
      | ok y =>
          rw [hx] at h
          cases hxs : xs.mapM f with
          | ok ys =>
              rw [hxs] at h
              cases h
          | error e' =>
              rw [hxs] at h
              cases h
              obtain ⟨before, z, after, rfl, hbefore, hz⟩ := ih hxs
              refine ⟨x :: before, z, after, rfl, ?_, hz⟩
              rw [List.forall_mem_cons]
              exact ⟨⟨y, hx⟩, hbefore⟩

/-- A loop that raises without a value gives its results item by item as well. -/
theorem mapM_some_iff {α β : Type} {f : α → Option β} {xs : List α} {ys : List β} :
    xs.mapM f = some ys ↔ List.Forall₂ (fun x y => f x = some y) xs ys := by
  induction xs generalizing ys with
  | nil =>
      rw [List.mapM_nil, List.forall₂_nil_left_iff]
      exact ⟨fun h => (Option.some.inj h).symm, fun h => h ▸ rfl⟩
  | cons x xs ih =>
      rw [List.mapM_cons]
      constructor
      · intro h
        obtain ⟨y, hx, h⟩ := Option.bind_eq_some_iff.mp h
        obtain ⟨ys', hxs, h⟩ := Option.bind_eq_some_iff.mp h
        obtain rfl := Option.some.inj h
        exact .cons hx (ih.mp hxs)
      · intro h
        cases h with
        | cons hx hxs =>
            rw [hx, ih.mpr hxs]
            rfl

/-- Such a loop raises exactly when one of its items does. -/
theorem mapM_none_iff {α β : Type} {f : α → Option β} {xs : List α} :
    xs.mapM f = none ↔ ∃ x ∈ xs, f x = none := by
  induction xs with
  | nil => simp
  | cons x xs ih =>
      rw [List.mapM_cons, List.exists_mem_cons_iff, ← ih]
      cases f x with
      | none => simp
      | some y =>
          cases xs.mapM f with
          | none => simp
          | some ys => simp

/-- To leave items out of a loop changes its results, unless none is left out or the loop raises
without them as well. -/
theorem mapM_eq_mapM_filter_iff {α β : Type} {f : α → Option β} {p : α → Bool} {xs : List α} :
    xs.mapM f = (xs.filter p).mapM f ↔
      (∀ x ∈ xs, p x) ∨ ∃ x ∈ xs.filter p, f x = none := by
  constructor
  · intro h
    by_cases hall : ∀ x ∈ xs, p x
    · exact .inl hall
    · right
      rw [← mapM_none_iff, ← h]
      cases hys : xs.mapM f with
      | none => rfl
      | some ys =>
          have hlen := (mapM_some_iff.mp hys).length_eq
          have hlen' := (mapM_some_iff.mp (h.symm.trans hys)).length_eq
          exact absurd (List.length_filter_eq_length_iff.mp (hlen'.trans hlen.symm)) hall
  · intro h
    rcases h with hall | ⟨x, hx, hnone⟩
    · rw [List.filter_eq_self.mpr hall]
    · rw [mapM_none_iff.mpr ⟨x, hx, hnone⟩, mapM_none_iff]
      exact ⟨x, List.mem_of_mem_filter hx, hnone⟩

/-- Two loops in a row over items that raise without a value, the second with a partner for each
item, are one loop. -/
theorem mapM_zip_mapM {α β γ δ : Type} {f : α → Option β} {g : β × γ → Option δ} {xs : List α}
    {zs : List γ} (h : xs.length = zs.length) :
    ((xs.mapM f).bind fun ys => (ys.zip zs).mapM g) =
      (xs.zip zs).mapM fun p => (f p.1).bind fun y => g (y, p.2) := by
  induction xs generalizing zs with
  | nil => rfl
  | cons x xs ih =>
      cases zs with
      | nil => cases h
      | cons z zs =>
          rw [List.zip_cons_cons, List.mapM_cons, List.mapM_cons, ← ih (Nat.succ.inj h)]
          cases f x with
          | none => rfl
          | some y =>
              cases xs.mapM f with
              | none => cases hg : g (y, z) <;> simp [hg]
              | some ys => simp [List.zip_cons_cons, List.mapM_cons]

/-- A loop over what one function makes of the items, when its results are those of another. -/
theorem mapM_map_some {α β γ : Type} {f : β → Option γ} {g : α → β} {h : α → γ} {xs : List α}
    (hf : ∀ x ∈ xs, f (g x) = some (h x)) : (xs.map g).mapM f = some (xs.map h) := by
  rw [mapM_some_iff, List.forall₂_map_left_iff, List.forall₂_map_right_iff, List.forall₂_same]
  exact hf

/-- A loop over two steps gives what the second makes of the results of the first. -/
theorem exists_of_mapM_bind {α β γ : Type} {f : α → Option β} {g : β → Option γ} {xs : List α}
    {zs : List γ} (h : xs.mapM (fun x => (f x).bind g) = some zs) :
    ∃ ys, xs.mapM f = some ys ∧ List.Forall₂ (fun y z => g y = some z) ys zs := by
  induction mapM_some_iff.mp h with
  | nil => exact ⟨[], rfl, .nil⟩
  | @cons x z xs zs hz hzs ih =>
      obtain ⟨y, hy, hz⟩ := Option.bind_eq_some_iff.mp hz
      obtain ⟨ys, hys, hforall⟩ := ih (mapM_some_iff.mpr hzs)
      refine ⟨y :: ys, ?_, .cons hz hforall⟩
      rw [List.mapM_cons, hy, hys]
      rfl

/-- What every round preserves holds after the loop. -/
theorem foldlM_invariant {α β : Type} {f : β → α → Option β} {I : β → Prop} {xs : List α}
    (hstep : ∀ b, ∀ a ∈ xs, ∀ b', I b → f b a = some b' → I b') {b b' : β} (hb : I b)
    (h : xs.foldlM f b = some b') : I b' := by
  induction xs generalizing b with
  | nil =>
      cases h
      exact hb
  | cons x xs ih =>
      rw [List.foldlM_cons] at h
      cases hx : f b x with
      | none =>
          rw [hx] at h
          cases h
      | some next =>
          rw [hx] at h
          have hnext := hstep b x List.mem_cons_self next hb hx
          exact ih (fun b a ha => hstep b a (List.mem_cons_of_mem _ ha)) hnext h

/-! ## Loops over items that do not raise -/

section NotRaising

variable {α β γ ε : Type} {R : α → β → Prop} {xs : List α} {ys : List β}

theorem mapM_of_forall₂ {f : α → Except ε γ} {g : β → γ}
    (h : List.Forall₂ (fun x y => f x = .ok (g y)) xs ys) : xs.mapM f = .ok (ys.map g) := by
  rw [mapM_ok_iff, List.forall₂_map_right_iff]
  exact h

theorem anyM_of_forall {f : α → Except ε Bool} {p : α → Bool} (h : ∀ x, f x = .ok (p x)) :
    xs.anyM f = .ok (xs.any p) := by
  induction xs with
  | nil => rfl
  | cons x xs ih =>
      rw [List.anyM_cons, h, List.any_cons]
      cases p x with
      | true => rfl
      | false => exact ih

/-- The items that a loop keeps stand for the items that the test keeps. -/
theorem filterM_of_forall₂ {f : α → Except ε Bool} {p : β → Bool}
    (h : List.Forall₂ (fun x y => R x y ∧ f x = .ok (p y)) xs ys) :
    ∃ kept, xs.filterM f = .ok kept ∧ List.Forall₂ R kept (ys.filter p) := by
  -- the loop collects the kept items in reverse
  have haux : ∃ kept, (∀ acc, xs.filterAuxM f acc = .ok (kept.reverse ++ acc)) ∧
      List.Forall₂ R kept (ys.filter p) := by
    induction h with
    | nil => exact ⟨[], fun _ => rfl, .nil⟩
    | @cons x y xs ys hxy _ ih =>
        obtain ⟨kept, hkept, hforall⟩ := ih
        rw [List.filter_cons]
        cases hp : p y with
        | true =>
            refine ⟨x :: kept, ?_, .cons hxy.1 hforall⟩
            intro acc
            rw [List.filterAuxM, hxy.2, hp, List.reverse_cons, List.append_assoc]
            exact hkept (x :: acc)
        | false =>
            refine ⟨kept, ?_, hforall⟩
            intro acc
            rw [List.filterAuxM, hxy.2, hp]
            exact hkept acc
  obtain ⟨kept, hkept, hforall⟩ := haux
  refine ⟨kept, ?_, hforall⟩
  rw [List.filterM, hkept []]
  simp [bind, Except.bind, pure, Except.pure]

end NotRaising

/-! ## The first item that gives a result -/

/-- The result of the first item that has one. -/
def firstSome {α β ε : Type} (f : α → Except ε (Option β)) : List α → Except ε (Option β)
  | [] => .ok none
  | x :: xs =>
      match f x with
      | .error e => .error e
      | .ok (some y) => .ok (some y)
      | .ok none => firstSome f xs

section FirstSome

variable {α β ε : Type} {f : α → Except ε (Option β)} {xs : List α} {r : Except ε (Option β)}

theorem firstSome_of_forall₂ {γ : Type} {g : γ → Option β} {ys : List γ}
    (h : List.Forall₂ (fun x y => f x = .ok (g y)) xs ys) :
    firstSome f xs = .ok (ys.findSome? g) := by
  induction h with
  | nil => rfl
  | @cons x y xs ys hxy _ ih =>
      rw [firstSome, hxy, List.findSome?_cons]
      cases g y with
      | none => exact ih
      | some b => rfl

theorem firstSome_of_none {x : α} (h : f x = .ok none) :
    firstSome f (x :: xs) = firstSome f xs := by
  rw [firstSome, h]

theorem firstSome_of_ne {x : α} (h : f x ≠ .ok none) : firstSome f (x :: xs) = f x := by
  rw [firstSome]
  cases hx : f x with
  | error e => rfl
  | ok y =>
      cases y with
      | none => exact absurd hx h
      | some y => rfl

theorem firstSome_reverse_none_iff :
    firstSome f xs.reverse = .ok none ↔ ∀ x ∈ xs, f x = .ok none := by
  induction xs using List.reverseRecOn with
  | nil => simp [firstSome]
  | append_singleton xs x ih =>
      rw [List.reverse_append, List.reverse_singleton, List.singleton_append]
      by_cases hx : f x = .ok none
      · rw [firstSome_of_none hx, ih]
        simp [or_imp, forall_and, hx]
      · rw [firstSome_of_ne hx]
        simp [hx]

/-- Read from the end, the last item that does not pass decides. -/
theorem firstSome_reverse_iff (hr : r ≠ .ok none) : firstSome f xs.reverse = r ↔
    ∃ x after, x :: after <:+ xs ∧ f x = r ∧ ∀ y ∈ after, f y = .ok none := by
  induction xs using List.reverseRecOn with
  | nil =>
      apply iff_of_false
      · exact fun h => hr h.symm
      · intro h
        rcases h with ⟨x, after, hsuffix, -⟩
        cases List.suffix_nil.mp hsuffix
  | append_singleton xs x ih =>
      rw [List.reverse_append, List.reverse_singleton, List.singleton_append]
      by_cases hx : f x = .ok none
      · rw [firstSome_of_none hx, ih]
        constructor
        · intro h
          rcases h with ⟨y, after, hsuffix, hy, hafter⟩
          refine ⟨y, after ++ [x], ?_, hy, ?_⟩
          · exact List.suffix_concat_iff.mpr (.inr ⟨y :: after, rfl, hsuffix⟩)
          · simpa [or_imp, forall_and, hx] using hafter
        · intro h
          rcases h with ⟨y, after, hsuffix, hy, hafter⟩
          rcases List.suffix_concat_iff.mp hsuffix with hnil | ⟨front, hfront, hxs⟩
          · cases hnil
          · cases front with
            | nil =>
                cases hfront
                exact absurd (hy.symm.trans hx) hr
            | cons z front =>
                rw [List.cons_append] at hfront
                cases hfront
                exact ⟨y, front, hxs, hy, fun z hz => hafter z (List.mem_append_left _ hz)⟩
      · rw [firstSome_of_ne hx]
        constructor
        · intro h
          exact ⟨x, [], List.suffix_append xs [x], h, by simp⟩
        · intro h
          rcases h with ⟨y, after, hsuffix, hy, hafter⟩
          rcases List.suffix_concat_iff.mp hsuffix with hnil | ⟨front, hfront, -⟩
          · cases hnil
          · cases front with
            | nil =>
                cases hfront
                exact hy
            | cons z front =>
                rw [List.cons_append] at hfront
                cases hfront
                exact absurd (hafter x (by simp)) hx

end FirstSome

end PyLoop
