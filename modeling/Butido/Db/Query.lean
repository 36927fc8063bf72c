import Mathlib.Data.List.Sort

/-!
# `ORDER BY key DESC LIMIT l` and the joins of the `db` commands

The query commands of `src/commands/db.rs` build a Diesel query over joined tables, have the
database order its rows by a primary key, descending (`.order_by(id.desc())`), keep the first
`limit` rows (`.limit(limit)`), and reverse them on the Rust side (`.rev()`), so that the
newest row is printed last.

The database is not under `src/`. SQL fixes the multiset of rows a join and a `WHERE` give, but
not the order of rows of equal key, so the model takes the ordering as an `Engine`: any function
returning a permutation of the rows sorted by key, descending. Tables are lists, and a join is
the list of matching pairs in some order; since every query is ordered afterwards, that order
is never seen.

`TopRows key l rows printed` reads "the `min l n` rows with the largest keys, oldest first":
every engine's `.limit(l)` followed by `.rev()` prints such rows (`topRows_reverse_load`), and
when the keys are distinct every engine orders the rows alike (`Engine.orderByDesc_eq_of_nodup`):
the output does not depend on the engine. A join on a unique key of the right table keeps the left rows' keys distinct
(`innerJoin_map_fst_sublist`).
-/

namespace Butido.Db

variable {α β : Type}

/-! ## The database's order -/

/-- How the database runs `ORDER BY key DESC`: a permutation of the rows sorted by key,
    descending, rows of equal key in an order of its own. -/
structure Engine where
  orderByDesc : {α : Type} → (α → ℤ) → List α → List α
  perm : ∀ {α : Type} (key : α → ℤ) (rows : List α), (orderByDesc key rows).Perm rows
  sorted : ∀ {α : Type} (key : α → ℤ) (rows : List α),
    (orderByDesc key rows).Sorted fun a b => key b ≤ key a

/-- The engine that keeps rows of equal key in the order the join produced them: an insertion
    sort, so that a run on a small database computes. -/
def Engine.stable : Engine where
  orderByDesc key rows := rows.insertionSort fun a b => key b ≤ key a
  perm key rows := List.perm_insertionSort _ rows
  sorted key rows := by
    haveI : IsTotal _ fun a b => key b ≤ key a := ⟨fun a b => le_total (key b) (key a)⟩
    haveI : IsTrans _ fun a b => key b ≤ key a := ⟨fun _ _ _ hab hbc => hbc.trans hab⟩
    exact List.sorted_insertionSort _ rows

/-- `.order_by(key.desc()).limit(limit)` followed by `.load()`: the first `limit` rows in the
    engine's order. -/
def Engine.load (eng : Engine) (key : α → ℤ) (limit : ℕ) (rows : List α) : List α :=
  (eng.orderByDesc key rows).take limit

/-- A row that a query prints is one of the rows it matched. -/
theorem Engine.mem_of_mem_load_reverse (eng : Engine) {key : α → ℤ} {l : ℕ} {rows : List α}
    {x : α} (h : x ∈ (eng.load key l rows).reverse) : x ∈ rows :=
  (eng.perm key rows).subset (List.mem_of_mem_take (List.mem_reverse.mp h))

/-! ## Joins -/

/-- `xs.inner_join(ys.on(cond))`: the pairs of rows that satisfy `cond`. -/
def innerJoin (xs : List α) (ys : List β) (cond : α → β → Bool) : List (α × β) :=
  xs.flatMap fun x => (ys.filter (cond x)).map (x, ·)

/-- `xs.left_join(ys.on(cond))`: each row of `xs` with each of its matches, or with `NULL` if
    it has none. -/
def leftJoin (xs : List α) (ys : List β) (cond : α → β → Bool) : List (α × Option β) :=
  xs.flatMap fun x =>
    match ys.filter (cond x) with
    | [] => [(x, none)]
    | ms => ms.map fun y => (x, some y)

/-- A pair is in an inner join iff both rows are and they satisfy the condition. -/
theorem mem_innerJoin {xs : List α} {ys : List β} {cond : α → β → Bool} {x : α} {y : β} :
    (x, y) ∈ innerJoin xs ys cond ↔ x ∈ xs ∧ y ∈ ys ∧ cond x y := by
  simp [innerJoin]

/-- A left join keeps only rows of its left table. -/
theorem fst_mem_of_mem_leftJoin {xs : List α} {ys : List β} {cond : α → β → Bool}
    {r : α × Option β} (h : r ∈ leftJoin xs ys cond) : r.1 ∈ xs := by
  obtain ⟨x, hx, hr⟩ := List.mem_flatMap.mp h
  split at hr <;> simp only [List.mem_singleton, List.mem_map] at hr
  · rw [hr]; exact hx
  · obtain ⟨_, -, rfl⟩ := hr; exact hx

/-- A left join keeps every row of its left table. -/
theorem exists_mem_leftJoin {xs : List α} {ys : List β} {cond : α → β → Bool} {x : α}
    (hx : x ∈ xs) : ∃ o, (x, o) ∈ leftJoin xs ys cond := by
  cases hm : ys.filter (cond x) with
  | nil => exact ⟨none, List.mem_flatMap.mpr ⟨x, hx, by simp [hm]⟩⟩
  | cons y _ => exact ⟨some y, List.mem_flatMap.mpr ⟨x, hx, by simp [hm]⟩⟩

/-- Rows of `ys` whose keys are distinct: at most one has a given key. -/
theorem length_filter_key_le_one {key : β → ℤ} {ys : List β} (hk : (ys.map key).Nodup) (k : ℤ) :
    (ys.filter fun y => k == key y).length ≤ 1 := by
  have hn : ((ys.filter fun y => k == key y).map key).Nodup :=
    hk.sublist ((List.filter_sublist _).map key)
  have hall : ∀ k' ∈ (ys.filter fun y => k == key y).map key, k' = k := by
    simp only [List.mem_map, List.mem_filter, beq_iff_eq]
    rintro _ ⟨y, ⟨-, rfl⟩, rfl⟩
    rfl
  rw [List.eq_replicate_iff.mpr ⟨rfl, hall⟩, List.nodup_replicate] at hn
  simpa using hn

/-- A join on a unique key of `ys` adds no row: each row of `xs` appears at most once. -/
theorem innerJoin_map_fst_sublist {key : β → ℤ} {ys : List β} (hk : (ys.map key).Nodup)
    (fk : α → ℤ) :
    ∀ xs : List α, ((innerJoin xs ys fun x y => fk x == key y).map Prod.fst).Sublist xs
  | [] => List.Sublist.slnil
  | x :: xs => by
    have hx : (((ys.filter fun y => fk x == key y).map (x, ·)).map Prod.fst).Sublist [x] := by
      rw [List.map_map, ← List.replicate_one]
      exact (List.map_const' _ x).symm ▸
        (List.replicate_sublist_replicate x).mpr (length_filter_key_le_one hk (fk x))
    simp only [innerJoin, List.flatMap_cons, List.map_append]
    exact hx.append (innerJoin_map_fst_sublist hk fk xs)

/-! ## The rows a query prints -/

/-- `printed` keeps `min l n` of the `n` rows, in ascending key order, and no row left out has
    a larger key than a printed one. -/
structure TopRows (key : α → ℤ) (l : ℕ) (rows printed : List α) : Prop where
  length : printed.length = min l rows.length
  sorted : printed.Sorted fun a b => key a ≤ key b
  top : ∃ rest, (printed ++ rest).Perm rows ∧ ∀ a ∈ printed, ∀ b ∈ rest, key b ≤ key a

/-- Under every engine, `.limit(l)` and `.rev()` print the top `l` rows, oldest first. -/
theorem topRows_reverse_load (eng : Engine) (key : α → ℤ) (l : ℕ) (rows : List α) :
    TopRows key l rows (eng.load key l rows).reverse := by
  have hp := eng.perm key rows
  have hs := eng.sorted key rows
  rw [← List.take_append_drop l (eng.orderByDesc key rows)] at hp hs
  obtain ⟨hs₁, -, hs₁₂⟩ := List.pairwise_append.mp hs
  refine ⟨?_, List.pairwise_reverse.mpr hs₁, (eng.orderByDesc key rows).drop l,
    ((List.reverse_perm _).append_right _).trans hp, fun a ha b hb => ?_⟩
  · rw [List.length_reverse, Engine.load, List.length_take, (eng.perm key rows).length_eq]
  · exact hs₁₂ a (List.mem_reverse.mp ha) b hb

/-- Selecting columns that carry the key (`.select(..)`) keeps the top rows. -/
theorem TopRows.map {key : α → ℤ} {key' : β → ℤ} {l : ℕ} {rows p : List α} (f : α → β)
    (hf : ∀ a, key' (f a) = key a) (h : TopRows key l rows p) :
    TopRows key' l (rows.map f) (p.map f) := by
  obtain ⟨rest, hperm, htop⟩ := h.top
  refine ⟨by simp [h.length], List.pairwise_map.mpr (h.sorted.imp fun hab => ?_), rest.map f,
    by simpa using hperm.map f, ?_⟩
  · rwa [hf, hf]
  · simp only [List.mem_map]
    rintro _ ⟨a, ha, rfl⟩ _ ⟨b, hb, rfl⟩
    rw [hf, hf]
    exact htop a ha b hb

/-- Rows sorted by key, descending, with distinct keys, are sorted strictly. -/
theorem sorted_lt_of_nodup {key : α → ℤ} {l : List α}
    (hs : l.Sorted fun a b => key b ≤ key a) (hn : (l.map key).Nodup) :
    l.Sorted fun a b => key b < key a :=
  (hs.and (List.pairwise_map.mp hn)).imp fun h => lt_of_le_of_ne h.1 (Ne.symm h.2)

/-- With distinct keys, a descending order of rows is determined by the rows. -/
theorem eq_of_perm_of_sorted_desc {key : α → ℤ} {l l' : List α} (hp : l.Perm l')
    (hn : (l.map key).Nodup) (hs : l.Sorted fun a b => key b ≤ key a)
    (hs' : l'.Sorted fun a b => key b ≤ key a) : l = l' := by
  haveI : IsAntisymm α fun a b => key b < key a :=
    ⟨fun _ _ h h' => absurd (h.trans h') (lt_irrefl _)⟩
  exact List.eq_of_perm_of_sorted hp (sorted_lt_of_nodup hs hn)
    (sorted_lt_of_nodup hs' ((hp.map key).nodup_iff.mp hn))

/-- Every engine orders the keys alike: only rows of equal key can trade places. -/
theorem Engine.map_key_orderByDesc (eng eng' : Engine) (key : α → ℤ) (rows : List α) :
    (eng.orderByDesc key rows).map key = (eng'.orderByDesc key rows).map key := by
  haveI : IsAntisymm ℤ fun a b => b ≤ a := ⟨fun _ _ h h' => le_antisymm h' h⟩
  have hs : ∀ e : Engine, ((e.orderByDesc key rows).map key).Sorted fun a b => b ≤ a :=
    fun e => List.pairwise_map.mpr (e.sorted key rows)
  exact List.eq_of_perm_of_sorted (((eng.perm key rows).trans (eng'.perm key rows).symm).map key)
    (hs eng) (hs eng')

/-- With distinct keys, every engine orders the rows alike. -/
theorem Engine.orderByDesc_eq_of_nodup (eng eng' : Engine) {key : α → ℤ} {rows : List α}
    (hk : (rows.map key).Nodup) : eng.orderByDesc key rows = eng'.orderByDesc key rows :=
  eq_of_perm_of_sorted_desc ((eng.perm key rows).trans (eng'.perm key rows).symm)
    (((eng.perm key rows).map key).nodup_iff.mpr hk) (eng.sorted key rows) (eng'.sorted key rows)

end Butido.Db
