import Mathlib.Order.Basic
import Mathlib.Data.List.Sort

/-!
# `BTreeMap` as a sorted entry list

`std::collections::BTreeMap<K, V>` is modelled by the list of its entries in key order:
iteration (`keys()`, `values()`, `iter()`) is list order, and `insert` walks the list once,
replacing the value stored under an equal key in place.

Well-formedness of the representation (keys strictly increasing) is `BTreeMap.WF`;
`insert` keeps it (`WF.insert`) and adds exactly its key (`mem_keys_insert`).
-/

namespace Butido.BTreeMap

variable {K V : Type} [LinearOrder K]

/-- `BTreeMap::insert`: put `k ↦ v` at its place in key order, replacing the value of an
    equal key. -/
def insert (k : K) (v : V) : List (K × V) → List (K × V)
  | [] => [(k, v)]
  | (k', v') :: rest =>
    if k < k' then (k, v) :: (k', v') :: rest
    else if k = k' then (k, v) :: rest
    else (k', v') :: insert k v rest

/-- Keys strictly increase along the entry list. -/
def WF (m : List (K × V)) : Prop := m.Pairwise (fun a b => a.1 < b.1)

theorem wf_nil : WF ([] : List (K × V)) := List.Pairwise.nil

/-- The keys of a well-formed map, in iteration order, are strictly sorted. -/
theorem WF.keys_sorted {m : List (K × V)} (h : WF m) : (m.map Prod.fst).Sorted (· < ·) :=
  List.pairwise_map.mpr h

/-- An entry of `insert k v m` is the new one or an entry of `m`. -/
theorem mem_insert_imp {k : K} {v : V} {e : K × V} :
    ∀ {m : List (K × V)}, e ∈ insert k v m → e = (k, v) ∨ e ∈ m
  | [], h => by simpa [insert] using h
  | (k', v') :: rest, h => by
    unfold insert at h
    split_ifs at h
    · simpa using h
    · rcases List.mem_cons.mp h with h | h
      · exact .inl h
      · exact .inr (List.mem_cons_of_mem _ h)
    · rcases List.mem_cons.mp h with h | h
      · exact .inr (h ▸ List.mem_cons_self _ _)
      · exact (mem_insert_imp h).imp_right (List.mem_cons_of_mem _)

/-- `insert` adds its key to the key set and removes none. -/
theorem mem_keys_insert {k k₀ : K} {v : V} :
    ∀ {m : List (K × V)}, k₀ ∈ (insert k v m).map Prod.fst ↔ k₀ = k ∨ k₀ ∈ m.map Prod.fst
  | [] => by simp [insert]
  | (k', v') :: rest => by
    unfold insert
    split_ifs with hlt heq
    · simp
    · subst heq; simp
    · simp only [List.map_cons, List.mem_cons, mem_keys_insert]
      tauto

/-- A property of all entries survives `insert` of an entry that has it. -/
theorem forall_mem_insert {Q : K × V → Prop} {k : K} {v : V} {m : List (K × V)}
    (hm : ∀ e ∈ m, Q e) (hkv : Q (k, v)) : ∀ e ∈ insert k v m, Q e := fun _ he =>
  (mem_insert_imp he).elim (· ▸ hkv) (hm _)

/-- `insert` keeps the keys strictly sorted. -/
theorem WF.insert {k : K} {v : V} : ∀ {m : List (K × V)}, WF m → WF (insert k v m)
  | [], _ => List.pairwise_singleton _ _
  | (k', v') :: rest, h => by
    rw [WF, List.pairwise_cons] at h
    unfold BTreeMap.insert
    split_ifs with hlt heq
    · refine List.Pairwise.cons (fun e he => ?_) (List.pairwise_cons.mpr h)
      rcases List.mem_cons.mp he with rfl | he
      · exact hlt
      · exact hlt.trans (h.1 e he)
    · subst heq
      exact List.Pairwise.cons h.1 h.2
    · refine List.Pairwise.cons (forall_mem_insert h.1 ?_) (WF.insert h.2)
      exact lt_of_le_of_ne (not_lt.mp hlt) (Ne.symm heq)

end Butido.BTreeMap
