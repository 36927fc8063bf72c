import Butido.Package.Tree

/-!
# Queries on the package tree

`has_package` and `find_package_depth` are two recursions over the same tree: the first
compares names, the second applies a predicate to whole packages. Both are characterised here
by the package nodes of the tree (`Tree.nodes`): `has_package p` holds iff some node has the
name of `p` (`hasPackage_iff`), and `find_package_depth` finds a depth iff some node satisfies
its predicate (`findPackageDepth_isSome`).

So `has_package p` agrees with `package_depth_where` on the name of `p`, and `package_depth p`
implies `has_package p`; the converse fails as soon as the tree holds `p`'s name at another
version, which one `add_package` call on an empty tree produces.

`find_package_depth` visits every key of a map, then each subtree in key order (`searchOrder`),
and returns the depth of the first match in that order (`findPackageDepth_eq_find`). That is not
the least depth: a match deep in an earlier subtree is found before a shallower one in a later
subtree (`packageDepthWhere_deeper_first`).
-/

namespace Butido.Package.Tree

variable {P N : Type}

/-! ## Package nodes -/

@[simp] theorem nodes_mk (r : List (P × Tree P)) : (mk r).nodes = nodesOf r := by
  simp [nodes]

@[simp] theorem nodesOf_nil : nodesOf ([] : List (P × Tree P)) = [] := by simp [nodesOf]

@[simp] theorem nodesOf_cons (k : P) (t : Tree P) (rest : List (P × Tree P)) :
    nodesOf ((k, t) :: rest) = (k, t) :: (t.nodes ++ nodesOf rest) := by
  simp [nodesOf]

/-- A node below an entry list is one of its entries or a node of an entry's subtree. -/
theorem mem_nodesOf {e : P × Tree P} :
    ∀ {r : List (P × Tree P)}, e ∈ nodesOf r ↔ ∃ x ∈ r, e = x ∨ e ∈ x.2.nodes
  | [] => by simp
  | (k, t) :: rest => by
    simp [mem_nodesOf, or_assoc]

/-! ## `has_package` -/

section HasPackage

variable (name : P → N) [DecidableEq N] (p : P)

mutual
/-- `has_package p` holds iff a package node of the tree has the name of `p`. -/
theorem hasPackage_iff : ∀ t : Tree P,
    t.hasPackage name p = true ↔ ∃ e ∈ t.nodes, name e.1 = name p
  | mk root => by
    simp only [hasPackage, Bool.or_eq_true, List.any_eq_true, beq_iff_eq, anyHasPackage_iff root,
      nodes_mk, mem_nodesOf]
    constructor
    · rintro (⟨x, hx, hn⟩ | ⟨x, hx, e, he, hn⟩)
      exacts [⟨x, ⟨x, hx, .inl rfl⟩, hn⟩, ⟨e, ⟨x, hx, .inr he⟩, hn⟩]
    · rintro ⟨e, ⟨x, hx, rfl | he⟩, hn⟩
      exacts [.inl ⟨e, hx, hn⟩, .inr ⟨x, hx, e, he, hn⟩]

/-- The subtree half of `has_package`: some subtree of the list has such a node. -/
theorem anyHasPackage_iff : ∀ r : List (P × Tree P),
    anyHasPackage name p r = true ↔ ∃ x ∈ r, ∃ e ∈ x.2.nodes, name e.1 = name p
  | [] => by simp [anyHasPackage]
  | (k, t) :: rest => by
    simp [anyHasPackage, hasPackage_iff t, anyHasPackage_iff rest]
end

/-- An empty tree has no package of any name: the duplicate guard never fires against it. -/
@[simp] theorem hasPackage_new : (new : Tree P).hasPackage name p = false := by
  simp [hasPackage, new, anyHasPackage]

end HasPackage

/-! ## `find_package_depth` -/

section Depth

variable (cmp : P → Bool)

mutual
/-- `find_package_depth` finds a depth iff a package node of the tree satisfies `cmp`. -/
theorem findPackageDepth_isSome : ∀ (t : Tree P) (d : Nat),
    (findPackageDepth cmp t d).isSome = true ↔ ∃ e ∈ t.nodes, cmp e.1 = true
  | mk root, d => by
    simp only [findPackageDepth, nodes_mk, mem_nodesOf]
    split_ifs with h
    · obtain ⟨x, hx, hc⟩ := List.any_eq_true.mp h
      exact iff_of_true rfl ⟨x, ⟨x, hx, .inl rfl⟩, hc⟩
    · rw [firstPackageDepth_isSome root]
      simp only [List.any_eq_true, not_exists, not_and] at h
      constructor
      · rintro ⟨x, hx, e, he, hc⟩
        exact ⟨e, ⟨x, hx, .inr he⟩, hc⟩
      · rintro ⟨e, ⟨x, hx, rfl | he⟩, hc⟩
        exacts [absurd hc (by simpa using h e hx), ⟨x, hx, e, he, hc⟩]

/-- `.values().filter_map(..).next()` finds a depth iff some subtree has a matching node. -/
theorem firstPackageDepth_isSome : ∀ (r : List (P × Tree P)) (d : Nat),
    (firstPackageDepth cmp r d).isSome = true ↔ ∃ x ∈ r, ∃ e ∈ x.2.nodes, cmp e.1 = true
  | [], d => by simp [firstPackageDepth]
  | (k, t) :: rest, d => by
    have ht := findPackageDepth_isSome t d
    cases h : findPackageDepth cmp t d with
    | none =>
      rw [h] at ht
      simp only [firstPackageDepth, h, firstPackageDepth_isSome rest d]
      constructor
      · rintro ⟨x, hx, hr⟩
        exact ⟨x, List.mem_cons_of_mem _ hx, hr⟩
      · rintro ⟨x, hx, e, he, hc⟩
        rcases List.mem_cons.mp hx with rfl | hx
        exacts [absurd (ht.mpr ⟨e, he, hc⟩) (by simp), ⟨x, hx, e, he, hc⟩]
    | some n =>
      obtain ⟨e, he, hc⟩ := ht.mp (by rw [h]; rfl)
      simp only [firstPackageDepth, h, Option.isSome_some, true_iff]
      exact ⟨(k, t), List.mem_cons_self _ _, e, he, hc⟩
end

mutual
/-- The package nodes of a tree with their depths, in the order `find_package_depth` visits them:
    every key of a map at its depth, then the nodes of each subtree, in key order. -/
def searchOrder : Tree P → Nat → List (P × Nat)
  | mk root, d => root.map (fun e => (e.1, d)) ++ searchOrderOf root (d + 1)

/-- The nodes of the subtrees of an entry list, one subtree after the other. -/
def searchOrderOf : List (P × Tree P) → Nat → List (P × Nat)
  | [], _ => []
  | (_, t) :: rest, d => searchOrder t d ++ searchOrderOf rest d
end

mutual
/-- `searchOrder` visits every package node once. -/
theorem searchOrder_perm_nodes : ∀ (t : Tree P) (d : Nat),
    ((searchOrder t d).map Prod.fst).Perm (t.nodes.map Prod.fst)
  | mk root, d => by
    simpa [searchOrder, Function.comp_def] using searchOrderOf_perm_nodesOf root (d + 1)

/-- The keys of an entry list and the nodes of its subtrees are its nodes. -/
theorem searchOrderOf_perm_nodesOf : ∀ (r : List (P × Tree P)) (d : Nat),
    (r.map Prod.fst ++ (searchOrderOf r d).map Prod.fst).Perm ((nodesOf r).map Prod.fst)
  | [], _ => by simp [searchOrderOf]
  | (k, t) :: rest, d => by
    simp only [searchOrderOf, nodesOf_cons, List.map_cons, List.map_append, List.cons_append,
      List.perm_cons]
    exact (List.perm_append_comm_assoc _ _ _).trans
      ((searchOrder_perm_nodes t d).append (searchOrderOf_perm_nodesOf rest d))
end

mutual
/-- `find_package_depth` is the depth of the first node of `searchOrder` satisfying `cmp`. -/
theorem findPackageDepth_eq_find : ∀ (t : Tree P) (d : Nat),
    findPackageDepth cmp t d = ((searchOrder t d).find? fun e => cmp e.1).map Prod.snd
  | mk root, d => by
    simp only [findPackageDepth, searchOrder, List.find?_append, List.find?_map,
      Function.comp_def]
    split_ifs with h
    · obtain ⟨x, hx⟩ := Option.isSome_iff_exists.mp
        (List.find?_isSome.mpr (List.any_eq_true.mp h))
      simp [hx]
    · rw [List.find?_eq_none.mpr fun x hx hc => h (List.any_eq_true.mpr ⟨x, hx, hc⟩)]
      simpa using firstPackageDepth_eq_find root (d + 1)

/-- `.values().filter_map(..).next()` is the first match of the subtrees' orders, in turn. -/
theorem firstPackageDepth_eq_find : ∀ (r : List (P × Tree P)) (d : Nat),
    firstPackageDepth cmp r d = ((searchOrderOf r d).find? fun e => cmp e.1).map Prod.snd
  | [], _ => by simp [firstPackageDepth, searchOrderOf]
  | (k, t) :: rest, d => by
    simp only [firstPackageDepth, searchOrderOf, List.find?_append, findPackageDepth_eq_find t d]
    cases (searchOrder t d).find? fun e => cmp e.1 with
    | none => simpa using firstPackageDepth_eq_find rest d
    | some x => rfl
end

end Depth

/-! ## `package_depth_where` -/

/-- `package_depth_where cmp` is `None` iff no package node satisfies `cmp`; otherwise it is the
    depth of the first node satisfying `cmp` in `searchOrder`, which visits every node once: the
    keys of a map before the nodes below them, the subtrees one after the other in key order. -/
theorem packageDepthWhere_first_in_searchOrder (t : Tree P) (cmp : P → Bool) :
    (t.packageDepthWhere cmp = none ↔ ∀ e ∈ t.nodes, cmp e.1 = false) ∧
    t.packageDepthWhere cmp = ((searchOrder t 0).find? fun e => cmp e.1).map Prod.snd ∧
    ((searchOrder t 0).map Prod.fst).Perm (t.nodes.map Prod.fst) := by
  refine ⟨?_, findPackageDepth_eq_find cmp t 0, searchOrder_perm_nodes t 0⟩
  rw [← Option.not_isSome_iff_eq_none, packageDepthWhere, findPackageDepth_isSome]
  simp

/-- Two chains, `(0,_) → (1,1) → (2,1)` and `(3,_) → (4,1)`. -/
def twoChainDependencies : Lex (ℕ × ℕ) → Except Unit (List (ℕ × ℕ))
  | (0, _) => .ok [(1, 1)]
  | (1, _) => .ok [(2, 1)]
  | (3, _) => .ok [(4, 1)]
  | _ => .ok []

/-- `add_package` of `(0,1)` and then of `(3,1)`: the search for names `2` or `4` finds `(2,1)`
    at depth `2`, under `(0,1)`, before `(4,1)` at depth `1`, under `(3,1)`. -/
theorem packageDepthWhere_deeper_first :
    ∃ t₁ t₂, addPackage pairName twoChainDependencies
        (pairRepository [toLex (0, 1), toLex (1, 1), toLex (2, 1), toLex (3, 1), toLex (4, 1)])
        3 new (toLex (0, 1)) = some (t₁, .ok ()) ∧
      addPackage pairName twoChainDependencies
        (pairRepository [toLex (0, 1), toLex (1, 1), toLex (2, 1), toLex (3, 1), toLex (4, 1)])
        3 t₁ (toLex (3, 1)) = some (t₂, .ok ()) ∧
      t₂ = mk [(toLex (0, 1), mk [(toLex (1, 1), mk [(toLex (2, 1), new)])]),
        (toLex (3, 1), mk [(toLex (4, 1), new)])] ∧
      t₂.packageDepthWhere (fun q => pairName q == 2 || pairName q == 4) = some 2 :=
  ⟨_, _, rfl, rfl, rfl, rfl⟩

/-! ## `has_package` against `package_depth` -/

section HasPackageDepth

variable [LinearOrder P] [DecidableEq N] (name : P → N)

/-- `has_package p` is `package_depth_where` on the name of `p`, and `package_depth p` (a node
    equal to `p`) implies `has_package p`. -/
theorem hasPackage_iff_packageDepthWhere_name (t : Tree P) (p : P) :
    (t.hasPackage name p = true ↔
      (t.packageDepthWhere fun k => name k == name p).isSome = true) ∧
    ((t.packageDepth p).isSome = true → t.hasPackage name p = true) := by
  simp only [packageDepth, packageDepthWhere, findPackageDepth_isSome, hasPackage_iff,
    beq_iff_eq, true_and]
  rintro ⟨e, he, rfl⟩
  exact ⟨e, he, rfl⟩

/-- One `add_package` of `(0, 2)`, with no dependencies, into an empty tree: `has_package`
    finds the name `0` for `(0, 1)`, and `package_depth` does not find `(0, 1)`. -/
theorem hasPackage_other_version :
    ∃ t, addPackage pairName (fun _ => (.ok [] : Except Unit (List (ℕ × ℕ))))
        (pairRepository [toLex (0, 2)]) 1 new (toLex (0, 2)) = some (t, .ok ()) ∧
      t.hasPackage pairName (toLex (0, 1)) = true ∧ t.packageDepth (toLex (0, 1)) = none :=
  ⟨mk [(toLex (0, 2), new)], rfl, by decide, by decide⟩

end HasPackageDepth

end Butido.Package.Tree
