import Butido.Package.TreeQuery

/-!
# `add_package`: the root is read-only, and fuel

Two facts about every run of `add_package_tree`, each proved once for the two loops of
`mk_add_package_tree!` and lifted to the recursion by induction on the fuel:

* the `root` passed down as `&mut Tree` comes back as it went in (`KeepsRoot`), so an
  `add_package` that fails leaves `self` unchanged (`addPackage_error_unchanged`);
* more fuel never changes a result (`Extends`, `addPackage_mono`), so a run that is `none` at
  every fuel is a run that never returns.

The duplicate guard reads a root the recursion never writes, so from an empty tree it never
fires (`addPackage_new_no_duplicate`), whatever the repository. A package that depends on its
own name then recurses forever (`addPackage_self_dependency_diverges`), and a diamond puts one
name at two nodes (`addPackage_diamond_duplicates`). What the guard does ensure is that the
subtree a successful call builds holds no name of the tree the call started from
(`addPackage_ok_avoids_tree_names`); the added package itself is never compared.
-/

namespace Butido.Package

open Tree

variable {P N C E : Type} [LinearOrder P] [DecidableEq N]
variable {name : P → N} {getAllDependencies : P → Except E (List (N × C))}
variable {repo : Repository P N C}

/-! ## The root is read-only -/

/-- `addTree` returns the `root` it is given. -/
def KeepsRoot (addTree : Tree P → P → Tree P → Option (Outcome P E)) : Prop :=
  ∀ ⦃this q root o⦄, addTree this q root = some o → o.root = root

section KeepsRoot

variable {addTree : Tree P → P → Tree P → Option (Outcome P E)} (h : KeepsRoot addTree)
include h

omit [LinearOrder P] in
theorem followCandidates_root :
    ∀ {pack : List P} {subtree root : Tree P} {o : Outcome P E},
      followCandidates addTree pack subtree root = some o → o.root = root
  | [], _, _, _, hrun => by cases hrun; rfl
  | q :: pack, subtree, root, o, hrun => by
    simp only [followCandidates, Option.bind_eq_some] at hrun
    obtain ⟨o₁, h₁, hrun⟩ := hrun
    split at hrun
    · exact (followCandidates_root hrun).trans (h h₁)
    · cases hrun; exact h h₁

omit [LinearOrder P] in
theorem followDependencies_root :
    ∀ {deps : List (N × C)} {subtree root : Tree P} {o : Outcome P E},
      followDependencies name repo addTree deps subtree root = some o → o.root = root
  | [], _, _, _, hrun => by cases hrun; rfl
  | (n, constr) :: deps, subtree, root, o, hrun => by
    simp only [followDependencies] at hrun
    split at hrun
    · cases hrun; rfl
    · obtain ⟨o₁, h₁, hrun⟩ := Option.bind_eq_some.mp hrun
      have h₁root := followCandidates_root h h₁
      split at hrun
      · exact (followDependencies_root hrun).trans h₁root
      · cases hrun; exact h₁root

omit [LinearOrder P] in
theorem mkAddPackageTree_root {root : Tree P} {pack : P} {o : Outcome P E}
    (hrun : mkAddPackageTree name getAllDependencies repo addTree root pack = some o) :
    o.root = root := by
  unfold mkAddPackageTree at hrun
  split at hrun
  · cases hrun; rfl
  · exact followDependencies_root h hrun

end KeepsRoot

/-- No call of `add_package_tree` writes the root it is passed. -/
theorem addPackageTree_keepsRoot :
    ∀ fuel, KeepsRoot (addPackageTree name getAllDependencies repo fuel)
  | 0 => fun _ _ _ _ h => by cases h
  | fuel + 1 => fun _ _ _ _ h => by
    simp only [addPackageTree, Option.map_eq_some'] at h
    obtain ⟨o, ho, rfl⟩ := h
    have := mkAddPackageTree_root (addPackageTree_keepsRoot fuel) ho
    exact this

/-- The run inside `add_package` returns `self` as its root. -/
theorem addPackage_eq_insertSubtree {fuel : Nat} {t : Tree P} {p : P}
    {r : Tree P × Except (Error P E) Unit}
    (h : addPackage name getAllDependencies repo fuel t p = some r) :
    ∃ o, mkAddPackageTree name getAllDependencies repo
      (addPackageTree name getAllDependencies repo fuel) t p = some o ∧
      r = insertSubtree t p o := by
  simp only [addPackage, Option.map_eq_some'] at h
  obtain ⟨o, ho, rfl⟩ := h
  exact ⟨o, ho, by rw [mkAddPackageTree_root (addPackageTree_keepsRoot fuel) ho]⟩

/-- A failed `add_package` leaves the tree exactly as it was. -/
theorem addPackage_error_unchanged {fuel : Nat} {t t' : Tree P} {p : P} {e : Error P E}
    (h : addPackage name getAllDependencies repo fuel t p = some (t', .error e)) : t' = t := by
  obtain ⟨o, -, hr⟩ := addPackage_eq_insertSubtree h
  unfold insertSubtree at hr
  split at hr <;> simp_all

/-- A tree holding `(1,1)`, into which `(0,1)`, depending on `(1,1)`, is added: the duplicate
    guard fires and the tree comes back as it was. -/
theorem addPackage_error_unchanged_duplicate :
    addPackage pairName chainDependencies (pairRepository [toLex (0, 1), toLex (1, 1)]) 1
        (new.insert (toLex (1, 1)) new) (toLex (0, 1)) =
      some (new.insert (toLex (1, 1)) new, .error (.duplicatePackage [toLex (1, 1)])) ∧
    new.insert (toLex (1, 1)) new = new.insert (toLex (1, 1)) new := by
  refine ⟨?h, addPackage_error_unchanged ?h⟩
  rfl

/-! ## Fuel -/

/-- `g` returns whatever `f` returns. -/
def Extends (f g : Tree P → P → Tree P → Option (Outcome P E)) : Prop :=
  ∀ ⦃this q root o⦄, f this q root = some o → g this q root = some o

section Extends

variable {f g : Tree P → P → Tree P → Option (Outcome P E)} (h : Extends f g)
include h

omit [LinearOrder P] in
theorem followCandidates_extends :
    ∀ {pack : List P} {subtree root : Tree P} {o : Outcome P E},
      followCandidates f pack subtree root = some o →
        followCandidates g pack subtree root = some o
  | [], _, _, _, hrun => hrun
  | q :: pack, subtree, root, o, hrun => by
    simp only [followCandidates, Option.bind_eq_some] at hrun ⊢
    obtain ⟨o₁, h₁, hrun⟩ := hrun
    refine ⟨o₁, h h₁, ?_⟩
    split at hrun
    · next hok => simpa only [hok] using followCandidates_extends hrun
    · next e he => simpa only [he] using hrun

omit [LinearOrder P] in
theorem followDependencies_extends :
    ∀ {deps : List (N × C)} {subtree root : Tree P} {o : Outcome P E},
      followDependencies name repo f deps subtree root = some o →
        followDependencies name repo g deps subtree root = some o
  | [], _, _, _, hrun => hrun
  | (n, constr) :: deps, subtree, root, o, hrun => by
    simp only [followDependencies] at hrun ⊢
    split at hrun
    · next hc => rwa [if_pos hc]
    · next hc =>
      rw [if_neg hc, Option.bind_eq_some]
      obtain ⟨o₁, h₁, hrun⟩ := Option.bind_eq_some.mp hrun
      refine ⟨o₁, followCandidates_extends h h₁, ?_⟩
      split at hrun
      · next hok => simpa only [hok] using followDependencies_extends hrun
      · next e he => simpa only [he] using hrun

omit [LinearOrder P] in
theorem mkAddPackageTree_extends {root : Tree P} {pack : P} {o : Outcome P E}
    (hrun : mkAddPackageTree name getAllDependencies repo f root pack = some o) :
    mkAddPackageTree name getAllDependencies repo g root pack = some o := by
  unfold mkAddPackageTree at hrun ⊢
  split at hrun
  · exact hrun
  · exact followDependencies_extends h hrun

end Extends

/-- One more unit of fuel keeps every result of `add_package_tree`. -/
theorem addPackageTree_extends_succ :
    ∀ fuel, Extends (addPackageTree name getAllDependencies repo fuel)
      (addPackageTree name getAllDependencies repo (fuel + 1))
  | 0 => fun _ _ _ _ h => by cases h
  | fuel + 1 => fun _ _ _ _ h => by
    simp only [addPackageTree, Option.map_eq_some'] at h ⊢
    obtain ⟨o, ho, rfl⟩ := h
    exact ⟨o, mkAddPackageTree_extends (addPackageTree_extends_succ fuel) ho, rfl⟩

theorem addPackageTree_mono {n m : Nat} (hnm : n ≤ m) :
    Extends (addPackageTree name getAllDependencies repo n)
      (addPackageTree name getAllDependencies repo m) := by
  induction m, hnm using Nat.le_induction with
  | base => exact fun _ _ _ _ => id
  | succ m _ ih => exact fun _ _ _ _ h => addPackageTree_extends_succ m (ih h)

/-- A result of `add_package` at some fuel is its result at every larger fuel. -/
theorem addPackage_mono {n m : Nat} (hnm : n ≤ m) {t : Tree P} {p : P}
    {r : Tree P × Except (Error P E) Unit}
    (h : addPackage name getAllDependencies repo n t p = some r) :
    addPackage name getAllDependencies repo m t p = some r := by
  simp only [addPackage, Option.map_eq_some'] at h ⊢
  obtain ⟨o, ho, rfl⟩ := h
  exact ⟨o, mkAddPackageTree_extends (addPackageTree_mono hnm) ho, rfl⟩

/-- A package that depends on its own name, from an empty tree: at every fuel the run is still
    recursing, so with `addPackage_mono` it never returns. -/
theorem addPackage_self_dependency_diverges (fuel : Nat) :
    addPackage pairName (fun _ => (.ok [(0, 1)] : Except Unit (List (ℕ × ℕ))))
      (pairRepository [toLex (0, 1)]) fuel new (toLex (0, 1)) = none := by
  have hfind : (pairRepository [toLex (0, 1)]).findWithVersionConstraint 0 1 = [toLex (0, 1)] :=
    rfl
  have hloop : ∀ n (this : Tree (Lex (ℕ × ℕ))),
      addPackageTree pairName (fun _ => (.ok [(0, 1)] : Except Unit (List (ℕ × ℕ))))
        (pairRepository [toLex (0, 1)]) n this (toLex (0, 1)) new = none := by
    intro n
    induction n with
    | zero => intro _; rfl
    | succ n ih =>
      intro _
      simp [addPackageTree, mkAddPackageTree, followDependencies, followCandidates, ih, hfind]
  simp [addPackage, mkAddPackageTree, followDependencies, followCandidates, hloop, hfind]

/-! ## The duplicate guard against an empty root -/

/-- `addTree`, run against `root`, never fails with the duplicate guard. -/
def NoDuplicate (addTree : Tree P → P → Tree P → Option (Outcome P E)) (root : Tree P) :
    Prop :=
  ∀ ⦃this q o⦄, addTree this q root = some o → ∀ pack, o.result ≠ .error (.duplicatePackage pack)

section NoDuplicate

variable {addTree : Tree P → P → Tree P → Option (Outcome P E)} {root : Tree P}
variable (hk : KeepsRoot addTree) (hn : NoDuplicate addTree root)
include hk hn

omit [LinearOrder P] in
theorem followCandidates_noDuplicate :
    ∀ {pack' : List P} {subtree : Tree P} {o : Outcome P E},
      followCandidates addTree pack' subtree root = some o →
        ∀ pack, o.result ≠ .error (.duplicatePackage pack)
  | [], _, _, hrun => by cases hrun; simp
  | q :: pack', subtree, o, hrun => by
    simp only [followCandidates, Option.bind_eq_some] at hrun
    obtain ⟨o₁, h₁, hrun⟩ := hrun
    split at hrun
    · rw [hk h₁] at hrun
      exact followCandidates_noDuplicate hrun
    · cases hrun; exact hn h₁

omit [LinearOrder P] in
theorem followDependencies_noDuplicate (hempty : ∀ q, root.hasPackage name q = false) :
    ∀ {deps : List (N × C)} {subtree : Tree P} {o : Outcome P E},
      followDependencies name repo addTree deps subtree root = some o →
        ∀ pack, o.result ≠ .error (.duplicatePackage pack)
  | [], _, _, hrun => by cases hrun; simp
  | (n, constr) :: deps, subtree, o, hrun => by
    simp only [followDependencies] at hrun
    rw [if_neg (by simp [hempty])] at hrun
    obtain ⟨o₁, h₁, hrun⟩ := Option.bind_eq_some.mp hrun
    split at hrun
    · rw [followCandidates_root hk h₁] at hrun
      exact followDependencies_noDuplicate hempty hrun
    · cases hrun; exact followCandidates_noDuplicate hk hn h₁

end NoDuplicate

/-- Against a root holding no package, no call of `add_package_tree` fails with the duplicate
    guard. -/
theorem addPackageTree_noDuplicate {root : Tree P} (hempty : ∀ q, root.hasPackage name q = false) :
    ∀ fuel, NoDuplicate (addPackageTree name getAllDependencies repo fuel) root
  | 0 => fun _ _ _ h => by cases h
  | fuel + 1 => fun this q _ h pack => by
    simp only [addPackageTree, Option.map_eq_some'] at h
    obtain ⟨o, ho, rfl⟩ := h
    unfold mkAddPackageTree at ho
    unfold insertSubtree
    split at ho
    · cases ho; simp
    · have := followDependencies_noDuplicate (addPackageTree_keepsRoot fuel)
        (addPackageTree_noDuplicate hempty fuel) hempty ho pack
      split <;> simp_all

/-- The duplicate guard reads a root that the recursion never writes: from an empty tree it
    never fires, whatever the repository and the dependency graph. -/
theorem addPackage_new_no_duplicate (fuel : Nat) (p : P) (t' : Tree P) (pack : List P) :
    addPackage name getAllDependencies repo fuel new p ≠
      some (t', .error (.duplicatePackage pack)) := by
  intro h
  obtain ⟨o, ho, hr⟩ := addPackage_eq_insertSubtree h
  have hempty : ∀ q, (new : Tree P).hasPackage name q = false := hasPackage_new name
  unfold mkAddPackageTree at ho
  unfold insertSubtree at hr
  split at ho
  · cases ho; simp at hr
  · have := followDependencies_noDuplicate (addPackageTree_keepsRoot fuel)
      (addPackageTree_noDuplicate hempty fuel) hempty ho pack
    split at hr <;> simp_all

/-- The diamond `(0,1) → (1,1), (2,1)` with `(1,1) → (3,1)` and `(2,1) → (3,1)`. -/
def diamondDependencies : Lex (ℕ × ℕ) → Except Unit (List (ℕ × ℕ))
  | (0, _) => .ok [(1, 1), (2, 1)]
  | (1, _) | (2, _) => .ok [(3, 1)]
  | _ => .ok []

/-- `add_package` of the diamond's top into an empty tree succeeds with `(3,1)` at two nodes. -/
theorem addPackage_diamond_duplicates :
    ∃ t, addPackage pairName diamondDependencies
        (pairRepository [toLex (0, 1), toLex (1, 1), toLex (2, 1), toLex (3, 1)]) 3 new
        (toLex (0, 1)) = some (t, .ok ()) ∧
      t.nodes.map (pairName ·.1) = [0, 1, 3, 2, 3] ∧ ¬ (t.nodes.map (pairName ·.1)).Nodup :=
  ⟨_, rfl, by decide, by decide⟩

/-! ## What the duplicate guard ensures

The guard compares each dependency's candidates with the root as it was before the call. So on
success the subtree built under `p` holds no name of the tree the call started from, at any
depth; `p` itself is never compared, and names may repeat inside the new subtree. -/

/-- No package node of `sub` has the name of a package of `root`. -/
def AvoidsRoot (name : P → N) (root sub : Tree P) : Prop :=
  ∀ e ∈ sub.nodes, root.hasPackage name e.1 = false

omit [DecidableEq N] in
/-- A node of `t.insert q U` is a node of `t`, the new entry, or a node of `U`. -/
theorem mem_nodes_insert {t U : Tree P} {q : P} {e : P × Tree P} (he : e ∈ (t.insert q U).nodes) :
    e ∈ t.nodes ∨ e = (q, U) ∨ e ∈ U.nodes := by
  obtain ⟨root⟩ := t
  obtain ⟨x, hx, hex⟩ := mem_nodesOf.mp (by simpa [Tree.insert] using he)
  rcases BTreeMap.mem_insert_imp hx with rfl | hx
  · exact .inr hex
  · exact .inl (by simpa using mem_nodesOf.mpr ⟨x, hx, hex⟩)

theorem AvoidsRoot.insert {root t U : Tree P} {q : P} (ht : AvoidsRoot name root t)
    (hq : root.hasPackage name q = false) (hU : AvoidsRoot name root U) :
    AvoidsRoot name root (t.insert q U) := fun e he =>
  (mem_nodes_insert he).elim (ht e) fun h => h.elim (fun h => h ▸ hq) (hU e)

/-- On success, `addTree` inserts under `q` a subtree that avoids the root's names. -/
def InsertsAvoiding (name : P → N) (addTree : Tree P → P → Tree P → Option (Outcome P E)) :
    Prop :=
  ∀ ⦃this q root o⦄, addTree this q root = some o → o.result = .ok () →
    ∃ U, AvoidsRoot name root U ∧ o.this = this.insert q U

section Avoiding

variable {addTree : Tree P → P → Tree P → Option (Outcome P E)}
variable (hk : KeepsRoot addTree) (ha : InsertsAvoiding name addTree)
include hk ha

theorem followCandidates_avoids :
    ∀ {pack : List P} {subtree root : Tree P} {o : Outcome P E},
      (∀ q ∈ pack, root.hasPackage name q = false) → AvoidsRoot name root subtree →
      followCandidates addTree pack subtree root = some o → o.result = .ok () →
      AvoidsRoot name root o.this
  | [], _, _, _, _, hs, hrun, _ => by cases hrun; exact hs
  | q :: pack, subtree, root, o, hpack, hs, hrun, hok => by
    simp only [followCandidates, Option.bind_eq_some] at hrun
    obtain ⟨o₁, h₁, hrun⟩ := hrun
    split at hrun
    · next hres =>
      obtain ⟨U, hU, hthis⟩ := ha h₁ hres
      rw [hk h₁] at hrun
      refine followCandidates_avoids (fun q' hq' => hpack q' (List.mem_cons_of_mem _ hq')) ?_
        hrun hok
      exact hthis ▸ hs.insert (hpack q (List.mem_cons_self _ _)) hU
    · next e he => cases hrun; simp [he] at hok

theorem followDependencies_avoids :
    ∀ {deps : List (N × C)} {subtree root : Tree P} {o : Outcome P E},
      AvoidsRoot name root subtree →
      followDependencies name repo addTree deps subtree root = some o → o.result = .ok () →
      AvoidsRoot name root o.this
  | [], _, _, _, hs, hrun, _ => by cases hrun; exact hs
  | (n, constr) :: deps, subtree, root, o, hs, hrun, hok => by
    simp only [followDependencies] at hrun
    split at hrun
    · cases hrun; simp at hok
    · next hguard =>
      obtain ⟨o₁, h₁, hrun⟩ := Option.bind_eq_some.mp hrun
      have hpack : ∀ q ∈ repo.findWithVersionConstraint n constr,
          root.hasPackage name q = false := by
        simpa using hguard
      split at hrun
      · next hres =>
        rw [followCandidates_root hk h₁] at hrun
        exact followDependencies_avoids (followCandidates_avoids hk ha hpack hs h₁ hres) hrun hok
      · next e he => cases hrun; simp [he] at hok

theorem mkAddPackageTree_avoids {root : Tree P} {pack : P} {o : Outcome P E}
    (hrun : mkAddPackageTree name getAllDependencies repo addTree root pack = some o)
    (hok : o.result = .ok ()) : AvoidsRoot name root o.this := by
  unfold mkAddPackageTree at hrun
  split at hrun
  · cases hrun; simp at hok
  · exact followDependencies_avoids hk ha (fun e he => by simp [new] at he) hrun hok

end Avoiding

/-- On success, `add_package_tree` inserts a subtree that avoids the root's names. -/
theorem addPackageTree_insertsAvoiding :
    ∀ fuel, InsertsAvoiding name (addPackageTree name getAllDependencies repo fuel)
  | 0 => fun _ _ _ _ h => by cases h
  | fuel + 1 => fun this q root o h hok => by
    simp only [addPackageTree, Option.map_eq_some'] at h
    obtain ⟨o', ho', rfl⟩ := h
    unfold insertSubtree at hok ⊢
    split at hok
    · next hres =>
      exact ⟨o'.this, mkAddPackageTree_avoids (addPackageTree_keepsRoot fuel)
        (addPackageTree_insertsAvoiding fuel) ho' hres, by simp [hres]⟩
    · cases hok

/-- A successful `add_package(p)` on `t` inserts `p ↦ U`, and no package node of `U`, at any
    depth, has the name of a package of `t`. -/
theorem addPackage_ok_avoids_tree_names {fuel : Nat} {t t' : Tree P} {p : P}
    (h : addPackage name getAllDependencies repo fuel t p = some (t', .ok ())) :
    ∃ U, t' = t.insert p U ∧ ∀ e ∈ U.nodes, t.hasPackage name e.1 = false := by
  obtain ⟨o, ho, hr⟩ := addPackage_eq_insertSubtree h
  unfold insertSubtree at hr
  split at hr
  · next hres =>
    obtain ⟨rfl, -⟩ := Prod.mk.inj hr
    exact ⟨o.this, rfl, mkAddPackageTree_avoids (addPackageTree_keepsRoot fuel)
      (addPackageTree_insertsAvoiding fuel) ho hres⟩
  · cases (Prod.mk.inj hr).2

/-- `(0,2)`, which depends on nothing, added to a tree holding `(0,1)`: the call succeeds, and
    the name `0` is at two top-level nodes, since `p` itself is not compared. -/
theorem addPackage_ok_avoids_tree_names_same_name :
    addPackage pairName (fun _ => (.ok [] : Except Unit (List (ℕ × ℕ))))
        (pairRepository [toLex (0, 1), toLex (0, 2)]) 1 (new.insert (toLex (0, 1)) new)
        (toLex (0, 2)) = some (mk [(toLex (0, 1), new), (toLex (0, 2), new)], .ok ()) ∧
      ∃ U, mk [(toLex (0, 1), new), (toLex (0, 2), new)] =
          (new.insert (toLex (0, 1)) new).insert (toLex (0, 2)) U ∧
        ∀ e ∈ U.nodes, (new.insert (toLex (0, 1)) new).hasPackage pairName e.1 = false := by
  refine ⟨?h, addPackage_ok_avoids_tree_names ?h⟩
  rfl

end Butido.Package
