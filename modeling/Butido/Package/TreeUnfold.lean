import Butido.Package.TreeBuild

/-!
# What a successful `add_package` builds

`Unfolds q U` says that `U` is the tree `add_package` builds under `q`: `q`'s dependencies
resolve, the keys of `U` are exactly the candidates of those dependencies, kept sorted as a
`BTreeMap` keeps them, and each child is in turn the tree of its key. It determines `U`
(`Unfolds.unique`).

The two loops of `mk_add_package_tree!` keep `Covers S subtree`: the subtree is a sorted map
whose keys are the candidates met so far, each under its unfolding. A candidate met twice (two
dependencies with a common candidate, or a package in both the build and the runtime list) is
inserted twice, with the same unfolding. So a successful `add_package` inserts exactly
`p ↦ U(p)` (`addPackage_ok_inserts_unfolding`), and at every node every candidate of every
dependency is a child (`addPackage_ok_resolves_all_candidates`). A dependency with no candidate
adds no child and raises no error (`addPackage_missing_dependency_ok`).
-/

namespace Butido.Package

open Tree

variable {P N C E : Type} [LinearOrder P] [DecidableEq N]

/-! ## Unfoldings -/

section Unfolding

variable (getAllDependencies : P → Except E (List (N × C))) (repo : Repository P N C)

/-- `U` is the tree `add_package` puts under `q`. -/
inductive Unfolds : P → Tree P → Prop
  /-- The keys are exactly the candidates of `q`'s dependencies, and each child unfolds its
      key. -/
  | intro {q : P} {deps : List (N × C)} {root : List (P × Tree P)} :
      getAllDependencies q = .ok deps → BTreeMap.WF root →
      (∀ r, r ∈ root.map Prod.fst ↔ ∃ d ∈ deps, r ∈ repo.findWithVersionConstraint d.1 d.2) →
      (∀ e ∈ root, Unfolds e.1 e.2) → Unfolds q (.mk root)

/-- The loop invariant: `t` is a sorted map whose keys are those satisfying `S`, each under its
    unfolding. -/
structure Covers (S : P → Prop) (t : Tree P) : Prop where
  wf : BTreeMap.WF t.root
  keys : ∀ r, r ∈ t.root.map Prod.fst ↔ S r
  unfolds : ∀ e ∈ t.root, Unfolds getAllDependencies repo e.1 e.2

/-- `addTree` does what `add_package_tree` does on success: it inserts `q ↦ U` into `this` for
    the unfolding `U` of `q`. -/
def InsertsUnfolding (addTree : Tree P → P → Tree P → Option (Outcome P E)) : Prop :=
  ∀ ⦃this q root o⦄, addTree this q root = some o → o.result = .ok () →
    ∃ U, Unfolds getAllDependencies repo q U ∧ o.this = this.insert q U

/-- A node `(q, V)` whose dependencies resolved into its children: every candidate of every
    dependency of `q` is a key of `V`. -/
def Resolved (e : P × Tree P) : Prop :=
  ∃ deps, getAllDependencies e.1 = .ok deps ∧
    ∀ d ∈ deps, ∀ r ∈ repo.findWithVersionConstraint d.1 d.2, r ∈ e.2.packages

end Unfolding

variable {getAllDependencies : P → Except E (List (N × C))} {repo : Repository P N C}

omit [LinearOrder P] [DecidableEq N] in
/-- Two entry lists with the same keys, whose entries of equal key agree, are equal. -/
private theorem entries_eq_of_keys {V : Type} :
    ∀ {l l' : List (P × V)}, l.map Prod.fst = l'.map Prod.fst →
      (∀ e ∈ l, ∀ e' ∈ l', e.1 = e'.1 → e.2 = e'.2) → l = l'
  | [], [], _, _ => rfl
  | e :: l, e' :: l', hk, hv => by
    simp only [List.map_cons, List.cons.injEq] at hk
    have hrest := entries_eq_of_keys hk.2 fun x hx x' hx' =>
      hv x (List.mem_cons_of_mem _ hx) x' (List.mem_cons_of_mem _ hx')
    rw [Prod.ext hk.1 (hv e (List.mem_cons_self _ _) e' (List.mem_cons_self _ _) hk.1), hrest]

omit [DecidableEq N] in
/-- The unfolding of a package is unique: `U(q)` is well defined. -/
theorem Unfolds.unique {q : P} {U U' : Tree P} (h : Unfolds getAllDependencies repo q U)
    (h' : Unfolds getAllDependencies repo q U') : U = U' := by
  induction h generalizing U' with
  | intro hdeps hwf hkeys _ ih =>
    cases h' with
    | intro hdeps' hwf' hkeys' hunf' =>
      rw [hdeps'] at hdeps
      cases hdeps
      have hs := hwf.keys_sorted
      have hs' := hwf'.keys_sorted
      have hk := List.eq_of_perm_of_sorted ((List.perm_ext_iff_of_nodup hs.nodup hs'.nodup).mpr
        fun r => (hkeys r).trans (hkeys' r).symm) hs hs'
      congr 1
      exact entries_eq_of_keys hk fun e he e' he' hek => ih e he (by rw [hek]; exact hunf' e' he')

omit [DecidableEq N] in
/-- A tree covering a set of keys is unique: a sorted map of unfoldings is determined by its
    keys. -/
theorem Covers.unique {S S' : P → Prop} {t t' : Tree P} (h : Covers getAllDependencies repo S t)
    (h' : Covers getAllDependencies repo S' t') (hS : ∀ r, S r ↔ S' r) : t = t' := by
  obtain ⟨root⟩ := t
  obtain ⟨root'⟩ := t'
  have hs := h.wf.keys_sorted
  have hs' := h'.wf.keys_sorted
  have hk := List.eq_of_perm_of_sorted ((List.perm_ext_iff_of_nodup hs.nodup hs'.nodup).mpr
    fun r => (h.keys r).trans ((hS r).trans (h'.keys r).symm)) hs hs'
  congr 1
  exact entries_eq_of_keys hk fun e he e' he' hek =>
    (h.unfolds e he).unique (by rw [hek]; exact h'.unfolds e' he')

omit [DecidableEq N] in
/-- Each node of an unfolding has its dependencies resolved into its children. -/
theorem Unfolds.resolved {q : P} {U : Tree P} (h : Unfolds getAllDependencies repo q U) :
    ∀ e ∈ (q, U) :: U.nodes, Resolved getAllDependencies repo e := by
  induction h with
  | intro hdeps _ hkeys _ ih =>
    intro e he
    rcases List.mem_cons.mp he with rfl | he
    · exact ⟨_, hdeps, fun d hd r hr => (hkeys r).mpr ⟨d, hd, hr⟩⟩
    · obtain ⟨x, hx, rfl | hx'⟩ := mem_nodesOf.mp (by simpa using he)
      exacts [ih e hx e (List.mem_cons_self _ _), ih x hx e (List.mem_cons_of_mem _ hx')]

/-! ## The loops keep `Covers` -/

omit [DecidableEq N] in
theorem covers_new : Covers getAllDependencies repo (fun _ => False) new :=
  ⟨BTreeMap.wf_nil, by simp, by simp⟩

omit [DecidableEq N] in
theorem Covers.congr {S S' : P → Prop} {t : Tree P} (hS : ∀ r, S r ↔ S' r)
    (hc : Covers getAllDependencies repo S t) : Covers getAllDependencies repo S' t :=
  ⟨hc.wf, fun r => (hc.keys r).trans (hS r), hc.unfolds⟩

omit [DecidableEq N] in
/-- Inserting `q ↦ U(q)` adds `q` to the covered keys. -/
theorem Covers.insert {S : P → Prop} {t U : Tree P} {q : P}
    (hc : Covers getAllDependencies repo S t) (hU : Unfolds getAllDependencies repo q U) :
    Covers getAllDependencies repo (fun r => S r ∨ r = q) (t.insert q U) :=
  ⟨hc.wf.insert, fun r => by rw [root_insert, BTreeMap.mem_keys_insert, hc.keys, or_comm],
    BTreeMap.forall_mem_insert hc.unfolds hU⟩

section Covers

variable {addTree : Tree P → P → Tree P → Option (Outcome P E)}
variable (h : InsertsUnfolding getAllDependencies repo addTree)
include h

omit [DecidableEq N] in
theorem followCandidates_covers :
    ∀ {pack : List P} {subtree root : Tree P} {o : Outcome P E} {S : P → Prop},
      Covers getAllDependencies repo S subtree →
      followCandidates addTree pack subtree root = some o → o.result = .ok () →
      Covers getAllDependencies repo (fun r => S r ∨ r ∈ pack) o.this
  | [], _, _, _, _, hc, hrun, _ => by cases hrun; exact hc.congr (by simp)
  | q :: pack, subtree, root, o, S, hc, hrun, hok => by
    simp only [followCandidates, Option.bind_eq_some] at hrun
    obtain ⟨o₁, h₁, hrun⟩ := hrun
    split at hrun
    · next hres =>
      obtain ⟨U, hU, hthis⟩ := h h₁ hres
      refine (followCandidates_covers (hthis ▸ hc.insert hU) hrun hok).congr fun r => ?_
      simp only [List.mem_cons]
      tauto
    · next e he => cases hrun; simp [he] at hok

theorem followDependencies_covers :
    ∀ {deps : List (N × C)} {subtree root : Tree P} {o : Outcome P E} {S : P → Prop},
      Covers getAllDependencies repo S subtree →
      followDependencies name repo addTree deps subtree root = some o → o.result = .ok () →
      Covers getAllDependencies repo
        (fun r => S r ∨ ∃ d ∈ deps, r ∈ repo.findWithVersionConstraint d.1 d.2) o.this
  | [], _, _, _, _, hc, hrun, _ => by cases hrun; exact hc.congr (by simp)
  | (n, constr) :: deps, subtree, root, o, S, hc, hrun, hok => by
    simp only [followDependencies] at hrun
    split at hrun
    · cases hrun; simp at hok
    · obtain ⟨o₁, h₁, hrun⟩ := Option.bind_eq_some.mp hrun
      split at hrun
      · next hres =>
        refine (followDependencies_covers (followCandidates_covers h hc h₁ hres) hrun hok).congr
          fun r => ?_
        simp only [List.mem_cons, or_and_right, exists_or, exists_eq_left]
        tauto
      · next e he => cases hrun; simp [he] at hok

/-- A successful `mk_add_package_tree!` body returns the unfolding of its package. -/
theorem mkAddPackageTree_unfolds {root : Tree P} {pack : P} {o : Outcome P E}
    (hrun : mkAddPackageTree name getAllDependencies repo addTree root pack = some o)
    (hok : o.result = .ok ()) : Unfolds getAllDependencies repo pack o.this := by
  unfold mkAddPackageTree at hrun
  split at hrun
  · cases hrun; simp at hok
  · next deps hdeps =>
    have hc := followDependencies_covers h covers_new hrun hok
    rcases hthis : o.this with ⟨root⟩
    rw [hthis] at hc
    exact .intro hdeps hc.wf (fun r => (hc.keys r).trans (or_iff_right id)) hc.unfolds

end Covers

/-- On success, `add_package_tree` inserts `q ↦ U(q)` into `this`. -/
theorem addPackageTree_insertsUnfolding {name : P → N} :
    ∀ fuel, InsertsUnfolding getAllDependencies repo
      (addPackageTree name getAllDependencies repo fuel)
  | 0 => fun _ _ _ _ h => by cases h
  | fuel + 1 => fun this q root o h hok => by
    simp only [addPackageTree, Option.map_eq_some'] at h
    obtain ⟨o', ho', rfl⟩ := h
    unfold insertSubtree at hok ⊢
    split at hok
    · next hres =>
      exact ⟨o'.this, mkAddPackageTree_unfolds (addPackageTree_insertsUnfolding fuel) ho' hres,
        by simp [hres]⟩
    · cases hok

omit [DecidableEq N] in
/-- `insertSubtree` succeeds exactly by inserting the subtree the run built. -/
theorem insertSubtree_ok {t t' : Tree P} {p : P} {o : Outcome P E}
    (h : (t', .ok ()) = insertSubtree t p o) : o.result = .ok () ∧ t' = t.insert p o.this := by
  unfold insertSubtree at h
  split at h <;> simp_all

/-! ## A successful `add_package` -/

section AddPackage

variable {name : P → N}

/-- A successful `add_package` inserts exactly `p ↦ U(p)` and leaves every other entry. -/
theorem addPackage_ok_inserts_unfolding {fuel : Nat} {t t' : Tree P} {p : P}
    (h : addPackage name getAllDependencies repo fuel t p = some (t', .ok ())) :
    ∃ U, Unfolds getAllDependencies repo p U ∧ t' = t.insert p U := by
  obtain ⟨o, ho, hr⟩ := addPackage_eq_insertSubtree h
  obtain ⟨hok, rfl⟩ := insertSubtree_ok hr
  exact ⟨o.this, mkAddPackageTree_unfolds (addPackageTree_insertsUnfolding fuel) ho hok, rfl⟩

/-- The chain `(0,1) → (1,1)` added to an empty tree: the run inserts `(0,1) ↦ {(1,1) ↦ {}}`. -/
theorem addPackage_ok_inserts_unfolding_chain :
    addPackage pairName chainDependencies (pairRepository [toLex (0, 1), toLex (1, 1)]) 2 new
        (toLex (0, 1)) = some (new.insert (toLex (0, 1)) (new.insert (toLex (1, 1)) new), .ok ()) ∧
    ∃ U, Unfolds chainDependencies (pairRepository [toLex (0, 1), toLex (1, 1)]) (toLex (0, 1)) U ∧
      new.insert (toLex (0, 1)) (new.insert (toLex (1, 1)) new) = new.insert (toLex (0, 1)) U := by
  refine ⟨?h, addPackage_ok_inserts_unfolding ?h⟩
  rfl

/-- After a successful `add_package`, at every node of the inserted subtree (`p` included) each
    candidate of each dependency is a child; a dependency without candidate adds none. -/
theorem addPackage_ok_resolves_all_candidates {fuel : Nat} {t t' : Tree P} {p : P}
    (h : addPackage name getAllDependencies repo fuel t p = some (t', .ok ())) :
    ∃ U, t' = t.insert p U ∧ ∀ e ∈ (p, U) :: U.nodes, Resolved getAllDependencies repo e := by
  obtain ⟨o, ho, hr⟩ := addPackage_eq_insertSubtree h
  obtain ⟨hok, rfl⟩ := insertSubtree_ok hr
  exact ⟨o.this, rfl,
    (mkAddPackageTree_unfolds (addPackageTree_insertsUnfolding fuel) ho hok).resolved⟩

/-- The same chain: both nodes of the inserted subtree have their dependencies resolved. -/
theorem addPackage_ok_resolves_all_candidates_chain :
    addPackage pairName chainDependencies (pairRepository [toLex (0, 1), toLex (1, 1)]) 2 new
        (toLex (0, 1)) = some (new.insert (toLex (0, 1)) (new.insert (toLex (1, 1)) new), .ok ()) ∧
    ∃ U, new.insert (toLex (0, 1)) (new.insert (toLex (1, 1)) new) = new.insert (toLex (0, 1)) U ∧
      ∀ e ∈ (toLex (0, 1), U) :: U.nodes,
        Resolved chainDependencies (pairRepository [toLex (0, 1), toLex (1, 1)]) e := by
  refine ⟨?h, addPackage_ok_resolves_all_candidates ?h⟩
  rfl

/-- `(0,1)` depends on `(9,1)`, which the repository lacks: `add_package` succeeds and leaves
    the dependency out. -/
theorem addPackage_missing_dependency_ok :
    addPackage pairName (fun _ => (.ok [(9, 1)] : Except Unit (List (ℕ × ℕ))))
        (pairRepository [toLex (0, 1)]) 1 new (toLex (0, 1)) =
      some (new.insert (toLex (0, 1)) new, .ok ()) ∧
    (pairRepository [toLex (0, 1)]).findWithVersionConstraint 9 1 = [] :=
  ⟨rfl, rfl⟩

end AddPackage

end Butido.Package
