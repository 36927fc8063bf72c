import Butido.Package.TreeUnfold

/-!
# Runs of `add_package` from `Tree::new()`

The tree is a state, and each `Tree::add_package` call a transition that succeeds or fails.
`Built S t` says that `t` is the tree a sequence of calls leaves, starting from `Tree::new()`,
and that `S` lists the packages whose call succeeded; each call runs at a fuel at which it
returns. The caller that makes the calls is not under `src/`: a run is any sequence.

* `addPackage_step` says once what a call can do: on success it inserts `p ↦ U(p)`, the
  unfolding of `p`, and on failure it leaves the tree as it was.
* By induction on the run, every tree reached is the sorted map from the packages added
  successfully to their unfoldings (`built_covers`). At every depth, each candidate of each
  dependency of a node is a child of that node.
* So the tree after a run depends only on which packages were added successfully: neither the
  order of the calls nor the failed calls between them change it (`built_eq_of_same_successes`).
-/

namespace Butido.Package

open Tree

variable {P N C E : Type} [LinearOrder P] [DecidableEq N]
variable {name : P → N} {getAllDependencies : P → Except E (List (N × C))}
variable {repo : Repository P N C}

/-! ## One call -/

/-- What one `add_package` call can do: succeed by inserting `p ↦ U(p)`, or fail and leave the
    tree. -/
theorem addPackage_step {fuel : Nat} {t t' : Tree P} {p : P} {r : Except (Error P E) Unit}
    (h : addPackage name getAllDependencies repo fuel t p = some (t', r)) :
    (r = .ok () ∧ ∃ U, Unfolds getAllDependencies repo p U ∧ t' = t.insert p U) ∨
      (∃ e, r = .error e ∧ t' = t) := by
  obtain ⟨o, ho, hr⟩ := addPackage_eq_insertSubtree h
  unfold insertSubtree at hr
  split at hr
  · next hok =>
    obtain ⟨rfl, rfl⟩ := Prod.mk.inj hr
    exact .inl ⟨rfl, o.this, mkAddPackageTree_unfolds (addPackageTree_insertsUnfolding fuel) ho hok,
      rfl⟩
  · next e _ =>
    obtain ⟨rfl, rfl⟩ := Prod.mk.inj hr
    exact .inr ⟨e, rfl, rfl⟩

/-! ## Runs -/

variable (name getAllDependencies repo) in
/-- `t` is the tree that a sequence of `add_package` calls leaves, from `Tree::new()`; `S`
    lists the packages whose call succeeded. -/
inductive Built : List P → Tree P → Prop
  | new : Built [] Tree.new
  | ok {S : List P} {t t' : Tree P} {p : P} {fuel : Nat} : Built S t →
      addPackage name getAllDependencies repo fuel t p = some (t', .ok ()) → Built (p :: S) t'
  | error {S : List P} {t t' : Tree P} {p : P} {fuel : Nat} {e : Error P E} : Built S t →
      addPackage name getAllDependencies repo fuel t p = some (t', .error e) → Built S t'

/-- The run invariant: a tree reached covers the packages added successfully. -/
theorem Built.covers {S : List P} {t : Tree P} (h : Built name getAllDependencies repo S t) :
    Covers getAllDependencies repo (· ∈ S) t := by
  induction h with
  | new => exact covers_new.congr (by simp)
  | ok _ hcall ih =>
    obtain ⟨-, U, hU, rfl⟩ | ⟨_, h, -⟩ := addPackage_step hcall
    · exact (ih.insert hU).congr fun r => by rw [List.mem_cons, or_comm]
    · cases h
  | error _ hcall ih =>
    obtain ⟨h, -⟩ | ⟨_, -, rfl⟩ := addPackage_step hcall
    · cases h
    · exact ih

/-- After any sequence of `add_package` calls from `Tree::new()`, the tree is a sorted map whose
    keys are exactly the packages added successfully, each under its unfolding; at every depth,
    each candidate of each dependency of a node is a child of that node. -/
theorem built_covers {S : List P} {t : Tree P} (h : Built name getAllDependencies repo S t) :
    Covers getAllDependencies repo (· ∈ S) t ∧
      ∀ e ∈ t.nodes, Resolved getAllDependencies repo e := by
  have hc := h.covers
  refine ⟨hc, fun e he => ?_⟩
  obtain ⟨root⟩ := t
  obtain ⟨x, hx, hex⟩ := mem_nodesOf.mp (by simpa using he)
  exact (hc.unfolds x hx).resolved e (List.mem_cons.mpr hex)

/-- The run that adds the chain `(0,1) → (1,1)` to `Tree::new()`. -/
theorem built_covers_chain :
    Built pairName chainDependencies (pairRepository [toLex (0, 1), toLex (1, 1)]) [toLex (0, 1)]
        (mk [(toLex (0, 1), mk [(toLex (1, 1), new)])]) ∧
      Covers chainDependencies (pairRepository [toLex (0, 1), toLex (1, 1)])
        (· ∈ [toLex (0, 1)]) (mk [(toLex (0, 1), mk [(toLex (1, 1), new)])]) ∧
      ∀ e ∈ (mk [(toLex (0, 1), mk [(toLex (1, 1), new)])]).nodes,
        Resolved chainDependencies (pairRepository [toLex (0, 1), toLex (1, 1)]) e := by
  refine ⟨?h, built_covers ?h⟩
  exact .ok .new (rfl : addPackage pairName chainDependencies
    (pairRepository [toLex (0, 1), toLex (1, 1)]) 2 new (toLex (0, 1)) =
      some (mk [(toLex (0, 1), mk [(toLex (1, 1), new)])], .ok ()))

/-- Two runs whose successful calls added the same packages end at the same tree, whatever the
    order of the calls and the failed calls between them. -/
theorem built_eq_of_same_successes {S S' : List P} {t t' : Tree P}
    (h : Built name getAllDependencies repo S t) (h' : Built name getAllDependencies repo S' t')
    (hS : ∀ q, q ∈ S ↔ q ∈ S') : t = t' :=
  h.covers.unique h'.covers hS

/-- `(1,1)` then `(3,1)`, against `(3,1)`, then `(1,1)`, then `(0,1)`, whose call fails on the
    duplicate guard since `(1,1)` is in the tree: both runs end at the same tree. -/
theorem built_eq_of_same_successes_swapped :
    Built pairName chainDependencies (pairRepository [toLex (0, 1), toLex (1, 1), toLex (3, 1)])
        [toLex (3, 1), toLex (1, 1)] (mk [(toLex (1, 1), new), (toLex (3, 1), new)]) ∧
      Built pairName chainDependencies (pairRepository [toLex (0, 1), toLex (1, 1), toLex (3, 1)])
        [toLex (1, 1), toLex (3, 1)] (mk [(toLex (1, 1), new), (toLex (3, 1), new)]) ∧
      (∀ q, q ∈ [toLex (3, 1), toLex (1, 1)] ↔ q ∈ [toLex (1, 1), toLex (3, 1)]) ∧
      mk [(toLex (1, 1), new), (toLex (3, 1), new)] =
        mk [(toLex (1, 1), new), (toLex (3, 1), new)] := by
  refine ⟨?h, ?h', ?hS, built_eq_of_same_successes ?h ?h' ?hS⟩
  · exact .ok (.ok .new (rfl : addPackage pairName chainDependencies
      (pairRepository [toLex (0, 1), toLex (1, 1), toLex (3, 1)]) 1 new (toLex (1, 1)) =
        some (mk [(toLex (1, 1), new)], .ok ())))
      (rfl : addPackage pairName chainDependencies
        (pairRepository [toLex (0, 1), toLex (1, 1), toLex (3, 1)]) 1 (mk [(toLex (1, 1), new)])
        (toLex (3, 1)) = some (mk [(toLex (1, 1), new), (toLex (3, 1), new)], .ok ()))
  · exact .error (.ok (.ok .new (rfl : addPackage pairName chainDependencies
      (pairRepository [toLex (0, 1), toLex (1, 1), toLex (3, 1)]) 1 new (toLex (3, 1)) =
        some (mk [(toLex (3, 1), new)], .ok ())))
      (rfl : addPackage pairName chainDependencies
        (pairRepository [toLex (0, 1), toLex (1, 1), toLex (3, 1)]) 1 (mk [(toLex (3, 1), new)])
        (toLex (1, 1)) = some (mk [(toLex (1, 1), new), (toLex (3, 1), new)], .ok ())))
      (rfl : addPackage pairName chainDependencies
        (pairRepository [toLex (0, 1), toLex (1, 1), toLex (3, 1)]) 1
        (mk [(toLex (1, 1), new), (toLex (3, 1), new)]) (toLex (0, 1)) =
          some (mk [(toLex (1, 1), new), (toLex (3, 1), new)],
            .error (.duplicatePackage [toLex (1, 1)])))
  · simp [or_comm]

end Butido.Package
