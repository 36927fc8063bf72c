import Butido.Util.BTreeMap
import Mathlib.Data.Prod.Lex

/-!
# The package tree (`src/package/tree.rs`)

`struct Tree { root: BTreeMap<Package, Tree> }` is a rose tree whose children are the entries
of a map sorted by `Package`. `Package`, `Repository` and `get_all_dependencies` are not under
`src/`, so the model takes them as parameters: a type `P` ordered as the map's keys are
(`LinearOrder P`), a `name : P → N`, the dependency lists `getAllDependencies`, and a
`Repository` given by its `find_with_version_constraint`.

`add_package` expands the macro `mk_add_package_tree!` twice: once at the top with `$this` and
`$root` both `self`, and once in `add_package_tree` with `$this` the caller's fresh `subtree`
and `$root` the tree passed down. Both are `&mut Tree`, so the model passes them in and returns
them (`Outcome`), also on an error. The recursion is bounded by a `fuel` argument: `none` means
the fuel ran out, and `addPackage_mono` (in `TreeBuild`) shows more fuel never changes a result.
Progress ticks and `trace!` output have no effect on the result and are left out.
-/

namespace Butido.Package

/-- `Tree`: the entries of its `BTreeMap<Package, Tree>`, in key order. -/
inductive Tree (P : Type) where
  | mk (root : List (P × Tree P))

namespace Tree

variable {P N : Type}

/-- The field `root`: the entries of the tree's map. -/
def root : Tree P → List (P × Tree P)
  | mk r => r

@[simp] theorem root_mk (r : List (P × Tree P)) : (mk r).root = r := rfl

/-- `Tree::new`. -/
def new : Tree P := mk []

@[simp] theorem root_new : (new : Tree P).root = [] := rfl

/-- `Tree::packages`: the keys of this node only. -/
def packages (t : Tree P) : List P := t.root.map Prod.fst

/-- `Tree::dependencies`: the child subtrees of this node. -/
def dependencies (t : Tree P) : List (Tree P) := t.root.map Prod.snd

/-- `self.root.insert(pack, subtree)`. -/
def insert [LinearOrder P] (t : Tree P) (pack : P) (subtree : Tree P) : Tree P :=
  mk (BTreeMap.insert pack subtree t.root)

@[simp] theorem root_insert [LinearOrder P] (t : Tree P) (pack : P) (subtree : Tree P) :
    (t.insert pack subtree).root = BTreeMap.insert pack subtree t.root := rfl

mutual
/-- Every entry of the tree at every depth, in preorder: its package nodes with their
    subtrees. -/
def nodes : Tree P → List (P × Tree P)
  | mk root => nodesOf root

/-- The entries of an entry list and, after each, those of its subtree. -/
def nodesOf : List (P × Tree P) → List (P × Tree P)
  | [] => []
  | (k, t) :: rest => (k, t) :: (nodes t ++ nodesOf rest)
end

/-! ## Queries -/

section Queries

variable (name : P → N) [DecidableEq N]

mutual
/-- `Tree::has_package`: a key of this node, or recursively of a subtree, has the name of
    `p`. -/
def hasPackage (p : P) : Tree P → Bool
  | mk root => root.any (fun e => name e.1 == name p) || anyHasPackage p root

/-- `self.root.values().any(|t| t.has_package(p))`. -/
def anyHasPackage (p : P) : List (P × Tree P) → Bool
  | [] => false
  | (_, t) :: rest => hasPackage p t || anyHasPackage p rest
end

end Queries

mutual
/-- `find_package_depth`: `current` if a key of this node satisfies `cmp`, else the first depth
    found in the subtrees, taken in key order. -/
def findPackageDepth (cmp : P → Bool) : Tree P → Nat → Option Nat
  | mk root, current =>
    if root.any (fun e => cmp e.1) then some current
    else firstPackageDepth cmp root (current + 1)

/-- `.values().filter_map(|subtree| find_package_depth(subtree, current + 1, cmp)).next()`. -/
def firstPackageDepth (cmp : P → Bool) : List (P × Tree P) → Nat → Option Nat
  | [], _ => none
  | (_, t) :: rest, d =>
    match findPackageDepth cmp t d with
    | some n => some n
    | none => firstPackageDepth cmp rest d
end

/-- `Tree::package_depth_where`: the search from depth `0`. -/
def packageDepthWhere (t : Tree P) (cmp : P → Bool) : Option Nat := findPackageDepth cmp t 0

/-- `Tree::package_depth`: the depth of a key equal to `p`. -/
def packageDepth [DecidableEq P] (t : Tree P) (p : P) : Option Nat :=
  t.packageDepthWhere (· == p)

end Tree

/-! ## `add_package` -/

/-- What `Tree::add_package` uses of `Repository`. -/
structure Repository (P N C : Type) where
  /-- `find_with_version_constraint(name, constr)`: the candidates for one dependency. -/
  findWithVersionConstraint : N → C → List P

/-- The errors `add_package` returns. -/
inductive Error (P E : Type) where
  /-- `get_all_dependencies` failed. -/
  | dependencies (e : E)
  /-- The duplicate guard: "Duplicate version of some package in {pack} found". -/
  | duplicatePackage (pack : List P)
  deriving DecidableEq

/-- What a call on two `&mut Tree`s leaves: `this` and `root` as it leaves them, and its
    `Result<()>`. -/
structure Outcome (P E : Type) where
  this : Tree P
  root : Tree P
  result : Except (Error P E) Unit

section AddPackage

variable {P N C E : Type} [LinearOrder P] [DecidableEq N]
variable (name : P → N) (getAllDependencies : P → Except E (List (N × C)))
variable (repo : Repository P N C)

/-- The inner `pack.into_iter().map(..).collect()`: each candidate is followed into `subtree`
    by `addTree` (a call of `add_package_tree`), stopping at the first error. -/
def followCandidates (addTree : Tree P → P → Tree P → Option (Outcome P E)) :
    List P → Tree P → Tree P → Option (Outcome P E)
  | [], subtree, root => some ⟨subtree, root, .ok ()⟩
  | q :: pack, subtree, root =>
    (addTree subtree q root).bind fun o =>
      match o.result with
      | .ok () => followCandidates addTree pack o.this o.root
      | .error _ => some o

/-- The outer `.map(|(name, constr)| ..).collect::<Result<Vec<()>>>()`: for each dependency,
    the duplicate guard against `root`, then its candidates, stopping at the first error. -/
def followDependencies (addTree : Tree P → P → Tree P → Option (Outcome P E)) :
    List (N × C) → Tree P → Tree P → Option (Outcome P E)
  | [], subtree, root => some ⟨subtree, root, .ok ()⟩
  | (n, constr) :: deps, subtree, root =>
    let pack := repo.findWithVersionConstraint n constr
    if pack.any (fun q => root.hasPackage name q) then
      some ⟨subtree, root, .error (.duplicatePackage pack)⟩
    else
      (followCandidates addTree pack subtree root).bind fun o =>
        match o.result with
        | .ok () => followDependencies addTree deps o.this o.root
        | .error _ => some o

/-- The body of `mk_add_package_tree!` up to the insertion: the dependencies of `pack` followed
    into a fresh `subtree`, which the outcome returns as `this`. -/
def mkAddPackageTree (addTree : Tree P → P → Tree P → Option (Outcome P E))
    (root : Tree P) (pack : P) : Option (Outcome P E) :=
  match getAllDependencies pack with
  | .error e => some ⟨Tree.new, root, .error (.dependencies e)⟩
  | .ok deps => followDependencies name repo addTree deps Tree.new root

/-- The end of `mk_add_package_tree!`: `$this.root.insert($pack, subtree)` once every
    dependency was followed; an error leaves `this` alone. -/
def insertSubtree (this : Tree P) (pack : P) (o : Outcome P E) :
    Tree P × Except (Error P E) Unit :=
  match o.result with
  | .ok () => (this.insert pack o.this, .ok ())
  | .error e => (this, .error e)

/-- `add_package_tree(this, p, repo, root, ..)`, with at most `fuel` nested calls. -/
def addPackageTree : Nat → Tree P → P → Tree P → Option (Outcome P E)
  | 0, _, _, _ => none
  | fuel + 1, this, p, root =>
    (mkAddPackageTree name getAllDependencies repo (addPackageTree fuel) root p).map fun o =>
      ⟨(insertSubtree this p o).1, o.root, (insertSubtree this p o).2⟩

/-- `Tree::add_package`: the macro with `$this` and `$root` both `self`, so the insertion goes
    into `self` as the recursion left it. -/
def addPackage (fuel : Nat) (self : Tree P) (p : P) :
    Option (Tree P × Except (Error P E) Unit) :=
  (mkAddPackageTree name getAllDependencies repo (addPackageTree name getAllDependencies repo fuel)
    self p).map fun o => insertSubtree o.root p o

end AddPackage

/-! ## Packages as `(name, version)` pairs

The concrete runs in the later modules take a package to be a pair `(name, version)` of
numbers, ordered name first, and a version constraint to be an exact version `=v`. -/

/-- Modelled from the spec: `Repository` maps `(name, version)` to `Package`, and
    `find_with_version_constraint(name, constraint)` yields the packages of that name whose
    version satisfies the constraint, in the map's order. -/
def Repository.ofPackages {P N C : Type} [DecidableEq N] (name : P → N)
    (satisfies : C → P → Bool) (pkgs : List P) : Repository P N C :=
  ⟨fun n c => pkgs.filter fun q => name q == n && satisfies c q⟩

/-- The name of a package `(name, version)`. -/
def pairName (q : Lex (ℕ × ℕ)) : ℕ := (ofLex q).1

/-- A repository of `(name, version)` packages, each constraint an exact version. -/
def pairRepository (pkgs : List (Lex (ℕ × ℕ))) : Repository (Lex (ℕ × ℕ)) ℕ ℕ :=
  Repository.ofPackages pairName (fun v q => (ofLex q).2 == v) pkgs

/-- The chain `(0, _) → (1, 1)`: a package of name `0` depends on `(1, 1)`, every other package
    on nothing. -/
def chainDependencies : Lex (ℕ × ℕ) → Except Unit (List (ℕ × ℕ))
  | (0, _) => .ok [(1, 1)]
  | _ => .ok []

end Butido.Package
