import Butido.Util.Except
import Mathlib.Data.List.Perm.Basic
import Mathlib.Order.Lattice

/-!
# Runnable jobs (`src/job/runnable.rs`)

`RunnableJob::build_from_job` renders the script, then resolves every build and every runtime
dependency of the package with `build_resource`: parse the dependency, look its artifacts up
in the merged stores, fail on an empty list, else sort and take the first.

The dependency lookups run as two `FuturesUnordered` collections, which yield in the order the
lookups complete. That order is the environment's choice, so the model takes it as input
(`buildOrder`, `runtimeOrder`) and the theorems hold for every permutation of the dependency
lists. `ScriptBuilder`, the package's dependency lists, `parse_as_name_and_version` and
`MergedStores::get_artifact_by_name_and_version` are not under `src/`: they are the fields of
`Env`. The `warn!` on an ambiguous lookup has no effect on the result and is left out.
-/

namespace Butido.Job.Runnable

/-- `JobResource`, of which `build_resource` builds the `Artifact` variant. -/
inductive JobResource (A : Type) where
  | artifact (a : A)
  deriving DecidableEq

/-- The fields of `Job` that `build_from_job` reads. -/
structure Job (Uuid Pkg Img Sh Ph : Type) where
  uuid : Uuid
  package : Pkg
  image : Img
  scriptShebang : Sh
  scriptPhases : Ph

/-- `RunnableJob`. -/
structure RunnableJob (Uuid Pkg Img Src Script A : Type) where
  uuid : Uuid
  package : Pkg
  image : Img
  sourceCache : Src
  script : Script
  resources : List (JobResource A)

/-- The errors of `build_from_job`, by the call that raises them. -/
inductive Error (N V E : Type) where
  /-- `ScriptBuilder::build` failed. -/
  | script (e : E)
  /-- `parse_as_name_and_version` failed. -/
  | parse (e : E)
  /-- `get_artifact_by_name_and_version` failed. -/
  | lookup (e : E)
  /-- "Cannot find dependency: {name} {vers}", with the context "Building a runnable job". -/
  | cannotFindDependency (name : N) (vers : V)

/-- What `build_from_job` uses that is not under `src/`. -/
structure Env (Pkg Dep N V A Sh Ph Script E : Type) where
  /-- `ScriptBuilder::new(shebang).build(package, phases)`. -/
  build : Sh → Pkg → Ph → Except E Script
  /-- `package.dependencies().build()`. -/
  buildDependencies : Pkg → List Dep
  /-- `package.dependencies().runtime()`. -/
  runtimeDependencies : Pkg → List Dep
  /-- `ParseDependency::parse_as_name_and_version`. -/
  parseAsNameAndVersion : Dep → Except E (N × V)
  /-- `MergedStores::get_artifact_by_name_and_version`. -/
  getArtifactByNameAndVersion : N → V → Except E (List A)

variable {Uuid Pkg Img Src Dep N V A Sh Ph Script E : Type} [LinearOrder A]
variable (env : Env Pkg Dep N V A Sh Ph Script E)

/-- `a.sort()` of Rust's `Vec`, a stable sort by `Artifact`'s order. -/
def sortArtifacts (a : List A) : List A := a.mergeSort fun x y => decide (x ≤ y)

theorem sortArtifacts_ne_nil {a : List A} (h : a ≠ []) : sortArtifacts a ≠ [] := by
  rwa [sortArtifacts, ne_eq, ← List.length_eq_zero, List.length_mergeSort, List.length_eq_zero]

/-- `RunnableJob::build_resource`: the first artifact of the sorted lookup; `unwrap` is safe
    since the empty lookup was refused before. -/
def buildResource (dep : Dep) : Except (Error N V E) (JobResource A) := do
  let (name, vers) ← (env.parseAsNameAndVersion dep).mapError .parse
  let a ← (env.getArtifactByNameAndVersion name vers).mapError .lookup
  if h : a = [] then .error (.cannotFindDependency name vers)
  else pure (.artifact ((sortArtifacts a).head (sortArtifacts_ne_nil h)))

/-- `RunnableJob::build_from_job`, the two `FuturesUnordered` collections yielding their
    results in the completion orders `buildOrder` and `runtimeOrder`; `tokio::join!` then
    `build?` before `rt?`. -/
def buildFromJob (job : Job Uuid Pkg Img Sh Ph) (sourceCache : Src)
    (buildOrder runtimeOrder : List Dep) :
    Except (Error N V E) (RunnableJob Uuid Pkg Img Src Script A) := do
  let script ← (env.build job.scriptShebang job.package job.scriptPhases).mapError .script
  let build ← buildOrder.mapM (buildResource env)
  let rt ← runtimeOrder.mapM (buildResource env)
  pure ⟨job.uuid, job.package, job.image, sourceCache, script, build ++ rt⟩

/-! ## `build_resource` -/

/-- `dep` resolves: it parses, and its lookup succeeds with a non-empty list. -/
def Resolves (dep : Dep) : Prop :=
  ∃ nv as, env.parseAsNameAndVersion dep = .ok nv ∧
    env.getArtifactByNameAndVersion nv.1 nv.2 = .ok as ∧ as ≠ []

/-- `r` is the resource of the least artifact, in `A`'s order, that the lookup of `dep`
    finds. -/
def LeastResource (dep : Dep) (r : JobResource A) : Prop :=
  ∃ nv as, env.parseAsNameAndVersion dep = .ok nv ∧
    env.getArtifactByNameAndVersion nv.1 nv.2 = .ok as ∧ ∃ m ∈ as, r = .artifact m ∧ ∀ x ∈ as, m ≤ x

omit [LinearOrder A] in
private theorem head_le_of_pairwise {l : List A} [Preorder A] (hl : l.Pairwise (· ≤ ·))
    (hne : l ≠ []) : ∀ x ∈ l, l.head hne ≤ x := by
  match l, hne with
  | hd :: tl, _ =>
    intro x hx
    rcases List.mem_cons.mp hx with rfl | hx
    exacts [le_rfl, List.rel_of_pairwise_cons hl hx]

/-- The first artifact after the sort is the least one of the lookup. -/
theorem head_sortArtifacts_least {a : List A} (h : a ≠ []) :
    (sortArtifacts a).head (sortArtifacts_ne_nil h) ∈ a ∧
      ∀ x ∈ a, (sortArtifacts a).head (sortArtifacts_ne_nil h) ≤ x := by
  have hp : (sortArtifacts a).Perm a := List.mergeSort_perm a _
  have htrans : ∀ x y z : A, decide (x ≤ y) = true → decide (y ≤ z) = true →
      decide (x ≤ z) = true := by
    simp only [decide_eq_true_eq]
    exact fun _ _ _ => le_trans
  have htotal : ∀ x y : A, (decide (x ≤ y) || decide (y ≤ x)) = true := fun x y => by
    simpa using le_total x y
  have hs : (sortArtifacts a).Pairwise (· ≤ ·) :=
    (List.sorted_mergeSort htrans htotal a).imp (by simp)
  exact ⟨hp.subset (List.head_mem _),
    fun x hx => head_le_of_pairwise hs _ x (hp.symm.subset hx)⟩

/-- What `build_resource` returns: the head of the sorted, non-empty lookup. -/
theorem buildResource_eq_ok {dep : Dep} {r : JobResource A} :
    buildResource env dep = .ok r ↔
      ∃ nv as, env.parseAsNameAndVersion dep = .ok nv ∧
        env.getArtifactByNameAndVersion nv.1 nv.2 = .ok as ∧
        ∃ h : as ≠ [], r = .artifact ((sortArtifacts as).head (sortArtifacts_ne_nil h)) := by
  unfold buildResource
  cases hp : env.parseAsNameAndVersion dep with
  | error e => simp [bind, Except.bind, Except.mapError]
  | ok nv =>
    cases hl : env.getArtifactByNameAndVersion nv.1 nv.2 with
    | error e => simp [bind, Except.bind, Except.mapError, hl]
    | ok as =>
      by_cases has : as = []
      · simp [bind, Except.bind, Except.mapError, hl, has]
      · simp [bind, Except.bind, Except.mapError, hl, has, pure, Except.pure, eq_comm]

theorem buildResource_isOk {dep : Dep} :
    (∃ r : JobResource A, buildResource env dep = .ok r) ↔ Resolves env dep := by
  simp only [buildResource_eq_ok, Resolves]
  constructor
  · rintro ⟨_, nv, as, hp, hl, h, -⟩
    exact ⟨nv, as, hp, hl, h⟩
  · rintro ⟨nv, as, hp, hl, h⟩
    exact ⟨_, nv, as, hp, hl, h, rfl⟩

theorem buildResource_least {dep : Dep} {r : JobResource A}
    (h : buildResource env dep = .ok r) : LeastResource env dep r := by
  obtain ⟨nv, as, hp, hl, hne, rfl⟩ := (buildResource_eq_ok env).mp h
  exact ⟨nv, as, hp, hl, _, (head_sortArtifacts_least hne).1, rfl,
    (head_sortArtifacts_least hne).2⟩

/-- Collecting the lookups of `deps` in any completion order `order`: it succeeds iff every
    dependency resolves, and then yields a permutation of the least resources of `deps`. -/
theorem mapM_buildResource {order deps : List Dep} (hperm : order.Perm deps) :
    ((∃ rs, order.mapM (buildResource env) = .ok rs) ↔ ∀ d ∈ deps, Resolves env d) ∧
    ∀ rs, order.mapM (buildResource env) = .ok rs →
      ∃ ms, List.Forall₂ (LeastResource env) deps ms ∧ rs.Perm ms := by
  constructor
  · simp only [mapM_eq_ok_iff, exists_forall₂_iff, buildResource_isOk, hperm.mem_iff]
  · intro rs h
    obtain ⟨ms, hms, hperm'⟩ := List.perm_comp_forall₂ hperm.symm
      ((mapM_eq_ok_iff.mp h).imp fun _ _ => buildResource_least env)
    exact ⟨ms, hms, hperm'.symm⟩

/-! ## `build_from_job` -/

/-- What `build_from_job` returns: the rendered script and the two collected lists. -/
theorem buildFromJob_eq_ok {job : Job Uuid Pkg Img Sh Ph} {src : Src} {bo ro : List Dep}
    {rj : RunnableJob Uuid Pkg Img Src Script A} :
    buildFromJob env job src bo ro = .ok rj ↔
      ∃ s bs rs, env.build job.scriptShebang job.package job.scriptPhases = .ok s ∧
        bo.mapM (buildResource env) = .ok bs ∧ ro.mapM (buildResource env) = .ok rs ∧
        rj = ⟨job.uuid, job.package, job.image, src, s, bs ++ rs⟩ := by
  unfold buildFromJob
  cases env.build job.scriptShebang job.package job.scriptPhases <;>
    cases bo.mapM (buildResource env) <;> cases ro.mapM (buildResource env) <;>
    simp [bind, Except.bind, Except.mapError, pure, Except.pure, eq_comm]

/-- For every completion order of the two collections: `build_from_job` succeeds iff the script
    renders and every build and runtime dependency resolves; then the resources are the least
    artifacts of the build dependencies, in some order, followed by those of the runtime
    dependencies, in some order. -/
theorem buildFromJob_ok_iff_resources (job : Job Uuid Pkg Img Sh Ph) (src : Src)
    {bo ro : List Dep} (hb : bo.Perm (env.buildDependencies job.package))
    (hr : ro.Perm (env.runtimeDependencies job.package)) :
    ((∃ rj : RunnableJob Uuid Pkg Img Src Script A, buildFromJob env job src bo ro = .ok rj) ↔
      (∃ s, env.build job.scriptShebang job.package job.scriptPhases = .ok s) ∧
      ∀ d ∈ env.buildDependencies job.package ++ env.runtimeDependencies job.package,
        Resolves env d) ∧
    ∀ rj, buildFromJob env job src bo ro = .ok rj →
      rj.resources.length =
        (env.buildDependencies job.package).length + (env.runtimeDependencies job.package).length ∧
      (∃ ms, List.Forall₂ (LeastResource env) (env.buildDependencies job.package) ms ∧
        (rj.resources.take (env.buildDependencies job.package).length).Perm ms) ∧
      (∃ ms, List.Forall₂ (LeastResource env) (env.runtimeDependencies job.package) ms ∧
        (rj.resources.drop (env.buildDependencies job.package).length).Perm ms) := by
  obtain ⟨hbOk, hbRes⟩ := mapM_buildResource env hb
  obtain ⟨hrOk, hrRes⟩ := mapM_buildResource env hr
  constructor
  · simp only [buildFromJob_eq_ok, List.forall_mem_append, ← hbOk, ← hrOk]
    constructor
    · rintro ⟨_, s, bs, rs, hs, hbs, hrs, -⟩
      exact ⟨⟨s, hs⟩, ⟨bs, hbs⟩, ⟨rs, hrs⟩⟩
    · rintro ⟨⟨s, hs⟩, ⟨bs, hbs⟩, ⟨rs, hrs⟩⟩
      exact ⟨_, s, bs, rs, hs, hbs, hrs, rfl⟩
  · intro rj h
    obtain ⟨s, bs, rs, -, hbs, hrs, rfl⟩ := (buildFromJob_eq_ok env).mp h
    obtain ⟨bms, hbms, hbp⟩ := hbRes bs hbs
    obtain ⟨rms, hrms, hrp⟩ := hrRes rs hrs
    have hlen : bs.length = (env.buildDependencies job.package).length :=
      hbp.length_eq.trans hbms.length_eq.symm
    refine ⟨?_, ⟨bms, hbms, ?_⟩, ⟨rms, hrms, ?_⟩⟩
    · rw [List.length_append, hlen, hrp.length_eq, ← hrms.length_eq]
    · rwa [List.take_left' hlen]
    · rwa [List.drop_left' hlen]

/-- A store where each dependency `n` parses to `(n, 0)` and finds the artifacts `n + 10` and
    `n + 5`, for a package with build dependencies `1, 2` and runtime dependency `3`. -/
def twoStoreEnv : Env Unit ℕ ℕ ℕ ℕ Unit Unit Unit Unit where
  build _ _ _ := .ok ()
  buildDependencies _ := [1, 2]
  runtimeDependencies _ := [3]
  parseAsNameAndVersion n := .ok (n, 0)
  getArtifactByNameAndVersion n _ := .ok [n + 10, n + 5]

/-- The build lookups completing in the order `2, 1`. -/
theorem buildFromJob_ok_iff_resources_reversed :
    ([2, 1].Perm [1, 2] ∧ [3].Perm [3]) ∧
    ((∃ rj : RunnableJob Unit Unit Unit Unit Unit ℕ,
        buildFromJob twoStoreEnv ⟨(), (), (), (), ()⟩ () [2, 1] [3] = .ok rj) ↔
      (∃ s, twoStoreEnv.build () () () = .ok s) ∧
      ∀ d ∈ twoStoreEnv.buildDependencies () ++ twoStoreEnv.runtimeDependencies (),
        Resolves twoStoreEnv d) ∧
    ∀ rj, buildFromJob twoStoreEnv ⟨(), (), (), (), ()⟩ () [2, 1] [3] = .ok rj →
      rj.resources.length =
        (twoStoreEnv.buildDependencies ()).length + (twoStoreEnv.runtimeDependencies ()).length ∧
      (∃ ms, List.Forall₂ (LeastResource twoStoreEnv) (twoStoreEnv.buildDependencies ()) ms ∧
        (rj.resources.take (twoStoreEnv.buildDependencies ()).length).Perm ms) ∧
      (∃ ms, List.Forall₂ (LeastResource twoStoreEnv) (twoStoreEnv.runtimeDependencies ()) ms ∧
        (rj.resources.drop (twoStoreEnv.buildDependencies ()).length).Perm ms) :=
  ⟨⟨by decide, by decide⟩,
    buildFromJob_ok_iff_resources twoStoreEnv ⟨(), (), (), (), ()⟩ () (by decide) (by decide)⟩

end Butido.Job.Runnable
