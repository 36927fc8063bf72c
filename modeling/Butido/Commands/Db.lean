import Butido.Db.Query
import Butido.Util.Except
import Mathlib.Algebra.Group.Nat.Basic

/-!
# The `db` query commands (`src/commands/db.rs`)

`db artifacts`, `db submits`, `db jobs` and `db releases` read `--limit` through `get_limit`,
resolve their other flags, join tables, filter, order by a primary key, descending, keep
`limit` rows and print them. All but `releases` reverse the rows first (`.rev()`), so the
newest row is printed last.

The schema (`crate::schema`, `crate::db::models`) is not under `src/`: the records keep the
columns the commands join on, filter on or print, and a join without an `ON` clause follows the
foreign key its column names. Each table's primary keys are distinct (`Table`). Image names,
date flags, `--env` and job logs are parsed by code that is not under `src/`; those calls are
the fields of `Env`, whose one log parser every command reads: `is_job_successfull` here, and
`db submit`, `db job` and `db log-of` in the modules after this one. Connecting to the database
is left out: the model's database answers. The commands return the rows each printed line is
formatted from, in print order; the formatting into strings and the `--csv` switch are left
out.

With `L` the limit that `get_limit` reads (`0` meaning `i64::MAX`), a command that returns
prints the `min L n` rows of largest key among the `n` rows it matches, oldest first; for
`submits` without `--with_pkg` each submit is one row, and the output does not depend on how
the database breaks ties (`db_queries_print_top_rows`). A limit above `i64::MAX` fails
`i64::try_from` (`artifacts_limit_out_of_range`). `db releases` prints the same top rows newest
first (`releases_newest_first`). With `--with_pkg`, the limit applies to the rows of the join
with `jobs` before the distinct submits are loaded (`submitsWithPkg`), so a submit with several
jobs of the package takes several of the `limit` rows (`submits_withPkg_limit_counts_job_rows`).
That cut falls among rows of equal submit id, yet the submits printed do not depend on the
engine: the first query keeps the `limit` largest ids of its rows, whichever rows of equal id
come first (`submits_withPkg_engine_independent`).
-/

namespace Butido.Commands.Db

open Butido.Db

/-! ## The schema -/

/-- A row of `artifacts`. -/
structure Artifact where
  id : ℤ
  path : String
  jobId : ℤ
  deriving DecidableEq

/-- A row of `jobs`. -/
structure Job where
  id : ℤ
  submitId : ℤ
  endpointId : ℤ
  packageId : ℤ
  imageId : ℤ
  uuid : String
  logText : String
  deriving DecidableEq

/-- A row of `releases`. -/
structure Release (Time : Type) where
  id : ℤ
  artifactId : ℤ
  releaseDate : Time
  releaseStoreId : ℤ
  deriving DecidableEq

/-- A row of `release_stores`. -/
structure ReleaseStore where
  id : ℤ
  storeName : String
  deriving DecidableEq

/-- A row of `submits`. -/
structure Submit (Time : Type) where
  id : ℤ
  uuid : String
  submitTime : Time
  requestedImageId : ℤ
  requestedPackageId : ℤ
  repoHashId : ℤ
  deriving DecidableEq

/-- A row of `githashes`. -/
structure Githash where
  id : ℤ
  hash : String
  deriving DecidableEq

/-- A row of `images`. -/
structure Image where
  id : ℤ
  name : String
  deriving DecidableEq

/-- A row of `packages`. -/
structure Package where
  id : ℤ
  name : String
  version : String
  deriving DecidableEq

/-- A row of `endpoints`. -/
structure Endpoint where
  id : ℤ
  name : String
  deriving DecidableEq

/-- A row of `envvars`. -/
structure EnvVar where
  id : ℤ
  name : String
  value : String
  deriving DecidableEq

/-- A row of `job_envs`. -/
structure JobEnv where
  id : ℤ
  jobId : ℤ
  envId : ℤ
  deriving DecidableEq

/-- A table: its rows, whose primary keys are distinct. -/
structure Table (α : Type) (id : α → ℤ) where
  rows : List α
  ids_nodup : (rows.map id).Nodup

/-- Two rows of a table with one primary key are one row. -/
theorem Table.eq_of_id_eq {α : Type} {id : α → ℤ} (t : Table α id) {a b : α} (ha : a ∈ t.rows)
    (hb : b ∈ t.rows) (h : id a = id b) : a = b :=
  List.inj_on_of_nodup_map t.ids_nodup ha hb h

/-- The database state. -/
structure Database (Time : Type) where
  artifacts : Table Artifact Artifact.id
  jobs : Table Job Job.id
  releases : Table (Release Time) Release.id
  releaseStores : Table ReleaseStore ReleaseStore.id
  submits : Table (Submit Time) Submit.id
  githashes : Table Githash Githash.id
  images : Table Image Image.id
  packages : Table Package Package.id
  endpoints : Table Endpoint Endpoint.id
  envvars : Table EnvVar EnvVar.id
  jobEnvs : Table JobEnv JobEnv.id

/-! ## What the commands call outside `src/` -/

/-- What the commands use of `ImageNameLookup`. -/
structure ImageNameLookup (E : Type) where
  /-- `ImageNameLookup::expand`: the full name of an image name. -/
  expand : String → Except E String

/-- `crate::log::JobResult`: what a job's parsed log reports. -/
inductive JobResult where
  | success
  | errored
  | unknown
  deriving DecidableEq

/-- `JobResult::to_bool`: `Success` is `Some(true)`, `Errored` is `Some(false)` and `Unknown` is
    `None`, the undecided log of `is_job_successfull`'s `Ok(None)`. -/
def JobResult.toBool : JobResult → Option Bool
  | .success => some true
  | .errored => some false
  | .unknown => none

/-- The calls of the commands into code that is not under `src/`. -/
structure Env (E Time Log : Type) where
  /-- `ImageNameLookup::create(config.docker().images())`. -/
  imageNameLookup : Except E (ImageNameLookup E)
  /-- `get_date_filter(name, matches)`: the date flag, parsed, if it is given. -/
  getDateFilter : Option String → Except E (Option Time)
  /-- `crate::util::env::parse_to_env`. -/
  parseToEnv : String → Except E (String × String)
  /-- `ParsedLog::from_str`. -/
  parseLog : String → Except E Log
  /-- `ParsedLog::is_successfull`. -/
  isSuccessfull : Log → JobResult

/-- `ParsedLog::from_str(log)?.is_successfull()`. -/
def Env.jobResult {E Time Log : Type} (env : Env E Time Log) (log : String) :
    Except E JobResult :=
  (env.parseLog log).map env.isSuccessfull

/-- The errors of the commands. -/
inductive Error (E : Type) where
  /-- `i64::try_from(limit)?`: "out of range integral type conversion attempted". -/
  | tryFromInt
  /-- An error of a call of `Env`. -/
  | call (e : E)
  deriving DecidableEq

variable {E Time Log : Type} [LinearOrder Time]

/-! ## `get_limit` -/

/-- `i64::MAX`. -/
def i64Max : ℕ := 2 ^ 63 - 1

/-- `get_limit`: `--limit`, else the configured default; `0` is `i64::MAX`, and a value above
    `i64::MAX` fails `i64::try_from`. -/
def getLimit (limit : Option ℕ) (defaultLimit : ℕ) : Except (Error E) ℕ :=
  let limit := limit.getD defaultLimit
  if limit = 0 then .ok i64Max else if limit ≤ i64Max then .ok limit else .error .tryFromInt

/-- `get_limit` succeeds exactly on limits up to `i64::MAX`, and `0` is `i64::MAX`. -/
theorem getLimit_eq_ok {limit : Option ℕ} {defaultLimit l : ℕ} :
    getLimit limit defaultLimit = (.ok l : Except (Error E) ℕ) ↔
      limit.getD defaultLimit ≤ i64Max ∧
        l = if limit.getD defaultLimit = 0 then i64Max else limit.getD defaultLimit := by
  unfold getLimit
  by_cases h₀ : limit.getD defaultLimit = 0
  · simp [h₀, eq_comm]
  · by_cases h₁ : limit.getD defaultLimit ≤ i64Max
    · simp [h₀, h₁, eq_comm]
    · simp [h₀, h₁]

/-! ## `db artifacts` -/

/-- The rows of `artifacts ⋈ jobs ⟕ releases`. -/
def artifactRows (db : Database Time) : List ((Artifact × Job) × Option (Release Time)) :=
  leftJoin (innerJoin db.artifacts.rows db.jobs.rows fun a j => a.jobId == j.id)
    db.releases.rows fun r rel => r.1.id == rel.artifactId

/-- The rows `db artifacts` matches: those of the job `--job_uuid`, if given. -/
def artifactMatches (db : Database Time) (jobUuid : Option String) :
    List ((Artifact × Job) × Option (Release Time)) :=
  (artifactRows db).filter fun r => jobUuid.all (r.1.2.uuid == ·)

/-- `db artifacts`, ordered by `artifacts.id`. -/
def artifacts (eng : Engine) (db : Database Time) (jobUuid : Option String)
    (limit : Option ℕ) (defaultLimit : ℕ) :
    Except (Error E) (List ((Artifact × Job) × Option (Release Time))) := do
  let limit ← getLimit limit defaultLimit
  pure (eng.load (fun r => r.1.1.id) limit (artifactMatches db jobUuid)).reverse

/-! ## `db submits` -/

/-- `submits ⋈ githashes ⋈ images`, the query every branch starts from. -/
def submitBase (db : Database Time) : List ((Submit Time × Githash) × Image) :=
  innerJoin (innerJoin db.submits.rows db.githashes.rows fun s g => s.repoHashId == g.id)
    db.images.rows fun r i => r.1.requestedImageId == i.id

/-- The `--for-commit` and `--image` filters on the columns of `submitBase`. -/
def baseFilter (forCommit image : Option String) (r : (Submit Time × Githash) × Image) : Bool :=
  forCommit.all (r.1.2.hash == ·) && image.all (r.2.name == ·)

/-- The rows of `submitBase ⋈ packages` on the requested package, with the filters of the
    branches without `--with_pkg`: one per submit. -/
def submitMatches (db : Database Time) (forCommit image forPkg : Option String) :
    List (((Submit Time × Githash) × Image) × Package) :=
  (innerJoin (submitBase db) db.packages.rows fun r p => r.1.1.requestedPackageId == p.id).filter
    fun r => baseFilter forCommit image r.1 && forPkg.all (r.2.name == ·)

/-- `.select((submits::all_columns, packages::all_columns))`. -/
def selectSubmit (r : ((Submit Time × Githash) × Image) × Package) : Submit Time × Package :=
  (r.1.1.1, r.2)

/-- `--with_pkg`: the ids of the submits among the first `limit` rows of
    `submitBase ⋈ jobs ⋈ packages` whose job builds the package, then every such submit with its
    requested package, ordered by `submits.id` and not limited again. -/
def submitsWithPkg (eng : Engine) (db : Database Time) (forCommit image : Option String)
    (pkgname : String) (limit : ℕ) : List (Submit Time × Package) :=
  let query := (innerJoin (innerJoin (submitBase db) db.jobs.rows fun r j => r.1.1.id == j.submitId)
    db.packages.rows fun r p => r.2.packageId == p.id).filter
      fun r => baseFilter forCommit image r.1.1 && r.2.name == pkgname
  let submitIds := (eng.load (fun r => r.1.1.1.1.id) limit query).map fun r => r.1.1.1.1.id
  eng.orderByDesc (fun r => r.1.id)
    ((innerJoin db.submits.rows db.packages.rows fun s p => s.requestedPackageId == p.id).filter
      fun r => submitIds.contains r.1.id)

/-- `ImageNameLookup::create(..)?` and `expand(image)?`, when `--image` is given. -/
def expandImage (env : Env E Time Log) : Option String → Except (Error E) (Option String)
  | none => pure none
  | some image => do
    let lookup ← env.imageNameLookup.mapError .call
    let image ← (lookup.expand image).mapError .call
    pure (some image)

/-- `db submits`, ordered by `submits.id`; `--with_pkg` wins over `--for_pkg`. -/
def submits (env : Env E Time Log) (eng : Engine) (db : Database Time)
    (forCommit image withPkg forPkg : Option String) (limit : Option ℕ) (defaultLimit : ℕ) :
    Except (Error E) (List (Submit Time × Package)) := do
  let limit ← getLimit limit defaultLimit
  let image ← expandImage env image
  let submits := match withPkg with
    | some pkgname => submitsWithPkg eng db forCommit image pkgname limit
    | none =>
      (eng.load (fun r : ((Submit Time × Githash) × Image) × Package => r.1.1.1.id) limit
        (submitMatches db forCommit image forPkg)).map selectSubmit
  pure submits.reverse

/-! ## `db jobs` -/

/-- A row of `jobs ⋈ submits ⋈ endpoints ⋈ packages ⋈ images ⟕ artifacts`. -/
abbrev JobRow (Time : Type) :=
  ((((Job × Submit Time) × Endpoint) × Package) × Image) × Option Artifact

/-- The job of a row. -/
def JobRow.job (r : JobRow Time) : Job := r.1.1.1.1.1

/-- The submit of a row. -/
def JobRow.submit (r : JobRow Time) : Submit Time := r.1.1.1.1.2

/-- The rows of `jobs ⋈ submits ⋈ endpoints ⋈ packages ⋈ images ⟕ artifacts`. -/
def jobRows (db : Database Time) : List (JobRow Time) :=
  leftJoin
    (innerJoin
      (innerJoin
        (innerJoin (innerJoin db.jobs.rows db.submits.rows fun j s => j.submitId == s.id)
          db.endpoints.rows fun r e => r.1.endpointId == e.id)
        db.packages.rows fun r p => r.1.1.packageId == p.id)
      db.images.rows fun r i => r.1.1.1.imageId == i.id)
    db.artifacts.rows fun r a => r.1.1.1.1.id == a.jobId

/-- The filters of `db jobs`, once resolved. -/
structure JobsFilter (Time : Type) where
  submitUuid : Option String
  image : Option String
  jobIds : Option (List ℤ)
  olderThan : Option Time
  newerThan : Option Time
  endpoint : Option String
  package : Option String

/-- The rows `db jobs` matches. -/
def jobMatches (db : Database Time) (f : JobsFilter Time) : List (JobRow Time) :=
  (jobRows db).filter fun r =>
    f.submitUuid.all (r.submit.uuid == ·) && f.image.all (r.1.2.name == ·) &&
    f.jobIds.all (·.contains r.job.id) && f.olderThan.all (decide <| r.submit.submitTime < ·) &&
    f.newerThan.all (decide <| · < r.submit.submitTime) && f.endpoint.all (r.1.1.1.2.name == ·) &&
    f.package.all (r.1.1.2.name == ·)

/-- The `--env` filter's query: the jobs with an environment variable `name = value`. -/
def envJobIds (db : Database Time) (name value : String) : List ℤ :=
  (innerJoin (db.envvars.rows.filter fun e => e.name == name && e.value == value)
    db.jobEnvs.rows fun e je => e.id == je.envId).map fun r => r.2.jobId

/-- The flags of `db jobs` resolved, in the order the code resolves them. -/
def resolveJobsFilter (env : Env E Time Log) (db : Database Time)
    (submitUuid image envFilter olderThan newerThan endpoint package : Option String) :
    Except (Error E) (JobsFilter Time) := do
  let olderThan ← (env.getDateFilter olderThan).mapError .call
  let newerThan ← (env.getDateFilter newerThan).mapError .call
  let lookup ← env.imageNameLookup.mapError .call
  let image ← match image with
    | none => pure none
    | some image => some <$> (lookup.expand image).mapError .call
  let jobIds ← match envFilter with
    | none => pure none
    | some s => do
      let (name, value) ← (env.parseToEnv s).mapError .call
      pure (some (envJobIds db name value))
  pure ⟨submitUuid, image, jobIds, olderThan, newerThan, endpoint, package⟩

/-- `is_job_successfull`: `ParsedLog::from_str(&job.log_text).map(|pl|
    pl.is_successfull().to_bool())`. -/
def isJobSuccessfull (env : Env E Time Log) (job : Job) : Except E (Option Bool) :=
  (env.parseLog job.logText).map fun pl => (env.isSuccessfull pl).toBool

omit [LinearOrder Time] in
/-- `is_job_successfull` reads a log as `ParsedLog::from_str(..)?.is_successfull()` does, through
    `to_bool`. -/
theorem isJobSuccessfull_eq_map_jobResult (env : Env E Time Log) (job : Job) :
    isJobSuccessfull env job = (env.jobResult job.logText).map JobResult.toBool := by
  unfold isJobSuccessfull Env.jobResult
  cases env.parseLog job.logText <;> rfl

omit [LinearOrder Time] in
theorem isJobSuccessfull_eq_ok {env : Env E Time Log} {job : Job} {b : Option Bool} :
    isJobSuccessfull env job = .ok b ↔
      ∃ pl, env.parseLog job.logText = .ok pl ∧ (env.isSuccessfull pl).toBool = b := by
  unfold isJobSuccessfull
  cases env.parseLog job.logText <;> simp [Except.map]

/-- `db jobs`, ordered by `jobs.id`: each printed row with whether its job succeeded. The
    second `ImageNameLookup::create` is the one `shorten` uses when formatting. -/
def jobs (env : Env E Time Log) (eng : Engine) (db : Database Time)
    (submitUuid image envFilter olderThan newerThan endpoint package : Option String)
    (limit : Option ℕ) (defaultLimit : ℕ) : Except (Error E) (List (JobRow Time × Option Bool)) := do
  let f ← resolveJobsFilter env db submitUuid image envFilter olderThan newerThan endpoint package
  let limit ← getLimit limit defaultLimit
  let _ ← env.imageNameLookup.mapError .call
  (eng.load (fun r => r.job.id) limit (jobMatches db f)).reverse.mapM fun r => do
    let success ← (isJobSuccessfull env r.job).mapError .call
    pure (r, success)

/-! ## `db releases` -/

/-- A row of `jobs ⋈ packages ⋈ artifacts ⋈ releases ⋈ release_stores`. -/
abbrev ReleaseRow (Time : Type) := (((Job × Package) × Artifact) × Release Time) × ReleaseStore

/-- The rows of `jobs ⋈ packages ⋈ artifacts ⋈ releases ⋈ release_stores`. -/
def releaseRows (db : Database Time) : List (ReleaseRow Time) :=
  innerJoin
    (innerJoin
      (innerJoin (innerJoin db.jobs.rows db.packages.rows fun j p => j.packageId == p.id)
        db.artifacts.rows fun r a => r.1.id == a.jobId)
      db.releases.rows fun r rel => r.2.id == rel.artifactId)
    db.releaseStores.rows fun r s => r.2.releaseStoreId == s.id

/-- The rows `db releases` matches. -/
def releaseMatches (db : Database Time) (olderThan newerThan : Option Time)
    (store package : Option String) : List (ReleaseRow Time) :=
  (releaseRows db).filter fun r =>
    olderThan.all (decide <| r.1.2.releaseDate < ·) &&
    newerThan.all (decide <| · < r.1.2.releaseDate) && store.all (r.2.storeName == ·) &&
    package.all (r.1.1.1.2.name == ·)

/-- `.select((art, pac, rel, rst))`. -/
def selectRelease (r : ReleaseRow Time) : Artifact × Package × Release Time × ReleaseStore :=
  (r.1.1.2, r.1.1.1.2, r.1.2, r.2)

/-- `db releases`, ordered by `releases.id`, printed as loaded: no `.rev()`. -/
def releases (env : Env E Time Log) (eng : Engine) (db : Database Time)
    (olderThan newerThan store package : Option String) (limit : Option ℕ) (defaultLimit : ℕ) :
    Except (Error E) (List (Artifact × Package × Release Time × ReleaseStore)) := do
  let limit ← getLimit limit defaultLimit
  let olderThan ← (env.getDateFilter olderThan).mapError .call
  let newerThan ← (env.getDateFilter newerThan).mapError .call
  pure ((eng.load (fun r => r.1.2.id) limit
    (releaseMatches db olderThan newerThan store package)).map selectRelease)

/-! ## A small database -/

/-- One job of package `a`, whose one artifact is released to two stores. -/
def sampleDb : Database ℕ where
  artifacts := ⟨[⟨1, "a-1.tar.gz", 1⟩], by decide⟩
  jobs := ⟨[⟨1, 1, 1, 1, 1, "job-1", ""⟩], by decide⟩
  releases := ⟨[⟨1, 1, 10, 1⟩, ⟨2, 1, 20, 2⟩], by decide⟩
  releaseStores := ⟨[⟨1, "stable"⟩, ⟨2, "testing"⟩], by decide⟩
  submits := ⟨[⟨1, "submit-1", 5, 1, 1, 1⟩], by decide⟩
  githashes := ⟨[⟨1, "abc"⟩], by decide⟩
  images := ⟨[⟨1, "img"⟩], by decide⟩
  packages := ⟨[⟨1, "a", "1"⟩], by decide⟩
  endpoints := ⟨[⟨1, "ep"⟩], by decide⟩
  envvars := ⟨[], by decide⟩
  jobEnvs := ⟨[], by decide⟩

/-- Calls where no date flag is given, image names are full names, no `--env` filter parses,
    and every log parses to the lines `2, 0, 1` and reports an unknown result. -/
def noFlagsEnv : Env Unit ℕ (List ℕ) where
  imageNameLookup := .ok ⟨.ok⟩
  getDateFilter _ := .ok none
  parseToEnv _ := .error ()
  parseLog _ := .ok [2, 0, 1]
  isSuccessfull _ := .unknown

/-! ## What the commands print -/

section Print

variable (env : Env E Time Log) (eng : Engine) (db : Database Time)

omit [LinearOrder Time] in
/-- What `db artifacts` returns: the matching rows ordered, limited and reversed. -/
theorem artifacts_eq_ok {jobUuid : Option String} {limit : Option ℕ} {defaultLimit : ℕ}
    {rows : List ((Artifact × Job) × Option (Release Time))} :
    artifacts eng db jobUuid limit defaultLimit = (.ok rows : Except (Error E) _) ↔
      ∃ l, getLimit limit defaultLimit = (.ok l : Except (Error E) ℕ) ∧
        rows = (eng.load (fun r => r.1.1.id) l (artifactMatches db jobUuid)).reverse := by
  unfold artifacts
  cases (getLimit limit defaultLimit : Except (Error E) ℕ) <;>
    simp [bind, Except.bind, pure, Except.pure, eq_comm]

omit [LinearOrder Time] in
/-- What `db submits` without `--with_pkg` returns: the matching submits ordered, limited and
    reversed. -/
theorem submits_eq_ok {forCommit image forPkg : Option String} {limit : Option ℕ}
    {defaultLimit : ℕ} {rows : List (Submit Time × Package)} :
    submits env eng db forCommit image none forPkg limit defaultLimit = .ok rows ↔
      ∃ l image', getLimit limit defaultLimit = (.ok l : Except (Error E) ℕ) ∧
        expandImage env image = .ok image' ∧
        rows = ((eng.load (fun r => r.1.1.1.id) l (submitMatches db forCommit image' forPkg)).map
          selectSubmit).reverse := by
  unfold submits
  cases (getLimit limit defaultLimit : Except (Error E) ℕ) <;>
    cases expandImage env image <;> simp [bind, Except.bind, pure, Except.pure, eq_comm]

omit [LinearOrder Time] in
/-- The submits of `submitMatches` are distinct: the joins on `githashes`, `images` and
    `packages` follow unique keys. -/
theorem submitMatches_keys_nodup (forCommit image forPkg : Option String) :
    ((submitMatches db forCommit image forPkg).map fun r => r.1.1.1.id).Nodup := by
  have h₀ : (submitMatches db forCommit image forPkg).Sublist
      (innerJoin (submitBase db) db.packages.rows fun r p => r.1.1.requestedPackageId == p.id) :=
    List.filter_sublist _
  have h₁ := innerJoin_map_fst_sublist db.packages.ids_nodup
    (fun r : (Submit Time × Githash) × Image => r.1.1.requestedPackageId) (submitBase db)
  have h₂ := innerJoin_map_fst_sublist db.images.ids_nodup
    (fun r : Submit Time × Githash => r.1.requestedImageId)
    (innerJoin db.submits.rows db.githashes.rows fun s g => s.repoHashId == g.id)
  have h₃ := innerJoin_map_fst_sublist db.githashes.ids_nodup Submit.repoHashId db.submits.rows
  have hs := (((h₀.map Prod.fst).trans h₁).map Prod.fst |>.trans h₂).map Prod.fst |>.trans h₃
  simpa only [List.map_map] using db.submits.ids_nodup.sublist (hs.map Submit.id)

/-- What `db jobs` returns: the matching rows ordered, limited and reversed, each with its
    job's parsed log. -/
theorem jobs_eq_ok {submitUuid image envFilter olderThan newerThan endpoint package : Option String}
    {limit : Option ℕ} {defaultLimit : ℕ} {out : List (JobRow Time × Option Bool)}
    (h : jobs env eng db submitUuid image envFilter olderThan newerThan endpoint package limit
      defaultLimit = .ok out) :
    ∃ f l, resolveJobsFilter env db submitUuid image envFilter olderThan newerThan endpoint
        package = .ok f ∧ getLimit limit defaultLimit = (.ok l : Except (Error E) ℕ) ∧
      ((eng.load (fun r => r.job.id) l (jobMatches db f)).reverse.mapM fun r => do
        let success ← (isJobSuccessfull env r.job).mapError Error.call
        pure (r, success)) = .ok out := by
  unfold jobs at h
  cases hf : resolveJobsFilter env db submitUuid image envFilter olderThan newerThan endpoint
    package <;> cases hl : (getLimit limit defaultLimit : Except (Error E) ℕ) <;>
    cases hi : env.imageNameLookup <;>
    simp only [hf, hl, hi, bind, Except.bind, Except.mapError, reduceCtorEq] at h
  exact ⟨_, _, rfl, rfl, h⟩

/-- A row `db jobs` prints is one its filter matched, printed with its job's success as
    `is_job_successfull` reads it. -/
theorem mem_jobMatches_of_mem_jobs
    {submitUuid image envFilter olderThan newerThan endpoint package : Option String}
    {limit : Option ℕ} {defaultLimit : ℕ} {out : List (JobRow Time × Option Bool)}
    (h : jobs env eng db submitUuid image envFilter olderThan newerThan endpoint package limit
      defaultLimit = .ok out) {r : JobRow Time × Option Bool} (hr : r ∈ out) :
    ∃ f, resolveJobsFilter env db submitUuid image envFilter olderThan newerThan endpoint
        package = .ok f ∧ r.1 ∈ jobMatches db f ∧ isJobSuccessfull env r.1.job = .ok r.2 := by
  obtain ⟨f, l, hf, -, hout⟩ := jobs_eq_ok env eng db h
  obtain ⟨hfst, hsucc⟩ := mapM_pair_eq_ok hout
  exact ⟨f, hf, eng.mem_of_mem_load_reverse (hfst ▸ List.mem_map_of_mem Prod.fst hr), hsucc r hr⟩

/-- Under every engine: `get_limit` succeeds exactly on limits up to `i64::MAX`, with `0`
    standing for `i64::MAX`. `db artifacts` returns iff it does, and `db submits` without
    `--with_pkg` iff it does and the image name resolves. When they return, `db artifacts`,
    `db jobs` and `db submits` without `--with_pkg` print the top `limit` matching rows, oldest
    first, and each submit is one row. -/
theorem db_queries_print_top_rows (limit : Option ℕ) (defaultLimit : ℕ) :
    (∀ l, getLimit limit defaultLimit = (.ok l : Except (Error E) ℕ) ↔
      limit.getD defaultLimit ≤ i64Max ∧
        l = if limit.getD defaultLimit = 0 then i64Max else limit.getD defaultLimit) ∧
    (∀ jobUuid, (∃ rows, artifacts eng db jobUuid limit defaultLimit =
        (.ok rows : Except (Error E) _)) ↔ limit.getD defaultLimit ≤ i64Max) ∧
    (∀ jobUuid rows, artifacts eng db jobUuid limit defaultLimit =
        (.ok rows : Except (Error E) _) →
      ∃ l, getLimit limit defaultLimit = (.ok l : Except (Error E) ℕ) ∧
        TopRows (fun r => r.1.1.id) l (artifactMatches db jobUuid) rows) ∧
    (∀ forCommit image forPkg, (∃ rows,
        submits env eng db forCommit image none forPkg limit defaultLimit = .ok rows) ↔
      limit.getD defaultLimit ≤ i64Max ∧ ∃ image', expandImage env image = .ok image') ∧
    (∀ forCommit image forPkg rows,
      submits env eng db forCommit image none forPkg limit defaultLimit = .ok rows →
      ∃ l image', getLimit limit defaultLimit = (.ok l : Except (Error E) ℕ) ∧
        expandImage env image = .ok image' ∧
        TopRows (fun r => r.1.id) l ((submitMatches db forCommit image' forPkg).map selectSubmit)
          rows ∧
        (((submitMatches db forCommit image' forPkg).map selectSubmit).map fun r => r.1.id).Nodup) ∧
    (∀ submitUuid image envFilter olderThan newerThan endpoint package out,
      jobs env eng db submitUuid image envFilter olderThan newerThan endpoint package limit
        defaultLimit = .ok out →
      ∃ f l, resolveJobsFilter env db submitUuid image envFilter olderThan newerThan endpoint
          package = .ok f ∧ getLimit limit defaultLimit = (.ok l : Except (Error E) ℕ) ∧
        TopRows (fun r => r.job.id) l (jobMatches db f) (out.map Prod.fst) ∧
        ∀ p ∈ out, isJobSuccessfull env p.1.job = .ok p.2) := by
  have hlim : ∀ l, getLimit limit defaultLimit = (.ok l : Except (Error E) ℕ) ↔
      limit.getD defaultLimit ≤ i64Max ∧
        l = if limit.getD defaultLimit = 0 then i64Max else limit.getD defaultLimit :=
    fun _ => getLimit_eq_ok
  refine ⟨hlim, fun jobUuid => ⟨fun ⟨_, h⟩ => ?_, fun hL => ?_⟩, fun jobUuid rows h => ?_,
    fun forCommit image forPkg => ⟨fun ⟨_, h⟩ => ?_, fun ⟨hL, image', himg⟩ => ?_⟩,
    fun forCommit image forPkg rows h => ?_, fun _ _ _ _ _ _ _ out h => ?_⟩
  · obtain ⟨l, hl, -⟩ := (artifacts_eq_ok eng db).mp h
    exact ((hlim l).mp hl).1
  · exact ⟨_, (artifacts_eq_ok eng db).mpr ⟨_, (hlim _).mpr ⟨hL, rfl⟩, rfl⟩⟩
  · obtain ⟨l, hl, rfl⟩ := (artifacts_eq_ok eng db).mp h
    exact ⟨l, hl, topRows_reverse_load eng _ l _⟩
  · obtain ⟨l, image', hl, himg, -⟩ := (submits_eq_ok env eng db).mp h
    exact ⟨((hlim l).mp hl).1, image', himg⟩
  · exact ⟨_, (submits_eq_ok env eng db).mpr ⟨_, image', (hlim _).mpr ⟨hL, rfl⟩, himg, rfl⟩⟩
  · obtain ⟨l, image', hl, himg, rfl⟩ := (submits_eq_ok env eng db).mp h
    have hk := submitMatches_keys_nodup db forCommit image' forPkg
    refine ⟨l, image', hl, himg, ?_, by simpa only [List.map_map] using hk⟩
    rw [← List.map_reverse]
    exact (topRows_reverse_load eng _ l _).map selectSubmit fun _ => rfl
  · obtain ⟨f, l, hf, hl, hm⟩ := jobs_eq_ok env eng db h
    obtain ⟨hfst, hsucc⟩ := mapM_pair_eq_ok hm
    exact ⟨f, l, hf, hl, hfst ▸ topRows_reverse_load eng _ l _, hsucc⟩

/-- `--limit 9223372036854775808` (`2^63`) on `sampleDb`: two rows match, and `db artifacts`
    fails instead of printing them. -/
theorem artifacts_limit_out_of_range :
    (artifactMatches sampleDb none).length = 2 ∧
    artifacts Engine.stable sampleDb none (some (2 ^ 63)) 0 =
      (.error .tryFromInt : Except (Error Unit) _) :=
  ⟨rfl, rfl⟩

/-- `db releases` has no `.rev()`: it prints the top `limit` matching releases newest first,
    the reverse of the order the other commands print in. -/
theorem releases_newest_first {olderThan newerThan store package : Option String}
    {limit : Option ℕ} {defaultLimit : ℕ}
    {rows : List (Artifact × Package × Release Time × ReleaseStore)}
    (h : releases env eng db olderThan newerThan store package limit defaultLimit = .ok rows) :
    ∃ l older newer, getLimit limit defaultLimit = (.ok l : Except (Error E) ℕ) ∧
      env.getDateFilter olderThan = .ok older ∧ env.getDateFilter newerThan = .ok newer ∧
      TopRows (fun r => r.2.2.1.id) l
        ((releaseMatches db older newer store package).map selectRelease) rows.reverse := by
  unfold releases at h
  cases hl : (getLimit limit defaultLimit : Except (Error E) ℕ) <;>
    cases ho : env.getDateFilter olderThan <;> cases hn : env.getDateFilter newerThan <;>
    simp only [hl, ho, hn, bind, Except.bind, Except.mapError, pure, Except.pure, reduceCtorEq,
      Except.ok.injEq] at h
  subst h
  refine ⟨_, _, _, rfl, rfl, rfl, ?_⟩
  rw [← List.map_reverse]
  exact (topRows_reverse_load eng _ _ _).map selectRelease fun _ => rfl

/-- `db releases` on `sampleDb` with no flag: the later release, to `testing`, comes first. -/
theorem releases_newest_first_sample :
    releases noFlagsEnv Engine.stable sampleDb none none none none none 0 =
      .ok [(⟨1, "a-1.tar.gz", 1⟩, ⟨1, "a", "1"⟩, ⟨2, 1, 20, 2⟩, ⟨2, "testing"⟩),
        (⟨1, "a-1.tar.gz", 1⟩, ⟨1, "a", "1"⟩, ⟨1, 1, 10, 1⟩, ⟨1, "stable"⟩)] ∧
    ∃ l older newer, getLimit none 0 = (.ok l : Except (Error Unit) ℕ) ∧
      noFlagsEnv.getDateFilter none = .ok older ∧ noFlagsEnv.getDateFilter none = .ok newer ∧
      TopRows (fun r => r.2.2.1.id) l
        ((releaseMatches sampleDb older newer none none).map selectRelease)
        [(⟨1, "a-1.tar.gz", 1⟩, ⟨1, "a", "1"⟩, ⟨2, 1, 20, 2⟩, ⟨2, "testing"⟩),
          (⟨1, "a-1.tar.gz", 1⟩, ⟨1, "a", "1"⟩, ⟨1, 1, 10, 1⟩, ⟨1, "stable"⟩)].reverse := by
  refine ⟨?h, releases_newest_first _ _ _ ?h⟩
  rfl

/-! ## `db submits --with_pkg` -/

omit [LinearOrder Time] in
/-- The submits of `submits ⋈ packages` on the requested package are distinct. -/
theorem submitPackages_keys_nodup :
    ((innerJoin db.submits.rows db.packages.rows fun s p => s.requestedPackageId == p.id).map
      fun r => r.1.id).Nodup := by
  have h := innerJoin_map_fst_sublist db.packages.ids_nodup Submit.requestedPackageId db.submits.rows
  simpa only [List.map_map] using db.submits.ids_nodup.sublist (h.map Submit.id)

omit [LinearOrder Time] in
/-- `--with_pkg` prints the same submits under every engine: the ids its first query keeps are
    the `limit` largest ids of its rows, whichever rows of equal id the database puts first. -/
theorem submitsWithPkg_engine (eng' : Engine) (forCommit image : Option String) (pkgname : String)
    (limit : ℕ) :
    submitsWithPkg eng db forCommit image pkgname limit =
      submitsWithPkg eng' db forCommit image pkgname limit := by
  simp only [submitsWithPkg, Engine.load, List.map_take, Engine.map_key_orderByDesc eng eng']
  exact Engine.orderByDesc_eq_of_nodup eng eng'
    ((submitPackages_keys_nodup db).sublist ((List.filter_sublist _).map _))

omit [LinearOrder Time] in
/-- `--with_pkg` prints each submit once, ascending, and at most `limit` of them: each is the
    submit of one of the first `limit` rows of its first query. -/
theorem submitsWithPkg_sorted_length (forCommit image : Option String) (pkgname : String)
    (limit : ℕ) :
    ((submitsWithPkg eng db forCommit image pkgname limit).reverse.map fun r => r.1.id).Sorted
        (· < ·) ∧
      (submitsWithPkg eng db forCommit image pkgname limit).length ≤ limit := by
  simp only [submitsWithPkg]
  set ids := (eng.load _ limit _).map _ with hids
  set rows := (innerJoin db.submits.rows db.packages.rows fun s p => s.requestedPackageId == p.id).filter
    fun r => ids.contains r.1.id
  have hn : (rows.map fun r => r.1.id).Nodup :=
    (submitPackages_keys_nodup db).sublist ((List.filter_sublist _).map _)
  refine ⟨?_, ?_⟩
  · exact List.pairwise_map.mpr (List.pairwise_reverse.mpr
      (sorted_lt_of_nodup (eng.sorted _ rows)
      (((eng.perm _ rows).map _).nodup_iff.mpr hn)))
  · have hsub : (rows.map fun r => r.1.id) ⊆ ids := by
      intro x hx
      obtain ⟨r, hr, rfl⟩ := List.mem_map.mp hx
      simpa using (List.mem_filter.mp hr).2
    calc (eng.orderByDesc (fun r => r.1.id) rows).length
        = (rows.map fun r => r.1.id).length := by rw [(eng.perm _ rows).length_eq, List.length_map]
      _ ≤ ids.length := (List.subperm_of_subset hn hsub).length_le
      _ ≤ limit := by rw [hids, List.length_map, Engine.load]; exact List.length_take_le _ _

omit [LinearOrder Time] in
/-- `db submits --with_pkg` prints the same rows under every engine, although its first query
    cuts rows of equal submit id at the limit. When it returns, it prints each submit once,
    oldest first, and at most `limit` submits: a submit with several jobs of the package takes
    several of the `limit` rows. -/
theorem submits_withPkg_engine_independent (eng' : Engine) (forCommit image forPkg : Option String)
    (pkgname : String) (limit : Option ℕ) (defaultLimit : ℕ) :
    submits env eng db forCommit image (some pkgname) forPkg limit defaultLimit =
        submits env eng' db forCommit image (some pkgname) forPkg limit defaultLimit ∧
      ∀ rows, submits env eng db forCommit image (some pkgname) forPkg limit defaultLimit =
          .ok rows →
        (rows.map fun r => r.1.id).Sorted (· < ·) ∧
          ∃ l, getLimit limit defaultLimit = (.ok l : Except (Error E) ℕ) ∧ rows.length ≤ l := by
  refine ⟨by simp only [submits, submitsWithPkg_engine eng db eng'], fun rows h => ?_⟩
  unfold submits at h
  cases hl : (getLimit limit defaultLimit : Except (Error E) ℕ) <;>
    cases hi : expandImage env image <;>
    simp only [hl, hi, bind, Except.bind, pure, Except.pure, reduceCtorEq, Except.ok.injEq] at h
  subst h
  obtain ⟨hs, hlen⟩ := submitsWithPkg_sorted_length eng db forCommit _ pkgname _
  exact ⟨hs, _, rfl, by rwa [List.length_reverse]⟩

end Print

/-- Two submits of package `a`: submit 1 with one job of it, submit 2 with two. -/
def twoJobSubmitDb : Database ℕ where
  artifacts := ⟨[], by decide⟩
  jobs := ⟨[⟨1, 1, 1, 1, 1, "job-1", ""⟩, ⟨2, 2, 1, 1, 1, "job-2", ""⟩,
    ⟨3, 2, 1, 1, 1, "job-3", ""⟩], by decide⟩
  releases := ⟨[], by decide⟩
  releaseStores := ⟨[], by decide⟩
  submits := ⟨[⟨1, "submit-1", 5, 1, 1, 1⟩, ⟨2, "submit-2", 6, 1, 1, 1⟩], by decide⟩
  githashes := ⟨[⟨1, "abc"⟩], by decide⟩
  images := ⟨[⟨1, "img"⟩], by decide⟩
  packages := ⟨[⟨1, "a", "1"⟩], by decide⟩
  endpoints := ⟨[⟨1, "ep"⟩], by decide⟩
  envvars := ⟨[], by decide⟩
  jobEnvs := ⟨[], by decide⟩

/-- `--limit 2` on `twoJobSubmitDb`: the two rows the first `--with_pkg a` query keeps are both
    submit 2's, so it prints submit 2 alone, where `--for_pkg a` prints submits 1 and 2. -/
theorem submits_withPkg_limit_counts_job_rows :
    ((submits noFlagsEnv Engine.stable twoJobSubmitDb none none (some "a") none (some 2) 10).map
        fun rows => rows.map fun r => r.1.id) = .ok [2] ∧
      ((submits noFlagsEnv Engine.stable twoJobSubmitDb none none none (some "a") (some 2) 10).map
        fun rows => rows.map fun r => r.1.id) = .ok [1, 2] :=
  ⟨rfl, rfl⟩

end Butido.Commands.Db
