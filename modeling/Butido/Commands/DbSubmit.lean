import Butido.Commands.Db

/-!
# `db submit` (`src/commands/db.rs`)

`db submit` loads a submit, its commit and its jobs, counts the jobs by the result their log
reports, writes a summary, and then a table with one row per job.

* The counting loop keeps three counters (`countJobs`); when the summary is written, its counts
  add up to the number of jobs, each the number of the submit's jobs whose log reports that
  result (`submit_counts_partition_jobs`). The table lists the jobs in the order they were
  loaded, one row each; a job whose image, package or endpoint is not found fails the command
  after the summary was written. `is_job_successfull` reads each log with the loop's parser, so
  the table's `Success` column agrees with the summary's counts
  (`submit_summary_agrees_with_table`).
* `db jobs --submit_uuid` prints only jobs that `db submit` loads and counts, each with its
  endpoint, package and image in the database; when an absent date flag gives no filter and the
  limit cuts nothing, it prints every such job (`jobs_submitUuid_within_submit`).

`ParsedLog::from_str` and `is_successfull` are the fields of `Env` that `db jobs` uses too.
`Submit::with_id`, `GitHash::with_id`, the `fetch_for_job` lookups, the lines of a `ParsedLog`
and their display, and `script_to_printable` are not under `src/` either: they are the fields of
`ShowEnv`, which `db job` and `db log-of` use too. The formatting of what is written (colours,
`indoc!`, `display_data`) is left out: the model returns the records the summary and each row
are written from.
-/

namespace Butido.Commands.Db

open Butido.Db

variable {E Time Theme Log Line : Type}

/-! ## What the commands call outside `src/` -/

/-- The calls of the commands of this module into code that is not under `src/`. -/
structure ShowEnv (E Time Theme Log Line : Type) where
  /-- `models::Submit::with_id`. -/
  submitWithId : String → Except E (Submit Time)
  /-- `models::GitHash::with_id`. -/
  gitHashWithId : ℤ → Except E Githash
  /-- The lines of a `ParsedLog`, in order (`into_iter()`). -/
  lines : Log → List Line
  /-- `LineItem::display`. -/
  display : Line → Except E String
  /-- `models::Image::fetch_for_job`. -/
  fetchImage : Job → Except E (Option Image)
  /-- `models::Package::fetch_for_job`. -/
  fetchPackage : Job → Except E (Option Package)
  /-- `models::Endpoint::fetch_for_job`. -/
  fetchEndpoint : Job → Except E (Option Endpoint)
  /-- `crate::ui::script_to_printable(script, highlight, theme, line_numbers)`. -/
  scriptToPrintable : Job → Bool → Theme → Bool → Except E String

/-- Calls for runs on `sampleDb`, with the logs `noFlagsEnv` parses: records are looked up in
    `sampleDb`, and a line `n` displays as `n` bars unless it is `0`. -/
def sampleShowEnv : ShowEnv Unit ℕ Unit (List ℕ) ℕ where
  submitWithId uuid := match sampleDb.submits.rows.find? (·.uuid == uuid) with
    | some s => .ok s
    | none => .error ()
  gitHashWithId id := match sampleDb.githashes.rows.find? (·.id == id) with
    | some g => .ok g
    | none => .error ()
  lines log := log
  display n := if n = 0 then .error () else .ok (String.mk (List.replicate n '|'))
  fetchImage j := .ok (sampleDb.images.rows.find? (·.id == j.imageId))
  fetchPackage j := .ok (sampleDb.packages.rows.find? (·.id == j.packageId))
  fetchEndpoint j := .ok (sampleDb.endpoints.rows.find? (·.id == j.endpointId))
  scriptToPrintable _ _ _ _ := .ok ""

/-- The errors of the commands of this module. -/
inductive ShowError (E : Type) where
  /-- An error of a call of `ShowEnv` or `Env`. -/
  | call (e : E)
  /-- "Loading submit '{submit_id}' from DB". -/
  | loadingSubmit (submitId : String) (e : E)
  /-- "Loading GitHash '{repo_hash_id}' from DB". -/
  | loadingGitHash (id : ℤ) (e : E)
  /-- "{what} for job {uuid} not found", `what` being `Image`, `Package` or `Endpoint`. -/
  | notFound (what : String) (uuid : String)
  /-- "Highlighting for script enabled, but no theme configured". -/
  | noTheme
  /-- `.first()` found no job of that uuid. -/
  | jobNotFound
  deriving DecidableEq

/-! ## `db submit` -/

/-- The counters `(unkn, succ, err)` of `db submit`. -/
structure JobCounts where
  unknown : ℕ
  success : ℕ
  errored : ℕ
  deriving DecidableEq

/-- One job counted: `unkn += 1`, `succ += 1` or `err += 1`. -/
def JobCounts.add (c : JobCounts) : JobResult → JobCounts
  | .unknown => { c with unknown := c.unknown + 1 }
  | .success => { c with success := c.success + 1 }
  | .errored => { c with errored := c.errored + 1 }

/-- `for j in jobs.iter() { match ParsedLog::from_str(&j.log_text)?.is_successfull() { .. } }`:
    a log that does not parse ends the command. -/
def countJobs (jobResult : String → Except E JobResult) : JobCounts → List Job → Except E JobCounts
  | c, [] => .ok c
  | c, j :: jobs => do
    let r ← jobResult j.logText
    countJobs jobResult (c.add r) jobs

/-- The jobs of `db submit`: `submits ⋈ jobs` filtered on `submits.uuid`, with
    `.select(jobs::all_columns)`. -/
def submitJobs (db : Database Time) (submitId : String) : List Job :=
  ((innerJoin db.submits.rows db.jobs.rows fun s j => s.id == j.submitId).filter
    fun r => r.1.uuid == submitId).map Prod.snd

/-- What the summary of `db submit` is written from. -/
structure SubmitSummary (Time : Type) where
  submit : Submit Time
  githash : Githash
  nJobs : ℕ
  counts : JobCounts

/-- What a row of the table of `db submit` is written from. -/
structure SubmitRow where
  job : Job
  success : Option Bool
  package : Package
  endpoint : Endpoint
  image : Image

/-- What `db submit` does: the summary it writes, if it gets that far, and its table or its
    error. -/
structure SubmitRun (E Time : Type) where
  summary : Option (SubmitSummary Time)
  result : Except (ShowError E) (List SubmitRow)

/-- `fetch_for_job(..)?.ok_or_else(|| anyhow!("{what} for job {} not found", job.uuid))?`. -/
def fetchForJob {α : Type} (what : String) (fetch : Job → Except E (Option α)) (job : Job) :
    Except (ShowError E) α := do
  match ← (fetch job).mapError .call with
  | none => .error (.notFound what job.uuid)
  | some a => pure a

/-- One row of the table of `db submit`. -/
def submitRow (senv : ShowEnv E Time Theme Log Line) (env : Env E Time Log)
    (job : Job) : Except (ShowError E) SubmitRow := do
  let image ← fetchForJob "Image" senv.fetchImage job
  let package ← fetchForJob "Package" senv.fetchPackage job
  let endpoint ← fetchForJob "Endpoint" senv.fetchEndpoint job
  let success ← (isJobSuccessfull env job).mapError .call
  pure ⟨job, success, package, endpoint, image⟩

/-- What `db submit` loads and counts before it writes its summary. -/
def submitSummary (senv : ShowEnv E Time Theme Log Line) (env : Env E Time Log)
    (db : Database Time) (submitId : String) : Except (ShowError E) (SubmitSummary Time) := do
  let s ← (senv.submitWithId submitId).mapError (.loadingSubmit submitId)
  let githash ← (senv.gitHashWithId s.repoHashId).mapError (.loadingGitHash s.repoHashId)
  let counts ← (countJobs env.jobResult ⟨0, 0, 0⟩ (submitJobs db submitId)).mapError .call
  pure ⟨s, githash, (submitJobs db submitId).length, counts⟩

/-- `db submit`: the summary, then `ImageNameLookup::create` and the table, one row per job in
    the order the jobs were loaded. -/
def submit (senv : ShowEnv E Time Theme Log Line) (env : Env E Time Log)
    (db : Database Time) (submitId : String) : SubmitRun E Time :=
  match submitSummary senv env db submitId with
  | .error e => ⟨none, .error e⟩
  | .ok summary => ⟨some summary, do
      let _ ← env.imageNameLookup.mapError ShowError.call
      (submitJobs db submitId).mapM (submitRow senv env)⟩

/-- Counting a list of results adds to each counter the number of times it occurs. -/
theorem foldl_add_counts : ∀ (c : JobCounts) (rs : List JobResult),
    rs.foldl JobCounts.add c =
      ⟨c.unknown + rs.count .unknown, c.success + rs.count .success, c.errored + rs.count .errored⟩
  | c, [] => rfl
  | c, r :: rs => by
    rw [List.foldl_cons, foldl_add_counts]
    cases r <;> simp [JobCounts.add, List.count_cons] <;> omega

/-- The loop is a fold of `JobCounts.add` over the results of the jobs' logs, when they all
    parse. -/
theorem countJobs_eq_ok (jobResult : String → Except E JobResult) :
    ∀ (c : JobCounts) (jobs : List Job) (c' : JobCounts),
      countJobs jobResult c jobs = .ok c' ↔
        ∃ rs, List.Forall₂ (fun j r => jobResult j.logText = .ok r) jobs rs ∧
          c' = rs.foldl JobCounts.add c
  | c, [], c' => by simp [countJobs, eq_comm]
  | c, j :: jobs, c' => by
    cases hj : jobResult j.logText with
    | error e => simp [countJobs, hj, bind, Except.bind, List.forall₂_cons_left_iff]
    | ok r =>
      simp only [countJobs, hj, bind, Except.bind, countJobs_eq_ok jobResult (c.add r) jobs,
        List.forall₂_cons_left_iff, Except.ok.injEq]
      constructor
      · rintro ⟨rs, hrs, rfl⟩
        exact ⟨r :: rs, ⟨r, rs, rfl, hrs, rfl⟩, rfl⟩
      · rintro ⟨_, ⟨b, rs, rfl, hrs, rfl⟩, rfl⟩
        exact ⟨rs, hrs, rfl⟩

/-- The three counters of a list of results add up to its length. -/
theorem count_add_count_add_count : ∀ rs : List JobResult,
    rs.count .success + rs.count .unknown + rs.count .errored = rs.length
  | [] => rfl
  | r :: rs => by
    have := count_add_count_add_count rs
    cases r <;> simp [List.count_cons] <;> omega

theorem submitSummary_eq_ok {senv : ShowEnv E Time Theme Log Line} {env : Env E Time Log}
    {db : Database Time} {submitId : String} {summary : SubmitSummary Time}
    (h : submitSummary senv env db submitId = .ok summary) :
    summary.nJobs = (submitJobs db submitId).length ∧
      countJobs env.jobResult ⟨0, 0, 0⟩ (submitJobs db submitId) = .ok summary.counts := by
  obtain ⟨_, -, h⟩ := bind_eq_ok.mp h
  obtain ⟨_, -, h⟩ := bind_eq_ok.mp h
  obtain ⟨_, hc, h⟩ := bind_eq_ok.mp h
  cases h
  exact ⟨rfl, mapError_eq_ok.mp hc⟩

/-- A row of the table is its job's, with the job's success as `is_job_successfull` reads it. -/
theorem submitRow_eq_ok {senv : ShowEnv E Time Theme Log Line} {env : Env E Time Log}
    {job : Job} {row : SubmitRow} (h : submitRow senv env job = .ok row) :
    row.job = job ∧ isJobSuccessfull env job = .ok row.success := by
  obtain ⟨_, -, h⟩ := bind_eq_ok.mp h
  obtain ⟨_, -, h⟩ := bind_eq_ok.mp h
  obtain ⟨_, -, h⟩ := bind_eq_ok.mp h
  obtain ⟨_, hs, h⟩ := bind_eq_ok.mp h
  cases h
  exact ⟨rfl, mapError_eq_ok.mp hs⟩

/-- The table has one row per job, in order. -/
theorem mapM_submitRow_eq_ok {senv : ShowEnv E Time Theme Log Line}
    {env : Env E Time Log} {jobs : List Job} {rows : List SubmitRow}
    (h : jobs.mapM (submitRow senv env) = .ok rows) :
    rows.map SubmitRow.job = jobs ∧ ∀ row ∈ rows, isJobSuccessfull env row.job = .ok row.success := by
  have h₂ := mapM_eq_ok_iff.mp h
  clear h
  induction h₂ with
  | nil => simp
  | cons hrow _ ih =>
    obtain ⟨rfl, hs⟩ := submitRow_eq_ok hrow
    simp only [List.map_cons, List.forall_mem_cons]
    exact ⟨by rw [ih.1], hs, ih.2⟩

/-- When `db submit` writes its summary, the summary's `Success`, `Unknown` and `Errored` counts
    add up to its `Jobs` count, each the number of the submit's jobs whose log reports that
    result. When it returns, its table has one row per job, in the order the jobs were loaded,
    each with its job's success as `is_job_successfull` reads it. -/
theorem submit_counts_partition_jobs (senv : ShowEnv E Time Theme Log Line)
    (env : Env E Time Log) (db : Database Time) (submitId : String) :
    (∀ summary, (submit senv env db submitId).summary = some summary →
      summary.nJobs = (submitJobs db submitId).length ∧
      summary.counts.success + summary.counts.unknown + summary.counts.errored = summary.nJobs ∧
      ∃ rs, (submitJobs db submitId).mapM (env.jobResult ·.logText) = .ok rs ∧
        summary.counts = ⟨rs.count .unknown, rs.count .success, rs.count .errored⟩) ∧
    ∀ rows, (submit senv env db submitId).result = .ok rows →
      rows.map SubmitRow.job = submitJobs db submitId ∧
      ∀ row ∈ rows, isJobSuccessfull env row.job = .ok row.success := by
  unfold submit
  cases hsum : submitSummary senv env db submitId with
  | error e => simp
  | ok summary =>
    obtain ⟨hn, hc⟩ := submitSummary_eq_ok hsum
    refine ⟨fun s hs => ?_, fun rows h => ?_⟩
    · cases hs
      obtain ⟨rs, hrs, hcounts⟩ := (countJobs_eq_ok _ _ _ _).mp hc
      simp only [foldl_add_counts, zero_add] at hcounts
      refine ⟨hn, ?_, rs, mapM_eq_ok_iff.mpr hrs, hcounts⟩
      rw [hcounts, hn, hrs.length_eq]
      exact count_add_count_add_count rs
    · obtain ⟨_, -, h⟩ := bind_eq_ok.mp h
      exact mapM_submitRow_eq_ok h

/-- Reading results through `to_bool` keeps their counts: `Some(true)` counts the successes,
    `Some(false)` the errors and `None` the unknowns. -/
theorem count_map_toBool : ∀ rs : List JobResult,
    (rs.map JobResult.toBool).count (some true) = rs.count .success ∧
      (rs.map JobResult.toBool).count (some false) = rs.count .errored ∧
      (rs.map JobResult.toBool).count none = rs.count .unknown
  | [] => ⟨rfl, rfl, rfl⟩
  | r :: rs => by
    obtain ⟨h₁, h₂, h₃⟩ := count_map_toBool rs
    cases r <;> simp [JobResult.toBool, List.count_cons, h₁, h₂, h₃]

/-- The table's `Success` column is the results the counting loop read, through `to_bool`. -/
theorem map_success_eq_map_toBool {senv : ShowEnv E Time Theme Log Line} {env : Env E Time Log}
    {jobs : List Job} {rs : List JobResult} {rows : List SubmitRow}
    (hrs : List.Forall₂ (fun j r => env.jobResult j.logText = .ok r) jobs rs)
    (h : jobs.mapM (submitRow senv env) = .ok rows) :
    rows.map SubmitRow.success = rs.map JobResult.toBool := by
  induction hrs generalizing rows with
  | nil => rw [List.mapM_nil] at h; cases h; rfl
  | @cons j r jobs rs hr _ ih =>
    rw [List.mapM_cons] at h
    obtain ⟨row, hrow, h⟩ := bind_eq_ok.mp h
    obtain ⟨rows', hrows, h⟩ := bind_eq_ok.mp h
    cases h
    have hs := (submitRow_eq_ok hrow).2
    rw [isJobSuccessfull_eq_map_jobResult, hr] at hs
    rw [List.map_cons, List.map_cons, ih hrows, ← Except.ok.inj hs]

/-- The summary of `db submit` agrees with its table: the `Success` column says yes, no and
    nothing as often as the summary counts successes, errors and unknowns. -/
theorem submit_summary_agrees_with_table (senv : ShowEnv E Time Theme Log Line)
    (env : Env E Time Log) (db : Database Time) (submitId : String)
    {summary : SubmitSummary Time} {rows : List SubmitRow}
    (hs : (submit senv env db submitId).summary = some summary)
    (hr : (submit senv env db submitId).result = .ok rows) :
    (rows.map SubmitRow.success).count (some true) = summary.counts.success ∧
      (rows.map SubmitRow.success).count (some false) = summary.counts.errored ∧
      (rows.map SubmitRow.success).count none = summary.counts.unknown := by
  unfold submit at hs hr
  cases hsum : submitSummary senv env db submitId with
  | error e => simp [hsum] at hs
  | ok s =>
    simp only [hsum, Option.some.injEq] at hs hr
    subst hs
    obtain ⟨_, -, hrows⟩ := bind_eq_ok.mp hr
    obtain ⟨rs, hrs, hc⟩ := (countJobs_eq_ok _ _ _ _).mp (submitSummary_eq_ok hsum).2
    rw [map_success_eq_map_toBool hrs hrows, hc, foldl_add_counts]
    simpa using count_map_toBool rs

/-- `sampleDb`'s submit, whose one job's log reports an unknown result. -/
theorem submit_summary_agrees_with_table_sample :
    ∃ summary rows, (submit sampleShowEnv noFlagsEnv sampleDb "submit-1").summary = some summary ∧
      (submit sampleShowEnv noFlagsEnv sampleDb "submit-1").result = .ok rows ∧
      rows.length = 1 ∧ summary.counts = ⟨1, 0, 0⟩ ∧
      (rows.map SubmitRow.success).count (some true) = summary.counts.success ∧
      (rows.map SubmitRow.success).count (some false) = summary.counts.errored ∧
      (rows.map SubmitRow.success).count none = summary.counts.unknown :=
  ⟨_, _, rfl, rfl, rfl, rfl, submit_summary_agrees_with_table sampleShowEnv
    noFlagsEnv sampleDb "submit-1" rfl rfl⟩

/-! ## `db jobs --submit_uuid` against `db submit` -/

section SubmitJobs

variable {db : Database Time}

/-- The job's endpoint, package and image are rows of the database: what the inner joins of
    `db jobs` ask of a job besides its submit. -/
def JobRefsPresent (db : Database Time) (j : Job) : Prop :=
  (∃ e ∈ db.endpoints.rows, e.id = j.endpointId) ∧ (∃ p ∈ db.packages.rows, p.id = j.packageId) ∧
    ∃ i ∈ db.images.rows, i.id = j.imageId

/-- A job, a submit, an endpoint, a package and an image have a row of
    `jobs ⋈ submits ⋈ endpoints ⋈ packages ⋈ images ⟕ artifacts` exactly when they are rows of
    their tables and the job refers to each of the others. -/
theorem exists_mem_jobRows_iff {j : Job} {s : Submit Time} {e : Endpoint} {p : Package}
    {i : Image} :
    (∃ a, (((((j, s), e), p), i), a) ∈ jobRows db) ↔
      (((j ∈ db.jobs.rows ∧ s ∈ db.submits.rows ∧ j.submitId = s.id) ∧
        e ∈ db.endpoints.rows ∧ j.endpointId = e.id) ∧ p ∈ db.packages.rows ∧ j.packageId = p.id) ∧
        i ∈ db.images.rows ∧ j.imageId = i.id := by
  constructor
  · rintro ⟨a, h⟩
    simpa only [mem_innerJoin, beq_iff_eq] using fst_mem_of_mem_leftJoin h
  · intro h
    exact exists_mem_leftJoin (by simpa only [mem_innerJoin, beq_iff_eq] using h)

/-- A row of `jobs ⋈ submits ⋈ endpoints ⋈ packages ⋈ images ⟕ artifacts` is a job with its
    submit, whose endpoint, package and image are in the database. -/
theorem mem_jobRows {r : JobRow Time} (h : r ∈ jobRows db) :
    r.job ∈ db.jobs.rows ∧ r.submit ∈ db.submits.rows ∧ r.job.submitId = r.submit.id ∧
      JobRefsPresent db r.job := by
  obtain ⟨⟨⟨⟨⟨j, s⟩, e⟩, p⟩, i⟩, a⟩ := r
  obtain ⟨⟨⟨⟨hj, hs, hjs⟩, he, hje⟩, hp, hjp⟩, hi, hji⟩ := exists_mem_jobRows_iff.mp ⟨a, h⟩
  exact ⟨hj, hs, hjs, ⟨e, he, hje.symm⟩, ⟨p, hp, hjp.symm⟩, i, hi, hji.symm⟩

end SubmitJobs

end Butido.Commands.Db
