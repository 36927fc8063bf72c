import Butido.Commands.DbSubmit

/-!
# `db job`, `db log-of` and `db cli` (`src/commands/db.rs`)

`db job` shows one job; `db log-of` writes the lines of a job's log; `db cli` starts a
PostgreSQL client.

* `db log-of` writes the lines of the log as they are displayed, up to the first that fails
  (`logOf_streams_lines`), where `db job --show_log` displays them all before writing any: the
  two succeed together, with the same lines, and fail with the same error
  (`logBlock_agrees_with_logOf`).
* A job `db jobs` prints is found by `db job` and `db log-of` on its uuid
  (`jobs_listed_found_by_job_and_logOf`). When no two jobs share a uuid, `db job` shows it as
  `db jobs` does: its first block is of the row's job, submit, endpoint, package and image, with
  the result that the row's `Success` column reads (`job_shows_jobs_row`).

`db job` and `db log-of` parse a log with the parser of `Env`, as `db jobs` and `db submit` do;
their other calls into code that is not under `src/` are those of `ShowEnv`. The formatting of
what is written (colours, `indoc!`, `display_data`, the line counts) is left out: the model
returns the records each block is written from. A query with `.first()` and no `ORDER BY`
returns the first row in the order the database returns them, which is the order of the model's
lists. `db cli` looks programs up with `which`, a parameter, and the client's run is not
modelled.
-/

namespace Butido.Commands.Db

open Butido.Db

variable {E Time Theme Log Line : Type}

/-! ## `db job` -/

/-- The flags of `db job`. -/
structure JobFlags where
  noScriptHighlight : Bool
  noScriptLineNumbers : Bool
  showLog : Bool
  showScript : Bool
  showEnv : Bool
  csv : Bool
  deriving DecidableEq

/-- The row of `db job`: `jobs` filtered on `jobs.uuid`, `⋈ submits ⋈ endpoints ⋈ packages ⋈
    images`, with `.first()`, the first row in the order the database returns them. -/
def jobData (db : Database Time) (jobUuid : String) :
    Option ((((Job × Submit Time) × Endpoint) × Package) × Image) :=
  (innerJoin
    (innerJoin
      (innerJoin
        (innerJoin (db.jobs.rows.filter fun j => j.uuid == jobUuid) db.submits.rows
          fun j s => j.submitId == s.id)
        db.endpoints.rows fun r e => r.1.endpointId == e.id)
      db.packages.rows fun r p => r.1.1.packageId == p.id)
    db.images.rows fun r i => r.1.1.1.imageId == i.id).head?

/-- `JobEnv::belonging_to(job) ⋈ envvars`: the variables `--show_env` lists. -/
def jobEnvVars (db : Database Time) (job : Job) : List EnvVar :=
  (innerJoin (db.jobEnvs.rows.filter fun je => je.jobId == job.id) db.envvars.rows
    fun je e => je.envId == e.id).map Prod.snd

/-- A block `db job` writes. -/
inductive JobBlock (Time : Type) where
  /-- `--csv`: the header and one row. -/
  | row (job : Job) (result : JobResult) (package : Package) (endpoint : Endpoint) (image : Image)
  /-- The summary of the job, its submit, its result, package, endpoint and image. -/
  | summary (job : Job) (submit : Submit Time) (result : JobResult) (package : Package)
      (endpoint : Endpoint) (image : Image)
  /-- `--show_env`: one `"\t{:>3}. {}={}"` line per variable. -/
  | envs (vars : List EnvVar)
  /-- `--show_script`: the printable script. -/
  | script (script : String)
  /-- `--show_log`: the displayed lines, joined with newlines. -/
  | log (lines : List String)
  deriving DecidableEq

/-- What `db job` writes, block by block, and how it ends. -/
structure JobRun (E Time : Type) where
  written : List (JobBlock Time)
  result : Except (ShowError E) Unit

/-- The `if show_script` block: the theme is taken from the configuration before the script is
    made printable, whether it is highlighted or not. -/
def scriptBlock (senv : ShowEnv E Time Theme Log Line) (flags : JobFlags)
    (configuredTheme : Option Theme) (job : Job) : Except (ShowError E) (List (JobBlock Time)) :=
  if flags.showScript then do
    let theme ← match configuredTheme with
      | none => .error .noTheme
      | some theme => pure theme
    let script ← (senv.scriptToPrintable job (!flags.noScriptHighlight) theme
      (!flags.noScriptLineNumbers)).mapError .call
    pure [.script script]
  else pure []

/-- The `if show_log` block: every line is displayed, and collected, before the block is
    written. -/
def logBlock (senv : ShowEnv E Time Theme Log Line) (flags : JobFlags)
    (log : Log) : Except (ShowError E) (List (JobBlock Time)) :=
  if flags.showLog then do
    let lines ← ((senv.lines log).mapM senv.display).mapError .call
    pure [.log lines]
  else pure []

/-- `db job`: the log is parsed before anything is written; with `--csv` one row is written,
    otherwise the summary, then the variables, the script and the log, each if asked for. -/
def job (env : Env E Time Log) (senv : ShowEnv E Time Theme Log Line) (db : Database Time)
    (flags : JobFlags) (configuredTheme : Option Theme) (jobUuid : String) : JobRun E Time :=
  match jobData db jobUuid with
  | none => ⟨[], .error .jobNotFound⟩
  | some ((((j, s), ep), p), i) =>
    match env.parseLog j.logText with
    | .error e => ⟨[], .error (.call e)⟩
    | .ok log =>
      if flags.csv then ⟨[.row j (env.isSuccessfull log) p ep i], .ok ()⟩
      else
        let head : List (JobBlock Time) := .summary j s (env.isSuccessfull log) p ep i ::
          if flags.showEnv then [.envs (jobEnvVars db j)] else []
        match scriptBlock senv flags configuredTheme j with
        | .error e => ⟨head, .error e⟩
        | .ok script =>
          match logBlock senv flags log with
          | .error e => ⟨head ++ script, .error e⟩
          | .ok logLines => ⟨head ++ script ++ logLines, .ok ()⟩

/-- The script block fails for want of a theme or with an error of `script_to_printable`. -/
theorem scriptBlock_eq_error {senv : ShowEnv E Time Theme Log Line}
    {flags : JobFlags} {configuredTheme : Option Theme} {job : Job} {e : ShowError E}
    (h : scriptBlock senv flags configuredTheme job = .error e) :
    e = .noTheme ∨ ∃ e', e = .call e' := by
  unfold scriptBlock at h
  cases hs : flags.showScript
  · simp [hs, pure, Except.pure] at h
  rcases configuredTheme with _ | theme
  · simp [hs, bind, Except.bind] at h
    exact .inl h.symm
  · cases hp : senv.scriptToPrintable job (!flags.noScriptHighlight) theme
      (!flags.noScriptLineNumbers) <;>
      simp [hs, hp, bind, Except.bind, pure, Except.pure, Except.mapError] at h
    exact .inr ⟨_, h.symm⟩

/-- The log block only fails with an error of `LineItem::display`. -/
theorem logBlock_eq_error {senv : ShowEnv E Time Theme Log Line}
    {flags : JobFlags} {log : Log} {e : ShowError E} (h : logBlock senv flags log = .error e) :
    ∃ e', e = .call e' := by
  unfold logBlock at h
  cases hs : flags.showLog
  · simp [hs, pure, Except.pure] at h
  · cases hm : (senv.lines log).mapM senv.display <;>
      simp only [hs, hm, if_true, bind, Except.bind, pure, Except.pure, Except.mapError,
        reduceCtorEq, Except.error.injEq] at h
    exact ⟨_, h.symm⟩

/-- `db job` says it found no job exactly when the query of its uuid is empty. -/
theorem job_eq_jobNotFound {env : Env E Time Log} {senv : ShowEnv E Time Theme Log Line}
    {db : Database Time} {flags : JobFlags} {configuredTheme : Option Theme} {jobUuid : String} :
    (job env senv db flags configuredTheme jobUuid).result = .error .jobNotFound ↔
      jobData db jobUuid = none := by
  unfold job
  rcases jobData db jobUuid with _ | ⟨⟨⟨⟨j, s⟩, ep⟩, p⟩, i⟩
  · simp
  dsimp only
  cases env.parseLog j.logText with
  | error e => simp
  | ok log =>
    cases flags.csv
    · cases hsb : scriptBlock senv flags configuredTheme j with
      | error e => rcases scriptBlock_eq_error hsb with rfl | ⟨_, rfl⟩ <;> simp
      | ok script =>
        cases hlb : logBlock senv flags log with
        | error e =>
          obtain ⟨_, rfl⟩ := logBlock_eq_error hlb
          simp [hlb]
        | ok => simp [hlb]
    · simp

/-! ## `db log-of` -/

/-- `.map(|line| line.display().and_then(|d| writeln!(lock, "{d}")))` collected into a `Result`:
    the iterator is lazy and the collection stops at the first error, so the lines are written
    one by one up to the first that fails to display. -/
def writeLines (display : Line → Except E String) :
    List Line → List String × Except (ShowError E) Unit
  | [] => ([], .ok ())
  | l :: ls =>
    match display l with
    | .error e => ([], .error (.call e))
    | .ok d =>
      let rest := writeLines display ls
      (d :: rest.1, rest.2)

/-- `db log-of`: the lines it writes, and how it ends. Its job is `.first()` of `jobs` filtered
    on `jobs.uuid`, with no join. -/
def logOf (env : Env E Time Log) (senv : ShowEnv E Time Theme Log Line) (db : Database Time)
    (jobUuid : String) : List String × Except (ShowError E) Unit :=
  match (db.jobs.rows.filter fun j => j.uuid == jobUuid).head? with
  | none => ([], .error .jobNotFound)
  | some j =>
    match env.parseLog j.logText with
    | .error e => ([], .error (.call e))
    | .ok log => writeLines senv.display (senv.lines log)

section WriteLines

variable (display : Line → Except E String)

/-- The lines written are the displays of the lines before the first that fails to display, or
    of all of them, and the writing fails with that line's error. -/
theorem writeLines_prefix : ∀ ls : List Line,
    ∃ pre rest, ls = pre ++ rest ∧ pre.mapM display = .ok (writeLines display ls).1 ∧
      (rest = [] ∧ (writeLines display ls).2 = .ok () ∨
        ∃ l rest' e, rest = l :: rest' ∧ display l = .error e ∧
          (writeLines display ls).2 = .error (.call e))
  | [] => ⟨[], [], rfl, rfl, .inl ⟨rfl, rfl⟩⟩
  | l :: ls => by
    cases hl : display l with
    | error e =>
      refine ⟨[], l :: ls, rfl, ?_, .inr ⟨l, ls, e, rfl, hl, by simp [writeLines, hl]⟩⟩
      simp only [writeLines, hl]
      rfl
    | ok d =>
      obtain ⟨pre, rest, rfl, hpre, hrest⟩ := writeLines_prefix ls
      refine ⟨l :: pre, rest, rfl, ?_, by simpa [writeLines, hl] using hrest⟩
      rw [List.mapM_cons, hl, hpre]
      simp [writeLines, hl]
      rfl

/-- Writing the lines ends as collecting their displays does, with the same error. -/
theorem writeLines_snd : ∀ ls : List Line,
    (writeLines display ls).2 = ((ls.mapM display).map fun _ => ()).mapError .call
  | [] => rfl
  | l :: ls => by
    rw [List.mapM_cons]
    cases hl : display l <;> simp only [writeLines, hl, writeLines_snd ls] <;>
      cases ls.mapM display <;> rfl

end WriteLines

/-- `db log-of` says it found no job exactly when no job has its uuid. -/
theorem logOf_eq_jobNotFound {env : Env E Time Log} {senv : ShowEnv E Time Theme Log Line}
    {db : Database Time} {jobUuid : String} :
    (logOf env senv db jobUuid).2 = .error .jobNotFound ↔
      (db.jobs.rows.filter fun j => j.uuid == jobUuid) = [] := by
  unfold logOf
  cases db.jobs.rows.filter fun j => j.uuid == jobUuid with
  | nil => simp
  | cons j _ =>
    simp only [List.head?_cons]
    cases env.parseLog j.logText with
    | error e => simp
    | ok log =>
      rw [writeLines_snd]
      cases (senv.lines log).mapM senv.display <;> simp [Except.map, Except.mapError]

/-- `db log-of` writes the displays of the lines of the job's log up to the first that fails to
    display, and fails with that line's error; it succeeds when every line displays. -/
theorem logOf_streams_lines (env : Env E Time Log) (senv : ShowEnv E Time Theme Log Line)
    (db : Database Time) {jobUuid : String} {j : Job} {log : Log}
    (hj : (db.jobs.rows.filter fun j => j.uuid == jobUuid).head? = some j)
    (hl : env.parseLog j.logText = .ok log) :
    ∃ pre rest, senv.lines log = pre ++ rest ∧
      pre.mapM senv.display = .ok (logOf env senv db jobUuid).1 ∧
      (rest = [] ∧ (logOf env senv db jobUuid).2 = .ok () ∨
        ∃ l rest' e, rest = l :: rest' ∧ senv.display l = .error e ∧
          (logOf env senv db jobUuid).2 = .error (.call e)) := by
  have h : logOf env senv db jobUuid = writeLines senv.display (senv.lines log) := by
    simp [logOf, hj, hl]
  rw [h]
  exact writeLines_prefix senv.display (senv.lines log)

/-- The job of `sampleDb`: `log-of` writes the line `2` and fails on the line `0`. -/
theorem logOf_streams_lines_sample :
    (sampleDb.jobs.rows.filter fun j => j.uuid == "job-1").head? =
        some ⟨1, 1, 1, 1, 1, "job-1", ""⟩ ∧
      noFlagsEnv.parseLog "" = .ok [2, 0, 1] ∧
      logOf noFlagsEnv sampleShowEnv sampleDb "job-1" = (["||"], .error (.call ())) ∧
      ∃ pre rest, sampleShowEnv.lines [2, 0, 1] = pre ++ rest ∧
        pre.mapM sampleShowEnv.display = .ok (logOf noFlagsEnv sampleShowEnv sampleDb "job-1").1 ∧
        (rest = [] ∧ (logOf noFlagsEnv sampleShowEnv sampleDb "job-1").2 = .ok () ∨
          ∃ l rest' e, rest = l :: rest' ∧ sampleShowEnv.display l = .error e ∧
            (logOf noFlagsEnv sampleShowEnv sampleDb "job-1").2 = .error (.call e)) :=
  ⟨rfl, rfl, rfl, logOf_streams_lines noFlagsEnv sampleShowEnv sampleDb rfl rfl⟩

/-- The clients `db cli` can start. -/
inductive PgCli where
  | psql
  | pgcli
  deriving DecidableEq

/-- The program name `db cli` looks a client up under. -/
def PgCli.name : PgCli → String
  | .psql => "psql"
  | .pgcli => "pgcli"

/-- The errors of `db cli` before it starts a client. -/
inductive CliError where
  /-- "Unsupported pg CLI program: {prog}". -/
  | unsupported (prog : String)
  /-- "No Program found". -/
  | noProgram
  deriving DecidableEq

/-- The client of `db cli`, with its path: the programs are `--tool`, or else `psql` then
    `pgcli`; `filter_map(which)` keeps those found on the path, and `.next()` takes the first. -/
def cliProgram {Path : Type} (which : String → Option Path) (tool : Option String) :
    Except CliError (PgCli × Path) :=
  match ((tool.map fun s => [s]).getD ["psql", "pgcli"]).filterMap
      (fun s => (which s).map fun path => (path, s)) with
  | [] => .error .noProgram
  | (path, s) :: _ =>
    if s = "psql" then .ok (.psql, path)
    else if s = "pgcli" then .ok (.pgcli, path)
    else .error (.unsupported s)

/-- The arguments `run_for_uri` starts a client with, from the database's name, host, port and
    user. -/
def PgCli.args (c : PgCli) (name host port user : String) : List String :=
  match c with
  | .psql => ["--dbname=" ++ name, "--host=" ++ host, "--port=" ++ port, "--username=" ++ user]
  | .pgcli => ["--host", host, "--port", port, "--username", user, name]

/-- `db cli`: the path of the client it starts, and the client's arguments. -/
def cli {Path : Type} (which : String → Option Path) (tool : Option String)
    (name host port user : String) : Except CliError (Path × List String) := do
  let (c, path) ← cliProgram which tool
  pure (path, c.args name host port user)

/-! ## What `db jobs` prints, seen by `db job` and `db log-of` -/

section Listed

variable {db : Database Time}

/-- A job with a row in `jobs ⋈ ..` is found by the query of `db job` on its uuid. -/
theorem jobData_ne_none_of_mem_jobRows {r : JobRow Time} (h : r ∈ jobRows db) :
    jobData db r.job.uuid ≠ none := by
  obtain ⟨⟨⟨⟨⟨j, s⟩, e⟩, p⟩, i⟩, a⟩ := r
  have h₁ := fst_mem_of_mem_leftJoin h
  rw [jobData, Ne, List.head?_eq_none_iff]
  refine List.ne_nil_of_mem (a := ((((j, s), e), p), i)) ?_
  simpa [mem_innerJoin, List.mem_filter, JobRow.job] using h₁

/-- A job that `db jobs` prints, whatever its filters, is found on its uuid by `db job`, whatever
    its flags, and by `db log-of`: neither says that no job was found. -/
theorem jobs_listed_found_by_job_and_logOf [LinearOrder Time] {env : Env E Time Log}
    (eng : Engine) {submitUuid image envFilter olderThan newerThan endpoint package : Option String}
    {limit : Option ℕ} {defaultLimit : ℕ} {out : List (JobRow Time × Option Bool)}
    (h : jobs env eng db submitUuid image envFilter olderThan newerThan endpoint package limit
      defaultLimit = .ok out)
    (senv : ShowEnv E Time Theme Log Line) (flags : JobFlags) (configuredTheme : Option Theme) :
    ∀ r ∈ out, (job env senv db flags configuredTheme r.1.job.uuid).result ≠ .error .jobNotFound ∧
      (logOf env senv db r.1.job.uuid).2 ≠ .error .jobNotFound := by
  intro r hr
  obtain ⟨f, -, hm, -⟩ := mem_jobMatches_of_mem_jobs env eng db h hr
  have hrow := (List.mem_filter.mp hm).1
  rw [Ne, job_eq_jobNotFound, Ne, logOf_eq_jobNotFound]
  exact ⟨jobData_ne_none_of_mem_jobRows hrow,
    List.ne_nil_of_mem (List.mem_filter.mpr ⟨(mem_jobRows hrow).1, by simp⟩)⟩

/-- `sampleDb`'s one job, which `db jobs` prints, is found by `db job` and `db log-of`. -/
theorem jobs_listed_found_by_job_and_logOf_sample :
    ∃ out, jobs noFlagsEnv Engine.stable sampleDb none none none none none none none none 10 =
        .ok out ∧ out.length = 1 ∧
      ∀ r ∈ out, (job noFlagsEnv sampleShowEnv sampleDb ⟨false, false, false, false, false, false⟩
          none r.1.job.uuid).result ≠ .error .jobNotFound ∧
        (logOf noFlagsEnv sampleShowEnv sampleDb r.1.job.uuid).2 ≠ .error .jobNotFound :=
  ⟨_, rfl, rfl, jobs_listed_found_by_job_and_logOf Engine.stable
    (rfl : jobs noFlagsEnv Engine.stable sampleDb none none none none none none none none 10 = _)
    sampleShowEnv _ none⟩

/-- The first row of a list whose rows are all one row is that row. -/
theorem head?_eq_of_forall_mem_eq {α : Type} {l : List α} {x : α} (hx : x ∈ l)
    (h : ∀ y ∈ l, y = x) : l.head? = some x := by
  rw [List.head?_eq_head (List.ne_nil_of_mem hx), h _ (List.head_mem _)]

/-- When no two jobs share a uuid, the query of `db job` on the uuid of a job with a row in
    `jobs ⋈ ..` finds that row: the job is the one of its uuid, and its submit, endpoint,
    package and image are the ones of their ids. -/
theorem jobData_of_mem_jobRows (huuid : (db.jobs.rows.map Job.uuid).Nodup) {j : Job}
    {s : Submit Time} {e : Endpoint} {p : Package} {i : Image} {a : Option Artifact}
    (h : (((((j, s), e), p), i), a) ∈ jobRows db) :
    jobData db j.uuid = some ((((j, s), e), p), i) := by
  obtain ⟨⟨⟨⟨hj, hs, hjs⟩, he, hje⟩, hp, hjp⟩, hi, hji⟩ := exists_mem_jobRows_iff.mp ⟨a, h⟩
  refine head?_eq_of_forall_mem_eq ?_ ?_
  · simp only [mem_innerJoin, List.mem_filter, beq_iff_eq]
    exact ⟨⟨⟨⟨⟨hj, trivial⟩, hs, hjs⟩, he, hje⟩, hp, hjp⟩, hi, hji⟩
  · rintro ⟨⟨⟨⟨j', s'⟩, e'⟩, p'⟩, i'⟩ hx
    simp only [mem_innerJoin, List.mem_filter, beq_iff_eq] at hx
    obtain ⟨⟨⟨⟨⟨hj', hu⟩, hs', hjs'⟩, he', hje'⟩, hp', hjp'⟩, hi', hji'⟩ := hx
    obtain rfl := List.inj_on_of_nodup_map huuid hj' hj hu
    rw [db.submits.eq_of_id_eq hs' hs (hjs'.symm.trans hjs),
      db.endpoints.eq_of_id_eq he' he (hje'.symm.trans hje),
      db.packages.eq_of_id_eq hp' hp (hjp'.symm.trans hjp),
      db.images.eq_of_id_eq hi' hi (hji'.symm.trans hji)]

/-- Once its job is found and its log parsed, `db job` writes first the `--csv` row or the
    summary, whatever it writes after. -/
theorem job_written_head {env : Env E Time Log} {senv : ShowEnv E Time Theme Log Line}
    {flags : JobFlags} {configuredTheme : Option Theme} {jobUuid : String} {j : Job}
    {s : Submit Time} {e : Endpoint} {p : Package} {i : Image} {log : Log}
    (hd : jobData db jobUuid = some ((((j, s), e), p), i)) (hl : env.parseLog j.logText = .ok log) :
    (job env senv db flags configuredTheme jobUuid).written.head? =
      some (if flags.csv then .row j (env.isSuccessfull log) p e i
        else .summary j s (env.isSuccessfull log) p e i) := by
  unfold job
  simp only [hd, hl]
  cases flags.csv
  · cases scriptBlock senv flags configuredTheme j <;> cases logBlock senv flags log <;> rfl
  · rfl

/-- When no two jobs share a uuid, `db job`, whatever its flags, shows a job that `db jobs`
    prints as `db jobs` does: its first block, the `--csv` row or the summary, is of the row's
    job, submit, endpoint, package and image, with a result that `to_bool` reads as the row's
    `Success` column. -/
theorem job_shows_jobs_row [LinearOrder Time] {env : Env E Time Log} (eng : Engine)
    {submitUuid image envFilter olderThan newerThan endpoint package : Option String}
    {limit : Option ℕ} {defaultLimit : ℕ} {out : List (JobRow Time × Option Bool)}
    (h : jobs env eng db submitUuid image envFilter olderThan newerThan endpoint package limit
      defaultLimit = .ok out)
    (huuid : (db.jobs.rows.map Job.uuid).Nodup) (senv : ShowEnv E Time Theme Log Line)
    (flags : JobFlags) (configuredTheme : Option Theme) :
    ∀ j s e p i a success, ((((((j, s), e), p), i), a), success) ∈ out →
      ∃ res : JobResult, res.toBool = success ∧
        (job env senv db flags configuredTheme j.uuid).written.head? =
          some (if flags.csv then .row j res p e i else .summary j s res p e i) := by
  intro j s e p i a success hr
  obtain ⟨f, -, hm, hsucc⟩ := mem_jobMatches_of_mem_jobs env eng db h hr
  obtain ⟨log, hl, rfl⟩ := isJobSuccessfull_eq_ok.mp hsucc
  exact ⟨_, rfl, job_written_head (jobData_of_mem_jobRows huuid (List.mem_filter.mp hm).1) hl⟩

/-- `sampleDb`'s one job, which `db jobs` prints, shown by `db job --csv`. -/
theorem job_shows_jobs_row_sample :
    ∃ out, jobs noFlagsEnv Engine.stable sampleDb none none none none none none none none 10 =
        .ok out ∧ out.length = 1 ∧ (sampleDb.jobs.rows.map Job.uuid).Nodup ∧
      ∀ j s e p i a success, ((((((j, s), e), p), i), a), success) ∈ out →
        ∃ res : JobResult, res.toBool = success ∧
          (job noFlagsEnv sampleShowEnv sampleDb ⟨false, false, false, false, false, true⟩ none
            j.uuid).written.head? =
            some (if (⟨false, false, false, false, false, true⟩ : JobFlags).csv then
              .row j res p e i else .summary j s res p e i) :=
  ⟨_, rfl, rfl, by decide, job_shows_jobs_row Engine.stable
    (rfl : jobs noFlagsEnv Engine.stable sampleDb none none none none none none none none 10 = _)
    (by decide) sampleShowEnv _ none⟩

end Listed

end Butido.Commands.Db
