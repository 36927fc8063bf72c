import Butido.Util.Except
import Mathlib.Data.UInt
import Mathlib.Order.Lattice

/-!
# `endpoint ping` (`src/commands/endpoint.rs`)

`ping` reads `--ping_n` as a `u64` and runs one task per endpoint:

* `for i in 1..(n_pings + 1)`: one `Endpoint::ping` per round, the first failure ending the task;
* then the task finishes its progress bar with "Pinging {name} successful", or with
  "Pinging {name} failed" on a failure.

`n_pings + 1` is a `u64` addition: with overflow checks (a debug build) an overflow panics, and
without them (a release build) it wraps (`u64Add`). The endpoint is not under `src/`: the answer
to the `i`-th ping is an input. The sleep between rounds and the progress bar's counter are left
out.

Below `u64::MAX` the loop pings `n_pings` times when every ping succeeds, and never more
(`pingTask_pings`). At `n_pings = u64::MAX` the bound overflows: a release build wraps it to `0`,
pings no endpoint and reports success, and a debug build panics (`pingTask_max_overflows`).

The commands run one future per endpoint in a `FuturesUnordered` and collect the results in the
order the futures complete, which the runtime chooses (`Completion`). For every such order:

* `ping` succeeds iff every endpoint answers each of its pings (`ping_ok_iff_all_answer`);
* `stats` returns iff every endpoint's stats do, one row per endpoint (`stats_ok_iff`);
* `containers prune` deletes only exited containers that an endpoint reported, inside the date
  window, and only after the user confirmed a prompt that names their number
  (`containersPrune_deletes_confirmed_exited`);
* `containers list --list_stopped` with the same date flags shows, among its exited containers,
  exactly those `containers prune` would delete (`containersList_exited_perm_pruneStats`).

`connect_to_endpoints` keeps the configured endpoints whose name is asked for; a name that is not
configured is dropped without an error (`endpointConfigurations_endpointNames`). What the
endpoints answer (`Endpoint::ping`, `stats`, `container_stats`, `get_container_by_id`, `delete`),
`setup_endpoints`, `humantime` and `dialoguer` are not under `src/`: they are parameters. The
progress bars, `--csv` and the formatting of rows are left out.
-/

namespace Butido.Commands.Endpoint

variable {E : Type}

/-! ## The model -/

/-- `a + b` on `u64`: `none` is the panic of an overflow-checked build; without the checks the
    sum wraps. -/
def u64Add (overflowChecks : Bool) (a b : UInt64) : Option UInt64 :=
  if overflowChecks ∧ 2 ^ 64 ≤ a.toNat + b.toNat then none else some (a + b)

/-- The rounds of the loop from round `i` on, with `k` rounds left: a ping, and on its failure
    the task returns the error. The number of pings made and the task's result. -/
def pingLoop (ping : ℕ → Except E Unit) (i : ℕ) : ℕ → ℕ × Except E Unit
  | 0 => (0, .ok ())
  | k + 1 =>
    match ping i with
    | .error e => (1, .error e)
    | .ok () => ((pingLoop ping (i + 1) k).1 + 1, (pingLoop ping (i + 1) k).2)

/-- The message the task finishes its progress bar with. -/
def finishMessage (name : String) : Except E Unit → String
  | .ok () => "Pinging " ++ name ++ " successful"
  | .error _ => "Pinging " ++ name ++ " failed"

/-- What the task of one endpoint leaves: its pings, its bar's last message and its result. -/
structure PingRun (E : Type) where
  pings : ℕ
  message : String
  result : Except E Unit

/-- The task of the endpoint `name`: `for i in 1..(n_pings + 1)`, a range of `u64`, which runs
    `bound - 1` rounds, none when the bound is `0`. `none` is a panic. -/
def pingTask (overflowChecks : Bool) (name : String) (nPings : UInt64)
    (ping : ℕ → Except E Unit) : Option (PingRun E) := do
  let bound ← u64Add overflowChecks nPings 1
  let run := pingLoop ping 1 (bound.toNat - 1)
  pure ⟨run.1, finishMessage name run.2, run.2⟩

/-! ## The loop -/

/-- The loop makes at most one ping per round. -/
theorem pingLoop_pings_le (ping : ℕ → Except E Unit) : ∀ (i k : ℕ), (pingLoop ping i k).1 ≤ k
  | _, 0 => le_rfl
  | i, k + 1 => by
    unfold pingLoop
    split
    · omega
    · exact Nat.succ_le_succ (pingLoop_pings_le ping (i + 1) k)

/-- When every ping of the rounds succeeds, the loop pings once per round and succeeds. -/
theorem pingLoop_of_ok (ping : ℕ → Except E Unit) :
    ∀ (i k : ℕ), (∀ j < k, ping (i + j) = .ok ()) → pingLoop ping i k = (k, .ok ())
  | _, 0, _ => rfl
  | i, k + 1, h => by
    have hrest := pingLoop_of_ok ping (i + 1) k fun j hj => by
      rw [Nat.add_right_comm, Nat.add_assoc]
      exact h (j + 1) (by omega)
    have h0 : ping i = .ok () := h 0 (Nat.succ_pos k)
    simp only [pingLoop, h0, hrest]

/-- `n_pings + 1` does not overflow below `u64::MAX`. -/
theorem u64Add_one_of_lt (overflowChecks : Bool) {n : UInt64} (h : n.toNat < 2 ^ 64 - 1) :
    ∃ b, u64Add overflowChecks n 1 = some b ∧ b.toNat = n.toNat + 1 := by
  have hsum : (n + 1).toNat = n.toNat + 1 := by
    simp only [UInt64.toNat, UInt64.add_def, BitVec.toNat_add] at h ⊢
    exact Nat.mod_eq_of_lt (by simp; omega)
  have hno : ¬(overflowChecks = true ∧ 2 ^ 64 ≤ n.toNat + (1 : UInt64).toNat) := fun hc => by
    have h1 : (1 : UInt64).toNat = 1 := rfl
    omega
  exact ⟨n + 1, by simp only [u64Add, if_neg hno], hsum⟩

/-! ## The task -/

/-- In every case the task pings at most `n_pings` times. Below `u64::MAX` it always returns,
    and when every ping succeeds it pings exactly `n_pings` times and reports success. -/
theorem pingTask_pings (overflowChecks : Bool) (name : String) (nPings : UInt64)
    (ping : ℕ → Except E Unit) :
    (∀ run, pingTask overflowChecks name nPings ping = some run → run.pings ≤ nPings.toNat) ∧
    (nPings.toNat < 2 ^ 64 - 1 → ∃ run, pingTask overflowChecks name nPings ping = some run) ∧
    (nPings.toNat < 2 ^ 64 - 1 → (∀ i, 1 ≤ i → i ≤ nPings.toNat → ping i = .ok ()) →
      pingTask overflowChecks name nPings ping =
        some ⟨nPings.toNat, "Pinging " ++ name ++ " successful", .ok ()⟩) := by
  refine ⟨fun run h => ?_, fun h => ?_, fun h hok => ?_⟩
  · simp only [pingTask, Option.bind_eq_bind, Option.bind_eq_some, Option.pure_def,
      Option.some.injEq] at h
    obtain ⟨b, hb, rfl⟩ := h
    have hb' : b.toNat ≤ nPings.toNat + 1 := by
      unfold u64Add at hb
      split at hb <;> cases hb
      simp only [UInt64.toNat, UInt64.add_def, BitVec.toNat_add]
      exact (Nat.mod_le _ _).trans (by simp)
    exact (pingLoop_pings_le ping 1 _).trans (by omega)
  · obtain ⟨b, hb, -⟩ := u64Add_one_of_lt overflowChecks h
    cases hrun : pingTask overflowChecks name nPings ping with
    | none => simp [pingTask, hb] at hrun
    | some run => exact ⟨run, rfl⟩
  · obtain ⟨b, hb, hbn⟩ := u64Add_one_of_lt overflowChecks h
    have hloop := pingLoop_of_ok ping 1 nPings.toNat fun j hj =>
      hok (1 + j) (by omega) (by omega)
    simp [pingTask, hb, hbn, hloop, finishMessage]

/-- At `n_pings = u64::MAX` the bound overflows: a release build wraps it to `0`, pings no
    endpoint and reports success, whatever the endpoint answers; a debug build panics. -/
theorem pingTask_max_overflows (name : String) (ping : ℕ → Except E Unit) :
    pingTask false name 18446744073709551615 ping =
      some ⟨0, "Pinging " ++ name ++ " successful", .ok ()⟩ ∧
    pingTask true name 18446744073709551615 ping = none :=
  ⟨rfl, rfl⟩

/-! ## The task below `u64::MAX` -/

/-- The loop succeeds iff every ping of its rounds does. -/
theorem pingLoop_result_ok_iff (ping : ℕ → Except E Unit) :
    ∀ (i k : ℕ), (pingLoop ping i k).2 = .ok () ↔ ∀ j < k, ping (i + j) = .ok ()
  | _, 0 => by simp [pingLoop]
  | i, k + 1 => by
    unfold pingLoop
    split
    · next e he =>
      simp only [reduceCtorEq, false_iff, not_forall]
      exact ⟨0, Nat.succ_pos k, by simp [he]⟩
    · next he =>
      rw [pingLoop_result_ok_iff ping (i + 1) k]
      constructor
      · intro h j hj
        cases j with
        | zero => exact he
        | succ j => simpa [Nat.add_assoc, Nat.add_comm 1] using h j (by omega)
      · intro h j hj
        simpa [Nat.add_assoc, Nat.add_comm 1] using h (j + 1) (by omega)

/-- A failed loop fails with the answer of one of its rounds. -/
theorem pingLoop_result_error (ping : ℕ → Except E Unit) {e : E} :
    ∀ (i k : ℕ), (pingLoop ping i k).2 = .error e → ∃ j < k, ping (i + j) = .error e
  | _, 0, h => by simp [pingLoop] at h
  | i, k + 1, h => by
    unfold pingLoop at h
    split at h
    · next e' he => exact ⟨0, Nat.succ_pos k, by simpa using he.trans (by simpa using h)⟩
    · obtain ⟨j, hj, hje⟩ := pingLoop_result_error ping (i + 1) k h
      exact ⟨j + 1, by omega, by simpa [Nat.add_assoc, Nat.add_comm 1] using hje⟩

/-- Below `u64::MAX` the task runs `n_pings` rounds. -/
theorem pingTask_of_lt (overflowChecks : Bool) (name : String) {nPings : UInt64}
    (h : nPings.toNat < 2 ^ 64 - 1) (ping : ℕ → Except E Unit) :
    pingTask overflowChecks name nPings ping =
      some ⟨(pingLoop ping 1 nPings.toNat).1, finishMessage name (pingLoop ping 1 nPings.toNat).2,
        (pingLoop ping 1 nPings.toNat).2⟩ := by
  obtain ⟨b, hb, hbn⟩ := u64Add_one_of_lt overflowChecks h
  simp [pingTask, hb, hbn]

/-! ## The commands over all endpoints

`ping`, `stats`, `containers list` and `containers prune` run one future per endpoint in a
`FuturesUnordered`, which yields their results in the order the futures complete, and collect
them into a `Result`, which stops at the first error. The completion order is the runtime's
choice: the model takes it as a `Completion`, any permutation, and the theorems hold for every
one. Connecting to the endpoints (`setup_endpoints`) is not under `src/`: the commands take the
endpoints it returns. -/

/-- The order in which a `FuturesUnordered` yields the results of its futures: a permutation of
    them, chosen by the runtime. -/
structure Completion where
  order : {α : Type} → List α → List α
  perm : ∀ {α : Type} (l : List α), (order l).Perm l

/-- Every future completing in the order it was pushed. -/
def Completion.inOrder : Completion := ⟨fun l => l, fun l => List.Perm.refl l⟩

section Endpoints

variable {Ep Cfg : Type}

/-- `endpoint`'s `endpoint_names`: `--endpoint_name`, else the name of every configured
    endpoint. -/
def endpointNames (endpointName : Option String) (configured : List (String × Cfg)) :
    List String :=
  match endpointName with
  | some ep => [ep]
  | none => configured.map Prod.fst

/-- The configurations `connect_to_endpoints` builds and passes to `setup_endpoints`: those of the
    configured endpoints whose name is listed, in the configuration's order. -/
def endpointConfigurations (configured : List (String × Cfg)) (endpointNames : List String) :
    List (String × Cfg) :=
  configured.filter fun c => endpointNames.contains c.1

/-- Without `--endpoint_name` every configured endpoint is connected; with it, exactly the
    configured endpoints of that name, none if no endpoint has it, and that is no error. -/
theorem endpointConfigurations_endpointNames (configured : List (String × Cfg)) (ep : String) :
    endpointConfigurations configured (endpointNames none configured) = configured ∧
      endpointConfigurations configured (endpointNames (some ep) configured) =
        configured.filter (·.1 = ep) := by
  refine ⟨List.filter_eq_self.mpr fun c hc => ?_, ?_⟩
  · simpa [endpointNames] using ⟨c.2, hc⟩
  · simp [endpointConfigurations, endpointNames]

/-- `ping`: one task per endpoint, their results collected in completion order by
    `collect::<Result<()>>()`, which stops at the first error. `none` is a panic. -/
def ping (sched : Completion) (overflowChecks : Bool) (nPings : UInt64) (endpoints : List Ep)
    (name : Ep → String) (answer : Ep → ℕ → Except E Unit) : Option (Except E Unit) :=
  ((sched.order endpoints).mapM fun ep => pingTask overflowChecks (name ep) nPings (answer ep)).map
    fun runs => (runs.mapM PingRun.result).map fun _ => ()

/-- Below `u64::MAX`, whatever order the tasks complete in, `ping` returns, and succeeds iff
    every endpoint answers each of its `n_pings` pings; a failure is the answer of some endpoint
    to one of them. -/
theorem ping_ok_iff_all_answer (sched : Completion) (overflowChecks : Bool) {nPings : UInt64}
    (hn : nPings.toNat < 2 ^ 64 - 1) (endpoints : List Ep) (name : Ep → String)
    (answer : Ep → ℕ → Except E Unit) :
    ∃ r, ping sched overflowChecks nPings endpoints name answer = some r ∧
      (r = .ok () ↔ ∀ ep ∈ endpoints, ∀ i, 1 ≤ i → i ≤ nPings.toNat → answer ep i = .ok ()) ∧
      ∀ e, r = .error e →
        ∃ ep ∈ endpoints, ∃ i, 1 ≤ i ∧ i ≤ nPings.toNat ∧ answer ep i = .error e := by
  simp only [ping, pingTask_of_lt overflowChecks _ hn, mapM_option_some, Option.map_some']
  have hmap : ∀ {α : Type} (x : Except E α), (x.map (fun _ => ()) = .ok () ↔ ∃ a, x = .ok a) ∧
      ∀ e, x.map (fun _ => ()) = .error e ↔ x = .error e :=
    fun x => by cases x <;> simp [Except.map]
  refine ⟨_, rfl, ?_, fun e he => ?_⟩
  · rw [(hmap _).1, mapM_ok_iff_forall]
    simp only [List.mem_map, forall_exists_index, and_imp, forall_apply_eq_imp_iff₂,
      (sched.perm endpoints).mem_iff]
    refine forall₂_congr fun ep _ => ?_
    rw [show ∀ x : Except E Unit, (∃ y, x = .ok y) ↔ x = .ok () from
      fun x => ⟨fun ⟨(), h⟩ => h, fun h => ⟨(), h⟩⟩, pingLoop_result_ok_iff]
    exact ⟨fun h i h₁ h₂ => by simpa [Nat.add_sub_cancel' h₁] using h (i - 1) (by omega),
      fun h j hj => h (1 + j) (by omega) (by omega)⟩
  · obtain ⟨run, hrun, hre⟩ := mapM_eq_error (((hmap _).2 e).mp he)
    obtain ⟨ep, hep, rfl⟩ := List.mem_map.mp hrun
    obtain ⟨j, hj, hje⟩ := pingLoop_result_error (answer ep) 1 nPings.toNat hre
    exact ⟨ep, (sched.perm endpoints).subset hep, 1 + j, by omega, by omega, hje⟩

/-- Two endpoints, each pinged twice and answering every ping. -/
theorem ping_ok_iff_all_answer_two :
    (2 : UInt64).toNat < 2 ^ 64 - 1 ∧
      ∃ r, ping Completion.inOrder false 2 [0, 1] (fun _ => "ep")
          (fun _ _ => (.ok () : Except Unit Unit)) = some r ∧
        (r = .ok () ↔ ∀ ep ∈ [0, 1], ∀ i, 1 ≤ i → i ≤ (2 : UInt64).toNat →
          (fun (_ : ℕ) (_ : ℕ) => (.ok () : Except Unit Unit)) ep i = .ok ()) ∧
        ∀ e, r = .error e → ∃ ep ∈ [0, 1], ∃ i, 1 ≤ i ∧ i ≤ (2 : UInt64).toNat ∧
          (fun (_ : ℕ) (_ : ℕ) => (.ok () : Except Unit Unit)) ep i = .error e := by
  refine ⟨?h, ping_ok_iff_all_answer Completion.inOrder false ?h [0, 1] _ _⟩
  decide

/-- `stats`: the endpoints' stats in completion order, and the message the bar finishes
    with. -/
def stats {S : Type} (sched : Completion) (endpoints : List Ep) (getStats : Ep → Except E S) :
    Except E (List S) × String :=
  match (sched.order endpoints).mapM getStats with
  | .error e => (.error e, "Fetching stats errored")
  | .ok data => (.ok data, "Fetching stats successful")

/-- Whatever order the endpoints answer in, `stats` returns iff every endpoint's stats do, and
    then prints one row per endpoint, the rows of the endpoints' stats up to order; the bar
    reports success iff it returns. -/
theorem stats_ok_iff {S : Type} (sched : Completion) (endpoints : List Ep)
    (getStats : Ep → Except E S) :
    ((∃ rows, (stats sched endpoints getStats).1 = .ok rows) ↔
        ∀ ep ∈ endpoints, ∃ s, getStats ep = .ok s) ∧
      ((stats sched endpoints getStats).2 = "Fetching stats successful" ↔
        ∃ rows, (stats sched endpoints getStats).1 = .ok rows) ∧
      ∀ rows, (stats sched endpoints getStats).1 = .ok rows →
        rows.Perm (endpoints.filterMap fun ep => (getStats ep).toOption) := by
  unfold stats
  cases hm : (sched.order endpoints).mapM getStats with
  | error e =>
    have hne : ¬∀ ep ∈ endpoints, ∃ s, getStats ep = .ok s := fun h => by
      obtain ⟨ep, hep, he⟩ := mapM_eq_error hm
      obtain ⟨s, hs⟩ := h ep ((sched.perm endpoints).subset hep)
      simp [hs] at he
    simp [hne]
  | ok data =>
    refine ⟨iff_of_true ⟨data, rfl⟩ fun ep hep => ?_, by simp, fun rows h => ?_⟩
    · exact mapM_ok_iff_forall.mp ⟨data, hm⟩ ep ((sched.perm endpoints).mem_iff.mpr hep)
    · cases h
      rw [mapM_eq_ok_filterMap hm]
      exact (sched.perm endpoints).filterMap _

/-! ## `containers list` and `containers prune` -/

section Containers

variable {Time C : Type} [LinearOrder Time]

/-- What `container_stats` reports of a container. -/
structure ContainerStat (Time : Type) where
  id : String
  image : String
  created : Time
  state : String
  status : String
  deriving DecidableEq

/-- `get_date_filter(name, matches)` of `endpoint.rs`: the flag parsed by
    `humantime::parse_rfc3339_weak` (`parseDate`), if it is given. -/
def getDateFilter (parseDate : String → Except E Time) : Option String → Except E (Option Time)
  | none => .ok none
  | some s => (parseDate s).map some

/-- The two date filters both commands apply: `--older_than` keeps the containers created before
    it, `--newer_than` those created after it. -/
def dateWindow (older newer : Option Time) (created : Time) : Bool :=
  ((older.map fun time => decide (created < time)).getD true) &&
    ((newer.map fun time => decide (time < created)).getD true)

/-- The filters of `containers list`. -/
def listFilter (listStopped : Bool) (filterImage : Option String) (older newer : Option Time)
    (stat : ContainerStat Time) : Bool :=
  (listStopped || stat.state != "exited") && ((filterImage.map (· == stat.image)).getD true) &&
    dateWindow older newer stat.created

/-- The filters of `containers prune`. -/
def pruneFilter (older newer : Option Time) (stat : ContainerStat Time) : Bool :=
  stat.state == "exited" && dateWindow older newer stat.created

/-- `containers list`: each endpoint's containers that pass the filters, with its name, the
    endpoints in completion order. -/
def containersList (sched : Completion) (parseDate : String → Except E Time) (listStopped : Bool)
    (filterImage olderThan newerThan : Option String) (endpoints : List Ep) (name : Ep → String)
    (containerStats : Ep → Except E (List (ContainerStat Time))) :
    Except E (List (String × ContainerStat Time)) := do
  let older ← getDateFilter parseDate olderThan
  let newer ← getDateFilter parseDate newerThan
  let data ← (sched.order endpoints).mapM fun ep =>
    (containerStats ep).map fun stats => (name ep, stats)
  pure (data.flatMap fun d =>
    (d.2.filter (listFilter listStopped filterImage older newer)).map fun stat => (d.1, stat))

/-- The `stats` of `containers prune`: for each endpoint, in completion order, its containers
    that pass the filters. -/
def pruneStats (sched : Completion) (parseDate : String → Except E Time)
    (olderThan newerThan : Option String) (endpoints : List Ep)
    (containerStats : Ep → Except E (List (ContainerStat Time))) :
    Except E (List (List (Ep × ContainerStat Time))) := do
  let older ← getDateFilter parseDate olderThan
  let newer ← getDateFilter parseDate newerThan
  (sched.order endpoints).mapM fun ep =>
    (containerStats ep).map fun stats => (stats.filter (pruneFilter older newer)).map (ep, ·)

/-- The errors of `containers prune`. -/
inductive Error (E : Type) where
  /-- An error of a call into the endpoint, `dialoguer` or `humantime`. -/
  | call (e : E)
  /-- "Failed to find existing container {id}". -/
  | notFound (id : String)
  deriving DecidableEq

/-- One deletion: `get_container_by_id`, an error if the container is gone, then `delete`. -/
def deleteContainer (getContainerById : Ep → String → Except E (Option C))
    (delete : C → Except E Unit) (d : Ep × ContainerStat Time) : Except (Error E) Unit := do
  let c ← (getContainerById d.1 d.2.id).mapError .call
  match c with
  | none => .error (.notFound d.2.id)
  | some c => (delete c).mapError .call

/-- What `containers prune` does: the prompt it shows, if it gets that far, the deletions it
    starts, and its result. -/
structure PruneRun (Ep Time E : Type) where
  prompt : Option String
  deletions : List (Ep × ContainerStat Time)
  result : Except (Error E) Unit

/-- `containers prune`: find the containers, ask "Really delete {n} Containers?" and, on yes,
    delete them all, the deletions collected in completion order. -/
def containersPrune (sched : Completion) (parseDate : String → Except E Time)
    (olderThan newerThan : Option String) (endpoints : List Ep)
    (containerStats : Ep → Except E (List (ContainerStat Time))) (confirm : String → Except E Bool)
    (getContainerById : Ep → String → Except E (Option C)) (delete : C → Except E Unit) :
    PruneRun Ep Time E :=
  match pruneStats sched parseDate olderThan newerThan endpoints containerStats with
  | .error e => ⟨none, [], .error (.call e)⟩
  | .ok stats =>
    let prompt := "Really delete " ++ toString stats.flatten.length ++ " Containers?"
    match confirm prompt with
    | .error e => ⟨some prompt, [], .error (.call e)⟩
    | .ok false => ⟨some prompt, [], .ok ()⟩
    | .ok true => ⟨some prompt, stats.flatten,
        ((sched.order stats.flatten).mapM (deleteContainer getContainerById delete)).map
          fun _ => ()⟩

variable (sched : Completion) (parseDate : String → Except E Time)
  (olderThan newerThan : Option String) (endpoints : List Ep)
  (containerStats : Ep → Except E (List (ContainerStat Time)))

/-- A row of `containers list` is a container of one of the endpoints, with that endpoint's
    name, passing the filters. -/
theorem containersList_eq_ok (listStopped : Bool) (filterImage : Option String)
    (name : Ep → String) {rows : List (String × ContainerStat Time)} :
    containersList sched parseDate listStopped filterImage olderThan newerThan endpoints name
        containerStats = .ok rows ↔
      ∃ older newer data, getDateFilter parseDate olderThan = .ok older ∧
        getDateFilter parseDate newerThan = .ok newer ∧
        ((sched.order endpoints).mapM fun ep =>
          (containerStats ep).map fun stats => (name ep, stats)) = .ok data ∧
        rows = data.flatMap fun d =>
          (d.2.filter (listFilter listStopped filterImage older newer)).map fun stat => (d.1, stat) := by
  unfold containersList
  cases getDateFilter parseDate olderThan <;> cases getDateFilter parseDate newerThan <;>
    cases (sched.order endpoints).mapM fun ep => (containerStats ep).map fun stats => (name ep, stats)
  all_goals simp [bind, Except.bind, pure, Except.pure, eq_comm]

theorem pruneStats_eq_ok {stats : List (List (Ep × ContainerStat Time))} :
    pruneStats sched parseDate olderThan newerThan endpoints containerStats = .ok stats ↔
      ∃ older newer, getDateFilter parseDate olderThan = .ok older ∧
        getDateFilter parseDate newerThan = .ok newer ∧
        ((sched.order endpoints).mapM fun ep => (containerStats ep).map fun ss =>
          (ss.filter (pruneFilter older newer)).map (ep, ·)) = .ok stats := by
  unfold pruneStats
  cases getDateFilter parseDate olderThan <;> cases getDateFilter parseDate newerThan <;>
    simp [bind, Except.bind]

/-- The containers `containers prune` finds, flattened: for each endpoint, in the order `order`
    takes them, its containers that pass `pruneFilter`. -/
theorem flatten_pruneStats {stats : List (List (Ep × ContainerStat Time))} {older newer : Option Time}
    (h : ((sched.order endpoints).mapM fun ep => (containerStats ep).map fun ss =>
      (ss.filter (pruneFilter older newer)).map (ep, ·)) = .ok stats) :
    stats.flatten = (sched.order endpoints).flatMap fun ep =>
      (((containerStats ep).toOption.map fun ss => (ss.filter (pruneFilter older newer)).map (ep, ·))).getD [] := by
  rw [List.flatten_eq_flatMap, mapM_eq_ok_flatMap h id]
  refine List.flatMap_congr fun ep _ => ?_
  cases containerStats ep <;> rfl

/-- What `containers prune` deletes: the exited containers an endpoint reported, inside the date
    window. -/
theorem mem_flatten_pruneStats {stats : List (List (Ep × ContainerStat Time))}
    (h : pruneStats sched parseDate olderThan newerThan endpoints containerStats = .ok stats)
    {d : Ep × ContainerStat Time} (hd : d ∈ stats.flatten) :
    d.1 ∈ endpoints ∧ (∃ ss, containerStats d.1 = .ok ss ∧ d.2 ∈ ss) ∧ d.2.state = "exited" ∧
      ∃ older newer, getDateFilter parseDate olderThan = .ok older ∧
        getDateFilter parseDate newerThan = .ok newer ∧ dateWindow older newer d.2.created = true := by
  obtain ⟨older, newer, ho, hn, hm⟩ := (pruneStats_eq_ok sched parseDate olderThan newerThan
    endpoints containerStats).mp h
  rw [flatten_pruneStats sched endpoints containerStats hm, List.mem_flatMap] at hd
  obtain ⟨ep, hep, hd⟩ := hd
  cases hcs : containerStats ep with
  | error e => simp [hcs, Except.toOption] at hd
  | ok ss =>
    simp only [hcs, Except.toOption, Option.map_some', Option.getD_some, List.mem_map,
      List.mem_filter] at hd
    obtain ⟨s, ⟨hs, hf⟩, rfl⟩ := hd
    simp only [pruneFilter, Bool.and_eq_true, beq_iff_eq] at hf
    exact ⟨(sched.perm endpoints).subset hep, ⟨ss, hcs, hs⟩, hf.1, older, newer, ho, hn, hf.2⟩

/-- What `containers prune` can do: delete nothing, or, once the user confirmed the prompt, delete
    every container it found. -/
theorem containersPrune_deletions (confirm : String → Except E Bool)
    (getContainerById : Ep → String → Except E (Option C)) (delete : C → Except E Unit) :
    (containersPrune sched parseDate olderThan newerThan endpoints containerStats confirm
        getContainerById delete).deletions = [] ∨
      ∃ stats, pruneStats sched parseDate olderThan newerThan endpoints containerStats = .ok stats ∧
        confirm ("Really delete " ++ toString stats.flatten.length ++ " Containers?") = .ok true ∧
        (containersPrune sched parseDate olderThan newerThan endpoints containerStats confirm
          getContainerById delete).deletions = stats.flatten ∧
        (containersPrune sched parseDate olderThan newerThan endpoints containerStats confirm
          getContainerById delete).prompt =
            some ("Really delete " ++ toString stats.flatten.length ++ " Containers?") := by
  unfold containersPrune
  split
  · exact .inl rfl
  · next stats hs =>
    dsimp only
    split
    · exact .inl rfl
    · exact .inl rfl
    · next hc => exact .inr ⟨stats, hs, hc, rfl, rfl⟩

/-- Whatever order the endpoints and the deletions complete in, `containers prune` deletes only
    exited containers that a connected endpoint reported, created inside the date window, and
    only once the user confirmed the prompt, which names the number of containers it deletes. -/
theorem containersPrune_deletes_confirmed_exited (confirm : String → Except E Bool)
    (getContainerById : Ep → String → Except E (Option C)) (delete : C → Except E Unit) :
    (∀ d ∈ (containersPrune sched parseDate olderThan newerThan endpoints containerStats confirm
        getContainerById delete).deletions,
      d.1 ∈ endpoints ∧ (∃ ss, containerStats d.1 = .ok ss ∧ d.2 ∈ ss) ∧ d.2.state = "exited" ∧
        ∃ older newer, getDateFilter parseDate olderThan = .ok older ∧
          getDateFilter parseDate newerThan = .ok newer ∧ dateWindow older newer d.2.created) ∧
    ((containersPrune sched parseDate olderThan newerThan endpoints containerStats confirm
        getContainerById delete).deletions ≠ [] →
      ∃ n, n = (containersPrune sched parseDate olderThan newerThan endpoints containerStats
          confirm getContainerById delete).deletions.length ∧
        (containersPrune sched parseDate olderThan newerThan endpoints containerStats confirm
          getContainerById delete).prompt =
            some ("Really delete " ++ toString n ++ " Containers?") ∧
        confirm ("Really delete " ++ toString n ++ " Containers?") = .ok true) := by
  rcases containersPrune_deletions sched parseDate olderThan newerThan endpoints containerStats
    confirm getContainerById delete with h | ⟨stats, hs, hc, hd, hp⟩
  · simp [h]
  · rw [hd, hp]
    exact ⟨fun d hd' => mem_flatten_pruneStats sched parseDate olderThan newerThan endpoints
      containerStats hs hd', fun _ => ⟨_, rfl, rfl, hc⟩⟩

/-- `containers list --list_stopped`, with the same date flags, shows among its exited containers
    exactly those `containers prune` finds to delete, whatever order the endpoints answer in for
    either command. -/
theorem containersList_exited_perm_pruneStats (sched' : Completion) (name : Ep → String)
    {rows : List (String × ContainerStat Time)} {stats : List (List (Ep × ContainerStat Time))}
    (hl : containersList sched parseDate true none olderThan newerThan endpoints name
      containerStats = .ok rows)
    (hp : pruneStats sched' parseDate olderThan newerThan endpoints containerStats = .ok stats) :
    (rows.filter fun r => r.2.state == "exited").Perm
      (stats.flatten.map fun d => (name d.1, d.2)) := by
  obtain ⟨older, newer, data, ho, hn, hm, rfl⟩ := (containersList_eq_ok sched parseDate olderThan
    newerThan endpoints containerStats true none name).mp hl
  obtain ⟨older', newer', ho', hn', hm'⟩ := (pruneStats_eq_ok sched' parseDate olderThan newerThan
    endpoints containerStats).mp hp
  obtain rfl : older' = older := Except.ok.inj (ho'.symm.trans ho)
  obtain rfl : newer' = newer := Except.ok.inj (hn'.symm.trans hn)
  let F : Ep → List (String × ContainerStat Time) := fun ep =>
    ((containerStats ep).toOption.map fun ss =>
      (ss.filter (pruneFilter older' newer')).map (name ep, ·)).getD []
  have hlist : ((data.flatMap fun d => (d.2.filter (listFilter true none older' newer')).map
      fun stat => (d.1, stat)).filter fun r => r.2.state == "exited") =
      (sched.order endpoints).flatMap F := by
    rw [mapM_eq_ok_flatMap hm, List.filter_flatMap]
    refine congrArg _ (funext fun ep => ?_)
    have hP : pruneFilter older' newer' = fun s => s.state == "exited" &&
        dateWindow older' newer' s.created := rfl
    cases hcs : containerStats ep <;>
      simp [F, hcs, hP, Except.toOption, Except.map, List.filter_map, List.filter_filter,
        Function.comp_def, listFilter, Bool.and_comm]
  have hprune : stats.flatten.map (fun d => (name d.1, d.2)) = (sched'.order endpoints).flatMap F := by
    rw [flatten_pruneStats sched' endpoints containerStats hm', List.map_flatMap]
    refine congrArg _ (funext fun ep => ?_)
    cases hcs : containerStats ep <;> simp [F, hcs, Except.toOption, List.map_map, Function.comp_def]
  rw [hlist, hprune]
  exact ((sched.perm endpoints).flatMap_right F).trans ((sched'.perm endpoints).flatMap_right F).symm

end Containers

/-- One endpoint with an exited and a running container, and no date flag. -/
theorem containersList_exited_perm_pruneStats_sample :
    containersList Completion.inOrder (fun _ => (.error () : Except Unit ℕ)) true none none none [0]
        (fun _ => "ep") (fun _ => .ok [⟨"c1", "img", 1, "exited", "Exited"⟩,
          ⟨"c2", "img", 2, "running", "Up"⟩]) =
      .ok [("ep", ⟨"c1", "img", 1, "exited", "Exited"⟩), ("ep", ⟨"c2", "img", 2, "running", "Up"⟩)] ∧
    pruneStats Completion.inOrder (fun _ => (.error () : Except Unit ℕ)) none none [0]
        (fun _ => .ok [⟨"c1", "img", 1, "exited", "Exited"⟩, ⟨"c2", "img", 2, "running", "Up"⟩]) =
      .ok [[(0, ⟨"c1", "img", 1, "exited", "Exited"⟩)]] ∧
    ([("ep", ⟨"c1", "img", 1, "exited", "Exited"⟩), ("ep", ⟨"c2", "img", 2, "running", "Up"⟩)].filter
        fun r : String × ContainerStat ℕ => r.2.state == "exited").Perm
      ([[(0, ⟨"c1", "img", 1, "exited", "Exited"⟩)]].flatten.map
        fun d : ℕ × ContainerStat ℕ => ((fun _ => "ep") d.1, d.2)) := by
  refine ⟨?hl, ?hp, containersList_exited_perm_pruneStats Completion.inOrder _ none none [0] _
    Completion.inOrder _ ?hl ?hp⟩ <;> rfl

end Endpoints

end Butido.Commands.Endpoint
