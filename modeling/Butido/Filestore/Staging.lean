import Mathlib.Data.List.Infix

/-!
# The staging store (`src/filestore/staging.rs`)

`StagingStore::write_files_from_tar_stream` concatenates a byte stream, lists the paths of the
TAR entries, unpacks the archive under the store root, then calls `load_from_path` on
`root.join(path)` for each entry that is not a directory, collecting the loaded paths and
stopping at the first failure.

The TAR format, the unpacker, the disk and `FileStoreImpl::load_from_path` are not under
`src/`; they are the fields of `Env`. The index is abstract (`Idx`): `load_from_path` takes
the store by `&mut self`, so the model lets it return a new index also when it fails. Paths are
lists of Unix path components, with `Path::join` as Rust defines it: an absolute path replaces
the base. Errors carry the contexts the code attaches, innermost first.

Nothing checks an entry path: an absolute one is handed to `load_from_path` as it is
(`writeFiles_absolute_entry_ok`), and a failing load undoes none of the loads before it
(`writeFiles_load_failure_keeps_loaded`).
-/

namespace Butido.Filestore.Staging

/-! ## Paths -/

/-- A component of a Unix `std::path::Path`. -/
inductive Component where
  | rootDir
  | curDir
  | parentDir
  | normal (s : String)
  deriving DecidableEq

/-- `PathBuf`, as its components. -/
structure Path where
  components : List Component
  deriving DecidableEq

/-- `Path::is_absolute` on Unix: the path starts at the root directory. -/
def Path.isAbsolute (p : Path) : Bool := p.components.head? == some .rootDir

/-- `Path::join`: an absolute `p` replaces the base, a relative one is appended to it. -/
def Path.join (base p : Path) : Path :=
  if p.isAbsolute then p else ⟨base.components ++ p.components⟩

/-- `p` lies inside `root`: it is `root` followed by components that neither climb out (`..`)
    nor start again at `/`. -/
def Path.IsInside (p root : Path) : Prop :=
  root.components <+: p.components ∧
    ∀ c ∈ p.components.drop root.components.length, c ≠ .parentDir ∧ c ≠ .rootDir

instance (p root : Path) : Decidable (p.IsInside root) :=
  inferInstanceAs (Decidable (_ ∧ _))

/-! ## The store -/

/-- `FileStoreImpl`: the root directory and the in-memory artifact index. -/
structure FileStoreImpl (Idx : Type) where
  root : Path
  index : Idx

/-- The contexts the code attaches to an error. -/
inductive Context where
  /-- "Fetching entries from tar archive". -/
  | fetchingEntries
  /-- "Getting path of TAR entry". -/
  | gettingPath
  /-- "Collecting outputs of TAR archive". -/
  | collectingOutputs
  /-- "Unpacking TAR". -/
  | unpacking
  /-- "Concatenating the output bytestream". -/
  | concatenating
  /-- "Loading from path: {fullpath}". -/
  | loadingFromPath (fullpath : Path)
  deriving DecidableEq

/-- An `anyhow::Error`: the cause and its contexts, innermost first. -/
abbrev Error (E : Type) := E × List Context

/-- `.context(c)`: add `c` to the error's contexts. -/
def withContext {E α : Type} (c : Context) : Except (Error E) α → Except (Error E) α :=
  Except.mapError fun e => (e.1, e.2 ++ [c])

/-- An error with no context yet. -/
def raw {E α : Type} (x : Except E α) : Except (Error E) α := x.mapError (·, [])

/-- What `write_files_from_tar_stream` uses that is not under `src/`. -/
structure Env (Idx Art E : Type) where
  /-- `archive.entries()`: the entries, each read (`ent?`) and asked its `path()`. -/
  entries : List UInt8 → Except E (List (Except E (Except E Path)))
  /-- `tar::Archive::unpack(dest)`. -/
  unpack : List UInt8 → Path → Except E Unit
  /-- `is_dir()`, on the disk after the unpack. -/
  isDir : Path → Bool
  /-- `FileStoreImpl::load_from_path(&mut self, fullpath)`, given the root and the index. -/
  loadFromPath : Path → Idx → Path → Idx × Except E Art
  /-- `Artifact::path`. -/
  artifactPath : Art → Path

variable {Idx Art E : Type} (env : Env Idx Art E)

/-- `try_concat`: the chunks of the stream joined, or its first error. -/
def tryConcat : List (Except E (List UInt8)) → Except E (List UInt8)
  | [] => .ok []
  | .error e :: _ => .error e
  | .ok chunk :: rest => (tryConcat rest).map (chunk ++ ·)

/-- The closure passed to `and_then`: the entry paths, collected before the unpack. -/
def entryPaths (dest : Path) (bytes : List UInt8) : Except (Error E) (List Path) := do
  let ents ← withContext .fetchingEntries (raw (env.entries bytes))
  let outputs ← withContext .collectingOutputs <| ents.mapM fun ent => do
    let entry ← raw ent
    withContext .gettingPath (raw entry)
  withContext .unpacking (raw (env.unpack bytes dest))
  pure outputs

/-- `stream.try_concat().await.and_then(..).context(..)?`: the archive's entry paths, once it
    is unpacked under `root`. -/
def readArchive (root : Path) (stream : List (Except E (List UInt8))) :
    Except (Error E) (List Path) :=
  withContext .concatenating ((raw (tryConcat stream)).bind (entryPaths env root))

/-- The paths the `filter_map` closure loads: `root.join(path)` of the entries that are not
    directories, in archive order. -/
def nonDirFullPaths (root : Path) (outputs : List Path) : List Path :=
  outputs.filterMap fun path =>
    let fullpath := root.join path
    if env.isDir fullpath then none else some fullpath

/-- The `load_from_path` calls and the `collect::<Result<Vec<_>>>()`: each load may change the
    index, the first failure stops the loop, and nothing is rolled back. -/
def loadAll (root : Path) : Idx → List Path → Idx × Except (Error E) (List Path)
  | idx, [] => (idx, .ok [])
  | idx, fullpath :: rest =>
    match env.loadFromPath root idx fullpath with
    | (idx', .error e) => (idx', .error (e, [.loadingFromPath fullpath]))
    | (idx', .ok art) =>
      match loadAll root idx' rest with
      | (idx'', .ok ps) => (idx'', .ok (env.artifactPath art :: ps))
      | (idx'', .error e) => (idx'', .error e)

/-- `StagingStore::write_files_from_tar_stream`: the store as the call leaves it, and the
    result. -/
def writeFilesFromTarStream (store : FileStoreImpl Idx) (stream : List (Except E (List UInt8))) :
    FileStoreImpl Idx × Except (Error E) (List Path) :=
  match readArchive env store.root stream with
  | .error e => (store, .error e)
  | .ok outputs =>
    let (index, r) := loadAll env store.root store.index (nonDirFullPaths env store.root outputs)
    ({ store with index }, r)

/-! ## Concrete archives

The runs below take the index to be the list of loaded paths, an archive to be given by its
entry paths, none of them a directory, and the store root to be `/staging`. -/

/-- Modelled from the spec: the index maps paths to artifacts; `load_from_path` indexes a
    readable file under its path and returns that path as the artifact's, and fails on an
    unreadable one, leaving the index as it was. -/
def loadIntoIndex (readable : Path → Bool) (_ : Path) (idx : List Path) (p : Path) :
    List Path × Except Unit Path :=
  if readable p then (idx ++ [p], .ok p) else (idx, .error ())

/-- An archive with the entry paths `paths`, none a directory, that unpacks without error, its
    files loaded by `loadIntoIndex readable`. -/
def archiveEnv (paths : List Path) (readable : Path → Bool) : Env (List Path) Path Unit where
  entries _ := .ok (paths.map fun p => .ok (.ok p))
  unpack _ _ := .ok ()
  isDir _ := false
  loadFromPath := loadIntoIndex readable
  artifactPath := id

/-- `/staging`, the store root of the runs below. -/
def stagingRoot : Path := ⟨[.rootDir, .normal "staging"]⟩

/-- An archive of the entries `a` and `b`, where `/staging/b` cannot be loaded. -/
def twoEntryArchive : Env (List Path) Path Unit :=
  archiveEnv [⟨[.normal "a"]⟩, ⟨[.normal "b"]⟩] fun p => p != stagingRoot.join ⟨[.normal "b"]⟩

/-- An archive of the one entry `e`, which loads. -/
def oneEntryArchive (e : Path) : Env (List Path) Path Unit := archiveEnv [e] fun _ => true

/-! ## A failed call keeps the loads before the failure -/

/-- A failed load loop: the loads of a prefix succeeded, the next one failed, and the index is
    what that failing load left. -/
theorem loadAll_error {root : Path} :
    ∀ {idx : Idx} {L : List Path} {idx' : Idx} {e : Error E},
      loadAll env root idx L = (idx', .error e) →
      ∃ pre q post idx₁ ps e', L = pre ++ q :: post ∧ loadAll env root idx pre = (idx₁, .ok ps) ∧
        env.loadFromPath root idx₁ q = (idx', .error e')
  | _, [], _, _, h => by simp [loadAll] at h
  | idx, p :: L, idx', e, h => by
    unfold loadAll at h
    rcases hp : env.loadFromPath root idx p with ⟨idx₁, _ | art⟩
    · simp only [hp, Prod.mk.injEq] at h
      exact ⟨[], p, L, idx, [], _, rfl, rfl, by rw [hp, h.1]⟩
    · rcases hL : loadAll env root idx₁ L with ⟨idx₂, e₂ | ps⟩
      · simp only [hp, hL, Prod.mk.injEq] at h
        obtain ⟨pre, q, post, idx₃, ps, e', rfl, hpre, hq⟩ := loadAll_error (h.1 ▸ hL)
        exact ⟨p :: pre, q, post, idx₃, env.artifactPath art :: ps, e', rfl,
          by simp [loadAll, hp, hpre], hq⟩
      · simp [hp, hL] at h

/-- If `write_files_from_tar_stream` fails, either the archive could not be read or unpacked and
    the store is unchanged, or the loads of the first non-directory entries succeeded, the next
    failed, and the index is what they left: nothing is rolled back. -/
theorem writeFiles_error_index {store store' : FileStoreImpl Idx}
    {stream : List (Except E (List UInt8))} {e : Error E}
    (h : writeFilesFromTarStream env store stream = (store', .error e)) :
    store'.root = store.root ∧
    ((∃ e', readArchive env store.root stream = .error e') ∧ store'.index = store.index ∨
      ∃ outputs pre q post idx₁ ps e', readArchive env store.root stream = .ok outputs ∧
        nonDirFullPaths env store.root outputs = pre ++ q :: post ∧
        loadAll env store.root store.index pre = (idx₁, .ok ps) ∧
        env.loadFromPath store.root idx₁ q = (store'.index, .error e')) := by
  unfold writeFilesFromTarStream at h
  split at h
  · next e' he' =>
    obtain ⟨rfl, -⟩ := Prod.mk.inj h
    exact ⟨rfl, .inl ⟨⟨e', he'⟩, rfl⟩⟩
  · next outputs ho =>
    rcases hl : loadAll env store.root store.index (nonDirFullPaths env store.root outputs) with
      ⟨idx', r⟩
    simp only [hl, Prod.mk.injEq] at h
    obtain ⟨rfl, rfl⟩ := h
    obtain ⟨pre, q, post, idx₁, ps, e', hsplit, hpre, hq⟩ := loadAll_error env hl
    exact ⟨rfl, .inr ⟨outputs, pre, q, post, idx₁, ps, e', ho, hsplit, hpre, hq⟩⟩

/-- The run on `twoEntryArchive`: the call fails in the load of `b`, with the index that of
    `a`'s load. -/
theorem writeFiles_error_index_second_load :
    writeFilesFromTarStream twoEntryArchive ⟨stagingRoot, []⟩ [.ok []] =
      (⟨stagingRoot, [stagingRoot.join ⟨[.normal "a"]⟩]⟩,
        .error ((), [.loadingFromPath (stagingRoot.join ⟨[.normal "b"]⟩)])) ∧
    stagingRoot = stagingRoot ∧
    ((∃ e', readArchive twoEntryArchive stagingRoot [.ok []] = .error e') ∧
        [stagingRoot.join ⟨[.normal "a"]⟩] = ([] : List Path) ∨
      ∃ outputs pre q post idx₁ ps e',
        readArchive twoEntryArchive stagingRoot [.ok []] = .ok outputs ∧
        nonDirFullPaths twoEntryArchive stagingRoot outputs = pre ++ q :: post ∧
        loadAll twoEntryArchive stagingRoot [] pre = (idx₁, .ok ps) ∧
        twoEntryArchive.loadFromPath stagingRoot idx₁ q =
          ([stagingRoot.join ⟨[.normal "a"]⟩], .error e')) := by
  refine ⟨?h, writeFiles_error_index _ ?h⟩
  rfl

/-- The same run: the call returns `Err`, and the index is no longer the empty index it
    started from. -/
theorem writeFiles_load_failure_keeps_loaded :
    ∃ store' e, writeFilesFromTarStream twoEntryArchive ⟨stagingRoot, []⟩ [.ok []] =
      (store', .error e) ∧ store'.index ≠ [] :=
  ⟨_, _, rfl, by decide⟩

/-! ## The paths handed to `load_from_path` -/

/-- The loop calls `load_from_path` on the paths of its list only: changing it elsewhere does
    not change the run. -/
theorem loadAll_congr {root : Path} {g : Path → Idx → Path → Idx × Except E Art} :
    ∀ {idx : Idx} {L : List Path}, (∀ idx, ∀ q ∈ L, g root idx q = env.loadFromPath root idx q) →
      loadAll { env with loadFromPath := g } root idx L = loadAll env root idx L
  | _, [], _ => rfl
  | idx, p :: L, hg => by
    have hL : ∀ idx', loadAll { env with loadFromPath := g } root idx' L = loadAll env root idx' L :=
      fun _ => loadAll_congr fun idx q hq => hg idx q (List.mem_cons_of_mem _ hq)
    simp only [loadAll, hg idx p (List.mem_cons_self _ _), hL]

/-- A relative path without `..` joined to the root stays inside it. -/
theorem join_isInside {root e : Path}
    (he : ∀ c ∈ e.components, c ≠ .parentDir ∧ c ≠ .rootDir) : (root.join e).IsInside root := by
  have habs : e.isAbsolute = false := by
    rcases hc : e.components with _ | ⟨c, cs⟩
    · simp [Path.isAbsolute, hc]
    · simpa [Path.isAbsolute, hc] using (he c (by simp [hc])).2
  simp only [Path.join, habs, Bool.false_eq_true, if_false, Path.IsInside, List.prefix_append,
    List.drop_left, true_and]
  exact he

/-- The paths `write_files_from_tar_stream` hands to `load_from_path`, once the archive is read
    and unpacked, are `root.join(e)` for its non-directory entries `e`: the run does not depend
    on `load_from_path` at any other path, and each lies inside the root when `e` is relative
    without `..`. No entry path is checked. -/
theorem writeFiles_loads_joined_paths (store : FileStoreImpl Idx)
    (stream : List (Except E (List UInt8))) (outputs : List Path)
    (ho : readArchive env store.root stream = .ok outputs) :
    (∀ g : Path → Idx → Path → Idx × Except E Art,
      (∀ idx, ∀ q ∈ nonDirFullPaths env store.root outputs,
        g store.root idx q = env.loadFromPath store.root idx q) →
      writeFilesFromTarStream { env with loadFromPath := g } store stream =
        writeFilesFromTarStream env store stream) ∧
    ∀ q ∈ nonDirFullPaths env store.root outputs, ∃ e ∈ outputs, q = store.root.join e ∧
      ((∀ c ∈ e.components, c ≠ .parentDir ∧ c ≠ .rootDir) → q.IsInside store.root) := by
  refine ⟨fun g hg => ?_, fun q hq => ?_⟩
  · have ho' : readArchive { env with loadFromPath := g } store.root stream = .ok outputs := ho
    simp only [writeFilesFromTarStream, ho, ho']
    rw [show nonDirFullPaths { env with loadFromPath := g } store.root outputs =
      nonDirFullPaths env store.root outputs from rfl, loadAll_congr env hg]
  · obtain ⟨e, he, hq⟩ := List.mem_filterMap.mp hq
    by_cases hd : env.isDir (store.root.join e) = true
    · simp [hd] at hq
    · simp only [hd, Bool.false_eq_true, if_false, Option.some.injEq] at hq
      subst hq
      exact ⟨e, he, rfl, join_isInside⟩

/-- The run on the relative entry `a`: it loads `/staging/a`, which lies inside the root. -/
theorem writeFiles_loads_joined_paths_relative :
    readArchive (oneEntryArchive ⟨[.normal "a"]⟩) stagingRoot [.ok []] = .ok [⟨[.normal "a"]⟩] ∧
    (∀ g : Path → List Path → Path → List Path × Except Unit Path,
      (∀ idx, ∀ q ∈ nonDirFullPaths (oneEntryArchive ⟨[.normal "a"]⟩) stagingRoot
          [⟨[.normal "a"]⟩],
        g stagingRoot idx q = (oneEntryArchive ⟨[.normal "a"]⟩).loadFromPath stagingRoot idx q) →
      writeFilesFromTarStream { oneEntryArchive ⟨[.normal "a"]⟩ with loadFromPath := g }
          ⟨stagingRoot, []⟩ [.ok []] =
        writeFilesFromTarStream (oneEntryArchive ⟨[.normal "a"]⟩) ⟨stagingRoot, []⟩ [.ok []]) ∧
    ∀ q ∈ nonDirFullPaths (oneEntryArchive ⟨[.normal "a"]⟩) stagingRoot [⟨[.normal "a"]⟩],
      ∃ e ∈ [(⟨[.normal "a"]⟩ : Path)], q = stagingRoot.join e ∧
        ((∀ c ∈ e.components, c ≠ .parentDir ∧ c ≠ .rootDir) → q.IsInside stagingRoot) := by
  refine ⟨?h, writeFiles_loads_joined_paths _ ⟨stagingRoot, []⟩ _ _ ?h⟩
  rfl

/-- An archive whose one entry is `/etc/passwd`: the call succeeds, hands `/etc/passwd` itself
    to `load_from_path`, indexes it and returns it, though it is not inside `/staging`. -/
theorem writeFiles_absolute_entry_ok :
    nonDirFullPaths (oneEntryArchive ⟨[.rootDir, .normal "etc", .normal "passwd"]⟩) stagingRoot
        [⟨[.rootDir, .normal "etc", .normal "passwd"]⟩] =
      [⟨[.rootDir, .normal "etc", .normal "passwd"]⟩] ∧
    writeFilesFromTarStream (oneEntryArchive ⟨[.rootDir, .normal "etc", .normal "passwd"]⟩)
        ⟨stagingRoot, []⟩ [.ok []] =
      (⟨stagingRoot, [⟨[.rootDir, .normal "etc", .normal "passwd"]⟩]⟩,
        .ok [⟨[.rootDir, .normal "etc", .normal "passwd"]⟩]) ∧
    ¬ Path.IsInside ⟨[.rootDir, .normal "etc", .normal "passwd"]⟩ stagingRoot :=
  ⟨rfl, rfl, by decide⟩

end Butido.Filestore.Staging
