import OpenComputer.Api

/-!
# The handlers of `http_server.rs`, phase by phase

Every handler is cut where it awaits: a critical section under the registry lock, the blocking
work it hands to `spawn_blocking`, and, for `run_background`, a second critical section. Each
phase is a function here, under the handler's name; the registry's step relation
(`OpenComputer.World`) runs the phases of many calls interleaved, and the function named after
the handler runs its phases in a row, with the blocking work's answer as an argument.

* the critical sections change the session table only through `HashMap.getMut` with one of the
  mutations `Session.touch`, `Session.extendEnv`, `Session.setCwd`, `Session.clearBackground`,
  `Session.track`, through `insert` (`create_session`) and through `remove` (`delete_session`);
* `lookupTouch` is the first phase the sandbox handlers share: `get_mut`, `NOT_FOUND` when the
  session is missing, `last_used = Instant::now()`, and the values the next phase needs.
-/

namespace OpenComputer

/-! ### What a critical section writes into a session -/

namespace Session

/-- `session.last_used = Instant::now()`. -/
def touch (now : Instant) (s : Session) : Session := { s with lastUsed := now }

@[simp] lemma touch_sandboxRoot (now : Instant) (s : Session) : (s.touch now).sandboxRoot = s.sandboxRoot := rfl

@[simp] lemma touch_ports (now : Instant) (s : Session) : (s.touch now).ports = s.ports := rfl

/-- `set_env`: `session.env.extend(req.env); session.last_used = Instant::now()`. -/
def extendEnv (env : Env) (now : Instant) (s : Session) : Session :=
  { s with env := s.env.extend env, lastUsed := now }

/-- `set_cwd`: `session.cwd = req.cwd; session.last_used = Instant::now()`. -/
def setCwd (cwd : String) (now : Instant) (s : Session) : Session :=
  { s with cwd := cwd, lastUsed := now }

/-- `kill_background`: `last_used = Instant::now()`, `background_pids.clear()`,
`ports.clear()`. -/
def clearBackground (now : Instant) (s : Session) : Session :=
  { s with lastUsed := now, backgroundPids := [], ports := [] }

/-- `run_background`'s tracking step: `background_pids.push(pid)`, and `ports.push(port)` unless
`ports.contains(&port)`. -/
def track (pid : Pid) (port : Port) (s : Session) : Session :=
  { s with backgroundPids := s.backgroundPids ++ [pid],
           ports := if port ∈ s.ports then s.ports else s.ports ++ [port] }

end Session

/-- The first phase of the handlers that work in a session's sandbox: under the write lock,
`get_mut(&id).ok_or((NOT_FOUND, "Session not found"))?`, `last_used = Instant::now()`, and the
values `take` reads from the session. -/
def lookupTouch {α : Type} (m : Sessions) (now : Instant) (id : String) (take : Session → α) :
    Sessions × Except HandlerError α :=
  match m.getMut id (Session.touch now) with
  | none => (m, .error sessionNotFound)
  | some (s, m') => (m', .ok (take (s.touch now)))

section LookupTouch

variable {α : Type} (m : Sessions) (now : Instant) (id : String) (take : Session → α)

lemma lookupTouch_of_get_some {s : Session} (h : m.get id = some s) :
    lookupTouch m now id take = (m.modify id (Session.touch now), .ok (take (s.touch now))) := by
  simp [lookupTouch, HashMap.getMut, h]

lemma lookupTouch_of_get_none (h : m.get id = none) :
    lookupTouch m now id take = (m, .error sessionNotFound) := by
  simp [lookupTouch, HashMap.getMut, h]

end LookupTouch

/-- `SessionInfo` of a session at the clock reading `now`, as `list_sessions` and
`get_session` build it. -/
def sessionInfo (now : Instant) (s : Session) : SessionInfo :=
  { id := s.id, env := s.env, cwd := s.cwd,
    ageSecs := (durationSince now s.createdAt).asSecs,
    idleSecs := (durationSince now s.lastUsed).asSecs,
    previewUrl := s.previewUrl, ports := s.ports, status := s.status.lower }

/-! ### `create_session` -/

namespace createSession

/-- `format!("https://{}.{}", session_id, domain)` when a preview domain is configured. -/
def previewUrl (previewDomain : Option String) (sessionId : String) : Option String :=
  previewDomain.map fun domain => "https://" ++ sessionId ++ "." ++ domain

/-- The `Session` literal; `t₁` and `t₂` are its two readings of `Instant::now()`, for
`created_at` and then `last_used`. -/
def session (sessionId : String) (sandboxRoot : PathBuf) (req : CreateSessionRequest)
    (previewUrl : Option String) (t₁ t₂ : Instant) : Session :=
  { id := sessionId, sandboxRoot := sandboxRoot, env := req.env, cwd := "/",
    createdAt := t₁, lastUsed := t₂, previewUrl := previewUrl, ports := [],
    status := .running, backgroundPids := [] }

/-- The phase after `create_session_sandbox` answers: `INTERNAL_SERVER_ERROR` when it failed,
otherwise the session to insert and its preview URL. -/
def build (previewDomain : Option String) (sessionId : String) (req : CreateSessionRequest)
    (created : Joined (Except String PathBuf)) (t₁ t₂ : Instant) :
    Except HandlerError (Session × Option String) :=
  match created with
  | .error e => .error (internal e)
  | .ok (.error e) => .error (internal e)
  | .ok (.ok root) =>
    let url := previewUrl previewDomain sessionId
    .ok (session sessionId root req url t₁ t₂, url)

end createSession

/-- `create_session`: `sessionId` is what `Uuid::new_v4()` returned, `created` the answer of
`create_session_sandbox`; the session is inserted under the write lock. -/
def createSession (st : AppState) (sessionId : String) (req : CreateSessionRequest)
    (created : Joined (Except String PathBuf)) (t₁ t₂ : Instant) :
    AppState × Except HandlerError CreateSessionResponse :=
  match createSession.build st.previewDomain sessionId req created t₁ t₂ with
  | .error e => (st, .error e)
  | .ok (s, url) => ({ st with sessions := st.sessions.insert sessionId s }, .ok ⟨sessionId, url⟩)

/-! ### The handlers with one critical section -/

/-- `list_sessions`, under the read lock. -/
def listSessions (m : Sessions) (now : Instant) : List SessionInfo :=
  m.values.map (sessionInfo now)

/-- `get_session`, under the read lock. -/
def getSession (m : Sessions) (now : Instant) (id : String) : Except StatusCode SessionInfo :=
  match m.get id with
  | none => .error StatusCode.notFound
  | some s => .ok (sessionInfo now s)

/-- `delete_session`: the session is removed under the write lock, and its sandbox root and
background pids are handed to a blocking task that kills the pids and destroys the root. -/
def deleteSession (m : Sessions) (id : String) :
    Sessions × Option (PathBuf × List Pid) × Except StatusCode StatusCode :=
  match m.remove id with
  | (some s, m') => (m', some (s.sandboxRoot, s.backgroundPids), .ok StatusCode.noContent)
  | (none, m') => (m', none, .error StatusCode.notFound)

/-- `set_env`. -/
def setEnv (m : Sessions) (now : Instant) (id : String) (req : SetEnvRequest) :
    Sessions × Except StatusCode StatusCode :=
  match m.getMut id (Session.extendEnv req.env now) with
  | none => (m, .error StatusCode.notFound)
  | some (_, m') => (m', .ok StatusCode.ok)

/-- `set_cwd`. -/
def setCwd (m : Sessions) (now : Instant) (id : String) (req : SetCwdRequest) :
    Sessions × Except StatusCode StatusCode :=
  match m.getMut id (Session.setCwd req.cwd now) with
  | none => (m, .error StatusCode.notFound)
  | some (_, m') => (m', .ok StatusCode.ok)

/-! ### `run_in_session` and `run_oneshot` -/

namespace runInSession

/-- Phase 1: the sandbox root, the environment and the working directory of the session. -/
def lookup (m : Sessions) (now : Instant) (id : String) :
    Sessions × Except HandlerError (PathBuf × Env × String) :=
  lookupTouch m now id fun s => (s.sandboxRoot, s.env, s.cwd)

/-- The `RunConfig`: the request's environment over the session's, and the request's working
directory unless it is `/`. -/
def config (req : RunRequest) (env : Env) (cwd : String) : RunConfig :=
  { command := req.command, timeMs := req.time, memKb := req.mem, fsizeKb := req.fsize,
    nofile := req.nofile, env := env.extend req.env,
    cwd := if req.cwd ≠ "/" then req.cwd else cwd }

/-- Phase 2: the run's answer; a join failure and a failed run are both
`INTERNAL_SERVER_ERROR`. -/
def finish (ran : Joined (Except String RunResult)) : Except HandlerError RunResult :=
  match ran with
  | .error e => .error (internal e)
  | .ok (.error e) => .error (internal e)
  | .ok (.ok r) => .ok r

end runInSession

/-- `run_in_session`, with `ran` the blocking run of `sandbox::run_in_session`. -/
def runInSession (st : AppState) (now : Instant) (id : String) (req : RunRequest)
    (ran : PathBuf → RunConfig → Joined (Except String RunResult)) :
    AppState × Except HandlerError RunResult :=
  match runInSession.lookup st.sessions now id with
  | (m, .error e) => ({ st with sessions := m }, .error e)
  | (m, .ok (root, env, cwd)) =>
    ({ st with sessions := m }, runInSession.finish (ran root (runInSession.config req env cwd)))

/-- `run_oneshot`: the request as it is, run in an ephemeral sandbox; no session is read. -/
def runOneshot (req : RunRequest) (ran : RunConfig → Joined (Except String RunResult)) :
    Except HandlerError RunResult :=
  runInSession.finish (ran
    { command := req.command, timeMs := req.time, memKb := req.mem, fsizeKb := req.fsize,
      nofile := req.nofile, env := req.env, cwd := req.cwd })

/-! ### The file handlers -/

namespace writeFile

/-- Phase 1: the sandbox root, then the content decoded; a content that is not base64 is
`BAD_REQUEST` after the session was touched. -/
def lookup (b64 : Base64) (m : Sessions) (now : Instant) (id : String) (req : WriteFileRequest) :
    Sessions × Except HandlerError (PathBuf × Bytes) :=
  match lookupTouch m now id Session.sandboxRoot with
  | (m', .error e) => (m', .error e)
  | (m', .ok root) =>
    match b64.decode req.content with
    | .error e => (m', .error (StatusCode.badRequest, "Invalid base64: " ++ e))
    | .ok content => (m', .ok (root, content))

/-- Phase 2: the write's answer. -/
def finish (wrote : Joined (Except String Unit)) : Except HandlerError WriteFileResponse :=
  match wrote with
  | .error e => .error (internal e)
  | .ok (.error e) => .error (internal e)
  | .ok (.ok ()) => .ok ⟨true⟩

end writeFile

namespace writeFilesBulk

/-- The decoding loop: `Invalid base64 for {path}: {e}` at the first entry that does not
decode, otherwise every entry with its decoded content, in request order. -/
def decodeAll (b64 : Base64) (files : List WriteFileEntry) :
    Except HandlerError (List (String × Bytes)) :=
  files.foldlM (fun decoded entry =>
    match b64.decode entry.content with
    | .error e => .error (StatusCode.badRequest, "Invalid base64 for " ++ entry.path ++ ": " ++ e)
    | .ok content => .ok (decoded ++ [(entry.path, content)])) []

/-- Phase 1: the sandbox root, then every entry decoded. -/
def lookup (b64 : Base64) (m : Sessions) (now : Instant) (id : String) (req : WriteFilesRequest) :
    Sessions × Except HandlerError (PathBuf × List (String × Bytes)) :=
  match lookupTouch m now id Session.sandboxRoot with
  | (m', .error e) => (m', .error e)
  | (m', .ok root) =>
    match decodeAll b64 req.files with
    | .error e => (m', .error e)
    | .ok decoded => (m', .ok (root, decoded))

/-- The blocking task: every write in request order, a `WriteFileError` pushed for each that
fails. `write` is `sandbox::write_file_in_sandbox` over a file store `σ`. -/
def writeAll {σ : Type} (write : PathBuf → String → Bytes → σ → Except String Unit × σ)
    (root : PathBuf) (files : List (String × Bytes)) (store : σ) : List WriteFileError × σ :=
  files.foldl (fun (acc : List WriteFileError × σ) (file : String × Bytes) =>
    match write root file.1 file.2 acc.2 with
    | (.error e, store') => (acc.1 ++ [⟨file.1, e⟩], store')
    | (.ok (), store') => (acc.1, store')) ([], store)

/-- Phase 2: `success` is `errors.is_empty()`. -/
def finish (wrote : Joined (List WriteFileError)) : Except HandlerError WriteFilesResponse :=
  match wrote with
  | .error e => .error (internal e)
  | .ok errors => .ok ⟨errors.isEmpty, errors⟩

end writeFilesBulk

/-- `write_file` over a file store `σ`, with `write` the store's `write_file_in_sandbox`. -/
def writeFile {σ : Type} (b64 : Base64)
    (write : PathBuf → String → Bytes → σ → Except String Unit × σ)
    (st : AppState) (now : Instant) (id : String) (req : WriteFileRequest) (store : σ) :
    AppState × σ × Except HandlerError WriteFileResponse :=
  match writeFile.lookup b64 st.sessions now id req with
  | (m, .error e) => ({ st with sessions := m }, store, .error e)
  | (m, .ok (root, content)) =>
    let (r, store') := write root req.path content store
    ({ st with sessions := m }, store', writeFile.finish (.ok r))

/-- `write_files_bulk` over a file store `σ`. -/
def writeFilesBulk {σ : Type} (b64 : Base64)
    (write : PathBuf → String → Bytes → σ → Except String Unit × σ)
    (st : AppState) (now : Instant) (id : String) (req : WriteFilesRequest) (store : σ) :
    AppState × σ × Except HandlerError WriteFilesResponse :=
  match writeFilesBulk.lookup b64 st.sessions now id req with
  | (m, .error e) => ({ st with sessions := m }, store, .error e)
  | (m, .ok (root, decoded)) =>
    let (errors, store') := writeFilesBulk.writeAll write root decoded store
    ({ st with sessions := m }, store', writeFilesBulk.finish (.ok errors))

namespace readFile

/-- Phase 1: the sandbox root. -/
def lookup (m : Sessions) (now : Instant) (id : String) : Sessions × Except HandlerError PathBuf :=
  lookupTouch m now id Session.sandboxRoot

/-- Phase 2: a failed read is `NOT_FOUND`, a join failure `INTERNAL_SERVER_ERROR`; the content
is sent in base64. -/
def finish (b64 : Base64) (read : Joined (Except String Bytes)) :
    Except HandlerError ReadFileResponse :=
  match read with
  | .error e => .error (internal e)
  | .ok (.error e) => .error (StatusCode.notFound, e)
  | .ok (.ok content) => .ok ⟨b64.encode content⟩

end readFile

namespace listFiles

/-- Phase 1: the sandbox root. -/
def lookup (m : Sessions) (now : Instant) (id : String) : Sessions × Except HandlerError PathBuf :=
  lookupTouch m now id Session.sandboxRoot

/-- `FileEntry` of a `SandboxFileEntry`. -/
def fileEntry (e : SandboxFileEntry) : FileEntry :=
  { name := e.name, path := e.path, isDirectory := e.isDirectory, size := e.size }

/-- Phase 2: a failed listing is `NOT_FOUND`. -/
def finish (listed : Joined (Except String (List SandboxFileEntry))) :
    Except HandlerError ListFilesResponse :=
  match listed with
  | .error e => .error (internal e)
  | .ok (.error e) => .error (StatusCode.notFound, e)
  | .ok (.ok entries) => .ok ⟨entries.map fileEntry⟩

end listFiles

/-- `read_file`, with `read` the blocking `read_file_in_sandbox`. -/
def readFile (b64 : Base64) (st : AppState) (now : Instant) (id : String) (query : ReadFileQuery)
    (read : PathBuf → String → Joined (Except String Bytes)) :
    AppState × Except HandlerError ReadFileResponse :=
  match readFile.lookup st.sessions now id with
  | (m, .error e) => ({ st with sessions := m }, .error e)
  | (m, .ok root) => ({ st with sessions := m }, readFile.finish b64 (read root query.path))

/-- `list_files`, with `listed` the blocking `list_files_in_sandbox`. -/
def listFiles (st : AppState) (now : Instant) (id : String) (query : ListFilesQuery)
    (listed : PathBuf → String → Joined (Except String (List SandboxFileEntry))) :
    AppState × Except HandlerError ListFilesResponse :=
  match listFiles.lookup st.sessions now id with
  | (m, .error e) => ({ st with sessions := m }, .error e)
  | (m, .ok root) => ({ st with sessions := m }, listFiles.finish (listed root query.path))

/-! ### Background processes -/

namespace runBackground

/-- Phase 1: the sandbox root, environment, working directory and preview URL. -/
def lookup (m : Sessions) (now : Instant) (id : String) :
    Sessions × Except HandlerError (PathBuf × Env × String × Option String) :=
  lookupTouch m now id fun s => (s.sandboxRoot, s.env, s.cwd, s.previewUrl)

/-- The port: `allocate_port()` when the request says `0`, otherwise the requested one. -/
def choosePort (st : AppState) (req : BackgroundRunRequest) : Port × AppState :=
  if req.port = 0 then st.allocatePort else (req.port, st)

@[simp] lemma choosePort_sessions (st : AppState) (req : BackgroundRunRequest) :
    (choosePort st req).2.sessions = st.sessions := by
  unfold choosePort; split <;> rfl

@[simp] lemma choosePort_previewDomain (st : AppState) (req : BackgroundRunRequest) :
    (choosePort st req).2.previewDomain = st.previewDomain := by
  unfold choosePort; split <;> rfl

/-- The `RunConfig` of a background run: no limits, and `VITE_PORT` and `PORT` set to the port
in the merged environment. -/
def config (req : BackgroundRunRequest) (env : Env) (cwd : String) (port : Port) : RunConfig :=
  { command := req.command, timeMs := 0, memKb := 0, fsizeKb := 0, nofile := 0,
    env := ((env.extend req.env).insert "VITE_PORT" (toString port)).insert "PORT" (toString port),
    cwd := if req.cwd ≠ "/" then req.cwd else cwd }

/-- The answer of `run_background_in_session`: the pid, or `INTERNAL_SERVER_ERROR`. -/
def spawned (r : Joined (Except String Pid)) : Except HandlerError Pid :=
  match r with
  | .error e => .error (internal e)
  | .ok (.error e) => .error (internal e)
  | .ok (.ok pid) => .ok pid

/-- Phase 3, under the write lock: the pid and the port are recorded in the session if it is
still there; nothing happens if it is not. -/
def track (m : Sessions) (id : String) (pid : Pid) (port : Port) : Sessions :=
  match m.getMut id (Session.track pid port) with
  | none => m
  | some (_, m') => m'

end runBackground

/-- `run_background`, with `spawn` the blocking `run_background_in_session`. -/
def runBackground (st : AppState) (now : Instant) (id : String) (req : BackgroundRunRequest)
    (spawn : PathBuf → RunConfig → Joined (Except String Pid)) :
    AppState × Except HandlerError BackgroundRunResponse :=
  match runBackground.lookup st.sessions now id with
  | (m, .error e) => ({ st with sessions := m }, .error e)
  | (m, .ok (root, env, cwd, url)) =>
    let (port, st') := runBackground.choosePort { st with sessions := m } req
    match runBackground.spawned (spawn root (runBackground.config req env cwd port)) with
    | .error e => (st', .error e)
    | .ok pid => ({ st' with sessions := runBackground.track st'.sessions id pid port },
        .ok ⟨pid, port, url⟩)

/-! ### The environment a run sees -/

/-- **The environment of a sandboxed run.** `set_env` files the request's variables over the
session's; `run_in_session` runs its command with the request's variables over the session's;
`run_background` does the same and then sets `PORT` and `VITE_PORT` to the port it chose,
whatever the request or the session says. No other variable is added or dropped. -/
theorem run_env_layers (env : Env) (k : String) :
    (∀ (req : SetEnvRequest) (now : Instant) (s : Session),
      (s.extendEnv req.env now).env.get k = (req.env.get k).or (s.env.get k)) ∧
    (∀ (req : RunRequest) (cwd : String),
      (runInSession.config req env cwd).env.get k = (req.env.get k).or (env.get k)) ∧
    ∀ (req : BackgroundRunRequest) (cwd : String) (port : Port),
      (runBackground.config req env cwd port).env.get k =
        if k = "PORT" ∨ k = "VITE_PORT" then some (toString port) else (req.env.get k).or (env.get k) := by
  refine ⟨fun req _ s => HashMap.get_extend s.env k req.env, fun req _ => HashMap.get_extend env k req.env,
    fun req _ port => ?_⟩
  show (((env.extend req.env).insert "VITE_PORT" (toString port)).insert "PORT" (toString port)).get k = _
  rw [HashMap.get_insert, HashMap.get_insert, HashMap.get_extend]
  by_cases h₁ : k = "PORT"
  · simp [h₁]
  · by_cases h₂ : k = "VITE_PORT" <;> simp [h₁, h₂]

namespace killBackground

/-- The critical section: touch the session, snapshot its `background_pids`, clear them and its
`ports`. -/
def clear (m : Sessions) (now : Instant) (id : String) : Sessions × Except HandlerError (List Pid) :=
  match m.getMut id (Session.clearBackground now) with
  | none => (m, .error sessionNotFound)
  | some (s, m') => (m', .ok (s.touch now).backgroundPids)

/-- The answer after each snapshotted pid was sent `SIGKILL`; `killed` says which `kill` calls
succeeded. -/
def report (pids : List Pid) (killed : Pid → Bool) : KillBackgroundResponse :=
  ⟨pids.filter killed, pids.length⟩

end killBackground

/-- `kill_background`. -/
def killBackground (st : AppState) (now : Instant) (id : String) (killed : Pid → Bool) :
    AppState × Except HandlerError KillBackgroundResponse :=
  match killBackground.clear st.sessions now id with
  | (m, .error e) => ({ st with sessions := m }, .error e)
  | (m, .ok pids) => ({ st with sessions := m }, .ok (killBackground.report pids killed))

namespace backgroundStatus

/-- Phase 1, under the read lock: the sandbox root and the background pids. -/
def lookup (m : Sessions) (id : String) : Except HandlerError (PathBuf × List Pid) :=
  match m.get id with
  | none => .error sessionNotFound
  | some s => .ok (s.sandboxRoot, s.backgroundPids)

/-- Phase 2: `alive` answers `is_process_alive`, `log` is `read_background_log`, read as empty
when it fails. -/
def finish (pids : List Pid) (probed : Joined ((Pid → Bool) × Except String String)) :
    Except HandlerError BackgroundStatusResponse :=
  match probed with
  | .error e => .error (internal e)
  | .ok (alive, log) =>
    .ok ⟨pids.map fun pid => ⟨pid, alive pid⟩, match log with | .ok l => l | .error _ => ""⟩

end backgroundStatus

/-- `background_status`: the registry is only read. -/
def backgroundStatus (st : AppState) (id : String)
    (probed : PathBuf → List Pid → Joined ((Pid → Bool) × Except String String)) :
    Except HandlerError BackgroundStatusResponse :=
  match backgroundStatus.lookup st.sessions id with
  | .error e => .error e
  | .ok (root, pids) => backgroundStatus.finish pids (probed root pids)

/-! ### The preview proxy's routing -/

/-- `s.strip_suffix(suffix)`. -/
def stripSuffix (s suffix : String) : Option String :=
  if suffix.data.isSuffixOf s.data then some ⟨s.data.take (s.data.length - suffix.data.length)⟩
  else none

namespace previewProxy

/-- `(StatusCode::NOT_FOUND, "Not found")`. -/
def notFound : Response := ⟨StatusCode.notFound, "Not found"⟩

/-- Phase 1: the preview domain, the session id the Host header names, and, under the write lock,
the session touched and its first port, `5173` when it has none. -/
def route (st : AppState) (now : Instant) (host : String) : Sessions × Except Response (String × Port) :=
  match st.previewDomain with
  | none => (st.sessions, .error notFound)
  | some domain =>
    match stripSuffix host ("." ++ domain) with
    | none => (st.sessions, .error notFound)
    | some id =>
      match st.sessions.getMut id (Session.touch now) with
      | none => (st.sessions, .error ⟨StatusCode.notFound, "Session " ++ id ++ " not found"⟩)
      | some (s, m') => (m', .ok (id, (s.touch now).ports.head?.getD 5173))

end previewProxy

/-- `preview_proxy`, with `forward` the relay of the request to the session's port (the HTTP or
WebSocket path): the registry is touched only by the routing. -/
def previewProxy (st : AppState) (now : Instant) (host : String) (forward : Port → Response) :
    AppState × Response :=
  match previewProxy.route st now host with
  | (m, .error r) => ({ st with sessions := m }, r)
  | (m, .ok (_, port)) => ({ st with sessions := m }, forward port)

end OpenComputer
