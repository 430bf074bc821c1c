import OpenComputer.Reaper

/-!
# The registry as a step relation

The service runs many handler calls at once. Each call is a `Task` that waits at an `await`: for
the registry lock, or for the blocking work it handed to `spawn_blocking`. A `Step` runs one atomic
section of one task (a critical section under the lock, with the synchronous code around it), or
gives a blocking task's answer to the task that awaits it, or returns the reply of a
`run_background` whose tracking step has released the lock, or is a tick of the reaper, the run
of a destruction task on the blocking pool, or the clock advancing. Any task may take the next
step, so the runs of `Step` are all the interleavings of the handlers' phases.

A `World` holds the registry, the clock, the tasks (a call stays at its index, and ends as
`done` with its reply), the destruction tasks handed to the blocking pool and not yet run, every
pid passed to `kill(pid, SIGKILL)` in order, the sandbox roots on disk, and a history of what the
steps did to the registry, newest first. The history is proof-only: nothing in the service reads
it.

`sandbox.rs` is not part of the source. Its `create_session_sandbox(id)` is taken at its
specified contract (`SandboxCreates`): it materializes a new root for the session, and fails
with `SandboxCreate` when the root of `id` already exists. `destroy_session_sandbox(path)`
removes the root at `path`.
-/

namespace OpenComputer

/-- A call as the router delivers it. -/
inductive Request
  | createSession (req : CreateSessionRequest)
  | listSessions
  | getSession (id : String)
  | deleteSession (id : String)
  | setEnv (id : String) (req : SetEnvRequest)
  | setCwd (id : String) (req : SetCwdRequest)
  | runInSession (id : String) (req : RunRequest)
  | writeFile (id : String) (req : WriteFileRequest)
  | writeFilesBulk (id : String) (req : WriteFilesRequest)
  | readFile (id : String) (query : ReadFileQuery)
  | listFiles (id : String) (query : ListFilesQuery)
  | runBackground (id : String) (req : BackgroundRunRequest)
  | killBackground (id : String)
  | backgroundStatus (id : String)
  | previewProxy (host : String) (req : ProxyRequest)

/-- What a handler answered. -/
inductive Reply
  | createSession (r : Except HandlerError CreateSessionResponse)
  | listSessions (infos : List SessionInfo)
  | getSession (r : Except StatusCode SessionInfo)
  /-- `delete_session`, `set_env` and `set_cwd` answer a bare status. -/
  | status (r : Except StatusCode StatusCode)
  | runInSession (r : Except HandlerError RunResult)
  | writeFile (r : Except HandlerError WriteFileResponse)
  | writeFilesBulk (r : Except HandlerError WriteFilesResponse)
  | readFile (r : Except HandlerError ReadFileResponse)
  | listFiles (r : Except HandlerError ListFilesResponse)
  | runBackground (r : Except HandlerError BackgroundRunResponse)
  | killBackground (r : Except HandlerError KillBackgroundResponse)
  | backgroundStatus (r : Except HandlerError BackgroundStatusResponse)
  | previewProxy (r : Response)

/-- The session a request addresses: its path's id, or the one the preview proxy's Host names. -/
def Request.target (st : AppState) : Request → Option String
  | .createSession _ | .listSessions => none
  | .getSession id | .deleteSession id | .setEnv id _ | .setCwd id _ | .runInSession id _
  | .writeFile id _ | .writeFilesBulk id _ | .readFile id _ | .listFiles id _
  | .runBackground id _ | .killBackground id | .backgroundStatus id => some id
  | .previewProxy host _ => st.previewDomain.bind fun d => stripSuffix host ("." ++ d)

/-- The status of a handler's `Result`: `200 OK` for `Json`, the code of an error. -/
def statusOf {α : Type} : Except HandlerError α → StatusCode
  | .ok _ => StatusCode.ok
  | .error (code, _) => code

/-- The HTTP status a reply is sent with. -/
def Reply.statusCode : Reply → StatusCode
  | .createSession r => statusOf r
  | .listSessions _ => StatusCode.ok
  | .getSession (.ok _) => StatusCode.ok
  | .getSession (.error code) => code
  | .status (.ok code) | .status (.error code) => code
  | .runInSession r => statusOf r
  | .writeFile r => statusOf r
  | .writeFilesBulk r => statusOf r
  | .readFile r => statusOf r
  | .listFiles r => statusOf r
  | .runBackground r => statusOf r
  | .killBackground r => statusOf r
  | .backgroundStatus r => statusOf r
  | .previewProxy r => r.status

/-- A call in flight: the `await` it waits at, with the locals it keeps across it. -/
inductive Task
  /-- arrived, waiting for its first atomic section -/
  | start (req : Request)
  /-- `create_session`, its `Session` built, waiting for the write lock to insert it -/
  | inserting (sessionId : String) (session : Session) (previewUrl : Option String)
  /-- `run_in_session`, waiting for the run -/
  | running (id : String) (root : PathBuf) (config : RunConfig)
  /-- `write_file`, waiting for the write -/
  | writing (id : String) (root : PathBuf) (path : String) (content : Bytes)
  /-- `write_files_bulk`, waiting for the writes -/
  | writingAll (id : String) (root : PathBuf) (files : List (String × Bytes))
  /-- `read_file`, waiting for the read -/
  | reading (id : String) (root : PathBuf) (path : String)
  /-- `list_files`, waiting for the listing -/
  | listing (id : String) (root : PathBuf) (path : String)
  /-- `run_background` after its lookup, before the port choice and the spawn -/
  | spawning (id : String) (root : PathBuf) (env : Env) (cwd : String) (previewUrl : Option String)
      (req : BackgroundRunRequest)
  /-- `run_background`, its process spawned, waiting for the write lock to record it -/
  | tracking (id : String) (pid : Pid) (port : Port) (previewUrl : Option String)
  /-- `run_background` after its tracking step: the write guard is dropped, and the call is
  returning `reply` -/
  | returning (reply : Reply)
  /-- `kill_background` after its critical section, sending `SIGKILL` to the snapshot -/
  | killing (pids : List Pid)
  /-- `background_status`, waiting for the probes and the log -/
  | probing (id : String) (root : PathBuf) (pids : List Pid)
  /-- `preview_proxy`, routed, waiting for the backend -/
  | proxying (id : String) (port : Port) (req : ProxyRequest)
  /-- returned -/
  | done (reply : Reply)

/-- The answer of a blocking task to the call that awaits it. -/
inductive Outcome
  | ran (r : Joined (Except String RunResult))
  | wrote (r : Joined (Except String Unit))
  | wroteAll (r : Joined (List WriteFileError))
  | read (r : Joined (Except String Bytes))
  | listed (r : Joined (Except String (List SandboxFileEntry)))
  | probed (r : Joined ((Pid → Bool) × Except String String))
  | proxied (r : Response)

/-- The reply of a call whose blocking work answered `o`. -/
def Task.complete (b64 : Base64) : Task → Outcome → Option Reply
  | .running .., .ran r => some (.runInSession (runInSession.finish r))
  | .writing .., .wrote r => some (.writeFile (writeFile.finish r))
  | .writingAll .., .wroteAll r => some (.writeFilesBulk (writeFilesBulk.finish r))
  | .reading .., .read r => some (.readFile (readFile.finish b64 r))
  | .listing .., .listed r => some (.listFiles (listFiles.finish r))
  | .probing _ _ pids, .probed r => some (.backgroundStatus (backgroundStatus.finish pids r))
  | .proxying .., .proxied r => some (.previewProxy r)
  | _, _ => none

/-- What a step did to the registry, as the history records it. -/
inductive Ev
  /-- `Uuid::new_v4()` returned `sid` to the `create_session` call at `task` -/
  | generated (task : Nat) (sid : String)
  /-- `create_session` inserted `id` -/
  | inserted (id : String)
  /-- `delete_session` or the reaper removed `id` -/
  | removed (id : String)
  /-- a write-lock lookup found `id` and set its `last_used` to `t` -/
  | touched (id : String) (t : Instant)
  /-- a read-lock lookup found `id` at `t` -/
  | read (id : String) (t : Instant)
  /-- the tracking step of a `run_background` on `id` with `port` ran -/
  | tracked (id : String) (port : Port)
  /-- `kill_background` cleared the pids and ports of `id` -/
  | cleared (id : String)
deriving DecidableEq

/-- `[e]` when the table has `id`, otherwise nothing. -/
def found (m : Sessions) (id : String) (e : Ev) : List Ev :=
  if (m.get id).isSome then [e] else []

/-- The `?` after a phase: the call returns `fail e` on an error, and goes on as `next a`
otherwise. -/
def continueWith {ε α : Type} (r : Except ε α) (fail : ε → Reply) (next : α → Task) : Task :=
  match r with
  | .error e => .done (fail e)
  | .ok a => next a

/-- The first atomic section of a call, on the registry `st` at clock reading `now`: the session
table after it, the task's next phase, the destruction task it hands to the blocking pool, and
the events it logs, newest first. `create_session`'s first step is `World.createSandbox`. -/
def firstPhase (b64 : Base64) (st : AppState) (now : Instant) :
    Request → Sessions × Task × Option (PathBuf × List Pid) × List Ev
  | .createSession req => (st.sessions, .start (.createSession req), none, [])
  | .listSessions => (st.sessions, .done (.listSessions (listSessions st.sessions now)), none, [])
  | .getSession id =>
    (st.sessions, .done (.getSession (getSession st.sessions now id)), none,
      found st.sessions id (.read id now))
  | .deleteSession id =>
    let r := deleteSession st.sessions id
    (r.1, .done (.status r.2.2), r.2.1, found st.sessions id (.removed id))
  | .setEnv id req =>
    let r := setEnv st.sessions now id req
    (r.1, .done (.status r.2), none, found st.sessions id (.touched id now))
  | .setCwd id req =>
    let r := setCwd st.sessions now id req
    (r.1, .done (.status r.2), none, found st.sessions id (.touched id now))
  | .runInSession id req =>
    let r := runInSession.lookup st.sessions now id
    (r.1, continueWith r.2 (.runInSession ∘ .error)
      (fun (root, env, cwd) => .running id root (runInSession.config req env cwd)), none,
      found st.sessions id (.touched id now))
  | .writeFile id req =>
    let r := writeFile.lookup b64 st.sessions now id req
    (r.1, continueWith r.2 (.writeFile ∘ .error)
      (fun (root, content) => .writing id root req.path content), none,
      found st.sessions id (.touched id now))
  | .writeFilesBulk id req =>
    let r := writeFilesBulk.lookup b64 st.sessions now id req
    (r.1, continueWith r.2 (.writeFilesBulk ∘ .error) (fun (root, files) => .writingAll id root files),
      none, found st.sessions id (.touched id now))
  | .readFile id query =>
    let r := readFile.lookup st.sessions now id
    (r.1, continueWith r.2 (.readFile ∘ .error) (fun root => .reading id root query.path), none,
      found st.sessions id (.touched id now))
  | .listFiles id query =>
    let r := listFiles.lookup st.sessions now id
    (r.1, continueWith r.2 (.listFiles ∘ .error) (fun root => .listing id root query.path), none,
      found st.sessions id (.touched id now))
  | .runBackground id req =>
    let r := runBackground.lookup st.sessions now id
    (r.1, continueWith r.2 (.runBackground ∘ .error)
      (fun (root, env, cwd, url) => .spawning id root env cwd url req), none,
      found st.sessions id (.touched id now))
  | .killBackground id =>
    let r := killBackground.clear st.sessions now id
    (r.1, continueWith r.2 (.killBackground ∘ .error) .killing, none,
      found st.sessions id (.cleared id) ++ found st.sessions id (.touched id now))
  | .backgroundStatus id =>
    (st.sessions, continueWith (backgroundStatus.lookup st.sessions id) (.backgroundStatus ∘ .error)
      (fun (root, pids) => .probing id root pids), none, found st.sessions id (.read id now))
  | .previewProxy host req =>
    let r := previewProxy.route st now host
    (r.1, continueWith r.2 .previewProxy (fun (id, port) => .proxying id port req), none,
      match r.2 with
      | .error _ => []
      | .ok (id, _) => [.touched id now])

/-- What `create_session_sandbox(sid)` may answer when the roots on disk are `disk` (each with the
id it was made for): an error, or a root for an id that has none on disk, at a path that is not
there. -/
def SandboxCreates (disk : List (String × PathBuf)) (sid : String) :
    Joined (Except String PathBuf) → Prop
  | .ok (.ok root) => sid ∉ disk.map Prod.fst ∧ root ∉ disk.map Prod.snd
  | _ => True

instance (disk : List (String × PathBuf)) (sid : String) (created : Joined (Except String PathBuf)) :
    Decidable (SandboxCreates disk sid created) :=
  match created with
  | .ok (.ok root) => inferInstanceAs (Decidable (sid ∉ disk.map Prod.fst ∧ root ∉ disk.map Prod.snd))
  | .ok (.error _) | .error _ => inferInstanceAs (Decidable True)

/-- The root `create_session_sandbox(sid)` made, when it answered `Ok`. -/
def createdRoots (sid : String) : Joined (Except String PathBuf) → List (String × PathBuf)
  | .ok (.ok root) => [(sid, root)]
  | _ => []

/-- The service: the registry, the monotonic clock, the calls, the destruction tasks waiting on
the blocking pool, the pids sent `SIGKILL`, the sandbox roots on disk with the id each was made
for, and the history (newest first). -/
structure World where
  state : AppState
  now : Instant
  tasks : List Task
  jobs : List (PathBuf × List Pid)
  signals : List Pid
  disk : List (String × PathBuf)
  history : List Ev

namespace World

/-- No session, no call: the service as `run_server` starts it. -/
def init (previewDomain : Option String) (t₀ : Instant) : World :=
  ⟨AppState.withPreviewDomain previewDomain, t₀, [], [], [], [], []⟩

/-- The session table. -/
abbrev sessions (w : World) : Sessions := w.state.sessions

/-- Task `i` moves to `t`. -/
def setTask (w : World) (i : Nat) (t : Task) : World := { w with tasks := w.tasks.set i t }

/-- The session table becomes `m`. -/
def setSessions (w : World) (m : Sessions) : World := { w with state := { w.state with sessions := m } }

/-- The events `evs` (newest first) are recorded. -/
def log (w : World) (evs : List Ev) : World := { w with history := evs ++ w.history }

/-- The first atomic section of the call at `i`. -/
def enter (b64 : Base64) (w : World) (i : Nat) (req : Request) : World :=
  let r := firstPhase b64 w.state w.now req
  { w with state := { w.state with sessions := r.1 }, tasks := w.tasks.set i r.2.1,
           jobs := w.jobs ++ r.2.2.1.toList, history := r.2.2.2 ++ w.history }

/-- `create_session` up to the write lock: `Uuid::new_v4()` returns `sid`, the blocking
`create_session_sandbox` answers `created`, and the `Session` literal reads the clock twice, `d`
apart. -/
def createSandbox (w : World) (i : Nat) (req : CreateSessionRequest) (sid : String)
    (created : Joined (Except String PathBuf)) (d : Nat) : World :=
  { w with now := w.now + d, disk := w.disk ++ createdRoots sid created,
           tasks := w.tasks.set i
             (continueWith (createSession.build w.state.previewDomain sid req created w.now (w.now + d))
               (.createSession ∘ .error) fun (s, url) => .inserting sid s url),
           history := .generated i sid :: w.history }

/-- `create_session`'s critical section: `sessions.insert(session_id, session)`. -/
def createInsert (w : World) (i : Nat) (sid : String) (s : Session) (url : Option String) : World :=
  ((w.setSessions (w.sessions.insert sid s)).setTask i (.done (.createSession (.ok ⟨sid, url⟩)))).log
    [.inserted sid]

/-- `run_background` from its lookup to the spawn: the port is chosen, `allocate_port()` when the
request says `0`, and `run_background_in_session` answers `spawned` for the `RunConfig`
`runBackground.config req env cwd port`. -/
def spawn (w : World) (i : Nat) (id : String) (url : Option String) (req : BackgroundRunRequest)
    (spawned : Joined (Except String Pid)) : World :=
  let r := runBackground.choosePort w.state req
  { w with state := r.2,
           tasks := w.tasks.set i
             (continueWith (runBackground.spawned spawned) (.runBackground ∘ .error)
               fun pid => .tracking id pid r.1 url) }

/-- `run_background`'s tracking step: the critical section, after which the call returns its
reply. -/
def track (w : World) (i : Nat) (id : String) (pid : Pid) (port : Port) (url : Option String) :
    World :=
  ((w.setSessions (runBackground.track w.sessions id pid port)).setTask i
    (.returning (.runBackground (.ok ⟨pid, port, url⟩)))).log [.tracked id port]

/-- The call at `i` returns `r`. -/
def respond (w : World) (i : Nat) (r : Reply) : World := w.setTask i (.done r)

/-- `kill_background`'s loop: `SIGKILL` to each snapshotted pid; `killed` says which `kill`
calls succeeded. -/
def kill (w : World) (i : Nat) (pids : List Pid) (killed : Pid → Bool) : World :=
  { w with signals := w.signals ++ pids }.setTask i
    (.done (.killBackground (.ok (killBackground.report pids killed))))

/-- A tick of the reaper. -/
def reap (w : World) : World :=
  let r := cleanupExpiredSessions w.sessions w.now
  { w with state := { w.state with sessions := r.1 }, jobs := w.jobs ++ r.2,
           history := (expiredIds w.sessions w.now).reverse.map .removed ++ w.history }

/-- The blocking pool runs the destruction task at `j`: `SIGKILL` to each of its pids, then
`destroy_session_sandbox`, which removes the root. -/
def destroy (w : World) (j : Nat) (job : PathBuf × List Pid) : World :=
  { w with jobs := w.jobs.eraseIdx j, signals := w.signals ++ job.2,
           disk := w.disk.filter fun e => e.2 ≠ job.1 }

end World

/-- **One step of the service.** -/
inductive Step (b64 : Base64) : World → World → Prop
  /-- the clock advances -/
  | tick (w : World) (d : Nat) : Step b64 w { w with now := w.now + d }
  /-- a call arrives -/
  | call (w : World) (req : Request) : Step b64 w { w with tasks := w.tasks ++ [.start req] }
  /-- the first atomic section of a call -/
  | enter (w : World) (i : Nat) (req : Request) (h : w.tasks[i]? = some (.start req)) :
      Step b64 w (w.enter b64 i req)
  /-- `create_session` up to the write lock, the sandbox layer keeping its contract -/
  | createSandbox (w : World) (i : Nat) (req : CreateSessionRequest) (sid : String)
      (created : Joined (Except String PathBuf)) (d : Nat)
      (h : w.tasks[i]? = some (.start (.createSession req))) (hc : SandboxCreates w.disk sid created) :
      Step b64 w (w.createSandbox i req sid created d)
  /-- `create_session` inserts -/
  | createInsert (w : World) (i : Nat) (sid : String) (s : Session) (url : Option String)
      (h : w.tasks[i]? = some (.inserting sid s url)) : Step b64 w (w.createInsert i sid s url)
  /-- `run_background` chooses its port and spawns -/
  | spawn (w : World) (i : Nat) (id : String) (root : PathBuf) (env : Env) (cwd : String)
      (url : Option String) (req : BackgroundRunRequest) (spawned : Joined (Except String Pid))
      (h : w.tasks[i]? = some (.spawning id root env cwd url req)) :
      Step b64 w (w.spawn i id url req spawned)
  /-- `run_background`'s tracking step -/
  | track (w : World) (i : Nat) (id : String) (pid : Pid) (port : Port) (url : Option String)
      (h : w.tasks[i]? = some (.tracking id pid port url)) : Step b64 w (w.track i id pid port url)
  /-- a call returns its reply -/
  | respond (w : World) (i : Nat) (r : Reply) (h : w.tasks[i]? = some (.returning r)) :
      Step b64 w (w.respond i r)
  /-- `kill_background` sends its signals -/
  | kill (w : World) (i : Nat) (pids : List Pid) (killed : Pid → Bool)
      (h : w.tasks[i]? = some (.killing pids)) : Step b64 w (w.kill i pids killed)
  /-- a blocking task answers the call that awaits it -/
  | complete (w : World) (i : Nat) (t : Task) (o : Outcome) (r : Reply)
      (h : w.tasks[i]? = some t) (hr : t.complete b64 o = some r) :
      Step b64 w (w.setTask i (.done r))
  /-- a tick of the reaper -/
  | reap (w : World) : Step b64 w w.reap
  /-- a destruction task runs -/
  | destroy (w : World) (j : Nat) (job : PathBuf × List Pid) (h : w.jobs[j]? = some job) :
      Step b64 w (w.destroy j job)

/-- The worlds the service reaches from a start, in any interleaving. -/
inductive Reachable (b64 : Base64) : World → Prop
  | init (previewDomain : Option String) (t₀ : Instant) : Reachable b64 (World.init previewDomain t₀)
  | step {w w' : World} : Reachable b64 w → Step b64 w w' → Reachable b64 w'

end OpenComputer
