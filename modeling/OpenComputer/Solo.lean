import OpenComputer.Frame
import OpenComputer.Timestamps

/-!
# A call run alone: the phases refine the handler

`Call.run` (`OpenComputer.Frame`) runs the phases of a handler in a row, as one function of the
registry; a `World` runs the same phases as separate steps, with any other step between them. The
two agree when nothing comes between: from any world in which a call has arrived at index `i`,
the steps of that call alone (its first atomic section, then its spawn, tracking step and return,
its `SIGKILL` loop, or the answer of its blocking work) end with the registry `Call.run` computes and
the reply of the whole handler, the clock, the other calls and the destruction tasks unchanged
(`solo_call_refines_run`). So what `OpenComputer.Frame` and `OpenComputer.Files` prove of
`Call.run` and of the whole handlers holds of the steps of the service.
-/

namespace OpenComputer

namespace Call

/-- The request the router delivers for a call; `preq` is the request the preview proxy
forwards. -/
def request (preq : ProxyRequest) : Call → Request
  | setEnv id req => .setEnv id req
  | setCwd id req => .setCwd id req
  | runInSession id req _ => .runInSession id req
  | runBackground id req _ => .runBackground id req
  | killBackground id _ => .killBackground id
  | writeFile id req _ => .writeFile id req
  | writeFilesBulk id req _ => .writeFilesBulk id req
  | readFile id query _ => .readFile id query
  | listFiles id query _ => .listFiles id query
  | getSession id => .getSession id
  | backgroundStatus id _ => .backgroundStatus id
  | previewProxy host _ => .previewProxy host preq

/-- The reply of the whole handler on the registry `st` at clock reading `now`. -/
def answer (b64 : Base64) (st : AppState) (now : Instant) : Call → Reply
  | setEnv id req => .status (OpenComputer.setEnv st.sessions now id req).2
  | setCwd id req => .status (OpenComputer.setCwd st.sessions now id req).2
  | runInSession id req ran => .runInSession (OpenComputer.runInSession st now id req ran).2
  | runBackground id req spawn => .runBackground (OpenComputer.runBackground st now id req spawn).2
  | killBackground id killed => .killBackground (OpenComputer.killBackground st now id killed).2
  | writeFile id req write =>
    .writeFile (OpenComputer.writeFile b64 (answering write) st now id req ()).2.2
  | writeFilesBulk id req write =>
    .writeFilesBulk (OpenComputer.writeFilesBulk b64 (answering write) st now id req ()).2.2
  | readFile id query read => .readFile (OpenComputer.readFile b64 st now id query read).2
  | listFiles id query listed => .listFiles (OpenComputer.listFiles st now id query listed).2
  | getSession id => .getSession (OpenComputer.getSession st.sessions now id)
  | backgroundStatus id probed => .backgroundStatus (OpenComputer.backgroundStatus st id probed)
  | previewProxy host forward => .previewProxy (OpenComputer.previewProxy st now host forward).2

end Call

/-- From `w`, steps of the call at `i` alone reach a world with the registry `st` and the call
answered `r`; the clock and the destruction tasks are those of `w`. -/
def World.Solo (b64 : Base64) (w : World) (i : Nat) (st : AppState) (r : Reply) : Prop :=
  ∃ w', Run b64 w w' ∧ w'.state = st ∧ w'.tasks = w.tasks.set i (.done r) ∧ w'.now = w.now ∧
    w'.jobs = w.jobs

namespace World.Solo

variable {b64 : Base64} {w w₁ : World} {i : Nat} {st : AppState} {r : Reply}

/-- A step that answers the call. -/
lemma last (h : Step b64 w w₁) (hst : w₁.state = st) (ht : w₁.tasks = w.tasks.set i (.done r))
    (hnow : w₁.now = w.now) (hjobs : w₁.jobs = w.jobs) : w.Solo b64 i st r :=
  ⟨w₁, .single h, hst, ht, hnow, hjobs⟩

/-- A step that moves the call to its next phase. -/
lemma cons {t : Task} (h : Step b64 w w₁) (ht : w₁.tasks = w.tasks.set i t) (hnow : w₁.now = w.now)
    (hjobs : w₁.jobs = w.jobs) (hs : w₁.Solo b64 i st r) : w.Solo b64 i st r := by
  obtain ⟨w', hrun, hst, ht', hnow', hjobs'⟩ := hs
  exact ⟨w', .head h hrun, hst, by rw [ht', ht, List.set_set], hnow'.trans hnow, hjobs'.trans hjobs⟩

/-- The first atomic section, when it hands no destruction task: it answers, or moves the call on
to `t`. -/
lemma enter {req : Request} {m : Sessions} {t : Task} {evs : List Ev}
    (hi : w.tasks[i]? = some (.start req)) (hfp : firstPhase b64 w.state w.now req = (m, t, none, evs))
    (hs : (w.enter b64 i req).Solo b64 i st r) : w.Solo b64 i st r :=
  cons (.enter _ i req hi) (show _ = w.tasks.set i t by simp [World.enter, hfp]) rfl
    (by simp [World.enter, hfp]) hs

/-- The task at `i` after the first atomic section. -/
lemma enter_task {req : Request} {m : Sessions} {t : Task} {evs : List Ev}
    (hi : w.tasks[i]? = some (.start req)) (hfp : firstPhase b64 w.state w.now req = (m, t, none, evs)) :
    (w.enter b64 i req).tasks[i]? = some t := by
  simp [World.enter, hfp, List.getElem?_set_self (List.getElem?_eq_some_iff.1 hi).1]

/-- The registry after the first atomic section. -/
lemma enter_state (i : Nat) {req : Request} {m : Sessions} {t : Task} {evs : List Ev}
    (hfp : firstPhase b64 w.state w.now req = (m, t, none, evs)) :
    (w.enter b64 i req).state = { w.state with sessions := m } := by
  simp [World.enter, hfp]

/-- A call already answered `r`. -/
lemma done (h : w.tasks[i]? = some (.done r)) (hst : w.state = st) : w.Solo b64 i st r := by
  refine ⟨w, .refl, hst, (List.ext_getElem? fun k => ?_).symm, rfl, rfl⟩
  rw [List.getElem?_set]
  split
  · subst k; rw [if_pos (List.getElem?_eq_some_iff.1 h).1, h]
  · rfl

/-- The blocking work answers. -/
lemma complete {t : Task} (o : Outcome) (h : w.tasks[i]? = some t) (hr : t.complete b64 o = some r)
    (hst : w.state = st) : w.Solo b64 i st r :=
  last (.complete _ i t o r h hr) hst rfl rfl rfl

/-- The first atomic section answers. -/
lemma enter_done {req : Request} {m : Sessions} {evs : List Ev} (hi : w.tasks[i]? = some (.start req))
    (hfp : firstPhase b64 w.state w.now req = (m, .done r, none, evs)) :
    w.Solo b64 i { w.state with sessions := m } r :=
  enter hi hfp (done (enter_task hi hfp) (enter_state i hfp))

/-- The first atomic section hands the call to blocking work, which answers. -/
lemma enter_complete {req : Request} {m : Sessions} {t : Task} {evs : List Ev}
    (hi : w.tasks[i]? = some (.start req)) (hfp : firstPhase b64 w.state w.now req = (m, t, none, evs))
    (o : Outcome) (hr : t.complete b64 o = some r) : w.Solo b64 i { w.state with sessions := m } r :=
  enter hi hfp (complete o (enter_task hi hfp) hr (enter_state i hfp))

/-- `run_background` chooses its port and spawns. -/
lemma spawn {id : String} {root : PathBuf} {env : Env} {cwd : String} {url : Option String}
    {req : BackgroundRunRequest} (h : w.tasks[i]? = some (.spawning id root env cwd url req))
    (spawned : Joined (Except String Pid)) (hs : (w.spawn i id url req spawned).Solo b64 i st r) :
    w.Solo b64 i st r :=
  cons (.spawn _ i id root env cwd url req spawned h) rfl rfl rfl hs

/-- `run_background`'s tracking step, then its return. -/
lemma track {id : String} {pid : Pid} {port : Port} {url : Option String}
    (h : w.tasks[i]? = some (.tracking id pid port url)) (hst : (w.track i id pid port url).state = st) :
    w.Solo b64 i st (.runBackground (.ok ⟨pid, port, url⟩)) :=
  cons (.track _ i id pid port url h) rfl rfl rfl
    (last (.respond _ i _ (List.getElem?_set_self (List.getElem?_eq_some_iff.1 h).1)) hst rfl rfl rfl)

lemma spawn_task {t : Task} {id : String} {url : Option String} {req : BackgroundRunRequest}
    {spawned : Joined (Except String Pid)} (h : w.tasks[i]? = some t) :
    (w.spawn i id url req spawned).tasks[i]? = some (continueWith (runBackground.spawned spawned)
      (.runBackground ∘ .error) fun pid => .tracking id pid (runBackground.choosePort w.state req).1 url) :=
  List.getElem?_set_self (List.getElem?_eq_some_iff.1 h).1

end World.Solo

/-! ### One lemma per handler -/

section Handlers

open World

variable {b64 : Base64} {w : World} {i : Nat}

lemma solo_runInSession {id : String} {req : RunRequest}
    (ran : PathBuf → RunConfig → Joined (Except String RunResult))
    (hi : w.tasks[i]? = some (.start (.runInSession id req))) :
    w.Solo b64 i (OpenComputer.runInSession w.state w.now id req ran).1
      (.runInSession (OpenComputer.runInSession w.state w.now id req ran).2) := by
  rcases hl : runInSession.lookup w.sessions w.now id with ⟨m, e | ⟨root, env, cwd⟩⟩ <;>
    simp only [OpenComputer.runInSession, hl]
  · exact Solo.enter_done hi (by simp only [firstPhase, hl]; rfl)
  · exact Solo.enter_complete hi (by simp only [firstPhase, hl]; rfl) (.ran _) (by rfl)

lemma solo_runBackground {id : String} {req : BackgroundRunRequest}
    (spawn : PathBuf → RunConfig → Joined (Except String Pid))
    (hi : w.tasks[i]? = some (.start (.runBackground id req))) :
    w.Solo b64 i (OpenComputer.runBackground w.state w.now id req spawn).1
      (.runBackground (OpenComputer.runBackground w.state w.now id req spawn).2) := by
  rcases hl : runBackground.lookup w.sessions w.now id with ⟨m, e | ⟨root, env, cwd, url⟩⟩ <;>
    simp only [OpenComputer.runBackground, hl]
  · exact Solo.enter_done hi (by simp only [firstPhase, hl]; rfl)
  · have hfp : firstPhase b64 w.state w.now (.runBackground id req) =
        (m, .spawning id root env cwd url req, none, found w.sessions id (.touched id w.now)) := by
      simp only [firstPhase, hl]; rfl
    refine Solo.enter hi hfp ?_
    have ht := Solo.enter_task hi hfp
    rw [← Solo.enter_state i hfp]
    -- the port is chosen on the registry after the lookup, in both
    rcases hsp : runBackground.spawned (spawn root (runBackground.config req env cwd
      (runBackground.choosePort (w.enter b64 i (.runBackground id req)).state req).1)) with e | pid
    · exact Solo.spawn ht _ (Solo.done (by rw [Solo.spawn_task ht, hsp]; rfl) rfl)
    · exact Solo.spawn ht _ (Solo.track (by rw [Solo.spawn_task ht, hsp]; rfl) rfl)

lemma solo_killBackground {id : String} (killed : Pid → Bool)
    (hi : w.tasks[i]? = some (.start (.killBackground id))) :
    w.Solo b64 i (OpenComputer.killBackground w.state w.now id killed).1
      (.killBackground (OpenComputer.killBackground w.state w.now id killed).2) := by
  rcases hl : killBackground.clear w.sessions w.now id with ⟨m, e | pids⟩ <;>
    simp only [OpenComputer.killBackground, hl]
  · exact Solo.enter_done hi (by simp only [firstPhase, hl]; rfl)
  · have hfp : firstPhase b64 w.state w.now (.killBackground id) =
        (m, .killing pids, none,
          found w.sessions id (.cleared id) ++ found w.sessions id (.touched id w.now)) := by
      simp only [firstPhase, hl]; rfl
    exact Solo.enter hi hfp
      (Solo.last (.kill _ i pids killed (Solo.enter_task hi hfp)) (Solo.enter_state i hfp) rfl rfl rfl)

lemma solo_writeFile {id : String} {req : WriteFileRequest}
    (write : PathBuf → String → Bytes → Except String Unit)
    (hi : w.tasks[i]? = some (.start (.writeFile id req))) :
    w.Solo b64 i (OpenComputer.writeFile b64 (Call.answering write) w.state w.now id req ()).1
      (.writeFile (OpenComputer.writeFile b64 (Call.answering write) w.state w.now id req ()).2.2) := by
  rcases hl : writeFile.lookup b64 w.sessions w.now id req with ⟨m, e | ⟨root, content⟩⟩ <;>
    simp only [OpenComputer.writeFile, hl]
  · exact Solo.enter_done hi (by simp only [firstPhase, hl]; rfl)
  · exact Solo.enter_complete hi (by simp only [firstPhase, hl]; rfl) (.wrote _) (by rfl)

lemma solo_writeFilesBulk {id : String} {req : WriteFilesRequest}
    (write : PathBuf → String → Bytes → Except String Unit)
    (hi : w.tasks[i]? = some (.start (.writeFilesBulk id req))) :
    w.Solo b64 i (OpenComputer.writeFilesBulk b64 (Call.answering write) w.state w.now id req ()).1
      (.writeFilesBulk (OpenComputer.writeFilesBulk b64 (Call.answering write) w.state w.now id req ()).2.2) := by
  rcases hl : writeFilesBulk.lookup b64 w.sessions w.now id req with ⟨m, e | ⟨root, files⟩⟩ <;>
    simp only [OpenComputer.writeFilesBulk, hl]
  · exact Solo.enter_done hi (by simp only [firstPhase, hl]; rfl)
  · exact Solo.enter_complete hi (by simp only [firstPhase, hl]; rfl) (.wroteAll _) (by rfl)

lemma solo_readFile {id : String} {query : ReadFileQuery}
    (read : PathBuf → String → Joined (Except String Bytes))
    (hi : w.tasks[i]? = some (.start (.readFile id query))) :
    w.Solo b64 i (OpenComputer.readFile b64 w.state w.now id query read).1
      (.readFile (OpenComputer.readFile b64 w.state w.now id query read).2) := by
  rcases hl : readFile.lookup w.sessions w.now id with ⟨m, e | root⟩ <;>
    simp only [OpenComputer.readFile, hl]
  · exact Solo.enter_done hi (by simp only [firstPhase, hl]; rfl)
  · exact Solo.enter_complete hi (by simp only [firstPhase, hl]; rfl) (.read _) (by rfl)

lemma solo_listFiles {id : String} {query : ListFilesQuery}
    (listed : PathBuf → String → Joined (Except String (List SandboxFileEntry)))
    (hi : w.tasks[i]? = some (.start (.listFiles id query))) :
    w.Solo b64 i (OpenComputer.listFiles w.state w.now id query listed).1
      (.listFiles (OpenComputer.listFiles w.state w.now id query listed).2) := by
  rcases hl : listFiles.lookup w.sessions w.now id with ⟨m, e | root⟩ <;>
    simp only [OpenComputer.listFiles, hl]
  · exact Solo.enter_done hi (by simp only [firstPhase, hl]; rfl)
  · exact Solo.enter_complete hi (by simp only [firstPhase, hl]; rfl) (.listed _) (by rfl)

lemma solo_backgroundStatus {id : String}
    (probed : PathBuf → List Pid → Joined ((Pid → Bool) × Except String String))
    (hi : w.tasks[i]? = some (.start (.backgroundStatus id))) :
    w.Solo b64 i w.state (.backgroundStatus (OpenComputer.backgroundStatus w.state id probed)) := by
  rcases hl : backgroundStatus.lookup w.sessions id with e | ⟨root, pids⟩ <;>
    simp only [OpenComputer.backgroundStatus, hl]
  · exact Solo.enter_done hi (by simp only [firstPhase, hl]; rfl)
  · exact Solo.enter_complete hi (by simp only [firstPhase, hl]; rfl) (.probed _) (by rfl)

lemma solo_previewProxy {host : String} {preq : ProxyRequest} (forward : Port → Response)
    (hi : w.tasks[i]? = some (.start (.previewProxy host preq))) :
    w.Solo b64 i (OpenComputer.previewProxy w.state w.now host forward).1
      (.previewProxy (OpenComputer.previewProxy w.state w.now host forward).2) := by
  rcases hl : previewProxy.route w.state w.now host with ⟨m, r | ⟨id, port⟩⟩ <;>
    simp only [OpenComputer.previewProxy, hl]
  · exact Solo.enter_done hi (by simp only [firstPhase, hl]; rfl)
  · exact Solo.enter_complete hi (by simp only [firstPhase, hl]; rfl) (.proxied _) (by rfl)

end Handlers

/-- **A call run alone refines the whole handler.** From any world in which a call has arrived at
index `i`, the steps of that call alone reach a world whose registry is the one `Call.run`
computes and in which the call answered what the whole handler answers; the clock and the
destruction tasks are unchanged, and so is every other call. -/
theorem solo_call_refines_run (b64 : Base64) (c : Call) (preq : ProxyRequest) {w : World} {i : Nat}
    (hi : w.tasks[i]? = some (.start (c.request preq))) :
    ∃ w', Run b64 w w' ∧ w'.state = (c.run b64 w.state w.now).1 ∧
      w'.tasks = w.tasks.set i (.done (c.answer b64 w.state w.now)) ∧ w'.now = w.now ∧
      w'.jobs = w.jobs := by
  cases c with
  | setEnv id req | setCwd id req | getSession id => exact World.Solo.enter_done hi rfl
  | runInSession id req ran => exact solo_runInSession ran hi
  | runBackground id req spawn => exact solo_runBackground spawn hi
  | killBackground id killed => exact solo_killBackground killed hi
  | writeFile id req write => exact solo_writeFile write hi
  | writeFilesBulk id req write => exact solo_writeFilesBulk write hi
  | readFile id query read => exact solo_readFile read hi
  | listFiles id query listed => exact solo_listFiles listed hi
  | backgroundStatus id probed => exact solo_backgroundStatus probed hi
  | previewProxy host forward => exact solo_previewProxy forward hi

/-- `createdWorld` with a `run_background` of `npm run dev` on `"s"` arrived, port `0`. -/
def soloWorld : World :=
  { createdWorld with tasks := createdWorld.tasks ++ [.start (.runBackground "s" ⟨["npm", "run", "dev"], 0, .empty, "/"⟩)] }

theorem solo_call_refines_run_soloWorld :
    soloWorld.tasks[1]? = some (.start ((Call.runBackground "s" ⟨["npm", "run", "dev"], 0, .empty, "/"⟩
      fun _ _ => .ok (.ok 42)).request ⟨"GET", "/", none, [], []⟩)) ∧
    ∃ w', Run Base64.rejectAll soloWorld w' ∧
      w'.state = ((Call.runBackground "s" ⟨["npm", "run", "dev"], 0, .empty, "/"⟩ fun _ _ => .ok (.ok 42)).run
        Base64.rejectAll soloWorld.state soloWorld.now).1 ∧
      w'.tasks = soloWorld.tasks.set 1 (.done ((Call.runBackground "s" ⟨["npm", "run", "dev"], 0, .empty, "/"⟩
        fun _ _ => .ok (.ok 42)).answer Base64.rejectAll soloWorld.state soloWorld.now)) ∧
      w'.now = soloWorld.now ∧ w'.jobs = soloWorld.jobs :=
  ⟨rfl, solo_call_refines_run _ _ ⟨"GET", "/", none, [], []⟩ rfl⟩

end OpenComputer
