import OpenComputer.Files

/-!
# What one handler call changes in the registry

A `Call` is one call of a handler addressed to a session, with the answers of the blocking work
it hands off; `Call.run` runs its phases in a row (`OpenComputer.Handlers`). `call_frame` says,
for every call and every registry:

* the preview domain never changes, and `next_port` changes only for `run_background` with port
  `0` on a session of the table, where it advances by exactly one, whether the spawn then succeeds
  or fails (on a missing session the call answers `404` before `allocate_port`);
* no entry other than the one of the addressed session changes;
* a call that answers an error changes that entry at most in `last_used`.
-/

namespace OpenComputer

/-- The session with its `last_used` reading forgotten. -/
def Session.forgetLastUsed (s : Session) : Session := { s with lastUsed := 0 }

/-- An answer is an error. -/
def failed {ε α : Type} : Except ε α → Bool
  | .error _ => true
  | .ok _ => false

/-- A handler call addressed to a session, with the answers of the blocking work it awaits. -/
inductive Call
  | setEnv (id : String) (req : SetEnvRequest)
  | setCwd (id : String) (req : SetCwdRequest)
  | runInSession (id : String) (req : RunRequest)
      (ran : PathBuf → RunConfig → Joined (Except String RunResult))
  | runBackground (id : String) (req : BackgroundRunRequest)
      (spawn : PathBuf → RunConfig → Joined (Except String Pid))
  | killBackground (id : String) (killed : Pid → Bool)
  | writeFile (id : String) (req : WriteFileRequest) (write : PathBuf → String → Bytes → Except String Unit)
  | writeFilesBulk (id : String) (req : WriteFilesRequest)
      (write : PathBuf → String → Bytes → Except String Unit)
  | readFile (id : String) (query : ReadFileQuery) (read : PathBuf → String → Joined (Except String Bytes))
  | listFiles (id : String) (query : ListFilesQuery)
      (listed : PathBuf → String → Joined (Except String (List SandboxFileEntry)))
  | getSession (id : String)
  | backgroundStatus (id : String) (probed : PathBuf → List Pid → Joined ((Pid → Bool) × Except String String))
  | previewProxy (host : String) (forward : Port → Response)

namespace Call

/-- The session a call addresses: its path's id, or for the preview proxy the session its Host
names. -/
def target (st : AppState) : Call → Option String
  | setEnv id _ | setCwd id _ | runInSession id _ _ | runBackground id _ _ | killBackground id _
  | writeFile id _ _ | writeFilesBulk id _ _ | readFile id _ _ | listFiles id _ _ | getSession id
  | backgroundStatus id _ => some id
  | previewProxy host _ => st.previewDomain.bind fun d => stripSuffix host ("." ++ d)

/-- The call takes a port from the counter: `run_background` with port `0` on a session of the
table. -/
def allocates (st : AppState) : Call → Bool
  | runBackground id req _ => req.port == 0 && (st.sessions.get id).isSome
  | _ => false

/-- The write of a file store that is only the answers of `write`. -/
def answering (write : PathBuf → String → Bytes → Except String Unit) :
    PathBuf → String → Bytes → Unit → Except String Unit × Unit :=
  fun root path content _ => (write root path content, ())

/-- The call's phases in a row at clock reading `now`: the registry after it, and whether it
answered an error (for the preview proxy, a status of `400` or more). -/
def run (b64 : Base64) (st : AppState) (now : Instant) : Call → AppState × Bool
  | setEnv id req =>
    let r := OpenComputer.setEnv st.sessions now id req
    ({ st with sessions := r.1 }, failed r.2)
  | setCwd id req =>
    let r := OpenComputer.setCwd st.sessions now id req
    ({ st with sessions := r.1 }, failed r.2)
  | runInSession id req ran =>
    let r := OpenComputer.runInSession st now id req ran
    (r.1, failed r.2)
  | runBackground id req spawn =>
    let r := OpenComputer.runBackground st now id req spawn
    (r.1, failed r.2)
  | killBackground id killed =>
    let r := OpenComputer.killBackground st now id killed
    (r.1, failed r.2)
  | writeFile id req write =>
    let r := OpenComputer.writeFile b64 (answering write) st now id req ()
    (r.1, failed r.2.2)
  | writeFilesBulk id req write =>
    let r := OpenComputer.writeFilesBulk b64 (answering write) st now id req ()
    (r.1, failed r.2.2)
  | readFile id query read =>
    let r := OpenComputer.readFile b64 st now id query read
    (r.1, failed r.2)
  | listFiles id query listed =>
    let r := OpenComputer.listFiles st now id query listed
    (r.1, failed r.2)
  | getSession id => (st, failed (OpenComputer.getSession st.sessions now id))
  | backgroundStatus id probed => (st, failed (OpenComputer.backgroundStatus st id probed))
  | previewProxy host forward =>
    let r := OpenComputer.previewProxy st now host forward
    (r.1, decide (400 ≤ r.2.status))

end Call

/-! ### Frames of the session table -/

/-- `m'` and `m` agree on every key but `id`. -/
def AgreeOff (m m' : Sessions) (id : Option String) : Prop :=
  ∀ k, some k ≠ id → m'.get k = m.get k

/-- `m'` and `m` agree on every entry, but for `last_used`. -/
def AgreeButLastUsed (m m' : Sessions) : Prop :=
  ∀ k, (m'.get k).map Session.forgetLastUsed = (m.get k).map Session.forgetLastUsed

section Frames

variable {m m' m'' : Sessions} {id : Option String}

lemma agreeOff_refl (m : Sessions) (id : Option String) : AgreeOff m m id := fun _ _ => rfl

lemma agreeOff_modify (m : Sessions) (k : String) (f : Session → Session) :
    AgreeOff m (m.modify k f) (some k) := by
  intro k' hk'
  rw [HashMap.get_modify, if_neg (fun h => hk' (by rw [h]))]

lemma AgreeOff.trans (h₁ : AgreeOff m m' id) (h₂ : AgreeOff m' m'' id) : AgreeOff m m'' id :=
  fun k hk => (h₂ k hk).trans (h₁ k hk)

lemma agreeButLastUsed_refl (m : Sessions) : AgreeButLastUsed m m := fun _ => rfl

/-- A mutation that writes only `last_used` keeps the table but for `last_used`. -/
lemma agreeButLastUsed_modify (m : Sessions) (k : String) {f : Session → Session}
    (hf : ∀ s, (f s).forgetLastUsed = s.forgetLastUsed) :
    AgreeButLastUsed m (m.modify k f) := by
  intro k'
  rw [HashMap.get_modify]
  split
  · subst k'; cases m.get k <;> simp [hf]
  · rfl

lemma forgetLastUsed_touch (now : Instant) (s : Session) :
    (s.touch now).forgetLastUsed = s.forgetLastUsed := rfl

end Frames

/-! ### The first phases -/

section Phases

variable {α : Type} (m : Sessions) (now : Instant) (id : String) (take : Session → α)

/-- `lookupTouch` writes at most `last_used` of the entry of `id`. -/
lemma lookupTouch_frame :
    AgreeOff m (lookupTouch m now id take).1 (some id) ∧
      AgreeButLastUsed m (lookupTouch m now id take).1 := by
  cases h : m.get id with
  | none => simp only [lookupTouch_of_get_none _ _ _ _ h]; exact ⟨agreeOff_refl _ _, agreeButLastUsed_refl _⟩
  | some s =>
    simp only [lookupTouch_of_get_some _ _ _ _ h]
    exact ⟨agreeOff_modify _ _ _, agreeButLastUsed_modify _ _ (forgetLastUsed_touch now)⟩

end Phases

/-! ### Each handler -/

section Handlers

variable (b64 : Base64) (st : AppState) (now : Instant) (id : String)

/-- The registry after a call whose only critical section is `lookupTouch`. -/
def touched (st : AppState) (now : Instant) (id : String) : AppState :=
  { st with sessions := (lookupTouch st.sessions now id Session.sandboxRoot).1 }

lemma lookupTouch_fst {α : Type} (take : Session → α) :
    (lookupTouch st.sessions now id take).1 = (lookupTouch st.sessions now id Session.sandboxRoot).1 := by
  cases h : st.sessions.get id <;> simp [lookupTouch_of_get_none, lookupTouch_of_get_some, h]

lemma runInSession_fst (req : RunRequest) (ran : PathBuf → RunConfig → Joined (Except String RunResult)) :
    (runInSession st now id req ran).1 = touched st now id := by
  unfold runInSession touched runInSession.lookup
  rw [← lookupTouch_fst st now id fun s => (s.sandboxRoot, s.env, s.cwd)]
  split <;> simp_all

lemma readFile_fst (query : ReadFileQuery) (read : PathBuf → String → Joined (Except String Bytes)) :
    (readFile b64 st now id query read).1 = touched st now id := by
  unfold readFile touched readFile.lookup
  split <;> simp_all

lemma listFiles_fst (query : ListFilesQuery)
    (listed : PathBuf → String → Joined (Except String (List SandboxFileEntry))) :
    (listFiles st now id query listed).1 = touched st now id := by
  unfold listFiles touched listFiles.lookup
  split <;> simp_all

lemma writeFile_fst {σ : Type} (write : PathBuf → String → Bytes → σ → Except String Unit × σ)
    (req : WriteFileRequest) (store : σ) :
    (writeFile b64 write st now id req store).1 = touched st now id := by
  unfold writeFile touched writeFile.lookup
  split <;> split at * <;> (try split at *) <;> simp_all

lemma writeFilesBulk_fst {σ : Type} (write : PathBuf → String → Bytes → σ → Except String Unit × σ)
    (req : WriteFilesRequest) (store : σ) :
    (writeFilesBulk b64 write st now id req store).1 = touched st now id := by
  unfold writeFilesBulk touched writeFilesBulk.lookup
  split <;> split at * <;> (try split at *) <;> simp_all

/-- What a call may change: the entry of `target`, `next_port` by one exactly when `allocates`,
and only `last_used` when it answered an error. -/
def CallFrame (st st' : AppState) (target : Option String) (allocates : Bool) (err : Bool) : Prop :=
  st'.previewDomain = st.previewDomain ∧
    st'.nextPort = (if allocates then st.nextPort + 1 else st.nextPort) ∧
    AgreeOff st.sessions st'.sessions target ∧
    (err = true → AgreeButLastUsed st.sessions st'.sessions)

variable {st}

lemma callFrame_refl (st : AppState) (target : Option String) (err : Bool) :
    CallFrame st st target false err :=
  ⟨rfl, rfl, agreeOff_refl _ _, fun _ => agreeButLastUsed_refl _⟩

lemma touched_frame (err : Bool) : CallFrame st (touched st now id) (some id) false err :=
  ⟨rfl, rfl, (lookupTouch_frame _ _ _ _).1, fun _ => (lookupTouch_frame _ _ _ _).2⟩

/-- A `get_mut` section whose mutation is `f`: the whole table when the session is missing and
an error is answered, the entry of `id` mutated by `f` otherwise. -/
lemma getMut_frame (f : Session → Session) {err : Bool}
    (hm : (st.sessions.get id = none ∧ st' = st) ∨
      (st'.sessions = st.sessions.modify id f ∧ st'.previewDomain = st.previewDomain ∧
        st'.nextPort = st.nextPort ∧ err = false)) :
    CallFrame st st' (some id) false err := by
  rcases hm with ⟨-, rfl⟩ | ⟨hs, hd, hp, rfl⟩
  · exact callFrame_refl _ _ _
  · exact ⟨hd, hp, hs ▸ agreeOff_modify _ _ _, fun h => absurd h (by simp)⟩

lemma setEnv_frame (req : SetEnvRequest) :
    CallFrame st { st with sessions := (setEnv st.sessions now id req).1 } (some id) false
      (failed (setEnv st.sessions now id req).2) := by
  apply getMut_frame id (Session.extendEnv req.env now)
  cases h : st.sessions.get id <;> simp [setEnv, HashMap.getMut, h, failed]

lemma setCwd_frame (req : SetCwdRequest) :
    CallFrame st { st with sessions := (setCwd st.sessions now id req).1 } (some id) false
      (failed (setCwd st.sessions now id req).2) := by
  apply getMut_frame id (Session.setCwd req.cwd now)
  cases h : st.sessions.get id <;> simp [setCwd, HashMap.getMut, h, failed]

lemma killBackground_frame (killed : Pid → Bool) :
    CallFrame st (killBackground st now id killed).1 (some id) false
      (failed (killBackground st now id killed).2) := by
  apply getMut_frame id (Session.clearBackground now)
  cases h : st.sessions.get id <;>
    simp [killBackground, killBackground.clear, HashMap.getMut, h, failed]

lemma runBackground_frame (req : BackgroundRunRequest)
    (spawn : PathBuf → RunConfig → Joined (Except String Pid)) :
    CallFrame st (runBackground st now id req spawn).1 (some id)
      (req.port == 0 && (st.sessions.get id).isSome) (failed (runBackground st now id req spawn).2) := by
  cases h : st.sessions.get id with
  | none =>
    simp only [runBackground, runBackground.lookup, lookupTouch_of_get_none _ _ _ _ h, Option.isSome_none,
      Bool.and_false]
    exact callFrame_refl _ _ _
  | some s =>
    have hport : (runBackground.choosePort { st with sessions := st.sessions.modify id (Session.touch now) } req).2 =
        { st with sessions := st.sessions.modify id (Session.touch now),
                  nextPort := if req.port = 0 then st.nextPort + 1 else st.nextPort } := by
      unfold runBackground.choosePort AppState.allocatePort
      split <;> simp_all
    have hnext : (if req.port = 0 then st.nextPort + 1 else st.nextPort) =
        if (req.port == 0 && (some s).isSome) = true then st.nextPort + 1 else st.nextPort := by
      simp
    simp only [runBackground, runBackground.lookup, lookupTouch_of_get_some _ _ _ _ h, hport]
    split
    · exact ⟨rfl, hnext, agreeOff_modify _ _ _, fun _ => agreeButLastUsed_modify _ _ (forgetLastUsed_touch now)⟩
    · refine ⟨rfl, hnext, (agreeOff_modify st.sessions id (Session.touch now)).trans ?_,
        fun h => absurd h (by simp [failed])⟩
      unfold runBackground.track
      split
      · exact agreeOff_refl _ _
      · rename_i h
        obtain ⟨-, rfl⟩ := (HashMap.getMut_eq_some _ _).1 h
        exact agreeOff_modify _ _ _

/-- The routing of the preview proxy touches the session its Host names, or nothing. -/
lemma route_sessions (host : String) :
    (previewProxy.route st now host).1 = st.sessions ∨
      ∃ k, (st.previewDomain.bind fun d => stripSuffix host ("." ++ d)) = some k ∧
        (previewProxy.route st now host).1 = st.sessions.modify k (Session.touch now) := by
  unfold previewProxy.route
  cases st.previewDomain with
  | none => exact .inl rfl
  | some d =>
    simp only [Option.bind_some]
    cases hs : stripSuffix host ("." ++ d) with
    | none => exact .inl rfl
    | some k =>
      cases hk : st.sessions.get k with
      | none => exact .inl (by simp [HashMap.getMut, hk])
      | some s => exact .inr ⟨k, by simp [hs], by simp [HashMap.getMut, hk]⟩

lemma previewProxy_frame (host : String) (forward : Port → Response) (err : Bool) :
    CallFrame st (previewProxy st now host forward).1
      (st.previewDomain.bind fun d => stripSuffix host ("." ++ d)) false err := by
  have hsec : (previewProxy st now host forward).1 =
      { st with sessions := (previewProxy.route st now host).1 } := by
    unfold previewProxy; split <;> simp_all
  rw [hsec]
  rcases route_sessions now host with h | ⟨k, hk, h⟩
  · rw [h]; exact callFrame_refl _ _ _
  · rw [h, hk]
    exact ⟨rfl, rfl, agreeOff_modify _ _ _,
      fun _ => agreeButLastUsed_modify _ _ (forgetLastUsed_touch now)⟩

end Handlers

/-- **What a call changes.** For every handler call addressed to a session and every registry:
the preview domain stays; `next_port` advances by exactly one for a `run_background` with port `0`
on a session of the table, whether its spawn then succeeds or fails, and stays for every other
call (a `run_background` on a missing session answers `404` before `allocate_port`); no entry but
the addressed session's changes; and a call that answers an error leaves every entry as it was
but for `last_used`. -/
theorem call_frame (b64 : Base64) (st : AppState) (now : Instant) (c : Call) :
    (c.run b64 st now).1.previewDomain = st.previewDomain ∧
      (c.run b64 st now).1.nextPort = (if c.allocates st then st.nextPort + 1 else st.nextPort) ∧
      (∀ k, some k ≠ c.target st → (c.run b64 st now).1.sessions.get k = st.sessions.get k) ∧
      ((c.run b64 st now).2 = true → ∀ k,
        ((c.run b64 st now).1.sessions.get k).map Session.forgetLastUsed =
          (st.sessions.get k).map Session.forgetLastUsed) := by
  cases c with
  | setEnv id req => exact setEnv_frame now id req
  | setCwd id req => exact setCwd_frame now id req
  | runInSession id req ran =>
    simp only [Call.run, runInSession_fst]; exact touched_frame now id _
  | runBackground id req spawn => exact runBackground_frame now id req spawn
  | killBackground id killed => exact killBackground_frame now id killed
  | writeFile id req write =>
    simp only [Call.run, writeFile_fst]; exact touched_frame now id _
  | writeFilesBulk id req write =>
    simp only [Call.run, writeFilesBulk_fst]; exact touched_frame now id _
  | readFile id query read =>
    simp only [Call.run, readFile_fst]; exact touched_frame now id _
  | listFiles id query listed =>
    simp only [Call.run, listFiles_fst]; exact touched_frame now id _
  | getSession id => exact callFrame_refl _ _ _
  | backgroundStatus id probed => exact callFrame_refl _ _ _
  | previewProxy host forward => exact previewProxy_frame now host forward _

/-- **`next_port` is outside every entry.** A `run_background` with port `0` on session `"s"`
whose spawn fails answers an error, and still leaves the counter advanced from `10000` to
`10001`. -/
theorem runBackground_failed_spawn_moves_nextPort :
    failed (runBackground oneSession 0 "s" ⟨["vite"], 0, .empty, "/"⟩
        fun _ _ => .ok (.error "spawn failed")).2 = true ∧
      oneSession.nextPort = 10000 ∧
      (runBackground oneSession 0 "s" ⟨["vite"], 0, .empty, "/"⟩
        fun _ _ => .ok (.error "spawn failed")).1.nextPort = 10001 := by
  decide

end OpenComputer
