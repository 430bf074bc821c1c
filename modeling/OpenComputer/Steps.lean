import OpenComputer.World

/-!
# What a step can do

The lemmas every invariant of the service is proved from, so that no invariant unfolds a
handler:

* `firstPhase_effect`: the first atomic section of any call only reads the table, or writes the
  entry it looked up (its environment, working directory and `last_used := now`), or clears the
  background processes of that entry (`kill_background`, leaving the snapshot in its task), or
  removes it (`delete_session`, handing its pids and sandbox root to a destruction task). The
  task it leaves holds no session to insert, no pid to record and no snapshot to kill, but for
  `kill_background`'s;
* `route_cases`: the preview proxy's routing;
* the frames of a step on the task list and the history: a task that returned stays returned,
  and the history only grows.
-/

namespace OpenComputer

/-! ### Tasks -/

/-- A task that holds no registry work in flight: no session to insert, no pid to record and no
snapshot to kill. -/
def Task.Passive : Task → Prop
  | .inserting .. | .tracking .. | .killing _ => False
  | _ => True

lemma continueWith_passive {ε α : Type} {r : Except ε α} {fail : ε → Reply} {next : α → Task}
    (h : ∀ a, (next a).Passive) : (continueWith r fail next).Passive := by
  cases r
  · trivial
  · exact h _

/-- After `?`, the call has returned the error, or goes on with the value the phase returned. -/
lemma continueWith_cases {ε α : Type} {r : Except ε α} {fail : ε → Reply} {next : α → Task}
    {t : Task} (h : continueWith r fail next = t) :
    (∃ e, r = .error e ∧ t = .done (fail e)) ∨ ∃ a, r = .ok a ∧ t = next a := by
  cases r with
  | error e => exact .inl ⟨e, rfl, h.symm⟩
  | ok a => exact .inr ⟨a, rfl, h.symm⟩

lemma getElem?_set_eq_some {α : Type} {l : List α} {i k : Nat} {a b : α}
    (h : (l.set i a)[k]? = some b) : (k = i ∧ b = a) ∨ (k ≠ i ∧ l[k]? = some b) := by
  rw [List.getElem?_set] at h
  split at h
  · split at h
    · exact .inl ⟨by omega, (Option.some.inj h).symm⟩
    · cases h
  · exact .inr ⟨Ne.symm ‹_›, h⟩

lemma getElem?_concat_eq_some {α : Type} {l : List α} {k : Nat} {a b : α}
    (h : (l ++ [a])[k]? = some b) : l[k]? = some b ∨ b = a := by
  rw [List.getElem?_append] at h
  split at h
  · exact .inl h
  · right
    rcases hk : k - l.length with _ | n <;> simp_all

/-! ### The first atomic section -/

lemma mem_found {m : Sessions} {id : String} {e e' : Ev} (h : e' ∈ found m id e) : e' = e := by
  unfold found at h
  split at h <;> simp_all

lemma found_of_some {m : Sessions} {id : String} {s : Session} (h : m.get id = some s) (e : Ev) :
    found m id e = [e] := by
  simp [found, h]

lemma found_of_none {m : Sessions} {id : String} (h : m.get id = none) (e : Ev) :
    found m id e = [] := by
  simp [found, h]

/-- What the first atomic section of a call did to the table `m` at clock reading `now`, with the
task it leaves, the destruction task it hands over and the events it logs. -/
inductive FirstEffect (m : Sessions) (now : Instant) :
    Sessions × Task × Option (PathBuf × List Pid) × List Ev → Prop
  /-- the table is only read -/
  | keep {t : Task} {evs : List Ev} (ht : t.Passive) (hevs : ∀ e ∈ evs, ∃ id, e = .read id now) :
      FirstEffect m now (m, t, none, evs)
  /-- the entry of `id` gets an environment, a working directory and `last_used := now` -/
  | touch {m' : Sessions} {t : Task} (id : String) (s : Session) (env : Env) (cwd : String)
      (hs : m.get id = some s)
      (hm : ∀ k, m'.get k =
        if k = id then some { s with env := env, cwd := cwd, lastUsed := now } else m.get k)
      (ht : t.Passive) : FirstEffect m now (m', t, none, [.touched id now])
  /-- `kill_background`'s critical section: the task keeps the snapshot of the pids -/
  | clear {m' : Sessions} (id : String) (s : Session) (hs : m.get id = some s)
      (hm : ∀ k, m'.get k = if k = id then some (s.clearBackground now) else m.get k) :
      FirstEffect m now (m', .killing s.backgroundPids, none, [.cleared id, .touched id now])
  /-- `delete_session`: the removed session's root and pids go to a destruction task -/
  | remove {t : Task} (id : String) (s : Session) (hs : m.get id = some s) (ht : t.Passive) :
      FirstEffect m now ((m.remove id).2, t, some s.destroyJob, [.removed id])

namespace FirstEffect

variable {m : Sessions} {now : Instant}

/-- A write-lock lookup that found `id` and wrote `f` into its entry. -/
lemma modify {id : String} {s : Session} {t : Task} (f : Session → Session) (env : Env)
    (cwd : String) (hs : m.get id = some s)
    (hf : f s = { s with env := env, cwd := cwd, lastUsed := now }) (ht : t.Passive) :
    FirstEffect m now (m.modify id f, t, none, [.touched id now]) :=
  .touch id s env cwd hs (fun k => by rw [HashMap.get_modify_of_get _ _ _ hs, hf]) ht

/-- A phase that leaves the table as `lookupTouch` does. -/
lemma lookup {α : Type} {id : String} {m' : Sessions} {t : Task} (take : Session → α)
    (hm : m' = (lookupTouch m now id take).1) (ht : t.Passive) :
    FirstEffect m now (m', t, none, found m id (.touched id now)) := by
  subst hm
  cases h : m.get id with
  | none =>
    rw [lookupTouch_of_get_none _ _ _ _ h, found_of_none h]
    exact .keep ht (by simp)
  | some s =>
    rw [lookupTouch_of_get_some _ _ _ _ h, found_of_some h]
    exact .modify _ s.env s.cwd h rfl ht

end FirstEffect

lemma writeFile.lookup_fst (b64 : Base64) (m : Sessions) (now : Instant) (id : String)
    (req : WriteFileRequest) :
    (writeFile.lookup b64 m now id req).1 = (lookupTouch m now id Session.sandboxRoot).1 := by
  unfold writeFile.lookup
  split
  · next h => rw [h]
  · next h => split <;> rw [h]

lemma writeFilesBulk.lookup_fst (b64 : Base64) (m : Sessions) (now : Instant) (id : String)
    (req : WriteFilesRequest) :
    (writeFilesBulk.lookup b64 m now id req).1 = (lookupTouch m now id Session.sandboxRoot).1 := by
  unfold writeFilesBulk.lookup
  split
  · next h => rw [h]
  · next h => split <;> rw [h]

lemma deleteSession_of_get_some {m : Sessions} {id : String} {s : Session} (h : m.get id = some s) :
    deleteSession m id = ((m.remove id).2, some s.destroyJob, .ok StatusCode.noContent) := by
  rw [deleteSession, HashMap.remove_eq, h]
  rfl

lemma deleteSession_of_get_none {m : Sessions} {id : String} (h : m.get id = none) :
    deleteSession m id = (m, none, .error StatusCode.notFound) := by
  simp [deleteSession, HashMap.remove, h]

/-- The preview proxy's routing: a `404` that leaves the table, or the session the Host names,
touched, with its first port or `5173`. -/
lemma route_cases (st : AppState) (now : Instant) (host : String) :
    (∃ resp, (previewProxy.route st now host).2 = .error resp ∧
        (previewProxy.route st now host).1 = st.sessions) ∨
      ∃ id s, (previewProxy.route st now host).2 = .ok (id, s.ports.head?.getD 5173) ∧
        st.sessions.get id = some s ∧
        (previewProxy.route st now host).1 = st.sessions.modify id (Session.touch now) ∧
        (st.previewDomain.bind fun d => stripSuffix host ("." ++ d)) = some id := by
  unfold previewProxy.route
  cases st.previewDomain with
  | none => exact .inl ⟨_, rfl, rfl⟩
  | some d =>
    simp only [Option.bind_some]
    cases hs : stripSuffix host ("." ++ d) with
    | none => exact .inl ⟨_, rfl, rfl⟩
    | some k =>
      cases hk : st.sessions.get k with
      | none =>
        exact .inl ⟨⟨StatusCode.notFound, "Session " ++ k ++ " not found"⟩,
          by simp [HashMap.getMut, hk], by simp [HashMap.getMut, hk]⟩
      | some s =>
        exact .inr ⟨k, s, by simp [HashMap.getMut, hk], hk, by simp [HashMap.getMut, hk], by simp [hs]⟩

/-- **The first atomic section of every call**, on every registry, is one of the four effects. -/
theorem firstPhase_effect (b64 : Base64) (st : AppState) (now : Instant) (req : Request) :
    FirstEffect st.sessions now (firstPhase b64 st now req) := by
  cases req with
  | createSession req => exact .keep trivial (by simp)
  | listSessions => exact .keep trivial (by simp)
  | getSession id => exact .keep trivial fun _ he => ⟨id, mem_found he⟩
  | backgroundStatus id =>
    exact .keep (continueWith_passive fun ⟨_, _⟩ => trivial) fun _ he => ⟨id, mem_found he⟩
  | deleteSession id =>
    cases h : st.sessions.get id with
    | none =>
      simp only [firstPhase, deleteSession_of_get_none h, found_of_none h]
      exact .keep trivial (by simp)
    | some s =>
      simp only [firstPhase, deleteSession_of_get_some h, found_of_some h]
      exact .remove id s h trivial
  | setEnv id req =>
    cases h : st.sessions.get id with
    | none =>
      simp only [firstPhase, setEnv, HashMap.getMut_eq, h, Option.map_none', found_of_none h]
      exact .keep trivial (by simp)
    | some s =>
      simp only [firstPhase, setEnv, HashMap.getMut_eq, h, Option.map_some', found_of_some h]
      exact .modify _ (s.env.extend req.env) s.cwd h rfl trivial
  | setCwd id req =>
    cases h : st.sessions.get id with
    | none =>
      simp only [firstPhase, setCwd, HashMap.getMut_eq, h, Option.map_none', found_of_none h]
      exact .keep trivial (by simp)
    | some s =>
      simp only [firstPhase, setCwd, HashMap.getMut_eq, h, Option.map_some', found_of_some h]
      exact .modify _ s.env req.cwd h rfl trivial
  | runInSession id req => exact .lookup _ rfl (continueWith_passive fun ⟨_, _, _⟩ => trivial)
  | writeFile id req =>
    exact .lookup _ (writeFile.lookup_fst ..) (continueWith_passive fun ⟨_, _⟩ => trivial)
  | writeFilesBulk id req =>
    exact .lookup _ (writeFilesBulk.lookup_fst ..) (continueWith_passive fun ⟨_, _⟩ => trivial)
  | readFile id query => exact .lookup _ rfl (continueWith_passive fun _ => trivial)
  | listFiles id query => exact .lookup _ rfl (continueWith_passive fun _ => trivial)
  | runBackground id req => exact .lookup _ rfl (continueWith_passive fun ⟨_, _, _, _⟩ => trivial)
  | killBackground id =>
    cases h : st.sessions.get id with
    | none =>
      simp only [firstPhase, killBackground.clear, HashMap.getMut_eq, h, Option.map_none',
        found_of_none h, continueWith]
      exact .keep trivial (by simp)
    | some s =>
      simp only [firstPhase, killBackground.clear, HashMap.getMut_eq, h, Option.map_some',
        found_of_some h, continueWith, List.singleton_append]
      exact .clear id s h fun _ => HashMap.get_modify_of_get _ _ _ h
  | previewProxy host req =>
    rcases route_cases st now host with ⟨resp, h2, h1⟩ | ⟨id, s, h2, hs, h1, -⟩
    · simp only [firstPhase, h1, h2, continueWith]
      exact .keep trivial (by simp)
    · simp only [firstPhase, h1, h2, continueWith]
      exact .modify _ s.env s.cwd hs rfl trivial

lemma FirstEffect.task_cases {m : Sessions} {now : Instant} {r : Sessions × Task × Option (PathBuf × List Pid) × List Ev}
    (h : FirstEffect m now r) : r.2.1.Passive ∨ ∃ pids, r.2.1 = .killing pids := by
  cases h with
  | keep ht | touch _ _ _ _ _ _ ht | remove _ _ _ ht => exact .inl ht
  | clear => exact .inr ⟨_, rfl⟩

/-- A `Session` is built only from the root `create_session_sandbox` answered, with the preview URL
of its id. -/
lemma createSession.build_eq_ok {pd : Option String} {sid : String} {req : CreateSessionRequest}
    {created : Joined (Except String PathBuf)} {t₁ t₂ : Instant} {s : Session} {url : Option String}
    (h : createSession.build pd sid req created t₁ t₂ = .ok (s, url)) :
    ∃ root, created = .ok (.ok root) ∧ s = createSession.session sid root req url t₁ t₂ ∧
      url = createSession.previewUrl pd sid := by
  unfold createSession.build at h
  split at h <;> cases h
  exact ⟨_, rfl, rfl, rfl⟩

lemma runBackground.get_track (m : Sessions) (id : String) (pid : Pid) (port : Port) (k : String) :
    (runBackground.track m id pid port).get k =
      if k = id then (m.get k).map (Session.track pid port) else m.get k := by
  unfold runBackground.track
  rw [HashMap.getMut_eq]
  cases h : m.get id with
  | none => by_cases hk : k = id <;> simp [hk, h]
  | some s => rw [Option.map_some', HashMap.get_modify]; by_cases hk : k = id <;> simp [hk, h]

/-! ### Frames of a step -/

section Frames

variable {b64 : Base64} {w w' : World}

@[simp] lemma World.spawn_sessions (i : Nat) (id : String) (url : Option String)
    (req : BackgroundRunRequest) (spawned : Joined (Except String Pid)) :
    (w.spawn i id url req spawned).sessions = w.sessions :=
  runBackground.choosePort_sessions _ _

lemma World.reap_sessions : w.reap.sessions = (cleanupExpiredSessions w.sessions w.now).1 := rfl

/-- The clock never goes back. -/
lemma Step.now_le (h : Step b64 w w') : w.now ≤ w'.now := by
  cases h <;> first | exact le_rfl | exact Nat.le_add_right _ _

/-- The history only grows: every step puts its events in front. -/
lemma Step.history_suffix (h : Step b64 w w') : w.history <:+ w'.history := by
  cases h with
  | tick | call | spawn | kill | complete | respond | destroy => exact List.suffix_refl _
  | enter | createInsert | track | reap => exact List.suffix_append _ _
  | createSandbox => exact List.suffix_cons _ _

lemma set_of_ne {α : Type} {l : List α} {i k : Nat} {a b : α} (h : (l.set i a)[k]? = some b)
    (hne : a ≠ b) : l[k]? = some b := by
  rcases getElem?_set_eq_some h with ⟨-, rfl⟩ | ⟨-, h⟩
  · exact absurd rfl hne
  · exact h

/-- A `create_session` about to insert is one that was so before the step, or the one whose
sandbox the step created: its id was generated by that step, and its `Session` read the clock
before and after the step's time `d`. -/
lemma Step.inserting_cases {k : Nat} {sid : String} {s : Session} {url : Option String}
    (h : Step b64 w w') (hk : w'.tasks[k]? = some (.inserting sid s url)) :
    w.tasks[k]? = some (.inserting sid s url) ∨
      ∃ req root d, w.tasks[k]? = some (.start (.createSession req)) ∧ w'.now = w.now + d ∧
        Ev.generated k sid ∈ w'.history ∧ s = createSession.session sid root req url w.now (w.now + d) := by
  cases h with
  | tick | reap | destroy => exact .inl hk
  | call => exact (getElem?_concat_eq_some hk).imp_right fun h => nomatch h
  | enter i req =>
    refine .inl (set_of_ne hk fun h => ?_)
    rcases (firstPhase_effect b64 w.state w.now req).task_cases with hp | ⟨_, hp⟩ <;> rw [h] at hp
    · exact hp
    · cases hp
  | createSandbox i req sid' created d hi =>
    rcases getElem?_set_eq_some hk with ⟨rfl, hb⟩ | ⟨-, hk⟩
    · rcases continueWith_cases hb.symm with ⟨_, -, h⟩ | ⟨⟨s', url'⟩, hbuild, h⟩
      · cases h
      · cases h
        obtain ⟨root, -, rfl, -⟩ := createSession.build_eq_ok hbuild
        exact .inr ⟨req, root, d, hi, rfl, List.mem_cons_self _ _, rfl⟩
    · exact .inl hk
  | spawn i id _ _ _ url req spawned =>
    refine .inl (set_of_ne hk fun h => ?_)
    rcases continueWith_cases h with ⟨_, -, h⟩ | ⟨_, -, h⟩ <;> cases h
  | createInsert | track | kill | complete | respond => exact .inl (set_of_ne hk fun h => nomatch h)

lemma set_of_ne_done {α : Type} {l : List α} {i k : Nat} {a b c : α} (hi : l[i]? = some a)
    (hk : l[k]? = some b) (hne : a ≠ b) : (l.set i c)[k]? = some b := by
  rw [List.getElem?_set]
  split
  · subst k
    rw [hi, Option.some.injEq] at hk
    exact absurd hk hne
  · exact hk

/-- A call that returned stays returned, with its reply. -/
lemma Step.done_stable {k : Nat} {r : Reply} (h : Step b64 w w') (hk : w.tasks[k]? = some (.done r)) :
    w'.tasks[k]? = some (.done r) := by
  cases h with
  | tick | reap | destroy => exact hk
  | call => exact (List.getElem?_append_left (List.getElem?_eq_some_iff.1 hk).1).trans hk
  | enter _ _ hi | createSandbox _ _ _ _ _ hi | createInsert _ _ _ _ hi | spawn _ _ _ _ _ _ _ _ hi
  | track _ _ _ _ _ hi | kill _ _ _ hi | respond _ _ hi => exact set_of_ne_done hi hk nofun
  | complete i t o r' hi hr =>
    refine set_of_ne_done hi hk fun h => ?_
    subst h
    cases hr

/-- A key appears only by the insert of the `create_session` that holds its session. -/
lemma Step.get_some_cases {k : String} {s' : Session} (h : Step b64 w w')
    (hk : w'.sessions.get k = some s') :
    (w.sessions.get k).isSome ∨ ∃ (i : Nat) (url : Option String), w.tasks[i]? = some (.inserting k s' url) := by
  cases h with
  | tick | call | kill | complete | respond | destroy | createSandbox =>
    exact .inl (Option.isSome_iff_exists.2 ⟨s', hk⟩)
  | spawn => exact .inl (Option.isSome_iff_exists.2 ⟨s', by simpa using hk⟩)
  | enter i req =>
    left
    rcases hfp : firstPhase b64 w.state w.now req with ⟨m', t, j, evs⟩
    have he := firstPhase_effect b64 w.state w.now req
    rw [hfp] at he
    have hm' : (w.enter b64 i req).sessions = m' := by simp [World.enter, hfp]
    rw [hm'] at hk
    cases he with
    | keep => exact Option.isSome_iff_exists.2 ⟨s', hk⟩
    | touch id s _ _ hs hm | clear id s hs hm =>
      rw [hm] at hk
      split at hk
      · subst k; rw [hs]; rfl
      · exact Option.isSome_iff_exists.2 ⟨s', hk⟩
    | remove id s =>
      rw [HashMap.get_remove] at hk
      split at hk
      · cases hk
      · exact Option.isSome_iff_exists.2 ⟨s', hk⟩
  | createInsert i sid s url hi =>
    have hk' : (w.sessions.insert sid s).get k = some s' := hk
    rw [HashMap.get_insert] at hk'
    by_cases hks : k = sid
    · subst hks
      rw [if_pos rfl, Option.some.injEq] at hk'
      subst hk'
      exact .inr ⟨i, url, hi⟩
    · rw [if_neg hks] at hk'
      exact .inl (Option.isSome_iff_exists.2 ⟨s', hk'⟩)
  | track i id pid port url =>
    have hk' : (runBackground.track w.sessions id pid port).get k = some s' := hk
    rw [runBackground.get_track] at hk'
    split at hk'
    · obtain ⟨s, hs, -⟩ := Option.map_eq_some'.1 hk'
      exact .inl (Option.isSome_iff_exists.2 ⟨s, hs⟩)
    · exact .inl (Option.isSome_iff_exists.2 ⟨s', hk'⟩)
  | reap => exact .inl (Option.isSome_iff_exists.2 ⟨s', (get_cleanup.1 hk).1⟩)

/-- **Where a session of the next world comes from**: an entry of the table under the same key,
with a new environment, working directory and `last_used` (the clock's reading, or its own), or
emptied by `kill_background`, or extended by the tracking step of a `run_background`, whose call is
now returning the pid and the port; or the session a `create_session` inserts. -/
lemma Step.session_origin {k : String} {s' : Session} (h : Step b64 w w')
    (hk : w'.sessions.get k = some s') :
    (∃ s, w.sessions.get k = some s ∧
      ((∃ (env : Env) (cwd : String) (t : Instant), (t = s.lastUsed ∨ t = w.now) ∧
          s' = { s with env := env, cwd := cwd, lastUsed := t }) ∨
        s' = s.clearBackground w.now ∨
        ∃ (i : Nat) (pid : Pid) (port : Port) (url : Option String), s' = s.track pid port ∧
          w'.tasks[i]? = some (.returning (.runBackground (.ok ⟨pid, port, url⟩))))) ∨
      ∃ (i : Nat) (url : Option String), w.tasks[i]? = some (.inserting k s' url) := by
  cases h with
  | tick | call | kill | complete | respond | destroy | createSandbox =>
    exact .inl ⟨s', hk, .inl ⟨_, _, _, .inl rfl, rfl⟩⟩
  | spawn => exact .inl ⟨s', by simpa using hk, .inl ⟨_, _, _, .inl rfl, rfl⟩⟩
  | enter i req =>
    rcases hfp : firstPhase b64 w.state w.now req with ⟨m', t, j, evs⟩
    have he := firstPhase_effect b64 w.state w.now req
    rw [hfp] at he
    have hm' : (w.enter b64 i req).sessions = m' := by simp [World.enter, hfp]
    rw [hm'] at hk
    cases he with
    | keep => exact .inl ⟨s', hk, .inl ⟨_, _, _, .inl rfl, rfl⟩⟩
    | touch id s env cwd hs hm =>
      rw [hm] at hk
      split at hk
      · subst k
        cases hk
        exact .inl ⟨s, hs, .inl ⟨env, cwd, _, .inr rfl, rfl⟩⟩
      · exact .inl ⟨s', hk, .inl ⟨_, _, _, .inl rfl, rfl⟩⟩
    | clear id s hs hm =>
      rw [hm] at hk
      split at hk
      · subst k
        cases hk
        exact .inl ⟨s, hs, .inr (.inl rfl)⟩
      · exact .inl ⟨s', hk, .inl ⟨_, _, _, .inl rfl, rfl⟩⟩
    | remove id s =>
      rw [HashMap.get_remove] at hk
      split at hk
      · cases hk
      · exact .inl ⟨s', hk, .inl ⟨_, _, _, .inl rfl, rfl⟩⟩
  | createInsert i sid s url hi =>
    have hk' : (w.sessions.insert sid s).get k = some s' := hk
    rw [HashMap.get_insert] at hk'
    split at hk'
    · subst k
      cases hk'
      exact .inr ⟨i, url, hi⟩
    · exact .inl ⟨s', hk', .inl ⟨_, _, _, .inl rfl, rfl⟩⟩
  | track i id pid port url hi =>
    have hk' : (runBackground.track w.sessions id pid port).get k = some s' := hk
    rw [runBackground.get_track] at hk'
    split at hk'
    · obtain ⟨s, hs, rfl⟩ := Option.map_eq_some'.1 hk'
      exact .inl ⟨s, hs, .inr (.inr ⟨i, pid, port, url, rfl,
        List.getElem?_set_self (List.getElem?_eq_some_iff.1 hi).1⟩)⟩
    · exact .inl ⟨s', hk', .inl ⟨_, _, _, .inl rfl, rfl⟩⟩
  | reap => exact .inl ⟨s', (get_cleanup.1 hk).1, .inl ⟨_, _, _, .inl rfl, rfl⟩⟩

/-- A destruction task is one that was there, or the root and pids of a session that the step
removed from the table. -/
lemma Step.job_origin {job : PathBuf × List Pid} (h : Step b64 w w') (hj : job ∈ w'.jobs) :
    job ∈ w.jobs ∨ ∃ (id : String) (s : Session), w.sessions.get id = some s ∧
      w'.sessions.get id = none ∧ job = s.destroyJob := by
  cases h with
  | tick | call | createSandbox | createInsert | spawn | track | respond | kill | complete =>
    exact .inl hj
  | enter i req =>
    rcases hfp : firstPhase b64 w.state w.now req with ⟨m', t, j, evs⟩
    have he := firstPhase_effect b64 w.state w.now req
    rw [hfp] at he
    have hj' : job ∈ w.jobs ++ j.toList := by simpa [World.enter, hfp] using hj
    have hm' : (w.enter b64 i req).sessions = m' := by simp [World.enter, hfp]
    rcases List.mem_append.1 hj' with hj | hj
    · exact .inl hj
    · cases he with
      | remove id s hs =>
        refine .inr ⟨id, s, hs, ?_, List.mem_singleton.1 hj⟩
        rw [hm', HashMap.get_remove, if_pos rfl]
      | keep | touch | clear => cases hj
  | reap =>
    rcases List.mem_append.1 hj with hj | hj
    · exact .inl hj
    · rw [cleanup_jobs] at hj
      obtain ⟨e, he, rfl⟩ := List.mem_map.1 hj
      obtain ⟨hmem, hexp⟩ := List.mem_filter.1 he
      have hs := (HashMap.mem_entries_iff _ _).1 hmem
      exact .inr ⟨e.1, e.2, hs, get_cleanup_of_expired hs hexp, rfl⟩
  | destroy => exact .inl (List.mem_of_mem_eraseIdx hj)

/-- Runs of the service: any number of steps. -/
def Run (b64 : Base64) : World → World → Prop := Relation.ReflTransGen (Step b64)

lemma Run.history_suffix (h : Run b64 w w') : w.history <:+ w'.history := by
  induction h with
  | refl => exact List.suffix_refl _
  | tail _ hstep ih => exact ih.trans hstep.history_suffix

end Frames

/-- A codec for the runs on fixed inputs in this development, which write and read no file: it
decodes no content. -/
def Base64.rejectAll : Base64 := ⟨fun _ => .error "no content", fun _ => ""⟩

end OpenComputer
