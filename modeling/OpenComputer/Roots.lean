import OpenComputer.Timestamps

/-!
# Sandbox roots: one owner each

`create_session_sandbox(id)` materializes a root for the session and fails with `SandboxCreate`
when the root of `id` already exists (`SandboxCreates`); `destroy_session_sandbox(path)` removes
the root at `path`. `World.Owned` says that every root on disk was made for one id, at one path,
and has at most one owner: a session of the table, filed under the id its root was made for, a
`create_session` about to insert, or a destruction task not yet run. It holds in every reachable
world, whatever ids `Uuid::new_v4()` returns.

So `create_session`'s `sessions.insert(session_id, session)` never replaces a session
(`World.Owned.absent`): when `Uuid::new_v4()` repeats the id of a session, its root exists,
`create_session_sandbox` fails, and the call answers `500` before its critical section.
`sandbox_roots_unshared` states the ownership for the table and the destruction tasks.

The proof is one lemma per kind of step that changes an owner or the disk (`World.Owned.enter`,
`createSandbox`, `createInsert`, `reap`, `destroy`); every other step keeps the disk, the
destruction tasks and the keys and roots of the table (`World.Owned.of_frame`).
-/

namespace OpenComputer

/-- Two roots on disk at one path were made for one id. -/
lemma key_eq_of_mem {l : List (String × PathBuf)} (hp : (l.map Prod.snd).Nodup) {k₁ k₂ : String}
    {r : PathBuf} (h₁ : (k₁, r) ∈ l) (h₂ : (k₂, r) ∈ l) : k₁ = k₂ :=
  congrArg Prod.fst (List.inj_on_of_nodup_map hp h₁ h₂ rfl)

/-- An element of a list without the entry at `j` has another image, when the images are
distinct. -/
lemma map_ne_of_mem_eraseIdx {α β : Type} [DecidableEq α] {f : α → β} {l : List α} {j : Nat}
    {a b : α} (hl : (l.map f).Nodup) (ha : l[j]? = some a) (hb : b ∈ l.eraseIdx j) : f b ≠ f a := by
  obtain ⟨hj, rfl⟩ := List.getElem?_eq_some_iff.1 ha
  have hnd := hl.of_map f
  rw [← hnd.erase_getElem j hj, hnd.mem_erase_iff] at hb
  exact fun h => hb.1 (List.inj_on_of_nodup_map hl hb.2 (List.getElem_mem hj) h)

/-- Every root on disk was made for one id, at one path; the sessions of the table (each under the
id its root was made for), the sessions `create_session` is about to insert, and the destruction
tasks own roots on disk, no two the same. -/
structure World.Owned (w : World) : Prop where
  ids : (w.disk.map Prod.fst).Nodup
  paths : (w.disk.map Prod.snd).Nodup
  sessions : ∀ (k : String) (s : Session), w.sessions.get k = some s → (k, s.sandboxRoot) ∈ w.disk
  inserting : ∀ (i : Nat) (sid : String) (s : Session) (url : Option String),
    w.tasks[i]? = some (.inserting sid s url) → (sid, s.sandboxRoot) ∈ w.disk
  jobs : ∀ job ∈ w.jobs, job.1 ∈ w.disk.map Prod.snd
  /-- a session about to be inserted has an id the table does not have -/
  absent : ∀ (i : Nat) (sid : String) (s : Session) (url : Option String),
    w.tasks[i]? = some (.inserting sid s url) → w.sessions.get sid = none
  inserting_unique : ∀ (i j : Nat) (sid : String) (s s' : Session) (url url' : Option String),
    w.tasks[i]? = some (.inserting sid s url) → w.tasks[j]? = some (.inserting sid s' url') → i = j
  jobs_sessions : ∀ job ∈ w.jobs, ∀ (k : String) (s : Session), w.sessions.get k = some s →
    s.sandboxRoot ≠ job.1
  jobs_inserting : ∀ job ∈ w.jobs, ∀ (i : Nat) (sid : String) (s : Session) (url : Option String),
    w.tasks[i]? = some (.inserting sid s url) → s.sandboxRoot ≠ job.1
  jobs_nodup : (w.jobs.map Prod.fst).Nodup

namespace World.Owned

variable {b64 : Base64} {w w' : World}

lemma init (previewDomain : Option String) (t₀ : Instant) : (World.init previewDomain t₀).Owned where
  ids := List.nodup_nil
  paths := List.nodup_nil
  sessions _ _ h := nomatch h
  inserting _ _ _ _ h := nomatch h
  jobs _ h := nomatch h
  absent _ _ _ _ h := nomatch h
  inserting_unique _ _ _ _ _ _ _ h := nomatch h
  jobs_sessions _ h := nomatch h
  jobs_inserting _ h := nomatch h
  jobs_nodup := List.nodup_nil

/-- A session filed under `k` whose root is that of a session filed under `k'` is that session. -/
lemma key_eq (hw : w.Owned) {k k' : String} {s s' : Session} (hs : w.sessions.get k = some s)
    (hs' : w.sessions.get k' = some s') (hr : s.sandboxRoot = s'.sandboxRoot) : k = k' :=
  key_eq_of_mem hw.paths (hw.sessions k s hs) (hr ▸ hw.sessions k' s' hs')

/-- A step that keeps the disk, the destruction tasks, and the keys and roots of the table, and
starts no insert, keeps the ownership. -/
lemma of_frame (hw : w.Owned) (hdisk : w'.disk = w.disk) (hjobs : w'.jobs = w.jobs)
    (hs : ∀ (k : String) (s' : Session), w'.sessions.get k = some s' →
      ∃ s, w.sessions.get k = some s ∧ s'.sandboxRoot = s.sandboxRoot)
    (hins : ∀ (i : Nat) (sid : String) (s : Session) (url : Option String),
      w'.tasks[i]? = some (.inserting sid s url) → w.tasks[i]? = some (.inserting sid s url)) :
    w'.Owned where
  ids := hdisk ▸ hw.ids
  paths := hdisk ▸ hw.paths
  sessions k s' hk := by
    obtain ⟨s, hs, hr⟩ := hs k s' hk
    exact hdisk ▸ hr ▸ hw.sessions k s hs
  inserting i sid s url hi := hdisk ▸ hw.inserting i sid s url (hins i sid s url hi)
  jobs job hj := hdisk ▸ hw.jobs job (hjobs ▸ hj)
  absent i sid s url hi := Option.eq_none_iff_forall_not_mem.2 fun s' hk => by
    obtain ⟨_, hs, -⟩ := hs sid s' hk
    simp [hw.absent i sid s url (hins i sid s url hi)] at hs
  inserting_unique i j sid s s' url url' hi hj :=
    hw.inserting_unique i j sid s s' url url' (hins i sid s url hi) (hins j sid s' url' hj)
  jobs_sessions job hj k s' hk := by
    obtain ⟨s, hs, hr⟩ := hs k s' hk
    exact hr ▸ hw.jobs_sessions job (hjobs ▸ hj) k s hs
  jobs_inserting job hj i sid s url hi :=
    hw.jobs_inserting job (hjobs ▸ hj) i sid s url (hins i sid s url hi)
  jobs_nodup := hjobs ▸ hw.jobs_nodup

/-- The first atomic section of a call: it changes the table's entries but for their keys and
roots, or removes one and hands its root to a destruction task. -/
lemma enter (hw : w.Owned) (i : Nat) (req : Request) : (w.enter b64 i req).Owned := by
  rcases hfp : firstPhase b64 w.state w.now req with ⟨m', t, j, evs⟩
  have he := firstPhase_effect b64 w.state w.now req
  rw [hfp] at he
  have hm' : (w.enter b64 i req).sessions = m' := by simp [World.enter, hfp]
  have hjobs : (w.enter b64 i req).jobs = w.jobs ++ j.toList := by simp [World.enter, hfp]
  have hins : ∀ (k : Nat) (sid : String) (s : Session) (url : Option String),
      (w.enter b64 i req).tasks[k]? = some (.inserting sid s url) →
        w.tasks[k]? = some (.inserting sid s url) := by
    intro k sid s url hk
    refine set_of_ne (by simpa [World.enter, hfp] using hk) fun h => ?_
    rcases he.task_cases with hp | ⟨_, hp⟩ <;> rw [h] at hp
    · exact hp
    · cases hp
  cases he with
  | keep => exact hw.of_frame rfl (by simpa using hjobs) (fun k s' hk => ⟨s', by rwa [hm'] at hk, rfl⟩) hins
  | touch id s env cwd hs hm | clear id s hs hm =>
    refine hw.of_frame rfl (by simpa using hjobs) (fun k s' hk => ?_) hins
    rw [hm', hm] at hk
    split at hk
    · subst k; cases hk; exact ⟨s, hs, rfl⟩
    · exact ⟨s', hk, rfl⟩
  | remove id s hs =>
    have hold : ∀ k s', (w.enter b64 i req).sessions.get k = some s' → k ≠ id ∧ w.sessions.get k = some s' := by
      intro k s' hk
      rw [hm', HashMap.get_remove] at hk
      split at hk
      · cases hk
      · exact ⟨‹_›, hk⟩
    have hnew : ∀ job ∈ (w.enter b64 i req).jobs, job ∈ w.jobs ∨ job = s.destroyJob := by
      intro job hj
      rw [hjobs] at hj
      simpa using hj
    refine ⟨hw.ids, hw.paths, fun k s' hk => hw.sessions k s' (hold k s' hk).2,
      fun k sid s' url hk => hw.inserting k sid s' url (hins k sid s' url hk), fun job hj => ?_,
      fun k sid s' url hk => ?_, fun k l sid s₁ s₂ u₁ u₂ hk hl => hw.inserting_unique k l sid s₁ s₂ u₁ u₂
        (hins k sid s₁ u₁ hk) (hins l sid s₂ u₂ hl), fun job hj k s' hk => ?_,
      fun job hj k sid s' url hk => ?_, ?_⟩
    · rcases hnew job hj with hj | rfl
      · exact hw.jobs job hj
      · exact List.mem_map_of_mem _ (hw.sessions id s hs)
    · exact Option.eq_none_iff_forall_not_mem.2 fun s₀ hg => by
        simpa [hw.absent k sid s' url (hins k sid s' url hk)] using (hold sid s₀ hg).2
    · obtain ⟨hne, hk⟩ := hold k s' hk
      rcases hnew job hj with hj | rfl
      · exact hw.jobs_sessions job hj k s' hk
      · exact fun hr => hne (hw.key_eq hk hs hr)
    · have hk := hins k sid s' url hk
      rcases hnew job hj with hj | rfl
      · exact hw.jobs_inserting job hj k sid s' url hk
      · intro hr
        have hid : sid = id :=
          key_eq_of_mem hw.paths (hw.inserting k sid s' url hk) (by rw [hr]; exact hw.sessions id s hs)
        subst hid
        rw [hw.absent k sid s' url hk] at hs
        cases hs
    · rw [hjobs]
      simp only [Option.toList_some, List.map_append, List.map_singleton]
      refine List.nodup_append.2 ⟨hw.jobs_nodup, List.nodup_singleton _, ?_⟩
      simp only [List.disjoint_singleton, List.mem_map, not_exists, not_and]
      exact fun job hj hr => hw.jobs_sessions job hj id s hs hr.symm

/-- Appending an element whose image is new keeps the images distinct. -/
lemma nodup_map_append_singleton {α β : Type} {f : α → β} {l : List α} {a : α} (hl : (l.map f).Nodup)
    (ha : f a ∉ l.map f) : ((l ++ [a]).map f).Nodup := by
  rw [List.map_append, List.map_singleton, ← List.concat_eq_append]
  exact hl.concat ha

/-- `create_session` up to the write lock: a root made for an id with none, at a new path, owned
by the session the call is now about to insert. -/
lemma createSandbox (hw : w.Owned) {i : Nat} {req : CreateSessionRequest} {sid : String}
    {created : Joined (Except String PathBuf)} (d : Nat)
    (hc : SandboxCreates w.disk sid created) : (w.createSandbox i req sid created d).Owned := by
  have htask : ∀ (k : Nat) (sid' : String) (s : Session) (url : Option String),
      (w.createSandbox i req sid created d).tasks[k]? = some (.inserting sid' s url) →
        w.tasks[k]? = some (.inserting sid' s url) ∨
          (k = i ∧ sid' = sid ∧ created = .ok (.ok s.sandboxRoot)) := by
    intro k sid' s url hk
    rcases getElem?_set_eq_some hk with ⟨rfl, hb⟩ | ⟨-, hk⟩
    · rcases continueWith_cases hb.symm with ⟨_, -, h⟩ | ⟨⟨_, _⟩, hbuild, h⟩
      · cases h
      · cases h
        obtain ⟨_, hc, rfl, -⟩ := createSession.build_eq_ok hbuild
        exact .inr ⟨rfl, rfl, hc⟩
    · exact .inl hk
  have hfail (hne : ∀ root, created ≠ .ok (.ok root)) (hdisk : (w.createSandbox i req sid created d).disk = w.disk) :
      (w.createSandbox i req sid created d).Owned :=
    hw.of_frame hdisk rfl (fun k s' hk => ⟨s', hk, rfl⟩)
      fun k sid' s url hk => (htask k sid' s url hk).resolve_right fun ⟨_, _, h⟩ => hne _ h
  rcases created with e | e | root
  · exact hfail nofun (List.append_nil _)
  · exact hfail nofun (List.append_nil _)
  obtain ⟨hsid, hroot⟩ := hc
  have hdisk : (w.createSandbox i req sid (.ok (.ok root)) d).disk = w.disk ++ [(sid, root)] := rfl
  have hnew : ∀ (k : Nat) (sid' : String) (s : Session) (url : Option String),
      (w.createSandbox i req sid (.ok (.ok root)) d).tasks[k]? = some (.inserting sid' s url) →
        w.tasks[k]? = some (.inserting sid' s url) ∨ (k = i ∧ sid' = sid ∧ s.sandboxRoot = root) :=
    fun k sid' s url hk => (htask k sid' s url hk).imp_right fun ⟨hk, hs, h⟩ => ⟨hk, hs, by cases h; rfl⟩
  have hold : ∀ (k : Nat) (s : Session) (url : Option String), w.tasks[k]? = some (.inserting sid s url) → False :=
    fun k s url hk => hsid (List.mem_map_of_mem _ (hw.inserting k sid s url hk))
  refine ⟨?_, ?_, fun k s' hk => ?_, fun k sid' s url hk => ?_, fun job hj => ?_, fun k sid' s url hk => ?_,
    fun k l sid' s₁ s₂ u₁ u₂ hk hl => ?_, hw.jobs_sessions, fun job hj k sid' s url hk => ?_, hw.jobs_nodup⟩
  · rw [hdisk]; exact nodup_map_append_singleton hw.ids hsid
  · rw [hdisk]; exact nodup_map_append_singleton hw.paths hroot
  · rw [hdisk]; exact List.mem_append_left _ (hw.sessions k s' hk)
  · rw [hdisk]
    rcases hnew k sid' s url hk with hk | ⟨-, rfl, hr⟩
    · exact List.mem_append_left _ (hw.inserting k sid' s url hk)
    · rw [hr]; exact List.mem_append_right _ (List.mem_singleton_self _)
  · rw [hdisk, List.map_append]; exact List.mem_append_left _ (hw.jobs job hj)
  · rcases hnew k sid' s url hk with hk | ⟨-, rfl, -⟩
    · exact hw.absent k sid' s url hk
    · exact Option.eq_none_iff_forall_not_mem.2 fun s' hg => hsid (List.mem_map_of_mem _ (hw.sessions sid' s' hg))
  · rcases hnew k sid' s₁ u₁ hk with hk₁ | ⟨rfl, h₁, -⟩
    · rcases hnew l sid' s₂ u₂ hl with hl₁ | ⟨-, rfl, -⟩
      · exact hw.inserting_unique k l _ s₁ s₂ u₁ u₂ hk₁ hl₁
      · exact (hold k s₁ u₁ hk₁).elim
    · rcases hnew l sid' s₂ u₂ hl with hl₁ | ⟨rfl, -, -⟩
      · exact (hold l s₂ u₂ (h₁ ▸ hl₁)).elim
      · rfl
  · rcases hnew k sid' s url hk with hk | ⟨-, -, hr⟩
    · exact hw.jobs_inserting job hj k sid' s url hk
    · rw [hr]
      exact fun h => hroot (h ▸ hw.jobs job hj)

/-- `create_session`'s insert: the id is not in the table, and the session takes the root its
call owned. -/
lemma createInsert (hw : w.Owned) {i : Nat} {sid : String} {s : Session} {url : Option String}
    (hi : w.tasks[i]? = some (.inserting sid s url)) : (w.createInsert i sid s url).Owned := by
  have hget : ∀ k, (w.createInsert i sid s url).sessions.get k = if k = sid then some s else w.sessions.get k :=
    fun k => HashMap.get_insert _ _ _ _
  have hins : ∀ (k : Nat) (sid' : String) (s' : Session) (url' : Option String),
      (w.createInsert i sid s url).tasks[k]? = some (.inserting sid' s' url') →
        k ≠ i ∧ w.tasks[k]? = some (.inserting sid' s' url') := by
    intro k sid' s' url' hk
    rcases getElem?_set_eq_some hk with ⟨-, h⟩ | h
    · cases h
    · exact h
  refine ⟨hw.ids, hw.paths, fun k s' hk => ?_, fun k sid' s' url' hk => hw.inserting k sid' s' url' (hins k sid' s' url' hk).2,
    hw.jobs, fun k sid' s' url' hk => ?_, fun k l sid' s₁ s₂ u₁ u₂ hk hl =>
      hw.inserting_unique k l sid' s₁ s₂ u₁ u₂ (hins k sid' s₁ u₁ hk).2 (hins l sid' s₂ u₂ hl).2,
    fun job hj k s' hk => ?_, fun job hj k sid' s' url' hk => hw.jobs_inserting job hj k sid' s' url' (hins k sid' s' url' hk).2,
    hw.jobs_nodup⟩
  · rw [hget] at hk
    split at hk
    · subst k; cases hk; exact hw.inserting i sid s url hi
    · exact hw.sessions k s' hk
  · obtain ⟨hne, hk⟩ := hins k sid' s' url' hk
    have hsid : sid' ≠ sid := fun h => hne (hw.inserting_unique k i sid' s' s url' url hk (by rw [h]; exact hi))
    rw [hget, if_neg hsid]
    exact hw.absent k sid' s' url' hk
  · rw [hget] at hk
    split at hk
    · cases hk; exact hw.jobs_inserting job hj i sid s url hi
    · exact hw.jobs_sessions job hj k s' hk

/-- A tick of the reaper hands the roots of the expired sessions to destruction tasks. -/
lemma reap (hw : w.Owned) : w.reap.Owned := by
  have hold : ∀ k s', w.reap.sessions.get k = some s' → w.sessions.get k = some s' ∧ expired w.now s' = false :=
    fun k s' hk => get_cleanup.1 hk
  have hnew : ∀ job ∈ w.reap.jobs, job ∈ w.jobs ∨ ∃ e ∈ w.sessions.entries.filter fun e => expired w.now e.2,
      job = e.2.destroyJob := by
    intro job hj
    rcases List.mem_append.1 hj with hj | hj
    · exact .inl hj
    · rw [cleanup_jobs] at hj
      obtain ⟨e, he, rfl⟩ := List.mem_map.1 hj
      exact .inr ⟨e, he, rfl⟩
  have hentry : ∀ e ∈ w.sessions.entries, w.sessions.get e.1 = some e.2 :=
    fun e he => (HashMap.mem_entries_iff _ _).1 he
  refine ⟨hw.ids, hw.paths, fun k s' hk => hw.sessions k s' (hold k s' hk).1, hw.inserting,
    fun job hj => ?_, fun k sid s url hk => ?_, hw.inserting_unique, fun job hj k s' hk => ?_,
    fun job hj k sid s url hk => ?_, ?_⟩
  · rcases hnew job hj with hj | ⟨e, he, rfl⟩
    · exact hw.jobs job hj
    · exact List.mem_map_of_mem _ (hw.sessions e.1 e.2 (hentry e (List.mem_filter.1 he).1))
  · exact Option.eq_none_iff_forall_not_mem.2 fun s' hg => by
      simpa [hw.absent k sid s url hk] using (hold sid s' hg).1
  · obtain ⟨hk, hexp⟩ := hold k s' hk
    rcases hnew job hj with hj | ⟨e, he, rfl⟩
    · exact hw.jobs_sessions job hj k s' hk
    · obtain ⟨hmem, hexp'⟩ := List.mem_filter.1 he
      intro hr
      have he := hentry e hmem
      rw [← hw.key_eq hk he hr, hk, Option.some.injEq] at he
      subst he
      simp [hexp] at hexp'
  · rcases hnew job hj with hj | ⟨e, he, rfl⟩
    · exact hw.jobs_inserting job hj k sid s url hk
    · intro hr
      have he := hentry e (List.mem_filter.1 he).1
      have hid : sid = e.1 :=
        key_eq_of_mem hw.paths (hw.inserting k sid s url hk) (by rw [hr]; exact hw.sessions e.1 e.2 he)
      rw [← hid, hw.absent k sid s url hk] at he
      cases he
  · show ((w.jobs ++ (cleanupExpiredSessions w.sessions w.now).2).map Prod.fst).Nodup
    rw [cleanup_jobs, List.map_append, List.map_map]
    refine List.nodup_append.2 ⟨hw.jobs_nodup, ?_, ?_⟩
    · refine List.Nodup.map_on (fun x hx y hy h => ?_) ((w.sessions.nodup.of_map _).filter _)
      have hx := hentry x (List.mem_filter.1 hx).1
      have hy := hentry y (List.mem_filter.1 hy).1
      have hk : x.1 = y.1 := hw.key_eq hx hy h
      rw [hk, hy, Option.some.injEq] at hx
      exact Prod.ext hk hx.symm
    · intro r hr hr'
      obtain ⟨job, hj, rfl⟩ := List.mem_map.1 hr
      obtain ⟨e, he, hre⟩ := List.mem_map.1 hr'
      exact hw.jobs_sessions job hj e.1 e.2 (hentry e (List.mem_filter.1 he).1) hre

/-- A destruction task removes its root, which no other owner holds. -/
lemma destroy (hw : w.Owned) {j : Nat} {job : PathBuf × List Pid} (hj : w.jobs[j]? = some job) :
    (w.destroy j job).Owned := by
  have hjob : job ∈ w.jobs := List.getElem?_mem hj
  have hkeep : ∀ {e : String × PathBuf}, e ∈ w.disk → e.2 ≠ job.1 → e ∈ (w.destroy j job).disk :=
    fun he hne => List.mem_filter.2 ⟨he, by simpa using hne⟩
  have hsub : ((w.destroy j job).disk).Sublist w.disk := List.filter_sublist _
  refine ⟨hw.ids.sublist (hsub.map _), hw.paths.sublist (hsub.map _),
    fun k s hk => hkeep (hw.sessions k s hk) (hw.jobs_sessions job hjob k s hk),
    fun i sid s url hi => hkeep (hw.inserting i sid s url hi) (hw.jobs_inserting job hjob i sid s url hi),
    fun job' hj' => ?_, hw.absent, hw.inserting_unique,
    fun job' hj' => hw.jobs_sessions job' (List.mem_of_mem_eraseIdx hj'),
    fun job' hj' => hw.jobs_inserting job' (List.mem_of_mem_eraseIdx hj'),
    hw.jobs_nodup.sublist ((List.eraseIdx_sublist _ _).map _)⟩
  obtain ⟨e, he, hr⟩ := List.mem_map.1 (hw.jobs job' (List.mem_of_mem_eraseIdx hj'))
  exact List.mem_map.2 ⟨e, hkeep he (hr ▸ map_ne_of_mem_eraseIdx hw.jobs_nodup hj hj'), hr⟩

/-- **One step keeps every root owned once.** -/
lemma step (hw : w.Owned) (h : Step b64 w w') : w'.Owned := by
  have same : ∀ (k : String) (s' : Session), w.sessions.get k = some s' →
      ∃ s, w.sessions.get k = some s ∧ s'.sandboxRoot = s.sandboxRoot := fun k s' hk => ⟨s', hk, rfl⟩
  cases h with
  | tick => exact hw.of_frame rfl rfl same fun _ _ _ _ hk => hk
  | call => exact hw.of_frame rfl rfl same fun _ _ _ _ hk => (getElem?_concat_eq_some hk).resolve_right nofun
  | enter i req => exact hw.enter i req
  | createSandbox i req sid created d _ hc => exact hw.createSandbox d hc
  | createInsert i sid s url hi => exact hw.createInsert hi
  | spawn =>
    refine hw.of_frame rfl rfl (fun k s' hk => same k s' (by simpa using hk)) fun _ _ _ _ hk => set_of_ne hk fun h => ?_
    rcases continueWith_cases h with ⟨_, -, h⟩ | ⟨_, -, h⟩ <;> cases h
  | track i id pid port url =>
    refine hw.of_frame rfl rfl (fun k s' hk => ?_) fun _ _ _ _ hk => set_of_ne hk nofun
    have hk' : (runBackground.track w.sessions id pid port).get k = some s' := hk
    rw [runBackground.get_track] at hk'
    split at hk'
    · obtain ⟨s, hs, rfl⟩ := Option.map_eq_some'.1 hk'
      exact ⟨s, hs, rfl⟩
    · exact same k s' hk'
  | respond | kill | complete => exact hw.of_frame rfl rfl same fun _ _ _ _ hk => set_of_ne hk nofun
  | reap => exact hw.reap
  | destroy j job hj => exact hw.destroy hj

lemma reachable (h : Reachable b64 w) : w.Owned := by
  induction h with
  | init previewDomain t₀ => exact init previewDomain t₀
  | step _ hstep ih => exact ih.step hstep

end World.Owned

end OpenComputer
