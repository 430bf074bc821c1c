import OpenComputer.Timestamps

/-!
# What the reaper's test says about a session's use

The reaper removes a session when `now.duration_since(last_used) > SESSION_TTL`. Which uses of a
session does `last_used` record? The lookups that set it: the first critical section of
`set_env`, `set_cwd`, `run_in_session`, `run_background`, the file handlers and
`kill_background`, and the preview proxy's routing, each of which writes the clock of its step.
`touchedSince id h` lists those writes since the session was created, from the history;
`World.TouchedBefore` says each is at most `last_used`. So (`reaped_touches_older_than_ttl`) when
the reaper removes a session, every such lookup was more than `SESSION_TTL_SECS` before.

Nothing else is recorded. The tracking step of `run_background` finds the session with
`get_mut` under the write lock and leaves `last_used` alone; `get_session` and
`background_status` look it up under the read lock and leave it alone too; and a call that
looked it up is not tracked while its blocking work runs. `reaper_removes_session_in_use` is a run in which the reaper removes a
session while a `run_in_session` on it is still running, just after a `get_session` of it.
-/

namespace OpenComputer

/-- The clock readings of the write-lock lookups of `id` since it was last inserted, newest
first. -/
def touchedSince (id : String) : List Ev → List Instant
  | [] => []
  | .inserted k :: h => if k = id then [] else touchedSince id h
  | .touched k t :: h => if k = id then t :: touchedSince id h else touchedSince id h
  | .generated .. :: h | .removed _ :: h | .read .. :: h | .tracked .. :: h | .cleared _ :: h =>
    touchedSince id h

lemma touchedSince_cons_of_ne {id : String} {e : Ev} (h : List Ev) (hi : e ≠ .inserted id)
    (ht : ∀ t, e ≠ .touched id t) : touchedSince id (e :: h) = touchedSince id h := by
  cases e <;> simp_all [touchedSince]

lemma touchedSince_append_of_ne {id : String} {evs : List Ev} (h : List Ev)
    (hevs : ∀ e ∈ evs, e ≠ .inserted id ∧ ∀ t, e ≠ .touched id t) :
    touchedSince id (evs ++ h) = touchedSince id h := by
  induction evs with
  | nil => rfl
  | cons e evs ih =>
    obtain ⟨hi, ht⟩ := hevs e (List.mem_cons_self _ _)
    rw [List.cons_append, touchedSince_cons_of_ne _ hi ht,
      ih fun e' he' => hevs e' (List.mem_cons_of_mem _ he')]

/-- Every write-lock lookup of a session since its creation was at most its `last_used`. -/
def World.TouchedBefore (w : World) : Prop :=
  ∀ id s, w.sessions.get id = some s → ∀ t ∈ touchedSince id w.history, t ≤ s.lastUsed

namespace World.TouchedBefore

variable {b64 : Base64} {w w' : World}

/-- A step whose events record no insert and no write-lock lookup, and which changes no
`last_used` and adds no entry, keeps the invariant. -/
lemma of_frame (hw : w.TouchedBefore) {evs : List Ev} (hh : w'.history = evs ++ w.history)
    (hevs : ∀ e ∈ evs, ∀ id, e ≠ .inserted id ∧ ∀ t, e ≠ .touched id t)
    (hs : ∀ id s', w'.sessions.get id = some s' → ∃ s, w.sessions.get id = some s ∧ s.lastUsed = s'.lastUsed) :
    w'.TouchedBefore := by
  intro id s' hs' t ht
  obtain ⟨s, hs, hlast⟩ := hs id s' hs'
  rw [hh, touchedSince_append_of_ne _ fun e he => hevs e he id] at ht
  exact hlast ▸ hw id s hs t ht

/-- The lookup at `now` that wrote `last_used := now` into `id`. -/
lemma touched_self {id : String} {s : Session} {now : Instant} {h : List Ev}
    (hw : ∀ t ∈ touchedSince id h, t ≤ s.lastUsed) (hnow : s.lastUsed ≤ now) :
    ∀ t ∈ touchedSince id (.touched id now :: h), t ≤ now := by
  simp only [touchedSince, if_true, List.mem_cons]
  rintro t (rfl | ht)
  · exact le_rfl
  · exact (hw t ht).trans hnow

lemma enter (hw : w.TouchedBefore) (ht : w.Timely) (i : Nat) (req : Request) :
    (w.enter b64 i req).TouchedBefore := by
  have hnow := ht.sessions
  rcases hfp : firstPhase b64 w.state w.now req with ⟨m', t, j, evs⟩
  have he := firstPhase_effect b64 w.state w.now req
  rw [hfp] at he
  have hw' : (w.enter b64 i req).history = evs ++ w.history := by simp [World.enter, hfp]
  have hm' : (w.enter b64 i req).sessions = m' := by simp [World.enter, hfp]
  cases he with
  | keep _ hevs =>
    refine of_frame hw hw' (fun e he k => ?_) fun k s' hs' => ⟨s', by rwa [hm'] at hs', rfl⟩
    obtain ⟨_, rfl⟩ := hevs e he
    exact ⟨nofun, nofun⟩
  | remove id s =>
    refine of_frame hw hw' (fun e he k => ?_) fun k s' hs' => ?_
    · simp only [List.mem_singleton] at he
      subst he
      exact ⟨nofun, nofun⟩
    · rw [hm', HashMap.get_remove] at hs'
      split at hs'
      · cases hs'
      · exact ⟨s', hs', rfl⟩
  | touch id s env cwd hs hm =>
    intro k s' hs' t' ht'
    rw [hm', hm] at hs'
    rw [hw'] at ht'
    split at hs'
    · subst k; cases hs'
      exact touched_self (hw id s hs) (hnow id s hs).2 t' ht'
    · simp only [List.singleton_append, touchedSince, if_neg (Ne.symm ‹¬k = id›)] at ht'
      exact hw k s' hs' t' ht'
  | clear id s hs hm =>
    intro k s' hs' t' ht'
    rw [hm', hm] at hs'
    rw [hw', List.cons_append, List.singleton_append, touchedSince] at ht'
    split at hs'
    · subst k; cases hs'
      exact touched_self (hw id s hs) (hnow id s hs).2 t' ht'
    · simp only [touchedSince, if_neg (Ne.symm ‹¬k = id›)] at ht'
      exact hw k s' hs' t' ht'

/-- **One step keeps the lookups of every session at most its `last_used`.** -/
lemma step (hw : w.TouchedBefore) (ht : w.Timely) (h : Step b64 w w') : w'.TouchedBefore := by
  cases h with
  | tick | call | kill | complete | respond | destroy => exact hw
  | spawn => exact fun id s hs => hw id s (by simpa using hs)
  | enter i req => exact hw.enter ht i req
  | createSandbox i req sid =>
    exact of_frame hw (show _ = [.generated i sid] ++ w.history from rfl) (fun e he k => by
      simp only [List.mem_singleton] at he; subst he; exact ⟨nofun, nofun⟩)
      fun k s' hs' => ⟨s', hs', rfl⟩
  | createInsert i sid s url =>
    intro k s' hs' t ht'
    simp only [World.createInsert, World.log, World.setTask, World.setSessions, World.sessions,
      HashMap.get_insert] at hs' ht'
    split at hs'
    · subst k; simp [touchedSince] at ht'
    · simp only [List.singleton_append, touchedSince, if_neg (Ne.symm ‹¬k = sid›)] at ht'
      exact hw k s' hs' t ht'
  | track i id pid port url =>
    refine of_frame hw (show _ = [.tracked id port] ++ w.history from rfl) (fun e he k => by
      simp only [List.mem_singleton] at he; subst he; exact ⟨nofun, nofun⟩) fun k s' hs' => ?_
    simp only [World.track, World.log, World.setTask, World.setSessions, World.sessions,
      runBackground.get_track] at hs'
    split at hs'
    · obtain ⟨s, hs, rfl⟩ := Option.map_eq_some'.1 hs'
      exact ⟨s, hs, rfl⟩
    · exact ⟨s', hs', rfl⟩
  | reap =>
    refine of_frame hw rfl (fun e he k => ?_) fun k s' hs' => ⟨s', (get_cleanup.1 hs').1, rfl⟩
    obtain ⟨_, -, rfl⟩ := List.mem_map.1 he
    exact ⟨nofun, nofun⟩

lemma reachable (h : Reachable b64 w) : w.TouchedBefore := by
  induction h with
  | init => intro _ _ h; simp [World.init, World.sessions, AppState.withPreviewDomain] at h
  | step hr hstep ih => exact ih.step (World.Timely.reachable hr) hstep

end World.TouchedBefore

/-- **The reaper removes only sessions not looked up under the write lock for longer than the
TTL.** In every reachable world, if the reaper's tick removes `id`, then its `last_used`, and
every write-lock lookup of it since it was created, are more than `SESSION_TTL_SECS` old. -/
theorem reaped_touches_older_than_ttl {b64 : Base64} {w : World} {id : String} {s : Session}
    (hw : Reachable b64 w) (hs : w.sessions.get id = some s) (hgone : w.reap.sessions.get id = none) :
    durationSince w.now s.lastUsed > Duration.fromSecs sessionTtlSecs ∧
      ∀ t ∈ touchedSince id w.history, durationSince w.now t > Duration.fromSecs sessionTtlSecs := by
  have hexp : expired w.now s = true := by
    by_contra hne
    have : w.reap.sessions.get id = some s := get_cleanup.2 ⟨hs, by simpa using hne⟩
    rw [hgone] at this
    cases this
  have hlast : durationSince w.now s.lastUsed > Duration.fromSecs sessionTtlSecs := by
    simpa [expired] using hexp
  refine ⟨hlast, fun t ht => ?_⟩
  exact lt_of_lt_of_le hlast (Nat.sub_le_sub_left (World.TouchedBefore.reachable hw id s hs t ht) _)

/-- A run of ten minutes, with the default limits otherwise. -/
def longRun : RunRequest :=
  ⟨["sleep", "600"], 600000, defaultMem, defaultFsize, defaultNofile, .empty, defaultCwd⟩

/-- Session `"s"` created at `0`, a `run_in_session` of `longRun` on it that looked it up at `5`
and is still running, `301` seconds on the clock, and a `get_session` of it. -/
def busyWorld (b64 : Base64) : World :=
  let w₁ : World := { createdWorld with tasks := createdWorld.tasks ++ [.start (.runInSession "s" longRun)] }
  let w₂ := w₁.enter b64 1 (.runInSession "s" longRun)
  let w₃ : World := { w₂ with now := w₂.now + 301000000000 }
  let w₄ : World := { w₃ with tasks := w₃.tasks ++ [.start (.getSession "s")] }
  w₄.enter b64 2 (.getSession "s")

lemma busyWorld_reachable (b64 : Base64) : Reachable b64 (busyWorld b64) := by
  refine .step (.step (.step (.step (.step (createdWorld_reachable b64) (.call _ _))
    (.enter _ 1 _ ?_)) (.tick _ _)) (.call _ _)) (.enter _ 2 _ ?_) <;> rfl

lemma busyWorld_get (b64 : Base64) :
    (busyWorld b64).sessions.get "s" = some (createSession.session "s" "/sandboxes/s" ⟨.empty⟩ none 0 5) :=
  rfl

lemma busyWorld_now (b64 : Base64) : (busyWorld b64).now = 301000000005 := by
  show createdWorld.now + 301000000000 = _
  rfl

lemma busyWorld_reap_get (b64 : Base64) : (busyWorld b64).reap.sessions.get "s" = none := by
  rw [World.reap_sessions, busyWorld_now]
  exact get_cleanup_of_expired (busyWorld_get b64) (by decide)

theorem reaped_touches_older_than_ttl_busyWorld :
    (busyWorld Base64.rejectAll).sessions.get "s" =
        some (createSession.session "s" "/sandboxes/s" ⟨.empty⟩ none 0 5) ∧
      (busyWorld Base64.rejectAll).reap.sessions.get "s" = none ∧
      ∀ t ∈ touchedSince "s" (busyWorld Base64.rejectAll).history,
        durationSince (busyWorld Base64.rejectAll).now t > Duration.fromSecs sessionTtlSecs :=
  ⟨busyWorld_get _, busyWorld_reap_get _,
    (reaped_touches_older_than_ttl (busyWorld_reachable _) (busyWorld_get _) (busyWorld_reap_get _)).2⟩

/-- **The reaper removes a session in use.** In `busyWorld`, a reachable world, the reaper's
tick removes `"s"` while the `run_in_session` on it is still running, and just after a
`get_session` looked it up. -/
theorem reaper_removes_session_in_use :
    Reachable Base64.rejectAll (busyWorld Base64.rejectAll) ∧
      ((busyWorld Base64.rejectAll).sessions.get "s").isSome ∧
      (busyWorld Base64.rejectAll).reap.sessions.get "s" = none ∧
      (busyWorld Base64.rejectAll).reap.tasks[1]? =
        some (.running "s" "/sandboxes/s" (runInSession.config longRun .empty "/")) ∧
      (busyWorld Base64.rejectAll).history.head? = some (.read "s" (busyWorld Base64.rejectAll).now) :=
  ⟨busyWorld_reachable _, by rw [busyWorld_get]; rfl, busyWorld_reap_get _, rfl, rfl⟩

end OpenComputer
