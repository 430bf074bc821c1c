import OpenComputer.Keys
import OpenComputer.Roots

/-!
# Background pids: how they leave a session

A pid leaves `background_pids` only in three critical sections, and each hands it to `SIGKILL`:

* `kill_background` clones the list before clearing it, and its task then sends `SIGKILL` to
  each pid of the clone (`Task.killing`, then `Step.kill`);
* `delete_session` and the reaper remove the whole session and give its `background_pids` to a
  destruction task (`World.jobs`), which sends `SIGKILL` to each before destroying the sandbox
  (`Step.destroy`).

`pids_leave_through_sigkill` says this for every step of every reachable world. No other step
takes a pid out: in particular `create_session`'s `HashMap::insert` never replaces a session,
since a session about to be inserted has an id the table does not have (`World.Owned.absent`).

The other direction fails: `background_pid_orphaned` is a run in which `delete_session` runs
between the spawn of a background process and `run_background`'s tracking step. The tracking
step finds no session and records nothing, so the pid is in no session, no destruction task and
no kill, and the call still answers `Ok`.
-/

namespace OpenComputer

lemma inserted_mem_of_live {id : String} : ∀ {h : List Ev}, live id h = true → Ev.inserted id ∈ h
  | [], hl => by simp [live] at hl
  | e :: h, hl => by
    cases e with
    | inserted k =>
      by_cases hk : k = id
      · subst hk; exact List.mem_cons_self _ _
      · simp only [live, hk, if_false] at hl; exact List.mem_cons_of_mem _ (inserted_mem_of_live hl)
    | removed k =>
      by_cases hk : k = id
      · simp [live, hk] at hl
      · simp only [live, hk, if_false] at hl; exact List.mem_cons_of_mem _ (inserted_mem_of_live hl)
    | _ => exact List.mem_cons_of_mem _ (inserted_mem_of_live hl)

/-- **Where a session's pids go in a first atomic section**: they stay, as a prefix of the
session's new list, or the section is `kill_background`'s and its task holds them, or it removed
the session and hands them to a destruction task. -/
lemma FirstEffect.pids_kept_or_handed {m m' : Sessions} {now : Instant} {t : Task}
    {j : Option (PathBuf × List Pid)} {evs : List Ev} (he : FirstEffect m now (m', t, j, evs))
    {id : String} {s : Session} (hs : m.get id = some s) :
    (∃ s', m'.get id = some s' ∧ s.backgroundPids <+: s'.backgroundPids) ∨
      t = .killing s.backgroundPids ∨ j = some s.destroyJob := by
  cases he with
  | keep => exact .inl ⟨s, hs, List.prefix_refl _⟩
  | touch id₀ s₀ env cwd hs₀ hm =>
    by_cases hk : id = id₀
    · subst hk
      cases hs₀.symm.trans hs
      exact .inl ⟨_, (hm id).trans (if_pos rfl), List.prefix_refl _⟩
    · exact .inl ⟨s, by rw [hm, if_neg hk, hs], List.prefix_refl _⟩
  | clear id₀ s₀ hs₀ hm =>
    by_cases hk : id = id₀
    · subst hk
      cases hs₀.symm.trans hs
      exact .inr (.inl rfl)
    · exact .inl ⟨s, by rw [hm, if_neg hk, hs], List.prefix_refl _⟩
  | remove id₀ s₀ hs₀ =>
    by_cases hk : id = id₀
    · subst hk
      cases hs₀.symm.trans hs
      exact .inr (.inr rfl)
    · exact .inl ⟨s, by rw [HashMap.get_remove, if_neg hk, hs], List.prefix_refl _⟩

section Steps

variable {b64 : Base64} {w w' : World}

/-- **Where a session's pids go in one step**: they stay, as a prefix of the session's new list,
or the step is `kill_background`'s critical section and its task holds them, or the step removed
the session and handed them to a destruction task. -/
lemma pids_kept_or_handed (hw : Reachable b64 w) (h : Step b64 w w') {id : String} {s : Session}
    (hs : w.sessions.get id = some s) :
    (∃ s', w'.sessions.get id = some s' ∧ s.backgroundPids <+: s'.backgroundPids) ∨
      (∃ (i : Nat) (req : Request), w.tasks[i]? = some (.start req) ∧
        w'.tasks[i]? = some (.killing s.backgroundPids)) ∨
      s.destroyJob ∈ w'.jobs.drop w.jobs.length := by
  cases h with
  | tick | call | kill | complete | respond | destroy | createSandbox =>
    exact .inl ⟨s, hs, List.prefix_refl _⟩
  | spawn => exact .inl ⟨s, by simpa using hs, List.prefix_refl _⟩
  | enter i req hi =>
    rcases hfp : firstPhase b64 w.state w.now req with ⟨m', t, j, evs⟩
    have he := firstPhase_effect b64 w.state w.now req
    rw [hfp] at he
    simp only [World.enter, hfp, List.drop_left]
    rcases he.pids_kept_or_handed hs with h | rfl | rfl
    · exact .inl h
    · exact .inr (.inl ⟨i, req, hi, List.getElem?_set_self (List.getElem?_eq_some_iff.1 hi).1⟩)
    · exact .inr (.inr (List.mem_singleton_self _))
  | createInsert i sid s₀ url hi =>
    have hk : id ≠ sid := fun h => by
      rw [h, (World.Owned.reachable hw).absent i sid s₀ url hi] at hs
      cases hs
    exact .inl ⟨s, show (w.sessions.insert sid s₀).get id = some s by
      rw [HashMap.get_insert, if_neg hk, hs], List.prefix_refl _⟩
  | track i id₀ pid port url =>
    refine .inl ?_
    show ∃ s', (runBackground.track w.sessions id₀ pid port).get id = some s' ∧ _
    rw [runBackground.get_track]
    split
    · exact ⟨_, by rw [hs]; rfl, List.prefix_append _ _⟩
    · exact ⟨s, hs, List.prefix_refl _⟩
  | reap =>
    cases hexp : expired w.now s
    · exact .inl ⟨s, get_cleanup.2 ⟨hs, hexp⟩, List.prefix_refl _⟩
    · refine .inr (.inr ?_)
      show s.destroyJob ∈ (w.jobs ++ (cleanupExpiredSessions w.sessions w.now).2).drop w.jobs.length
      rw [List.drop_left, cleanup_jobs]
      exact List.mem_map.2 ⟨(id, s), List.mem_filter.2 ⟨(HashMap.mem_entries_iff _ id).2 hs, hexp⟩, rfl⟩

/-- A `kill_background` task keeps its snapshot until its own step sends `SIGKILL` to each pid of
it. -/
lemma Step.killing_stable {i : Nat} {pids : List Pid} (h : Step b64 w w')
    (hk : w.tasks[i]? = some (.killing pids)) :
    w'.tasks[i]? = some (.killing pids) ∨ w'.signals = w.signals ++ pids := by
  cases h with
  | tick | reap | destroy => exact .inl hk
  | call => exact .inl ((List.getElem?_append_left (List.getElem?_eq_some_iff.1 hk).1).trans hk)
  | enter _ _ hi | createSandbox _ _ _ _ _ hi | createInsert _ _ _ _ hi | spawn _ _ _ _ _ _ _ _ hi
  | track _ _ _ _ _ hi | respond _ _ hi => exact .inl (set_of_ne_done hi hk nofun)
  | complete i' t o r hi hr =>
    refine .inl (set_of_ne_done hi hk fun h => ?_)
    subst h
    cases hr
  | kill i' pids' killed hi =>
    by_cases hii : i' = i
    · subst hii
      rw [hi, Option.some.injEq, Task.killing.injEq] at hk
      subst hk
      exact .inr rfl
    · exact .inl (by rw [World.kill, World.setTask]; rw [List.getElem?_set_ne hii]; exact hk)

/-- The destruction tasks only grow, but for the one a step runs: it sends `SIGKILL` to each of its
pids. -/
lemma Step.jobs_cases (h : Step b64 w w') :
    w.jobs <+: w'.jobs ∨ ∃ j job, w.jobs[j]? = some job ∧ w'.jobs = w.jobs.eraseIdx j ∧
      w'.signals = w.signals ++ job.2 := by
  cases h with
  | destroy j job hj => exact .inr ⟨j, job, hj, rfl, rfl⟩
  | enter | reap => exact .inl (List.prefix_append _ _)
  | tick | call | createSandbox | createInsert | spawn | track | respond | kill | complete =>
    exact .inl (List.prefix_refl _)

end Steps

/-- `spawnedWorld` after its tracking step, with a `kill_background` of `"s"` called. -/
def killWorld (b64 : Base64) : World :=
  let w := (spawnedWorld b64).track 1 "s" 42 10000 none
  { w with tasks := w.tasks ++ [.start (.killBackground "s")] }

lemma killWorld_reachable (b64 : Base64) : Reachable b64 (killWorld b64) :=
  .step (.step (spawnedWorld_reachable b64) (.track _ 1 "s" 42 10000 none (spawnedWorld_tracking b64)))
    (.call _ _)

/-- `deletedWorld` after the tracking step and the return of its `run_background`, and after the
destruction task of `"s"` ran. -/
def orphanWorld (b64 : Base64) : World :=
  (answeredWorld b64).destroy 0 ("/sandboxes/s", [])

/-- **A background process is orphaned.** In a run reachable for every codec, `delete_session`
runs between the spawn of pid `42` and `run_background`'s tracking step: every call has returned,
`run_background` with `Ok` and pid `42`, yet no session is left to hold `42`, no destruction
task or `kill_background` is pending, and no `SIGKILL` was sent at all. -/
theorem background_pid_orphaned (b64 : Base64) :
    Reachable b64 (orphanWorld b64) ∧
      (orphanWorld b64).tasks =
        [.done (.createSession (.ok ⟨"s", none⟩)), .done (.runBackground (.ok ⟨42, 10000, none⟩)),
          .done (.status (.ok StatusCode.noContent))] ∧
      (orphanWorld b64).sessions.keys = [] ∧ (orphanWorld b64).jobs = [] ∧
      (orphanWorld b64).signals = [] := by
  refine ⟨?_, rfl, rfl, rfl, rfl⟩
  refine .step (.step (.step (deletedWorld_reachable b64) (.track _ 1 "s" 42 10000 none ?_)) (.respond _ 1 _ ?_))
    (.destroy _ 0 _ ?_)
  all_goals rfl

end OpenComputer
