import OpenComputer.Provenance
import OpenComputer.Expiry

/-!
# A call's blocking work stays in the sandbox of its session

The handlers that work in a session's sandbox (`run_in_session`, `write_file`, `write_files_bulk`,
`read_file`, `list_files`, `run_background`, `background_status`) read the session's
`sandbox_root` in their first critical section and hand it to their blocking work, which runs
after the lock is released, while other calls and the reaper go on.

`World.Rooted`: in every reachable world in which `create_session` never generated an id twice,
the root that such a task holds is the root of the session its id names, as long as the id is in
the table (`blocking_work_in_own_sandbox`). A step never changes the root of a session it keeps,
and an id that a call looked up is never inserted again: its only insert was made by the
`create_session` that generated it, which has returned.

The same two facts give `session_keeps_identity`: along every such run a session that stays in the
table keeps its id, root, creation time, preview URL and status, and its `last_used` never goes
back (`Session.Keeps`, `Step.session_kept`).
-/

namespace OpenComputer

/-- The session id and the sandbox root that a task's blocking work uses. -/
def Task.root : Task → Option (String × PathBuf)
  | .running id root _ | .writing id root _ _ | .writingAll id root _ | .reading id root _
  | .listing id root _ | .spawning id root _ _ _ _ | .probing id root _ => some (id, root)
  | _ => none

lemma continueWith_root {ε α : Type} {r : Except ε α} {fail : ε → Reply} {next : α → Task}
    {x : String × PathBuf} (h : (continueWith r fail next).root = some x) :
    ∃ a, r = .ok a ∧ (next a).root = some x := by
  cases r with
  | error e => cases h
  | ok a => exact ⟨a, rfl, h⟩

lemma lookupTouch_ok {α : Type} {m : Sessions} {now : Instant} {id : String} {take : Session → α}
    {a : α} (h : (lookupTouch m now id take).2 = .ok a) : ∃ s, m.get id = some s ∧ a = take (s.touch now) := by
  cases hs : m.get id with
  | none =>
    rw [lookupTouch_of_get_none _ _ _ _ hs] at h
    cases h
  | some s =>
    rw [lookupTouch_of_get_some _ _ _ _ hs] at h
    cases h
    exact ⟨s, rfl, rfl⟩

lemma writeFile.lookup_ok {b64 : Base64} {m : Sessions} {now : Instant} {id : String}
    {req : WriteFileRequest} {root : PathBuf} {content : Bytes}
    (h : (writeFile.lookup b64 m now id req).2 = .ok (root, content)) :
    (lookupTouch m now id Session.sandboxRoot).2 = .ok root := by
  unfold writeFile.lookup at h
  split at h
  · cases h
  · next hl =>
    split at h <;> cases h
    rw [hl]

lemma writeFilesBulk.lookup_ok {b64 : Base64} {m : Sessions} {now : Instant} {id : String}
    {req : WriteFilesRequest} {root : PathBuf} {files : List (String × Bytes)}
    (h : (writeFilesBulk.lookup b64 m now id req).2 = .ok (root, files)) :
    (lookupTouch m now id Session.sandboxRoot).2 = .ok root := by
  unfold writeFilesBulk.lookup at h
  split at h
  · cases h
  · next hl =>
    split at h <;> cases h
    rw [hl]

/-- **The root a first critical section hands to its blocking work** is the root of the session
the call found under its id. -/
lemma firstPhase_root {b64 : Base64} {st : AppState} {now : Instant} {req : Request} {id : String}
    {root : PathBuf} (h : (firstPhase b64 st now req).2.1.root = some (id, root)) :
    ∃ s, st.sessions.get id = some s ∧ s.sandboxRoot = root := by
  cases req with
  | createSession | listSessions | getSession | deleteSession | setEnv | setCwd => cases h
  | killBackground =>
    obtain ⟨_, -, hn⟩ := continueWith_root h
    cases hn
  | previewProxy =>
    obtain ⟨⟨_, _⟩, -, hn⟩ := continueWith_root h
    cases hn
  | runInSession =>
    obtain ⟨⟨_, _, _⟩, hr, hn⟩ := continueWith_root h
    cases hn
    obtain ⟨s, hs, he⟩ := lookupTouch_ok hr
    cases he
    exact ⟨s, hs, rfl⟩
  | runBackground =>
    obtain ⟨⟨_, _, _, _⟩, hr, hn⟩ := continueWith_root h
    cases hn
    obtain ⟨s, hs, he⟩ := lookupTouch_ok hr
    cases he
    exact ⟨s, hs, rfl⟩
  | readFile | listFiles =>
    obtain ⟨_, hr, hn⟩ := continueWith_root h
    cases hn
    obtain ⟨s, hs, rfl⟩ := lookupTouch_ok hr
    exact ⟨s, hs, rfl⟩
  | writeFile =>
    obtain ⟨⟨_, _⟩, hr, hn⟩ := continueWith_root h
    cases hn
    obtain ⟨s, hs, rfl⟩ := lookupTouch_ok (writeFile.lookup_ok hr)
    exact ⟨s, hs, rfl⟩
  | writeFilesBulk =>
    obtain ⟨⟨_, _⟩, hr, hn⟩ := continueWith_root h
    cases hn
    obtain ⟨s, hs, rfl⟩ := lookupTouch_ok (writeFilesBulk.lookup_ok hr)
    exact ⟨s, hs, rfl⟩
  | backgroundStatus =>
    obtain ⟨⟨_, _⟩, hr, hn⟩ := continueWith_root h
    cases hn
    unfold backgroundStatus.lookup at hr
    split at hr
    · cases hr
    · next s hs =>
      cases hr
      exact ⟨s, hs, rfl⟩

section Steps

variable {b64 : Base64} {w w' : World}

/-- A task's root is one that was there before the step, or the root of the session that the
step's first critical section found. -/
lemma Step.root_origin {k : Nat} {t : Task} {id : String} {root : PathBuf} (h : Step b64 w w')
    (hk : w'.tasks[k]? = some t) (ht : t.root = some (id, root)) :
    w.tasks[k]? = some t ∨ ∃ s, w.sessions.get id = some s ∧ s.sandboxRoot = root := by
  cases h with
  | tick | reap | destroy => exact .inl hk
  | call =>
    rcases getElem?_concat_eq_some hk with hk | rfl
    · exact .inl hk
    · cases ht
  | enter =>
    rcases getElem?_set_eq_some hk with ⟨-, rfl⟩ | ⟨-, hk⟩
    · exact .inr (firstPhase_root ht)
    · exact .inl hk
  | createSandbox =>
    rcases getElem?_set_eq_some hk with ⟨-, rfl⟩ | ⟨-, hk⟩
    · obtain ⟨⟨_, _⟩, -, hn⟩ := continueWith_root ht
      cases hn
    · exact .inl hk
  | spawn =>
    rcases getElem?_set_eq_some hk with ⟨-, rfl⟩ | ⟨-, hk⟩
    · obtain ⟨_, -, hn⟩ := continueWith_root ht
      cases hn
    · exact .inl hk
  | createInsert | track | kill | complete | respond =>
    rcases getElem?_set_eq_some hk with ⟨-, rfl⟩ | ⟨-, hk⟩
    · cases ht
    · exact .inl hk

end Steps

/-- Under fresh ids, no `create_session` is about to insert an id that was inserted before: the
call that generated it made that insert and has returned. -/
lemma not_inserting_of_inserted {b64 : Base64} {w : World} (hw : Reachable b64 w)
    (hf : Fresh w.history) {id : String} (hins : Ev.inserted id ∈ w.history) {k : Nat} {s : Session}
    {url : Option String} : w.tasks[k]? ≠ some (.inserting id s url) := by
  intro hk
  have hG := World.Generated.reachable hw
  obtain ⟨j, r, hgen, hdone⟩ := hG.inserted id hins
  rw [hf.task_eq (hG.inserting k id s url hk) hgen, hdone] at hk
  cases hk

/-! ### What a session keeps while it lives -/

/-- `s'` is `s` later in its life: the same id, sandbox root, creation time, preview URL and
status, and a `last_used` no earlier. -/
def Session.Keeps (s s' : Session) : Prop :=
  s'.id = s.id ∧ s'.sandboxRoot = s.sandboxRoot ∧ s'.createdAt = s.createdAt ∧
    s'.previewUrl = s.previewUrl ∧ s'.status = s.status ∧ s.lastUsed ≤ s'.lastUsed

lemma Session.Keeps.refl (s : Session) : s.Keeps s := ⟨rfl, rfl, rfl, rfl, rfl, le_rfl⟩

lemma Session.Keeps.trans {s₁ s₂ s₃ : Session} : s₁.Keeps s₂ → s₂.Keeps s₃ → s₁.Keeps s₃
  | ⟨i, r, c, u, st, l⟩, ⟨i', r', c', u', st', l'⟩ =>
    ⟨i'.trans i, r'.trans r, c'.trans c, u'.trans u, st'.trans st, l.trans l'⟩

lemma Reachable.of_run {b64 : Base64} {w w' : World} (hw : Reachable b64 w) (hrun : Run b64 w w') :
    Reachable b64 w' := by
  induction hrun with
  | refl => exact hw
  | tail _ hstep ih => exact ih.step hstep

/-- **A step keeps what a session is**: every entry of the next world is a later state of the
entry under the same key (a touch writes the clock's reading, which is no earlier than `last_used`),
or the session a `create_session` inserts. -/
lemma Step.session_kept {b64 : Base64} {w w' : World} {k : String} {s' : Session}
    (hw : Reachable b64 w) (h : Step b64 w w') (hk : w'.sessions.get k = some s') :
    (∃ s, w.sessions.get k = some s ∧ s.Keeps s') ∨
      ∃ (i : Nat) (url : Option String), w.tasks[i]? = some (.inserting k s' url) := by
  have hts := (World.Timely.reachable hw).sessions
  rcases h.session_origin hk with ⟨s, hs, ⟨_, _, t, ht, rfl⟩ | rfl | ⟨_, _, _, _, rfl, -⟩⟩ | hi
  · refine .inl ⟨s, hs, rfl, rfl, rfl, rfl, rfl, ?_⟩
    rcases ht with rfl | rfl
    · exact le_rfl
    · exact (hts k s hs).2
  · exact .inl ⟨s, hs, rfl, rfl, rfl, rfl, rfl, (hts k s hs).2⟩
  · exact .inl ⟨s, hs, Session.Keeps.refl s⟩
  · exact .inr hi

/-- Every root a task holds belongs to an id that was inserted, and is the root of the session
under that id, if there is one. -/
def World.Rooted (w : World) : Prop :=
  ∀ (k : Nat) (t : Task) (id : String) (root : PathBuf), w.tasks[k]? = some t → t.root = some (id, root) →
    Ev.inserted id ∈ w.history ∧ ∀ s, w.sessions.get id = some s → s.sandboxRoot = root

namespace World.Rooted

variable {b64 : Base64} {w w' : World}

/-- **One step keeps every root in place**, when the ids stay fresh. -/
lemma step (hw : Reachable b64 w) (hr : w.Rooted) (h : Step b64 w w') (hf : Fresh w'.history) :
    w'.Rooted := by
  intro k t id root hk ht
  have hold : Ev.inserted id ∈ w.history ∧ ∀ s, w.sessions.get id = some s → s.sandboxRoot = root := by
    rcases h.root_origin hk ht with hk | ⟨s, hs, rfl⟩
    · exact hr k t id root hk ht
    · have hl := (World.Keys.reachable hw).keys id
      rw [hs] at hl
      refine ⟨inserted_mem_of_live hl.symm, fun s' hs' => ?_⟩
      rw [hs] at hs'
      cases hs'
      rfl
  refine ⟨h.history_suffix.subset hold.1, fun s' hs' => ?_⟩
  rcases h.session_kept hw hs' with ⟨s, hs, -, hroot, -⟩ | ⟨_, _, hi⟩
  · rw [hroot]
    exact hold.2 s hs
  · exact absurd hi (not_inserting_of_inserted hw (hf.of_suffix h.history_suffix) hold.1)

lemma reachable (h : Reachable b64 w) (hf : Fresh w.history) : w.Rooted := by
  induction h with
  | init => exact fun _ _ _ _ hk => nomatch hk
  | step hw hstep ih => exact (ih (hf.of_suffix hstep.history_suffix)).step hw hstep hf

end World.Rooted

/-- **A call's blocking work stays in its session's sandbox.** In every reachable world in which
`create_session` never generated an id twice, every run, file write, read or listing, spawn and
status probe still in flight works in the sandbox root of the session its id names, whenever that
id is in the table: no call's blocking work lands in the sandbox of a session created after it
looked its own up. -/
theorem blocking_work_in_own_sandbox {b64 : Base64} {w : World} (hw : Reachable b64 w)
    (hf : Fresh w.history) {k : Nat} {t : Task} {id : String} {root : PathBuf}
    (hk : w.tasks[k]? = some t) (ht : t.root = some (id, root)) {s : Session}
    (hs : w.sessions.get id = some s) : s.sandboxRoot = root :=
  (World.Rooted.reachable hw hf k t id root hk ht).2 s hs

theorem blocking_work_in_own_sandbox_busyWorld :
    Fresh (busyWorld Base64.rejectAll).history ∧
      (busyWorld Base64.rejectAll).tasks[1]?.bind Task.root = some ("s", "/sandboxes/s") ∧
      ((busyWorld Base64.rejectAll).sessions.get "s").map Session.sandboxRoot = some "/sandboxes/s" := by
  have hf : Fresh (busyWorld Base64.rejectAll).history := by decide
  obtain ⟨t, hk, ht⟩ : ∃ t, (busyWorld Base64.rejectAll).tasks[1]? = some t ∧
      t.root = some ("s", "/sandboxes/s") := ⟨_, rfl, rfl⟩
  obtain ⟨s, hs⟩ : ∃ s, (busyWorld Base64.rejectAll).sessions.get "s" = some s := ⟨_, rfl⟩
  refine ⟨hf, by rw [hk]; exact ht, ?_⟩
  rw [hs]
  exact congrArg some (blocking_work_in_own_sandbox (busyWorld_reachable _) hf hk ht hs)

/-- **A session keeps what it is while it lives.** In every run from a reachable world in which
`create_session` never generates an id twice, a session that is in the table at both ends kept its
id, its sandbox root, its creation time, its preview URL and its status, and its `last_used` did not
go back: handlers change only its environment, working directory, `last_used`, ports and pids. -/
theorem session_keeps_identity {b64 : Base64} {w w' : World} (hw : Reachable b64 w)
    (hrun : Run b64 w w') (hf : Fresh w'.history) {id : String} {s s' : Session}
    (hs : w.sessions.get id = some s) (hs' : w'.sessions.get id = some s') :
    s'.id = s.id ∧ s'.sandboxRoot = s.sandboxRoot ∧ s'.createdAt = s.createdAt ∧
      s'.previewUrl = s.previewUrl ∧ s'.status = s.status ∧ s.lastUsed ≤ s'.lastUsed := by
  have hins : Ev.inserted id ∈ w.history := by
    have hl := (World.Keys.reachable hw).keys id
    rw [hs] at hl
    exact inserted_mem_of_live hl.symm
  induction hrun generalizing s' with
  | refl =>
    cases hs.symm.trans hs'
    exact Session.Keeps.refl s
  | tail hrun hstep ih =>
    have hwm := hw.of_run hrun
    have hfm := hf.of_suffix hstep.history_suffix
    rcases hstep.session_kept hwm hs' with ⟨sm, hsm, hk⟩ | ⟨_, _, hi⟩
    · exact Session.Keeps.trans (ih hfm hsm) hk
    · exact absurd hi (not_inserting_of_inserted hwm hfm ((Run.history_suffix hrun).subset hins))

theorem session_keeps_identity_busyWorld :
    Fresh (busyWorld Base64.rejectAll).history ∧
      ∃ s s', createdWorld.sessions.get "s" = some s ∧ (busyWorld Base64.rejectAll).sessions.get "s" = some s' ∧
        s'.sandboxRoot = s.sandboxRoot ∧ s.lastUsed ≤ s'.lastUsed := by
  have hf : Fresh (busyWorld Base64.rejectAll).history := by decide
  have hrun : Run Base64.rejectAll createdWorld (busyWorld Base64.rejectAll) :=
    .tail (.tail (.tail (.tail (.single (.call _ _)) (.enter _ 1 _ rfl)) (.tick _ _)) (.call _ _))
      (.enter _ 2 _ rfl)
  obtain ⟨s, hs⟩ : ∃ s, createdWorld.sessions.get "s" = some s := ⟨_, rfl⟩
  obtain ⟨s', hs'⟩ : ∃ s', (busyWorld Base64.rejectAll).sessions.get "s" = some s' := ⟨_, rfl⟩
  obtain ⟨-, hroot, -, -, -, hlast⟩ := session_keeps_identity (createdWorld_reachable _) hrun hf hs hs'
  exact ⟨hf, s, s', hs, hs', hroot, hlast⟩

end OpenComputer
