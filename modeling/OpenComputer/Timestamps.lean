import OpenComputer.Steps

/-!
# Timestamps: `created_at ≤ last_used ≤ now`

The clock of a `World` only moves forward (`Step.tick` adds to it, and `create_session` reads it
twice, `d` apart). In every reachable world every session of the table, and every session a
`create_session` call is about to insert, has `created_at ≤ last_used ≤ now`:

* `create_session` reads `created_at` before `last_used`;
* every write of `last_used` writes the clock of its step, which is at least `created_at`;
* the tracking step of `run_background` writes no timestamp.

`createdAt_le_lastUsed` is the first half; since `now.duration_since` is monotone, every
`SessionInfo` that `list_sessions` or `get_session` builds from such a table has
`idle_secs ≤ age_secs`, whatever the clock reading.
-/

namespace OpenComputer

/-- `created_at ≤ last_used`, and `last_used` not after `now`. -/
def Session.Timely (now : Instant) (s : Session) : Prop := s.createdAt ≤ s.lastUsed ∧ s.lastUsed ≤ now

namespace Session

variable {now : Instant} {s : Session}

lemma Timely.mono {now' : Instant} (h : s.Timely now) (hle : now ≤ now') : s.Timely now' :=
  ⟨h.1, h.2.trans hle⟩

/-- A write that sets `last_used := now` keeps a session timely. -/
lemma Timely.touch (env : Env) (cwd : String) (h : s.Timely now) :
    ({ s with env := env, cwd := cwd, lastUsed := now } : Session).Timely now :=
  ⟨h.1.trans h.2, le_rfl⟩

lemma Timely.clearBackground (h : s.Timely now) : (s.clearBackground now).Timely now :=
  ⟨h.1.trans h.2, le_rfl⟩

/-- Idle time is at most age, at every clock reading. -/
lemma idleSecs_le_ageSecs (t : Instant) (h : s.createdAt ≤ s.lastUsed) :
    (sessionInfo t s).idleSecs ≤ (sessionInfo t s).ageSecs :=
  Nat.div_le_div_right (Nat.sub_le_sub_left h t)

end Session

/-- Every session of the table, and every session a `create_session` is about to insert, is
timely. -/
structure World.Timely (w : World) : Prop where
  sessions : ∀ (id : String) (s : Session), w.sessions.get id = some s → s.Timely w.now
  inserting : ∀ (k : Nat) (sid : String) (s : Session) (url : Option String),
    w.tasks[k]? = some (.inserting sid s url) → s.Timely w.now

namespace World.Timely

variable {b64 : Base64} {w w' : World}

/-- The table after a first atomic section at `now` is timely. -/
lemma of_firstPhase {m : Sessions} {now : Instant} {r : Sessions × Task × Option (PathBuf × List Pid) × List Ev}
    (hm : ∀ id s, m.get id = some s → s.Timely now) (he : FirstEffect m now r) :
    ∀ id s, r.1.get id = some s → s.Timely now := by
  intro k s' hk
  cases he with
  | keep => exact hm k s' hk
  | touch id s env cwd hs hm' =>
    rw [hm'] at hk
    split at hk
    · cases hk; exact (hm id s hs).touch env cwd
    · exact hm k s' hk
  | clear id s hs hm' =>
    rw [hm'] at hk
    split at hk
    · cases hk; exact (hm id s hs).clearBackground
    · exact hm k s' hk
  | remove id s =>
    rw [HashMap.get_remove] at hk
    split at hk
    · cases hk
    · exact hm k s' hk

/-- **One step keeps the world timely.** -/
lemma step (hw : w.Timely) (h : Step b64 w w') : w'.Timely := by
  have hins : ∀ (k : Nat) (sid : String) (s : Session) (url : Option String),
      w'.tasks[k]? = some (.inserting sid s url) → s.Timely w'.now := by
    intro k sid s url hk
    rcases h.inserting_cases hk with hk | ⟨req, root, d, -, hnow, -, rfl⟩
    · exact (hw.inserting k sid s url hk).mono h.now_le
    · rw [hnow]
      exact ⟨Nat.le_add_right _ _, le_rfl⟩
  refine ⟨?_, hins⟩
  cases h with
  | tick d => exact fun id s hs => (hw.sessions id s hs).mono (Nat.le_add_right _ _)
  | call | kill | complete | respond | destroy => exact hw.sessions
  | spawn => simpa using hw.sessions
  | enter i req => exact of_firstPhase hw.sessions (firstPhase_effect b64 w.state w.now req)
  | createSandbox i req sid created d =>
    exact fun id s hs => (hw.sessions id s hs).mono (Nat.le_add_right _ _)
  | createInsert i sid s url hi =>
    intro k s' hk
    simp only [World.createInsert, World.log, World.setTask, World.setSessions, World.sessions,
      HashMap.get_insert] at hk
    split at hk
    · cases hk; exact hw.inserting i sid s url hi
    · exact hw.sessions k s' hk
  | track i id pid port url =>
    intro k s' hk
    simp only [World.track, World.log, World.setTask, World.setSessions, World.sessions,
      runBackground.get_track] at hk
    split at hk
    · obtain ⟨s, hs, rfl⟩ := Option.map_eq_some'.1 hk
      exact hw.sessions k s hs
    · exact hw.sessions k s' hk
  | reap => exact fun id s hs => hw.sessions id s (get_cleanup.1 hs).1

lemma init (previewDomain : Option String) (t₀ : Instant) : (World.init previewDomain t₀).Timely :=
  ⟨fun _ _ h => by simp [World.init, World.sessions, AppState.withPreviewDomain] at h, fun _ _ _ _ h => by
    simp [World.init] at h⟩

lemma reachable (h : Reachable b64 w) : w.Timely := by
  induction h with
  | init previewDomain t₀ => exact init previewDomain t₀
  | step _ hstep ih => exact ih.step hstep

end World.Timely

/-- **Timestamp order.** In every reachable world every session has `created_at ≤ last_used`;
so every `SessionInfo` that `list_sessions` or `get_session` builds from the table, at any clock
reading, has `idle_secs ≤ age_secs`. -/
theorem createdAt_le_lastUsed {b64 : Base64} {w : World} (hw : Reachable b64 w) :
    (∀ id s, w.sessions.get id = some s → s.createdAt ≤ s.lastUsed) ∧
      ∀ t, (∀ info ∈ listSessions w.sessions t, info.idleSecs ≤ info.ageSecs) ∧
        ∀ id info, getSession w.sessions t id = .ok info → info.idleSecs ≤ info.ageSecs := by
  have hts := (World.Timely.reachable hw).sessions
  refine ⟨fun id s hs => (hts id s hs).1, fun t => ⟨?_, fun id info h => ?_⟩⟩
  · simp only [listSessions, HashMap.values, List.map_map, List.mem_map]
    rintro _ ⟨⟨k, s⟩, he, rfl⟩
    exact Session.idleSecs_le_ageSecs t (hts k s ((HashMap.mem_entries_iff _ k).1 he)).1
  · unfold getSession at h
    split at h
    · cases h
    · cases h; exact Session.idleSecs_le_ageSecs t (hts id _ ‹_›).1

/-- `create_session` run to its end, its two clock readings `5` apart. -/
def createdWorld : World :=
  let w : World := { World.init none 0 with tasks := [.start (.createSession ⟨.empty⟩)] }
  (w.createSandbox 0 ⟨.empty⟩ "s" (.ok (.ok "/sandboxes/s")) 5).createInsert 0 "s"
    (createSession.session "s" "/sandboxes/s" ⟨.empty⟩ none 0 5) none

lemma createdWorld_reachable (b64 : Base64) : Reachable b64 createdWorld :=
  .step (.step (.step (.init none 0) (.call _ _)) (.createSandbox _ 0 _ _ _ _ rfl (by decide)))
    (.createInsert _ 0 _ _ _ rfl)

theorem createdAt_le_lastUsed_createdWorld :
    Reachable Base64.rejectAll createdWorld ∧
      ∀ t, ∀ info ∈ listSessions createdWorld.sessions t, info.idleSecs ≤ info.ageSecs :=
  ⟨createdWorld_reachable _,
    fun t => ((createdAt_le_lastUsed (createdWorld_reachable Base64.rejectAll)).2 t).1⟩

end OpenComputer
