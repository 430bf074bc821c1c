import OpenComputer.Timestamps

/-!
# The ports of a session, and where the preview proxy sends its requests

`run_background`'s tracking step pushes its port unless `ports.contains(&port)`, and
`kill_background` clears the list. So, in every reachable world, the `ports` of a live session
are the distinct ports, in order of first occurrence, of the tracking steps on it that ran after
it was created and after the last `kill_background` on it (`trackedSince` reads them from the
history). That is `ports_eq_firstOccurrences`: it holds over every interleaving, a tracking
step that lands after a concurrent kill included, and it gives that `ports` has no duplicates
and that the preview proxy routes to the first of these ports, or to `5173`.
-/

namespace OpenComputer

/-- The distinct elements of `l`, in order of first occurrence. -/
def firstOccurrences {α : Type} [DecidableEq α] : List α → List α
  | [] => []
  | a :: l => a :: (firstOccurrences l).filter (· ≠ a)

section FirstOccurrences

variable {α : Type} [DecidableEq α]

@[simp] lemma mem_firstOccurrences {a : α} : ∀ {l : List α}, a ∈ firstOccurrences l ↔ a ∈ l
  | [] => Iff.rfl
  | b :: l => by
    by_cases h : a = b <;> simp [firstOccurrences, h, mem_firstOccurrences]

lemma nodup_firstOccurrences : ∀ l : List α, (firstOccurrences l).Nodup
  | [] => List.nodup_nil
  | a :: l => List.nodup_cons.2 ⟨by simp, (nodup_firstOccurrences l).filter _⟩

/-- Pushing `a` unless it is already there keeps the first occurrences. -/
lemma firstOccurrences_concat (a : α) :
    ∀ l : List α, firstOccurrences (l ++ [a]) =
      if a ∈ firstOccurrences l then firstOccurrences l else firstOccurrences l ++ [a]
  | [] => by simp [firstOccurrences]
  | b :: l => by
    rw [List.cons_append, firstOccurrences, firstOccurrences_concat a l, firstOccurrences]
    rcases eq_or_ne a b with rfl | hb
    · by_cases hl : a ∈ l <;> simp [hl, List.filter_append]
    · by_cases hl : a ∈ l <;> simp [hb, hl, List.filter_append]

end FirstOccurrences

/-- The ports of the tracking steps on `id` since it was last inserted or cleared, newest first. -/
def trackedSince (id : String) : List Ev → List Port
  | [] => []
  | .inserted k :: h | .cleared k :: h => if k = id then [] else trackedSince id h
  | .tracked k p :: h => if k = id then p :: trackedSince id h else trackedSince id h
  | .generated .. :: h | .removed _ :: h | .read .. :: h | .touched .. :: h => trackedSince id h

lemma trackedSince_cons_of_ne {id : String} {e : Ev} (h : List Ev) (hi : e ≠ .inserted id)
    (hc : e ≠ .cleared id) (ht : ∀ p, e ≠ .tracked id p) : trackedSince id (e :: h) = trackedSince id h := by
  cases e <;> simp_all [trackedSince]

lemma trackedSince_append_of_ne {id : String} {evs : List Ev} (h : List Ev)
    (hevs : ∀ e ∈ evs, e ≠ .inserted id ∧ e ≠ .cleared id ∧ ∀ p, e ≠ .tracked id p) :
    trackedSince id (evs ++ h) = trackedSince id h := by
  induction evs with
  | nil => rfl
  | cons e evs ih =>
    obtain ⟨hi, hc, ht⟩ := hevs e (List.mem_cons_self _ _)
    rw [List.cons_append, trackedSince_cons_of_ne _ hi hc ht,
      ih fun e' he' => hevs e' (List.mem_cons_of_mem _ he')]

/-- The ports list of a session is what its tracking steps since its creation and its last kill
left. -/
def portsTracked (id : String) (h : List Ev) : List Port := firstOccurrences (trackedSince id h).reverse

/-- A tracking step pushes its port unless it is there. -/
lemma portsTracked_tracked (id : String) (p : Port) (h : List Ev) :
    portsTracked id (.tracked id p :: h) =
      if p ∈ portsTracked id h then portsTracked id h else portsTracked id h ++ [p] := by
  simp only [portsTracked, trackedSince, if_true, List.reverse_cons]
  exact firstOccurrences_concat p _

/-- Every session of the table has the ports its tracking steps left, and a `create_session`
about to insert has none. -/
structure World.PortsTracked (w : World) : Prop where
  sessions : ∀ (id : String) (s : Session), w.sessions.get id = some s → s.ports = portsTracked id w.history
  inserting : ∀ (k : Nat) (sid : String) (s : Session) (url : Option String),
    w.tasks[k]? = some (.inserting sid s url) → s.ports = []

namespace World.PortsTracked

variable {b64 : Base64} {w w' : World}

/-- A step whose events record no insert, kill or tracking step, and which adds no entry and
changes no `ports`, keeps the sessions' part of the invariant. -/
lemma sessions_of_frame (hw : w.PortsTracked) {evs : List Ev} (hh : w'.history = evs ++ w.history)
    (hevs : ∀ e ∈ evs, ∀ id, e ≠ .inserted id ∧ e ≠ .cleared id ∧ ∀ p, e ≠ .tracked id p)
    (hs : ∀ id s', w'.sessions.get id = some s' → ∃ s, w.sessions.get id = some s ∧ s.ports = s'.ports) :
    ∀ id s', w'.sessions.get id = some s' → s'.ports = portsTracked id w'.history := by
  intro id s' hs'
  obtain ⟨s, hs, hports⟩ := hs id s' hs'
  rw [hh, portsTracked, trackedSince_append_of_ne _ fun e he => hevs e he id, ← hports]
  exact hw.sessions id s hs

lemma inserting_step (hw : w.PortsTracked) (h : Step b64 w w') :
    ∀ (k : Nat) (sid : String) (s : Session) (url : Option String),
      w'.tasks[k]? = some (.inserting sid s url) → s.ports = [] := by
  intro k sid s url hk
  rcases h.inserting_cases hk with hk | ⟨req, root, d, -, -, -, rfl⟩
  · exact hw.inserting k sid s url hk
  · rfl

lemma enter (hw : w.PortsTracked) (i : Nat) (req : Request) :
    ∀ id s', (w.enter b64 i req).sessions.get id = some s' →
      s'.ports = portsTracked id (w.enter b64 i req).history := by
  rcases hfp : firstPhase b64 w.state w.now req with ⟨m', t, j, evs⟩
  have he := firstPhase_effect b64 w.state w.now req
  rw [hfp] at he
  have hw' : (w.enter b64 i req).history = evs ++ w.history := by simp [World.enter, hfp]
  have hm' : (w.enter b64 i req).sessions = m' := by simp [World.enter, hfp]
  cases he with
  | keep _ hevs =>
    refine hw.sessions_of_frame hw' (fun e he k => ?_) fun k s' hs' => ⟨s', by rwa [hm'] at hs', rfl⟩
    obtain ⟨_, rfl⟩ := hevs e he
    exact ⟨nofun, nofun, nofun⟩
  | remove id s =>
    refine hw.sessions_of_frame hw' (fun e he k => ?_) fun k s' hs' => ?_
    · simp only [List.mem_singleton] at he
      subst he
      exact ⟨nofun, nofun, nofun⟩
    · rw [hm', HashMap.get_remove] at hs'
      split at hs'
      · cases hs'
      · exact ⟨s', hs', rfl⟩
  | touch id s env cwd hs hm =>
    refine hw.sessions_of_frame hw' (fun e he k => ?_) fun k s' hs' => ?_
    · simp only [List.mem_singleton] at he
      subst he
      exact ⟨nofun, nofun, nofun⟩
    · rw [hm', hm] at hs'
      split at hs'
      · subst k; cases hs'; exact ⟨s, hs, rfl⟩
      · exact ⟨s', hs', rfl⟩
  | clear id s hs hm =>
    intro k s' hs'
    rw [hm', hm] at hs'
    rw [hw', portsTracked]
    split at hs'
    · subst k; cases hs'
      simp [trackedSince, firstOccurrences, Session.clearBackground]
    · simp only [List.cons_append, List.singleton_append, trackedSince, if_neg (Ne.symm ‹¬k = id›)]
      exact hw.sessions k s' hs'

/-- **One step keeps every session's ports what its tracking steps left.** -/
lemma step (hw : w.PortsTracked) (h : Step b64 w w') : w'.PortsTracked := by
  refine ⟨?_, hw.inserting_step h⟩
  cases h with
  | tick | call | kill | complete | respond | destroy => exact hw.sessions
  | spawn => exact fun id s hs => hw.sessions id s (by simpa using hs)
  | enter i req => exact hw.enter i req
  | createSandbox i req sid =>
    exact hw.sessions_of_frame (show _ = [.generated i sid] ++ w.history from rfl)
      (fun e he k => by simp only [List.mem_singleton] at he; subst he; exact ⟨nofun, nofun, nofun⟩)
      fun k s' hs' => ⟨s', hs', rfl⟩
  | createInsert i sid s url hi =>
    intro k s' hs'
    simp only [World.createInsert, World.log, World.setTask, World.setSessions, World.sessions,
      HashMap.get_insert] at hs' ⊢
    rw [portsTracked]
    split at hs'
    · subst k; cases hs'
      simp [trackedSince, firstOccurrences, hw.inserting i sid _ url hi]
    · simp only [List.singleton_append, trackedSince, if_neg (Ne.symm ‹¬k = sid›)]
      exact hw.sessions k s' hs'
  | track i id pid port url =>
    intro k s' hs'
    simp only [World.track, World.log, World.setTask, World.setSessions, World.sessions,
      runBackground.get_track, List.singleton_append] at hs' ⊢
    split at hs'
    · subst k
      obtain ⟨s, hs, rfl⟩ := Option.map_eq_some'.1 hs'
      rw [portsTracked_tracked, ← hw.sessions id s hs]
      rfl
    · rw [portsTracked]
      simp only [trackedSince, if_neg (Ne.symm ‹¬k = id›)]
      exact hw.sessions k s' hs'
  | reap =>
    refine hw.sessions_of_frame rfl (fun e he k => ?_) fun k s' hs' => ⟨s', (get_cleanup.1 hs').1, rfl⟩
    obtain ⟨_, -, rfl⟩ := List.mem_map.1 he
    exact ⟨nofun, nofun, nofun⟩

lemma reachable (h : Reachable b64 w) : w.PortsTracked := by
  induction h with
  | init =>
    exact ⟨fun _ _ h => by simp [World.init, World.sessions, AppState.withPreviewDomain] at h,
      fun _ _ _ _ h => by simp [World.init] at h⟩
  | step _ hstep ih => exact ih.step hstep

end World.PortsTracked

/-- The routing of a Host that names a live session. -/
lemma route_eq_ok {st : AppState} {now : Instant} {host id : String} {s : Session}
    (ht : (st.previewDomain.bind fun d => stripSuffix host ("." ++ d)) = some id)
    (hs : st.sessions.get id = some s) :
    (previewProxy.route st now host).2 = .ok (id, s.ports.head?.getD 5173) := by
  unfold previewProxy.route
  cases hd : st.previewDomain with
  | none => rw [hd] at ht; cases ht
  | some d =>
    rw [hd, Option.some_bind] at ht
    simp [ht, HashMap.getMut, hs]

/-- **Ports and the proxy's target.** In every reachable world, the `ports` of a live session
`id` are the distinct ports, in order of first occurrence, of the tracking steps on `id` since it
was created and since the last `kill_background` on it; they have no duplicates; and the preview
proxy routes a Host naming `id` to the first of them, or to `5173` when there is none. -/
theorem ports_eq_firstOccurrences {b64 : Base64} {w : World} {id : String} {s : Session}
    (hw : Reachable b64 w) (hs : w.sessions.get id = some s) :
    s.ports = firstOccurrences (trackedSince id w.history).reverse ∧ s.ports.Nodup ∧
      ∀ host, (w.state.previewDomain.bind fun d => stripSuffix host ("." ++ d)) = some id →
        (previewProxy.route w.state w.now host).2 =
          .ok (id, (firstOccurrences (trackedSince id w.history).reverse).head?.getD 5173) := by
  have hports : s.ports = firstOccurrences (trackedSince id w.history).reverse :=
    (World.PortsTracked.reachable hw).sessions id s hs
  refine ⟨hports, hports ▸ nodup_firstOccurrences _, fun host ht => ?_⟩
  rw [← hports]
  exact route_eq_ok ht hs

/-- A background run on an automatic port: `port` is `0`. -/
def devServer : BackgroundRunRequest := ⟨["npm", "run", "dev"], 0, .empty, "/"⟩

/-- A `run_background` of `devServer` on `"s"`, spawned as pid `42` on the first automatic port,
before its tracking step. -/
def spawnedWorld (b64 : Base64) : World :=
  let w : World := { createdWorld with tasks := createdWorld.tasks ++ [.start (.runBackground "s" devServer)] }
  (w.enter b64 1 (.runBackground "s" devServer)).spawn 1 "s" none devServer (.ok (.ok 42))

lemma spawnedWorld_reachable (b64 : Base64) : Reachable b64 (spawnedWorld b64) := by
  refine .step (.step (.step (createdWorld_reachable b64) (.call _ _)) (.enter _ 1 _ ?_))
    (.spawn _ 1 "s" "/sandboxes/s" .empty "/" none devServer _ ?_) <;> rfl

lemma spawnedWorld_tracking (b64 : Base64) :
    (spawnedWorld b64).tasks[1]? = some (.tracking "s" 42 10000 none) := rfl

/-- The session of `spawnedWorld` after the tracking step. -/
def trackedSession : Session :=
  { createSession.session "s" "/sandboxes/s" ⟨.empty⟩ none 0 5 with ports := [10000], backgroundPids := [42] }

theorem ports_eq_firstOccurrences_trackedWorld :
    ((spawnedWorld Base64.rejectAll).track 1 "s" 42 10000 none).sessions.get "s" = some trackedSession ∧
      trackedSession.ports =
        firstOccurrences (trackedSince "s" ((spawnedWorld Base64.rejectAll).track 1 "s" 42 10000 none).history).reverse :=
  have hget : ((spawnedWorld Base64.rejectAll).track 1 "s" 42 10000 none).sessions.get "s" =
      some trackedSession := rfl
  ⟨hget, (ports_eq_firstOccurrences
    (.step (spawnedWorld_reachable _) (.track _ 1 "s" 42 10000 none (spawnedWorld_tracking _))) hget).1⟩

end OpenComputer
