import OpenComputer.PortList

/-!
# The keys of the session table

* `World.Keys`: in every reachable world the keys of the table are the ids whose last insert or
  removal in the history is an insert (`live`), and every entry's `Session.id` is its key
  (`keys_eq_live`). A handler's phase never adds a key: only `create_session`'s insert does.
* `Fresh`: `create_session` never generated an id twice. In such runs an id once removed is
  never inserted again, and every later call addressed to it answers `404`
  (`removed_session_stays_gone`): it rests on `World.Generated`, which ties each insert to the
  call whose `Uuid::new_v4()` returned its id.
* `tracking_after_delete_answers_ok`: the tracking step of `run_background` answers `200` when
  `delete_session` removed the session between its spawn and its tracking step.
-/

namespace OpenComputer

/-- Whether the last insert or removal of `id` in the history (newest first) is an insert. -/
def live (id : String) : List Ev → Bool
  | [] => false
  | .inserted k :: h => if k = id then true else live id h
  | .removed k :: h => if k = id then false else live id h
  | .generated .. :: h | .touched .. :: h | .read .. :: h | .tracked .. :: h | .cleared _ :: h =>
    live id h

lemma live_cons_of_ne {id : String} {e : Ev} (h : List Ev) (hi : e ≠ .inserted id)
    (hr : e ≠ .removed id) : live id (e :: h) = live id h := by
  cases e <;> simp_all [live]

lemma live_append_of_ne {id : String} {evs : List Ev} (h : List Ev)
    (hevs : ∀ e ∈ evs, e ≠ .inserted id ∧ e ≠ .removed id) : live id (evs ++ h) = live id h := by
  induction evs with
  | nil => rfl
  | cons e evs ih =>
    obtain ⟨hi, hr⟩ := hevs e (List.mem_cons_self _ _)
    rw [List.cons_append, live_cons_of_ne _ hi hr, ih fun e' he' => hevs e' (List.mem_cons_of_mem _ he')]

/-- The reaper's removals. -/
lemma live_removed_append (id : String) (h : List Ev) :
    ∀ ids : List String, live id (ids.map .removed ++ h) = if id ∈ ids then false else live id h
  | [] => by simp
  | k :: ids => by
    by_cases hk : k = id
    · simp [live, hk]
    · simp [live, hk, Ne.symm hk, live_removed_append id h ids]

/-- The keys are the live ids, each entry is filed under its own id, and so is each session a
`create_session` is about to insert. -/
structure World.Keys (w : World) : Prop where
  keys : ∀ id : String, (w.sessions.get id).isSome = live id w.history
  ids : ∀ (id : String) (s : Session), w.sessions.get id = some s → s.id = id
  inserting : ∀ (k : Nat) (sid : String) (s : Session) (url : Option String),
    w.tasks[k]? = some (.inserting sid s url) → s.id = sid

namespace World.Keys

variable {b64 : Base64} {w w' : World}

/-- A step that logs no insert and no removal and keeps the key and the `Session.id` of every
entry keeps the table's part of the invariant. -/
lemma of_frame (hw : w.Keys) {evs : List Ev} (hh : w'.history = evs ++ w.history)
    (hevs : ∀ e ∈ evs, ∀ id, e ≠ .inserted id ∧ e ≠ .removed id)
    (hs : ∀ id, (w'.sessions.get id).map Session.id = (w.sessions.get id).map Session.id) :
    (∀ id, (w'.sessions.get id).isSome = live id w'.history) ∧
      ∀ id s, w'.sessions.get id = some s → s.id = id := by
  refine ⟨fun id => ?_, fun id s' hs' => ?_⟩
  · rw [hh, live_append_of_ne _ fun e he => hevs e he id, ← hw.keys id]
    have := congrArg Option.isSome (hs id)
    rwa [Option.isSome_map', Option.isSome_map'] at this
  · have := hs id
    rw [hs'] at this
    obtain ⟨s, hs, hid⟩ := Option.map_eq_some'.1 this.symm
    rw [← hid]
    exact hw.ids id s hs

lemma inserting_step (hw : w.Keys) (h : Step b64 w w') :
    ∀ (k : Nat) (sid : String) (s : Session) (url : Option String),
      w'.tasks[k]? = some (.inserting sid s url) → s.id = sid := by
  intro k sid s url hk
  rcases h.inserting_cases hk with hk | ⟨req, root, d, -, -, -, rfl⟩
  · exact hw.inserting k sid s url hk
  · rfl

lemma enter (hw : w.Keys) (i : Nat) (req : Request) :
    (∀ id, ((w.enter b64 i req).sessions.get id).isSome = live id (w.enter b64 i req).history) ∧
      ∀ id s, (w.enter b64 i req).sessions.get id = some s → s.id = id := by
  rcases hfp : firstPhase b64 w.state w.now req with ⟨m', t, j, evs⟩
  have he := firstPhase_effect b64 w.state w.now req
  rw [hfp] at he
  have hw' : (w.enter b64 i req).history = evs ++ w.history := by simp [World.enter, hfp]
  have hm' : (w.enter b64 i req).sessions = m' := by simp [World.enter, hfp]
  cases he with
  | keep _ hevs =>
    refine hw.of_frame hw' (fun e he k => ?_) fun k => by rw [hm']
    obtain ⟨_, rfl⟩ := hevs e he
    exact ⟨nofun, nofun⟩
  | touch id s env cwd hs hm | clear id s hs hm =>
    refine hw.of_frame hw' (fun e he k => ?_) fun k => ?_
    · simp only [List.mem_cons, List.mem_singleton, List.not_mem_nil, or_false] at he
      rcases he with rfl | rfl <;> exact ⟨nofun, nofun⟩
    · rw [hm', hm]
      split
      · subst k; rw [hs]; rfl
      · rfl
  | remove id s hs =>
    rw [hm', hw']
    refine ⟨fun k => ?_, fun k s' hs' => ?_⟩
    · rw [HashMap.get_remove, List.singleton_append]
      by_cases hk : k = id
      · subst hk; simp [live]
      · simp [hk, live, Ne.symm hk, hw.keys k]
    · rw [HashMap.get_remove] at hs'
      split at hs'
      · cases hs'
      · exact hw.ids k s' hs'

/-- **One step keeps the keys the live ids.** -/
lemma step (hw : w.Keys) (h : Step b64 w w') : w'.Keys := by
  suffices (∀ id, (w'.sessions.get id).isSome = live id w'.history) ∧
      ∀ id s, w'.sessions.get id = some s → s.id = id from ⟨this.1, this.2, hw.inserting_step h⟩
  cases h with
  | tick | call | kill | complete | respond | destroy => exact ⟨hw.keys, hw.ids⟩
  | spawn => exact hw.of_frame (show _ = [] ++ w.history from rfl) nofun fun k => by simp
  | enter i req => exact hw.enter i req
  | createSandbox i req sid =>
    exact hw.of_frame (show _ = [.generated i sid] ++ w.history from rfl)
      (fun e he k => by simp only [List.mem_singleton] at he; subst he; exact ⟨nofun, nofun⟩)
      fun k => rfl
  | createInsert i sid s url hi =>
    refine ⟨fun k => ?_, fun k s' hs' => ?_⟩
    · show ((w.sessions.insert sid s).get k).isSome = live k (.inserted sid :: w.history)
      rw [HashMap.get_insert]
      by_cases hk : k = sid
      · subst hk; simp [live]
      · simp [hk, live, Ne.symm hk, hw.keys k]
    · have hs'' : (w.sessions.insert sid s).get k = some s' := hs'
      rw [HashMap.get_insert] at hs''
      split at hs''
      · subst k; cases hs''; exact hw.inserting i sid _ url hi
      · exact hw.ids k s' hs''
  | track i id pid port url =>
    refine hw.of_frame (show _ = [.tracked id port] ++ w.history from rfl)
      (fun e he k => by simp only [List.mem_singleton] at he; subst he; exact ⟨nofun, nofun⟩)
      fun k => ?_
    show ((runBackground.track w.sessions id pid port).get k).map Session.id = _
    rw [runBackground.get_track]
    split
    · rw [Option.map_map]; rfl
    · rfl
  | reap =>
    refine ⟨fun k => ?_, fun k s' hs' => hw.ids k s' (get_cleanup.1 hs').1⟩
    show ((cleanupExpiredSessions w.sessions w.now).1.get k).isSome =
      live k ((expiredIds w.sessions w.now).reverse.map .removed ++ w.history)
    rw [live_removed_append, ← hw.keys k, get_cleanup_eq]
    simp only [List.mem_reverse]
    split <;> rfl

lemma reachable (h : Reachable b64 w) : w.Keys := by
  induction h with
  | init =>
    exact ⟨fun _ => by simp [World.init, World.sessions, AppState.withPreviewDomain, live],
      fun _ _ h => by simp [World.init, World.sessions, AppState.withPreviewDomain] at h,
      fun _ _ _ _ h => by simp [World.init] at h⟩
  | step _ hstep ih => exact ih.step hstep

end World.Keys

/-- **The keys are the live ids.** In every reachable world, `id` is a key of the table exactly
when the last insert or removal of `id` is `create_session`'s insert, and the entry under `id`
is the session whose `id` field is `id`. -/
theorem keys_eq_live {b64 : Base64} {w : World} (hw : Reachable b64 w) :
    ∀ id, ((w.sessions.get id).isSome = live id w.history) ∧
      ∀ s, w.sessions.get id = some s → s.id = id :=
  fun id => ⟨(World.Keys.reachable hw).keys id, (World.Keys.reachable hw).ids id⟩

/-- `spawnedWorld`, then a `delete_session` of `"s"`, between the spawn and the tracking step of
its `run_background`. -/
def deletedWorld (b64 : Base64) : World :=
  let w : World := { spawnedWorld b64 with tasks := (spawnedWorld b64).tasks ++ [.start (.deleteSession "s")] }
  w.enter b64 2 (.deleteSession "s")

lemma deletedWorld_reachable (b64 : Base64) : Reachable b64 (deletedWorld b64) := by
  refine .step (.step (spawnedWorld_reachable b64) (.call _ _)) (.enter _ 2 _ ?_)
  rfl

theorem keys_eq_live_deletedWorld :
    ((deletedWorld Base64.rejectAll).sessions.get "s").isSome =
        live "s" (deletedWorld Base64.rejectAll).history ∧
      ∀ s, (deletedWorld Base64.rejectAll).sessions.get "s" = some s → s.id = "s" :=
  keys_eq_live (deletedWorld_reachable _) "s"

/-! ### Fresh ids: a removed session stays removed -/

/-- The id an event says `Uuid::new_v4()` returned. -/
def Ev.generatedId : Ev → Option String
  | .generated _ sid => some sid
  | _ => none

/-- `create_session` never generated an id twice. -/
def Fresh (h : List Ev) : Prop := (h.filterMap Ev.generatedId).Nodup

instance (h : List Ev) : Decidable (Fresh h) := inferInstanceAs (Decidable (List.Nodup _))

lemma Fresh.of_suffix {h h' : List Ev} (hf : Fresh h') (hs : h <:+ h') : Fresh h :=
  List.Nodup.sublist (hs.sublist.filterMap _) hf

/-- Under fresh ids, one call generated each id. -/
lemma Fresh.task_eq {h : List Ev} {i j : Nat} {sid : String} (hf : Fresh h)
    (hi : Ev.generated i sid ∈ h) (hj : Ev.generated j sid ∈ h) : i = j := by
  induction h with
  | nil => cases hi
  | cons e h ih =>
    have hmem : ∀ n, Ev.generated n sid ∈ h → sid ∈ h.filterMap Ev.generatedId :=
      fun n hn => List.mem_filterMap.2 ⟨_, hn, rfl⟩
    cases e with
    | generated k sid' =>
      simp only [Fresh, List.filterMap_cons, Ev.generatedId, List.nodup_cons] at hf
      simp only [List.mem_cons, Ev.generated.injEq] at hi hj
      rcases hi with ⟨rfl, rfl⟩ | hi
      · rcases hj with ⟨rfl, -⟩ | hj
        · rfl
        · exact absurd (hmem j hj) hf.1
      · rcases hj with ⟨rfl, rfl⟩ | hj
        · exact absurd (hmem i hi) hf.1
        · exact ih hf.2 hi hj
    | _ =>
      exact ih hf ((List.mem_cons.1 hi).resolve_left nofun) ((List.mem_cons.1 hj).resolve_left nofun)

lemma FirstEffect.not_inserted {m : Sessions} {now : Instant}
    {r : Sessions × Task × Option (PathBuf × List Pid) × List Ev} (he : FirstEffect m now r)
    (sid : String) : Ev.inserted sid ∉ r.2.2.2 := by
  intro hmem
  cases he with
  | keep _ hevs => obtain ⟨_, h⟩ := hevs _ hmem; cases h
  | touch | clear | remove => simp at hmem

/-- An insert in the history is an old one, or the one of this step's `create_session`. -/
lemma Step.inserted_mem {b64 : Base64} {w w' : World} {sid : String} (h : Step b64 w w')
    (hmem : Ev.inserted sid ∈ w'.history) :
    Ev.inserted sid ∈ w.history ∨ ∃ (i : Nat) (s : Session) (url : Option String),
      w.tasks[i]? = some (.inserting sid s url) ∧
      w'.tasks[i]? = some (.done (.createSession (.ok ⟨sid, url⟩))) := by
  cases h with
  | tick | call | spawn | kill | complete | respond | destroy => exact .inl hmem
  | enter i req =>
    rcases List.mem_append.1 hmem with h | h
    · exact absurd h ((firstPhase_effect b64 w.state w.now req).not_inserted sid)
    · exact .inl h
  | createSandbox | track => exact .inl ((List.mem_cons.1 hmem).resolve_left nofun)
  | createInsert i sid' s url hi =>
    rcases List.mem_cons.1 hmem with h | h
    · cases h
      exact .inr ⟨i, s, url, hi, List.getElem?_set_self (List.getElem?_eq_some_iff.1 hi).1⟩
    · exact .inl h
  | reap =>
    rcases List.mem_append.1 hmem with h | h
    · obtain ⟨_, -, h⟩ := List.mem_map.1 h; cases h
    · exact .inl h

/-- Each `create_session` about to insert was given its id by `Uuid::new_v4()` in its own call,
and each insert in the history was made by a call that has returned. -/
structure World.Generated (w : World) : Prop where
  inserting : ∀ (k : Nat) (sid : String) (s : Session) (url : Option String),
    w.tasks[k]? = some (.inserting sid s url) → Ev.generated k sid ∈ w.history
  inserted : ∀ sid : String, Ev.inserted sid ∈ w.history →
    ∃ (k : Nat) (r : Reply), Ev.generated k sid ∈ w.history ∧ w.tasks[k]? = some (.done r)

namespace World.Generated

variable {b64 : Base64} {w w' : World}

lemma step (hw : w.Generated) (h : Step b64 w w') : w'.Generated := by
  have hsuf := h.history_suffix.subset
  refine ⟨fun k sid s url hk => ?_, fun sid hmem => ?_⟩
  · rcases h.inserting_cases hk with hk | ⟨_, _, _, -, -, hg, -⟩
    · exact hsuf (hw.inserting k sid s url hk)
    · exact hg
  · rcases h.inserted_mem hmem with hmem | ⟨i, s, url, hi, hd⟩
    · obtain ⟨k, r, hg, hd⟩ := hw.inserted sid hmem
      exact ⟨k, r, hsuf hg, h.done_stable hd⟩
    · exact ⟨i, _, hsuf (hw.inserting i sid s url hi), hd⟩

lemma reachable (h : Reachable b64 w) : w.Generated := by
  induction h with
  | init => exact ⟨fun _ _ _ _ h => by simp [World.init] at h, fun _ h => by simp [World.init] at h⟩
  | step _ hstep ih => exact ih.step hstep

end World.Generated

/-- The routing of a Host that names an id the table does not have. -/
lemma route_of_get_none {st : AppState} {now : Instant} {host id : String}
    (ht : (st.previewDomain.bind fun d => stripSuffix host ("." ++ d)) = some id)
    (hs : st.sessions.get id = none) :
    previewProxy.route st now host = (st.sessions, .error ⟨StatusCode.notFound, "Session " ++ id ++ " not found"⟩) := by
  unfold previewProxy.route
  cases hd : st.previewDomain with
  | none => rw [hd] at ht; cases ht
  | some d =>
    rw [hd, Option.some_bind] at ht
    simp [ht, HashMap.getMut, hs]

/-- A call addressed to an id the table does not have answers `404` in its first atomic section,
and changes nothing. -/
theorem firstPhase_of_target_none (b64 : Base64) (st : AppState) (now : Instant) (req : Request)
    {id : String} (ht : req.target st = some id) (hs : st.sessions.get id = none) :
    ∃ r, firstPhase b64 st now req = (st.sessions, .done r, none, []) ∧
      r.statusCode = StatusCode.notFound := by
  cases req with
  | createSession | listSessions => cases ht
  | previewProxy host req =>
    refine ⟨.previewProxy ⟨StatusCode.notFound, "Session " ++ id ++ " not found"⟩, ?_, rfl⟩
    simp only [firstPhase, route_of_get_none ht hs]
    rfl
  | getSession | deleteSession | setEnv | setCwd | backgroundStatus =>
    -- the table is read or written in place, and the call answers `404`
    cases ht
    simp only [firstPhase, getSession, deleteSession_of_get_none hs, setEnv, setCwd, HashMap.getMut,
      hs, found_of_none hs, backgroundStatus.lookup, continueWith]
    exact ⟨_, rfl, rfl⟩
  | runInSession | writeFile | writeFilesBulk | readFile | listFiles | runBackground | killBackground =>
    -- the lookup under the write lock answers `Session not found`
    cases ht
    simp only [firstPhase, runInSession.lookup, writeFile.lookup, writeFilesBulk.lookup,
      readFile.lookup, listFiles.lookup, runBackground.lookup, killBackground.clear, HashMap.getMut,
      hs, lookupTouch_of_get_none _ _ _ _ hs, found_of_none hs, continueWith]
    exact ⟨_, rfl, rfl⟩

/-- **A removed session stays removed.** In every run from a reachable world in which
`create_session` never generates an id twice, an id that was inserted and is no longer in the
table is never inserted again, and every call that addresses it at the end of the run answers
`404` in its first atomic section, changing nothing. -/
theorem removed_session_stays_gone {b64 : Base64} {w w' : World} {id : String}
    (hw : Reachable b64 w) (hrun : Run b64 w w') (hfresh : Fresh w'.history)
    (hins : Ev.inserted id ∈ w.history) (hgone : w.sessions.get id = none) :
    w'.sessions.get id = none ∧ ∀ req, req.target w'.state = some id →
      ∃ r, firstPhase b64 w'.state w'.now req = (w'.sessions, .done r, none, []) ∧
        r.statusCode = StatusCode.notFound := by
  have hG := World.Generated.reachable hw
  obtain ⟨j, r, hgen, hdone⟩ := hG.inserted id hins
  -- along the run: `id` stays out of the table, no call is about to insert it, and the call that
  -- generated it has returned
  have key : ∀ w'', Run b64 w w'' → Fresh w''.history →
      w''.sessions.get id = none ∧
        (∀ (k : Nat) (s : Session) (url : Option String), w''.tasks[k]? ≠ some (.inserting id s url)) ∧
        Ev.generated j id ∈ w''.history ∧ ∃ r, w''.tasks[j]? = some (.done r) := by
    intro w'' hrun''
    induction hrun'' with
    | refl =>
      intro hf
      refine ⟨hgone, fun k s url hk => ?_, hgen, r, hdone⟩
      rw [hf.task_eq (hG.inserting k id s url hk) hgen, hdone] at hk
      cases hk
    | tail _ hstep ih =>
      intro hf
      have hsuf := hstep.history_suffix
      obtain ⟨hg, hno, hgj, r', hd⟩ := ih (hf.of_suffix hsuf)
      refine ⟨?_, fun k s url hk => ?_, hsuf.subset hgj, r', hstep.done_stable hd⟩
      · refine Option.eq_none_iff_forall_not_mem.2 fun s' hget => ?_
        rcases hstep.get_some_cases hget with h | ⟨i, url, hi⟩
        · rw [hg] at h; cases h
        · exact absurd hi (hno i s' url)
      · rcases hstep.inserting_cases hk with hk | ⟨_, _, _, hstart, -, hgk, -⟩
        · exact hno k s url hk
        · rw [hf.task_eq hgk (hsuf.subset hgj), hd] at hstart
          cases hstart
  obtain ⟨hg, -⟩ := key w' hrun hfresh
  exact ⟨hg, fun req ht => firstPhase_of_target_none b64 w'.state w'.now req ht hg⟩

theorem removed_session_stays_gone_deletedWorld :
    ((deletedWorld Base64.rejectAll).track 1 "s" 42 10000 none).sessions.get "s" = none ∧
      ∀ req, req.target ((deletedWorld Base64.rejectAll).track 1 "s" 42 10000 none).state = some "s" →
        ∃ r, firstPhase Base64.rejectAll ((deletedWorld Base64.rejectAll).track 1 "s" 42 10000 none).state
            ((deletedWorld Base64.rejectAll).track 1 "s" 42 10000 none).now req =
          (((deletedWorld Base64.rejectAll).track 1 "s" 42 10000 none).sessions, .done r, none, []) ∧
          r.statusCode = StatusCode.notFound :=
  removed_session_stays_gone (deletedWorld_reachable _)
    (Relation.ReflTransGen.single (.track _ 1 "s" 42 10000 none rfl)) (by decide) (by decide) rfl

/-- `deletedWorld` after the tracking step of its `run_background`, and the call's return. -/
def answeredWorld (b64 : Base64) : World :=
  ((deletedWorld b64).track 1 "s" 42 10000 none).respond 1 (.runBackground (.ok ⟨42, 10000, none⟩))

/-- **The tracking step answers `200` for a deleted session.** In a run reachable for every codec,
`delete_session` removes `"s"` (answering `204`) between the spawn and the tracking step of a
`run_background` on it; the tracking step then finds no session and records nothing, and the call
returns `Ok` with the pid and the port, not `NotFound`. -/
theorem tracking_after_delete_answers_ok (b64 : Base64) :
    Reachable b64 (answeredWorld b64) ∧
      (deletedWorld b64).tasks[2]? = some (.done (.status (.ok StatusCode.noContent))) ∧
      (deletedWorld b64).sessions.get "s" = none ∧
      (answeredWorld b64).tasks[1]? = some (.done (.runBackground (.ok ⟨42, 10000, none⟩))) ∧
      (answeredWorld b64).sessions.get "s" = none :=
  ⟨.step (.step (deletedWorld_reachable b64) (.track _ 1 "s" 42 10000 none rfl)) (.respond _ 1 _ rfl),
    rfl, rfl, rfl, rfl⟩

end OpenComputer
