import OpenComputer.Pids

/-!
# Where the pids the service kills, and the ports it proxies to, come from

`kill(pid, SIGKILL)` is called in two places: the loop of `kill_background` over the snapshot it
took of a session's `background_pids`, and the blocking task to which `delete_session` or the
reaper hands a removed session's pids. A pid enters `background_pids` only in the tracking step of
`run_background`, the critical section after which that call returns the pid to its client; a
port enters `ports` in the same step, and the preview proxy forwards to the first port of a
session, or to `5173`.

The tracking step releases the lock before the call returns, so other calls may act on the new pid
first: `kill_background` may signal it before its `run_background` has returned it. What holds is
`World.Attributed`: every pid and port the service holds was recorded by the tracking step of a
`run_background` call, which is now returning it or has returned it (`World.Tracked`). It holds
in every reachable world, with no assumption on the ids `create_session` generates. So the service
sends `SIGKILL` only to pids that its own `run_background` calls spawned and tracked
(`sigkill_only_tracked_pids`), and the preview proxy forwards only to `5173` or to a port a
`run_background` call tracked (`preview_port_tracked`).

The proof follows the step relation: one lemma per place a pid can be held says where, before the
step, the pid it holds after the step was (`Step.session_origin`, `Step.killing_origin`,
`Step.job_origin`, `Step.signal_origin`), and the invariant is assembled from them.
-/

namespace OpenComputer

/-- The reply a call is returning, or has returned. -/
def Task.reply? : Task → Option Reply
  | .returning r | .done r => some r
  | _ => none

/-- The tracking step of a `run_background` call recorded `pid` and `port`: the call is returning
them to its client, or has returned them. -/
def World.Tracked (w : World) (pid : Pid) (port : Port) : Prop :=
  ∃ (i : Nat) (url : Option String),
    w.tasks[i]?.bind Task.reply? = some (.runBackground (.ok ⟨pid, port, url⟩))

/-- A `run_background` call tracked `pid`. -/
def World.TrackedPid (w : World) (pid : Pid) : Prop := ∃ port, w.Tracked pid port

/-- Every pid and every port of the session was tracked by a `run_background` call. -/
def Session.Attributed (w : World) (s : Session) : Prop :=
  (∀ pid ∈ s.backgroundPids, w.TrackedPid pid) ∧ ∀ port ∈ s.ports, ∃ pid, w.Tracked pid port

section Steps

variable {b64 : Base64} {w w' : World}

lemma Task.reply?_of_complete {b64 : Base64} {t : Task} {o : Outcome} {r : Reply}
    (h : t.complete b64 o = some r) : t.reply? = none := by
  cases t <;> first | rfl | (cases o <;> cases h)

/-- A call keeps the reply it is returning, or has returned: only its return step changes it, from
`returning r` to `done r`. -/
lemma Step.reply_stable {k : Nat} {r : Reply} (h : Step b64 w w')
    (hk : w.tasks[k]?.bind Task.reply? = some r) : w'.tasks[k]?.bind Task.reply? = some r := by
  obtain ⟨t, ht, hr⟩ := Option.bind_eq_some.1 hk
  have other : ∀ {i : Nat} {a c : Task}, w.tasks[i]? = some a → a.reply? = none →
      (w.tasks.set i c)[k]?.bind Task.reply? = some r := fun hi ha =>
    Option.bind_eq_some.2 ⟨t, set_of_ne_done hi ht (fun h => by rw [h, hr] at ha; cases ha), hr⟩
  cases h with
  | tick | reap | destroy => exact hk
  | call => exact Option.bind_eq_some.2 ⟨t, (List.getElem?_append_left (List.getElem?_eq_some_iff.1 ht).1).trans ht, hr⟩
  | enter _ _ hi | createSandbox _ _ _ _ _ hi | createInsert _ _ _ _ hi | spawn _ _ _ _ _ _ _ _ hi
  | track _ _ _ _ _ hi | kill _ _ _ hi => exact other hi rfl
  | complete _ _ _ _ hi hc => exact other hi (Task.reply?_of_complete hc)
  | respond i r' hi =>
    by_cases hik : i = k
    · subst hik
      rw [hi] at ht
      cases ht
      exact Option.bind_eq_some.2 ⟨_, List.getElem?_set_self (List.getElem?_eq_some_iff.1 hi).1, hr⟩
    · exact (List.getElem?_set_ne hik).symm ▸ hk

lemma World.Tracked.step {pid : Pid} {port : Port} (h : Step b64 w w') :
    w.Tracked pid port → w'.Tracked pid port
  | ⟨i, url, hi⟩ => ⟨i, url, h.reply_stable hi⟩

lemma World.TrackedPid.step {pid : Pid} (h : Step b64 w w') : w.TrackedPid pid → w'.TrackedPid pid
  | ⟨port, hp⟩ => ⟨port, hp.step h⟩

lemma Session.Attributed.step {s : Session} (h : Step b64 w w') (hs : s.Attributed w) :
    s.Attributed w' :=
  ⟨fun pid hp => (hs.1 pid hp).step h, fun port hp => (hs.2 port hp).imp fun _ => World.Tracked.step h⟩

/-- The tracking step adds a pid and a port that its own reply returns. -/
lemma Session.Attributed.track {s : Session} {pid : Pid} {port : Port} (hs : s.Attributed w)
    (hp : w.Tracked pid port) : (s.track pid port).Attributed w := by
  refine ⟨fun q hq => ?_, fun q hq => ?_⟩
  · rcases List.mem_append.1 hq with hq | hq
    · exact hs.1 q hq
    · rw [List.mem_singleton.1 hq]
      exact ⟨port, hp⟩
  · unfold Session.track at hq
    split at hq
    · exact hs.2 q hq
    · rcases List.mem_append.1 hq with hq | hq
      · exact hs.2 q hq
      · rw [List.mem_singleton.1 hq]
        exact ⟨pid, hp⟩

/-- A `kill_background` snapshot is one that was there, or the pids of a session that the step's
critical section took. -/
lemma Step.killing_origin {k : Nat} {pids : List Pid} (h : Step b64 w w')
    (hk : w'.tasks[k]? = some (.killing pids)) :
    w.tasks[k]? = some (.killing pids) ∨
      ∃ (id : String) (s : Session), w.sessions.get id = some s ∧ pids = s.backgroundPids := by
  cases h with
  | tick | reap | destroy => exact .inl hk
  | call => exact (getElem?_concat_eq_some hk).imp_right fun h => nomatch h
  | enter i req =>
    rcases getElem?_set_eq_some hk with ⟨-, hb⟩ | ⟨-, hk⟩
    · rcases hfp : firstPhase b64 w.state w.now req with ⟨m', t, j, evs⟩
      have he := firstPhase_effect b64 w.state w.now req
      rw [hfp] at he
      rw [hfp] at hb
      subst hb
      cases he with
      | keep ht | touch _ _ _ _ _ _ ht | remove _ _ _ ht => exact nomatch ht
      | clear id s hs => exact .inr ⟨id, s, hs, rfl⟩
    · exact .inl hk
  | createSandbox =>
    refine .inl (set_of_ne hk fun h => ?_)
    rcases continueWith_cases h with ⟨_, -, h⟩ | ⟨⟨_, _⟩, -, h⟩ <;> cases h
  | spawn =>
    refine .inl (set_of_ne hk fun h => ?_)
    rcases continueWith_cases h with ⟨_, -, h⟩ | ⟨_, -, h⟩ <;> cases h
  | createInsert | track | kill | complete | respond => exact .inl (set_of_ne hk fun h => nomatch h)

/-- A pid is signalled by the step of a `kill_background` loop over its snapshot, or by the
destruction task the step runs. -/
lemma Step.signal_origin {pid : Pid} (h : Step b64 w w') (hp : pid ∈ w'.signals) :
    pid ∈ w.signals ∨ (∃ (i : Nat) (pids : List Pid), w.tasks[i]? = some (.killing pids) ∧ pid ∈ pids) ∨
      ∃ job ∈ w.jobs, pid ∈ job.2 := by
  cases h with
  | kill i pids killed hi =>
    rcases List.mem_append.1 hp with hp | hp
    · exact .inl hp
    · exact .inr (.inl ⟨i, pids, hi, hp⟩)
  | destroy j job hj =>
    rcases List.mem_append.1 hp with hp | hp
    · exact .inl hp
    · exact .inr (.inr ⟨job, List.getElem?_mem hj, hp⟩)
  | _ => exact .inl hp

end Steps

/-- Every pid and port the service holds was tracked by a `run_background` call: those of the
sessions, of the sessions `create_session` is about to insert, of the `kill_background` snapshots,
of the destruction tasks, and every pid already signalled. -/
structure World.Attributed (w : World) : Prop where
  sessions : ∀ (id : String) (s : Session), w.sessions.get id = some s → s.Attributed w
  inserting : ∀ (i : Nat) (sid : String) (s : Session) (url : Option String),
    w.tasks[i]? = some (.inserting sid s url) → s.Attributed w
  killing : ∀ (i : Nat) (pids : List Pid), w.tasks[i]? = some (.killing pids) →
    ∀ pid ∈ pids, w.TrackedPid pid
  jobs : ∀ job ∈ w.jobs, ∀ pid ∈ job.2, w.TrackedPid pid
  signals : ∀ pid ∈ w.signals, w.TrackedPid pid

namespace World.Attributed

variable {b64 : Base64} {w w' : World}

lemma init (previewDomain : Option String) (t₀ : Instant) : (World.init previewDomain t₀).Attributed where
  sessions _ _ h := nomatch h
  inserting _ _ _ _ h := nomatch h
  killing _ _ h := nomatch h
  jobs _ h := nomatch h
  signals _ h := nomatch h

/-- **One step keeps the attribution.** -/
lemma step (hw : w.Attributed) (h : Step b64 w w') : w'.Attributed where
  sessions id s' hk := by
    rcases h.session_origin hk with ⟨s, hs, ⟨_, _, _, -, rfl⟩ | rfl | ⟨i, pid, port, url, rfl, hi⟩⟩ |
      ⟨i, url, hi⟩
    · exact (hw.sessions id s hs).step h
    · exact ⟨nofun, nofun⟩
    · exact ((hw.sessions id s hs).step h).track ⟨i, url, by rw [hi]; rfl⟩
    · exact (hw.inserting i id s' url hi).step h
  inserting i sid s url hi := by
    rcases h.inserting_cases hi with hi | ⟨_, _, _, -, -, -, rfl⟩
    · exact (hw.inserting i sid s url hi).step h
    · exact ⟨nofun, nofun⟩
  killing i pids hi pid hp := by
    rcases h.killing_origin hi with hi | ⟨id, s, hs, rfl⟩
    · exact (hw.killing i pids hi pid hp).step h
    · exact ((hw.sessions id s hs).1 pid hp).step h
  jobs job hj pid hp := by
    rcases h.job_origin hj with hj | ⟨id, s, hs, -, rfl⟩
    · exact (hw.jobs job hj pid hp).step h
    · exact ((hw.sessions id s hs).1 pid hp).step h
  signals pid hp := by
    rcases h.signal_origin hp with hp | ⟨i, pids, hi, hp⟩ | ⟨job, hj, hp⟩
    · exact (hw.signals pid hp).step h
    · exact (hw.killing i pids hi pid hp).step h
    · exact (hw.jobs job hj pid hp).step h

lemma reachable (h : Reachable b64 w) : w.Attributed := by
  induction h with
  | init previewDomain t₀ => exact init previewDomain t₀
  | step _ hstep ih => exact ih.step hstep

end World.Attributed

/-- **The service sends `SIGKILL` only to pids its own `run_background` calls tracked.** In every
reachable world, every pid that `kill(pid, SIGKILL)` was called on, and every pid that a
`kill_background` loop or a destruction task is still to signal, came from the spawn of a
`run_background` call whose tracking step recorded it; that call is returning the pid to its
client, or has returned it. -/
theorem sigkill_only_tracked_pids {b64 : Base64} {w : World} (hw : Reachable b64 w) :
    (∀ pid ∈ w.signals, w.TrackedPid pid) ∧
      (∀ (i : Nat) (pids : List Pid), w.tasks[i]? = some (.killing pids) → ∀ pid ∈ pids, w.TrackedPid pid) ∧
      ∀ job ∈ w.jobs, ∀ pid ∈ job.2, w.TrackedPid pid :=
  have ha := World.Attributed.reachable hw
  ⟨ha.signals, ha.killing, ha.jobs⟩

/-- `killWorld` after its `kill_background` ran: pid `42` is signalled while the `run_background`
that spawned it is still returning it. -/
def killedWorld (b64 : Base64) : World :=
  ((killWorld b64).enter b64 2 (.killBackground "s")).kill 2 [42] fun _ => true

lemma killedWorld_reachable (b64 : Base64) : Reachable b64 (killedWorld b64) :=
  .step (.step (killWorld_reachable b64) (.enter _ 2 _ rfl)) (.kill _ 2 [42] _ rfl)

theorem sigkill_only_tracked_pids_killedWorld :
    Reachable Base64.rejectAll (killedWorld Base64.rejectAll) ∧
      (killedWorld Base64.rejectAll).signals = [42] ∧
      (killedWorld Base64.rejectAll).tasks[1]? = some (.returning (.runBackground (.ok ⟨42, 10000, none⟩))) ∧
      ∀ pid ∈ (killedWorld Base64.rejectAll).signals, (killedWorld Base64.rejectAll).TrackedPid pid :=
  ⟨killedWorld_reachable _, rfl, rfl, (sigkill_only_tracked_pids (killedWorld_reachable _)).1⟩

/-- **The preview proxy forwards only to `5173` or to a tracked port.** In every reachable world,
whatever the Host and the clock reading, a request the proxy routes goes to the default port
`5173` or to a port that the tracking step of a `run_background` call recorded, a call that is
returning that port to its client or has returned it. -/
theorem preview_port_tracked {b64 : Base64} {w : World} (hw : Reachable b64 w) (t : Instant)
    (host id : String) (port : Port) (h : (previewProxy.route w.state t host).2 = .ok (id, port)) :
    port = 5173 ∨ ∃ pid, w.Tracked pid port := by
  rcases route_cases w.state t host with ⟨_, he, -⟩ | ⟨_, s, hok, hs, -, -⟩
  · simp [he] at h
  · rw [hok] at h
    cases h
    cases hp : s.ports with
    | nil => exact .inl rfl
    | cons p ps =>
      exact .inr (((World.Attributed.reachable hw).sessions _ s hs).2 p (hp ▸ List.mem_cons_self p ps))

/-- A session `"s"` under the preview domain `preview.dev`, and a `run_background` of `devServer`
on it, tracked as pid `42` on the first automatic port. -/
def previewWorld (b64 : Base64) : World :=
  let url := createSession.previewUrl (some "preview.dev") "s"
  let w : World := { World.init (some "preview.dev") 0 with tasks := [.start (.createSession ⟨.empty⟩)] }
  let w := (w.createSandbox 0 ⟨.empty⟩ "s" (.ok (.ok "/sandboxes/s")) 5).createInsert 0 "s"
    (createSession.session "s" "/sandboxes/s" ⟨.empty⟩ url 0 5) url
  let w : World := { w with tasks := w.tasks ++ [.start (.runBackground "s" devServer)] }
  ((w.enter b64 1 (.runBackground "s" devServer)).spawn 1 "s" url devServer (.ok (.ok 42))).track 1 "s"
    42 10000 url

lemma previewWorld_reachable (b64 : Base64) : Reachable b64 (previewWorld b64) := by
  refine .step (.step (.step (.step (.step (.step (.step (.init _ 0) (.call _ _))
    (.createSandbox _ 0 _ _ _ _ ?_ (by decide))) (.createInsert _ 0 _ _ _ ?_)) (.call _ _)) (.enter _ 1 _ ?_))
    (.spawn _ 1 "s" "/sandboxes/s" .empty "/" _ devServer _ ?_)) (.track _ 1 "s" 42 10000 _ ?_) <;> rfl

theorem preview_port_tracked_previewWorld :
    Reachable Base64.rejectAll (previewWorld Base64.rejectAll) ∧
      (previewProxy.route (previewWorld Base64.rejectAll).state 0 "s.preview.dev").2 = .ok ("s", 10000) ∧
      ((10000 : Port) = 5173 ∨ ∃ pid, (previewWorld Base64.rejectAll).Tracked pid 10000) :=
  have hr := previewWorld_reachable Base64.rejectAll
  have h : (previewProxy.route (previewWorld Base64.rejectAll).state 0 "s.preview.dev").2 =
      .ok ("s", 10000) := rfl
  ⟨hr, h, preview_port_tracked hr 0 "s.preview.dev" "s" 10000 h⟩

end OpenComputer
