import OpenComputer.Handlers

/-!
# The reaper (`cleanup_expired_sessions`)

Under the write lock the reaper makes two passes: it collects the ids of the sessions idle for
more than `SESSION_TTL_SECS`, in iteration order, and then removes each of them, handing the
removed session's sandbox root and background pids to a blocking task.

`cleanupExpiredSessions_spec` says what the two passes compute together, for every map and
every clock reading: the entries kept are exactly those not idle for too long, unchanged and in
their order, and the blocking tasks get the pair of each removed entry once, in iteration order.
The core is `foldl_remove`: removing a list of distinct keys one by one.
-/

namespace OpenComputer

/-- The reaper's test: `now.duration_since(s.last_used) > ttl`. -/
def expired (now : Instant) (s : Session) : Bool :=
  decide (durationSince now s.lastUsed > Duration.fromSecs sessionTtlSecs)

/-- The first pass: the ids of the expired sessions, in iteration order. -/
def expiredIds (m : Sessions) (now : Instant) : List String :=
  (m.entries.filter fun e => expired now e.2).map Prod.fst

/-- One turn of the second pass: `if let Some(session) = sessions.remove(&id)`, the session's
sandbox root and pids are handed to a blocking task. -/
def reapOne (acc : Sessions × List (PathBuf × List Pid)) (id : String) :
    Sessions × List (PathBuf × List Pid) :=
  match acc.1.remove id with
  | (some s, m') => (m', acc.2 ++ [(s.sandboxRoot, s.backgroundPids)])
  | (none, m') => (m', acc.2)

/-- `cleanup_expired_sessions`: the map after the reaper's tick, and the `(sandbox_root, pids)`
of each blocking destruction task it spawned, in order. -/
def cleanupExpiredSessions (m : Sessions) (now : Instant) : Sessions × List (PathBuf × List Pid) :=
  (expiredIds m now).foldl reapOne (m, [])

/-- What a destruction task is given. -/
def Session.destroyJob (s : Session) : PathBuf × List Pid := (s.sandboxRoot, s.backgroundPids)

/-! ### Removing distinct keys one by one -/

lemma reapOne_eq (m : Sessions) (acc : List (PathBuf × List Pid)) (k : String) :
    reapOne (m, acc) k = match m.get k with
      | some s => ((m.remove k).2, acc ++ [s.destroyJob])
      | none => (m, acc) := by
  cases h : m.get k <;> simp only [reapOne, HashMap.remove, h, Session.destroyJob]

lemma filterMap_eq_map_of {α β : Type} {f : α → Option β} {g : α → β} :
    ∀ {l : List α}, (∀ x ∈ l, f x = some (g x)) → l.filterMap f = l.map g
  | [], _ => rfl
  | x :: l, h => by
    rw [List.filterMap_cons, h x (List.mem_cons_self _ _), List.map_cons,
      filterMap_eq_map_of fun y hy => h y (List.mem_cons_of_mem _ hy)]

/-- **The second pass**: removing the distinct keys `ks` one by one keeps the other entries in
order and hands over the sessions found under `ks`, in the order of `ks`. -/
theorem foldl_remove :
    ∀ (ks : List String) (m : Sessions) (acc : List (PathBuf × List Pid)), ks.Nodup →
      (ks.foldl reapOne (m, acc)).1.entries = m.entries.filter (fun e => e.1 ∉ ks) ∧
      (ks.foldl reapOne (m, acc)).2 =
        acc ++ ks.filterMap fun k => (m.get k).map Session.destroyJob
  | [], m, acc, _ => by simp
  | k :: ks, m, acc, hnd => by
    obtain ⟨hk, hnd⟩ := List.nodup_cons.1 hnd
    have hrest : ks.filterMap (fun k' => ((m.remove k).2.get k').map Session.destroyJob) =
        ks.filterMap fun k' => (m.get k').map Session.destroyJob :=
      List.filterMap_congr fun k' hk' => by
        rw [HashMap.get_remove, if_neg (by rintro rfl; exact hk hk')]
    have hentries : ((m.remove k).2.entries.filter fun e => e.1 ∉ ks) =
        m.entries.filter fun e => e.1 ∉ k :: ks := by
      rw [HashMap.remove_entries, List.filter_filter]
      exact List.filter_congr fun e _ => by simp [Bool.and_comm]
    rw [List.foldl_cons, reapOne_eq]
    cases hget : m.get k with
    | none =>
      have hm : (m.remove k).2 = m := by simp [HashMap.remove, hget]
      obtain ⟨h1, h2⟩ := foldl_remove ks m acc hnd
      rw [hm] at hentries hrest
      simp only [h1, h2, hentries, hrest]
      simp [hget]
    | some s =>
      obtain ⟨h1, h2⟩ := foldl_remove ks (m.remove k).2 (acc ++ [s.destroyJob]) hnd
      simp only [h1, h2, hentries, hrest]
      simp [hget]

/-- An entry's key is an expired id exactly when the entry is expired: keys are distinct. -/
lemma mem_expiredIds_iff {m : Sessions} {now : Instant} {e : String × Session} (he : e ∈ m.entries) :
    e.1 ∈ expiredIds m now ↔ expired now e.2 = true := by
  simp only [expiredIds, List.mem_map, List.mem_filter]
  constructor
  · rintro ⟨e', ⟨he', hexp⟩, hk⟩
    have h1 := (HashMap.mem_entries_iff m e'.1).1 he'
    rw [hk, (HashMap.mem_entries_iff m e.1).1 he, Option.some.injEq] at h1
    rwa [h1]
  · exact fun hexp => ⟨e, ⟨he, hexp⟩, rfl⟩

lemma expiredIds_nodup (m : Sessions) (now : Instant) : (expiredIds m now).Nodup :=
  m.nodup.sublist ((List.filter_sublist _).map _)

/-- The reaper keeps exactly the entries that are not expired. -/
lemma cleanup_entries (m : Sessions) (now : Instant) :
    (cleanupExpiredSessions m now).1.entries = m.entries.filter fun e => !expired now e.2 :=
  (foldl_remove _ m [] (expiredIds_nodup m now)).1.trans
    (List.filter_congr fun e he => by simp [mem_expiredIds_iff he])

/-- The reaper hands over the sandbox root and pids of each expired entry, in iteration order. -/
lemma cleanup_jobs (m : Sessions) (now : Instant) :
    (cleanupExpiredSessions m now).2 = (m.entries.filter fun e => expired now e.2).map fun e => e.2.destroyJob := by
  rw [cleanupExpiredSessions, (foldl_remove _ m [] (expiredIds_nodup m now)).2, List.nil_append, expiredIds, List.filterMap_map]
  exact filterMap_eq_map_of fun e he => by
    simp [(HashMap.mem_entries_iff m e.1).1 (List.mem_filter.1 he).1]

/-- A session survives the reaper's tick exactly when it was there and is not expired. -/
lemma get_cleanup {m : Sessions} {now : Instant} {k : String} {s : Session} :
    (cleanupExpiredSessions m now).1.get k = some s ↔ m.get k = some s ∧ expired now s = false := by
  rw [← HashMap.mem_entries_iff, cleanup_entries, List.mem_filter, HashMap.mem_entries_iff]
  simp

lemma get_cleanup_of_expired {m : Sessions} {now : Instant} {k : String} {s : Session}
    (hs : m.get k = some s) (he : expired now s = true) : (cleanupExpiredSessions m now).1.get k = none := by
  cases h : (cleanupExpiredSessions m now).1.get k with
  | none => rfl
  | some s' =>
    obtain ⟨hs', hne⟩ := get_cleanup.1 h
    rw [hs, Option.some.injEq] at hs'
    rw [hs'] at he
    rw [he] at hne
    cases hne

/-- The table after the reaper's tick, key by key: the expired ids are gone, the rest stay. -/
lemma get_cleanup_eq (m : Sessions) (now : Instant) (k : String) :
    (cleanupExpiredSessions m now).1.get k = if k ∈ expiredIds m now then none else m.get k := by
  cases hs : m.get k with
  | none =>
    cases h : (cleanupExpiredSessions m now).1.get k with
    | none => split <;> rfl
    | some s => rw [(get_cleanup.1 h).1] at hs; cases hs
  | some s =>
    have hiff : k ∈ expiredIds m now ↔ expired now s = true :=
      mem_expiredIds_iff ((HashMap.mem_entries_iff _ k).2 hs)
    cases hexp : expired now s
    · rw [if_neg fun h => Bool.false_ne_true (hexp.symm.trans (hiff.1 h)), get_cleanup.2 ⟨hs, hexp⟩]
    · rw [if_pos (hiff.2 hexp), get_cleanup_of_expired hs hexp]

/-- **Reaper exactness.** For every map and every clock reading, the reaper leaves exactly the
entries idle for at most `SESSION_TTL_SECS`, unchanged and in their order, and hands the sandbox
root and pids of each removed entry to one destruction task, in iteration order, and no other
pair. -/
theorem cleanupExpiredSessions_spec (m : Sessions) (now : Instant) :
    (cleanupExpiredSessions m now).1.entries =
        m.entries.filter (fun e => durationSince now e.2.lastUsed ≤ Duration.fromSecs sessionTtlSecs) ∧
      (cleanupExpiredSessions m now).2 =
        (m.entries.filter fun e => expired now e.2).map fun e => e.2.destroyJob := by
  refine ⟨(cleanup_entries m now).trans (List.filter_congr fun e _ => ?_), cleanup_jobs m now⟩
  simp only [expired, gt_iff_lt, ← decide_not, not_lt]

end OpenComputer
