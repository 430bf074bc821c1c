import OpenComputer.Provenance
import OpenComputer.Proxy

/-!
# What the service tells a client about its sessions

* `getSession_agrees_with_listSessions`: in every reachable world, `list_sessions` lists the ids of
  the table's keys, each once and in the table's order, and `get_session` of an id answers
  exactly the listed entry with that id. It rests on `World.Keys`: every entry is filed under its
  own id.
* `preview_url_routes_to_session`: in every reachable world, a session of the table carries the
  preview URL that `create_session` built from its id and the service's preview domain, and the
  preview proxy routes that URL's host to this session. It rests on `World.Urls`: a step never
  changes a session's id or preview URL, nor the service's preview domain.
-/

namespace OpenComputer

/-! ### `list_sessions` and `get_session` -/

/-- **`get_session` and `list_sessions` agree.** In every reachable world, at every clock reading,
the ids `list_sessions` lists are the keys of the table, in its order (so no id is listed twice),
and `get_session` of `id` answers exactly the listed entry whose id is `id`. -/
theorem getSession_agrees_with_listSessions {b64 : Base64} {w : World} (hw : Reachable b64 w)
    (t : Instant) :
    (listSessions w.sessions t).map SessionInfo.id = w.sessions.keys ∧
      ∀ (id : String) (info : SessionInfo),
        getSession w.sessions t id = .ok info ↔ info ∈ listSessions w.sessions t ∧ info.id = id := by
  have hids := (World.Keys.reachable hw).ids
  have hmem : ∀ e ∈ w.sessions.entries, w.sessions.get e.1 = some e.2 := fun e he =>
    (HashMap.mem_entries_iff _ _).1 he
  refine ⟨?_, fun id info => ⟨fun h => ?_, fun ⟨hm, hid⟩ => ?_⟩⟩
  · simp only [listSessions, HashMap.values, HashMap.keys, List.map_map]
    exact List.map_congr_left fun e he => hids e.1 e.2 (hmem e he)
  · unfold getSession at h
    split at h
    · cases h
    · next s hs =>
      cases h
      refine ⟨List.mem_map.2 ⟨s, List.mem_map.2 ⟨(id, s), ?_, rfl⟩, rfl⟩, hids id s hs⟩
      exact (HashMap.mem_entries_iff _ _).2 hs
  · obtain ⟨_, hv, rfl⟩ := List.mem_map.1 hm
    obtain ⟨e, he, rfl⟩ := List.mem_map.1 hv
    have hk : e.1 = id := (hids e.1 e.2 (hmem e he)).symm.trans hid
    subst hk
    simp only [getSession, hmem e he]

theorem getSession_agrees_with_listSessions_previewWorld :
    Reachable Base64.rejectAll (previewWorld Base64.rejectAll) ∧
      ((listSessions (previewWorld Base64.rejectAll).sessions 0).map SessionInfo.id =
        (previewWorld Base64.rejectAll).sessions.keys ∧
      ∀ (id : String) (info : SessionInfo),
        getSession (previewWorld Base64.rejectAll).sessions 0 id = .ok info ↔
          info ∈ listSessions (previewWorld Base64.rejectAll).sessions 0 ∧ info.id = id) :=
  ⟨previewWorld_reachable _, getSession_agrees_with_listSessions (previewWorld_reachable _) 0⟩

/-! ### Preview URLs -/

section Steps

variable {b64 : Base64} {w w' : World}

/-- The preview domain is fixed when the service starts. -/
lemma Step.previewDomain_eq (h : Step b64 w w') : w'.state.previewDomain = w.state.previewDomain := by
  cases h with
  | spawn => exact runBackground.choosePort_previewDomain _ _
  | _ => rfl

/-- A `create_session` about to insert is one that was so before the step, or the one whose
`Session` the step built. -/
lemma Step.inserting_built {k : Nat} {sid : String} {s : Session} {url : Option String}
    (h : Step b64 w w') (hk : w'.tasks[k]? = some (.inserting sid s url)) :
    w.tasks[k]? = some (.inserting sid s url) ∨
      ∃ (req : CreateSessionRequest) (created : Joined (Except String PathBuf)) (t₁ t₂ : Instant),
        createSession.build w.state.previewDomain sid req created t₁ t₂ = .ok (s, url) := by
  cases h with
  | tick | reap | destroy => exact .inl hk
  | call => exact (getElem?_concat_eq_some hk).imp_right fun h => nomatch h
  | enter i req =>
    refine .inl (set_of_ne hk fun h => ?_)
    rcases (firstPhase_effect b64 w.state w.now req).task_cases with hp | ⟨_, hp⟩ <;> rw [h] at hp
    · exact hp
    · cases hp
  | createSandbox i req sid' created d =>
    rcases getElem?_set_eq_some hk with ⟨rfl, hb⟩ | ⟨-, hk⟩
    · rcases continueWith_cases hb.symm with ⟨_, -, h⟩ | ⟨⟨_, _⟩, hbuild, h⟩
      · cases h
      · cases h
        exact .inr ⟨req, created, _, _, hbuild⟩
    · exact .inl hk
  | spawn =>
    refine .inl (set_of_ne hk fun h => ?_)
    rcases continueWith_cases h with ⟨_, -, h⟩ | ⟨_, -, h⟩ <;> cases h
  | createInsert | track | kill | complete | respond => exact .inl (set_of_ne hk fun h => nomatch h)

end Steps

/-- Every session, and every session a `create_session` is about to insert, carries the preview
URL of its own id under the service's preview domain. -/
structure World.Urls (w : World) : Prop where
  sessions : ∀ (id : String) (s : Session), w.sessions.get id = some s →
    s.previewUrl = createSession.previewUrl w.state.previewDomain s.id
  inserting : ∀ (i : Nat) (sid : String) (s : Session) (url : Option String),
    w.tasks[i]? = some (.inserting sid s url) →
      s.previewUrl = createSession.previewUrl w.state.previewDomain s.id

namespace World.Urls

variable {b64 : Base64} {w w' : World}

lemma init (previewDomain : Option String) (t₀ : Instant) : (World.init previewDomain t₀).Urls where
  sessions _ _ h := nomatch h
  inserting _ _ _ _ h := nomatch h

/-- **One step keeps every preview URL.** -/
lemma step (hw : w.Urls) (h : Step b64 w w') : w'.Urls where
  sessions id s' hk := by
    rw [h.previewDomain_eq]
    rcases h.session_origin hk with ⟨s, hs, ⟨_, _, _, -, rfl⟩ | rfl | ⟨_, _, _, _, rfl, -⟩⟩ |
      ⟨i, url, hi⟩
    any_goals exact hw.sessions _ s hs
    exact hw.inserting i id s' url hi
  inserting i sid s url hi := by
    rw [h.previewDomain_eq]
    rcases h.inserting_built hi with hi | ⟨_, _, _, _, hbuild⟩
    · exact hw.inserting i sid s url hi
    · obtain ⟨_, -, rfl, rfl⟩ := createSession.build_eq_ok hbuild
      rfl

lemma reachable (h : Reachable b64 w) : w.Urls := by
  induction h with
  | init previewDomain t₀ => exact init previewDomain t₀
  | step _ hstep ih => exact ih.step hstep

end World.Urls

/-- **A live session's preview URL reaches it.** In every reachable world, with no preview domain
no session has a preview URL; with the preview domain `d`, every session `id` of the table carries
the preview URL `https://{id}.{d}`, and the preview proxy routes a request whose Host is `{id}.{d}`
to `id`, at its first port or `5173`, whenever it comes. -/
theorem preview_url_routes_to_session {b64 : Base64} {w : World} (hw : Reachable b64 w)
    (id : String) (s : Session) (hs : w.sessions.get id = some s) (t : Instant) :
    (w.state.previewDomain = none → s.previewUrl = none) ∧
      ∀ d, w.state.previewDomain = some d →
        s.previewUrl = some ("https://" ++ (id ++ "." ++ d)) ∧
        (previewProxy.route w.state t (id ++ "." ++ d)).2 = .ok (id, s.ports.head?.getD 5173) := by
  have hurl := (World.Urls.reachable hw).sessions id s hs
  rw [(World.Keys.reachable hw).ids id s hs] at hurl
  refine ⟨fun hd => by rw [hurl, hd]; rfl, fun d hd => ⟨?_, route_of_live hd hs t⟩⟩
  rw [hurl, hd]
  simp only [createSession.previewUrl, Option.map_some', String.append_assoc]

theorem preview_url_routes_to_session_previewWorld :
    ∃ s, (previewWorld Base64.rejectAll).sessions.get "s" = some s ∧
      s.previewUrl = some ("https://" ++ ("s" ++ "." ++ "preview.dev")) ∧
      (previewProxy.route (previewWorld Base64.rejectAll).state 0 ("s" ++ "." ++ "preview.dev")).2 =
        .ok ("s", s.ports.head?.getD 5173) := by
  obtain ⟨s, hs⟩ : ∃ s, (previewWorld Base64.rejectAll).sessions.get "s" = some s := ⟨_, rfl⟩
  exact ⟨s, hs, (preview_url_routes_to_session (previewWorld_reachable _) "s" s hs 0).2 "preview.dev" rfl⟩

end OpenComputer
