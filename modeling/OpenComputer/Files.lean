import OpenComputer.Handlers

/-!
# `write_files_bulk` against a run of `write_file` calls

`sandbox::write_file_in_sandbox` is a parameter `write`: a partial update of a file store `σ`
that may fail. `writeFileCalls` makes the calls `write_file(p₁, c₁), …, write_file(pₙ, cₙ)` one
after another. `writeFilesBulk_eq_writeFile_calls` compares the two paths for every list of
entries, overlapping paths included: when every content decodes, the store ends the same and the
bulk reply lists exactly the failed writes, in request order; when one does not, the bulk call
writes nothing and reports the first entry that failed to decode.
-/

namespace OpenComputer

variable {σ : Type} (b64 : Base64) (write : PathBuf → String → Bytes → σ → Except String Unit × σ)

/-! ### The decoding loop -/

/-- The entry with its content decoded, when it decodes. -/
def decodedEntry (e : WriteFileEntry) : Option (String × Bytes) :=
  match b64.decode e.content with
  | .ok c => some (e.path, c)
  | .error _ => none

/-- One turn of the decoding loop. -/
def decodeStep (decoded : List (String × Bytes)) (entry : WriteFileEntry) :
    Except HandlerError (List (String × Bytes)) :=
  match b64.decode entry.content with
  | .error e => .error (StatusCode.badRequest, "Invalid base64 for " ++ entry.path ++ ": " ++ e)
  | .ok content => .ok (decoded ++ [(entry.path, content)])

lemma decodeAll_eq (files : List WriteFileEntry) :
    writeFilesBulk.decodeAll b64 files = files.foldlM (decodeStep b64) [] := rfl

lemma foldlM_decodeStep_ok :
    ∀ (files : List WriteFileEntry) (acc : List (String × Bytes)),
      (∀ e ∈ files, ∃ c, b64.decode e.content = .ok c) →
      files.foldlM (decodeStep b64) acc = .ok (acc ++ files.filterMap (decodedEntry b64))
  | [], acc, _ => by simp only [List.foldlM, List.filterMap_nil, List.append_nil]; rfl
  | e :: files, acc, h => by
    obtain ⟨c, hc⟩ := h e (List.mem_cons_self _ _)
    have ih := foldlM_decodeStep_ok files (acc ++ [(e.path, c)])
      fun e' he' => h e' (List.mem_cons_of_mem _ he')
    simp only [List.foldlM_cons, decodeStep, hc, decodedEntry, List.filterMap_cons]
    simp only [bind, Except.bind, ih, List.append_assoc, List.singleton_append]

lemma foldlM_decodeStep_error (e : WriteFileEntry) (post : List WriteFileEntry) {err : String}
    (he : b64.decode e.content = .error err) :
    ∀ (pre : List WriteFileEntry) (acc : List (String × Bytes)),
      (∀ e' ∈ pre, ∃ c, b64.decode e'.content = .ok c) →
      (pre ++ e :: post).foldlM (decodeStep b64) acc =
        .error (StatusCode.badRequest, "Invalid base64 for " ++ e.path ++ ": " ++ err)
  | [], acc, _ => by
    simp only [List.nil_append, List.foldlM_cons, decodeStep, he]
    rfl
  | e' :: pre, acc, h => by
    obtain ⟨c, hc⟩ := h e' (List.mem_cons_self _ _)
    simp only [List.cons_append, List.foldlM_cons, decodeStep, hc]
    exact foldlM_decodeStep_error e post he pre _ fun e'' he'' => h e'' (List.mem_cons_of_mem _ he'')

/-! ### The two paths -/

/-- The calls `write_file(p₁, c₁), …, write_file(pₙ, cₙ)` one after another on session `id`,
the `i`-th at clock reading `clock i`: the registry, the store and the replies. -/
def writeFileCalls (clock : Nat → Instant) (id : String) :
    Nat → AppState → List WriteFileEntry → σ →
      AppState × σ × List (Except HandlerError WriteFileResponse)
  | _, st, [], store => (st, store, [])
  | i, st, e :: files, store =>
    let r := writeFile b64 write st (clock i) id ⟨e.path, e.content⟩ store
    let rs := writeFileCalls clock id (i + 1) r.1 files r.2.1
    (rs.1, rs.2.1, r.2.2 :: rs.2.2)

/-- The `(path, error)` of the calls that failed, in request order. -/
def failedWrites (files : List WriteFileEntry) (replies : List (Except HandlerError WriteFileResponse)) :
    List WriteFileError :=
  (files.zip replies).filterMap fun p =>
    match p.2 with
    | .error (_, msg) => some ⟨p.1.path, msg⟩
    | .ok _ => none

/-- One turn of the bulk writing loop. -/
def writeStep (root : PathBuf) (acc : List WriteFileError × σ) (file : String × Bytes) :
    List WriteFileError × σ :=
  match write root file.1 file.2 acc.2 with
  | (.error e, store') => (acc.1 ++ [⟨file.1, e⟩], store')
  | (.ok (), store') => (acc.1, store')

lemma failedWrites_cons_error (e : WriteFileEntry) (files : List WriteFileEntry) (code : StatusCode)
    (msg : String) (rs : List (Except HandlerError WriteFileResponse)) :
    failedWrites (e :: files) (.error (code, msg) :: rs) = ⟨e.path, msg⟩ :: failedWrites files rs :=
  rfl

lemma failedWrites_cons_ok (e : WriteFileEntry) (files : List WriteFileEntry) (r : WriteFileResponse)
    (rs : List (Except HandlerError WriteFileResponse)) :
    failedWrites (e :: files) (.ok r :: rs) = failedWrites files rs :=
  rfl

lemma writeAll_eq (root : PathBuf) (files : List (String × Bytes)) (store : σ) :
    writeFilesBulk.writeAll write root files store = files.foldl (writeStep write root) ([], store) :=
  rfl

/-- A `write_file` call on a session that is there, with a content that decodes. -/
lemma writeFile_of_get_some (st : AppState) (now : Instant) (id : String) (req : WriteFileRequest)
    (store : σ) {s : Session} {c : Bytes} (hs : st.sessions.get id = some s)
    (hc : b64.decode req.content = .ok c) :
    writeFile b64 write st now id req store =
      ({ st with sessions := st.sessions.modify id (Session.touch now) },
        (write s.sandboxRoot req.path c store).2,
        writeFile.finish (.ok (write s.sandboxRoot req.path c store).1)) := by
  simp [writeFile, writeFile.lookup, lookupTouch_of_get_some _ _ _ _ hs, hc]

/-- **The loop and the calls agree**, entry by entry: the bulk loop over the decoded entries
ends with the store of the calls and with the errors of the failed calls. -/
theorem writeAll_writeFileCalls (clock : Nat → Instant) (id : String) (root : PathBuf) :
    ∀ (files : List WriteFileEntry) (i : Nat) (st : AppState) (store : σ)
      (errs : List WriteFileError),
      (∃ s, st.sessions.get id = some s ∧ s.sandboxRoot = root) →
      (∀ e ∈ files, ∃ c, b64.decode e.content = .ok c) →
      (files.filterMap (decodedEntry b64)).foldl (writeStep write root) (errs, store) =
        (errs ++ failedWrites files (writeFileCalls b64 write clock id i st files store).2.2,
          (writeFileCalls b64 write clock id i st files store).2.1)
  | [], _, _, _, _, _, _ => by simp [writeFileCalls, failedWrites]
  | e :: files, i, st, store, errs, ⟨s, hs, hroot⟩, hdec => by
    obtain ⟨c, hc⟩ := hdec e (List.mem_cons_self _ _)
    have hst : ∃ s', ({ st with sessions := st.sessions.modify id (Session.touch (clock i)) } :
        AppState).sessions.get id = some s' ∧ s'.sandboxRoot = root := by
      simp [hs, hroot]
    have ih := fun store' errs' => writeAll_writeFileCalls clock id root files (i + 1) _ store'
      errs' hst fun e' he' => hdec e' (List.mem_cons_of_mem _ he')
    simp only [writeFileCalls, writeFile_of_get_some b64 write st (clock i) id ⟨e.path, e.content⟩
      store hs hc, decodedEntry, hc, List.filterMap_cons, List.foldl_cons, hroot]
    cases hw : write root e.path c store with
    | mk r store' =>
      cases r with
      | error err =>
        simp only [writeStep, hw, ih, writeFile.finish, internal, failedWrites_cons_error,
          List.append_assoc, List.singleton_append]
      | ok u =>
        simp only [writeStep, hw, ih, writeFile.finish, failedWrites_cons_ok]

/-- The calls on a session that is not there all answer `NOT_FOUND` and write nothing. -/
lemma writeFileCalls_of_get_none (clock : Nat → Instant) (id : String) :
    ∀ (files : List WriteFileEntry) (i : Nat) (st : AppState) (store : σ),
      st.sessions.get id = none → (writeFileCalls b64 write clock id i st files store).2.1 = store
  | [], _, _, _, _ => rfl
  | e :: files, i, st, store, hs => by
    have h := writeFileCalls_of_get_none clock id files (i + 1) st store hs
    simp only [writeFileCalls, writeFile, writeFile.lookup, lookupTouch_of_get_none _ _ _ _ hs]
    exact h

/-- **Bulk write agrees with sequential writes.** For every list of entries, overlapping paths
included: when every content decodes, `write_files_bulk` leaves the store as the calls
`write_file(p₁, c₁), …, write_file(pₙ, cₙ)` in order do, and on a session that is there its
`errors` are the `(path, error)` of the calls whose write failed, in request order, with
`success` exactly when there is none; when an entry does not decode, the bulk call writes
nothing and, on a session that is there, answers `BAD_REQUEST` naming the first such entry. -/
theorem writeFilesBulk_eq_writeFile_calls (st : AppState) (clock : Nat → Instant) (id : String)
    (files : List WriteFileEntry) (store : σ) :
    ((∀ e ∈ files, ∃ c, b64.decode e.content = .ok c) →
        (writeFilesBulk b64 write st (clock 0) id ⟨files⟩ store).2.1 =
          (writeFileCalls b64 write clock id 0 st files store).2.1 ∧
        ((∃ s, st.sessions.get id = some s) →
          (writeFilesBulk b64 write st (clock 0) id ⟨files⟩ store).2.2 =
            .ok ⟨(failedWrites files (writeFileCalls b64 write clock id 0 st files store).2.2).isEmpty,
              failedWrites files (writeFileCalls b64 write clock id 0 st files store).2.2⟩)) ∧
    (∀ pre e post err, files = pre ++ e :: post →
        (∀ e' ∈ pre, ∃ c, b64.decode e'.content = .ok c) → b64.decode e.content = .error err →
        (writeFilesBulk b64 write st (clock 0) id ⟨files⟩ store).2.1 = store ∧
        ((∃ s, st.sessions.get id = some s) →
          (writeFilesBulk b64 write st (clock 0) id ⟨files⟩ store).2.2 =
            .error (StatusCode.badRequest, "Invalid base64 for " ++ e.path ++ ": " ++ err))) := by
  constructor
  · intro hdec
    cases hs : st.sessions.get id with
    | none =>
      simp only [writeFilesBulk, writeFilesBulk.lookup, lookupTouch_of_get_none _ _ _ _ hs,
        writeFileCalls_of_get_none b64 write clock id files 0 st store hs]
      simp
    | some s =>
      have h := writeAll_writeFileCalls b64 write clock id s.sandboxRoot files 0 st store []
        ⟨s, hs, rfl⟩ hdec
      simp only [writeFilesBulk, writeFilesBulk.lookup, lookupTouch_of_get_some _ _ _ _ hs,
        decodeAll_eq, foldlM_decodeStep_ok b64 files [] hdec, List.nil_append, writeAll_eq, h,
        Session.touch_sandboxRoot, writeFilesBulk.finish]
      simp
  · rintro pre e post err rfl hpre he
    have hbad := foldlM_decodeStep_error b64 e post he pre [] hpre
    cases hs : st.sessions.get id with
    | none =>
      simp [writeFilesBulk, writeFilesBulk.lookup, lookupTouch_of_get_none _ _ _ _ hs]
    | some s =>
      simp [writeFilesBulk, writeFilesBulk.lookup, lookupTouch_of_get_some _ _ _ _ hs, decodeAll_eq,
        hbad]

/-- A registry with the one session `"s"`, as `create_session` leaves it. -/
def oneSession : AppState :=
  (createSession AppState.new "s" ⟨.empty⟩ (.ok (.ok "/sandboxes/s")) 0 0).1

/-- A codec that decodes every content but `"!"`, to the codes of its characters. -/
def Base64.charCodes : Base64 :=
  ⟨fun c => if c = "!" then .error "invalid" else .ok (c.data.map fun ch => ch.toNat.toUInt8), fun _ => ""⟩

/-- A file store as the list of its writes, newest first, in which the path `"ro"` is read-only. -/
def storeWrite (_root : PathBuf) (path : String) (content : Bytes) (store : List (String × Bytes)) :
    Except String Unit × List (String × Bytes) :=
  if path = "ro" then (.error "read-only", store) else (.ok (), (path, content) :: store)

/-- Two writes of one path, with a failed write between them. -/
def bulkFiles : List WriteFileEntry := [⟨"a.txt", "hi"⟩, ⟨"ro", "x"⟩, ⟨"a.txt", "yo"⟩]

theorem writeFilesBulk_eq_writeFile_calls_oneSession :
    (writeFilesBulk Base64.charCodes storeWrite oneSession 0 "s" ⟨bulkFiles⟩ []).2.1 =
        (writeFileCalls Base64.charCodes storeWrite (fun _ => 0) "s" 0 oneSession bulkFiles []).2.1 ∧
      (writeFilesBulk Base64.charCodes storeWrite oneSession 0 "s" ⟨bulkFiles⟩ []).2.2 =
        .ok ⟨(failedWrites bulkFiles
            (writeFileCalls Base64.charCodes storeWrite (fun _ => 0) "s" 0 oneSession bulkFiles []).2.2).isEmpty,
          failedWrites bulkFiles
            (writeFileCalls Base64.charCodes storeWrite (fun _ => 0) "s" 0 oneSession bulkFiles []).2.2⟩ ∧
      (writeFilesBulk Base64.charCodes storeWrite oneSession 0 "s" ⟨[⟨"a.txt", "hi"⟩, ⟨"b", "!"⟩]⟩ []).2.1 = [] ∧
      (writeFilesBulk Base64.charCodes storeWrite oneSession 0 "s" ⟨[⟨"a.txt", "hi"⟩, ⟨"b", "!"⟩]⟩ []).2.2 =
        .error (StatusCode.badRequest, "Invalid base64 for " ++ "b" ++ ": " ++ "invalid") := by
  have hdec : ∀ e ∈ bulkFiles, ∃ c, Base64.charCodes.decode e.content = .ok c := by
    intro e he
    simp only [bulkFiles, List.mem_cons, List.mem_singleton, List.not_mem_nil, or_false] at he
    rcases he with rfl | rfl | rfl <;> exact ⟨_, rfl⟩
  have hs : ∃ s, oneSession.sessions.get "s" = some s := ⟨_, rfl⟩
  have hok := (writeFilesBulk_eq_writeFile_calls Base64.charCodes storeWrite oneSession (fun _ => 0) "s"
    bulkFiles []).1 hdec
  have hbad := (writeFilesBulk_eq_writeFile_calls Base64.charCodes storeWrite oneSession (fun _ => 0) "s"
    [⟨"a.txt", "hi"⟩, ⟨"b", "!"⟩] []).2 [⟨"a.txt", "hi"⟩] ⟨"b", "!"⟩ [] "invalid" rfl
    (fun e he => by rw [List.mem_singleton.1 he]; exact ⟨_, rfl⟩) rfl
  exact ⟨hok.1, hok.2 hs, hbad.1, hbad.2 hs⟩

end OpenComputer
