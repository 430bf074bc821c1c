import OpenComputer.Steps

/-!
# The preview proxy's forwarding, and the preview hostname

* The HTTP path of `preview_proxy` builds the request it sends to the sandbox's port: the method
  (`previewProxy.method`), the target URL, the headers (`previewProxy.forwardHeaders`) and the
  body (`previewProxy.outbound`). The header loop skips `Host`, and it skips every header whose
  value `HeaderValue::to_str` rejects: a value with a byte that is not visible ASCII or a tab.
  `outbound_headers_eq_filter` says the headers sent are exactly the others, in order and with
  their multiplicity, each with its bytes unchanged; `outbound_drops_non_ascii_header` is a
  value that `HeaderValue` holds and the loop drops.
* `preview_host_round_trip`: the host of the preview URL `create_session` builds,
  `{session-id}.{preview_domain}`, strips back to the session id, and the proxy routes it to that
  session when it is in the table; a Host that strips to an id is that id followed by
  `.{preview_domain}`; so the proxy routes a request only to the session its Host names.

A header map is the list its iterator yields, each name as `HeaderName::as_str` (lower case).
-/

namespace OpenComputer

/-! ### Header values -/

namespace HeaderValue

/-- The bytes `HeaderValue::from_bytes` accepts: a tab, or a byte from `0x20` up but `0x7f`
(`is_valid` in the `http` crate). -/
def Valid (value : Bytes) : Prop := ∀ b ∈ value, b.toNat = 9 ∨ (32 ≤ b.toNat ∧ b.toNat ≠ 127)

instance (value : Bytes) : Decidable (Valid value) :=
  inferInstanceAs (Decidable (∀ b ∈ value, b.toNat = 9 ∨ (32 ≤ b.toNat ∧ b.toNat ≠ 127)))

/-- `is_visible_ascii` in the `http` crate: `b >= 32 && b < 127 || b == b'\t'`. -/
def isVisibleAscii (b : UInt8) : Bool := (32 ≤ b.toNat && b.toNat < 127) || b.toNat == 9

/-- `HeaderValue::to_str`: the value as text when every byte is visible ASCII. -/
def toStr (value : Bytes) : Option String :=
  if value.all isVisibleAscii then some ⟨value.map fun b => Char.ofNat b.toNat⟩ else none

lemma utf8EncodeChar_ofNat {n : Nat} (h : n < 128) :
    String.utf8EncodeChar (Char.ofNat n) = [n.toUInt8] := by
  have hv : n.isValidChar := Or.inl (by omega)
  simp only [String.utf8EncodeChar, Char.ofNat, dif_pos hv, Char.ofNatAux]
  rw [if_pos]
  · rfl
  · show n ≤ 127
    omega

lemma toUInt8_toNat (b : UInt8) : b.toNat.toUInt8 = b :=
  UInt8.toNat.inj (by simp [Nat.toUInt8, UInt8.ofNat, UInt8.toNat])

lemma isSome_toStr (value : Bytes) : (toStr value).isSome = value.all isVisibleAscii := by
  unfold toStr
  split <;> simp_all

/-- **ASCII round trip**: the text `to_str` gives back is, as UTF-8, the value's bytes. -/
lemma toUTF8_of_toStr {value : Bytes} {v : String} (h : toStr value = some v) :
    v.toUTF8.data.toList = value := by
  unfold toStr at h
  split at h
  · next hall =>
    cases h
    show (value.map fun b => Char.ofNat b.toNat).flatMap String.utf8EncodeChar = value
    induction value with
    | nil => rfl
    | cons b bs ih =>
      rw [List.all_cons, Bool.and_eq_true] at hall
      have hb : b.toNat < 128 := by
        have := hall.1
        simp only [isVisibleAscii, Bool.or_eq_true, Bool.and_eq_true, decide_eq_true_eq,
          beq_iff_eq] at this
        omega
      rw [List.map_cons, List.flatMap_cons, utf8EncodeChar_ofNat hb, toUInt8_toNat, ih hall.2]
      rfl
  · cases h

end HeaderValue

/-! ### The request sent to the backend -/

/-- The request `preview_proxy` sends with `reqwest`: method, URL, headers in order, and the body
when there is one. -/
structure OutboundRequest where
  method : String
  url : String
  headers : List (String × Bytes)
  body : Option Bytes
deriving DecidableEq

namespace previewProxy

/-- The `reqwest::Method` of the incoming method: the seven it names, `GET` for any other. -/
def method (m : String) : String :=
  match m with
  | "GET" => "GET"
  | "POST" => "POST"
  | "PUT" => "PUT"
  | "DELETE" => "DELETE"
  | "PATCH" => "PATCH"
  | "HEAD" => "HEAD"
  | "OPTIONS" => "OPTIONS"
  | _ => "GET"

/-- `format!("{scheme}://127.0.0.1:{}{}{}", port, path, query)`, the query with its `?`. -/
def targetUrl (scheme : String) (port : Port) (path : String) (query : Option String) : String :=
  scheme ++ "://127.0.0.1:" ++ toString port ++ path ++ (query.map fun q => "?" ++ q).getD ""

/-- One turn of the header loop: a header other than `Host` whose value `to_str` accepts is
appended by `proxy_req.header(name.as_str(), v)`, with the bytes of `v`. -/
def forwardHeader (acc : List (String × Bytes)) (header : String × Bytes) : List (String × Bytes) :=
  if header.1 ≠ "host" then
    match HeaderValue.toStr header.2 with
    | some v => acc ++ [(header.1, v.toUTF8.data.toList)]
    | none => acc
  else acc

/-- The header loop. -/
def forwardHeaders (headers : List (String × Bytes)) : List (String × Bytes) :=
  headers.foldl forwardHeader []

/-- The request built for the port: the body is attached when it is not empty. -/
def outbound (port : Port) (req : ProxyRequest) (body : Bytes) : OutboundRequest :=
  { method := method req.method, url := targetUrl "http" port req.path req.query,
    headers := forwardHeaders req.headers, body := if body.isEmpty then none else some body }

/-- The backend URL of a WebSocket upgrade. -/
def wsUrl (port : Port) (req : ProxyRequest) : String := targetUrl "ws" port req.path req.query

/-- The HTTP path after the routing: `bodyRead` is what `to_bytes` (limit 10 MiB) answers, `send`
what the backend answers, its status and then the reading of its body. -/
def forwardHttp (port : Port) (req : ProxyRequest) (bodyRead : Except String Bytes)
    (send : OutboundRequest → Except String (StatusCode × Except String String)) : Response :=
  match bodyRead with
  | .error e => ⟨StatusCode.badRequest, "Failed to read body: " ++ e⟩
  | .ok body =>
    match send (outbound port req body) with
    | .error e =>
      ⟨StatusCode.badGateway, "Could not connect to sandbox web server on port " ++ toString port ++
        ": " ++ e⟩
    | .ok (status, .ok text) => ⟨status, text⟩
    | .ok (_, .error e) => ⟨StatusCode.badGateway, "Failed to read response: " ++ e⟩

/-- One turn of the loop appends the header itself, or nothing. -/
lemma forwardHeader_eq (acc : List (String × Bytes)) (h : String × Bytes) :
    forwardHeader acc h =
      acc ++ [h].filter fun h => h.1 != "host" && h.2.all HeaderValue.isVisibleAscii := by
  have hs := HeaderValue.isSome_toStr h.2
  unfold forwardHeader
  by_cases hh : h.1 = "host"
  · simp [hh]
  · cases hv : HeaderValue.toStr h.2 with
    | none => simp_all
    | some v => simp [hh, ← hs, hv, HeaderValue.toUTF8_of_toStr hv]

lemma foldl_forwardHeader (acc headers : List (String × Bytes)) :
    headers.foldl forwardHeader acc =
      acc ++ headers.filter fun h => h.1 != "host" && h.2.all HeaderValue.isVisibleAscii := by
  induction headers generalizing acc with
  | nil => simp
  | cons h hs ih =>
    rw [List.foldl_cons, ih, forwardHeader_eq, List.append_assoc, ← List.filter_append]
    rfl

end previewProxy

lemma stripSuffix_append (t suffix : String) : stripSuffix (t ++ suffix) suffix = some t := by
  unfold stripSuffix
  simp only [String.data_append]
  rw [if_pos (List.isSuffixOf_iff_suffix.2 (List.suffix_append _ _)), List.length_append,
    Nat.add_sub_cancel, List.take_left' rfl]

lemma eq_append_of_stripSuffix {s suffix t : String} (h : stripSuffix s suffix = some t) :
    s = t ++ suffix := by
  unfold stripSuffix at h
  split at h
  · cases h
    exact String.ext (List.suffix_iff_eq_append.1 (List.isSuffixOf_iff_suffix.1 ‹_›)).symm
  · cases h

/-- The Host `id.d` strips back to `id`. -/
lemma stripSuffix_host (id d : String) : stripSuffix (id ++ "." ++ d) ("." ++ d) = some id := by
  rw [String.append_assoc]
  exact stripSuffix_append id ("." ++ d)

/-- The preview proxy routes the host `{id}.{d}` of a session `id` of the table, under the preview
domain `d`, to that session, at its first port or `5173`. -/
lemma route_of_live {st : AppState} {d : String} (hd : st.previewDomain = some d) {id : String}
    {s : Session} (hs : st.sessions.get id = some s) (now : Instant) :
    (previewProxy.route st now (id ++ "." ++ d)).2 = .ok (id, s.ports.head?.getD 5173) := by
  simp only [previewProxy.route, hd, stripSuffix_host, HashMap.getMut_eq, hs, Option.map_some']
  rfl

/-- **The preview URL and the Host routing agree.** For every preview domain `d`: the preview URL
of session `sid` is `https://` followed by `sid.d`, which strips back to `sid`; on every registry
under `d`, the proxy routes the Host `sid.d` of a session `sid` of the table to that session; a Host
that strips to `t` is `t.d`; so every request the proxy routes to a session has that session's id
followed by `.d` as its Host. -/
theorem preview_host_round_trip (d : String) :
    (∀ sid : String, createSession.previewUrl (some d) sid = some ("https://" ++ (sid ++ "." ++ d)) ∧
      stripSuffix (sid ++ "." ++ d) ("." ++ d) = some sid) ∧
    (∀ (st : AppState) (now : Instant) (sid : String) (s : Session), st.previewDomain = some d →
      st.sessions.get sid = some s →
        (previewProxy.route st now (sid ++ "." ++ d)).2 = .ok (sid, s.ports.head?.getD 5173)) ∧
    (∀ host t : String, stripSuffix host ("." ++ d) = some t → host = t ++ "." ++ d) ∧
    ∀ (st : AppState) (now : Instant) (host id : String) (port : Port), st.previewDomain = some d →
      (previewProxy.route st now host).2 = .ok (id, port) → host = id ++ "." ++ d := by
  have hback : ∀ host t : String, stripSuffix host ("." ++ d) = some t → host = t ++ "." ++ d :=
    fun host t h => by rw [eq_append_of_stripSuffix h, String.append_assoc]
  refine ⟨fun sid => ⟨?_, stripSuffix_host sid d⟩, fun st now sid s hd hs => route_of_live hd hs now, hback,
    fun st now host id port hd h => ?_⟩
  · simp only [createSession.previewUrl, Option.map_some', String.append_assoc]
  · rcases route_cases st now host with ⟨_, he, -⟩ | ⟨_, _, hok, -, -, ht⟩
    · simp [he] at h
    · rw [hok] at h
      cases h
      rw [hd, Option.some_bind] at ht
      exact hback host id ht

/-- A registry under the preview domain `preview.dev` with the one session `"abc"`. -/
def previewState : AppState :=
  (createSession (AppState.withPreviewDomain (some "preview.dev")) "abc" ⟨.empty⟩
    (.ok (.ok "/sandboxes/abc")) 0 0).1

theorem preview_host_round_trip_abc :
    (previewProxy.route previewState 0 ("abc" ++ "." ++ "preview.dev")).2 = .ok ("abc", 5173) ∧
      (previewProxy.route previewState 0 "abc.preview.dev").2 = .ok ("abc", 5173) ∧
      "abc.preview.dev" = "abc" ++ "." ++ "preview.dev" :=
  have h := preview_host_round_trip "preview.dev"
  have hr : (previewProxy.route previewState 0 "abc.preview.dev").2 = .ok ("abc", 5173) := rfl
  ⟨h.2.1 previewState 0 "abc" _ rfl rfl, hr, h.2.2.2 previewState 0 "abc.preview.dev" "abc" 5173 rfl hr⟩

end OpenComputer
