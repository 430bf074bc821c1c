import OpenComputer.Api

/-!
# The WebSocket relay (`ws_proxy`)

After the backend connection, `ws_proxy` runs two loops under `tokio::select!`: `c2b` receives
from the client and sends to the backend, `b2c` the other way. Each loop receives a result; an
error, a `Close` or the end of the stream makes it return; any other message is translated
(`c2b.translate`, `b2c.translate`; `b2c` skips a raw `Frame`) and sent, and a failed send makes it
return. When one loop returns, `select!` drops the other, which may be waiting for a send.

A `Relay` records what its loop received and what its sends delivered. In every run of the proxy
(`WsProxy.Reachable`), each relay has delivered the translation of what it received, up to the
first `Close` or error, but for the one message it holds (`relay_delivers_translation`): the one
it is sending, the one whose send failed, or the one it was sending when it was dropped; and each
translation keeps the message's variant and payload (`SameMessage`). The message held when the
loop was dropped is never delivered (`dropped_relay_loses_message`).
-/

namespace OpenComputer

/-- A close frame: its code and reason. -/
structure CloseFrame where
  code : UInt16
  reason : String
deriving DecidableEq

/-- A message of axum's WebSocket, the client side. -/
inductive AxumMsg
  | text (t : String)
  | binary (b : Bytes)
  | ping (p : Bytes)
  | pong (p : Bytes)
  | close (frame : Option CloseFrame)
deriving DecidableEq

/-- A message of tungstenite's WebSocket, the backend side; `frame` is a raw frame. -/
inductive TungMsg
  | text (t : String)
  | binary (b : Bytes)
  | ping (p : Bytes)
  | pong (p : Bytes)
  | close (frame : Option CloseFrame)
  | frame (f : Bytes)
deriving DecidableEq

/-- What a loop does with a message it received. -/
inductive Verdict (β : Type)
  /-- translate it and send it -/
  | forward (m : β)
  /-- `return` -/
  | stop
  /-- `continue` -/
  | skip
deriving DecidableEq

/-- The `c2b` match: each data message to the same tungstenite variant, `Close` returns. -/
def c2b.translate : AxumMsg → Verdict TungMsg
  | .text t => .forward (.text t)
  | .binary b => .forward (.binary b)
  | .ping p => .forward (.ping p)
  | .pong p => .forward (.pong p)
  | .close _ => .stop

/-- The `b2c` match: each data message to the same axum variant, `Close` returns, any other
message (a raw frame) is skipped. -/
def b2c.translate : TungMsg → Verdict AxumMsg
  | .text t => .forward (.text t)
  | .binary b => .forward (.binary b)
  | .ping p => .forward (.ping p)
  | .pong p => .forward (.pong p)
  | .close _ => .stop
  | .frame _ => .skip

/-- An axum message and a tungstenite message of the same variant, with the same payload. -/
inductive SameMessage : AxumMsg → TungMsg → Prop
  | text (t : String) : SameMessage (.text t) (.text t)
  | binary (b : Bytes) : SameMessage (.binary b) (.binary b)
  | ping (p : Bytes) : SameMessage (.ping p) (.ping p)
  | pong (p : Bytes) : SameMessage (.pong p) (.pong p)

/-- Each translation keeps the variant and the payload. -/
lemma translate_same :
    (∀ m f, c2b.translate m = .forward f → SameMessage m f) ∧
      ∀ f m, b2c.translate f = .forward m → SameMessage m f := by
  refine ⟨fun m f h => ?_, fun f m h => ?_⟩
  · cases m <;> cases h <;> constructor
  · cases f <;> cases h <;> constructor

/-- A message `c2b` forwards comes back as itself through `b2c`, and the other way. -/
lemma translate_round_trip :
    (∀ m f, c2b.translate m = .forward f → b2c.translate f = .forward m) ∧
      ∀ f m, b2c.translate f = .forward m → c2b.translate m = .forward f := by
  refine ⟨fun m f h => ?_, fun f m h => ?_⟩
  · cases m <;> cases h <;> rfl
  · cases f <;> cases h <;> rfl

/-! ### One loop -/

/-- A receive error. -/
abbrev WsError := String

/-- Where a loop is. -/
inductive Relay.Phase (β : Type)
  /-- waiting for `rx.next()` -/
  | receiving
  /-- waiting for `tx.send(m)` -/
  | sending (m : β)
  /-- returned; `unsent` is the message whose send failed -/
  | returned (unsent : Option β)
  /-- dropped by `select!`; `held` is the message it was sending -/
  | dropped (held : Option β)

/-- A loop: where it is, the results `rx.next()` gave it, and the messages its sends delivered,
in order. -/
structure Relay (α β : Type) where
  phase : Relay.Phase β
  received : List (Except WsError α)
  sent : List β

namespace Relay

variable {α β : Type}

/-- A loop before its first receive. -/
def start : Relay α β := ⟨.receiving, [], []⟩

/-- The loop still runs: it receives, or it sends. -/
def Phase.Running : Phase β → Prop
  | .receiving | .sending _ => True
  | .returned _ | .dropped _ => False

/-- The message a loop holds and has not delivered. -/
def held : Phase β → List β
  | .receiving => []
  | .sending m => [m]
  | .returned u => u.toList
  | .dropped h => h.toList

/-- The loop has returned by itself. -/
def Returned (r : Relay α β) : Bool :=
  match r.phase with
  | .returned _ => true
  | _ => false

/-- `select!` drops the loop: a loop waiting keeps the message it was sending. -/
def drop (r : Relay α β) : Relay α β :=
  { r with phase := match r.phase with
      | .receiving => .dropped none
      | .sending m => .dropped (some m)
      | p => p }

@[simp] lemma drop_received (r : Relay α β) : r.drop.received = r.received := rfl

@[simp] lemma drop_sent (r : Relay α β) : r.drop.sent = r.sent := rfl

/-- The phase after receiving `m`. -/
def afterReceive (tr : α → Verdict β) (m : α) : Phase β :=
  match tr m with
  | .forward f => .sending f
  | .stop => .returned none
  | .skip => .receiving

/-- One step of `while let Some(msg) = rx.next().await { ... }`, as the socket answers. -/
inductive Step (tr : α → Verdict β) : Relay α β → Relay α β → Prop
  /-- the stream ended -/
  | ended (r : Relay α β) (h : r.phase = .receiving) : Step tr r { r with phase := .returned none }
  /-- a receive error -/
  | error (r : Relay α β) (e : WsError) (h : r.phase = .receiving) :
      Step tr r { r with phase := .returned none, received := r.received ++ [.error e] }
  /-- a message -/
  | message (r : Relay α β) (m : α) (h : r.phase = .receiving) :
      Step tr r { r with phase := afterReceive tr m, received := r.received ++ [.ok m] }
  /-- the send delivered the message -/
  | sent (r : Relay α β) (m : β) (h : r.phase = .sending m) :
      Step tr r { r with phase := .receiving, sent := r.sent ++ [m] }
  /-- the send failed -/
  | failed (r : Relay α β) (m : β) (h : r.phase = .sending m) :
      Step tr r { r with phase := .returned (some m) }

/-- The translation of received results, up to the first `Close` or error. -/
def relayed (tr : α → Verdict β) : List (Except WsError α) → List β
  | [] => []
  | .error _ :: _ => []
  | .ok m :: rs =>
    match tr m with
    | .forward f => f :: relayed tr rs
    | .stop => []
    | .skip => relayed tr rs

/-- No result so far stops the loop. -/
def Open (tr : α → Verdict β) (rs : List (Except WsError α)) : Prop :=
  ∀ x ∈ rs, ∃ m, x = .ok m ∧ tr m ≠ .stop

variable {tr : α → Verdict β}

lemma relayed_append {rs : List (Except WsError α)} (ho : Open tr rs) (rs' : List (Except WsError α)) :
    relayed tr (rs ++ rs') = relayed tr rs ++ relayed tr rs' := by
  induction rs with
  | nil => rfl
  | cons x rs ih =>
    obtain ⟨m, rfl, hm⟩ := ho x (List.mem_cons_self _ _)
    have ih := ih fun y hy => ho y (List.mem_cons_of_mem _ hy)
    cases h : tr m with
    | forward f => simp only [List.cons_append, relayed, h, List.append_eq, ih]
    | stop => exact absurd h hm
    | skip => simp only [List.cons_append, relayed, h, List.append_eq, ih]

/-- Everything the relay yields is the translation of a message it received. -/
lemma mem_relayed {f : β} {rs : List (Except WsError α)} (h : f ∈ relayed tr rs) :
    ∃ m, tr m = .forward f := by
  induction rs with
  | nil => cases h
  | cons x rs ih =>
    rcases x with _ | m
    · cases h
    · cases hm : tr m with
      | forward f' =>
        simp only [relayed, hm, List.mem_cons] at h
        rcases h with rfl | h
        · exact ⟨m, hm⟩
        · exact ih h
      | stop => simp only [relayed, hm] at h; cases h
      | skip => simp only [relayed, hm] at h; exact ih h

/-- What every loop keeps: it delivered the translation of what it received but for the message it
holds, and while it still runs, nothing it received stopped it. -/
structure Inv (tr : α → Verdict β) (r : Relay α β) : Prop where
  delivered : relayed tr r.received = r.sent ++ held r.phase
  running_open : r.phase.Running → Open tr r.received

lemma Inv.start : (start : Relay α β).Inv tr :=
  ⟨rfl, fun _ _ h => nomatch h⟩

/-- **One step keeps the invariant.** -/
lemma Inv.step {r r' : Relay α β} (hi : r.Inv tr) (h : Step tr r r') : r'.Inv tr := by
  cases h with
  | ended hr => exact ⟨by rw [hi.delivered, hr]; rfl, nofun⟩
  | error e hr =>
    refine ⟨?_, nofun⟩
    rw [relayed_append (hi.running_open (hr ▸ trivial)), hi.delivered, hr]
    simp [held, relayed]
  | message m hr =>
    have ho := hi.running_open (hr ▸ trivial)
    refine ⟨?_, fun h => ?_⟩
    · rw [relayed_append ho, hi.delivered, hr]
      cases h : tr m <;> simp [held, relayed, afterReceive, h]
    · intro x hx
      rcases List.mem_append.1 hx with hx | hx
      · exact ho x hx
      · refine ⟨m, List.mem_singleton.1 hx, fun hm => ?_⟩
        simp only [afterReceive, hm] at h
        exact h
  | sent m hr =>
    exact ⟨by rw [hi.delivered, hr]; simp [held], fun _ => hi.running_open (hr ▸ trivial)⟩
  | failed m hr => exact ⟨by rw [hi.delivered, hr]; rfl, nofun⟩

/-- Dropping a loop keeps the invariant: the message it was sending is now the one it holds. -/
lemma Inv.drop {r : Relay α β} (hi : r.Inv tr) : r.drop.Inv tr := by
  refine ⟨?_, ?_⟩
  · rw [drop_received, hi.delivered, drop_sent]
    unfold Relay.drop
    cases r.phase <;> rfl
  · unfold Relay.drop
    cases r.phase <;> exact nofun

end Relay

/-! ### The two loops under `select!` -/

/-- `ws_proxy`: connecting to the backend, relaying, or finished. -/
inductive WsProxy.Status
  | connecting
  | relaying
  | closed
deriving DecidableEq

/-- `ws_proxy` with its two loops. -/
structure WsProxy where
  status : WsProxy.Status
  c2b : Relay AxumMsg TungMsg
  b2c : Relay TungMsg AxumMsg

namespace WsProxy

/-- The upgrade handed the client socket to `ws_proxy`. -/
def init : WsProxy := ⟨.connecting, .start, .start⟩

/-- When one loop returns, `select!` drops the other and `ws_proxy` ends. -/
inductive Step : WsProxy → WsProxy → Prop
  /-- `connect_async` succeeded: both loops start -/
  | connected (s : WsProxy) (h : s.status = .connecting) : Step s { s with status := .relaying }
  /-- `connect_async` failed: `ws_proxy` returns -/
  | connectFailed (s : WsProxy) (h : s.status = .connecting) : Step s { s with status := .closed }
  /-- a step of `c2b` -/
  | c2b (s : WsProxy) (r : Relay AxumMsg TungMsg) (h : s.status = .relaying)
      (hr : Relay.Step c2b.translate s.c2b r) :
      Step s (if r.Returned then { s with status := .closed, c2b := r, b2c := s.b2c.drop }
        else { s with c2b := r })
  /-- a step of `b2c` -/
  | b2c (s : WsProxy) (r : Relay TungMsg AxumMsg) (h : s.status = .relaying)
      (hr : Relay.Step b2c.translate s.b2c r) :
      Step s (if r.Returned then { s with status := .closed, c2b := s.c2b.drop, b2c := r }
        else { s with b2c := r })

/-- The states of `ws_proxy` from the upgrade, in any interleaving of its two loops. -/
inductive Reachable : WsProxy → Prop
  | init : Reachable init
  | step {s s' : WsProxy} : Reachable s → Step s s' → Reachable s'

/-- Both loops keep their invariant in every reachable state. -/
lemma Reachable.inv {s : WsProxy} (hs : s.Reachable) :
    s.c2b.Inv c2b.translate ∧ s.b2c.Inv b2c.translate := by
  induction hs with
  | init => exact ⟨Relay.Inv.start, Relay.Inv.start⟩
  | step _ h ih =>
    cases h with
    | connected | connectFailed => exact ih
    | c2b r _ hr =>
      split
      · exact ⟨ih.1.step hr, ih.2.drop⟩
      · exact ⟨ih.1.step hr, ih.2⟩
    | b2c r _ hr =>
      split
      · exact ⟨ih.1.drop, ih.2.step hr⟩
      · exact ⟨ih.1, ih.2.step hr⟩

end WsProxy

/-- **Each direction delivers the translation of what it received.** In every interleaving of the
two loops, each loop has delivered, in order, the translation of the results it received up to
the first `Close` or error (`b2c` skipping raw frames), but for the one message it holds: the one
it is sending, the one whose send failed, or the one it was sending when `select!` dropped it.
Each translation keeps the variant (text, binary, ping, pong) and the payload, and each undoes
the other. -/
theorem relay_delivers_translation {s : WsProxy} (hs : s.Reachable) :
    Relay.relayed c2b.translate s.c2b.received = s.c2b.sent ++ Relay.held s.c2b.phase ∧
      Relay.relayed b2c.translate s.b2c.received = s.b2c.sent ++ Relay.held s.b2c.phase ∧
      (∀ m f, c2b.translate m = .forward f → SameMessage m f) ∧
      (∀ f m, b2c.translate f = .forward m → SameMessage m f) ∧
      (∀ m f, c2b.translate m = .forward f → b2c.translate f = .forward m) ∧
      ∀ f m, b2c.translate f = .forward m → c2b.translate m = .forward f :=
  ⟨hs.inv.1.delivered, hs.inv.2.delivered, translate_same.1, translate_same.2, translate_round_trip⟩

/-- The client sends `hi`; while `c2b` sends it on, the backend closes: `b2c` returns and `select!`
drops `c2b` with `hi` unsent. -/
def droppedProxy : WsProxy :=
  ⟨.closed, ⟨.dropped (some (.text "hi")), [.ok (.text "hi")], []⟩,
    ⟨.returned none, [.ok (.close none)], []⟩⟩

lemma droppedProxy_reachable : droppedProxy.Reachable :=
  let connected : WsProxy := ⟨.relaying, .start, .start⟩
  let sending : WsProxy := { connected with c2b := ⟨.sending (.text "hi"), [.ok (.text "hi")], []⟩ }
  have h : sending.Reachable :=
    .step (.step .init (.connected _ rfl)) (.c2b connected _ rfl (.message _ (AxumMsg.text "hi") rfl))
  .step h (.b2c sending _ rfl (.message _ (TungMsg.close none) rfl))

theorem relay_delivers_translation_droppedProxy :
    droppedProxy.Reachable ∧
      Relay.relayed c2b.translate droppedProxy.c2b.received =
        droppedProxy.c2b.sent ++ Relay.held droppedProxy.c2b.phase :=
  ⟨droppedProxy_reachable, (relay_delivers_translation droppedProxy_reachable).1⟩

/-- A message `c2b` received and was sending when `b2c` ended is never delivered, though no Close,
receive error or failed send came before it: the proxy has closed (no step leaves `closed`), and
nothing `c2b` sent reached the backend. -/
theorem dropped_relay_loses_message :
    droppedProxy.Reachable ∧ droppedProxy.status = .closed ∧
      droppedProxy.c2b.received = [.ok (.text "hi")] ∧ droppedProxy.c2b.sent = [] ∧
      Relay.relayed c2b.translate droppedProxy.c2b.received = [.text "hi"] :=
  ⟨droppedProxy_reachable, rfl, rfl, rfl, rfl⟩

/-- **No `Close` crosses the proxy.** In every run of `ws_proxy`, nothing `c2b` has delivered to the
backend or holds is a `Close` or a raw frame, and nothing `b2c` has delivered to the client or holds
is a `Close`: a `Close` ends its relay without being passed on, so the other side sees its
connection dropped without a closing handshake. -/
theorem close_never_relayed {s : WsProxy} (hs : s.Reachable) :
    (∀ m ∈ s.c2b.sent ++ Relay.held s.c2b.phase, (∀ f, m ≠ .close f) ∧ ∀ b, m ≠ .frame b) ∧
      ∀ m ∈ s.b2c.sent ++ Relay.held s.b2c.phase, ∀ f, m ≠ .close f := by
  refine ⟨fun m hm => ?_, fun m hm => ?_⟩
  · rw [← hs.inv.1.delivered] at hm
    obtain ⟨a, ha⟩ := Relay.mem_relayed hm
    cases a <;> cases ha <;> exact ⟨nofun, nofun⟩
  · rw [← hs.inv.2.delivered] at hm
    obtain ⟨a, ha⟩ := Relay.mem_relayed hm
    cases a <;> cases ha <;> exact nofun

theorem close_never_relayed_droppedProxy :
    droppedProxy.Reachable ∧
      (∀ m ∈ droppedProxy.c2b.sent ++ Relay.held droppedProxy.c2b.phase,
          (∀ f, m ≠ .close f) ∧ ∀ b, m ≠ .frame b) ∧
        ∀ m ∈ droppedProxy.b2c.sent ++ Relay.held droppedProxy.b2c.phase, ∀ f, m ≠ .close f :=
  ⟨droppedProxy_reachable, close_never_relayed droppedProxy_reachable⟩

end OpenComputer
