import OpenComputer.Map

/-!
# `state.rs`: the session record and the shared application state

* `Session` is the record the registry keeps for a session, field for field;
* `AppState` is the registry: the session table, the preview domain and the port counter;
* `AppState.allocatePort` is `next_port.fetch_add(1, Relaxed)` on an `AtomicU16`: it returns
  the counter and advances it modulo `2^16`.

Time is `Instant`, a reading of the monotonic clock in nanoseconds, and `Duration` a number of
nanoseconds; `durationSince` saturates at zero, as `Instant::duration_since` does.
-/

namespace OpenComputer

/-- A reading of the monotonic clock, in nanoseconds. -/
abbrev Instant := Nat

/-- A length of time, in nanoseconds. -/
abbrev Duration := Nat

/-- `Duration::from_secs(s)`. -/
def Duration.fromSecs (s : Nat) : Duration := s * 1000000000

/-- `Duration::as_secs()`: the whole seconds. -/
def Duration.asSecs (d : Duration) : Nat := d / 1000000000

/-- `now.duration_since(earlier)`, zero when `earlier` is later. -/
def durationSince (now earlier : Instant) : Duration := now - earlier

/-- A host path (`PathBuf`). -/
abbrev PathBuf := String

/-- An OS process id, as the service stores it (`u32`). -/
abbrev Pid := UInt32

/-- A TCP port (`u16`). -/
abbrev Port := UInt16

/-- An environment: `HashMap<String, String>`. -/
abbrev Env := HashMap String String

/-- `PORT_RANGE_START`: the first auto-assigned port. -/
def portRangeStart : UInt16 := 10000

/-- `SESSION_TTL_SECS`: the idle time after which the reaper removes a session. -/
def sessionTtlSecs : Nat := 300

/-- `SessionStatus`. -/
inductive SessionStatus
  | running
  | idle
  | terminating
deriving DecidableEq, Repr

/-- `format!("{:?}", status).to_lowercase()`, as the session listings print it. -/
def SessionStatus.lower : SessionStatus → String
  | .running => "running"
  | .idle => "idle"
  | .terminating => "terminating"

/-- `Session`: a sandbox session with its environment, working directory, timestamps, exposed
ports and background processes. -/
structure Session where
  id : String
  sandboxRoot : PathBuf
  env : Env
  cwd : String
  createdAt : Instant
  lastUsed : Instant
  previewUrl : Option String
  ports : List Port
  status : SessionStatus
  backgroundPids : List Pid
deriving DecidableEq

/-- `Sessions`: the session table. The `RwLock` around it is the atomicity of the registry's
steps (`OpenComputer.World`). -/
abbrev Sessions := HashMap String Session

/-- `AppState`. -/
structure AppState where
  sessions : Sessions
  previewDomain : Option String
  nextPort : UInt16

namespace AppState

/-- `AppState::new()`. -/
def new : AppState := ⟨.empty, none, portRangeStart⟩

/-- `AppState::with_preview_domain(preview_domain)`. -/
def withPreviewDomain (previewDomain : Option String) : AppState :=
  ⟨.empty, previewDomain, portRangeStart⟩

/-- `allocate_port`: `self.next_port.fetch_add(1, Ordering::Relaxed)`, the old value of the
counter and the state with the counter advanced (wrapping). -/
def allocatePort (st : AppState) : UInt16 × AppState :=
  (st.nextPort, { st with nextPort := st.nextPort + 1 })

@[simp] lemma allocatePort_sessions (st : AppState) :
    st.allocatePort.2.sessions = st.sessions := rfl

@[simp] lemma allocatePort_previewDomain (st : AppState) :
    st.allocatePort.2.previewDomain = st.previewDomain := rfl

end AppState

end OpenComputer
