import OpenComputer.State

/-!
# The wire types of `http_server.rs`, and what the handlers use of `sandbox`

The request and response bodies of the handlers, field for field, with the `serde` defaults of
the requests. The module `sandbox` is not among the sources: `RunConfig` is the record the
handlers build, and `RunResult` and `SandboxFileEntry` are what they pass on, as the spec
describes them. The base64 engine is a collaborator, named by its two functions in `Base64`.

A blocking task is awaited as `spawn_blocking(f).await`; its outcome is a `Joined` value: the
`JoinError` text when the task did not complete, or what `f` returned.
-/

namespace OpenComputer

/-- A byte string (`Vec<u8>`). -/
abbrev Bytes := List UInt8

/-- An HTTP status code. -/
abbrev StatusCode := Nat

namespace StatusCode

/-- `StatusCode::OK`. -/
def ok : StatusCode := 200
/-- `StatusCode::NO_CONTENT`. -/
def noContent : StatusCode := 204
/-- `StatusCode::BAD_REQUEST`. -/
def badRequest : StatusCode := 400
/-- `StatusCode::NOT_FOUND`. -/
def notFound : StatusCode := 404
/-- `StatusCode::INTERNAL_SERVER_ERROR`. -/
def internalServerError : StatusCode := 500
/-- `StatusCode::BAD_GATEWAY`. -/
def badGateway : StatusCode := 502

end StatusCode

/-- The error of the handlers that answer `(StatusCode, String)`. -/
abbrev HandlerError := StatusCode × String

/-- `(StatusCode::INTERNAL_SERVER_ERROR, e)`. -/
def internal (e : String) : HandlerError := (StatusCode.internalServerError, e)

/-- `(StatusCode::NOT_FOUND, "Session not found".to_string())`. -/
def sessionNotFound : HandlerError := (StatusCode.notFound, "Session not found")

/-- The outcome of `spawn_blocking(f).await`: a `JoinError`'s text, or the value of `f`. -/
abbrev Joined (α : Type) := Except String α

/-! ### `sandbox` -/

/-- `RunConfig`: what a run in a sandbox is given. -/
structure RunConfig where
  command : List String
  timeMs : Nat
  memKb : Nat
  fsizeKb : Nat
  nofile : Nat
  env : Env
  cwd : String
deriving DecidableEq

/-- Modelled from the spec: `RunResult`, the result of a foreground run (its exit code or
signal, and its output). -/
structure RunResult where
  exitCode : Option Int
  signal : Option Int
  stdout : Bytes
  stderr : Bytes
deriving DecidableEq

/-- `SandboxFileEntry`, an entry of a directory listing. -/
structure SandboxFileEntry where
  name : String
  path : String
  isDirectory : Bool
  size : Nat
deriving DecidableEq

/-- The base64 engine (`base64::engine::general_purpose::STANDARD`): `decode` fails with the
text of its `DecodeError`. -/
structure Base64 where
  decode : String → Except String Bytes
  encode : Bytes → String

/-! ### Requests and responses -/

/-- `CreateSessionRequest` (`env` defaults to empty). -/
structure CreateSessionRequest where
  env : Env
deriving DecidableEq

/-- `CreateSessionResponse`. -/
structure CreateSessionResponse where
  sessionId : String
  previewUrl : Option String
deriving DecidableEq

/-- `RunRequest`. -/
structure RunRequest where
  command : List String
  time : Nat
  mem : Nat
  fsize : Nat
  nofile : Nat
  env : Env
  cwd : String
deriving DecidableEq

/-- `default_time()`. -/
def defaultTime : Nat := 300000
/-- `default_mem()`. -/
def defaultMem : Nat := 2097152
/-- `default_nofile()`. -/
def defaultNofile : Nat := 256
/-- `default_fsize()`. -/
def defaultFsize : Nat := 1048576
/-- `default_cwd()`. -/
def defaultCwd : String := "/"

/-- `SessionInfo`, a session as the listings show it. -/
structure SessionInfo where
  id : String
  env : Env
  cwd : String
  ageSecs : Nat
  idleSecs : Nat
  previewUrl : Option String
  ports : List Port
  status : String
deriving DecidableEq

/-- `WriteFileRequest` (`content` in base64). -/
structure WriteFileRequest where
  path : String
  content : String
deriving DecidableEq

/-- `WriteFileResponse`. -/
structure WriteFileResponse where
  success : Bool
deriving DecidableEq

/-- `WriteFileEntry` (`content` in base64). -/
structure WriteFileEntry where
  path : String
  content : String
deriving DecidableEq

/-- `WriteFilesRequest`. -/
structure WriteFilesRequest where
  files : List WriteFileEntry
deriving DecidableEq

/-- `WriteFileError`. -/
structure WriteFileError where
  path : String
  error : String
deriving DecidableEq

/-- `WriteFilesResponse`. -/
structure WriteFilesResponse where
  success : Bool
  errors : List WriteFileError
deriving DecidableEq

/-- `ReadFileQuery`. -/
structure ReadFileQuery where
  path : String
deriving DecidableEq

/-- `ReadFileResponse` (`content` in base64). -/
structure ReadFileResponse where
  content : String
deriving DecidableEq

/-- `ListFilesQuery`. -/
structure ListFilesQuery where
  path : String
deriving DecidableEq

/-- `FileEntry`. -/
structure FileEntry where
  name : String
  path : String
  isDirectory : Bool
  size : Nat
deriving DecidableEq

/-- `ListFilesResponse`. -/
structure ListFilesResponse where
  files : List FileEntry
deriving DecidableEq

/-- `BackgroundRunRequest`. -/
structure BackgroundRunRequest where
  command : List String
  port : Port
  env : Env
  cwd : String
deriving DecidableEq

/-- `default_port()`. -/
def defaultPort : Port := 5173

/-- `BackgroundRunResponse`. -/
structure BackgroundRunResponse where
  pid : Pid
  port : Port
  previewUrl : Option String
deriving DecidableEq

/-- `SetEnvRequest`. -/
structure SetEnvRequest where
  env : Env
deriving DecidableEq

/-- `SetCwdRequest`. -/
structure SetCwdRequest where
  cwd : String
deriving DecidableEq

/-- The body `kill_background` answers: `{"killed": killed, "total": pids.len()}`. -/
structure KillBackgroundResponse where
  killed : List Pid
  total : Nat
deriving DecidableEq

/-- `BackgroundPidStatus`. -/
structure BackgroundPidStatus where
  pid : Pid
  alive : Bool
deriving DecidableEq

/-- `BackgroundStatusResponse`. -/
structure BackgroundStatusResponse where
  pids : List BackgroundPidStatus
  log : String
deriving DecidableEq

/-- A request that reaches the preview proxy: its method, path, query and headers. -/
structure ProxyRequest where
  method : String
  path : String
  query : Option String
  headers : List (String × Bytes)
  body : Bytes
deriving DecidableEq

/-- A response of the preview proxy: its status and body. -/
structure Response where
  status : StatusCode
  body : String
deriving DecidableEq

end OpenComputer
