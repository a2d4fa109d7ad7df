import WebhookGuard.Store.Kind
import WebhookGuard.TableFile.Opening

/-
  Backends. Which store a server uses is decided once, when it starts. A backend that needs
  sweeping has to be swept at some interval, and that is checked before anything is opened.
-/
namespace WebhookGuard

open WebhookGuard.Text

/-- The choice of a store. -/
inductive Backend where
  /-- The store of this process. -/
  | memory (sweepInterval : Duration)
  /-- A store on a server that drops expired keys itself. -/
  | remote (address keyStart : String)
  /-- A table in a file that processes on one host share, by its location. -/
  | table (path : String) (sweepInterval : Duration)
deriving DecidableEq, Repr

/-- What opening a store depends on beside the choice. -/
structure Surroundings where
  /-- The disk that paths lead into. -/
  disk : Disk := {}
  /-- The server that addresses lead to. -/
  server : Server := {}

namespace Backend

/-- The interval between sweeps unless the settings say otherwise. -/
def defaultSweepInterval : Duration := .ofSecs 60

/-- The choice of a server without settings. -/
def default : Backend := memory defaultSweepInterval

/-- The name of the backend. -/
def name : Backend → String
  | memory _ => "in-memory"
  | remote .. => "redis"
  | table .. => "sqlite"

/-- Whether other processes see the claims. -/
def isShared : Backend → Bool
  | memory _ => false
  | remote .. | table .. => true

/-- The interval between sweeps, where the backend needs them. -/
def sweepInterval? : Backend → Option Duration
  | memory interval | table _ interval => some interval
  | remote .. => none

/-- The description of the choice. -/
def description : Backend → String
  | memory interval => record "InMemory" [("sweep_interval", interval.text)] false
  | remote address keyStart =>
    record "Redis" [("url", quoted address), ("key_prefix", quoted keyStart)] false
  | table path interval =>
    record "Sqlite" [("path", quoted path), ("sweep_interval", interval.text)] false

/-- Opens the chosen store. -/
def build (b : Backend) (place : Surroundings) : Except ConfigError Store :=
  match b.sweepInterval?.bind DurationSetting.sweepInterval.zeroFault? with
  | some e => .error e
  | none =>
    match b with
    | memory _ => .ok (.memory .empty)
    | remote address keyStart =>
      (RemoteStore.open? address keyStart place.server).map Store.remote
    | table path _ =>
      match TableFile.openOn place.disk path with
      | .ok _ => .ok (.table .empty)
      | .error fault => .error (.backend (.table path fault))

/-- What opening the chosen store reports. -/
def buildEvents (b : Backend) (place : Surroundings) : List Event :=
  match b, b.build place with
  | table path _, .ok _ =>
    match TableFile.openOn place.disk path with
    | .ok disk => TableFile.openingEvents disk path
    | .error _ => []
  | _, _ => []

end Backend

end WebhookGuard
