import WebhookGuard.EnvFile.Load
import WebhookGuard.Proofs.Replay.ExactlyOnce
import WebhookGuard.Proofs.Replay.InFlight
import WebhookGuard.Proofs.Replay.Memory
import WebhookGuard.Proofs.Replay.SharedTable
import WebhookGuard.Proofs.Traffic.Rejected
import WebhookGuard.Proofs.Verifier.LeapSecond
import WebhookGuard.Proofs.Verifier.Verdict
import WebhookGuard.Receiver
import WebhookGuard.Settings.Basic
import WebhookGuard.Simulation
import WebhookGuard.Proofs.Store.Course
import WebhookGuard.Proofs.Store.Contention
import WebhookGuard.Proofs.Replay.Retry
import WebhookGuard.Proofs.Store.Precision
import WebhookGuard.Proofs.Store.Purging
import WebhookGuard.Proofs.Remote.Connection
import WebhookGuard.Proofs.Remote.Lifetime
import WebhookGuard.Proofs.Replay.KeyServer
import WebhookGuard.Proofs.Http.Request
import WebhookGuard.Proofs.Receiver.Answer
import WebhookGuard.Proofs.Receiver.Accounting
import WebhookGuard.Proofs.Headers.Reading
import WebhookGuard.Proofs.Http.Collected
import WebhookGuard.Proofs.Http.Framing
import WebhookGuard.Proofs.Timestamp.Digits
import WebhookGuard.Proofs.Timestamp.Unix
import WebhookGuard.Proofs.Time.Calendar
import WebhookGuard.Proofs.Timestamp.Stamp
import WebhookGuard.Proofs.Timestamp.Calendar
import WebhookGuard.Proofs.Receiver.Collector
import WebhookGuard.Proofs.Verifier.Log
import WebhookGuard.Proofs.Sweeper.Schedule
import WebhookGuard.Proofs.Timestamp.Accepted
import WebhookGuard.Proofs.Store.History
import WebhookGuard.Proofs.Verifier.Span
import WebhookGuard.Proofs.Settings.Startup
