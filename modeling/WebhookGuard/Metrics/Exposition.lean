import WebhookGuard.Metrics.Basic

/-
  The counters as text, in the form that collectors read: for each family a line of help, a line
  with its type, and a line for each sample. A verdict that was never counted has no sample, and a
  family without samples is left out.
-/
namespace WebhookGuard

namespace Metrics

/-- The type of an exposition. -/
def expositionType : String := "text/plain; version=0.0.4"

/-- The two lines in front of the samples of a family. -/
def heading (family help type : String) : List String :=
  ["# HELP " ++ family ++ " " ++ help, "# TYPE " ++ family ++ " " ++ type]

/-- The line of a sample with one label. -/
def sample (family label value number : String) : String :=
  family ++ "\x7b" ++ label ++ "=\"" ++ value ++ "\"\x7d " ++ number

/-- The family of the verdicts. -/
def verdictFamily : String := "swish_webhook_verifications_total"

/-- The lines for the verdicts that were counted. -/
def verdictLines (t : Tally) : List String :=
  let samples := (Verdict.all.filter fun v => 0 < t.count v).map fun v =>
    sample verdictFamily "result" v.label (toString (t.count v))
  if samples.isEmpty then []
  else heading verdictFamily "Webhook verification outcomes" "counter" ++ samples

/-- The family of the latencies. -/
def latencyFamily : String := "swish_webhook_verify_duration_seconds"

/-- A duration as a decimal number of seconds. -/
def seconds (d : Duration) : String := d.inUnit 9 ""

/-- The lines for the latencies. -/
def latencyLines (h : Histogram) : List String :=
  let bucket (bound : String) (n : Nat) : String :=
    sample (latencyFamily ++ "_bucket") "le" bound (toString n)
  heading latencyFamily "Webhook verification latency in seconds, including the nonce claim"
      "histogram" ++
    h.within.map (fun (bound, n) => bucket (seconds bound) n) ++
    [ bucket "+Inf" h.count, latencyFamily ++ "_sum " ++ seconds h.sum,
      latencyFamily ++ "_count " ++ toString h.count ]

/-- The lines of an exposition. -/
def lines (m : Metrics) : List String := verdictLines m.verdicts ++ latencyLines m.latency

/-- The exposition. -/
def exposition (m : Metrics) : String := String.join (m.lines.map (· ++ "\n"))

end Metrics

end WebhookGuard
