import MediaMonitor.Number.Duration

/-!
# Retries

How often a request may be tried, and how long to wait before each further attempt: the base delay,
doubled with each attempt as long as it stays below the greatest delay.
-/

namespace MediaMonitor.Http

/-- A policy of retries. -/
structure RetryPolicy where
  maxAttempts : UInt32 := 3
  baseDelay : Duration := .ofMillis 100
  maxDelay : Duration := .ofSeconds 30
  exponential : Bool := true

namespace RetryPolicy

/-- The policy of one attempt. -/
def noRetry : RetryPolicy := { maxAttempts := 1 }

/-- The factor of an attempt, counted from 1, which stops at the greatest number of 32 bits. -/
def factor (attempt : UInt32) : Nat :=
  let n := attempt.toNat - 1
  if n < 32 then Nat.pow 2 n else UInt32.size - 1

/-- The delay before an attempt. -/
def delayFor (p : RetryPolicy) (attempt : UInt32) : Duration :=
  if p.exponential then (p.baseDelay.scale (factor attempt)).least p.maxDelay else p.baseDelay

end RetryPolicy

end MediaMonitor.Http
