import CpaGateway.Core.Error
import CpaGateway.Core.Identity
import Mathlib.Data.Int.Notation

/-! # Attempt events

What the gateway reports about one invocation of an Attempt driver, once its outcome is known. -/

namespace CpaGateway.Core.GatewayEvent

open Core.Error Core.Identity

inductive AttemptOutcome
  | succeeded
  | failed (error : GatewayError)
  deriving DecidableEq

inductive AttemptRetryDecision
  | completed
  | retryEligible
  | nonRetryable
  | retryClosed
  | cancelled
  | infrastructureFailure
  deriving DecidableEq

/-- The length of the request's identifier keeps the parts of the text apart. -/
def AttemptId.fromRequestSequence (requestId : RequestId) (attemptNumber : ℕ) : AttemptId where
  asStr := "attempt:" ++ toString requestId.asStr.utf8ByteSize ++ ":" ++ requestId.asStr ++ ":" ++
    toString attemptNumber
  nonempty := by simp [String.append_eq_empty_iff]

structure AttemptEvent where
  requestId : RequestId
  attemptId : AttemptId
  attemptNumber : ℕ
  routeId : RouteId
  routeCandidateId : RouteCandidateId
  credentialId : CredentialId
  endpointId : EndpointId
  upstreamId : UpstreamId
  upstreamModel : String
  startedAtMs : ℤ
  endedAtMs : ℤ
  outcome : AttemptOutcome
  retryDecision : AttemptRetryDecision
  deriving DecidableEq

def AttemptEvent.new (requestId : RequestId) (attemptNumber : ℕ) (routeId : RouteId)
    (routeCandidateId : RouteCandidateId) (credentialId : CredentialId) (endpointId : EndpointId)
    (upstreamId : UpstreamId) (upstreamModel : String) (startedAtMs endedAtMs : ℤ)
    (outcome : AttemptOutcome) (retryDecision : AttemptRetryDecision) : AttemptEvent where
  requestId := requestId
  attemptId := AttemptId.fromRequestSequence requestId attemptNumber
  attemptNumber := attemptNumber
  routeId := routeId
  routeCandidateId := routeCandidateId
  credentialId := credentialId
  endpointId := endpointId
  upstreamId := upstreamId
  upstreamModel := upstreamModel
  startedAtMs := startedAtMs
  endedAtMs := endedAtMs
  outcome := outcome
  retryDecision := retryDecision

end CpaGateway.Core.GatewayEvent
