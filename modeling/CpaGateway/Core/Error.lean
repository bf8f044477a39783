import Mathlib.Order.Basic

/-! # Gateway errors

The transport-neutral error of the gateway: a code and the scope a remedy would act on, with the
stable code text and the safe message that the client-facing encoders write. -/

namespace CpaGateway.Core.Error

inductive GatewayErrorCode
  | clientRequestError
  | clientUnauthorized
  | routeNotFound
  | credentialUnavailable
  | credentialUnauthorized
  | credentialForbidden
  | credentialQuotaExceeded
  | egressRejected
  | egressUnavailable
  | providerRateLimited
  | providerTransient
  | providerPermanent
  | tokenCountUnsupported
  | upstreamProtocolError
  | streamTruncated
  | internalError
  | cancelled
  deriving DecidableEq

/-- The stable text of a code. -/
def GatewayErrorCode.asStr : GatewayErrorCode → String
  | clientRequestError => "ClientRequestError"
  | clientUnauthorized => "ClientUnauthorized"
  | routeNotFound => "RouteNotFound"
  | credentialUnavailable => "CredentialUnavailable"
  | credentialUnauthorized => "CredentialUnauthorized"
  | credentialForbidden => "CredentialForbidden"
  | credentialQuotaExceeded => "CredentialQuotaExceeded"
  | egressRejected => "EgressRejected"
  | egressUnavailable => "EgressUnavailable"
  | providerRateLimited => "ProviderRateLimited"
  | providerTransient => "ProviderTransient"
  | providerPermanent => "ProviderPermanent"
  | tokenCountUnsupported => "TokenCountUnsupported"
  | upstreamProtocolError => "UpstreamProtocolError"
  | streamTruncated => "StreamTruncated"
  | internalError => "InternalError"
  | cancelled => "Cancelled"

/-- The part of the system an error is about. -/
inductive ErrorScope
  | request
  | credential
  | account
  | model
  | quotaWindow
  | egressSession
  | egress
  | provider
  | stream
  | internal
  deriving DecidableEq

/-- A classified error. -/
structure GatewayError where
  code : GatewayErrorCode
  scope : ErrorScope
  deriving DecidableEq

/-- The message a client may see. -/
def GatewayError.safeMessage (e : GatewayError) : String :=
  match e.code with
  | .clientRequestError => "the client request is invalid"
  | .clientUnauthorized => "the client is not authorized"
  | .routeNotFound => "no route can serve this request"
  | .credentialUnavailable => "no credential is available"
  | .credentialUnauthorized => "the credential requires authorization"
  | .credentialForbidden => "the credential is forbidden"
  | .credentialQuotaExceeded => "the credential quota is exhausted"
  | .egressRejected => "the egress path was rejected"
  | .egressUnavailable => "the egress path is unavailable"
  | .providerRateLimited => "the provider rate limited the request"
  | .providerTransient => "the provider failed transiently"
  | .providerPermanent => "the provider returned a permanent failure"
  | .tokenCountUnsupported => "the selected route cannot accurately count tokens"
  | .upstreamProtocolError => "the upstream protocol was invalid"
  | .streamTruncated => "the stream ended before completion"
  | .internalError => "the gateway encountered an internal error"
  | .cancelled => "the request was cancelled"

/-- An event sequence that breaks the canonical lifecycle. -/
def streamProtocolError : GatewayError := ⟨.upstreamProtocolError, .stream⟩

/-- An event sequence that stops before its terminal event. -/
def streamTruncatedError : GatewayError := ⟨.streamTruncated, .stream⟩

/-- A broken invariant of the gateway itself. -/
def internalError : GatewayError := ⟨.internalError, .internal⟩

end CpaGateway.Core.Error
