import CpaGateway.Lib.Fallible
import Mathlib.Data.Int.Notation
import Mathlib.Tactic.SplitIfs

/-! # The OAuth session of a Codex Credential

A session waits for one callback of the browser. The callback that claims the completion exchanges
the code and then completes the session or fails it. The expiry is applied when a call meets it; a
claim and a cancellation do so even while a callback owns the session (`ownership`).

The identity of the Credential and the digests of the state and the verifier are left out: no call
compares or changes them. -/

namespace CpaGateway.Control.CodexOAuth

open Lib.Fallible

inductive CodexOAuthSessionState
  | pending
  | complete
  | cancelled
  | expired
  | failed
  deriving DecidableEq

inductive CodexOAuthSessionError
  | invalidTime
  | randomUnavailable
  | expired
  | terminal
  deriving DecidableEq

structure CodexOAuthSession where
  transientState : List UInt8
  transientVerifier : List UInt8
  expiresAtMs : ℤ
  state : CodexOAuthSessionState
  failureClass : Option String
  completionClaimed : Bool
  deriving DecidableEq

def sessionTtlMs : ℤ := 600000

/-- A new session on random bytes, which the system may fail to supply. -/
def CodexOAuthSession.start (nowMs : ℤ) (state : Option (Vector UInt8 32))
    (verifier : Option (Vector UInt8 96)) : Except CodexOAuthSessionError CodexOAuthSession := do
  ensure (decide (nowMs + sessionTtlMs < 2 ^ 63)) .invalidTime
  let state ← okOr state .randomUnavailable
  let verifier ← okOr verifier .randomUnavailable
  return {
    transientState := state.toList
    transientVerifier := verifier.toList
    expiresAtMs := nowMs + sessionTtlMs
    state := .pending
    failureClass := none
    completionClaimed := false }

namespace CodexOAuthSession

variable (s : CodexOAuthSession) (nowMs : ℤ)

def clearTransientMaterial : CodexOAuthSession :=
  { s with transientState := [], transientVerifier := [] }

/-- The session in a terminal state. -/
def ended (state : CodexOAuthSessionState) : CodexOAuthSession :=
  { s with state := state }.clearTransientMaterial

def ensurePending : Except CodexOAuthSessionError Unit × CodexOAuthSession :=
  if s.state ≠ .pending then (.error .terminal, s)
  else if s.expiresAtMs ≤ nowMs then (.error .expired, s.ended .expired)
  else (.ok (), s)

def claimCompletion : Except CodexOAuthSessionError Unit × CodexOAuthSession :=
  match s.ensurePending nowMs with
  | (.error e, s) => (.error e, s)
  | (.ok (), s) =>
    if s.completionClaimed then (.error .terminal, s)
      else (.ok (), { s with completionClaimed := true })

/-- The time is not looked at: a claimed exchange may finish after the expiry. -/
def complete (_nowMs : ℤ) : Except CodexOAuthSessionError Unit × CodexOAuthSession :=
  if s.state ≠ .pending || !s.completionClaimed then (.error .terminal, s)
  else (.ok (), s.ended .complete)

def fail (failureClass : String) : Except CodexOAuthSessionError Unit × CodexOAuthSession :=
  if s.state ≠ .pending then (.error .terminal, s)
  else if !s.completionClaimed && s.expiresAtMs ≤ nowMs then (.error .expired, s.ended .expired)
  else (.ok (), { s with failureClass := some failureClass }.ended .failed)

def cancel : Except CodexOAuthSessionError Unit × CodexOAuthSession :=
  match s.ensurePending nowMs with
  | (.error e, s) => (.error e, s)
  | (.ok (), s) =>
    if s.completionClaimed then (.error .terminal, s) else (.ok (), s.ended .cancelled)

/-- A view shows the state, the expiry and the failure class of the session that it leaves. -/
def view : CodexOAuthSession :=
  if s.state = .pending && !s.completionClaimed &&
    s.expiresAtMs ≤ nowMs then s.ended .expired else s

end CodexOAuthSession

/-! ### Runs -/

inductive Call
  | claimCompletion (nowMs : ℤ)
  | complete (nowMs : ℤ)
  | fail (nowMs : ℤ) (failureClass : String)
  | cancel (nowMs : ℤ)
  | view (nowMs : ℤ)

def step (s : CodexOAuthSession) : Call → Except CodexOAuthSessionError Unit × CodexOAuthSession
  | .claimCompletion nowMs => s.claimCompletion nowMs
  | .complete nowMs => s.complete nowMs
  | .fail nowMs failureClass => s.fail nowMs failureClass
  | .cancel nowMs => s.cancel nowMs
  | .view nowMs => (.ok (), s.view nowMs)

def after (s : CodexOAuthSession) (calls : List Call) : CodexOAuthSession :=
  calls.foldl (fun s call => (step s call).2) s

/-- How many claims succeed. -/
def claims (s : CodexOAuthSession) : List Call → ℕ
  | [] => 0
  | .claimCompletion nowMs :: calls =>
    (if (s.claimCompletion nowMs).1.isOk then 1 else 0) + claims (s.claimCompletion nowMs).2 calls
  | call :: calls => claims (step s call).2 calls

variable {s : CodexOAuthSession}

section Steps

open CodexOAuthSession

end Steps

end CpaGateway.Control.CodexOAuth
