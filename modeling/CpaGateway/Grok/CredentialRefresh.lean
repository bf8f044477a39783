import CpaGateway.Core.Identity
import CpaGateway.Core.Sse

/-! # The refresh of Grok Build credentials

`refreshIfExpired` returns the stored credential of a key while it has not expired. Else one caller
refreshes it by OAuth and the others wait for that flight. The slot of a key is behind a lock; a
caller holds it while it decides what to do next, the load of the credential included, and not
during the refresh. Between these steps callers interleave in any way, and other processes swap the
stored credential. -/

namespace CpaGateway.Grok.CredentialRefresh

open Core.Identity Lib.Fallible

/-! ### Credentials -/

def maxRuntimeIdBytes : ℕ := 128

def isRuntimeIdentityComponent (value : String) : Bool :=
  Core.Sse.trim value != "" && value.utf8ByteSize ≤ maxRuntimeIdBytes

structure GrokBuildCredentialKey where
  configVersionId : ConfigVersionId
  credentialId : CredentialId
  configVersionValid : isRuntimeIdentityComponent configVersionId.asStr = true
  credentialValid : isRuntimeIdentityComponent credentialId.asStr = true
  deriving DecidableEq

structure GrokBuildCredential where
  accessToken : String
  refreshToken : String
  expiresAtMs : ℤ
  clientId : String
  scope : String
  deriving DecidableEq

def GrokBuildCredential.isExpiredAt (credential : GrokBuildCredential) (nowMs : ℤ) : Bool :=
  credential.expiresAtMs ≤ nowMs

structure GrokBuildCredentialVersion where
  credential : GrokBuildCredential
  revision : ℕ
  deriving DecidableEq

inductive GrokBuildOAuthError
  | inputTooLarge
  | invalidJson
  | unexpectedField
  | missingField
  | invalidField
  | ambiguousExpiration
  | unsupportedTokenType
  | invalidTimestamp
  | invalidPersistedCredential
  | invalidHttpResponse
  | invalidDeviceAuthorizationResponse
  | invalidTokenResponse
  | pollingTooSoon
  | deviceFlowCompleted
  | credentialClientMismatch
  | credentialIssuerMismatch
  | transportUnavailable
  deriving DecidableEq

inductive GrokBuildCredentialPersistenceError
  | storeUnavailable
  | invalidPersistedState
  | secretStoreFailure
  | revisionOverflow
  | invalidAssociatedData
  deriving DecidableEq

inductive GrokBuildCredentialRefreshError
  | missingCredentialState
  | persistence (error : GrokBuildCredentialPersistenceError)
  | oauth (error : GrokBuildOAuthError)
  | refreshLockTimedOut
  | concurrentCredentialStateChanged
  deriving DecidableEq

inductive GrokBuildCredentialRefreshOutcome
  | current (version : GrokBuildCredentialVersion)
  | refreshed (version : GrokBuildCredentialVersion)
  | superseded (version : GrokBuildCredentialVersion)
  deriving DecidableEq

def GrokBuildCredentialRefreshOutcome.version :
    GrokBuildCredentialRefreshOutcome → GrokBuildCredentialVersion
  | current version | refreshed version | superseded version => version

abbrev RefreshResult := Except GrokBuildCredentialRefreshError GrokBuildCredentialRefreshOutcome

/-! ### The OAuth flow -/

def maxTokenLifetimeSeconds : ℕ := 366 * 24 * 60 * 60

def maxI64 : ℤ := 2 ^ 63 - 1

/-- The fields of a token response that was read. -/
structure TokenObject where
  accessToken : String
  refreshToken : String
  expiresIn : ℕ
  clientId : Option String
  scope : Option String

/-- What the transport answers, as far as its response can be read. -/
inductive Response
  | unavailable
  | refused (error : GrokBuildOAuthError)
  | granted (object : TokenObject)

def credentialFromObject (object : TokenObject) (observedAtMs : ℤ)
    (requiredClientId requiredScope : String) : Except GrokBuildOAuthError GrokBuildCredential := do
  ensure (object.expiresIn != 0 && object.expiresIn ≤ maxTokenLifetimeSeconds) .ambiguousExpiration
  let expiresAtMs := observedAtMs + object.expiresIn * 1000
  ensure (expiresAtMs ≤ maxI64) .invalidTimestamp
  let clientId := object.clientId.getD requiredClientId
  ensure (requiredClientId = clientId) .credentialClientMismatch
  let scope := object.scope.getD requiredScope
  ensure (requiredScope = scope) .invalidTokenResponse
  return ⟨object.accessToken, object.refreshToken, expiresAtMs, clientId, scope⟩

/-- `clientId` is the identifier of the flow. -/
def refresh (clientId : String) (response : Response) (credential : GrokBuildCredential)
    (nowMs : ℤ) : Except GrokBuildOAuthError GrokBuildCredential := do
  ensure (credential.clientId = clientId) .credentialClientMismatch
  match response with
  | .unavailable => .error .transportUnavailable
  | .refused error => .error error
  | .granted object => credentialFromObject object nowMs clientId credential.scope

/-! ### The coordinator -/

structure RefreshSlotState where
  refreshing : Bool := false
  generation : ℕ := 0
  lastError : Option GrokBuildCredentialRefreshError := none

/-- What there is of one key: the stored versions with the current one first, the slot, and the
results of all flights that have ended. Of the versions and the flights, the code only has the first
version. -/
structure Entry where
  versions : List GrokBuildCredentialVersion := []
  slot : RefreshSlotState := {}
  flights : List RefreshResult := []

/-- Where a caller is. -/
inductive Phase
  | arrived
  /-- It waits since the slot had this generation; `awaited` counts the flights that had ended then.
  -/
  | waiting (generation awaited : ℕ)
  | reloading
  | refreshing (current : GrokBuildCredentialVersion)
  | swapping (current : GrokBuildCredentialVersion) (refreshed : GrokBuildCredential)
  | resolving
  | finishing (result : RefreshResult)
  | returned (result : RefreshResult)
  | panicked

abbrev Fault := Option GrokBuildCredentialPersistenceError

/-- A step of a caller. -/
inductive Action
  | enter (fault : Fault)
  | wake (timedOut : Bool) (fault : Fault)
  | reload (fault : Fault)
  | transport (clientId : String) (response : Response)
  | panic
  | swap (fault loadFault : Fault)
  | resolve (fault : Fault)
  | finish

def loadRequired (fault : Fault) (entry : Entry) :
    Except GrokBuildCredentialRefreshError GrokBuildCredentialVersion :=
  match fault with
  | some error => .error (.persistence error)
  | none => okOr entry.versions.head? .missingCredentialState

/-- The caller has the lock of a slot without a flight. -/
def lead (nowMs : ℤ) (fault : Fault) (entry : Entry) : Entry × Phase :=
  match loadRequired fault entry with
  | .error e => (entry, .returned (.error e))
  | .ok current =>
    if current.credential.isExpiredAt nowMs then
      ({ entry with slot := { entry.slot with refreshing := true, lastError := none } },
        .refreshing current)
    else (entry, .returned (.ok (.current current)))

def enter (nowMs : ℤ) (fault : Fault) (entry : Entry) : Entry × Phase :=
  if entry.slot.refreshing then (entry, .waiting entry.slot.generation entry.flights.length)
  else lead nowMs fault entry

def wake (nowMs : ℤ) (generation awaited : ℕ) (timedOut : Bool) (fault : Fault) (entry : Entry) :
    Entry × Phase :=
  if entry.slot.refreshing then
    (entry, if timedOut then .returned (.error .refreshLockTimedOut)
      else .waiting generation awaited)
  else if entry.slot.generation ≠ generation then
    match entry.slot.lastError with
    | some error => (entry, .returned (.error error))
    | none => (entry, .reloading)
  else lead nowMs fault entry

/-- Behind a flight that succeeded; another process may have stored an expired credential since. -/
def reload (nowMs : ℤ) (fault : Fault) (entry : Entry) : Phase :=
  match loadRequired fault entry with
  | .error e => .returned (.error e)
  | .ok current =>
    if current.credential.isExpiredAt nowMs then .arrived else .returned (.ok (.current current))

inductive GrokBuildCredentialCasOutcome
  | committed (version : GrokBuildCredentialVersion)
  | missing
  | conflict

def compareAndSwap (expectedRevision : ℕ) (credential : GrokBuildCredential)
    (fault loadFault : Fault) (entry : Entry) :
    Except GrokBuildCredentialPersistenceError GrokBuildCredentialCasOutcome × Entry :=
  let next : GrokBuildCredentialVersion := ⟨credential, expectedRevision + 1⟩
  if maxI64 < next.revision then (.error .revisionOverflow, entry)
  else
    match fault with
    | some error => (.error error, entry)
    | none =>
      if entry.versions.head?.any (·.revision = expectedRevision) then
        (.ok (.committed next), { entry with versions := next :: entry.versions })
      else
        match loadFault with
        | some error => (.error error, entry)
        | none => (.ok (if entry.versions.isEmpty then .missing else .conflict), entry)

def swap (current : GrokBuildCredentialVersion) (refreshed : GrokBuildCredential)
    (fault loadFault : Fault) (entry : Entry) : Entry × Phase :=
  match compareAndSwap current.revision refreshed fault loadFault entry with
  | (.error error, entry) => (entry, .finishing (.error (.persistence error)))
  | (.ok (.committed version), entry) => (entry, .finishing (.ok (.refreshed version)))
  | (.ok .missing, entry) | (.ok .conflict, entry) => (entry, .resolving)

/-- Another writer was first. -/
def resolve (nowMs : ℤ) (fault : Fault) (entry : Entry) : RefreshResult := do
  let newer ← loadRequired fault entry
  if newer.credential.isExpiredAt nowMs then .error .concurrentCredentialStateChanged
  else return .superseded newer

def lastErrorOf : RefreshResult → Option GrokBuildCredentialRefreshError
  | .error e => some e
  | .ok _ => none

def finish (result : RefreshResult) (entry : Entry) : Entry :=
  { entry with
    slot :=
      { refreshing := false
        generation := (entry.slot.generation + 1) % 2 ^ 64
        lastError := lastErrorOf result }
    flights := entry.flights ++ [result] }

/-- A step of a caller with the time `nowMs`, if it can be taken in this phase. -/
def act (nowMs : ℤ) : Action → Phase → Entry → Option (Entry × Phase)
  | .enter fault, .arrived, entry => some (enter nowMs fault entry)
  | .wake timedOut fault, .waiting generation awaited, entry =>
    some (wake nowMs generation awaited timedOut fault entry)
  | .reload fault, .reloading, entry => some (entry, reload nowMs fault entry)
  | .transport clientId response, .refreshing current, entry =>
    match refresh clientId response current.credential nowMs with
    | .error e => some (entry, .finishing (.error (.oauth e)))
    | .ok refreshed => some (entry, .swapping current refreshed)
  | .panic, .refreshing _, entry => some (entry, .panicked)
  | .swap fault loadFault, .swapping current refreshed, entry =>
    some (swap current refreshed fault loadFault entry)
  | .resolve fault, .resolving, entry => some (entry, .finishing (resolve nowMs fault entry))
  | .finish, .finishing result, entry => some (finish result entry, .returned result)
  | _, _, _ => none

structure Caller where
  key : GrokBuildCredentialKey
  nowMs : ℤ
  phase : Phase := .arrived

structure GrokBuildCredentialRefreshCoordinator where
  entries : GrokBuildCredentialKey → Entry := fun _ => {}
  callers : ℕ → Option Caller := fun _ => none

def GrokBuildCredentialRefreshCoordinator.setVersions (s : GrokBuildCredentialRefreshCoordinator)
    (key : GrokBuildCredentialKey) (versions : List GrokBuildCredentialVersion) :
    GrokBuildCredentialRefreshCoordinator :=
  { s with entries := Function.update s.entries key { s.entries key with versions } }

inductive Label
  | call (c : ℕ) (key : GrokBuildCredentialKey) (nowMs : ℤ)
  | act (c : ℕ) (action : Action)
  | insertIfAbsent (key : GrokBuildCredentialKey) (credential : GrokBuildCredential)
  | external (key : GrokBuildCredentialKey) (credential : GrokBuildCredential)

/-- One step of a caller, or of another process. -/
inductive Step : GrokBuildCredentialRefreshCoordinator → Label →
    GrokBuildCredentialRefreshCoordinator → Prop
  | call {s : GrokBuildCredentialRefreshCoordinator} {c} (key nowMs) (hc : s.callers c = none) :
    Step s (.call c key nowMs)
      { s with callers := Function.update s.callers c (some { key, nowMs }) }
  | act {s : GrokBuildCredentialRefreshCoordinator} {c caller action entry phase}
    (hc : s.callers c = some caller)
    (h : act caller.nowMs action caller.phase (s.entries caller.key) = some (entry, phase)) :
    Step s (.act c action)
      { entries := Function.update s.entries caller.key entry
        callers := Function.update s.callers c (some { caller with phase }) }
  | insertIfAbsent {s : GrokBuildCredentialRefreshCoordinator} {key} (credential)
    (hkey : (s.entries key).versions = []) :
    Step s (.insertIfAbsent key credential) (s.setVersions key [⟨credential, 0⟩])
  | external {s : GrokBuildCredentialRefreshCoordinator} {key current} (credential)
    (hkey : (s.entries key).versions.head? = some current) :
    Step s (.external key credential)
      (s.setVersions key (⟨credential, current.revision + 1⟩ :: (s.entries key).versions))

end CpaGateway.Grok.CredentialRefresh
