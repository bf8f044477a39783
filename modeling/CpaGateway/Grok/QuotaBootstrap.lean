import CpaGateway.Grok.AccountWorker
import CpaGateway.Router.RuntimeQuota

/-! # The native runtime after a restart

When the process starts, the accounts that take part in scheduling are compiled for their Endpoints,
and the stored quota windows become snapshots of the runtime quota registry. A stored row that
cannot be one of a snapshot fails the whole compilation.

Of the accounts, only what the quota needs is modelled: `PoolBuilder` stands for the compilation of
the Credential pools, of which nothing is assumed. -/

namespace CpaGateway.Grok.QuotaBootstrap

open Core.Identity Grok.AccountStore Router.RuntimeQuota Router Router.RuntimeHealth
open Lib.Fallible Lib.Tables

inductive GrokAccountPoolError
  | invalidPersistedState
  | secretStoreFailure
  deriving DecidableEq

inductive GrokNativeAccountCompileError
  | duplicateBinding
  | invalidObservationTime
  | account (error : GrokAccountPoolError)
  | pool
  deriving DecidableEq

/-! ### Snapshots from rows -/

def parseQuotaSource : String → Except GrokAccountPoolError QuotaSource
  | "billing" => .ok .billing
  | "rest" => .ok .rest
  | "grpc" => .ok .grpc
  | "estimated" => .ok .estimated
  | _ => .error .invalidPersistedState

def parseQuotaConfidence : String → Except GrokAccountPoolError QuotaConfidence
  | "authoritative" => .ok .authoritative
  | "observed" => .ok .observed
  | "estimated" => .ok .estimated
  | _ => .error .invalidPersistedState

def optionalI64ToU64 : Option ℤ → Except GrokAccountPoolError (Option ℕ)
  | none => .ok none
  | some value => if 0 ≤ value then .ok (some value.toNat) else .error .invalidPersistedState

/-- What the rows of a target have in common. -/
structure Evidence where
  source : QuotaSource
  confidence : QuotaConfidence
  observedAtMs : ℤ
  deriving DecidableEq

structure QuotaBootstrapGroup where
  evidence : Evidence
  windows : List QuotaWindow

/-- A row of an account that takes part in scheduling. -/
structure ParsedRow where
  target : RuntimeQuotaTarget
  evidence : Evidence
  window : QuotaWindow

def rowTarget (endpointId : EndpointId) (credentialId : CredentialId) (row : PersistedQuotaRow) :
    Except GrokAccountPoolError RuntimeQuotaTarget :=
  if row.scopeKind = "account" && row.modelLabel = "" then
    .ok (.endpointCredential endpointId credentialId)
  else if row.scopeKind = "model" && row.modelLabel != "" then
    (RuntimeQuotaTarget.tryEndpointCredentialModel endpointId credentialId row.modelLabel).mapError
      fun _ => .invalidPersistedState
  else .error .invalidPersistedState

/-- The Endpoint and the Credential that an account is bound to. -/
abbrev Bindings := String → Option (EndpointId × CredentialId)

/-- Rows of other accounts are skipped. -/
def parseRow (runtimeBindings : Bindings) (row : PersistedQuotaRow) :
    Except GrokAccountPoolError (Option ParsedRow) :=
  match runtimeBindings row.accountId with
  | none => .ok none
  | some (endpointId, credentialId) => do
    let target ← rowTarget endpointId credentialId row
    let source ← parseQuotaSource row.source
    let confidence ← parseQuotaConfidence row.confidence
    let limit ← optionalI64ToU64 row.limit
    let remaining ← optionalI64ToU64 row.remaining
    let window ← (QuotaWindow.tryNew row.windowLabel limit remaining row.resetAtMs).mapError
      fun _ => .invalidPersistedState
    return some ⟨target, ⟨source, confidence, row.observedAtMs⟩, window⟩

/-- Adds a window to its group; all rows of a group have the same evidence. -/
def addWindow (group : Option QuotaBootstrapGroup) (row : ParsedRow) :
    Except GrokAccountPoolError QuotaBootstrapGroup := do
  let group := group.getD ⟨row.evidence, []⟩
  ensure (group.evidence = row.evidence) .invalidPersistedState
  return { group with windows := group.windows ++ [row.window] }

/-- One round of the loop over the rows. -/
def addRow (runtimeBindings : Bindings) (groups : Table RuntimeQuotaTarget QuotaBootstrapGroup)
    (row : PersistedQuotaRow) :
    Except GrokAccountPoolError (Table RuntimeQuotaTarget QuotaBootstrapGroup) := do
  match ← parseRow runtimeBindings row with
  | none => return groups
  | some parsed =>
    let group ← addWindow (groups.lookup parsed.target) parsed
    return groups.insert parsed.target group

/-- The order of the primary key. -/
def rowPrecedes (a b : PersistedQuotaRow) : Bool :=
  a.accountId < b.accountId || a.accountId = b.accountId && (
    a.scopeKind < b.scopeKind || a.scopeKind = b.scopeKind && (
      a.modelLabel < b.modelLabel || a.modelLabel = b.modelLabel && a.windowLabel ≤ b.windowLabel))

/-- Binding-wide targets first, then by Endpoint, Credential and model. -/
def targetKey : RuntimeQuotaTarget → ℕ × String × String × String
  | .endpointCredential endpointId credentialId => (0, endpointId.asStr, credentialId.asStr, "")
  | .endpointCredentialModel endpointId credentialId model _ =>
    (1, endpointId.asStr, credentialId.asStr, model)

def targetPrecedes (a b : RuntimeQuotaTarget) : Bool :=
  let (variantA, endpointA, credentialA, modelA) := targetKey a
  let (variantB, endpointB, credentialB, modelB) := targetKey b
  variantA < variantB || variantA = variantB && (
    endpointA < endpointB || endpointA = endpointB && (
      credentialA < credentialB || credentialA = credentialB && modelA ≤ modelB))

def groupSnapshot (entry : RuntimeQuotaTarget × QuotaBootstrapGroup) :
    Except GrokAccountPoolError QuotaSnapshot :=
  (QuotaSnapshot.tryNew entry.1 entry.2.windows entry.2.evidence.source entry.2.evidence.confidence
    entry.2.evidence.observedAtMs).mapError fun _ => .invalidPersistedState

def loadQuotaBootstrap (quotaWindows : List PersistedQuotaRow) (runtimeBindings : Bindings) :
    Except GrokAccountPoolError (List QuotaSnapshot) := do
  let rows := quotaWindows.mergeSort rowPrecedes
  let groups ← rows.foldlM (addRow runtimeBindings) ∅
  (groups.rows.mergeSort fun a b => targetPrecedes a.1 b.1).mapM groupSnapshot

/-! ### The compilation -/

structure GrokAccountEndpointBinding where
  provider : GrokAccountProvider
  endpointId : EndpointId
  deriving DecidableEq

/-- The compilation of Credential pools: the input that an account is for its Endpoint, and the
pools of all inputs. -/
structure PoolBuilder (ι π : Type) where
  input : String → AccountRow → Bytes → ℤ → Except GrokNativeAccountCompileError ι
  build : List (EndpointId × ι) → Except GrokNativeAccountCompileError π

/-- An account that takes part in scheduling. -/
structure BoundAccount (ι : Type) where
  accountId : String
  endpointId : EndpointId
  credentialId : CredentialId
  input : ι

structure GrokNativeAccountPoolCompilation (ι π : Type) where
  credentialPools : π
  accounts : List (BoundAccount ι)
  quotaBootstrap : List QuotaSnapshot

def GrokAccountProvider.asStr : GrokAccountProvider → String
  | .build => "build"
  | .web => "web"
  | .console => "console"

/-- By provider, then by key. -/
def accountPrecedes (a b : String × AccountRow) : Bool :=
  GrokAccountProvider.asStr a.2.provider < GrokAccountProvider.asStr b.2.provider ||
    a.2.provider = b.2.provider && a.1 ≤ b.1

section Compile

variable {ι π : Type} (services : Services) (builder : PoolBuilder ι π)

/-- Accounts that are switched off, or whose provider has no Endpoint, are skipped. -/
def compileAccount (bindings : List GrokAccountEndpointBinding) (observedAtMs : ℤ)
    (entry : String × AccountRow) :
    Except GrokNativeAccountCompileError (Option (BoundAccount ι)) :=
  let (accountId, row) := entry
  if !row.enabled || row.authStatus = .disabled then .ok none
  else match bindings.find? (·.provider = row.provider) with
    | none => .ok none
    | some binding => do
      ensure (row.identityDigest.length = 32) (.account .invalidPersistedState)
      ensure (services.fromPersisted row.credential) (.account .invalidPersistedState)
      let credential ← okOr (services.openSecret row.credential ⟨row.provider, row.identityDigest⟩)
        (.account .secretStoreFailure)
      let credentialId ← okOr (Identifier.tryNew accountId) (.account .invalidPersistedState)
      let input ← builder.input accountId row credential observedAtMs
      return some ⟨accountId, binding.endpointId, credentialId, input⟩

/-- The accounts as they are read. -/
def runtimeRows (s : GrokAccountPoolStore) : List (String × AccountRow) :=
  s.accounts.rows.mergeSort accountPrecedes

def compileAccounts (bindings : List GrokAccountEndpointBinding) (observedAtMs : ℤ)
    (s : GrokAccountPoolStore) : Except GrokNativeAccountCompileError (List (BoundAccount ι)) := do
  ensure (0 ≤ observedAtMs) .invalidObservationTime
  ensure (decide (bindings.map (·.provider)).Nodup && decide (bindings.map (·.endpointId)).Nodup)
    .duplicateBinding
  let accounts ← (runtimeRows s).mapM (compileAccount services builder bindings observedAtMs)
  return accounts.reduceOption

def bindingsOf (accounts : List (BoundAccount ι)) : Bindings := fun accountId =>
  (accounts.find? (·.accountId = accountId)).map fun account =>
      (account.endpointId, account.credentialId)

def compileNativeRuntime (bindings : List GrokAccountEndpointBinding) (observedAtMs : ℤ)
    (s : GrokAccountPoolStore) :
    Except GrokNativeAccountCompileError (GrokNativeAccountPoolCompilation ι π) := do
  let accounts ← compileAccounts services builder bindings observedAtMs s
  let quotaBootstrap ← (loadQuotaBootstrap s.quotaWindows (bindingsOf accounts)).mapError .account
  let credentialPools ← builder.build
    (accounts.map fun account => (account.endpointId, account.input))
  return ⟨credentialPools, accounts, quotaBootstrap⟩

end Compile

/-! ### Seeding -/

/-- Records the snapshots in turn; `clock` has the readings of the call. -/
def seedSnapshots (clock : ℕ → Reading) : ℕ → List QuotaSnapshot → RuntimeQuota.Operation Unit
  | _, [] => return ()
  | i, snapshot :: snapshots => do
    let _ ← recordSnapshot snapshot (clock i)
    seedSnapshots clock (i + 1) snapshots

def seedRuntimeQuota {ι π : Type} (compilation : GrokNativeAccountPoolCompilation ι π)
    (clock : ℕ → Reading) : RuntimeQuota.Operation Unit :=
  seedSnapshots clock 0 compilation.quotaBootstrap

end CpaGateway.Grok.QuotaBootstrap
