import Mathlib.Order.Basic

/-! # Identifiers

The opaque identifiers that keep the domain boundaries apart. All of them are non-empty texts; the
kind says what an identifier names, so that identifiers of different things have different types. -/

namespace CpaGateway.Core.Identity

/-- What an identifier names. -/
inductive Kind
  | request
  | attempt
  | accessGroup
  | credential
  | endpoint
  | publicModel
  | route
  | routeCandidate
  | upstream
  | clientKey
  | healthEvent
  | configVersion
  | snapshotVersion
  deriving DecidableEq

/-- A non-empty text that names a thing of one kind. -/
@[ext]
structure Identifier (kind : Kind) where
  asStr : String
  nonempty : asStr ≠ ""

instance {kind : Kind} : DecidableEq (Identifier kind) :=
  fun _ _ => decidable_of_iff _ Identifier.ext_iff.symm

/-- The checked constructor; the only error is an empty text. -/
def Identifier.tryNew {kind : Kind} (value : String) : Option (Identifier kind) :=
  if h : value = "" then none else some ⟨value, h⟩

/-- The identifier of a text that is evidently not empty. -/
def Identifier.lit {kind : Kind} (value : String)
    (h : decide (value = "") = false := by exact Eq.refl false) : Identifier kind :=
  ⟨value, of_decide_eq_false h⟩

/-- Identifiers are ordered as their texts. -/
instance {kind : Kind} : Ord (Identifier kind) := ⟨fun a b => compare a.asStr b.asStr⟩

instance {kind : Kind} : Std.TransOrd (Identifier kind) where
  eq_swap := Std.OrientedOrd.eq_swap (α := String)
  isLE_trans := Std.TransOrd.isLE_trans (α := String)

instance {kind : Kind} : Std.LawfulEqOrd (Identifier kind) where
  compare_self := Std.ReflOrd.compare_self (α := String)
  eq_of_compare h := Identifier.ext (Std.LawfulEqOrd.eq_of_compare h)

abbrev RequestId := Identifier .request
abbrev AttemptId := Identifier .attempt
abbrev AccessGroupId := Identifier .accessGroup
abbrev CredentialId := Identifier .credential
abbrev EndpointId := Identifier .endpoint
abbrev PublicModelId := Identifier .publicModel
abbrev RouteId := Identifier .route
abbrev RouteCandidateId := Identifier .routeCandidate
abbrev UpstreamId := Identifier .upstream
abbrev ClientKeyId := Identifier .clientKey
abbrev HealthEventId := Identifier .healthEvent
abbrev ConfigVersionId := Identifier .configVersion
abbrev SnapshotVersion := Identifier .snapshotVersion

end CpaGateway.Core.Identity
