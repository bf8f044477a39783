import CpaGateway.Core.Identity
import Mathlib.Data.List.Destutter
import Mathlib.Data.List.Sort
import Mathlib.Data.String.Basic

/-! # Discovered models

A target is an Endpoint with a Credential; what a source discovers for it is a list of model names,
which is sorted and without repetition before anyone gets it. -/

namespace CpaGateway.Catalog.Discovery

open Core.Identity

/-- One model, under the name its source gave it. -/
@[ext]
structure DiscoveredModel where
  upstreamModel : String
  nonempty : upstreamModel ≠ ""

instance : DecidableEq DiscoveredModel := fun _ _ => decidable_of_iff _ DiscoveredModel.ext_iff.symm

def DiscoveredModel.tryNew (upstreamModel : String) : Option DiscoveredModel :=
  if h : upstreamModel = "" then none else some ⟨upstreamModel, h⟩

/-- Models are ordered as their names. -/
instance : Ord DiscoveredModel := ⟨fun a b => compare a.upstreamModel b.upstreamModel⟩

instance : Std.TransOrd DiscoveredModel where
  eq_swap := Std.OrientedOrd.eq_swap (α := String)
  isLE_trans := Std.TransOrd.isLE_trans (α := String)

instance : Std.LawfulEqOrd DiscoveredModel where
  compare_self := Std.ReflOrd.compare_self (α := String)
  eq_of_compare h := DiscoveredModel.ext (Std.LawfulEqOrd.eq_of_compare h)

/-- What a discovery is for. -/
structure ModelCatalogTarget where
  endpointId : EndpointId
  credentialId : CredentialId
  deriving DecidableEq

def DiscoveredModel.ble (a b : DiscoveredModel) : Bool := a.upstreamModel ≤ b.upstreamModel

/-- Sorted, and without repetition. -/
def normalizeModels (models : List DiscoveredModel) : List DiscoveredModel :=
  (models.mergeSort DiscoveredModel.ble).destutter (· ≠ ·)

/-- The models are in the order of their names and no two are the same. -/
def Normalized (models : List DiscoveredModel) : Prop :=
  models.Pairwise fun a b => a.upstreamModel < b.upstreamModel

theorem pairwise_ble_mergeSort (models : List DiscoveredModel) :
    (models.mergeSort DiscoveredModel.ble).Pairwise fun a b =>
      a.upstreamModel ≤ b.upstreamModel := by
  have htrans : ∀ a b c, DiscoveredModel.ble a b → DiscoveredModel.ble b c →
      DiscoveredModel.ble a c := by
    intro a b c hab hbc
    simp only [DiscoveredModel.ble, decide_eq_true_eq] at hab hbc ⊢
    exact hab.trans hbc
  have htotal : ∀ a b, (DiscoveredModel.ble a b || DiscoveredModel.ble b a) = true := by
    intro a b
    simp only [DiscoveredModel.ble, Bool.or_eq_true, decide_eq_true_eq]
    exact le_total a.upstreamModel b.upstreamModel
  have hsorted := List.pairwise_mergeSort htrans htotal models
  exact hsorted.imp fun h => by simpa [DiscoveredModel.ble] using h

theorem isChain_lt : ∀ {l : List DiscoveredModel}, l.IsChain (· ≠ ·) →
    l.Pairwise (fun a b => a.upstreamModel ≤ b.upstreamModel) →
    l.IsChain fun a b => a.upstreamModel < b.upstreamModel
  | [], _, _ => .nil
  | [a], _, _ => .singleton a
  | a :: b :: l, .cons_cons hne hrest, .cons hle hsorted => by
    refine .cons_cons ?_ (isChain_lt hrest hsorted)
    exact lt_of_le_of_ne (hle b List.mem_cons_self)
      fun heq => hne (DiscoveredModel.ext heq)

theorem normalized_normalizeModels (models : List DiscoveredModel) :
    Normalized (normalizeModels models) := by
  have hle := (pairwise_ble_mergeSort models).sublist (List.destutter_sublist (· ≠ ·) _)
  have hchain :=
    isChain_lt (List.isChain_destutter (· ≠ ·) (models.mergeSort DiscoveredModel.ble)) hle
  exact List.isChain_iff_pairwise.mp hchain

end CpaGateway.Catalog.Discovery
