import CpaGateway.Lib.BigEndian

/-! # Binding a ciphertext to its context

Authenticated encryption with associated data, and two ways to write a context of several texts as
associated data. Fields that stand behind their length keep every two contexts apart
(`flatMap_field_injective`). A separator between fields does so only up to a shift, since a field
may contain it (`append_cons_eq_iff`). -/

namespace CpaGateway.Lib.Binding

open Lib.BigEndian

/-! ### Authenticated encryption -/

/-- A scheme of authenticated encryption. -/
structure Aead (Key : Type) where
  encrypt : Key → (nonce message associated : List UInt8) → Option (List UInt8)
  decrypt : Key → (nonce ciphertext associated : List UInt8) → Option (List UInt8)

/-- What was encrypted is decrypted and nothing else is, and no ciphertext belongs to two contexts.
-/
structure Aead.Ideal {Key : Type} (A : Aead Key) : Prop where
  decrypt_iff : ∀ {k n c a m}, A.decrypt k n c a = some m ↔ A.encrypt k n m a = some c
  separates : ∀ {k n m m' a a' c}, A.encrypt k n m a = some c →
    A.encrypt k n m' a' = some c → a = a'

/-- **A ciphertext opens under its own associated data only.** -/
theorem Aead.Ideal.decrypt_other {Key : Type} {A : Aead Key} (h : A.Ideal) {k : Key}
    {n c a a' m : List UInt8} (hopen : A.decrypt k n c a = some m) :
    A.decrypt k n c a' = if a' = a then some m else none := by
  split_ifs with heq
  · rw [heq, hopen]
  · cases hother : A.decrypt k n c a' with
    | none => rfl
    | some m' =>
      exact absurd (h.separates (h.decrypt_iff.mp hother) (h.decrypt_iff.mp hopen)) heq

/-! ### Texts as bytes -/

/-- The bytes of a text. -/
def utf8 (text : String) : List UInt8 := text.toUTF8.data.toList

@[simp] theorem length_utf8 (text : String) :
    (utf8 text).length = text.utf8ByteSize := by simp [utf8]

theorem utf8_injective : Function.Injective utf8 := by
  intro a b h
  have hdata : a.toByteArray.data = b.toByteArray.data := Array.ext' h
  exact String.toByteArray_inj.mp (ByteArray.ext hdata)

/-! ### Fields behind their length -/

def field (w : ℕ) (bytes : List UInt8) : List UInt8 := beBytes w bytes.length ++ bytes

section Fields

variable {w : ℕ} {a b r s : List UInt8}

theorem field_append_inj (ha : a.length < 256 ^ w) (hb : b.length < 256 ^ w)
    (h : field w a ++ r = field w b ++ s) : a = b ∧ r = s := by
  rw [field, field, List.append_assoc, List.append_assoc] at h
  obtain ⟨hlengths, hrest⟩ := List.append_inj h (by simp)
  have hlength : a.length = b.length := by
    rw [← beNat_beBytes_of_lt ha, hlengths, beNat_beBytes_of_lt hb]
  exact List.append_inj hrest hlength

theorem flatMap_field_ne_nil (hw : 0 < w) (as : List (List UInt8)) :
    (a :: as).flatMap (field w) ≠ [] := by
  intro h
  have hlength := congrArg List.length h
  simp only [List.flatMap_cons, List.length_append, field, length_beBytes,
    List.length_nil] at hlength
  omega

/-- **Fields behind their lengths can be read back.** -/
theorem flatMap_field_injective (hw : 0 < w) :
    ∀ {as bs : List (List UInt8)}, (∀ a ∈ as, a.length < 256 ^ w) → (∀ b ∈ bs, b.length < 256 ^ w) →
      as.flatMap (field w) = bs.flatMap (field w) → as = bs
  | [], [], _, _, _ => rfl
  | [], b :: bs, _, _, h => absurd h.symm (flatMap_field_ne_nil hw bs)
  | a :: as, [], _, _, h => absurd h (flatMap_field_ne_nil hw as)
  | a :: as, b :: bs, ha, hb, h => by
    rw [List.flatMap_cons, List.flatMap_cons] at h
    obtain ⟨rfl, hrest⟩ := field_append_inj (ha a (.head _)) (hb b (.head _)) h
    rw [flatMap_field_injective hw (fun x hx => ha x (.tail _ hx))
      (fun x hx => hb x (.tail _ hx)) hrest]

end Fields

/-! ### Fields with a separator between them -/

section Separated

variable {α : Type} {x : α} {a b c d : List α}

/-- **Two pairs with a separator between them agree**: they are equal, or the separator of one of
them stands inside a part of the other. -/
theorem append_cons_eq_iff :
    a ++ x :: b = c ++ x :: d ↔ (a = c ∧ b = d) ∨
      (∃ t, a = c ++ x :: t ∧ d = t ++ x :: b) ∨ ∃ t, c = a ++ x :: t ∧ b = t ++ x :: d := by
  constructor
  · intro h
    rcases List.append_eq_append_iff.mp h with ⟨t, hc, hb⟩ | ⟨t, ha, hd⟩
    · cases t with
      | nil =>
        rw [List.append_nil] at hc
        exact .inl ⟨hc.symm, (List.cons.inj hb).2⟩
      | cons y t =>
        obtain ⟨rfl, htail⟩ := List.cons.inj hb
        exact .inr (.inr ⟨t, hc, htail⟩)
    · cases t with
      | nil =>
        rw [List.append_nil] at ha
        exact .inl ⟨ha, (List.cons.inj hd).2.symm⟩
      | cons y t =>
        obtain ⟨rfl, htail⟩ := List.cons.inj hd
        exact .inr (.inl ⟨t, ha, htail⟩)
  · rintro (⟨rfl, rfl⟩ | ⟨t, rfl, rfl⟩ | ⟨t, rfl, rfl⟩)
    · rfl
    · simp
    · simp

theorem append_cons_inj_of_not_mem (ha : x ∉ a) (hc : x ∉ c) (h : a ++ x :: b = c ++ x :: d) :
    a = c ∧ b = d := by
  rcases append_cons_eq_iff.mp h with heq | ⟨t, rfl, -⟩ | ⟨t, rfl, -⟩
  · exact heq
  · simp at ha
  · simp at hc

end Separated

end CpaGateway.Lib.Binding
