import CpaGateway.Core.Json
import Mathlib.Data.List.DropRight
import Mathlib.Data.Set.Countable
import Mathlib.Data.String.Basic
import Mathlib.Tactic.DeriveCountable

/-! # What a JSON text keeps of a value

The gateway holds values that were read without repeated names, and objects that it builds member by
member; both are strict readings of some text (`Held`). `Lawful` says what the gateway relies on in
the reader and the writer: a value is read back as it was written, up to the depth the reader
descends to and up to the numbers it does not read back exactly. -/

namespace CpaGateway.Core.Json

/-! ### Depth and numbers -/

mutual

/-- How deep the arrays and objects of the value nest. -/
def depth : Value → ℕ
  | .array vs => depthElements vs + 1
  | .object members => depthMembers members + 1
  | _ => 0

def depthElements : List Value → ℕ
  | [] => 0
  | v :: vs => max (depth v) (depthElements vs)

def depthMembers : List (String × Value) → ℕ
  | [] => 0
  | (_, v) :: members => max (depth v) (depthMembers members)

end

mutual

/-- Every part of the value that is no array or object passes the test `p`. -/
def scalars (p : Value → Bool) : Value → Bool
  | .array vs => scalarsElements p vs
  | .object members => scalarsMembers p members
  | v => p v

def scalarsElements (p : Value → Bool) : List Value → Bool
  | [] => true
  | v :: vs => scalars p v && scalarsElements p vs

def scalarsMembers (p : Value → Bool) : List (String × Value) → Bool
  | [] => true
  | (_, v) :: members => scalars p v && scalarsMembers p members

end

/-- Every number of the value passes the test `p`. -/
def numbers (p : Number → Bool) : Value → Bool := scalars fun
  | .number n => p n
  | _ => true

/-- Induction over the elements and the members of a value. -/
@[elab_as_elim]
theorem Value.inductionOn {P : Value → Prop} (v : Value) (null : P .null) (bool : ∀ b, P (.bool b))
    (number : ∀ n, P (.number n)) (string : ∀ s, P (.string s))
    (array : ∀ vs, (∀ v ∈ vs, P v) → P (.array vs))
    (object : ∀ members, (∀ member ∈ members, P member.2) → P (.object members)) : P v :=
  @Value.rec P (fun vs => ∀ v ∈ vs, P v) (fun members => ∀ member ∈ members, P member.2)
    (fun member => P member.2) null bool number string array object (by simp)
    (fun _ _ hv hvs => List.forall_mem_cons.mpr ⟨hv, hvs⟩) (by simp)
    (fun _ _ hm hms => List.forall_mem_cons.mpr ⟨hm, hms⟩) (fun _ _ h => h) v

variable {v w : Value} {vs ws : List Value} {m m' members : Map} {p : Value → Bool}
  {q : Number → Bool} {n : ℕ}
  {name : String}

theorem depth_array_le : depth (.array vs) ≤ n + 1 ↔ ∀ v ∈ vs, depth v ≤ n := by
  rw [depth, Nat.add_le_add_iff_right]
  induction vs with
  | nil => simp [depthElements]
  | cons v vs ih => rw [depthElements, max_le_iff, ih, List.forall_mem_cons]

theorem depth_object_le : depth (.object members) ≤ n + 1 ↔
      ∀ member ∈ members, depth member.2 ≤ n := by
  rw [depth, Nat.add_le_add_iff_right]
  induction members with
  | nil => simp [depthMembers]
  | cons member members ih => rw [depthMembers, max_le_iff, ih, List.forall_mem_cons]

theorem scalars_array : scalars p (.array vs) = true ↔ ∀ v ∈ vs, scalars p v = true := by
  rw [scalars]
  induction vs with
  | nil => simp [scalarsElements]
  | cons v vs ih => rw [scalarsElements, Bool.and_eq_true, ih, List.forall_mem_cons]

theorem scalars_object :
    scalars p (.object members) = true ↔ ∀ member ∈ members, scalars p member.2 = true := by
  rw [scalars]
  induction members with
  | nil => simp [scalarsMembers]
  | cons member members ih => rw [scalarsMembers, Bool.and_eq_true, ih, List.forall_mem_cons]

/-! ### Maps -/

variable {member : String × Value}

namespace Map

theorem mem_insert {value : Value} (h : member ∈ m.insert name value) :
    member = (name, value) ∨ member ∈ m := by
  induction m with
  | nil => simpa using h
  | cons first rest ih =>
    rw [insert] at h
    split at h
    · simpa using h
    · rcases List.mem_cons.mp h with h | h
      · exact .inl h
      · exact .inr (.tail _ h)
    · rcases List.mem_cons.mp h with rfl | h
      · exact .inr (.head _)
      · exact (ih h).imp_right (.tail _)

/-- The map of a list of members; a later one of the same name replaces an earlier one. -/
def ofList (members : List (String × Value)) : Map :=
  members.foldl (fun m member => m.insert member.1 member.2) []

theorem get_ofList (members : List (String × Value)) (name : String) :
    (ofList members).get name = (members.reverse.find? fun member => member.1 = name).map (·.2) :=
  Value.get_ofMembers members name

theorem containsKey_eq (m : Map) (name : String) : m.containsKey name = (m.get name).isSome := by
  rw [containsKey, get, Option.isSome_map, Bool.eq_iff_iff, List.any_eq_true, List.find?_isSome]

theorem containsKey_insert (m : Map) (name other : String) (value : Value) :
    (m.insert name value).containsKey other = (decide (other = name) || m.containsKey other) := by
  rw [containsKey_eq, get_insert, containsKey_eq]
  by_cases h : other = name
  · simp [h]
  · simp [h, Ne.symm h]

theorem mem_ofList (h : member ∈ ofList members) : member ∈ members := by
  induction members using List.reverseRecOn with
  | nil => exact h
  | append_singleton members last ih =>
    rw [ofList, List.foldl_append, List.foldl_cons] at h
    rcases mem_insert h with rfl | h
    · simp
    · exact List.mem_append_left _ (ih h)

theorem get_ofList_eq_none (h : ∀ member ∈ members, member.1 ≠ name) :
    (ofList members).get name = none := by
  rw [get_ofList, Option.map_eq_none_iff]
  simpa using fun name value hmember => h (name, value) hmember

end Map

namespace Value

theorem ofMembers_eq (members : List (String × Value)) :
    ofMembers members = .object (Map.ofList members) := rfl

theorem depth_ofMembers_le (h : ∀ member ∈ members, depth member.2 ≤ n) :
    depth (ofMembers members) ≤ n + 1 :=
  depth_object_le.mpr fun member hmember => h member (Map.mem_ofList hmember)

theorem depth_lt_of_get (h : m.get name = some v) : depth v < depth (.object m) := by
  obtain ⟨member, hfind, rfl⟩ := Option.map_eq_some_iff.mp h
  have hle : depth (.object m) ≤ depthMembers m + 1 := by rw [depth]
  exact Nat.lt_succ_of_le (depth_object_le.mp hle member (List.mem_of_find?_eq_some hfind))

end Value

/-! ### The strict reading -/

/-- The strict reading is the reading of `Value` itself, and no name was repeated. -/
structure Reading (v w : Value) : Prop where
  duplicateFree : duplicateFree v = true
  lastWins : lastWins v = w

theorem strictElements_some (ih : ∀ v ∈ vs, ∀ w, strict v = some w → Reading v w)
    (h : strictElements vs = some ws) :
    duplicateFreeElements vs = true ∧ lastWinsElements vs = ws := by
  induction vs generalizing ws with
  | nil =>
    cases h
    exact ⟨rfl, rfl⟩
  | cons v vs ihvs =>
    obtain ⟨hv, hvs⟩ := List.forall_mem_cons.mp ih
    simp only [strictElements, Option.bind_eq_bind, Option.bind_eq_some_iff, Option.pure_def,
      Option.some.injEq] at h
    obtain ⟨w, hw, ws, hws, rfl⟩ := h
    obtain ⟨hfree, hlast⟩ := ihvs hvs hws
    rw [duplicateFreeElements, (hv w hw).duplicateFree, hfree, lastWinsElements,
      (hv w hw).lastWins, hlast]
    exact ⟨rfl, rfl⟩

theorem strictMembers_some (ih : ∀ member ∈ members, ∀ w, strict member.2 = some w →
      Reading member.2 w) (h : strictMembers m members = some m') :
    (∀ seen : List String, (∀ name, seen.contains name = m.containsKey name) →
        duplicateFreeMembers seen members = true) ∧ lastWinsMembers m members = m' := by
  induction members generalizing m with
  | nil =>
    cases h
    exact ⟨fun _ _ => rfl, rfl⟩
  | cons member members ihmembers =>
    obtain ⟨hmember, hmembers⟩ := List.forall_mem_cons.mp ih
    rw [strictMembers] at h
    split at h
    · cases h
    next hnew =>
      obtain ⟨w, hw, hrest⟩ := Option.bind_eq_some_iff.mp h
      obtain ⟨hfree, hlast⟩ := ihmembers hmembers hrest
      refine ⟨fun seen hseen => ?_, by rw [lastWinsMembers, (hmember w hw).lastWins, hlast]⟩
      have hnext := hfree (member.1 :: seen) fun name => by
        rw [List.contains_cons, hseen, Map.containsKey_insert, ← Bool.beq_eq_decide_eq]
      rw [duplicateFreeMembers, hseen, (hmember w hw).duplicateFree, hnext]
      simpa using hnew

theorem strict_reading (h : strict v = some w) : Reading v w := by
  induction v using Value.inductionOn generalizing w with
  | array vs ih =>
    obtain ⟨ws, hws, rfl⟩ := Option.map_eq_some_iff.mp (strict.eq_1 vs ▸ h)
    obtain ⟨hfree, hlast⟩ := strictElements_some (fun v hv w => ih v hv) hws
    exact ⟨hfree, congrArg _ hlast⟩
  | object members ih =>
    obtain ⟨m, hm, rfl⟩ := Option.map_eq_some_iff.mp (strict.eq_2 members ▸ h)
    obtain ⟨hfree, hlast⟩ := strictMembers_some (fun member hmember w => ih member hmember) hm
    exact ⟨hfree [] fun _ => rfl, congrArg _ hlast⟩
  | number n =>
    cases n with
    | float bits =>
      rw [strict] at h
      split at h
      · cases h
        exact ⟨rfl, rfl⟩
      · cases h
    | _ =>
      cases h
      exact ⟨rfl, rfl⟩
  | _ =>
    cases h
    exact ⟨rfl, rfl⟩

/-- The strict reading of a text of at most `maximumBytes` bytes. -/
def SerdeJson.parseStrictJson (serde : SerdeJson) (input : List UInt8) (maximumBytes : ℕ) :
    Option Value :=
  if input.length > maximumBytes then none else (serde.read input).bind strict

/-- A value that the gateway can hold: the strict reading of a text. -/
def Held (v : Value) : Prop := ∃ u, strict u = some v

theorem held_array (h : ∀ v ∈ vs, Held v) : Held (.array vs) := by
  have hread : ∃ us, strictElements us = some vs := by
    induction vs with
    | nil => exact ⟨[], rfl⟩
    | cons v vs ih =>
      obtain ⟨⟨u, hu⟩, hvs⟩ := List.forall_mem_cons.mp h
      obtain ⟨us, hus⟩ := ih hvs
      exact ⟨u :: us, by rw [strictElements, hu, hus]; rfl⟩
  obtain ⟨us, hus⟩ := hread
  exact ⟨.array us, by rw [strict, hus]; rfl⟩

theorem held_ofMembers (hnames : (members.map (·.1)).Nodup)
    (h : ∀ member ∈ members, Held member.2) : Held (.ofMembers members) := by
  have hread : ∀ m : Map, (∀ member ∈ members, m.containsKey member.1 = false) →
      ∃ us, strictMembers m us =
        some (members.foldl (fun m member => m.insert member.1 member.2) m) := by
    induction members with
    | nil => exact fun m _ => ⟨[], rfl⟩
    | cons member members ih =>
      intro m hm
      obtain ⟨⟨u, hu⟩, hmembers⟩ := List.forall_mem_cons.mp h
      obtain ⟨hnew, hfresh⟩ := List.forall_mem_cons.mp hm
      obtain ⟨hname, hnames⟩ := List.nodup_cons.mp hnames
      obtain ⟨us, hus⟩ := ih hnames hmembers (m.insert member.1 member.2) fun other hother => by
        rw [Map.containsKey_insert, hfresh other hother, Bool.or_false, decide_eq_false_iff_not]
        exact fun heq => hname (List.mem_map.mpr ⟨other, hother, heq⟩)
      exact ⟨(member.1, u) :: us, by rw [strictMembers, hnew, hu]; exact hus⟩
  obtain ⟨us, hus⟩ := hread [] fun _ _ => rfl
  exact ⟨.object us, by rw [strict, hus]; rfl⟩

/-- A value that is read back: the gateway can hold it, and its numbers pass the test. -/
structure Readable (exact : Number → Bool) (v : Value) : Prop where
  held : Held v
  numbers : numbers exact v = true

theorem readable_string (exact : Number → Bool) (s : String) : Readable exact (.string s) :=
  ⟨⟨.string s, rfl⟩, rfl⟩

theorem readable_array (h : ∀ v ∈ vs, Readable q v) : Readable q (.array vs) :=
  ⟨held_array fun v hv => (h v hv).held, scalars_array.mpr fun v hv => (h v hv).numbers⟩

theorem readable_ofMembers (hnames : (members.map (·.1)).Nodup)
    (h : ∀ member ∈ members, Readable q member.2) : Readable q (.ofMembers members) :=
  ⟨held_ofMembers hnames fun member hmember => (h member hmember).held,
    scalars_object.mpr fun member hmember => (h member (Map.mem_ofList hmember)).numbers⟩

/-! ### The laws of the reader and the writer -/

/-- The arrays and objects that the reader descends into. -/
def maxDepth : ℕ := 127

namespace SerdeJson

/-- What the gateway relies on. `exact` are the numbers that are read back as they were written. -/
structure Lawful (serde : SerdeJson) (exact : Number → Bool) : Prop where
  write_total : ∀ v, ∃ text, serde.write v = some text
  read_write : ∀ v text, serde.write v = some text → Readable exact v → depth v ≤ maxDepth →
    ∃ u, serde.read text.toUTF8.data.toList = some u ∧ strict u = some v
  read_deep : ∀ v text, serde.write v = some text → Held v → maxDepth < depth v →
    serde.read text.toUTF8.data.toList = none
  read_trim : ∀ text, serde.read (trimJson text).toUTF8.data.toList =
    serde.read text.toUTF8.data.toList
  isJson_of_read : ∀ text v, serde.read text.toUTF8.data.toList = some v → serde.isJson text = true
  isJson_write : ∀ v text, serde.write v = some text → serde.isJson text = true
  trim_write : ∀ v text, serde.write v = some text → trimJson text = text

variable {serde : SerdeJson} {exact : Number → Bool} {text : String}

theorem fromStr_of_strict (hread : serde.read text.toUTF8.data.toList = some v)
    (h : strict v = some w) : serde.fromStr text = some w ∧ serde.isDuplicateFree text = true := by
  rw [fromStr, isDuplicateFree, hread]
  exact ⟨congrArg some (strict_reading h).lastWins, (strict_reading h).duplicateFree⟩

theorem Lawful.fromStr_write (h : serde.Lawful exact) (hwrite : serde.write v = some text)
    (hreadable : Readable exact v) (hdepth : depth v ≤ maxDepth) :
    serde.fromStr text = some v ∧ serde.isDuplicateFree text = true := by
  obtain ⟨u, hread, hstrict⟩ := h.read_write v text hwrite hreadable hdepth
  exact fromStr_of_strict hread hstrict

theorem Lawful.parseStrictJson_some (h : serde.Lawful exact) {maximumBytes : ℕ}
    (hparse : serde.parseStrictJson text.toUTF8.data.toList maximumBytes = some v) :
    serde.fromStr text = some v ∧ serde.isDuplicateFree text = true ∧ serde.isJson text = true ∧
      Held v := by
  rw [parseStrictJson] at hparse
  split at hparse
  · cases hparse
  · obtain ⟨u, hread, hstrict⟩ := Option.bind_eq_some_iff.mp hparse
    obtain ⟨hvalue, hfree⟩ := fromStr_of_strict hread hstrict
    exact ⟨hvalue, hfree, h.isJson_of_read text u hread, u, hstrict⟩

end SerdeJson

/-! ### A library that keeps the laws -/

instance countableUInt64 : Countable UInt64 := Function.Injective.countable fun _ _ =>
      UInt64.toNat.inj

instance countableInt64 : Countable Int64 := Function.Injective.countable fun _ _ => Int64.toInt.inj

deriving instance Countable for Number

instance countableString : Countable String :=
  have : Countable Char := Function.Injective.countable fun _ _ => Char.toNat_inj.mp
  Function.Injective.countable fun _ _ h => String.toList_injective h

theorem countable_depth_le (n : ℕ) : {v | depth v ≤ n}.Countable := by
  induction n with
  | zero =>
    let leaf : Option (Bool ⊕ Number ⊕ String) → Value
      | none => .null
      | some (.inl b) => .bool b
      | some (.inr (.inl n)) => .number n
      | some (.inr (.inr s)) => .string s
    refine (Set.countable_range leaf).mono fun v hv => ?_
    cases v with
    | null => exact ⟨none, rfl⟩
    | bool b => exact ⟨some (.inl b), rfl⟩
    | number n => exact ⟨some (.inr (.inl n)), rfl⟩
    | string s => exact ⟨some (.inr (.inr s)), rfl⟩
    | array vs | object members => simp [depth] at hv
  | succ n ih =>
    have := ih.to_subtype
    let array (vs : List {v | depth v ≤ n}) : Value := .array (vs.map (↑))
    let object (members : List (String × {v | depth v ≤ n})) : Value :=
      .object (members.map fun member => (member.1, member.2))
    refine ((ih.union (Set.countable_range array)).union (Set.countable_range object)).mono
      fun v hv => ?_
    cases v with
    | array vs =>
      lift vs to List {v | depth v ≤ n} using depth_array_le.mp hv
      exact .inl (.inr ⟨vs, rfl⟩)
    | object members =>
      refine .inr
        ⟨members.pmap (fun member h => (member.1, ⟨member.2, h⟩)) (depth_object_le.mp hv), ?_⟩
      simp [object, List.map_pmap]
    | _ => exact .inl (.inl (Nat.zero_le n))

instance : Countable Value :=
  Set.countable_univ_iff.mp ((Set.countable_iUnion countable_depth_le).mono fun v _ =>
    Set.mem_iUnion.mpr ⟨depth v, Nat.le_refl (depth v)⟩)

theorem trimJson_trimJson (text : String) : trimJson (trimJson text) = trimJson text := by
  have hfront : (trimJson text).toList.dropWhile isJsonSpace = (trimJson text).toList := by
    rw [List.dropWhile_eq_self_iff]
    intro hl
    have hbegins : (trimJson text).toList <+: text.toList.dropWhile isJsonSpace := by
      rw [trimJson, String.toList_ofList]
      exact List.rdropWhile_prefix isJsonSpace _
    rw [hbegins.getElem hl]
    exact List.dropWhile_get_zero_not isJsonSpace _ _
  rw [trimJson, hfront, trimJson, String.toList_ofList]
  exact congrArg String.ofList (List.rdropWhile_idempotent isJsonSpace _)

section Texts

open Classical

/-- A JSON text, the value that is written so, if there is one, and what is read of the text. -/
structure Entry where
  text : String
  value : Option Value
  read : Option Value

/-- The value of the entry is read back, unless it nests too deep or holds other numbers than the
`exact` ones. -/
def Entry.Sound (exact : Number → Bool) (e : Entry) : Prop :=
  ∀ w, e.value = some w →
    (Readable exact w → depth w ≤ maxDepth → ∃ u, e.read = some u ∧ strict u = some w) ∧
    (maxDepth < depth w → e.read = none)

variable {exact : Number → Bool} {text : String}

/-- The entry of a value that is read back. -/
def Entry.faithful (text : String) (v : Value) : Entry := ⟨text, some v, some v⟩

theorem sound_faithful (hstrict : strict v = some v) (hdepth : depth v ≤ maxDepth) :
    (Entry.faithful text v).Sound exact := by
  rintro _ ⟨⟩
  exact ⟨fun _ _ => ⟨v, rfl, hstrict⟩, fun hdeep => absurd hdepth (Nat.not_le.mpr hdeep)⟩

theorem sound_deep (hdeep : maxDepth < depth v) : Entry.Sound exact ⟨text, some v, none⟩ := by
  rintro _ ⟨⟩
  exact ⟨fun _ hdepth => absurd hdepth (Nat.not_le.mpr hdeep), fun _ => rfl⟩

theorem sound_inexact (hnumbers : numbers exact v = false) (hdepth : depth v ≤ maxDepth)
    (read : Option Value) : Entry.Sound exact ⟨text, some v, read⟩ := by
  rintro _ ⟨⟩
  refine ⟨fun hreadable => ?_, fun hdeep => absurd hdepth (Nat.not_le.mpr hdeep)⟩
  exact absurd hreadable.numbers (by simp [hnumbers])

/-- A text without white space around it, and none of those that stand for other values. -/
structure Plain (text : String) : Prop where
  trimmed : trimJson text = text
  begins : text.toList.head? ≠ some 'x'

/-- Entries that a library can be made of: no value stands twice, and the texts have
different lengths. -/
structure Consistent (exact : Number → Bool) (entries : List Entry) : Prop where
  plain : ∀ e ∈ entries, Plain e.text
  sizes : (entries.map (·.text.utf8ByteSize)).Nodup
  value_inj : ∀ e ∈ entries, ∀ e' ∈ entries, ∀ w, e.value = some w → e'.value = some w → e = e'
  sound : ∀ e ∈ entries, e.Sound exact

/-- A text for each value without an entry. -/
noncomputable def codeText (w : Value) : String :=
  .ofList (List.replicate ((exists_injective_nat Value).choose w + 1) 'x')

theorem codeText_injective : Function.Injective codeText := by
  intro a b h
  have hlength := congrArg (fun text => text.toList.length) h
  simp only [codeText, String.toList_ofList, List.length_replicate] at hlength
  exact (exists_injective_nat Value).choose_spec (by omega)

@[simp] theorem trimJson_codeText : trimJson (codeText w) = codeText w := by
  rw [trimJson, codeText, String.toList_ofList]
  simp [isJsonSpace]

/-- Some value with the property. -/
noncomputable def pick (P : Value → Prop) : Option Value :=
  if h : ∃ u, P u then some h.choose else none

/-- The text is that of the strict reading of `u`, which is not too deep. -/
def IsCodeOf (text : String) (u : Value) : Prop :=
  ∃ w, strict u = some w ∧ depth w ≤ maxDepth ∧ trimJson text = codeText w

/-- The library that reads and writes as the entries say, and any other value by its code. -/
noncomputable def SerdeJson.ofEntries (entries : List Entry) : SerdeJson where
  read bytes :=
    if h : ∃ e ∈ entries, ∃ text, text.toUTF8.data.toList = bytes ∧ e.text = trimJson text then
      h.choose.read
    else pick fun u => ∃ text, text.toUTF8.data.toList = bytes ∧ IsCodeOf text u
  write w := some (if h : ∃ e ∈ entries, e.value = some w then h.choose.text else codeText w)
  isJson text := decide ((∃ e ∈ entries, e.text = trimJson text) ∨ ∃ w, trimJson text = codeText w)

namespace Consistent

open SerdeJson

variable {entries : List Entry} {e : Entry} {u : Value}

theorem read_entry (h : Consistent exact entries) (he : e ∈ entries)
    (htext : e.text = trimJson text) :
    (ofEntries entries).read text.toUTF8.data.toList = e.read := by
  have hex : ∃ e ∈ entries, ∃ text', text'.toUTF8.data.toList = text.toUTF8.data.toList ∧
      e.text = trimJson text' := ⟨e, he, text, rfl, htext⟩
  obtain ⟨hmem, text', hbytes, htext'⟩ := hex.choose_spec
  rw [toUTF8_toList_inj.mp hbytes] at htext'
  exact (dif_pos hex).trans
    (by rw [List.inj_on_of_nodup_map h.sizes hmem he (by rw [htext', htext])])

theorem write_entry (h : Consistent exact entries) (he : e ∈ entries) (hvalue : e.value = some w) :
    (ofEntries entries).write w = some e.text := by
  have hex : ∃ e ∈ entries, e.value = some w := ⟨e, he, hvalue⟩
  obtain ⟨hmem, hvalue'⟩ := hex.choose_spec
  exact congrArg some ((dif_pos hex).trans (by rw [h.value_inj _ hmem e he w hvalue' hvalue]))

theorem write_cases (h : Consistent exact entries)
    (hwrite : (ofEntries entries).write w = some text) :
    (∃ e ∈ entries, e.value = some w ∧ text = e.text) ∨ text = codeText w := by
  by_cases hex : ∃ e ∈ entries, e.value = some w
  · obtain ⟨e, he, hvalue⟩ := hex
    exact .inl ⟨e, he, hvalue, Option.some.inj (hwrite.symm.trans (h.write_entry he hvalue))⟩
  · exact .inr (Option.some.inj (hwrite.symm.trans (congrArg some (dif_neg hex))))

theorem not_code (h : Consistent exact entries) (he : e ∈ entries) : e.text ≠ codeText w := by
  intro htext
  refine (h.plain e he).begins ?_
  rw [htext, codeText, String.toList_ofList]
  rfl

theorem read_other (hnone : ∀ e ∈ entries, e.text ≠ trimJson text) :
    (ofEntries entries).read text.toUTF8.data.toList = pick (IsCodeOf text) := by
  refine (dif_neg ?_).trans ?_
  · rintro ⟨e, he, text', hbytes, htext⟩
    rw [toUTF8_toList_inj.mp hbytes] at htext
    exact hnone e he htext
  · simp only [toUTF8_toList_inj, exists_eq_left]

theorem isCodeOf_of_pick (hpick : pick (IsCodeOf text) = some u) : IsCodeOf text u := by
  simp only [pick, Option.dite_none_right_eq_some, Option.some.injEq] at hpick
  obtain ⟨hex, rfl⟩ := hpick
  exact hex.choose_spec

theorem read_code (h : Consistent exact entries) :
    (ofEntries entries).read (codeText w).toUTF8.data.toList = pick (IsCodeOf (codeText w)) :=
  read_other fun _ he htext => h.not_code he (htext.trans trimJson_codeText)

theorem lawful (h : Consistent exact entries) : (ofEntries entries).Lawful exact where
  write_total w := ⟨_, rfl⟩
  read_write w text hwrite hreadable hdepth := by
    rcases h.write_cases hwrite with ⟨e, he, hvalue, rfl⟩ | rfl
    · rw [h.read_entry he (h.plain e he).trimmed.symm]
      exact (h.sound e he w hvalue).1 hreadable hdepth
    · obtain ⟨u, hu⟩ := hreadable.held
      have hex : ∃ u, IsCodeOf (codeText w) u := ⟨u, w, hu, hdepth, trimJson_codeText⟩
      obtain ⟨w', hw', -, htext⟩ := hex.choose_spec
      obtain rfl := codeText_injective (trimJson_codeText.symm.trans htext)
      exact ⟨_, h.read_code.trans (dif_pos hex), hw'⟩
  read_deep w text hwrite _ hdepth := by
    rcases h.write_cases hwrite with ⟨e, he, hvalue, rfl⟩ | rfl
    · rw [h.read_entry he (h.plain e he).trimmed.symm, (h.sound e he w hvalue).2 hdepth]
    · rw [h.read_code]
      refine Option.eq_none_iff_forall_not_mem.mpr fun u hread => ?_
      obtain ⟨w', -, hshallow, htext⟩ := isCodeOf_of_pick hread
      obtain rfl := codeText_injective (trimJson_codeText.symm.trans htext)
      exact Nat.not_le.mpr hdepth hshallow
  read_trim text := by
    have hcode : IsCodeOf (trimJson text) = IsCodeOf text :=
      funext fun u => by rw [IsCodeOf, trimJson_trimJson]; rfl
    by_cases hex : ∃ e ∈ entries, e.text = trimJson text
    · obtain ⟨e, he, htext⟩ := hex
      rw [h.read_entry he (htext.trans (trimJson_trimJson text).symm), h.read_entry he htext]
    · have hnone := fun e he htext => hex ⟨e, he, htext⟩
      rw [read_other (by rwa [trimJson_trimJson]), read_other hnone, hcode]
  isJson_of_read text u hread := by
    refine decide_eq_true ?_
    by_cases hex : ∃ e ∈ entries, e.text = trimJson text
    · exact .inl hex
    · rw [read_other fun e he htext => hex ⟨e, he, htext⟩] at hread
      obtain ⟨w, -, -, htext⟩ := isCodeOf_of_pick hread
      exact .inr ⟨w, htext⟩
  isJson_write w text hwrite := by
    refine decide_eq_true ?_
    rcases h.write_cases hwrite with ⟨e, he, -, rfl⟩ | rfl
    · exact .inl ⟨e, he, (h.plain e he).trimmed.symm⟩
    · exact .inr ⟨w, trimJson_codeText⟩
  trim_write w text hwrite := by
    rcases h.write_cases hwrite with ⟨e, he, -, rfl⟩ | rfl
    · exact (h.plain e he).trimmed
    · exact trimJson_codeText

end Consistent

end Texts

end CpaGateway.Core.Json
