import CpaGateway.Core.Events
import Mathlib.Data.List.Induction

/-! # JSON values

The value tree of `serde_json` and the two ways the gateway reads one. `strict` is the visitor that
refuses a repeated member name; `lastWins` is the visitor of `Value` itself, which keeps the last
of the repeated members. The reader and the writer of JSON texts are not part of this repository:
`SerdeJson` is what the gateway asks of them. -/

namespace CpaGateway.Core.Json

open Core.Events

/-- A JSON number: an unsigned or a negative 64-bit integer, or the bits of a double. -/
inductive Number
  | posInt (n : UInt64)
  | negInt (n : Int64)
  | float (bits : UInt64)
  deriving DecidableEq

/-- A JSON value. A reader lists the members of an object as they stand in the text, a `Map` has
each name once and lists them by name. -/
inductive Value
  | null
  | bool (b : Bool)
  | number (n : Number)
  | string (s : String)
  | array (vs : List Value)
  | object (members : List (String × Value))

/-- The members of an object, by name. -/
abbrev Map := List (String × Value)

namespace Map

def get (m : Map) (name : String) : Option Value :=
  (m.find? fun member => member.1 = name).map (·.2)

def containsKey (m : Map) (name : String) : Bool := m.any fun member => member.1 = name

def insert (m : Map) (name : String) (value : Value) : Map :=
  match m with
  | [] => [(name, value)]
  | member :: rest =>
    match compare name member.1 with
    | .lt => (name, value) :: member :: rest
    | .eq => (name, value) :: rest
    | .gt => member :: insert rest name value

@[simp] theorem insert_nil (name : String) (value : Value) :
    Map.insert [] name value = [(name, value)] := rfl

@[simp] theorem insert_cons_lt {name key : String} (h : compare name key = .lt) (old value : Value)
    (rest : Map) :
    Map.insert ((key, old) :: rest) name value = (name, value) :: (key, old) :: rest := by
  rw [insert, h]

@[simp] theorem insert_cons_gt {name key : String} (h : compare name key = .gt) (old value : Value)
    (rest : Map) :
    Map.insert ((key, old) :: rest) name value = (key, old) :: Map.insert rest name value := by
  rw [insert, h]

@[simp] theorem insert_cons_self (name : String) (old value : Value) (rest : Map) :
    Map.insert ((name, old) :: rest) name value = (name, value) :: rest := by
  rw [insert, Std.ReflOrd.compare_self]

@[simp] theorem get_nil (name : String) : Map.get [] name = none := rfl

theorem get_insert (m : Map) (name other : String) (value : Value) :
    (m.insert name value).get other = if name = other then some value else m.get other := by
  induction m with
  | nil => by_cases h : name = other <;> simp [get, h]
  | cons member rest ih =>
    simp only [insert]
    rcases hcmp : compare name member.1 with _ | _ | _
    · by_cases h : name = other <;> simp [get, h]
    · obtain rfl := Std.LawfulEqOrd.eq_of_compare hcmp
      by_cases h : member.1 = other <;> simp [get, h]
    · have hne : name ≠ member.1 := by
        rintro rfl
        simp at hcmp
      by_cases h : member.1 = other
      · have hn : name ≠ other := h ▸ hne
        simp [get, h, hn]
      · simp only [get, List.find?_cons, h] at ih ⊢
        exact ih

end Map

namespace Value

def isNull : Value → Bool
  | null => true
  | _ => false

def asStr : Value → Option String
  | string s => some s
  | _ => none

def asBool : Value → Option Bool
  | bool b => some b
  | _ => none

def asU64 : Value → Option UInt64
  | number (.posInt n) => some n
  | _ => none

def asArray : Value → Option (List Value)
  | array vs => some vs
  | _ => none

def asObject : Value → Option Map
  | object m => some m
  | _ => none

def isObject : Value → Bool
  | object _ => true
  | _ => false

/-- An unsigned number. -/
def ofU64 (n : UInt64) : Value := number (.posInt n)

/-- A position in a list. -/
def ofIndex (n : ℕ) : Value := ofU64 (.ofNat n)

def ofOption (text : Option String) : Value :=
  match text with
  | some text => string text
  | none => null

/-- The object with these members; a later one of the same name replaces an earlier one. -/
def ofMembers (members : List (String × Value)) : Value :=
  object (members.foldl (fun m member => Map.insert m member.1 member.2) [])

/-- The member of an object called `name`. -/
def get (v : Value) (name : String) : Option Value := v.asObject.bind fun m => m.get name

/-- A text member of an object. -/
def getStr (v : Value) (name : String) : Option String := (v.get name).bind asStr

theorem get_ofMembers (members : List (String × Value)) (name : String) :
    (ofMembers members).get name =
      (members.reverse.find? fun member => member.1 = name).map (·.2) := by
  change Map.get (members.foldl (fun m member => Map.insert m member.1 member.2) []) name = _
  induction members using List.reverseRecOn with
  | nil => rfl
  | append_singleton members member ih =>
    rw [List.foldl_append, List.foldl_cons, List.foldl_nil, Map.get_insert, ih, List.reverse_append,
      List.reverse_singleton, List.singleton_append]
    by_cases h : member.1 = name <;> simp [h]

end Value

/-- The double with these bits is neither infinite nor not a number. -/
def isFinite (bits : UInt64) : Bool := (bits >>> 52) &&& 0x7ff ≠ 0x7ff

mutual

/-- The value read with repeated member names refused. -/
def strict : Value → Option Value
  | .array vs => (strictElements vs).map .array
  | .object members => (strictMembers [] members).map .object
  | .number (.float bits) => if isFinite bits then some (.number (.float bits)) else none
  | leaf => some leaf

def strictElements : List Value → Option (List Value)
  | [] => some []
  | v :: vs => do
    let v ← strict v
    let vs ← strictElements vs
    return v :: vs

def strictMembers (m : Map) : List (String × Value) → Option Map
  | [] => some m
  | (name, v) :: members =>
    if m.containsKey name then none
    else do
      let v ← strict v
      strictMembers (m.insert name v) members

end

mutual

/-- The value read with the last of the repeated members kept. -/
def lastWins : Value → Value
  | .array vs => .array (lastWinsElements vs)
  | .object members => .object (lastWinsMembers [] members)
  | leaf => leaf

def lastWinsElements : List Value → List Value
  | [] => []
  | v :: vs => lastWins v :: lastWinsElements vs

def lastWinsMembers (m : Map) : List (String × Value) → Map
  | [] => m
  | (name, v) :: members => lastWinsMembers (m.insert name (lastWins v)) members

end

mutual

def duplicateFree : Value → Bool
  | .array vs => duplicateFreeElements vs
  | .object members => duplicateFreeMembers [] members
  | _ => true

def duplicateFreeElements : List Value → Bool
  | [] => true
  | v :: vs => duplicateFree v && duplicateFreeElements vs

def duplicateFreeMembers (seen : List String) : List (String × Value) → Bool
  | [] => true
  | (name, v) :: members =>
    !seen.contains name && duplicateFree v && duplicateFreeMembers (name :: seen) members

end

/-! ### Reading and writing texts -/

/-- The JSON reader and writer. `read` gives the value a text holds with its members as written,
`write` the text of a value, and `isJson` says whether a text is one JSON value with optional white
space around it. -/
structure SerdeJson where
  read : List UInt8 → Option Value
  write : Value → Option String
  isJson : String → Bool

def isJsonSpace (c : Char) : Bool := c = ' ' || c = '\t' || c = '\n' || c = '\r'

/-- The text without the white space around it. -/
def trimJson (text : String) : String :=
  .ofList ((text.toList.dropWhile isJsonSpace).reverse.dropWhile isJsonSpace).reverse

namespace SerdeJson

variable (serde : SerdeJson)

def fromStr (text : String) : Option Value := (serde.read text.toUTF8.data.toList).map lastWins

/-- The text is a value in which no object repeats a member name. -/
def isDuplicateFree (text : String) : Bool :=
  (serde.read text.toUTF8.data.toList).any duplicateFree

/-- A raw JSON text, without the white space around it. -/
def fromJsonString (text : String) : Option RawJson :=
  if serde.isJson text then some ⟨trimJson text⟩ else none

/-- The reader that knows the texts of a table. -/
def ofTable (table : List (String × Value)) : SerdeJson where
  read bytes := (table.find? fun entry => entry.1.toUTF8.data.toList = bytes).map (·.2)
  write _ := none
  isJson text := table.any fun entry => entry.1 = trimJson text

theorem toUTF8_toList_inj {a b : String} : a.toUTF8.data.toList = b.toUTF8.data.toList ↔ a = b := by
  constructor
  · intro h
    exact String.toByteArray_inj.mp (ByteArray.ext (Array.toList_inj.mp h))
  · rintro rfl
    rfl

theorem fromStr_ofTable_eq_none {table : List (String × Value)} {text : String}
    (h : ∀ entry ∈ table, entry.1 ≠ text) : (ofTable table).fromStr text = none := by
  simp only [fromStr, ofTable, Option.map_eq_none_iff, List.find?_eq_none, decide_eq_true_eq]
  intro entry hentry heq
  exact h entry hentry (toUTF8_toList_inj.mp heq)

end SerdeJson

end CpaGateway.Core.Json
