import Wireframe.Number

/-! # Document values

A `Value` is what a JSON text denotes: the members of an object keep their order. `Members` is the
ordered table of an object, with a key at most once when it is built by `Members.put`.
-/

namespace Wireframe

inductive Value where
  | null
  | bool (b : Bool)
  | number (n : Number)
  | string (s : String)
  | list (items : List Value)
  | object (members : List (String × Value))

abbrev Members := List (String × Value)

namespace Members

def value? (members : Members) (key : String) : Option Value :=
  (members.find? fun entry => entry.1 == key).map Prod.snd

/-- The value of a key, or null where the key is absent. -/
def value (members : Members) (key : String) : Value := (members.value? key).getD .null

def has (members : Members) (key : String) : Bool := (members.value? key).isSome

/-- Sets a key: a new key goes to the end, a present one keeps its place. -/
def put (members : Members) (key : String) (value : Value) : Members :=
  match members with
  | [] => [(key, value)]
  | (k, v) :: rest => if k == key then (k, value) :: rest else (k, v) :: put rest key value

/-- The table of a sequence of entries: the last entry of a key gives its value. -/
def ofEntries (entries : List (String × Value)) : Members :=
  entries.foldl (fun members entry => members.put entry.1 entry.2) []

@[simp] theorem value?_nil (key : String) : value? [] key = none := rfl

theorem value?_cons (k key : String) (v : Value) (rest : Members) :
    value? ((k, v) :: rest) key = if k = key then some v else value? rest key := by
  by_cases h : k = key <;> simp [value?, h]

theorem mem_put {members : Members} {key : String} {value : Value} {entry : String × Value}
    (h : entry ∈ members.put key value) :
    entry ∈ members ∨ entry = (key, value) := by
  induction members with
  | nil => exact .inr (List.mem_singleton.mp h)
  | cons first rest ih =>
      obtain ⟨k, v⟩ := first
      unfold put at h
      split at h
      · next hk =>
        rw [beq_iff_eq] at hk
        rcases List.mem_cons.mp h with rfl | h
        · exact .inr (by rw [hk])
        · exact .inl (List.mem_cons_of_mem _ h)
      · rcases List.mem_cons.mp h with rfl | h
        · exact .inl List.mem_cons_self
        · exact (ih h).imp (List.mem_cons_of_mem _) id

/-- A key that was set has the value it was set to; the other keys keep theirs. -/
theorem value?_put (members : Members) (key key' : String) (value : Value) :
    value? (members.put key value) key' =
      if key = key' then some value else value? members key' := by
  induction members with
  | nil => simp [put, value?_cons]
  | cons entry rest ih =>
      obtain ⟨k, v⟩ := entry
      by_cases hk : k = key
      · subst hk
        by_cases hk' : k = key' <;> simp [put, value?_cons, hk']
      · by_cases hk' : k = key'
        · subst hk'
          simp [put, value?_cons, hk, Ne.symm hk]
        · simp [put, value?_cons, hk, hk', ih]

theorem value?_filter (keeps : String → Bool) (members : Members) (key : String) :
    value? (members.filter fun entry => keeps entry.1) key =
      if keeps key then value? members key else none := by
  induction members with
  | nil => simp
  | cons entry rest ih =>
      rw [List.filter_cons]
      by_cases h : entry.1 = key
      · subst h
        split
        · rw [value?_cons, if_pos rfl, value?_cons, if_pos rfl]
        · next hkeeps => rw [ih, if_neg hkeeps]
      · rw [value?_cons, if_neg h, ← ih]
        split
        · rw [value?_cons, if_neg h]
        · rfl

end Members

namespace Value

instance : Inhabited Value := ⟨.null⟩

def isNull : Value → Bool
  | .null => true
  | _ => false

def int (n : Int) : Value := .number (.int n)

def string? : Value → Option String
  | .string s => some s
  | _ => none

def is (v : Value) (s : String) : Bool :=
  match v with
  | .string t => t == s
  | _ => false

/-- Whether the value counts as true where one is asked for: null, false, zero and whatever is
empty do not. -/
def truthy : Value → Bool
  | .null => false
  | .bool b => b
  | .number n => !n.isZero
  | .string s => s != ""
  | .list items => !items.isEmpty
  | .object members => !members.isEmpty

/-- Whether a producer supplied the value: null and the empty string are as good as absent. -/
def isSupplied : Value → Bool
  | .null => false
  | .string s => s != ""
  | _ => true

def isKey : Value → Bool
  | .list _ => false
  | .object _ => false
  | _ => true

def numeric? : Value → Option Number
  | .bool b => some (.int (if b then 1 else 0))
  | .number n => some n
  | _ => none

/-- Equality of two keys: numbers and booleans by value, strings by their characters. There is one
not-a-number, and as a key it is itself. -/
def sameKey (a b : Value) : Bool :=
  match a, b with
  | .null, .null => true
  | .string s, .string t => s == t
  | a, b =>
      match a.numeric?, b.numeric? with
      | some m, some n => m.same n || (m.isNaN && n.isNaN)
      | _, _ => false

mutual

def allIntegers (test : Int → Bool) : Value → Bool
  | .number (.int n) => test n
  | .list items => allIntegersIn test items
  | .object members => allIntegersAmong test members
  | _ => true

def allIntegersIn (test : Int → Bool) : List Value → Bool
  | [] => true
  | item :: items => allIntegers test item && allIntegersIn test items

def allIntegersAmong (test : Int → Bool) : List (String × Value) → Bool
  | [] => true
  | (_, value) :: entries => allIntegers test value && allIntegersAmong test entries

end

theorem allIntegersIn_eq_all (test : Int → Bool) (items : List Value) :
    allIntegersIn test items = items.all (allIntegers test) := by
  induction items with
  | nil => rfl
  | cons item items ih => rw [allIntegersIn, ih, List.all_cons]

theorem allIntegersAmong_eq_all (test : Int → Bool) (members : Members) :
    allIntegersAmong test members = members.all fun entry => allIntegers test entry.2 := by
  induction members with
  | nil => rfl
  | cons entry members ih => rw [allIntegersAmong, ih, List.all_cons]

end Value

end Wireframe
