/-
**JSON values as Python sees them.**

A parsed document: integers are exact, a finite floating point number is its exact binary value,
and an object is a list of members in insertion order. Python compares numbers by value, so that
`True`, `1` and `1.0` are equal, and objects without regard to the order of their members.

* `Json.eq`: Python's `==`; `Json.eq_refl` for values whose objects have each key once.
* `Json.truthy`: Python's truth value.
* `Object.get`, `Object.set`, `Object.erase`: reading and updating a `dict`.
* `Object.keySubset`, `Object.sameKeys`: comparisons of `set(mapping)` with a set of names.
-/

import Mathlib

namespace NewsCollect

/-- The floats that are not a fraction: what is not a number, the infinities, and minus zero. -/
inductive SpecialFloat where
  | nan
  | infinity
  | minusInfinity
  | minusZero
deriving DecidableEq, Repr, Inhabited

/-- A JSON value, as a parser gives it that accepts `NaN` and reads `1e999` as an infinity. A float
is its numerator over the power of two of its scale. -/
inductive Json where
  | null
  | bool (value : Bool)
  | int (value : Int)
  | float (numerator : Int) (scale : Nat)
  | special (value : SpecialFloat)
  | str (value : String)
  | arr (items : List Json)
  | obj (members : List (String × Json))
deriving Repr, Inhabited

/-- The members of a JSON object, in insertion order. -/
abbrev Object : Type := List (String × Json)

namespace Json

/-- The numeric value: Python's `bool` is an `int`. -/
def number : Json → Option (Int × Nat)
  | .bool value => some (if value then 1 else 0, 0)
  | .int value => some (value, 0)
  | .float numerator scale => some (numerator, scale)
  | .special .minusZero => some (0, 0)
  | _ => none

/-- Numbers are equal when they have the same value. -/
def sameNumber (left right : Option (Int × Nat)) : Bool :=
  match left, right with
  | some (m, i), some (n, j) => m * 2 ^ j == n * 2 ^ i
  | _, _ => false

mutual

/-- Python's `==`. -/
def eq : Json → Json → Bool
  | .null, .null => true
  | .str left, .str right => left == right
  | .arr left, .arr right => eqItems left right
  | .obj left, .obj right => left.length == right.length && eqMembers left right
  | .special left, .special right => left == right && left != .nan
  | left, right => sameNumber left.number right.number

/-- Lists are equal item by item. -/
def eqItems : List Json → List Json → Bool
  | [], [] => true
  | left :: lefts, right :: rights => eq left right && eqItems lefts rights
  | _, _ => false

/-- Every member has an equal value under its key. -/
def eqMembers : List (String × Json) → List (String × Json) → Bool
  | [], _ => true
  | (key, value) :: rest, other =>
      (match other.lookup key with
        | some found => eq value found
        | none => false) && eqMembers rest other

end

mutual

/-- Every object has each of its keys once, and no value is different from itself. -/
def wellFormed : Json → Bool
  | .special value => value != .nan
  | .arr items => wellFormedItems items
  | .obj members => wellFormedMembers members
  | _ => true

def wellFormedItems : List Json → Bool
  | [] => true
  | item :: items => wellFormed item && wellFormedItems items

def wellFormedMembers : List (String × Json) → Bool
  | [] => true
  | (key, value) :: rest =>
      (rest.lookup key).isNone && wellFormed value && wellFormedMembers rest

end

mutual

/-- The same value, down to the order of the members. -/
def same : Json → Json → Bool
  | .null, .null => true
  | .bool left, .bool right => left == right
  | .int left, .int right => left == right
  | .float left scale, .float right other => left == right && scale == other
  | .special left, .special right => left == right
  | .str left, .str right => left == right
  | .arr left, .arr right => sameItems left right
  | .obj left, .obj right => sameMembers left right
  | _, _ => false

def sameItems : List Json → List Json → Bool
  | [], [] => true
  | left :: lefts, right :: rights => same left right && sameItems lefts rights
  | _, _ => false

def sameMembers : List (String × Json) → List (String × Json) → Bool
  | [], [] => true
  | (key, left) :: lefts, (other, right) :: rights =>
      key == other && same left right && sameMembers lefts rights
  | _, _ => false

end

mutual

theorem same_iff : ∀ left right : Json, same left right = true ↔ left = right
  | .null, right => by cases right <;> simp [same]
  | .bool _, right => by cases right <;> simp [same]
  | .int _, right => by cases right <;> simp [same]
  | .float _ _, right => by cases right <;> simp [same]
  | .special _, right => by cases right <;> simp [same]
  | .str _, right => by cases right <;> simp [same]
  | .arr items, right => by cases right <;> simp [same, sameItems_iff items]
  | .obj members, right => by cases right <;> simp [same, sameMembers_iff members]

theorem sameItems_iff : ∀ left right : List Json, sameItems left right = true ↔ left = right
  | [], right => by cases right <;> simp [sameItems]
  | item :: items, right => by
      cases right <;> simp [sameItems, same_iff item, sameItems_iff items]

theorem sameMembers_iff : ∀ left right : List (String × Json),
    sameMembers left right = true ↔ left = right
  | [], right => by cases right <;> simp [sameMembers]
  | (key, value) :: members, right => by
      cases right with
      | nil => simp [sameMembers]
      | cons entry rest =>
          obtain ⟨other, held⟩ := entry
          simp [sameMembers, same_iff value, sameMembers_iff members]

end

instance : DecidableEq Json := fun left right => decidable_of_iff _ (same_iff left right)

/-- Python's truth value. -/
def truthy : Json → Bool
  | .null => false
  | .bool value => value
  | .int value => value != 0
  | .float numerator _ => numerator != 0
  | .special value => value != .minusZero
  | .str value => value != ""
  | .arr items => !items.isEmpty
  | .obj members => !members.isEmpty

/-- `isinstance(value, str)`. -/
def isStr : Json → Bool
  | .str _ => true
  | _ => false

/-- A string, if it is one. -/
def str? : Json → Option String
  | .str value => some value
  | _ => none

/-- An integer and no `bool`, if it is one (`type(value) is int`). -/
def int? : Json → Option Int
  | .int value => some value
  | _ => none

/-- A list, if it is one. -/
def arr? : Json → Option (List Json)
  | .arr items => some items
  | _ => none

/-- A mapping, if it is one. -/
def obj? : Json → Option Object
  | .obj members => some members
  | _ => none

@[simp] theorem eq_str_str (left right : String) : (str left).eq (str right) = (left == right) := rfl

@[simp] theorem eq_null_str (text : String) : null.eq (str text) = false := rfl

/-- Only a string is equal to a string. -/
@[simp] theorem eq_str {value : Json} {text : String} :
    value.eq (.str text) = true ↔ value = .str text := by
  cases value <;> simp [eq, number, sameNumber]

mutual

/-- **`==` is reflexive** on values whose objects have each key once. -/
theorem eq_refl : ∀ value : Json, value.wellFormed = true → eq value value = true
  | .null, _ => rfl
  | .bool _, _ => by simp [eq, number, sameNumber]
  | .int _, _ => by simp [eq, number, sameNumber]
  | .float _ _, _ => by simp [eq, number, sameNumber]
  | .special value, formed => by simpa [eq, wellFormed] using formed
  | .str _, _ => by simp [eq]
  | .arr items, formed => by
      rw [wellFormed] at formed
      rw [eq]
      exact eqItems_refl items formed
  | .obj members, formed => by
      rw [wellFormed] at formed
      rw [eq]
      simp only [beq_self_eq_true, Bool.true_and]
      refine eqMembers_refl members formed members fun key value member => ?_
      exact lookup_of_mem members formed key value member

theorem eqItems_refl : ∀ items : List Json, wellFormedItems items = true →
    eqItems items items = true
  | [], _ => rfl
  | item :: items, formed => by
      rw [wellFormedItems, Bool.and_eq_true] at formed
      rw [eqItems, eq_refl item formed.1, eqItems_refl items formed.2]
      rfl

theorem eqMembers_refl : ∀ members : List (String × Json), wellFormedMembers members = true →
    ∀ all : List (String × Json),
    (∀ key value, (key, value) ∈ members → all.lookup key = some value) →
    eqMembers members all = true
  | [], _, _, _ => rfl
  | (key, value) :: rest, formed, all, inside => by
      rw [wellFormedMembers, Bool.and_eq_true, Bool.and_eq_true] at formed
      rw [eqMembers, inside key value (List.mem_cons_self ..)]
      simp only [eq_refl value formed.1.2, Bool.true_and]
      exact eqMembers_refl rest formed.2 all fun other found member =>
        inside other found (List.mem_cons_of_mem _ member)

/-- The member a key leads to, in an object with each key once. -/
theorem lookup_of_mem : ∀ members : List (String × Json), wellFormedMembers members = true →
    ∀ key value, (key, value) ∈ members → members.lookup key = some value
  | [], _, _, _, member => by simp at member
  | (first, held) :: rest, formed, key, value, member => by
      rw [wellFormedMembers, Bool.and_eq_true, Bool.and_eq_true] at formed
      rcases List.mem_cons.1 member with same | later
      · obtain ⟨rfl, rfl⟩ := Prod.mk.inj same
        simp [List.lookup]
      · have found := lookup_of_mem rest formed.2 key value later
        by_cases same : key = first
        · subst same
          rw [found] at formed
          simp at formed
        · have different : (key == first) = false := by simpa using same
          simp only [List.lookup, different, found]

end

end Json

namespace Object

/-- `mapping.get(key)`: `None` when the key is missing. -/
def get (members : Object) (key : String) : Json := (members.lookup key).getD .null

/-- `mapping.get(key, default)`. -/
def getD (members : Object) (key : String) (default : Json) : Json :=
  (members.lookup key).getD default

/-- `key in mapping`. -/
def has (members : Object) (key : String) : Bool := (members.lookup key).isSome

/-- `mapping[key] = value`: an existing key keeps its place. -/
def set : Object → String → Json → Object
  | [], key, value => [(key, value)]
  | (first, held) :: rest, key, value =>
      if first = key then (first, value) :: rest else (first, held) :: set rest key value

/-- `{**mapping, **others}`. -/
def update (members : Object) (others : Object) : Object :=
  others.foldl (fun members entry => members.set entry.1 entry.2) members

/-- The members whose keys are not among these. -/
def without (members : Object) (names : List String) : Object :=
  members.filter fun entry => !names.contains entry.1

/-- `set(mapping) <= names`. -/
def keySubset (members : Object) (names : List String) : Bool :=
  members.all fun entry => names.contains entry.1

/-- `set(mapping) == names`. -/
def sameKeys (members : Object) (names : List String) : Bool :=
  members.keySubset names && names.all members.has

/-- `set(mapping) & names` is not empty. -/
def hasAny (members : Object) (names : List String) : Bool := names.any members.has

/-- The keys, in insertion order. -/
def keys (members : Object) : List String := members.map Prod.fst

/-! ### Reading after an assignment -/

section Assigning

attribute [local simp] set

@[simp] theorem lookup_set_same (members : Object) (key : String) (value : Json) :
    (members.set key value).lookup key = some value := by
  induction members with
  | nil => simp
  | cons entry rest ih =>
      obtain ⟨first, held⟩ := entry
      by_cases same : first = key
      · simp [same]
      · have different : (key == first) = false := by simpa using Ne.symm same
        simp [same, List.lookup, different, ih]

theorem lookup_set_ne {key other : String} (different : other ≠ key) (members : Object)
    (value : Json) : (members.set key value).lookup other = members.lookup other := by
  induction members with
  | nil =>
      have unequal : (other == key) = false := by simpa using different
      simp [List.lookup, unequal]
  | cons entry rest ih =>
      obtain ⟨first, held⟩ := entry
      by_cases same : first = key
      · subst same
        have unequal : (other == first) = false := by simpa using different
        simp [List.lookup, unequal]
      · simp only [set, same, if_false, List.lookup]
        split
        · rfl
        · exact ih

@[simp] theorem get_set_same (members : Object) (key : String) (value : Json) :
    (members.set key value).get key = value := by
  rw [get, lookup_set_same, Option.getD_some]

theorem get_set_ne {key other : String} (different : other ≠ key) (members : Object)
    (value : Json) : (members.set key value).get other = members.get other := by
  rw [get, get, lookup_set_ne different]

/-- Assigning the value a key already has changes nothing. -/
theorem set_self {members : Object} {key : String} {value : Json}
    (held : members.lookup key = some value) : members.set key value = members := by
  induction members with
  | nil => simp at held
  | cons entry rest ih =>
      obtain ⟨first, kept⟩ := entry
      by_cases same : first = key
      · subst same
        simp only [List.lookup, beq_self_eq_true, Option.some.injEq] at held
        simp [held]
      · have different : (key == first) = false := by simpa using Ne.symm same
        simp only [List.lookup, different] at held
        simp [same, ih held]

/-- Assigning to a key that is there keeps the keys. -/
theorem keys_set {members : Object} {key : String} (value : Json) (inside : key ∈ members.keys) :
    (members.set key value).keys = members.keys := by
  induction members with
  | nil => simp [keys] at inside
  | cons entry rest ih =>
      obtain ⟨first, held⟩ := entry
      by_cases same : first = key
      · simp [same, keys]
      · simp only [keys, List.map_cons, List.mem_cons] at inside ih ⊢
        have later : key ∈ rest.map Prod.fst := by
          rcases inside with here | later
          · exact absurd here.symm same
          · exact later
        simp [same, ih later]

/-- A new key is added at the end. -/
theorem set_of_not_mem {members : Object} {key : String} (value : Json)
    (outside : key ∉ members.keys) : members.set key value = members ++ [(key, value)] := by
  induction members with
  | nil => rfl
  | cons entry rest ih =>
      obtain ⟨first, held⟩ := entry
      simp only [keys, List.map_cons, List.mem_cons, not_or] at outside ih
      rw [set, if_neg (Ne.symm outside.1), ih outside.2, List.cons_append]

/-- A member after an assignment is the one that was assigned, or an old one. -/
theorem mem_set {members : Object} {key : String} {value : Json} {entry : String × Json}
    (member : entry ∈ members.set key value) : entry = (key, value) ∨ entry ∈ members := by
  induction members with
  | nil => exact .inl (by simpa using member)
  | cons first rest ih =>
      obtain ⟨name, held⟩ := first
      by_cases same : name = key
      · simp only [set, same, if_true, List.mem_cons] at member ⊢
        rcases member with here | later
        · exact .inl here
        · exact .inr (.inr later)
      · simp only [set, same, if_false, List.mem_cons] at member ⊢
        rcases member with here | later
        · exact .inr (.inl here)
        · exact (ih later).imp_right .inr

end Assigning

/-- What all values have, and nothing has, the value under a key has. -/
theorem get_of_forall {members : Object} (holds : Json → Prop) (missing : holds .null)
    (all : ∀ entry ∈ members, holds entry.2) (key : String) : holds (members.get key) := by
  induction members with
  | nil => exact missing
  | cons entry rest ih =>
      obtain ⟨first, held⟩ := entry
      have later := ih fun other member => all other (List.mem_cons_of_mem _ member)
      by_cases same : key = first
      · simpa [get, List.lookup, same] using all _ (List.mem_cons_self ..)
      · have different : (key == first) = false := by simpa using same
        simpa [get, List.lookup, different] using later

/-! ### Reading after a removal -/

/-- Nothing is removed where the names are no keys. -/
theorem without_of_not_mem {members : Object} {names : List String}
    (outside : ∀ key ∈ members.keys, key ∉ names) : members.without names = members := by
  refine List.filter_eq_self.2 fun entry member => ?_
  have missing := outside entry.1 (List.mem_map_of_mem member)
  simpa using missing

theorem not_mem_keys_without {members : Object} {names : List String} {key : String}
    (inside : key ∈ names) : key ∉ (members.without names).keys := by
  intro member
  obtain ⟨entry, held, rfl⟩ := List.mem_map.1 member
  have kept := (List.mem_filter.1 held).2
  simp [inside] at kept

/-- A key that has just been added is removed again. -/
theorem without_set {members : Object} {key : String} (value : Json)
    (outside : key ∉ members.keys) : (members.set key value).without [key] = members := by
  have same : members.without [key] = members := without_of_not_mem fun other member held =>
    outside (List.mem_singleton.1 held ▸ member)
  rw [set_of_not_mem value outside, without, List.filter_append, ← without, same]
  simp

theorem lookup_without {names : List String} {key : String} (outside : key ∉ names)
    (members : Object) : (members.without names).lookup key = members.lookup key := by
  induction members with
  | nil => rfl
  | cons entry rest ih =>
      obtain ⟨first, held⟩ := entry
      unfold without at ih ⊢
      by_cases removed : first ∈ names
      · have different : (key == first) = false := by
          simpa using fun same : key = first => outside (same ▸ removed)
        have dropped : names.contains first = true := by simpa using removed
        simp only [List.filter_cons, dropped, Bool.not_true, Bool.false_eq_true, if_false,
          List.lookup, different, ih]
      · have kept : names.contains first = false := by simpa using removed
        simp only [List.filter_cons, kept, Bool.not_false, if_true, List.lookup, ih]

theorem lookup_without_of_mem {names : List String} {key : String} (inside : key ∈ names)
    (members : Object) : (members.without names).lookup key = none := by
  rw [List.lookup_eq_none_iff]
  intro entry member
  have kept := List.of_mem_filter member
  simp only [List.contains_eq_mem, Bool.not_eq_true', decide_eq_false_iff_not] at kept
  simpa using fun same : key = entry.1 => kept (same ▸ inside)

/-! ### Objects that agree on some keys -/

/-- The two objects have the same value, or none, under each of these keys. -/
def Agree (names : List String) (members others : Object) : Prop :=
  ∀ key ∈ names, members.lookup key = others.lookup key

section Agree

variable {names : List String} {members others : Object} (same : Agree names members others)

include same

theorem Agree.get (key : String) (inside : key ∈ names) : members.get key = others.get key := by
  rw [Object.get, Object.get, same key inside]

theorem Agree.getD (key : String) (inside : key ∈ names) (default : Json) :
    members.getD key default = others.getD key default := by
  rw [Object.getD, Object.getD, same key inside]

theorem Agree.has (key : String) (inside : key ∈ names) : members.has key = others.has key := by
  rw [Object.has, Object.has, same key inside]

theorem Agree.hasAny (keys : List String) (inside : ∀ key ∈ keys, key ∈ names) :
    members.hasAny keys = others.hasAny keys := by
  rw [Object.hasAny, Object.hasAny, Bool.eq_iff_iff, List.any_eq_true, List.any_eq_true]
  refine exists_congr fun key => and_congr_right fun member => ?_
  rw [same.has key (inside key member)]

end Agree

/-! ### Objects with each key once -/

theorem has_iff {members : Object} {key : String} : members.has key = true ↔ key ∈ members.keys := by
  induction members with
  | nil => simp [has, keys]
  | cons entry rest ih =>
      obtain ⟨first, held⟩ := entry
      simp only [has, keys, List.map_cons, List.mem_cons, List.lookup] at ih ⊢
      by_cases same : key = first
      · simp [same]
      · have different : (key == first) = false := by simpa using same
        simp only [different, same, false_or]
        exact ih

theorem keySubset_iff {members : Object} {names : List String} :
    members.keySubset names = true ↔ ∀ key ∈ members.keys, key ∈ names := by
  simp [keySubset, keys, List.all_eq_true]

theorem keySubset_set {members : Object} {names : List String} {key : String} (value : Json)
    (inside : key ∈ names) (others : members.keySubset names = true) :
    (members.set key value).keySubset names = true := by
  induction members with
  | nil => simp [set, keySubset, inside]
  | cons entry rest ih =>
      obtain ⟨first, held⟩ := entry
      simp only [keySubset, List.all_cons, Bool.and_eq_true] at others ih ⊢
      by_cases same : first = key
      · simpa [set, same, inside] using others.2
      · simp only [set, same, if_false, List.all_cons, Bool.and_eq_true]
        exact ⟨others.1, ih others.2⟩

theorem sameKeys_iff {members : Object} {names : List String} :
    members.sameKeys names = true ↔ ∀ key, key ∈ members.keys ↔ key ∈ names := by
  simp only [sameKeys, Bool.and_eq_true, keySubset_iff, List.all_eq_true, has_iff]
  exact ⟨fun both key => ⟨both.1 key, both.2 key⟩, fun each =>
    ⟨fun key => (each key).1, fun key => (each key).2⟩⟩

/-- The member a key leads to. -/
theorem lookup_eq_some_iff {members : Object} (once : members.keys.Nodup) {key : String}
    {value : Json} : members.lookup key = some value ↔ (key, value) ∈ members := by
  induction members with
  | nil => simp
  | cons entry rest ih =>
      obtain ⟨first, held⟩ := entry
      simp only [keys, List.map_cons, List.nodup_cons] at once ih
      by_cases same : key = first
      · subst same
        have absent : (key, value) ∉ rest := fun member =>
          once.1 (List.mem_map.2 ⟨(key, value), member, rfl⟩)
        simp [List.lookup, absent, eq_comm]
      · have different : (key == first) = false := by simpa using same
        simp only [List.lookup, different, List.mem_cons, Prod.mk.injEq, same, false_and, false_or]
        exact ih once.2

theorem get_of_mem {members : Object} (once : members.keys.Nodup) {key : String} {value : Json}
    (member : (key, value) ∈ members) : members.get key = value := by
  rw [get, (lookup_eq_some_iff once).2 member, Option.getD_some]

/-- An object with exactly these keys is these keys with their values, in some order. -/
theorem perm_of_sameKeys {members : Object} (once : members.keys.Nodup) {names : List String}
    (distinct : names.Nodup) (same : members.sameKeys names = true) :
    members.Perm (names.map fun name => (name, members.get name)) := by
  have keysIff := sameKeys_iff.1 same
  have injective : Function.Injective fun name => (name, members.get name) :=
    fun _ _ equal => congrArg Prod.fst equal
  refine (List.perm_ext_iff_of_nodup (List.Nodup.of_map _ once) (distinct.map injective)).2 ?_
  rintro ⟨key, value⟩
  simp only [List.mem_map, Prod.mk.injEq]
  constructor
  · intro member
    have inside : key ∈ names := (keysIff key).1 (List.mem_map.2 ⟨(key, value), member, rfl⟩)
    exact ⟨key, inside, rfl, get_of_mem once member⟩
  · rintro ⟨name, inside, rfl, held⟩
    obtain ⟨⟨key, value'⟩, member, rfl⟩ := List.mem_map.1 ((keysIff name).2 inside)
    rw [get_of_mem once member] at held
    exact held ▸ member

theorem keys_perm {members others : Object} (same : members.Perm others) :
    members.keys.Perm others.keys :=
  same.map Prod.fst

/-- The order of the members does not matter to a reader. -/
theorem lookup_perm {members others : Object} (once : members.keys.Nodup)
    (same : members.Perm others) (key : String) : members.lookup key = others.lookup key := by
  have once' : others.keys.Nodup := (keys_perm same).nodup_iff.1 once
  refine Option.ext fun value => ?_
  rw [lookup_eq_some_iff once, lookup_eq_some_iff once', same.mem_iff]

theorem get_perm {members others : Object} (once : members.keys.Nodup)
    (same : members.Perm others) (key : String) : members.get key = others.get key := by
  rw [get, get, lookup_perm once same]

theorem getD_perm {members others : Object} (once : members.keys.Nodup)
    (same : members.Perm others) (key : String) (default : Json) :
    members.getD key default = others.getD key default := by
  rw [getD, getD, lookup_perm once same]

theorem has_perm {members others : Object} (once : members.keys.Nodup)
    (same : members.Perm others) (key : String) : members.has key = others.has key := by
  rw [has, has, lookup_perm once same]

theorem sameKeys_perm {members others : Object} (same : members.Perm others)
    (names : List String) : members.sameKeys names = others.sameKeys names := by
  have keysIff : ∀ key, key ∈ members.keys ↔ key ∈ others.keys := fun key =>
    (keys_perm same).mem_iff
  rw [Bool.eq_iff_iff, sameKeys_iff, sameKeys_iff]
  exact forall_congr' fun key => by rw [keysIff key]

theorem keySubset_perm {members others : Object} (same : members.Perm others)
    (names : List String) : members.keySubset names = others.keySubset names := by
  have keysIff : ∀ key, key ∈ members.keys ↔ key ∈ others.keys := fun key =>
    (keys_perm same).mem_iff
  rw [Bool.eq_iff_iff, keySubset_iff, keySubset_iff]
  exact forall_congr' fun key => by rw [keysIff key]

end Object

end NewsCollect
