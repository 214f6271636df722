import Mathlib.Algebra.Group.Int.Defs
import Mathlib.Algebra.Group.Nat.Defs
import Mathlib.Data.Rat.Defs
import Mathlib.Tactic.Common
/-!
# Python values

The values the library passes around: JSON payloads, workflow data and what
`ast.literal_eval` makes of a metadata string. A mapping with string keys is a
`Dict`, a list of pairs in insertion order. Times are microseconds since the
epoch in UTC.
-/
namespace M8flowCore

/-- Microseconds since the epoch, UTC. -/
abbrev Time := Int

/-- A Python value. Finite floats are kept as the rationals they denote. -/
inductive PyVal where
  | none
  | bool (b : Bool)
  | int (n : Int)
  | float (q : Rat)
  | complex (re im : Rat)
  | str (s : String)
  | bytes (bs : List UInt8)
  | ellipsis
  | tuple (xs : List PyVal)
  | list (xs : List PyVal)
  | set (xs : List PyVal)
  | dict (kvs : List (PyVal × PyVal))

namespace PyVal

mutual

/-- Structural equality. -/
def beq : PyVal → PyVal → Bool
  | .none, .none => true
  | .bool a, .bool b => a == b
  | .int a, .int b => a == b
  | .float a, .float b => a == b
  | .complex a b, .complex c d => a == c && b == d
  | .str a, .str b => a == b
  | .bytes a, .bytes b => a == b
  | .ellipsis, .ellipsis => true
  | .tuple a, .tuple b => beqList a b
  | .list a, .list b => beqList a b
  | .set a, .set b => beqList a b
  | .dict a, .dict b => beqPairs a b
  | _, _ => false

def beqList : List PyVal → List PyVal → Bool
  | [], [] => true
  | a :: as, b :: bs => beq a b && beqList as bs
  | _, _ => false

def beqPairs : List (PyVal × PyVal) → List (PyVal × PyVal) → Bool
  | [], [] => true
  | (k, v) :: as, (k', v') :: bs => beq k k' && beq v v' && beqPairs as bs
  | _, _ => false

end

mutual

theorem beq_iff : ∀ a b : PyVal, beq a b = true ↔ a = b
  | .none, b => by cases b <;> simp [beq]
  | .bool _, b => by cases b <;> simp [beq]
  | .int _, b => by cases b <;> simp [beq]
  | .float _, b => by cases b <;> simp [beq]
  | .complex _ _, b => by cases b <;> simp [beq]
  | .str _, b => by cases b <;> simp [beq]
  | .bytes _, b => by cases b <;> simp [beq]
  | .ellipsis, b => by cases b <;> simp [beq]
  | .tuple as, b => by cases b <;> simp [beq, beqList_iff as]
  | .list as, b => by cases b <;> simp [beq, beqList_iff as]
  | .set as, b => by cases b <;> simp [beq, beqList_iff as]
  | .dict as, b => by cases b <;> simp [beq, beqPairs_iff as]

theorem beqList_iff : ∀ as bs : List PyVal, beqList as bs = true ↔ as = bs
  | [], bs => by cases bs <;> simp [beqList]
  | a :: as, bs => by cases bs <;> simp [beqList, beq_iff a, beqList_iff as]

theorem beqPairs_iff : ∀ as bs : List (PyVal × PyVal), beqPairs as bs = true ↔ as = bs
  | [], bs => by cases bs <;> simp [beqPairs]
  | (k, v) :: as, bs => by
    cases bs with
    | nil => simp [beqPairs]
    | cons p bs => cases p; simp [beqPairs, beq_iff k, beq_iff v, beqPairs_iff as]

end

instance : DecidableEq PyVal := fun a b => decidable_of_iff _ (beq_iff a b)

/-- `type(value).__name__`. -/
def typeName : PyVal → String
  | .none => "NoneType"
  | .bool _ => "bool"
  | .int _ => "int"
  | .float _ => "float"
  | .complex _ _ => "complex"
  | .str _ => "str"
  | .bytes _ => "bytes"
  | .ellipsis => "ellipsis"
  | .tuple _ => "tuple"
  | .list _ => "list"
  | .set _ => "set"
  | .dict _ => "dict"

/-- The string in a value, if `isinstance(value, str)`. -/
def asStr : PyVal → Option String
  | .str s => some s
  | _ => Option.none

/-- `isinstance(value, list)`. -/
def asList : PyVal → Option (List PyVal)
  | .list xs => some xs
  | _ => Option.none

/-- The items of a value, if `isinstance(value, Mapping)`. -/
def asMapping : PyVal → Option (List (PyVal × PyVal))
  | .dict kvs => some kvs
  | _ => Option.none

/-- The string-keyed items of a mapping; anything else counts as empty. -/
def asDict (v : PyVal) : List (String × PyVal) :=
  (v.asMapping.getD []).filterMap fun kv => kv.1.asStr.map fun k => (k, kv.2)

/-- `type(value) is int`: a bool is not one. -/
def asInt : PyVal → Option Int
  | .int n => some n
  | _ => Option.none

/-- `isinstance(value, (int, float))`: a bool is one. -/
def asNumber : PyVal → Option Rat
  | .int n => some n
  | .float q => some q
  | .bool b => some (if b then 1 else 0)
  | _ => Option.none

end PyVal

/-! ## Mappings with string keys -/

/-- A mapping with string keys, in insertion order. -/
abbrev Dict := List (String × PyVal)

namespace Dict

/-- `d.get(key)`. -/
def get (d : Dict) (key : String) : Option PyVal := (d.find? (·.1 == key)).map (·.2)

/-- `d[key] = value`. -/
def set (d : Dict) (key : String) (value : PyVal) : Dict :=
  if d.any (·.1 == key) then d.map fun kv => if kv.1 == key then (key, value) else kv else d ++ [(key, value)]

/-- `d.update(e)`. -/
def update (d e : Dict) : Dict := e.foldl (fun acc kv => set acc kv.1 kv.2) d

/-- `d.pop(key, None)`. -/
def pop (d : Dict) (key : String) : Dict := d.filter (·.1 != key)

/-- `d.setdefault(key, value)`. -/
def setDefault (d : Dict) (key : String) (value : PyVal) : Dict :=
  if d.any (·.1 == key) then d else d ++ [(key, value)]

/-- The mapping as a value. -/
def toVal (d : Dict) : PyVal := .dict (d.map fun kv => (.str kv.1, kv.2))

theorem get_append (d : Dict) (key : String) (value : PyVal) (h : ∀ kv ∈ d, kv.1 ≠ key) :
    get (d ++ [(key, value)]) key = some value := by
  have hn : d.find? (·.1 == key) = none := by
    rw [List.find?_eq_none]
    intro kv hkv
    simpa using h kv hkv
  simp [get, List.find?_append, hn]

theorem get_set_self (d : Dict) (key : String) (value : PyVal) : get (set d key value) key = some value := by
  unfold set
  split
  · rename_i h
    induction d with
    | nil => simp at h
    | cons kv d ih =>
      by_cases hk : kv.1 = key
      · simp [get, hk]
      · have h' : d.any (·.1 == key) = true := by simpa [hk] using h
        have hf : (kv.1 == key) = false := by simpa using hk
        simpa only [get, List.map_cons, hf, Bool.false_eq_true, if_false, List.find?_cons] using ih h'
  · rename_i h
    refine get_append d key value ?_
    intro kv hkv he
    exact h (List.any_eq_true.2 ⟨kv, hkv, by simpa using he⟩)

theorem get_eq_none {d : Dict} {key : String} : get d key = none ↔ ∀ kv ∈ d, kv.1 ≠ key := by
  simp [get]

theorem get_set_of_ne (d : Dict) {key key' : String} (value : PyVal) (h : key' ≠ key) :
    get (set d key value) key' = get d key' := by
  unfold set
  split
  · induction d with
    | nil => rfl
    | cons kv d ih =>
      have htail : get (d.map fun kv => if kv.1 == key then (key, value) else kv) key' = get d key' := by
        by_cases hany : d.any (·.1 == key) = true
        · exact ih hany
        · have hid : (d.map fun kv => if kv.1 == key then (key, value) else kv) = d := by
            refine (List.map_congr_left fun kv hkv => ?_).trans (List.map_id d)
            have hne : ¬ (kv.1 == key) = true := fun h => hany (List.any_eq_true.2 ⟨kv, hkv, h⟩)
            simp [hne]
          rw [hid]
      simp only [get, List.map_cons, List.find?_cons] at htail ⊢
      by_cases hk : kv.1 = key
      · have hne : (key == key') = false := by simpa using Ne.symm h
        simp only [hk, beq_self_eq_true, if_true, hne]
        exact htail
      · have hf : (kv.1 == key) = false := by simpa using hk
        simp only [hf, Bool.false_eq_true, if_false]
        split
        · rfl
        · exact htail
  · have hne : (key == key') = false := by simpa using Ne.symm h
    simp [get, List.find?_append, hne]

theorem get_set (d : Dict) (key key' : String) (value : PyVal) :
    get (set d key value) key' = if key' = key then some value else get d key' := by
  split
  · rename_i h
    rw [h, get_set_self]
  · rename_i h
    rw [get_set_of_ne d value h]

/-- Keys an update does not mention keep their values. -/
theorem get_update_of_not_mem {d e : Dict} {key : String} (h : ∀ kv ∈ e, kv.1 ≠ key) :
    get (update d e) key = get d key := by
  unfold update
  induction e generalizing d with
  | nil => rfl
  | cons kv e ih =>
    rw [List.foldl_cons, ih fun kv' hkv' => h kv' (List.mem_cons_of_mem _ hkv')]
    exact get_set_of_ne d kv.2 (Ne.symm (h kv List.mem_cons_self))

/-- A key an update mentions with one value only has that value afterwards. -/
theorem get_update_of_mem {d e : Dict} {key : String} {value : PyVal} (hmem : ∃ kv ∈ e, kv.1 = key)
    (hone : ∀ kv ∈ e, kv.1 = key → kv.2 = value) : get (update d e) key = some value := by
  induction e generalizing d with
  | nil => simp at hmem
  | cons kv e ih =>
    have htail : ∀ kv' ∈ e, kv'.1 = key → kv'.2 = value := fun kv' hkv' => hone kv' (List.mem_cons_of_mem _ hkv')
    by_cases hin : ∃ kv' ∈ e, kv'.1 = key
    · exact ih hin htail
    · have hkey : kv.1 = key := by
        obtain ⟨kv', hkv', he⟩ := hmem
        rcases List.mem_cons.1 hkv' with rfl | hkv'
        · exact he
        · exact absurd ⟨kv', hkv', he⟩ hin
      have hrest : ∀ kv' ∈ e, kv'.1 ≠ key := fun kv' hkv' he => hin ⟨kv', hkv', he⟩
      have hstep := get_update_of_not_mem (d := set d kv.1 kv.2) hrest
      refine hstep.trans ?_
      rw [hkey, hone kv List.mem_cons_self hkey, get_set_self]

/-- An entry after an assignment is the assigned one or was there before. -/
theorem mem_set {d : Dict} {key : String} {value : PyVal} {kv : String × PyVal} (h : kv ∈ set d key value) :
    kv = (key, value) ∨ kv ∈ d := by
  unfold set at h
  split at h
  · obtain ⟨kv₀, hmem, rfl⟩ := List.mem_map.1 h
    split
    · exact .inl rfl
    · exact .inr hmem
  · rcases List.mem_append.1 h with hmem | hmem
    · exact .inr hmem
    · exact .inl (List.mem_singleton.1 hmem)

theorem mem_update {d e : Dict} {kv : String × PyVal} (h : kv ∈ update d e) : kv ∈ d ∨ kv ∈ e := by
  unfold update at h
  induction e generalizing d with
  | nil => exact .inl h
  | cons kv' e ih =>
    rcases ih h with hset | hmem
    · rcases mem_set hset with rfl | hmem
      · exact .inr List.mem_cons_self
      · exact .inl hmem
    · exact .inr (List.mem_cons_of_mem _ hmem)

theorem get_isSome {d : Dict} {key : String} : (get d key).isSome = true ↔ ∃ kv ∈ d, kv.1 = key := by
  simp [get]

end Dict

/-! ## Strings -/

/-- The characters `str.strip` removes. -/
def isSpace (c : Char) : Bool :=
  let n := c.toNat
  (9 ≤ n && n ≤ 13) || (28 ≤ n && n ≤ 32) || n == 0x85 || n == 0xa0 || n == 0x1680 || (0x2000 ≤ n && n ≤ 0x200a) ||
    n == 0x2028 || n == 0x2029 || n == 0x202f || n == 0x205f || n == 0x3000

/-- `s.strip()`. -/
def strip (s : String) : String :=
  String.ofList ((s.toList.dropWhile isSpace).reverse.dropWhile isSpace).reverse

/-- `repr(s)` of a string without control characters. -/
def pyRepr (s : String) : String :=
  let quote := if s.toList.contains (Char.ofNat 39) && !s.toList.contains (Char.ofNat 34) then 34 else 39
  let body := s.toList.flatMap fun c =>
    if c.toNat == quote || c.toNat == 92 then [Char.ofNat 92, c] else [c]
  String.ofList ([Char.ofNat quote] ++ body ++ [Char.ofNat quote])

/-- `sep.join(parts)`. -/
def joinWith (sep : String) : List String → String
  | [] => ""
  | [p] => p
  | p :: q :: ps => p ++ sep ++ joinWith sep (q :: ps)

/-- The text before the first `c` and the text after it, if `c` occurs. -/
def partition (c : Char) : List Char → List Char × Option (List Char)
  | [] => ([], none)
  | x :: xs =>
    if x == c then ([], some xs)
    else
      let (before, after) := partition c xs
      (x :: before, after)

end M8flowCore
