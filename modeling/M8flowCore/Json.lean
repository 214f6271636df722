import M8flowCore.Python
/-!
# JSON text

`json.dumps(value)`, with its keys sorted or as they stand. `dumps` writes the
text, or gives `none` where Python raises: a value JSON has no form for, a key
that is not one of JSON's, keys that are to be ordered and cannot be, an integer
too long to be written in decimal. `encodable` says the same of a value without
writing it, and `dumps_isSome` that the two agree.
-/
namespace M8flowCore.Json

/-- `sys.get_int_max_str_digits()`: an integer of more digits has no `repr`. -/
def maxStrDigits : Nat := 4300

/-- The integer can be written in decimal. -/
def writable (n : Int) : Bool := decide (n.natAbs < 10 ^ maxStrDigits)

/-- `int.__repr__`. -/
def intText (n : Int) : Option String := if writable n then some (toString n) else none

def hexDigit (n : Nat) : Char := if n < 10 then Char.ofNat (48 + n) else Char.ofNat (87 + n)

def backslash : Char := Char.ofNat 92

def quote : Char := Char.ofNat 34

/-- A UTF-16 code unit as an escape. -/
def unicodeEscape (n : Nat) : List Char :=
  [backslash, 'u', hexDigit (n / 4096 % 16), hexDigit (n / 256 % 16), hexDigit (n / 16 % 16), hexDigit (n % 16)]

/-- One character of a string: printable ASCII stands for itself. -/
def escapeChar (c : Char) : List Char :=
  let n := c.toNat
  if c = quote ∨ c = backslash then [backslash, c]
  else if n = 10 then [backslash, 'n']
  else if n = 13 then [backslash, 'r']
  else if n = 9 then [backslash, 't']
  else if n = 12 then [backslash, 'f']
  else if n = 8 then [backslash, 'b']
  else if 32 ≤ n ∧ n ≤ 126 then [c]
  else if n < 0x10000 then unicodeEscape n
  else unicodeEscape (0xd800 + (n - 0x10000) / 1024) ++ unicodeEscape (0xdc00 + (n - 0x10000) % 1024)

def strText (s : String) : String := String.ofList ([quote] ++ s.toList.flatMap escapeChar ++ [quote])

/-! ## Ordering the keys -/

/-- Python's `<` on keys: text with text, numbers with numbers. -/
def keyLess (a b : PyVal) : Option Bool :=
  match a.asStr, b.asStr with
  | some x, some y => some (decide (x < y))
  | _, _ => match a.asNumber, b.asNumber with
    | some x, some y => some (decide (x < y))
    | _, _ => none

section Sorting
variable {α : Type}

/-- Put an item in its place among sorted ones. -/
def insertItem (item : PyVal × α) : List (PyVal × α) → Option (List (PyVal × α))
  | [] => some [item]
  | x :: xs => do
    if ← keyLess item.1 x.1 then some (item :: x :: xs)
    else some (x :: (← insertItem item xs))

/-- `sorted(items)`: no two keys of a dictionary are equal, so that only keys
are compared. -/
def sortItems : List (PyVal × α) → Option (List (PyVal × α))
  | [] => some []
  | x :: xs => do insertItem x (← sortItems xs)

end Sorting

/-! ## Writing a value -/

section Dumps
variable (sortKeys : Bool) (default : Option (PyVal → String)) (floatText : Rat → String)

/-- The text of a key; keys of other types are refused. -/
def keyText : PyVal → Option String
  | .str s => some s
  | .float q => some (floatText q)
  | .bool b => some (if b then "true" else "false")
  | .none => some "null"
  | .int n => intText n
  | _ => none

mutual

/-- `json.dumps(value, sort_keys=sort_keys, default=default)`. -/
def dumps : PyVal → Option String
  | .none => some "null"
  | .bool b => some (if b then "true" else "false")
  | .int n => intText n
  | .float q => some (floatText q)
  | .str s => some (strText s)
  | .tuple xs => do some ("[" ++ joinWith ", " (← dumpsList xs) ++ "]")
  | .list xs => do some ("[" ++ joinWith ", " (← dumpsList xs) ++ "]")
  | .dict kvs => do
    let items ← dumpsItems kvs
    let items ← if sortKeys then sortItems items else some items
    some ("\x7b" ++ joinWith ", " (items.map (·.2)) ++ "\x7d")
  | v => default.map fun str => strText (str v)

def dumpsList : List PyVal → Option (List String)
  | [] => some []
  | x :: xs => do some ((← dumps x) :: (← dumpsList xs))

/-- Each item of a dictionary as text, beside its key. -/
def dumpsItems : List (PyVal × PyVal) → Option (List (PyVal × String))
  | [] => some []
  | (k, v) :: kvs => do
    let key ← keyText floatText k
    let value ← dumps v
    some ((k, strText key ++ ": " ++ value) :: (← dumpsItems kvs))

end
end Dumps

/-! ## Values that can be written -/

/-- The kinds of key that can be ordered among themselves. -/
inductive KeyKind where
  | text
  | number
  deriving DecidableEq

def keyKind (k : PyVal) : Option KeyKind :=
  if k.asStr.isSome then some .text else if k.asNumber.isSome then some .number else none

/-- A lone key needs no comparison; several must all be text or all numbers. -/
def comparableKeys : List PyVal → Bool
  | [] | [_] => true
  | k :: ks => (keyKind k).isSome && ks.all fun k' => keyKind k' == keyKind k

/-- A key of JSON: text, a number that can be written, a truth value or `None`. -/
def isKey : PyVal → Bool
  | .str _ | .float _ | .bool _ | .none => true
  | .int n => writable n
  | _ => false

mutual

/-- The value is made of what JSON has: text, numbers, truth values, `None`,
lists, tuples and dictionaries whose keys are JSON's and, to be sorted, of one
kind. With `lenient`, whatever else it contains is written as text. -/
def encodable (sortKeys lenient : Bool) : PyVal → Bool
  | .none | .bool _ | .float _ | .str _ => true
  | .int n => writable n
  | .tuple xs | .list xs => encodableList sortKeys lenient xs
  | .dict kvs => (!sortKeys || comparableKeys (kvs.map (·.1))) && encodableItems sortKeys lenient kvs
  | .complex _ _ | .bytes _ | .ellipsis | .set _ => lenient

def encodableList (sortKeys lenient : Bool) : List PyVal → Bool
  | [] => true
  | x :: xs => encodable sortKeys lenient x && encodableList sortKeys lenient xs

def encodableItems (sortKeys lenient : Bool) : List (PyVal × PyVal) → Bool
  | [] => true
  | (k, v) :: kvs => isKey k && encodable sortKeys lenient v && encodableItems sortKeys lenient kvs

end

mutual

/-- Writing the rest as text only accepts more. -/
theorem encodable_lenient (sortKeys : Bool) : ∀ v : PyVal, encodable sortKeys false v = true → encodable sortKeys true v = true
  | .none | .bool _ | .float _ | .str _ | .int _ => by simp only [encodable, imp_self]
  | .complex _ _ | .bytes _ | .ellipsis | .set _ => by simp only [encodable, Bool.false_eq_true, false_imp_iff]
  | .tuple xs => by
    simp only [encodable]
    exact encodableList_lenient sortKeys xs
  | .list xs => by
    simp only [encodable]
    exact encodableList_lenient sortKeys xs
  | .dict kvs => by
    simp only [encodable, Bool.and_eq_true]
    rintro ⟨hkeys, hitems⟩
    exact ⟨hkeys, encodableItems_lenient sortKeys kvs hitems⟩

theorem encodableList_lenient (sortKeys : Bool) : ∀ xs : List PyVal, encodableList sortKeys false xs = true → encodableList sortKeys true xs = true
  | [] => fun _ => rfl
  | x :: xs => by
    simp only [encodableList, Bool.and_eq_true]
    rintro ⟨hx, hxs⟩
    exact ⟨encodable_lenient sortKeys x hx, encodableList_lenient sortKeys xs hxs⟩

theorem encodableItems_lenient (sortKeys : Bool) : ∀ kvs : List (PyVal × PyVal), encodableItems sortKeys false kvs = true →
    encodableItems sortKeys true kvs = true
  | [] => fun _ => rfl
  | (k, v) :: kvs => by
    simp only [encodableItems, Bool.and_eq_true]
    rintro ⟨⟨hk, hv⟩, hkvs⟩
    exact ⟨⟨hk, encodable_lenient sortKeys v hv⟩, encodableItems_lenient sortKeys kvs hkvs⟩

end

/-! ## Keys that can be sorted -/

theorem keyLess_isSome (a b : PyVal) :
    (keyLess a b).isSome = true ↔ ∃ kind, keyKind a = some kind ∧ keyKind b = some kind := by
  cases a <;> cases b <;> simp [keyLess, keyKind, PyVal.asStr, PyVal.asNumber]

theorem comparableKeys_iff (ks : List PyVal) :
    comparableKeys ks = true ↔ ks.length ≤ 1 ∨ ∃ kind, ∀ k ∈ ks, keyKind k = some kind := by
  rcases ks with _ | ⟨k, _ | ⟨k', ks⟩⟩
  · simp [comparableKeys]
  · simp [comparableKeys]
  · rw [comparableKeys]
    · simp only [Bool.and_eq_true, List.all_eq_true, beq_iff_eq, List.length_cons]
      constructor
      · rintro ⟨hsome, hall⟩
        obtain ⟨kind, hkind⟩ := Option.isSome_iff_exists.1 hsome
        refine Or.inr ⟨kind, fun x hx => ?_⟩
        rcases List.mem_cons.1 hx with rfl | hx
        · exact hkind
        · rw [hall x hx, hkind]
      · rintro (hlen | ⟨kind, hkind⟩)
        · omega
        · have hk := hkind k List.mem_cons_self
          refine ⟨by rw [hk]; rfl, fun x hx => ?_⟩
          rw [hkind x (List.mem_cons_of_mem _ hx), hk]
    · simp

section Sorting
variable {α : Type} {item x : PyVal × α} {items xs sorted : List (PyVal × α)}

theorem insertItem_perm (h : insertItem item xs = some sorted) : sorted.Perm (item :: xs) := by
  induction xs generalizing sorted with
  | nil =>
    simp only [insertItem, Option.some.injEq] at h
    rw [← h]
  | cons x xs ih =>
    simp only [insertItem, Option.bind_eq_bind, Option.bind_eq_some_iff] at h
    obtain ⟨less, -, h⟩ := h
    split at h
    · rw [← Option.some.inj h]
    · obtain ⟨rest, hrest, h⟩ := Option.bind_eq_some_iff.1 h
      rw [← Option.some.inj h]
      exact ((ih hrest).cons x).trans (List.Perm.swap _ _ _)

theorem sortItems_perm (h : sortItems items = some sorted) : sorted.Perm items := by
  induction items generalizing sorted with
  | nil =>
    simp only [sortItems, Option.some.injEq] at h
    rw [← h]
  | cons x xs ih =>
    simp only [sortItems, Option.bind_eq_bind, Option.bind_eq_some_iff] at h
    obtain ⟨rest, hrest, h⟩ := h
    exact (insertItem_perm h).trans ((ih hrest).cons x)

/-- An item finds its place among items of one kind when it is of that kind. -/
theorem insertItem_isSome (hone : ∀ y ∈ xs, keyKind y.1 = keyKind x.1) :
    (insertItem item (x :: xs)).isSome = true ↔ ∃ kind, keyKind item.1 = some kind ∧ keyKind x.1 = some kind := by
  rw [← keyLess_isSome]
  induction xs generalizing x with
  | nil =>
    simp only [insertItem, Option.bind_eq_bind]
    cases keyLess item.1 x.1 with
    | none => simp
    | some less => cases less <;> simp
  | cons y ys ih =>
    have hy := hone y List.mem_cons_self
    have hys : ∀ z ∈ ys, keyKind z.1 = keyKind y.1 := fun z hz =>
      (hone z (List.mem_cons_of_mem _ hz)).trans hy.symm
    rw [insertItem]
    cases hless : keyLess item.1 x.1 with
    | none => simp
    | some less =>
      cases less with
      | true => simp
      | false =>
        have hkind := (keyLess_isSome item.1 x.1).1 (by rw [hless]; rfl)
        have hnext : (keyLess item.1 y.1).isSome = true := by
          rw [keyLess_isSome, hy]
          exact hkind
        obtain ⟨rest, hrest⟩ := Option.isSome_iff_exists.1 ((ih hys).2 hnext)
        simp [hrest]

/-- Items can be sorted exactly when their keys can be compared. -/
theorem sortItems_isSome (items : List (PyVal × α)) :
    (sortItems items).isSome = true ↔ comparableKeys (items.map (·.1)) = true := by
  rw [comparableKeys_iff]
  induction items with
  | nil => simp [sortItems]
  | cons x xs ih =>
    rw [sortItems]
    cases hsorted : sortItems xs with
    | none =>
      rw [hsorted] at ih
      have hnot : ¬ _ := fun h => absurd (ih.2 h) (by simp)
      refine iff_of_false (by simp) ?_
      rintro (hlen | ⟨kind, hkind⟩)
      · refine hnot (Or.inl ?_)
        simp only [List.map_cons, List.length_cons] at hlen
        omega
      · exact hnot (Or.inr ⟨kind, fun k hk => hkind k (List.mem_cons_of_mem _ hk)⟩)
    | some sorted =>
      have hperm := sortItems_perm hsorted
      rw [hsorted] at ih
      have hfirst := ih.1 rfl
      cases sorted with
      | nil =>
        rw [List.nil_perm.1 hperm]
        simp [insertItem]
      | cons y ys =>
        have hmem : ∀ z, z ∈ y :: ys ↔ z ∈ xs := fun z => hperm.mem_iff
        have hlen := hperm.length_eq
        have hone : ∀ z ∈ ys, keyKind z.1 = keyKind y.1 := by
          intro z hz
          rcases hfirst with hshort | ⟨kind, hkind⟩
          · have hpos := List.length_pos_of_mem hz
            simp only [List.length_map, List.length_cons] at hshort hlen
            omega
          · rw [hkind _ (List.mem_map_of_mem ((hmem z).1 (List.mem_cons_of_mem _ hz))),
              hkind _ (List.mem_map_of_mem ((hmem y).1 List.mem_cons_self))]
        rw [Option.bind_eq_bind, Option.bind_some, insertItem_isSome hone]
        constructor
        · rintro ⟨kind, hx, hy⟩
          refine Or.inr ⟨kind, fun k hk => ?_⟩
          obtain ⟨z, hz, rfl⟩ := List.mem_map.1 hk
          rcases List.mem_cons.1 hz with rfl | hz
          · exact hx
          · rcases List.mem_cons.1 ((hmem z).2 hz) with rfl | hz
            · exact hy
            · rw [hone z hz, hy]
        · rintro (hshort | ⟨kind, hkind⟩)
          · simp only [List.map_cons, List.length_cons, List.length_map] at hshort hlen
            omega
          · have hy := List.mem_cons_of_mem x ((hmem y).1 List.mem_cons_self)
            exact ⟨kind, hkind _ (List.mem_map_of_mem List.mem_cons_self), hkind _ (List.mem_map_of_mem hy)⟩

end Sorting

/-! ## What is written -/

section Written
variable (sortKeys : Bool) (default : Option (PyVal → String)) (floatText : Rat → String)

theorem intText_isSome (n : Int) : (intText n).isSome = writable n := by
  unfold intText
  split <;> simp_all

theorem keyText_isSome (k : PyVal) : (keyText floatText k).isSome = isKey k := by
  cases k <;> simp [keyText, isKey, intText_isSome]

/-- The items of a dictionary stand beside the keys they had. -/
theorem dumpsItems_keys {kvs : List (PyVal × PyVal)} {items : List (PyVal × String)}
    (h : dumpsItems sortKeys default floatText kvs = some items) : items.map (·.1) = kvs.map (·.1) := by
  induction kvs generalizing items with
  | nil =>
    simp only [dumpsItems, Option.some.injEq] at h
    rw [← h]
    rfl
  | cons kv kvs ih =>
    obtain ⟨k, v⟩ := kv
    simp only [dumpsItems, Option.bind_eq_bind, Option.bind_eq_some_iff, Option.some.injEq] at h
    obtain ⟨key, -, value, -, rest, hrest, rfl⟩ := h
    simp [ih hrest]

mutual

/-- A value is written exactly when it is made of what JSON has. -/
theorem dumps_isSome : ∀ v : PyVal, (dumps sortKeys default floatText v).isSome = encodable sortKeys default.isSome v
  | .none | .bool _ | .float _ | .str _ => by simp only [dumps, encodable, Option.isSome_some]
  | .int n => by simp only [dumps, encodable, intText_isSome]
  | .complex _ _ | .bytes _ | .ellipsis | .set _ => by simp only [dumps, encodable, Option.isSome_map]
  | .tuple xs | .list xs => by
    simp only [dumps, encodable, ← dumpsList_isSome xs, Option.bind_eq_bind]
    cases dumpsList sortKeys default floatText xs <;> rfl
  | .dict kvs => by
    simp only [dumps, encodable, ← dumpsItems_isSome kvs, Option.bind_eq_bind]
    cases hitems : dumpsItems sortKeys default floatText kvs with
    | none => simp
    | some items =>
      have hsort := sortItems_isSome items
      rw [dumpsItems_keys sortKeys default floatText hitems] at hsort
      cases hsorted : sortItems items with
      | none =>
        have hkeys : comparableKeys (kvs.map (·.1)) = false := by simpa [hsorted] using hsort
        cases sortKeys <;> simp [hsorted, hkeys]
      | some sorted =>
        have hkeys : comparableKeys (kvs.map (·.1)) = true := by simpa [hsorted] using hsort
        cases sortKeys <;> simp [hsorted, hkeys]

theorem dumpsList_isSome : ∀ xs : List PyVal,
    (dumpsList sortKeys default floatText xs).isSome = encodableList sortKeys default.isSome xs
  | [] => rfl
  | x :: xs => by
    simp only [dumpsList, encodableList, ← dumps_isSome x, ← dumpsList_isSome xs, Option.bind_eq_bind]
    cases dumps sortKeys default floatText x <;> cases dumpsList sortKeys default floatText xs <;> rfl

theorem dumpsItems_isSome : ∀ kvs : List (PyVal × PyVal),
    (dumpsItems sortKeys default floatText kvs).isSome = encodableItems sortKeys default.isSome kvs
  | [] => rfl
  | (k, v) :: kvs => by
    simp only [dumpsItems, encodableItems, ← keyText_isSome floatText k, ← dumps_isSome v, ← dumpsItems_isSome kvs,
      Option.bind_eq_bind]
    cases keyText floatText k <;> cases dumps sortKeys default floatText v <;> cases dumpsItems sortKeys default floatText kvs <;> rfl

end
end Written

/-- A dictionary with string keys is written when its values are. -/
theorem encodable_toVal (sortKeys lenient : Bool) (d : Dict) :
    encodable sortKeys lenient d.toVal = true ↔ ∀ kv ∈ d, encodable sortKeys lenient kv.2 = true := by
  have hitems : ∀ d : Dict, encodableItems sortKeys lenient (d.map fun kv => (PyVal.str kv.1, kv.2)) = true ↔
      ∀ kv ∈ d, encodable sortKeys lenient kv.2 = true := by
    intro d
    induction d with
    | nil => simp [encodableItems]
    | cons kv d ih => simp [encodableItems, isKey, ih]
  have hkeys : comparableKeys ((d.map fun kv => (PyVal.str kv.1, kv.2)).map (·.1)) = true := by
    rw [comparableKeys_iff]
    refine Or.inr ⟨.text, fun k hk => ?_⟩
    simp only [List.map_map, List.mem_map, Function.comp] at hk
    obtain ⟨kv, -, rfl⟩ := hk
    rfl
  unfold Dict.toVal
  rw [encodable, hkeys, Bool.or_true, Bool.true_and, hitems]

end M8flowCore.Json
