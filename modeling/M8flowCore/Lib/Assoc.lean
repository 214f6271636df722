import Mathlib.Data.List.Dedup
import Mathlib.Tactic.Common
/-!
# Mappings as lists of pairs

A mapping in insertion order. Writing under a key that is there keeps the key's
place; another key goes to the end. A mapping is known by its keys and by what
`List.lookup` finds.
-/
namespace M8flowCore.Lib
variable {κ α : Type} [DecidableEq κ] {d : List (κ × α)} {k k' : κ} {v : α}

/-- `d[k] = v`. -/
def put (k : κ) (v : α) (d : List (κ × α)) : List (κ × α) :=
  if k ∈ d.map Prod.fst then d.map fun kv => if kv.1 = k then (k, v) else kv else d ++ [(k, v)]

theorem lookup_eq_none_of_not_mem (h : k ∉ d.map Prod.fst) : d.lookup k = none := by
  rw [List.lookup_eq_none_iff]
  intro kv hkv
  simp only [bne_iff_ne, ne_eq]
  exact fun he => h (List.mem_map.2 ⟨kv, hkv, he.symm⟩)

theorem lookup_map_put : (d.map fun kv => if kv.1 = k then (k, v) else kv).lookup k' =
    if k' = k ∧ k ∈ d.map Prod.fst then some v else d.lookup k' := by
  induction d with
  | nil => simp
  | cons kv d ih =>
    obtain ⟨k₀, v₀⟩ := kv
    by_cases hk : k' = k
    · subst hk
      by_cases h₀ : k₀ = k'
      · simp [h₀]
      · have hne : (k' == k₀) = false := by simpa using fun he : k' = k₀ => h₀ he.symm
        have hmem : k' ∈ ((k₀, v₀) :: d).map Prod.fst ↔ k' ∈ d.map Prod.fst := by simp [Ne.symm h₀]
        simp only [List.map_cons, h₀, if_false, List.lookup_cons, hne, ih]
        simp only [List.map_cons] at hmem
        simp only [hmem]
    · simp only [hk, false_and, if_false] at ih ⊢
      by_cases h₀ : k₀ = k
      · subst h₀
        have hne : (k' == k₀) = false := by simpa using hk
        simp [List.lookup_cons, hne, ih]
      · simp [h₀, List.lookup_cons, ih]

/-- What was written is found, and nothing else has moved. -/
theorem lookup_put : (put k v d).lookup k' = if k' = k then some v else d.lookup k' := by
  unfold put
  split
  · rename_i hmem
    rw [lookup_map_put]
    simp only [hmem, and_true]
  · rename_i hmem
    rw [List.lookup_append]
    split
    · rename_i hk
      subst hk
      simp [lookup_eq_none_of_not_mem hmem]
    · rename_i hk
      have hne : (k' == k) = false := by simpa using hk
      simp [List.lookup_cons, hne]

theorem keys_put : (put k v d).map Prod.fst = if k ∈ d.map Prod.fst then d.map Prod.fst else d.map Prod.fst ++ [k] := by
  unfold put
  split
  · rw [List.map_map]
    refine List.map_congr_left fun kv _ => ?_
    simp only [Function.comp_apply]
    split
    · rename_i h
      exact h.symm
    · rfl
  · simp

theorem nodup_keys_put (h : (d.map Prod.fst).Nodup) : ((put k v d).map Prod.fst).Nodup := by
  rw [keys_put]
  split
  · exact h
  · rename_i hmem
    exact List.nodup_append.2 ⟨h, by simp, by
      simp only [List.mem_singleton]
      rintro a ha b rfl rfl
      exact hmem ha⟩

theorem mem_keys_put : k' ∈ (put k v d).map Prod.fst ↔ k' = k ∨ k' ∈ d.map Prod.fst := by
  rw [keys_put]
  split
  · rename_i hmem
    refine ⟨.inr, ?_⟩
    rintro (rfl | h)
    · exact hmem
    · exact h
  · simp [or_comm]

end M8flowCore.Lib
