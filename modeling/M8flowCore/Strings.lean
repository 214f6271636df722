import M8flowCore.Lib.Trim
import M8flowCore.Python
/-!
# Trimmed and split text

What `str.strip` and `str.partition` do to text that was glued together.
-/
open M8flowCore.Lib

namespace M8flowCore

theorem toList_strip (s : String) : (strip s).toList = trim isSpace s.toList := by
  unfold strip
  rw [String.toList_ofList]
  rfl

@[simp] theorem strip_strip (s : String) : strip (strip s) = strip s := by
  rw [← String.toList_inj, toList_strip, toList_strip, trim_trim]

/-- Trimmed texts glued with a character that is no blank. -/
theorem strip_glue {a b c : String} {ch : Char} (ha : strip a = a) (hb : strip b = b) (hc : c.toList = [ch])
    (hch : isSpace ch = false) : strip (a ++ c ++ b) = a ++ c ++ b := by
  rw [← String.toList_inj] at ha hb ⊢
  rw [toList_strip] at ha hb ⊢
  simp only [String.toList_append, hc, List.append_assoc, List.singleton_append]
  exact trim_glue ha hb hch

section
variable {c : Char} {l l₁ l₂ : List Char}

theorem partition_glue (h : c ∉ l₁) : partition c (l₁ ++ c :: l₂) = (l₁, some l₂) := by
  induction l₁ with
  | nil => simp [partition]
  | cons x l ih =>
    have hne : (x == c) = false := by
      simp only [beq_eq_false_iff_ne]
      exact fun he => h (by simp [he])
    simp only [List.cons_append, partition, hne, Bool.false_eq_true, if_false, ih fun hc => h (by simp [hc])]

theorem not_mem_partition : c ∉ (partition c l).1 := by
  induction l with
  | nil => simp [partition]
  | cons x l ih =>
    rw [partition]
    split
    · simp
    · rename_i hne
      have hcx : c ≠ x := fun he => hne (by simp [he])
      simpa [hcx] using ih

/-- Partitioned text is its two parts, glued again. -/
theorem partition_some {rest : List Char} (h : (partition c l).2 = some rest) : l = (partition c l).1 ++ c :: rest := by
  induction l with
  | nil => simp [partition] at h
  | cons x l ih =>
    rw [partition] at h ⊢
    split at h
    · rename_i heq
      have hxc : x = c := by simpa using heq
      cases h
      simp [hxc]
    · rename_i hne
      rw [if_neg hne]
      exact congrArg (x :: ·) (ih h)

end
end M8flowCore
