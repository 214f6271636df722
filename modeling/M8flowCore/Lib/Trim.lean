import Mathlib.Data.List.DropRight
import Mathlib.Tactic.Common
/-!
# Trimming lists

`trim p` drops what satisfies `p` at both ends. A list that begins and ends with
something that stays is trimmed already.
-/
namespace M8flowCore.Lib
variable {α : Type} {p : α → Bool} {l l₁ l₂ : List α} {x : α}

/-- `l` without what satisfies `p` at its ends. -/
def trim (p : α → Bool) (l : List α) : List α := (l.dropWhile p).rdropWhile p

theorem mem_of_mem_trim (h : x ∈ trim p l) : x ∈ l :=
  (List.dropWhile_sublist p).subset ((List.rdropWhile_prefix p _).subset h)

/-- Neither end is dropped. -/
theorem trim_eq_self (hhead : ∀ h : l ≠ [], p (l.head h) = false) (hlast : ∀ h : l ≠ [], p (l.getLast h) = false) :
    trim p l = l := by
  have hdrop : l.dropWhile p = l := by
    cases l with
    | nil => rfl
    | cons a l => rw [List.dropWhile_cons_of_neg (by simpa using hhead (by simp))]
  unfold trim
  rw [hdrop, List.rdropWhile_eq_self_iff]
  intro h
  simp [hlast h]

theorem head_trim (h : trim p l ≠ []) : p ((trim p l).head h) = false := by
  have hne : l.dropWhile p ≠ [] := by
    intro hnil
    exact h (by simp [trim, hnil])
  have hhead := List.head_dropWhile_not p hne
  have hprefix : trim p l <+: l.dropWhile p := List.rdropWhile_prefix p _
  obtain ⟨t, ht⟩ := hprefix
  have heq : (trim p l).head h = (l.dropWhile p).head hne := by
    simp only [← ht]
    rw [List.head_append_of_ne_nil h]
  rw [heq]
  simpa using hhead

theorem getLast_trim (h : trim p l ≠ []) : p ((trim p l).getLast h) = false := by
  have hlast := List.rdropWhile_last_not p (l.dropWhile p) h
  rw [Bool.not_eq_true] at hlast
  exact hlast

@[simp] theorem trim_trim : trim p (trim p l) = trim p l := trim_eq_self head_trim getLast_trim

/-- Two lists that keep their ends, glued. -/
theorem trim_glue (h₁ : trim p l₁ = l₁) (h₂ : trim p l₂ = l₂) (hx : p x = false) : trim p (l₁ ++ x :: l₂) = l₁ ++ x :: l₂ := by
  refine trim_eq_self (fun h => ?_) (fun h => ?_)
  · cases l₁ with
    | nil => simpa using hx
    | cons a l =>
      have hhead := head_trim (p := p) (l := a :: l) (by rw [h₁]; simp)
      simpa only [h₁, List.head_cons, List.cons_append] using hhead
  · cases l₂ with
    | nil => simpa using hx
    | cons b l =>
      have hlast := getLast_trim (p := p) (l := b :: l) (by rw [h₂]; simp)
      simp only [h₂] at hlast
      simpa [List.getLast_append] using hlast

/-! ## Trimming more -/

theorem trim_append_left {a : List α} (h : ∀ x ∈ a, p x = true) : trim p (a ++ l) = trim p l := by
  unfold trim
  rw [List.dropWhile_append_of_pos h]

theorem trim_append_right {b : List α} (h : ∀ x ∈ b, p x = true) : trim p (l ++ b) = trim p l := by
  unfold trim
  rw [List.dropWhile_append]
  split
  · rename_i hempty
    rw [List.isEmpty_iff.1 hempty, List.dropWhile_eq_nil_iff.2 h]
  · unfold List.rdropWhile
    rw [List.reverse_append, List.dropWhile_append_of_pos fun x hx => h x (by simpa using hx)]

variable {q : α → Bool}

/-- What is trimmed more is trimmed less. -/
theorem trim_of_imp (hpq : ∀ x, p x = true → q x = true) (h : trim q l = l) : trim p l = l := by
  refine trim_eq_self (fun hne => ?_) (fun hne => ?_)
  · have hhead := head_trim (p := q) (l := l) (by rwa [h])
    simp only [h] at hhead
    exact Bool.eq_false_iff.2 fun hp => Bool.eq_false_iff.1 hhead (hpq _ hp)
  · have hlast := getLast_trim (p := q) (l := l) (by rwa [h])
    simp only [h] at hlast
    exact Bool.eq_false_iff.2 fun hp => Bool.eq_false_iff.1 hlast (hpq _ hp)

theorem trim_trim_of_imp (hpq : ∀ x, p x = true → q x = true) : trim q (trim p l) = trim q l := by
  have hsplit : l = l.takeWhile p ++ (trim p l ++ (l.dropWhile p).rtakeWhile p) := by
    unfold trim
    rw [List.rdropWhile_append_rtakeWhile, List.takeWhile_append_dropWhile]
  conv_rhs => rw [hsplit]
  rw [trim_append_left fun x hx => hpq x (List.mem_takeWhile_imp hx),
    trim_append_right fun x hx => hpq x (List.mem_rtakeWhile_imp hx)]

end M8flowCore.Lib
