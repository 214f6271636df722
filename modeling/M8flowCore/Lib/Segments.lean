import Mathlib.Tactic.Common
/-!
# Segments

A list made of segments, each opened by a separator and a tag, each of them left
out or not. Where no segment holds the separator, and what follows a segment
does not open with the same tag, the segments can be read back.
-/
namespace M8flowCore.Lib
variable {α : Type} {c : α} {l l₁ l₂ r r₁ r₂ tag tag' : List α}

/-- `r` is empty or goes on with `c`. -/
def Stops (c : α) (r : List α) : Prop := ∀ x ∈ r.head?, x = c

theorem stops_nil : Stops c [] := by simp [Stops]

theorem stops_cons : Stops c (c :: r) := by simp [Stops]

/-- What comes before the first separator is the same, and so is the rest. -/
theorem append_inj_of_stops (h₁ : c ∉ l₁) (h₂ : c ∉ l₂) (hr₁ : Stops c r₁) (hr₂ : Stops c r₂) (h : l₁ ++ r₁ = l₂ ++ r₂) :
    l₁ = l₂ ∧ r₁ = r₂ := by
  induction l₁ generalizing l₂ with
  | nil =>
    cases l₂ with
    | nil => exact ⟨rfl, h⟩
    | cons y l₂ =>
      rw [List.nil_append] at h
      have hy : y = c := hr₁ y (by simp [h])
      exact absurd (by simp [hy]) h₂
  | cons x l₁ ih =>
    cases l₂ with
    | nil =>
      rw [List.nil_append] at h
      have hx : x = c := hr₂ x (by simp [← h])
      exact absurd (by simp [hx]) h₁
    | cons y l₂ =>
      obtain ⟨rfl, hrest⟩ := List.cons.inj h
      obtain ⟨rfl, hr⟩ := ih (fun hc => h₁ (by simp [hc])) (fun hc => h₂ (by simp [hc])) hrest
      exact ⟨rfl, hr⟩

/-- A part after the separator and its tag, if there is one. -/
def segment (c : α) (tag : List α) : Option (List α) → List α
  | none => []
  | some x => c :: (tag ++ x)

@[simp] theorem segment_none : segment c tag none = [] := rfl

@[simp] theorem segment_some (x : List α) : segment c tag (some x) = c :: (tag ++ x) := rfl

theorem stops_segment (x : Option (List α)) (hr : Stops c r) : Stops c (segment c tag x ++ r) := by
  cases x with
  | none => exact hr
  | some x => exact stops_cons

theorem segment_inj {x y : Option (List α)} (h : segment c tag x = segment c tag y) : x = y := by
  cases x <;> cases y <;> simp_all

/-- A rest that opens with another tag is not this segment. -/
def Other (c : α) (tag r : List α) : Prop := ∀ x, c :: (tag ++ x) ≠ r

theorem other_nil : Other c tag [] := by simp [Other]

/-- Tags that are told apart, whatever follows them. -/
theorem other_segment (htags : ∀ x y, tag ++ x ≠ tag' ++ y) (x : Option (List α)) (hr : Other c tag r) :
    Other c tag (segment c tag' x ++ r) := by
  cases x with
  | none => exact hr
  | some x =>
    intro y h
    simp only [segment_some, List.cons_append, List.append_assoc, List.cons.injEq, true_and] at h
    exact htags y (x ++ r) h

/-- An optional segment is read back, and so is what follows it. -/
theorem segment_append_inj {x y : Option (List α)} (hx : ∀ l ∈ x, c ∉ l) (hy : ∀ l ∈ y, c ∉ l) (hr₁ : Stops c r₁)
    (hr₂ : Stops c r₂) (ho₁ : Other c tag r₁) (ho₂ : Other c tag r₂) (h : segment c tag x ++ r₁ = segment c tag y ++ r₂) :
    x = y ∧ r₁ = r₂ := by
  cases x with
  | none =>
    cases y with
    | none => exact ⟨rfl, h⟩
    | some y => exact absurd (by simpa using h.symm) (ho₁ (y ++ r₂))
  | some x =>
    cases y with
    | none => exact absurd (by simpa using h) (ho₂ (x ++ r₁))
    | some y =>
      simp only [segment_some, List.cons_append, List.append_assoc, List.cons.injEq, true_and, List.append_cancel_left_eq] at h
      obtain ⟨rfl, hr⟩ := append_inj_of_stops (hx x rfl) (hy y rfl) hr₁ hr₂ h
      exact ⟨rfl, hr⟩

/-! ## A doubled separator -/

/-- `l₁` and `l₂` glued with two separators are also `r₁` and `r₂` glued, further
to the right. -/
def Shifts (c : α) (l₁ l₂ r₁ r₂ : List α) : Prop :=
  (r₁ = l₁ ++ [c] ∧ l₂ = c :: r₂) ∨ ∃ part, r₁ = l₁ ++ c :: c :: part ∧ l₂ = part ++ c :: c :: r₂

theorem Shifts.glue (h : Shifts c l₁ l₂ r₁ r₂) : l₁ ++ c :: c :: l₂ = r₁ ++ c :: c :: r₂ := by
  rcases h with ⟨rfl, rfl⟩ | ⟨part, rfl, rfl⟩ <;> simp

theorem shifts_of_append (h : c :: c :: l₂ = l ++ c :: c :: r₂) : (l = [] ∧ l₂ = r₂) ∨ Shifts c l₁ l₂ (l₁ ++ l) r₂ := by
  cases l with
  | nil => exact .inl ⟨rfl, by simpa using h⟩
  | cons x l =>
    simp only [List.cons_append, List.cons.injEq] at h
    obtain ⟨rfl, h⟩ := h
    cases l with
    | nil => exact .inr (.inl ⟨rfl, by simpa using h⟩)
    | cons y l =>
      simp only [List.cons_append, List.cons.injEq] at h
      obtain ⟨rfl, h⟩ := h
      exact .inr (.inr ⟨l, rfl, h⟩)

/-- Where two glued lists are the same, their halves are, or one pair is the
other shifted. -/
theorem glue_eq_iff : l₁ ++ c :: c :: l₂ = r₁ ++ c :: c :: r₂ ↔
    (l₁ = r₁ ∧ l₂ = r₂) ∨ Shifts c l₁ l₂ r₁ r₂ ∨ Shifts c r₁ r₂ l₁ l₂ := by
  constructor
  · intro h
    rcases List.append_eq_append_iff.1 h with ⟨l, rfl, hl⟩ | ⟨l, rfl, hl⟩
    · rcases shifts_of_append hl with ⟨rfl, rfl⟩ | hshift
      · exact .inl ⟨by simp, rfl⟩
      · exact .inr (.inl hshift)
    · rcases shifts_of_append hl with ⟨rfl, rfl⟩ | hshift
      · exact .inl ⟨by simp, rfl⟩
      · exact .inr (.inr hshift)
  · rintro (⟨rfl, rfl⟩ | h | h)
    · rfl
    · exact h.glue
    · exact h.glue.symm

end M8flowCore.Lib
