import Mathlib.Data.List.Nodup
import Mathlib.Tactic.Common
/-!
# Tables as lists of rows

A table is a list of rows with a key. `updateWhere` is `UPDATE ... WHERE`, and
`mergeTable` is what a commit writes when a transaction has worked on a copy
of the table: the rows it inserted, the columns it changed, and for everything
else whatever is committed by then.
-/
namespace M8flowCore.Lib

section Update
variable {ρ : Type} {p q : ρ → Bool} {f : ρ → ρ} {l : List ρ}

/-- Replace `r` by `f r` in every row that satisfies `p`. -/
def updateWhere (p : ρ → Bool) (f : ρ → ρ) (l : List ρ) : List ρ := l.map fun r => if p r then f r else r

@[simp] theorem updateWhere_nil : updateWhere p f [] = [] := rfl

theorem updateWhere_cons (r : ρ) : updateWhere p f (r :: l) = (if p r then f r else r) :: updateWhere p f l := rfl

theorem mem_updateWhere {r : ρ} : r ∈ updateWhere p f l ↔ ∃ r₀ ∈ l, r = if p r₀ then f r₀ else r₀ := by
  rw [updateWhere, List.mem_map]
  constructor
  · rintro ⟨r₀, h₀, rfl⟩; exact ⟨r₀, h₀, rfl⟩
  · rintro ⟨r₀, h₀, rfl⟩; exact ⟨r₀, h₀, rfl⟩

/-- An update of other columns does not show in a projection. -/
theorem map_updateWhere {κ : Type} {g : ρ → κ} (hg : ∀ r, g (f r) = g r) : (updateWhere p f l).map g = l.map g := by
  rw [updateWhere, List.map_map]
  refine List.map_congr_left fun r _ => ?_
  simp only [Function.comp_apply]
  split
  · exact hg r
  · rfl

/-- An update that no selected row takes part in leaves the selection alone. -/
theorem filter_updateWhere (hp : ∀ r ∈ l, p r = true → q r = false ∧ q (f r) = false) :
    (updateWhere p f l).filter q = l.filter q := by
  induction l with
  | nil => rfl
  | cons r l ih =>
    have ih' := ih fun r' hr' => hp r' (by simp [hr'])
    rw [updateWhere_cons]
    cases hpr : p r with
    | false => simp [List.filter_cons, ih']
    | true =>
      obtain ⟨h₁, h₂⟩ := hp r (by simp) hpr
      simp [h₁, h₂, ih']

theorem any_updateWhere (hq : ∀ r, p r = true → q (f r) = q r) : (updateWhere p f l).any q = l.any q := by
  rw [updateWhere, List.any_map]
  refine congrArg (l.any ·) (funext fun r => ?_)
  simp only [Function.comp_apply]
  split
  · rename_i hr
    exact hq r hr
  · rfl

theorem find?_updateWhere (hq : ∀ r ∈ l, p r = true → q (f r) = q r) :
    (updateWhere p f l).find? q = (l.find? q).map fun r => if p r then f r else r := by
  induction l with
  | nil => rfl
  | cons r l ih =>
    have ih' := ih fun r' hr' => hq r' (by simp [hr'])
    have hr : q (if p r = true then f r else r) = q r := by
      cases hpr : p r with
      | false => rfl
      | true => exact hq r (by simp) hpr
    rw [updateWhere_cons, List.find?_cons, List.find?_cons, hr]
    cases q r with
    | true => rfl
    | false => exact ih'

/-- A lookup sees nothing of an update of other rows. -/
theorem find?_updateWhere_of_ne (hp : ∀ r ∈ l, p r = true → q r = false ∧ q (f r) = false) :
    (updateWhere p f l).find? q = l.find? q := by
  rw [find?_updateWhere fun r hr hpr => by rw [(hp r hr hpr).1, (hp r hr hpr).2]]
  cases hl : l.find? q with
  | none => rfl
  | some r =>
    have hpr : ¬ p r = true := by
      intro h
      have := (hp r (List.mem_of_find?_eq_some hl) h).1
      rw [List.find?_some hl] at this
      exact absurd this (by simp)
    simp [hpr]

/-- An update that changes none of the rows it is for changes nothing. -/
theorem updateWhere_eq_self : updateWhere p f l = l ↔ ∀ r ∈ l, p r = true → f r = r := by
  induction l with
  | nil => simp
  | cons r l ih =>
    rw [updateWhere_cons, List.cons.injEq, ih, List.forall_mem_cons]
    refine and_congr_left fun _ => ?_
    cases p r <;> simp

theorem find?_append_of_some {r : ρ} (h : l.find? q = some r) (l' : List ρ) : (l ++ l').find? q = some r := by
  simp [List.find?_append, h]

theorem find?_append_of_none (h : l.find? q = none) (l' : List ρ) : (l ++ l').find? q = l'.find? q := by
  simp [List.find?_append, h]

end Update

/-! ## Committing a copy -/

/-- A column: the transaction's value if it changed it. -/
def pick {α : Type} [DecidableEq α] (base view committed : α) : α := if view = base then committed else view

section Merge
variable {ρ κ : Type} [DecidableEq ρ] [DecidableEq κ] (key : ρ → κ) (mergeRow : ρ → ρ → ρ → ρ)

/-- The row of `l` with key `k`. -/
def rowAt (l : List ρ) (k : κ) : Option ρ := l.find? fun r => decide (key r = k)

/-- What becomes of a row of the copy: kept if the transaction inserted it,
the committed row if it did not touch it, and otherwise its changed columns
over the committed row. -/
def mergeOne (base committed : List ρ) (r : ρ) : Option ρ :=
  match rowAt key base (key r) with
  | none => some r
  | some b =>
    if r = b then rowAt key committed (key r)
    else match rowAt key committed (key r) with
      | some c => some (mergeRow b r c)
      | none => none

/-- The table after a commit. A table the transaction left alone stays as
committed. -/
def mergeTable (base view committed : List ρ) : List ρ :=
  if view = base then committed
  else view.filterMap (mergeOne key mergeRow base committed) ++
    committed.filter fun c => (rowAt key base (key c)).isNone && (rowAt key view (key c)).isNone

/-- A commit that the database refuses: an inserted row meets a row inserted
or changed by somebody else under the same key or against a unique constraint,
or a changed row is no longer there. -/
def conflicts (clash : ρ → ρ → Bool) (base view committed : List ρ) : Bool :=
  view.any fun r => !base.contains r &&
    (committed.any (fun c => !base.contains c && ((rowAt key base (key r)).isNone && decide (key c = key r) ||
        decide (key c ≠ key r) && clash r c)) ||
      (rowAt key base (key r)).isSome && (rowAt key committed (key r)).isNone)

variable {key mergeRow} {base view committed : List ρ}

theorem pick_base {α : Type} [DecidableEq α] (b v : α) : pick b v b = v := by
  unfold pick
  split
  · rename_i h; exact h.symm
  · rfl

theorem pick_changed {α : Type} [DecidableEq α] {b v : α} (h : v ≠ b) (c : α) : pick b v c = v := if_neg h

theorem pick_agree {α : Type} [DecidableEq α] {b v c : α} (h : c = v) : pick b v c = v := by
  unfold pick
  split
  · exact h
  · rfl

theorem pick_or {α : Type} [DecidableEq α] (b v c : α) : pick b v c = v ∨ pick b v c = c := by
  unfold pick
  split
  · exact .inr rfl
  · exact .inl rfl

@[simp] theorem pick_same {α : Type} [DecidableEq α] (b c : α) : pick b b c = c := if_pos rfl

omit [DecidableEq ρ] in
theorem rowAt_some {l : List ρ} {k : κ} {r : ρ} (h : rowAt key l k = some r) : key r = k ∧ r ∈ l :=
  ⟨by simpa using List.find?_some h, List.mem_of_find?_eq_some h⟩

@[simp] theorem mergeTable_untouched : mergeTable key mergeRow base base committed = committed := if_pos rfl

/-- Where nobody else has committed, the copy is what is committed. -/
theorem mergeTable_current (hrow : ∀ b r, mergeRow b r b = r) : mergeTable key mergeRow base view base = view := by
  unfold mergeTable
  split
  · rename_i h; exact h.symm
  · have hone : ∀ r, mergeOne key mergeRow base base r = some r := by
      intro r
      unfold mergeOne
      cases hb : rowAt key base (key r) with
      | none => rfl
      | some b =>
        by_cases hr : r = b
        · simp [hr]
        · simp [hr, hrow]
    have hold : ∀ c ∈ base, (rowAt key base (key c)).isNone = false := by
      intro c hc
      simp only [rowAt, Option.isNone_eq_false_iff, List.find?_isSome]
      exact ⟨c, hc, by simp⟩
    have hnew : base.filter (fun c => (rowAt key base (key c)).isNone && (rowAt key view (key c)).isNone) = [] := by
      rw [List.filter_eq_nil_iff]
      intro c hc
      simp [hold c hc]
    rw [hnew, List.append_nil]
    exact (List.filterMap_congr fun r _ => hone r).trans List.filterMap_some

/-- A row that was committed behind a session's back joins the session's rows. -/
theorem mergeTable_append (hrow : ∀ b r, mergeRow b r b = r) {row : ρ} (hbase : ∀ r ∈ base, key r ≠ key row)
    (hview : ∀ r ∈ view, key r ≠ key row) : mergeTable key mergeRow base view (base ++ [row]) = view ++ [row] := by
  have hone : ∀ r ∈ view, mergeOne key mergeRow base (base ++ [row]) r = some r := by
    intro r hr
    unfold mergeOne
    cases hb : rowAt key base (key r) with
    | none => rfl
    | some b =>
      have hc : rowAt key (base ++ [row]) (key r) = some b := find?_append_of_some hb _
      simp only [hc, hrow]
      split
      · rename_i heq
        rw [heq]
      · rfl
  have hkept : view.filterMap (mergeOne key mergeRow base (base ++ [row])) = view := by
    rw [List.filterMap_congr hone, List.filterMap_some]
  have hnew : (base ++ [row]).filter (fun c => (rowAt key base (key c)).isNone && (rowAt key view (key c)).isNone) = [row] := by
    have hold : base.filter (fun c => (rowAt key base (key c)).isNone && (rowAt key view (key c)).isNone) = [] := by
      rw [List.filter_eq_nil_iff]
      intro r hr
      have : (rowAt key base (key r)).isSome := by
        unfold rowAt
        rw [List.find?_isSome]
        exact ⟨r, hr, by simp⟩
      simp [Option.isNone_iff_eq_none, Option.isSome_iff_ne_none.1 this]
    have hnone : ∀ l : List ρ, (∀ r ∈ l, key r ≠ key row) → rowAt key l (key row) = none := by
      intro l hl
      refine List.find?_eq_none.2 fun r hr => ?_
      simpa using hl r hr
    rw [List.filter_append, hold]
    simp [hnone base hbase, hnone view hview]
  unfold mergeTable
  split
  · rename_i heq
    rw [heq]
  · rw [hkept, hnew]

theorem conflicts_current (clash : ρ → ρ → Bool) : conflicts key clash base view base = false := by
  unfold conflicts
  rw [List.any_eq_false]
  intro r hr
  have hany : (base.any fun c => !base.contains c && ((rowAt key base (key r)).isNone && decide (key c = key r) ||
      decide (key c ≠ key r) && clash r c)) = false := by
    rw [List.any_eq_false]
    intro c hc
    simp [hc]
  rw [hany]
  cases rowAt key base (key r) <;> simp

theorem mergeOne_key (hkey : ∀ b r c, key b = key r → key c = key r → key (mergeRow b r c) = key r) {r r' : ρ}
    (h : mergeOne key mergeRow base committed r = some r') : key r' = key r := by
  unfold mergeOne at h
  split at h
  · simp at h; rw [← h]
  · rename_i b hb
    split at h
    · exact (rowAt_some h).1
    · split at h
      · rename_i c hc
        simp at h
        rw [← h]
        exact hkey b r c (rowAt_some hb).1 (rowAt_some hc).1
      · simp at h

/-- Where a row of the merged table comes from. -/
theorem mem_mergeTable {r : ρ} (h : r ∈ mergeTable key mergeRow base view committed) :
    r ∈ view ∨ r ∈ committed ∨ ∃ b v c, v ∈ view ∧ c ∈ committed ∧ key c = key v ∧ r = mergeRow b v c := by
  unfold mergeTable at h
  split at h
  · exact .inr (.inl h)
  · rcases List.mem_append.1 h with h | h
    · obtain ⟨v, hv, hone⟩ := List.mem_filterMap.1 h
      unfold mergeOne at hone
      split at hone
      · rw [Option.some.injEq] at hone
        exact .inl (hone ▸ hv)
      · rename_i b _
        split at hone
        · exact .inr (.inl (rowAt_some hone).2)
        · split at hone
          · rename_i c hc
            rw [Option.some.injEq] at hone
            exact .inr (.inr ⟨b, v, c, hv, (rowAt_some hc).2, (rowAt_some hc).1, hone.symm⟩)
          · simp at hone
    · exact .inr (.inl (List.mem_filter.1 h).1)

omit [DecidableEq ρ] in
theorem rowAt_isSome {l : List ρ} {k : κ} : (rowAt key l k).isSome ↔ ∃ r ∈ l, key r = k := by
  simp [rowAt]

/-- Where nothing is deleted, no key of either side is lost. -/
theorem mergeTable_keys (hkey : ∀ b r c, key c = key r → key (mergeRow b r c) = key r)
    (hview : ∀ b ∈ base, ∃ r ∈ view, key r = key b) (hcommitted : ∀ b ∈ base, ∃ r ∈ committed, key r = key b) {k : κ}
    (h : (∃ r ∈ view, key r = k) ∨ ∃ r ∈ committed, key r = k) :
    ∃ r ∈ mergeTable key mergeRow base view committed, key r = k := by
  unfold mergeTable
  split
  · rename_i heq
    rcases h with ⟨r, hr, rfl⟩ | h
    · exact hcommitted r (heq ▸ hr)
    · exact h
  · have hrow : ∀ r ∈ view, ∃ r', mergeOne key mergeRow base committed r = some r' ∧ key r' = key r := by
      intro r _
      unfold mergeOne
      cases hb : rowAt key base (key r) with
      | none => exact ⟨r, rfl, rfl⟩
      | some b =>
        obtain ⟨c₀, hc₀, hkc₀⟩ := hcommitted b (rowAt_some hb).2
        have hsome : (rowAt key committed (key r)).isSome :=
          rowAt_isSome.2 ⟨c₀, hc₀, hkc₀.trans (rowAt_some hb).1⟩
        obtain ⟨c, hc⟩ := Option.isSome_iff_exists.1 hsome
        dsimp only
        split
        · exact ⟨c, hc, (rowAt_some hc).1⟩
        · exact ⟨mergeRow b r c, by rw [hc], hkey b r c (rowAt_some hc).1⟩
    have hin : (∃ r ∈ view, key r = k) → ∃ r ∈ view.filterMap (mergeOne key mergeRow base committed) ++
        committed.filter (fun c => (rowAt key base (key c)).isNone && (rowAt key view (key c)).isNone), key r = k := by
      rintro ⟨r, hr, rfl⟩
      obtain ⟨r', hone, hk⟩ := hrow r hr
      exact ⟨r', List.mem_append_left _ (List.mem_filterMap.2 ⟨r, hr, hone⟩), hk⟩
    rcases h with h | ⟨c, hc, rfl⟩
    · exact hin h
    · by_cases hold : ∃ r ∈ view, key r = key c
      · exact hin hold
      · refine ⟨c, List.mem_append_right _ (List.mem_filter.2 ⟨hc, ?_⟩), rfl⟩
        have hnew : rowAt key view (key c) = none := by
          rw [← Option.not_isSome_iff_eq_none, rowAt_isSome]
          exact hold
        have hbase : rowAt key base (key c) = none := by
          rw [← Option.not_isSome_iff_eq_none, rowAt_isSome]
          rintro ⟨b, hb, hkb⟩
          obtain ⟨r, hr, hkr⟩ := hview b hb
          exact hold ⟨r, hr, hkr.trans hkb⟩
        simp [hnew, hbase]

theorem mergeOne_sublist (hkey : ∀ b r c, key c = key r → key (mergeRow b r c) = key r) (base view committed : List ρ) :
    ((view.filterMap (mergeOne key mergeRow base committed)).map key).Sublist (view.map key) := by
  induction view with
  | nil => exact List.Sublist.refl _
  | cons r view ih =>
    rw [List.filterMap_cons]
    cases hone : mergeOne key mergeRow base committed r with
    | none => exact ih.trans (List.sublist_cons_self _ _)
    | some r' =>
      have hk : key r' = key r := mergeOne_key (fun b r c _ hc => hkey b r c hc) hone
      simp only [List.map_cons, hk]
      exact ih.cons_cons _

/-- Keys stay unique. -/
theorem nodup_mergeTable (hkey : ∀ b r c, key c = key r → key (mergeRow b r c) = key r)
    (hview : (view.map key).Nodup) (hcommitted : (committed.map key).Nodup) :
    ((mergeTable key mergeRow base view committed).map key).Nodup := by
  unfold mergeTable
  split
  · exact hcommitted
  · have hsub := mergeOne_sublist hkey base view committed
    rw [List.map_append]
    refine List.Nodup.append (hview.sublist hsub) (hcommitted.sublist (List.filter_sublist.map key)) ?_
    intro k hk₁ hk₂
    obtain ⟨c, hc, rfl⟩ := List.mem_map.1 hk₂
    have hfree := (List.mem_filter.1 hc).2
    simp only [Bool.and_eq_true, Option.isNone_iff_eq_none] at hfree
    obtain ⟨r, hr, hkr⟩ := List.mem_map.1 (hsub.subset hk₁)
    have := rowAt_isSome.2 ⟨r, hr, hkr⟩
    rw [hfree.2] at this
    simp at this

/-- A row of the copy is found again in the merged table as `mergeOne` leaves it. -/
theorem rowAt_mergeTable (hkey : ∀ b r c, key b = key r → key c = key r → key (mergeRow b r c) = key r) {k : κ}
    {r r' : ρ} (hview : view ≠ base) (hr : rowAt key view k = some r)
    (hone : mergeOne key mergeRow base committed r = some r') :
    rowAt key (mergeTable key mergeRow base view committed) k = some r' := by
  unfold mergeTable
  rw [if_neg hview]
  have hk := (rowAt_some hr).1
  have h : rowAt key (view.filterMap (mergeOne key mergeRow base committed)) k = some r' := by
    clear hview
    induction view with
    | nil => simp [rowAt] at hr
    | cons x view ih =>
      rw [rowAt, List.find?_cons] at hr
      by_cases hx : key x = k
      · simp only [hx, decide_true, Option.some.injEq] at hr
        subst hr
        rw [List.filterMap_cons, hone]
        have hk' := mergeOne_key hkey hone
        simp [rowAt, hk', hx]
      · simp only [hx, decide_false] at hr
        rw [List.filterMap_cons]
        cases hox : mergeOne key mergeRow base committed x with
        | none => exact ih hr
        | some x' =>
          have hk' := mergeOne_key hkey hox
          simp only [rowAt, List.find?_cons, hk', hx, decide_false]
          exact ih hr
  exact find?_append_of_some h _

/-- A row that only others have is found in the merged table as it is there. -/
theorem rowAt_mergeTable_of_new (hkey : ∀ b r c, key b = key r → key c = key r → key (mergeRow b r c) = key r) {k : κ}
    (hbase : ∀ r ∈ base, key r ≠ k) (hview : ∀ r ∈ view, key r ≠ k) :
    rowAt key (mergeTable key mergeRow base view committed) k = rowAt key committed k := by
  unfold mergeTable
  split
  · rfl
  · have hnone : rowAt key (view.filterMap (mergeOne key mergeRow base committed)) k = none := by
      refine List.find?_eq_none.2 fun r' hr' => ?_
      obtain ⟨r, hr, hone⟩ := List.mem_filterMap.1 hr'
      rw [mergeOne_key hkey hone]
      simpa using hview r hr
    have hfree : ∀ {l : List ρ}, (∀ r ∈ l, key r ≠ k) → rowAt key l k = none := fun h =>
      List.find?_eq_none.2 fun r hr => by simpa using h r hr
    have hnew : ∀ c : ρ, key c = k → ((rowAt key base (key c)).isNone && (rowAt key view (key c)).isNone) = true := by
      intro c hc
      rw [hc, hfree hbase, hfree hview]
      rfl
    unfold rowAt at hnone ⊢
    rw [List.find?_append, hnone, Option.none_or, List.find?_filter]
    congr 1
    funext c
    by_cases hc : key c = k
    · have := hnew c hc
      unfold rowAt at this
      simp [hc] at this ⊢
      exact this
    · simp [hc]

/-- The row under a key in the merged table: the row of the copy over the one it
was copied from and the committed one. -/
theorem rowAt_mergeTable_eq (hkey : ∀ b r c, key b = key r → key c = key r → key (mergeRow b r c) = key r) {k : κ}
    (hkept : (rowAt key base k).isSome → (rowAt key view k).isSome) :
    rowAt key (mergeTable key mergeRow base view committed) k =
      (rowAt key view k).elim (rowAt key committed k) fun r => (rowAt key base k).elim (some r) fun b =>
        if r = b then rowAt key committed k else (rowAt key committed k).map (mergeRow b r) := by
  by_cases hview : view = base
  · rw [hview, mergeTable_untouched]
    cases rowAt key base k <;> simp
  cases hr : rowAt key view k with
  | none =>
    have hfree : ∀ {l : List ρ}, rowAt key l k = none → ∀ r ∈ l, key r ≠ k := fun hl r hr => by
      simpa using List.find?_eq_none.1 hl r hr
    refine rowAt_mergeTable_of_new hkey (hfree ?_) (hfree hr)
    rw [← Option.not_isSome_iff_eq_none]
    intro hbase
    have := hkept hbase
    rw [hr] at this
    simp at this
  | some r =>
    -- The first row under the key decides, or none of them stays.
    have hone : ∀ r' ∈ view, key r' = k → mergeOne key mergeRow base committed r' =
        (rowAt key base k).elim (some r') fun b =>
          if r' = b then rowAt key committed k else (rowAt key committed k).map (mergeRow b r') := by
      intro r' _ hk
      unfold mergeOne
      rw [hk]
      cases rowAt key base k with
      | none => rfl
      | some b => cases rowAt key committed k <;> simp
    obtain ⟨hk, hmem⟩ := rowAt_some hr
    cases hout : mergeOne key mergeRow base committed r with
    | some r' =>
      rw [rowAt_mergeTable hkey hview hr hout, ← hout, hone r hmem hk]
      rfl
    | none =>
      rw [hone r hmem hk] at hout
      rw [Option.elim_some, hout]
      cases hb : rowAt key base k with
      | none => simp [hb] at hout
      | some b =>
        rw [hb] at hout
        have hgone : rowAt key committed k = none := by
          cases hc : rowAt key committed k with
          | none => rfl
          | some c =>
            rw [hc, Option.elim_some] at hout
            split at hout <;> simp at hout
        refine List.find?_eq_none.2 fun x hx => ?_
        simp only [decide_eq_true_eq]
        intro hxk
        unfold mergeTable at hx
        rw [if_neg hview] at hx
        rcases List.mem_append.1 hx with hx | hx
        · obtain ⟨r', hr', hone'⟩ := List.mem_filterMap.1 hx
          rw [hone r' hr' ((mergeOne_key hkey hone').symm.trans hxk), hb, hgone] at hone'
          simp at hone'
        · exact List.find?_eq_none.1 hgone x (List.mem_filter.1 hx).1 (by simpa using hxk)

/-- A row on which the two sides agree is found in the merged table as it is in
the copy. -/
theorem rowAt_mergeTable_of_agree (hrow : ∀ b r, mergeRow b r b = r)
    (hkey : ∀ b r c, key b = key r → key c = key r → key (mergeRow b r c) = key r) {k : κ}
    (h : rowAt key committed k = rowAt key base k) :
    rowAt key (mergeTable key mergeRow base view committed) k = rowAt key view k := by
  by_cases hview : view = base
  · rw [hview, mergeTable_untouched, h]
  · cases hr : rowAt key view k with
    | some r =>
      obtain rfl := (rowAt_some hr).1
      refine rowAt_mergeTable hkey hview hr ?_
      unfold mergeOne
      cases hb : rowAt key base (key r) with
      | none => rfl
      | some b =>
        rw [hb] at h
        dsimp only
        split
        · rename_i heq
          rw [h, heq]
        · rw [h]
          exact congrArg some (hrow b r)
    | none =>
      refine List.find?_eq_none.2 fun x hx => ?_
      simp only [decide_eq_true_eq]
      intro hxk
      unfold mergeTable at hx
      rw [if_neg hview] at hx
      rcases List.mem_append.1 hx with hx | hx
      · obtain ⟨v, hv, hone⟩ := List.mem_filterMap.1 hx
        have := List.find?_eq_none.1 hr v hv
        exact this (by simpa using (mergeOne_key hkey hone).symm.trans hxk)
      · obtain ⟨hc, hfree⟩ := List.mem_filter.1 hx
        simp only [Bool.and_eq_true, Option.isNone_iff_eq_none, hxk] at hfree
        rw [hfree.1] at h
        exact List.find?_eq_none.1 h x hc (by simpa using hxk)

/-- A row that is still committed is found in the merged table as in the copy,
as committed, or as the merge of the two. -/
theorem rowAt_mergeTable_of_shared (hkey : ∀ b r c, key b = key r → key c = key r → key (mergeRow b r c) = key r) {k : κ}
    {r : ρ} (hr : rowAt key view k = some r) (hkept : ∀ b ∈ base, ∃ c ∈ committed, key c = key b) :
    ∃ r', rowAt key (mergeTable key mergeRow base view committed) k = some r' ∧
      (r' = r ∨ ∃ c, rowAt key committed k = some c ∧ (r' = c ∨ ∃ b, r' = mergeRow b r c)) := by
  have hk := (rowAt_some hr).1
  have hfound : ∀ b ∈ base, key b = k → ∃ c, rowAt key committed k = some c := by
    intro b hb hbk
    obtain ⟨c, hc, hck⟩ := hkept b hb
    exact Option.isSome_iff_exists.1 (rowAt_isSome.2 ⟨c, hc, hck.trans hbk⟩)
  by_cases hview : view = base
  · rw [hview, mergeTable_untouched]
    obtain ⟨c, hc⟩ := hfound r (hview ▸ (rowAt_some hr).2) hk
    exact ⟨c, hc, .inr ⟨c, hc, .inl rfl⟩⟩
  · cases hb : rowAt key base k with
    | none =>
      refine ⟨r, rowAt_mergeTable hkey hview hr ?_, .inl rfl⟩
      simp [mergeOne, hk, hb]
    | some b =>
      obtain ⟨c, hc⟩ := hfound b (rowAt_some hb).2 (rowAt_some hb).1
      by_cases hrb : r = b
      · refine ⟨c, rowAt_mergeTable hkey hview hr ?_, .inr ⟨c, hc, .inl rfl⟩⟩
        simp [mergeOne, hb, hrb ▸ hk, hc, hrb]
      · refine ⟨mergeRow b r c, rowAt_mergeTable hkey hview hr ?_, .inr ⟨c, hc, .inr ⟨b, rfl⟩⟩⟩
        simp [mergeOne, hk, hb, hrb, hc]

/-- Rows on which the two sides agree are in the merged table as they are in
the copy. -/
theorem filter_mergeTable_of_agree {p : ρ → Bool} (hrow : ∀ b r, mergeRow b r b = r)
    (hunique : ∀ c ∈ committed, ∀ c' ∈ committed, key c = key c' → c = c')
    (hbase : ∀ b ∈ base, ∀ r ∈ view, key b = key r → p b = p r)
    (hcommitted : ∀ c ∈ committed, ∀ r ∈ view, key c = key r → p c = p r)
    (hmerge : ∀ b, ∀ r ∈ view, ∀ c ∈ committed, key c = key r → p (mergeRow b r c) = p r)
    (h : committed.filter p = base.filter p) :
    (mergeTable key mergeRow base view committed).filter p = view.filter p := by
  by_cases hview : view = base
  · rw [hview, mergeTable_untouched, h]
  have hold : ∀ r ∈ view, p r = true → mergeOne key mergeRow base committed r = some r := by
    intro r hr hp
    unfold mergeOne
    cases hb : rowAt key base (key r) with
    | none => rfl
    | some b =>
      obtain ⟨hbk, hmem⟩ := rowAt_some hb
      have hboth : b ∈ committed.filter p := by
        rw [h]
        exact List.mem_filter.2 ⟨hmem, (hbase b hmem r hr hbk).trans hp⟩
      have hbc := (List.mem_filter.1 hboth).1
      have hfound : rowAt key committed (key r) = some b := by
        obtain ⟨c, hc⟩ := Option.isSome_iff_exists.1 (rowAt_isSome.2 ⟨b, hbc, hbk⟩)
        obtain ⟨hck, hcm⟩ := rowAt_some hc
        rw [hc, hunique c hcm b hbc (hck.trans hbk.symm)]
      dsimp only
      split
      · rename_i heq
        rw [hfound, heq]
      · rw [hfound]
        exact congrArg some (hrow b r)
  have hother : ∀ r ∈ view, p r = false → ∀ r', mergeOne key mergeRow base committed r = some r' → p r' = false := by
    intro r hr hp r' hone
    unfold mergeOne at hone
    split at hone
    · rw [Option.some.injEq] at hone
      rwa [← hone]
    · split at hone
      · obtain ⟨hck, hcm⟩ := rowAt_some hone
        rw [hcommitted r' hcm r hr hck, hp]
      · split at hone
        · rename_i c hc
          obtain ⟨hck, hcm⟩ := rowAt_some hc
          rw [Option.some.injEq] at hone
          rw [← hone, hmerge _ r hr c hcm hck, hp]
        · simp at hone
  have hnew : (committed.filter fun c => (rowAt key base (key c)).isNone && (rowAt key view (key c)).isNone).filter p =
      [] := by
    refine List.filter_eq_nil_iff.2 fun c hc hp => ?_
    obtain ⟨hcm, hfree⟩ := List.mem_filter.1 hc
    have hboth : c ∈ base.filter p := by
      rw [← h]
      exact List.mem_filter.2 ⟨hcm, hp⟩
    have hsome : (rowAt key base (key c)).isSome := rowAt_isSome.2 ⟨c, (List.mem_filter.1 hboth).1, rfl⟩
    simp only [Bool.and_eq_true, Option.isNone_iff_eq_none] at hfree
    rw [hfree.1] at hsome
    simp at hsome
  have hkept : (view.filterMap (mergeOne key mergeRow base committed)).filter p = view.filter p := by
    clear hview hbase hcommitted hmerge hnew
    induction view with
    | nil => rfl
    | cons r view ih =>
      have ih := ih (fun x hx => hold x (by simp [hx])) fun x hx => hother x (by simp [hx])
      cases hp : p r with
      | true => rw [List.filterMap_cons, hold r (by simp) hp, List.filter_cons, List.filter_cons, hp, if_pos rfl, if_pos rfl, ih]
      | false =>
        rw [List.filterMap_cons, List.filter_cons, hp, if_neg (by simp)]
        cases hone : mergeOne key mergeRow base committed r with
        | none => exact ih
        | some r' =>
          dsimp only
          rw [List.filter_cons, hother r (by simp) hp r' hone, if_neg (by simp), ih]
  unfold mergeTable
  rw [if_neg hview, List.filter_append, hkept, hnew, List.append_nil]

end Merge
end M8flowCore.Lib
