import M8flowCore.PhaseSteps
/-!
# Allowed phases

Which phases an instance may have after one operation, if it had the phase `p₀`
before. What the session read, its copy and what is committed are all allowed,
and so is what a commit merges from them: the session and a session of the
library's own write the phase of one instance only after an `error`, or when
the caller's session has created it.
-/
open M8flowCore.Lib M8flowCore.Session

namespace M8flowCore

/-! ## One change of status -/

/-- An end exactly when the status is terminal. -/
def Phase.Ended (p : Phase) : Prop := p.endedAt.isSome = p.status.isTerminal

/-- How a status may change for causes in `C`. -/
structure Permitted (C : Cause → Prop) (a b : Option ProcessInstanceStatus) : Prop where
  stays : a.isSome → b.isSome
  absorbing : a = some .complete ∨ a = some .terminated → b = a
  error_left : a = some .error → b ≠ some .error → C .retry
  suspended_entered : b = some .suspended → a ≠ some .suspended → C .suspend
  notStarted_entered : b = some .notStarted → a = none ∨ a = some .notStarted

section
variable {C : Cause → Prop}

theorem Permitted.refl (a : Option ProcessInstanceStatus) : Permitted C a a where
  stays h := h
  absorbing _ := rfl
  error_left h hne := absurd h hne
  suspended_entered h hne := absurd h hne
  notStarted_entered h := .inr h

theorem Permitted.trans {a b c : Option ProcessInstanceStatus} (h₁ : Permitted C a b) (h₂ : Permitted C b c) :
    Permitted C a c where
  stays h := h₂.stays (h₁.stays h)
  absorbing h := by
    have hb := h₁.absorbing h
    rw [h₂.absorbing (by rwa [hb]), hb]
  error_left h hne := by
    by_cases hb : b = some .error
    · exact h₂.error_left hb hne
    · exact h₁.error_left h hb
  suspended_entered h hne := by
    by_cases hb : b = some .suspended
    · exact h₁.suspended_entered hb hne
    · exact h₂.suspended_entered h hb
  notStarted_entered h := by
    rcases h₂.notStarted_entered h with hb | hb
    · have hnone := h₁.stays
      rw [hb] at hnone
      cases a with
      | none => exact .inl rfl
      | some a => simp at hnone
    · exact h₁.notStarted_entered hb

theorem Permitted.mono {C' : Cause → Prop} {a b : Option ProcessInstanceStatus} (h : Permitted C a b) (hC : ∀ c, C c → C' c) :
    Permitted C' a b where
  stays := h.stays
  absorbing := h.absorbing
  error_left herror hne := hC _ (h.error_left herror hne)
  suspended_entered hsuspended hne := hC _ (h.suspended_entered hsuspended hne)
  notStarted_entered := h.notStarted_entered

theorem Phase.OfWorkflow.ended {p : Phase} (h : p.OfWorkflow) : p.Ended := by
  unfold Phase.Ended
  rcases h with ⟨hstatus, hend⟩ | ⟨hstatus | hstatus | hstatus, hend⟩ <;>
    simp [hstatus, hend, ProcessInstanceStatus.isTerminal]

theorem Phase.OfWorkflow.status {p : Phase} (h : p.OfWorkflow) :
    p.status ≠ .suspended ∧ p.status ≠ .notStarted ∧ p.status ≠ .error := by
  rcases h with ⟨hstatus, -⟩ | ⟨hstatus | hstatus | hstatus, -⟩ <;> simp [hstatus]

/-- What a saved workflow can make of a life that is not over. -/
theorem Phase.OfWorkflow.permitted {p q : Phase} (h : q.OfWorkflow)
    (hp : p.status.isTerminal = false ∨ p.status = .error ∧ C .retry) : Permitted C (some p.status) (some q.status) := by
  refine ⟨fun h => h, fun hover => ?_, fun herror _ => ?_, fun hq => ?_, fun hq => ?_⟩
  · rcases hp with hp | ⟨hp, -⟩ <;> rcases hover with hover | hover <;> simp only [Option.some.injEq] at hover <;>
      simp [hover, ProcessInstanceStatus.isTerminal] at hp
  · rcases hp with hp | ⟨-, hC⟩
    · simp only [Option.some.injEq] at herror
      simp [herror, ProcessInstanceStatus.isTerminal] at hp
    · exact hC
  · exact absurd (Option.some.inj hq) h.status.1
  · exact absurd (Option.some.inj hq) h.status.2.1

/-- A status that is not over may become anything but `not_started`, and
`suspended` for a reason. -/
theorem Permitted.of_running {p q : ProcessInstanceStatus} (hp : p.isTerminal = false) (hq : q ≠ .notStarted)
    (hsuspend : q = .suspended → C .suspend) : Permitted C (some p) (some q) := by
  refine ⟨fun h => h, fun hover => ?_, fun herror => ?_, fun h _ => hsuspend (Option.some.inj h), fun h => ?_⟩
  · rcases hover with hover | hover <;> simp only [Option.some.injEq] at hover <;>
      simp [hover, ProcessInstanceStatus.isTerminal] at hp
  · simp only [Option.some.injEq] at herror
    simp [herror, ProcessInstanceStatus.isTerminal] at hp
  · exact absurd (Option.some.inj h) hq

/-- The status of a phase, if there is one. -/
def statusOfPhase (p : Option Phase) : Option ProcessInstanceStatus := p.map (·.status)

/-! ## Classes of phases -/

/-- The phase may follow `p₀`, and it has an end exactly when it is terminal. -/
structure Good (C : Cause → Prop) (p₀ p : Option Phase) : Prop where
  permitted : Permitted C (statusOfPhase p₀) (statusOfPhase p)
  ended : ∀ q, p = some q → q.Ended

/-- In `error`, with an end. -/
def Failed (p : Option Phase) : Prop := ∃ t, p = some ⟨.error, some t⟩

structure Allowed (C : Cause → Prop) (p₀ b v c : Option Phase) : Prop where
  base : Good C p₀ b
  view : Good C p₀ v
  committed : Good C p₀ c

/-- A retry has taken the instance out of `error`, or this session has created
it: what the session writes wins, column by column. -/
structure Loose (C : Cause → Prop) (p₀ b v c : Option Phase) : Prop extends Allowed C p₀ b v c where
  loose : C .retry ∧ Failed b ∧ Failed c ∨ b = none ∧ c = none

/-- Nobody has written the phase, or the session may go on writing it. -/
def Free (C : Cause → Prop) (p₀ : Option Phase) : Phases := fun b v c => Allowed C p₀ b v c ∧ v = b ∧ c = b ∨ Loose C p₀ b v c

/-- Not both the session and one beside it have written the phase, or the
session may go on writing it. -/
def Final (C : Cause → Prop) (p₀ : Option Phase) : Phases := fun b v c =>
  Allowed C p₀ b v c ∧ (c = b ∨ v = b) ∨ Loose C p₀ b v c

/-- Besides, a retry may follow. -/
def Spent (C : Cause → Prop) (p₀ : Option Phase) : Phases := fun b v c =>
  Final C p₀ b v c ∧ ∀ p, v = some p → p.status = .error → Failed b ∧ Failed c

section
variable {p₀ b v c : Option Phase} {p q : Phase}

theorem Good.write (h : Good C p₀ (some p)) (hpermitted : Permitted C (some p.status) (some q.status)) (hend : q.Ended) :
    Good C p₀ (some q) := by
  exact ⟨h.permitted.trans hpermitted, fun _ hq => Option.some.inj hq ▸ hend⟩

theorem Good.isSome (h : Good C p₀ v) (hp₀ : p₀.isSome) : v.isSome := by
  have := h.permitted.stays (by simpa [statusOfPhase] using hp₀)
  simpa [statusOfPhase] using this

theorem Good.of_none (h : Good C p₀ none) : p₀ = none := by
  cases p₀ with
  | none => rfl
  | some p => exact absurd (h.isSome rfl) (by simp)

theorem failed_of_ended (hend : p.Ended) (herror : p.status = .error) : Failed (some p) := by
  obtain ⟨status, endedAt⟩ := p
  obtain rfl : status = .error := herror
  cases endedAt with
  | none => simp [Phase.Ended, ProcessInstanceStatus.isTerminal] at hend
  | some t => exact ⟨t, rfl⟩

/-- Whatever is written after a retry or a creation is allowed. -/
theorem Loose.any (h : Loose C p₀ b v c) (hsuspended : q.status ≠ .suspended) (hstarted : q.status ≠ .notStarted)
    (hend : q.Ended) : Good C p₀ (some q) := by
  refine ⟨?_, fun _ hq => Option.some.inj hq ▸ hend⟩
  rcases h.loose with ⟨hretry, ⟨t, rfl⟩, -⟩ | ⟨rfl, -⟩
  · refine ⟨fun _ => rfl, fun hover => ?_, fun _ _ => hretry, fun hq => absurd (Option.some.inj hq) hsuspended,
      fun hq => absurd (Option.some.inj hq) hstarted⟩
    have hsame := h.base.permitted.absorbing hover
    rw [← hsame] at hover
    simp [statusOfPhase] at hover
  · rw [h.base.of_none]
    exact ⟨fun hp => by simp [statusOfPhase] at hp, fun hp => by simp [statusOfPhase] at hp, fun hp => by simp [statusOfPhase] at hp,
      fun hq => absurd (Option.some.inj hq) hsuspended, fun hq => absurd (Option.some.inj hq) hstarted⟩

theorem Loose.write (h : Loose C p₀ b v c) (hq : Good C p₀ (some q)) : Loose C p₀ b (some q) c :=
  ⟨⟨h.base, hq, h.committed⟩, h.loose⟩

/-- A session beside it may take the instance to `error` anew. -/
theorem Loose.fail (h : Loose C p₀ b v (some q)) (t : Time) : Loose C p₀ b v (some ⟨.error, some t⟩) := by
  rcases h.loose with ⟨hretry, hb, ⟨t', hc⟩⟩ | ⟨-, hc⟩
  · obtain rfl := Option.some.inj hc
    refine ⟨⟨h.base, h.view, h.committed.write (.refl _) rfl⟩, .inl ⟨hretry, hb, t, rfl⟩⟩
  · cases hc

theorem Loose.final (h : Loose C p₀ b v c) : Final C p₀ b v c := .inr h

theorem Free.final (h : Free C p₀ b v c) : Final C p₀ b v c := h.imp_left fun h => ⟨h.1, .inl h.2.2⟩

theorem Final.allowed (h : Final C p₀ b v c) : Allowed C p₀ b v c := h.elim (fun h => h.1) fun h => h.toAllowed

theorem Free.spent (hp₀ : p₀.isSome) (h : Free C p₀ b v c) : Spent C p₀ b v c := by
  refine ⟨h.final, ?_⟩
  rintro p rfl herror
  rcases h with ⟨hallowed, rfl, rfl⟩ | h
  · have hfailed := failed_of_ended (hallowed.view.ended p rfl) herror
    exact ⟨hfailed, hfailed⟩
  · rcases h.loose with ⟨-, hb, hc⟩ | ⟨rfl, -⟩
    · exact ⟨hb, hc⟩
    · rw [h.base.of_none] at hp₀
      cases hp₀

/-- A write of the session, where nobody else has written. -/
theorem Free.write (h : Free C p₀ b (some p) c) (hpermitted : Permitted C (some p.status) (some q.status)) (hend : q.Ended) :
    Final C p₀ b (some q) c := by
  rcases h with ⟨hallowed, -, hc⟩ | h
  · exact .inl ⟨⟨hallowed.base, hallowed.view.write hpermitted hend, hallowed.committed⟩, .inl hc⟩
  · exact .inr (h.write (h.view.write hpermitted hend))

/-- Out of `error`, for a retry. -/
theorem loose_of_error (hallowed : Allowed C p₀ b v c) (hretry : C .retry) (hb : Failed b) (hc : Failed c) :
    Loose C p₀ b v c := ⟨hallowed, .inl ⟨hretry, hb, hc⟩⟩

theorem Free.out (hretry : C .retry) (h : Free C p₀ b (some p) c) (herror : p.status = .error) :
    Loose C p₀ b (some ⟨.running, none⟩) c := by
  have hloose : Loose C p₀ b (some p) c := by
    rcases h with ⟨hallowed, hv, rfl⟩ | h
    · subst hv
      have hfailed := failed_of_ended (hallowed.view.ended p rfl) herror
      exact loose_of_error hallowed hretry hfailed hfailed
    · exact h
  exact hloose.write (hloose.any (by simp) (by simp) rfl)

theorem Spent.out (hretry : C .retry) (h : Spent C p₀ b (some p) c) (herror : p.status = .error) :
    Loose C p₀ b (some ⟨.running, none⟩) c := by
  obtain ⟨hb, hc⟩ := h.2 p rfl herror
  have hloose := loose_of_error h.1.allowed hretry hb hc
  exact hloose.write (hloose.any (by simp) (by simp) rfl)

/-! ## Merges -/

theorem Loose.merge (h : Loose C p₀ b v c) : Loose C p₀ c (mergePhase b v c) c := by
  rcases h.loose with ⟨hretry, ⟨t, rfl⟩, ⟨t', rfl⟩⟩ | ⟨rfl, rfl⟩
  · refine loose_of_error ⟨h.committed, ?_, h.committed⟩ hretry ⟨t', rfl⟩ ⟨t', rfl⟩
    cases v with
    | none => exact h.committed
    | some v =>
      obtain ⟨status, endedAt⟩ := v
      have hend : (pick (some t) endedAt (some t')).isSome = endedAt.isSome := by
        unfold pick
        split
        · rename_i heq
          rw [heq]
          rfl
        · rfl
      have hstatus : pick .error status .error = status := by
        unfold pick
        split
        · rename_i heq
          exact heq.symm
        · rfl
      have hv := h.view.ended _ rfl
      refine h.view.write ?_ ?_
      · change Permitted C (some status) (some (pick .error status .error))
        rw [hstatus]
        exact .refl _
      · change (pick (some t) endedAt (some t')).isSome = (pick .error status .error).isTerminal
        rw [hend, hstatus]
        exact hv
  · refine ⟨⟨h.base, ?_, h.base⟩, .inr ⟨rfl, rfl⟩⟩
    cases v with
    | none => exact h.base
    | some v => exact h.view

/-- Where one side has not written the phase, the other's is what a commit leaves. -/
theorem mergePhase_same (b c : Option Phase) : mergePhase b b c = c := by
  cases b with
  | none => rfl
  | some b => cases c <;> simp [mergePhase, Phase.merge, pick]

theorem mergePhase_unmoved (b : Option Phase) (v : Phase) : mergePhase b (some v) b = some v := by
  cases b with
  | none => rfl
  | some b =>
    obtain ⟨status, endedAt⟩ := v
    simp only [mergePhase, Option.elim_some, Option.map_some, Phase.merge, pick, Option.some.injEq, Phase.mk.injEq]
    constructor
    · split
      · rename_i h
        exact h.symm
      · rfl
    · split
      · rename_i h
        exact h.symm
      · rfl

/-- What a commit leaves is allowed. -/
theorem Final.merge (h : Final C p₀ b v c) : Good C p₀ (mergePhase b v c) := by
  rcases h with ⟨hallowed, rfl | rfl⟩ | h
  · cases v with
    | none => exact hallowed.committed
    | some v =>
      rw [mergePhase_unmoved]
      exact hallowed.view
  · rw [mergePhase_same]
    exact hallowed.committed
  · exact h.merge.view

theorem Free.refreshed (h : Free C p₀ b v c) : Free C p₀ c (mergePhase b v c) c := by
  rcases h with ⟨hallowed, rfl, rfl⟩ | h
  · rw [mergePhase_same]
    exact .inl ⟨hallowed, rfl, rfl⟩
  · exact .inr h.merge

theorem Final.refreshed (h : Final C p₀ b v c) : Final C p₀ c (mergePhase b v c) c :=
  .inl ⟨⟨h.allowed.committed, h.merge, h.allowed.committed⟩, .inl rfl⟩

theorem Spent.refreshed (hp₀ : p₀.isSome) (h : Spent C p₀ b v c) : Spent C p₀ c (mergePhase b v c) c := by
  refine ⟨h.1.refreshed, fun p hp herror => ?_⟩
  suffices hc : Failed c from ⟨hc, hc⟩
  rcases h.1 with ⟨hallowed, rfl | rfl⟩ | hloose
  · obtain ⟨v, rfl⟩ := Option.isSome_iff_exists.1 (hallowed.view.isSome hp₀)
    rw [mergePhase_unmoved, Option.some.injEq] at hp
    exact (h.2 v rfl (hp ▸ herror)).2
  · rw [mergePhase_same] at hp
    subst hp
    exact failed_of_ended (hallowed.committed.ended p rfl) herror
  · rcases hloose.loose with ⟨-, -, hc⟩ | ⟨rfl, -⟩
    · exact hc
    · rw [hloose.base.of_none] at hp₀
      cases hp₀

/-! ## Services -/

theorem Free.saved (h : Free C p₀ b (some p) c) (hp : p.Running) (hq : q.OfWorkflow) : Final C p₀ b (some q) c :=
  h.write (hq.permitted (.inl hp)) hq.ended

theorem Free.fails (h : Free C p₀ b (some p) c) (hp : p.Running) (t : Time) : Final C p₀ b (some ⟨.error, some t⟩) c :=
  h.write (.of_running hp (by simp) (by simp)) rfl

theorem Free.beside (h : Free C p₀ b (some p) (some q)) (hp : p.Running) (t : Time) :
    Final C p₀ b (some p) (some ⟨.error, some t⟩) := by
  rcases h with ⟨hallowed, rfl, hc⟩ | h
  · obtain rfl := Option.some.inj hc
    refine .inl ⟨⟨hallowed.base, hallowed.view, ?_⟩, .inr rfl⟩
    exact hallowed.committed.write (.of_running hp (by simp) (by simp)) rfl
  · exact .inr (h.fail t)

theorem Free.serves (autonomous : Bool) (i j : Nat) : Serves autonomous Phase.Running i j (Free C p₀) (Final C p₀) where
  stays _ _ _ h := h.final
  saved _ _ _ _ _ h hp hq := h.saved hp hq
  beside _ _ _ _ _ t h hp _ := h.beside hp t
  inside _ _ _ _ t h hp _ _ := h.fails hp t

theorem Loose.serves (i j : Nat) : Serves true (fun _ => True) i j (Loose C p₀) (Loose C p₀) where
  stays _ _ _ h := h
  saved _ _ _ _ _ h _ hq := h.write (h.any hq.status.1 hq.status.2.1 hq.ended)
  beside _ _ _ _ _ t h _ _ := h.fail t
  inside _ _ _ _ t h _ _ _ := h.write (h.any (by simp) (by simp) rfl)

/-- What a timer of the instance leaves. -/
theorem Free.serves_timer (hp₀ : p₀.isSome) (i j : Nat) : Serves true Phase.Running i j (Free C p₀) (Spent C p₀) where
  stays _ _ _ h := h.spent hp₀
  saved _ b p c q h hp hq := by
    refine ⟨h.saved hp hq, fun q' hq' herror => ?_⟩
    obtain rfl := Option.some.inj hq'
    exact absurd herror hq.status.2.2
  beside _ _ b p q t h hp _ := by
    refine ⟨h.beside hp t, fun p' hp' herror => ?_⟩
    obtain rfl := Option.some.inj hp'
    simp [Phase.Running, herror, ProcessInstanceStatus.isTerminal] at hp
  inside _ b p c t h hp hover hc := by
    rcases h with ⟨-, hv, hcb⟩ | h
    · exact absurd (hc rfl p (hcb.trans hv.symm)) hover
    · exact Free.spent hp₀ (.inr (h.write (h.any (by simp) (by simp) rfl)))

end
end
end M8flowCore
