import Mathlib.Tactic.Common
/-!
# Programs with state and exceptions

A `Prog σ ε α` reads and writes a state `σ` and returns an `α` or raises an
`ε`. What was written before a raise stays written: undoing it is the business
of whoever owns the state, as a database session leaves it to its caller to
roll back.

Two kinds of statement are made about a program. `Keeps R m` relates the state
before `m` to the state after it however `m` ends, and `Yields P m Q` says what
holds when `m` returns. Both go through a program one `bind` at a time.
-/
namespace M8flowCore.Lib

/-- A program over the state `σ` that returns an `α` or raises an `ε`. -/
structure Prog (σ ε α : Type) : Type where
  run : σ → Except ε α × σ

namespace Prog
variable {σ ε α β γ : Type}

/-- Return `a`, leaving the state alone. -/
protected def pure (a : α) : Prog σ ε α := ⟨fun s => (.ok a, s)⟩

/-- Run `m`, then `f` on its result; a raise of `m` skips `f`. -/
protected def bind (m : Prog σ ε α) (f : α → Prog σ ε β) : Prog σ ε β where
  run s := match m.run s with
    | (.ok a, s') => (f a).run s'
    | (.error e, s') => (.error e, s')

instance : Monad (Prog σ ε) where
  pure := Prog.pure
  bind := Prog.bind

/-- Read something off the state. -/
def gets (f : σ → α) : Prog σ ε α := ⟨fun s => (.ok (f s), s)⟩

/-- Change the state. -/
def modify (f : σ → σ) : Prog σ ε Unit := ⟨fun s => (.ok (), f s)⟩

/-- Raise `e`. -/
def raise (e : ε) : Prog σ ε α := ⟨fun s => (.error e, s)⟩

/-- Run `m`; if it raises, run the handler in the state the raise left. -/
def attempt (m : Prog σ ε α) (handler : ε → Prog σ ε α) : Prog σ ε α where
  run s := match m.run s with
    | (.ok a, s') => (.ok a, s')
    | (.error e, s') => (handler e).run s'

/-- Run `f` on each element in turn, stopping at the first raise. -/
def forEach : List α → (α → Prog σ ε Unit) → Prog σ ε Unit
  | [], _ => pure ()
  | x :: xs, f => do f x; forEach xs f

/-- Run `f` on each element in turn and collect the results. -/
def mapEach : List α → (α → Prog σ ε β) → Prog σ ε (List β)
  | [], _ => pure []
  | x :: xs, f => do
    let y ← f x
    let ys ← mapEach xs f
    pure (y :: ys)

/-- The value of an option, or a raise. -/
def orRaise (e : ε) : Option α → Prog σ ε α
  | some a => pure a
  | none => raise e

/-! ## Running a program -/

section Run
variable {s s' : σ} {a : α} {b : β} {m : Prog σ ε α} {f : α → Prog σ ε β}

@[simp] theorem pure_run (a : α) (s : σ) : (pure a : Prog σ ε α).run s = (.ok a, s) := rfl

@[simp] theorem gets_run (g : σ → α) (s : σ) : (gets g : Prog σ ε α).run s = (.ok (g s), s) := rfl

@[simp] theorem modify_run (g : σ → σ) (s : σ) : (modify g : Prog σ ε Unit).run s = (.ok (), g s) := rfl

@[simp] theorem raise_run (e : ε) (s : σ) : (raise e : Prog σ ε α).run s = (.error e, s) := rfl

theorem bind_run (m : Prog σ ε α) (f : α → Prog σ ε β) (s : σ) :
    (m >>= f).run s = match m.run s with
      | (.ok a, s') => (f a).run s'
      | (.error e, s') => (.error e, s') := rfl

theorem bind_run_ok (h : m.run s = (.ok a, s')) : (m >>= f).run s = (f a).run s' := by
  rw [bind_run, h]

theorem bind_run_error {e : ε} (h : m.run s = (.error e, s')) : (m >>= f).run s = (.error e, s') := by
  rw [bind_run, h]

theorem bind_assoc (m : Prog σ ε α) (f : α → Prog σ ε β) (g : β → Prog σ ε γ) :
    m >>= f >>= g = m >>= fun a => f a >>= g := by
  have hrun : ∀ s, (m >>= f >>= g).run s = (m >>= fun a => f a >>= g).run s := by
    intro s
    simp only [bind_run]
    rcases m.run s with ⟨e | a, s'⟩ <;> rfl
  exact congrArg Prog.mk (funext hrun)

@[simp] theorem pure_bind (a : α) (f : α → Prog σ ε β) : (pure a : Prog σ ε α) >>= f = f a := rfl

@[simp] theorem gets_bind_run (g : σ → α) (f : α → Prog σ ε β) (s : σ) :
    ((gets g : Prog σ ε α) >>= f).run s = (f (g s)).run s := rfl

@[simp] theorem modify_bind_run (g : σ → σ) (f : Unit → Prog σ ε β) (s : σ) :
    ((modify g : Prog σ ε Unit) >>= f).run s = (f ()).run (g s) := rfl

@[simp] theorem raise_bind (e : ε) (f : α → Prog σ ε β) : (raise e : Prog σ ε α) >>= f = raise e := rfl

@[simp] theorem orRaise_some (e : ε) (a : α) : (orRaise e (some a) : Prog σ ε α) = pure a := rfl

@[simp] theorem orRaise_none (e : ε) : (orRaise e none : Prog σ ε α) = raise e := rfl

theorem attempt_run (m : Prog σ ε α) (handler : ε → Prog σ ε α) (s : σ) :
    (attempt m handler).run s = match m.run s with
      | (.ok a, s') => (.ok a, s')
      | (.error e, s') => (handler e).run s' := rfl

/-- A sequence returns when both of its parts do. -/
theorem bind_ok : (m >>= f).run s = (.ok b, s') ↔ ∃ a s₁, m.run s = (.ok a, s₁) ∧ (f a).run s₁ = (.ok b, s') := by
  rw [bind_run]
  constructor
  · intro h
    rcases hm : m.run s with ⟨r | a, s₁⟩ <;> rw [hm] at h
    · simp at h
    · exact ⟨a, s₁, rfl, h⟩
  · rintro ⟨a, s₁, hm, hf⟩
    rw [hm]
    exact hf

/-- A sequence raises when its first part does, or its second after the first. -/
theorem bind_error {e : ε} : (m >>= f).run s = (.error e, s') ↔
    m.run s = (.error e, s') ∨ ∃ a s₁, m.run s = (.ok a, s₁) ∧ (f a).run s₁ = (.error e, s') := by
  rw [bind_run]
  rcases hm : m.run s with ⟨r | a, s₁⟩
  · simp
  · simp

theorem pure_ok {a' : α} : (pure a : Prog σ ε α).run s = (.ok a', s') ↔ a = a' ∧ s = s' := by simp

theorem gets_ok {g : σ → α} : (gets g : Prog σ ε α).run s = (.ok a, s') ↔ g s = a ∧ s = s' := by simp

theorem modify_ok {g : σ → σ} {u : Unit} : (modify g : Prog σ ε Unit).run s = (.ok u, s') ↔ g s = s' := by simp

theorem raise_ok {e : ε} : (raise e : Prog σ ε α).run s = (.ok a, s') ↔ False := by simp

theorem orRaise_ok {e : ε} {o : Option α} :
    (orRaise e o : Prog σ ε α).run s = (.ok a, s') ↔ o = some a ∧ s = s' := by
  cases o <;> simp

@[simp] theorem forEach_nil (g : α → Prog σ ε Unit) : forEach [] g = pure () := rfl

@[simp] theorem forEach_cons (x : α) (xs : List α) (g : α → Prog σ ε Unit) :
    forEach (x :: xs) g = (do g x; forEach xs g) := rfl

theorem forEach_map (h : β → α) (xs : List β) (g : α → Prog σ ε Unit) : forEach (xs.map h) g = forEach xs fun x => g (h x) := by
  induction xs with
  | nil => rfl
  | cons x xs ih => rw [List.map_cons, forEach_cons, forEach_cons, ih]

theorem forEach_append (xs ys : List α) (g : α → Prog σ ε Unit) :
    forEach (xs ++ ys) g = (do forEach xs g; forEach ys g) := by
  induction xs with
  | nil => rfl
  | cons x xs ih => rw [List.cons_append, forEach_cons, forEach_cons, ih, bind_assoc]

theorem forEach_flatMap (h : β → List α) (xs : List β) (g : α → Prog σ ε Unit) :
    forEach (xs.flatMap h) g = forEach xs fun x => forEach (h x) g := by
  induction xs with
  | nil => rfl
  | cons x xs ih => rw [List.flatMap_cons, forEach_append, forEach_cons, ih]

@[simp] theorem mapEach_nil (g : α → Prog σ ε β) : mapEach [] g = pure [] := rfl

@[simp] theorem mapEach_cons (x : α) (xs : List α) (g : α → Prog σ ε β) :
    mapEach (x :: xs) g = (do let y ← g x; let ys ← mapEach xs g; pure (y :: ys)) := rfl

end Run

/-! ## What a program keeps -/

/-- `R` relates the states before and after `m`, whether `m` returns or raises. -/
def Keeps (R : σ → σ → Prop) (m : Prog σ ε α) : Prop := ∀ s, R s (m.run s).2

/-- A relation that may be composed along a program. -/
structure Frame (R : σ → σ → Prop) : Prop where
  refl : ∀ s, R s s
  trans : ∀ {s₁ s₂ s₃}, R s₁ s₂ → R s₂ s₃ → R s₁ s₃

section Keeps
variable {R S : σ → σ → Prop} {m : Prog σ ε α} {f : α → Prog σ ε β}

theorem Keeps.mono (h : Keeps R m) (hRS : ∀ s s', R s s' → S s s') : Keeps S m := fun s => hRS _ _ (h s)

theorem keeps_pure (hR : Frame R) (a : α) : Keeps R (pure a : Prog σ ε α) := fun s => hR.refl s

theorem keeps_gets (hR : Frame R) (g : σ → α) : Keeps R (gets g : Prog σ ε α) := fun s => hR.refl s

theorem keeps_raise (hR : Frame R) (e : ε) : Keeps R (raise e : Prog σ ε α) := fun s => hR.refl s

theorem keeps_orRaise (hR : Frame R) (e : ε) (o : Option α) : Keeps R (orRaise e o : Prog σ ε α) := by
  cases o with
  | none => exact keeps_raise hR e
  | some a => exact keeps_pure hR a

theorem keeps_modify {g : σ → σ} (h : ∀ s, R s (g s)) : Keeps R (modify g : Prog σ ε Unit) := h

/-- What follows `m` is only run on what `m` returns. -/
theorem keeps_bind_of (hR : Frame R) (hm : Keeps R m) (hf : ∀ a, (∃ s s', m.run s = (.ok a, s')) → Keeps R (f a)) :
    Keeps R (m >>= f) := by
  intro s
  rw [bind_run]
  have h := hm s
  rcases hms : m.run s with ⟨r | a, s₁⟩ <;> rw [hms] at h
  · exact h
  · exact hR.trans h (hf a ⟨s, s₁, hms⟩ s₁)

theorem keeps_bind (hR : Frame R) (hm : Keeps R m) (hf : ∀ a, Keeps R (f a)) : Keeps R (m >>= f) :=
  keeps_bind_of hR hm fun a _ => hf a

/-- As `keeps_bind`, from one state on. -/
theorem bind_state (hR : Frame R) {s : σ} (hm : R s (m.run s).2)
    (hf : ∀ a s₁, m.run s = (.ok a, s₁) → R s₁ ((f a).run s₁).2) : R s ((m >>= f).run s).2 := by
  rw [bind_run]
  rcases hms : m.run s with ⟨r | a, s₁⟩ <;> rw [hms] at hm
  · exact hm
  · exact hR.trans hm (hf a s₁ hms)

theorem keeps_attempt (hR : Frame R) {handler : ε → Prog σ ε α} (hm : Keeps R m) (hh : ∀ e, Keeps R (handler e)) :
    Keeps R (attempt m handler) := by
  intro s
  rw [attempt_run]
  have h := hm s
  rcases hms : m.run s with ⟨e | a, s₁⟩ <;> rw [hms] at h
  · exact hR.trans h (hh e s₁)
  · exact h

theorem keeps_forEach (hR : Frame R) {g : α → Prog σ ε Unit} {xs : List α} (hg : ∀ x ∈ xs, Keeps R (g x)) :
    Keeps R (forEach xs g) := by
  induction xs with
  | nil => exact keeps_pure hR ()
  | cons x xs ih =>
    refine keeps_bind hR (hg x (by simp)) fun _ => ih fun y hy => hg y (by simp [hy])

theorem keeps_mapEach (hR : Frame R) {g : α → Prog σ ε β} {xs : List α} (hg : ∀ x ∈ xs, Keeps R (g x)) :
    Keeps R (mapEach xs g) := by
  induction xs with
  | nil => exact keeps_pure hR []
  | cons x xs ih =>
    refine keeps_bind hR (hg x (by simp)) fun y => ?_
    exact keeps_bind hR (ih fun z hz => hg z (by simp [hz])) fun ys => keeps_pure hR (y :: ys)

theorem Keeps.of_ok (h : Keeps R m) {s s' : σ} {r : Except ε α} (hm : m.run s = (r, s')) : R s s' := by
  have := h s
  rwa [hm] at this

/-- `m` leaves the state as it found it. -/
def ReadOnly (m : Prog σ ε α) : Prop := Keeps (fun s s' => s' = s) m

theorem frame_eq : Frame fun s s' : σ => s' = s := ⟨fun _ => rfl, fun h₁ h₂ => h₂.trans h₁⟩

theorem ReadOnly.keeps (hR : Frame R) (h : ReadOnly m) : Keeps R m := by
  intro s
  rw [h s]
  exact hR.refl s

/-- A sequence that starts by reading stops there or goes on in the same state. -/
theorem ReadOnly.bind_cases {r : Except ε β} {s s' : σ} (hm : ReadOnly m) (h : (m >>= f).run s = (r, s')) :
    (∃ e, m.run s = (.error e, s) ∧ r = .error e ∧ s' = s) ∨ ∃ a, m.run s = (.ok a, s) ∧ (f a).run s = (r, s') := by
  have hs := hm s
  rw [bind_run] at h
  rcases hms : m.run s with ⟨e | a, s₁⟩ <;> rw [hms] at h hs
  · obtain rfl : s₁ = s := hs
    simp only [Prod.mk.injEq] at h
    exact .inl ⟨e, rfl, h.1.symm, h.2.symm⟩
  · obtain rfl : s₁ = s := hs
    exact .inr ⟨a, rfl, h⟩

theorem ReadOnly.state {r : Except ε α} {s s' : σ} (h : ReadOnly m) (hm : m.run s = (r, s')) : s' = s :=
  Keeps.of_ok h hm

end Keeps

/-! ## What a program yields -/

/-- Started where `P` holds, `m` returns only where `Q` holds of its result. -/
def Yields (P : σ → Prop) (m : Prog σ ε α) (Q : α → σ → Prop) : Prop :=
  ∀ s a s', P s → m.run s = (.ok a, s') → Q a s'

section Yields
variable {P P' : σ → Prop} {Q Q' : α → σ → Prop} {m : Prog σ ε α} {f : α → Prog σ ε β}

theorem Yields.weaken (h : Yields P m Q) (hP : ∀ s, P' s → P s) (hQ : ∀ a s, Q a s → Q' a s) :
    Yields P' m Q' := fun s a s' hs hm => hQ _ _ (h s a s' (hP s hs) hm)

theorem yields_bind {T : β → σ → Prop} (hm : Yields P m Q) (hf : ∀ a, Yields (Q a) (f a) T) :
    Yields P (m >>= f) T := by
  intro s b s' hs h
  obtain ⟨a, s₁, hma, hfa⟩ := bind_ok.1 h
  exact hf a s₁ b s' (hm s a s₁ hs hma) hfa

/-- A loop with an invariant indexed by the elements still to come. -/
theorem yields_forEach {I : List α → σ → Prop} {g : α → Prog σ ε Unit} {xs : List α}
    (hg : ∀ x rest, Yields (I (x :: rest)) (g x) (fun _ => I rest)) : Yields (I xs) (forEach xs g) fun _ => I [] := by
  induction xs with
  | nil =>
    intro s a s' hs h
    rw [forEach_nil, pure_ok] at h
    exact h.2 ▸ hs
  | cons x xs ih => exact yields_bind (hg x xs) fun _ => ih

end Yields

/-! ## How a program ends -/

/-- Started where `P` holds, `m` returns only where `Q` holds of its result and
raises only where `E` holds of its exception. -/
def Ends (P : σ → Prop) (m : Prog σ ε α) (Q : α → σ → Prop) (E : ε → σ → Prop) : Prop :=
  ∀ s, P s → (∀ a s', m.run s = (.ok a, s') → Q a s') ∧ ∀ e s', m.run s = (.error e, s') → E e s'

section Ends
variable {P P' : σ → Prop} {Q Q' : α → σ → Prop} {E E' : ε → σ → Prop} {m : Prog σ ε α} {f : α → Prog σ ε β}

theorem ends_bind {T : β → σ → Prop} (hm : Ends P m Q E) (hf : ∀ a, Ends (Q a) (f a) T E) : Ends P (m >>= f) T E := by
  intro s hs
  obtain ⟨hok, herror⟩ := hm s hs
  refine ⟨fun b s' h => ?_, fun e s' h => ?_⟩
  · obtain ⟨a, s₁, hma, hfa⟩ := bind_ok.1 h
    exact (hf a s₁ (hok a s₁ hma)).1 b s' hfa
  · rcases bind_error.1 h with hma | ⟨a, s₁, hma, hfa⟩
    · exact herror e s' hma
    · exact (hf a s₁ (hok a s₁ hma)).2 e s' hfa

/-- What is known of a result besides the state. -/
theorem ends_bind_of {T : β → σ → Prop} {A : α → Prop} (hm : Ends P m (fun a s => A a ∧ Q a s) E)
    (hf : ∀ a, A a → Ends (Q a) (f a) T E) : Ends P (m >>= f) T E :=
  ends_bind hm fun a s hs => hf a hs.1 s hs.2

theorem Ends.weaken (h : Ends P m Q E) (hP : ∀ s, P' s → P s) (hQ : ∀ a s, Q a s → Q' a s)
    (hE : ∀ e s, E e s → E' e s) : Ends P' m Q' E' := fun s hs =>
  ⟨fun a s' hm => hQ a s' ((h s (hP s hs)).1 a s' hm), fun e s' hm => hE e s' ((h s (hP s hs)).2 e s' hm)⟩

theorem ends_pure (a : α) (h : ∀ s, P s → Q a s) : Ends P (pure a) Q E := by
  intro s hs
  refine ⟨fun b s' hm => ?_, fun e s' hm => by simp at hm⟩
  obtain ⟨rfl, rfl⟩ := pure_ok.1 hm
  exact h s hs

theorem ends_gets (g : σ → α) (h : ∀ s, P s → Q (g s) s) : Ends P (gets g) Q E := by
  intro s hs
  refine ⟨fun b s' hm => ?_, fun e s' hm => by simp at hm⟩
  obtain ⟨rfl, rfl⟩ := gets_ok.1 hm
  exact h s hs

theorem ends_raise (e : ε) (h : ∀ s, P s → E e s) : Ends P (raise e) Q E := by
  intro s hs
  refine ⟨fun b s' hm => by simp at hm, fun e' s' hm => ?_⟩
  simp only [raise_run, Prod.mk.injEq, Except.error.injEq] at hm
  obtain ⟨rfl, rfl⟩ := hm
  exact h s hs

/-- The handler goes on where the program has raised. -/
theorem ends_attempt {R : ε → σ → Prop} {handler : ε → Prog σ ε α} (hm : Ends P m Q R)
    (hh : ∀ e, Ends (R e) (handler e) Q E) : Ends P (attempt m handler) Q E := by
  intro s hs
  obtain ⟨hok, herror⟩ := hm s hs
  rw [attempt_run]
  rcases hrun : m.run s with ⟨e | a, s₁⟩
  · exact hh e s₁ (herror e s₁ hrun)
  · refine ⟨fun b s' h => ?_, fun e s' h => by cases h⟩
    cases h
    exact hok a s₁ hrun

/-- What is known of the state may depend on the items still to come. -/
theorem ends_mapEach {I : List γ → σ → Prop} {g : γ → Prog σ ε β} {xs : List γ}
    (hg : ∀ x rest, (x :: rest) <:+ xs → Ends (I (x :: rest)) (g x) (fun _ => I rest) E) :
    Ends (I xs) (mapEach xs g) (fun _ => I []) E := by
  induction xs with
  | nil => exact ends_pure _ fun _ hs => hs
  | cons x xs ih =>
    rw [mapEach_cons]
    refine ends_bind (hg x xs (List.suffix_refl _)) fun y => ?_
    refine ends_bind (ih fun x' rest hsuffix => hg x' rest (hsuffix.trans (List.suffix_cons x xs))) fun ys => ?_
    exact ends_pure _ fun _ hs => hs

/-- A program that leaves the state alone keeps whatever is known of it. -/
theorem ReadOnly.ends (h : ReadOnly m) (hE : ∀ e s, P s → E e s) : Ends P m (fun _ => P) E := fun s hs =>
  ⟨fun _ _ hm => by rw [h.state hm]; exact hs, fun e _ hm => by rw [h.state hm]; exact hE e s hs⟩

end Ends

/-! ## Programs that return -/

/-- Started where `P` holds, `m` returns, and `Q` holds of what it returns. -/
def Returns (P : σ → Prop) (m : Prog σ ε α) (Q : α → σ → Prop) : Prop :=
  ∀ s, P s → ∃ a s', m.run s = (.ok a, s') ∧ Q a s'

section Returns
variable {P : σ → Prop} {Q : α → σ → Prop} {m : Prog σ ε α} {f : α → Prog σ ε β}

theorem returns_bind {T : β → σ → Prop} (hm : Returns P m Q) (hf : ∀ a, Returns (Q a) (f a) T) :
    Returns P (m >>= f) T := by
  intro s hs
  obtain ⟨a, s₁, hma, hq⟩ := hm s hs
  obtain ⟨b, s₂, hfb, ht⟩ := hf a s₁ hq
  exact ⟨b, s₂, by rw [bind_run_ok hma, hfb], ht⟩

theorem returns_forEach {g : α → Prog σ ε Unit} {xs : List α} (hg : ∀ x ∈ xs, Returns P (g x) fun _ => P) :
    Returns P (forEach xs g) fun _ => P := by
  induction xs with
  | nil => exact fun s hs => ⟨(), s, rfl, hs⟩
  | cons x xs ih =>
    exact returns_bind (hg x (by simp)) fun _ => ih fun y hy => hg y (by simp [hy])

/-- A loop that establishes a fact for each element, where facts last. -/
theorem forEach_each {R : σ → σ → Prop} (hR : Frame R) {F : α → σ → Prop} (hF : ∀ x s s', R s s' → F x s → F x s')
    {g : α → Prog σ ε Unit} {xs : List α}
    (hg : ∀ x ∈ xs, ∀ s, P s → ∃ s', (g x).run s = (.ok (), s') ∧ P s' ∧ R s s' ∧ F x s') (s : σ) (hs : P s) :
    ∃ s', (forEach xs g).run s = (.ok (), s') ∧ P s' ∧ R s s' ∧ ∀ x ∈ xs, F x s' := by
  induction xs generalizing s with
  | nil => exact ⟨s, rfl, hs, hR.refl s, by simp⟩
  | cons x xs ih =>
    obtain ⟨s₁, hrun₁, hs₁, hR₁, hF₁⟩ := hg x (by simp) s hs
    obtain ⟨s', hrun, hs', hR', hall⟩ := ih (fun y hy => hg y (by simp [hy])) s₁ hs₁
    refine ⟨s', by rw [forEach_cons, bind_run_ok hrun₁, hrun], hs', hR.trans hR₁ hR', fun y hy => ?_⟩
    rcases List.mem_cons.1 hy with rfl | hy
    · exact hF y s₁ s' hR' hF₁
    · exact hall y hy

/-- A loop each of whose turns changes nothing. -/
theorem forEach_idle {g : α → Prog σ ε Unit} {xs : List α} {s : σ} (hg : ∀ x ∈ xs, (g x).run s = (.ok (), s)) :
    (forEach xs g).run s = (.ok (), s) := by
  induction xs with
  | nil => rfl
  | cons x xs ih =>
    rw [forEach_cons, bind_run_ok (hg x (by simp))]
    exact ih fun y hy => hg y (by simp [hy])

end Returns
end Prog
end M8flowCore.Lib
