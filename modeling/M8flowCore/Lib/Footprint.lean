import Mathlib.Logic.Relation
import M8flowCore.Lib.Prog
/-!
# Footprints

A system says once which kinds of change there are (`C l s s'` for each label
`l`), and a program then has a footprint: the labels of the changes it makes.
Whatever every change of a footprint keeps, the program keeps.
-/
namespace M8flowCore.Lib

variable {σ ε ℓ α β : Type} {C : ℓ → σ → σ → Prop} {L L' : List ℓ}

/-- Some changes one after the other, all with labels in `L`. -/
def Steps (C : ℓ → σ → σ → Prop) (L : List ℓ) : σ → σ → Prop :=
  Relation.ReflTransGen fun s s' => ∃ l ∈ L, C l s s'

theorem Steps.refl (s : σ) : Steps C L s s := Relation.ReflTransGen.refl

theorem Steps.one {l : ℓ} {s s' : σ} (hl : l ∈ L) (h : C l s s') : Steps C L s s' := .single ⟨l, hl, h⟩

theorem Steps.trans {s₁ s₂ s₃ : σ} (h₁ : Steps C L s₁ s₂) (h₂ : Steps C L s₂ s₃) : Steps C L s₁ s₃ :=
  Relation.ReflTransGen.trans h₁ h₂

theorem frame_steps : Prog.Frame (Steps C L) := ⟨Steps.refl, Steps.trans⟩

/-- What each change keeps, a sequence of them keeps. -/
theorem Steps.keeps {R : σ → σ → Prop} (hR : Prog.Frame R) (hC : ∀ l ∈ L, ∀ s s', C l s s' → R s s') {s s' : σ}
    (h : Steps C L s s') : R s s' := by
  induction h with
  | refl => exact hR.refl s
  | tail _ hstep ih =>
    obtain ⟨l, hl, hc⟩ := hstep
    exact hR.trans ih (hC l hl _ _ hc)

theorem Steps.mono (hL : L ⊆ L') {s s' : σ} (h : Steps C L s s') : Steps C L' s s' :=
  h.keeps frame_steps fun _ hl _ _ hc => Steps.one (hL hl) hc

/-- What holds before each change and is kept by it holds after a sequence. -/
theorem Steps.inv {P : σ → Prop} (hC : ∀ l ∈ L, ∀ s s', C l s s' → P s → P s') {s s' : σ} (h : Steps C L s s')
    (hs : P s) : P s' :=
  Steps.keeps (R := fun s s' => P s → P s') ⟨fun _ h => h, fun h₁ h₂ h => h₂ (h₁ h)⟩ hC h hs

/-- `m` makes only changes with labels in `L`. -/
def Touches (C : ℓ → σ → σ → Prop) (L : List ℓ) (m : Prog σ ε α) : Prop := Prog.Keeps (Steps C L) m

namespace Touches
variable {m : Prog σ ε α} {f : α → Prog σ ε β}

theorem steps (h : Touches C L m) {s s' : σ} {r : Except ε α} (hm : m.run s = (r, s')) : Steps C L s s' :=
  Prog.Keeps.of_ok h hm

theorem of_readOnly (h : m.ReadOnly) : Touches C L m := Prog.ReadOnly.keeps frame_steps h

theorem pure (a : α) : Touches C L (pure a : Prog σ ε α) := Prog.keeps_pure frame_steps a

theorem gets (g : σ → α) : Touches C L (Prog.gets g : Prog σ ε α) := Prog.keeps_gets frame_steps g

theorem raise (e : ε) : Touches C L (Prog.raise e : Prog σ ε α) := Prog.keeps_raise frame_steps e

theorem orRaise (e : ε) (o : Option α) : Touches C L (Prog.orRaise e o : Prog σ ε α) :=
  Prog.keeps_orRaise frame_steps e o

theorem bind (hm : Touches C L m) (hf : ∀ a, Touches C L (f a)) : Touches C L (m >>= f) :=
  Prog.keeps_bind frame_steps hm hf

/-- As `bind`, for the results `m` can return. -/
theorem bind_of_ok (hm : Touches C L m) (hf : ∀ a, (∃ s s', m.run s = (.ok a, s')) → Touches C L (f a)) :
    Touches C L (m >>= f) := by
  intro s
  rw [Prog.bind_run]
  rcases hms : m.run s with ⟨e | a, s₁⟩
  · exact hm.steps hms
  · exact Steps.trans (hm.steps hms) (hf a ⟨s, s₁, hms⟩ s₁)

theorem forEach {g : α → Prog σ ε Unit} {xs : List α} (hg : ∀ x ∈ xs, Touches C L (g x)) :
    Touches C L (Prog.forEach xs g) := Prog.keeps_forEach frame_steps hg

theorem mapEach {g : α → Prog σ ε β} {xs : List α} (hg : ∀ x ∈ xs, Touches C L (g x)) :
    Touches C L (Prog.mapEach xs g) := Prog.keeps_mapEach frame_steps hg

theorem mono (hL : L ⊆ L') (h : Touches C L m) : Touches C L' m := fun s => (h s).mono hL

/-- A program with a footprint, in the middle of a longer run. -/
theorem ends (h : Touches C L m) (s₀ : σ) : Prog.Ends (Steps C L s₀) m (fun _ => Steps C L s₀) fun _ => Steps C L s₀ :=
  fun _ hs => ⟨fun _ _ hm => hs.trans (h.steps hm), fun _ _ hm => hs.trans (h.steps hm)⟩

end Touches
end M8flowCore.Lib
