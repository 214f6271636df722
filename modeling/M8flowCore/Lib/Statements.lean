import Mathlib.Data.List.Nodup
import Mathlib.Data.List.Perm.Basic
import Mathlib.Logic.Function.Basic
/-!
# Concurrent transactions

A transaction as the statements it sends, and any number of transactions that
interleave at the grain of their statements. Every statement sees what is
committed when it runs and, over it, what its own transaction has written. An
insert gives way to a row with its unique key, and waits while another open
transaction has inserted one; a row without a key conflicts with nothing.

Two things are shown about every interleaving: no unique key is stored twice,
and a transaction that commits has its postcondition, whatever the others
commit meanwhile (`Stmt.Meets`, a rule for one transaction alone). From both
follows when a selection of rows is stored once (`Selection.Kept`): each
transaction that adds to it first holds a unique key, the same for all.
-/
namespace M8flowCore.Lib

/-- A database `δ` that rows `ρ` are inserted into and changes `υ` are made to.
The unique constraints are those of `key`; `grows` is what others may do. -/
structure Schema (δ ρ υ κ : Type) where
  add : Nat → ρ → δ → δ
  modify : υ → δ → δ
  key : ρ → Option κ
  keys : δ → List κ
  Grows : δ → δ → Prop
  keys_add : ∀ id r db, (keys (add id r db)).Perm (keys db ++ (key r).toList)
  keys_modify : ∀ u db, keys (modify u db) = keys db
  grows_refl : ∀ db, Grows db db
  grows_trans : ∀ {a b c}, Grows a b → Grows b c → Grows a c
  grows_add : ∀ id r db, Grows db (add id r db)
  grows_modify : ∀ u db, Grows db (modify u db)
  add_mono : ∀ id r {db db'}, Grows db db' → Grows (add id r db) (add id r db')
  modify_mono : ∀ u {db db'}, Grows db db' → Grows (modify u db) (modify u db')

/-- The statements of a transaction that returns an `α` or raises an `ε`. -/
inductive Stmt (δ ρ υ ε α : Type) : Type where
  | done (a : α)
  | fail (e : ε)
  | read (k : δ → Stmt δ ρ υ ε α)
  | insert (r : ρ) (k : Stmt δ ρ υ ε α)
  | update (u : υ) (k : Stmt δ ρ υ ε α)

section
variable {δ ρ υ κ ε α β : Type}

/-- Run `p`, then `f` on its result. -/
def Stmt.bind (p : Stmt δ ρ υ ε α) (f : α → Stmt δ ρ υ ε β) : Stmt δ ρ υ ε β :=
  match p with
  | .done a => f a
  | .fail e => .fail e
  | .read k => .read fun db => (k db).bind f
  | .insert r k => .insert r (k.bind f)
  | .update u k => .update u (k.bind f)

/-- Run `f` on each element in turn. -/
def Stmt.forEach : List α → (α → Stmt δ ρ υ ε Unit) → Stmt δ ρ υ ε Unit
  | [], _ => .done ()
  | x :: xs, f => (f x).bind fun _ => Stmt.forEach xs f

/-- A write of an open transaction. -/
inductive RowChange (ρ υ : Type) : Type where
  | inserted (id : Nat) (r : ρ)
  | updated (u : υ)

/-- A transaction: open, or ended. -/
inductive Call (δ ρ υ ε α : Type) : Type where
  | active (changes : List (RowChange ρ υ)) (rest : Stmt δ ρ υ ε α)
  | committed (a : α)
  | raised (e : ε)
  | rolledBack

variable (S : Schema δ ρ υ κ)

def RowChange.apply : RowChange ρ υ → δ → δ
  | .inserted id r => S.add id r
  | .updated u => S.modify u

def RowChange.key : RowChange ρ υ → Option κ
  | .inserted _ r => S.key r
  | .updated _ => none

/-- The database with some changes made to it. -/
def Schema.applyAll (changes : List (RowChange ρ υ)) (db : δ) : δ := changes.foldl (fun db c => c.apply S db) db

/-- The unique keys some changes insert. -/
def Schema.inserts (changes : List (RowChange ρ υ)) : List κ := changes.filterMap (RowChange.key S)

/-- The keys an open transaction holds. -/
def Call.holds : Call δ ρ υ ε α → List κ
  | .active changes _ => S.inserts changes
  | _ => []

/-- The committed database, the next id and the transactions. -/
structure Concurrent (ι δ ρ υ ε α : Type) where
  seq : Nat
  db : δ
  calls : ι → Call δ ρ υ ε α

variable {ι : Type} [DecidableEq ι]

def Concurrent.set (st : Concurrent ι δ ρ υ ε α) (c : ι) (call : Call δ ρ υ ε α) : Concurrent ι δ ρ υ ε α :=
  { st with calls := Function.update st.calls c call }

@[simp] theorem Concurrent.set_db (st : Concurrent ι δ ρ υ ε α) (c : ι) (call : Call δ ρ υ ε α) : (st.set c call).db = st.db := rfl

theorem Concurrent.set_self (st : Concurrent ι δ ρ υ ε α) (c : ι) (call : Call δ ρ υ ε α) : (st.set c call).calls c = call := by
  simp [Concurrent.set]

theorem Concurrent.set_of_ne (st : Concurrent ι δ ρ υ ε α) {c c' : ι} (h : c' ≠ c) (call : Call δ ρ υ ε α) :
    (st.set c call).calls c' = st.calls c' := by
  simp [Concurrent.set, h]

/-- A step of transaction `c`. -/
inductive CallStep (c : ι) : Concurrent ι δ ρ υ ε α → Concurrent ι δ ρ υ ε α → Prop
  | read {st : Concurrent ι δ ρ υ ε α} {changes : List (RowChange ρ υ)} {k : δ → Stmt δ ρ υ ε α}
      (hc : st.calls c = .active changes (.read k)) :
      CallStep c st (st.set c (.active changes (k (S.applyAll changes st.db))))
  | insert {st : Concurrent ι δ ρ υ ε α} {changes : List (RowChange ρ υ)} {r : ρ} {k : Stmt δ ρ υ ε α}
      (hc : st.calls c = .active changes (.insert r k))
      (hwait : ∀ key, S.key r = some key → ∀ c' ≠ c, key ∉ (st.calls c').holds S)
      (hfree : ∀ key, S.key r = some key → key ∉ S.keys (S.applyAll changes st.db)) :
      CallStep c st ({ st with seq := st.seq + 1 }.set c (.active (changes ++ [RowChange.inserted st.seq r]) k))
  | conflict {st : Concurrent ι δ ρ υ ε α} {changes : List (RowChange ρ υ)} {r : ρ} {k : Stmt δ ρ υ ε α} {key : κ}
      (hc : st.calls c = .active changes (.insert r k)) (hkey : S.key r = some key)
      (htaken : key ∈ S.keys (S.applyAll changes st.db)) : CallStep c st (st.set c (.active changes k))
  | update {st : Concurrent ι δ ρ υ ε α} {changes : List (RowChange ρ υ)} {u : υ} {k : Stmt δ ρ υ ε α}
      (hc : st.calls c = .active changes (.update u k)) : CallStep c st (st.set c (.active (changes ++ [RowChange.updated u]) k))
  | commit {st : Concurrent ι δ ρ υ ε α} {changes : List (RowChange ρ υ)} {a : α} (hc : st.calls c = .active changes (.done a)) :
      CallStep c st ({ st with db := S.applyAll changes st.db }.set c (.committed a))
  | raise {st : Concurrent ι δ ρ υ ε α} {changes : List (RowChange ρ υ)} {e : ε} (hc : st.calls c = .active changes (.fail e)) :
      CallStep c st (st.set c (.raised e))
  | rollBack {st : Concurrent ι δ ρ υ ε α} {changes : List (RowChange ρ υ)} {rest : Stmt δ ρ υ ε α}
      (hc : st.calls c = .active changes rest) : CallStep c st (st.set c .rolledBack)

/-- The states an interleaving of the transactions can reach. -/
inductive Interleaves (st₀ : Concurrent ι δ ρ υ ε α) : Concurrent ι δ ρ υ ε α → Prop
  | start : Interleaves st₀ st₀
  | call {st st' : Concurrent ι δ ρ υ ε α} (c : ι) (h : Interleaves st₀ st) (hstep : CallStep S c st st') : Interleaves st₀ st'

/-- Every transaction is about to start. -/
def Concurrent.begin (seq : Nat) (db : δ) (prog : ι → Stmt δ ρ υ ε α) : Concurrent ι δ ρ υ ε α :=
  ⟨seq, db, fun c => .active [] (prog c)⟩

/-! ## Changes -/

section
variable {S}

theorem Schema.applyAll_append (changes : List (RowChange ρ υ)) (change : RowChange ρ υ) (db : δ) :
    S.applyAll (changes ++ [change]) db = change.apply S (S.applyAll changes db) := by simp [Schema.applyAll]

theorem Schema.inserts_append (changes : List (RowChange ρ υ)) (change : RowChange ρ υ) :
    S.inserts (changes ++ [change]) = S.inserts changes ++ (change.key S).toList := by
  unfold Schema.inserts
  rw [List.filterMap_append, List.filterMap_cons, List.filterMap_nil]
  cases change.key S <;> rfl

theorem RowChange.grows (change : RowChange ρ υ) (db : δ) : S.Grows db (change.apply S db) := by
  cases change with
  | inserted id r => exact S.grows_add id r db
  | updated u => exact S.grows_modify u db

theorem RowChange.keys (change : RowChange ρ υ) (db : δ) : (S.keys (change.apply S db)).Perm (S.keys db ++ (change.key S).toList) := by
  cases change with
  | inserted id r => exact S.keys_add id r db
  | updated u =>
    simp only [RowChange.apply, RowChange.key, S.keys_modify, Option.toList_none, List.append_nil]
    exact .refl _

theorem Schema.grows_applyAll (changes : List (RowChange ρ υ)) (db : δ) : S.Grows db (S.applyAll changes db) := by
  induction changes generalizing db with
  | nil => exact S.grows_refl db
  | cons change changes ih => exact S.grows_trans (change.grows db) (ih _)

theorem Schema.applyAll_mono (changes : List (RowChange ρ υ)) {db db' : δ} (h : S.Grows db db') :
    S.Grows (S.applyAll changes db) (S.applyAll changes db') := by
  induction changes generalizing db db' with
  | nil => exact h
  | cons change changes ih =>
    refine ih ?_
    cases change with
    | inserted id r => exact S.add_mono id r h
    | updated u => exact S.modify_mono u h

theorem Schema.keys_applyAll (changes : List (RowChange ρ υ)) (db : δ) :
    (S.keys (S.applyAll changes db)).Perm (S.keys db ++ S.inserts changes) := by
  induction changes generalizing db with
  | nil => simp [Schema.applyAll, Schema.inserts]
  | cons change changes ih =>
    have hinserts : S.inserts (change :: changes) = (change.key S).toList ++ S.inserts changes := by
      unfold Schema.inserts
      rw [List.filterMap_cons]
      cases change.key S <;> rfl
    rw [hinserts, ← List.append_assoc]
    exact (ih _).trans ((change.keys db).append_right _)

end

/-! ## No key twice -/

/-- No key is stored twice, and none is held by two transactions or stored and
held. -/
structure Concurrent.KeysOnce (st : Concurrent ι δ ρ υ ε α) : Prop where
  visible : ∀ c, (S.keys st.db ++ (st.calls c).holds S).Nodup
  apart : ∀ c c', c ≠ c' → ((st.calls c).holds S).Disjoint ((st.calls c').holds S)

variable {S} {st st' st₀ : Concurrent ι δ ρ υ ε α}

/-- A transaction that now holds fewer keys, or the same. -/
theorem Concurrent.KeysOnce.shrink (h : st.KeysOnce S) {c : ι} {call : Call δ ρ υ ε α} (seq : Nat)
    (hsub : (call.holds S).Sublist ((st.calls c).holds S)) :
    (({ st with seq := seq } : Concurrent ι δ ρ υ ε α).set c call).KeysOnce S := by
  have hcalls : ∀ c', ((({ st with seq := seq } : Concurrent ι δ ρ υ ε α).set c call).calls c').holds S |>.Sublist
      ((st.calls c').holds S) := by
    intro c'
    by_cases hcc : c' = c
    · subst hcc
      rw [Concurrent.set_self]
      exact hsub
    · rw [Concurrent.set_of_ne _ hcc]
  refine ⟨fun c' => (h.visible c').sublist ((hcalls c').append_left _), fun c₁ c₂ hne => ?_⟩
  intro key hkey hkey'
  exact h.apart c₁ c₂ hne ((hcalls c₁).subset hkey) ((hcalls c₂).subset hkey')

theorem CallStep.keysOnce {c : ι} (h : CallStep S c st st') (hst : st.KeysOnce S) : st'.KeysOnce S := by
  cases h with
  | read hc => exact hst.shrink st.seq (by rw [hc]; exact .refl _)
  | conflict hc hkey htaken => exact hst.shrink st.seq (by rw [hc]; exact .refl _)
  | update hc =>
    refine hst.shrink st.seq ?_
    rw [hc]
    simp [Call.holds, Schema.inserts_append, RowChange.key]
  | raise hc => exact hst.shrink st.seq (List.nil_sublist _)
  | rollBack hc => exact hst.shrink st.seq (List.nil_sublist _)
  | @insert changes r k hc hwait hfree =>
    have hvisible := hst.visible c
    simp only [hc, Call.holds] at hvisible
    have hnew : ∀ key ∈ (S.key r).toList, key ∉ S.keys st.db ∧ key ∉ S.inserts changes ∧
        ∀ c' ≠ c, key ∉ (st.calls c').holds S := by
      intro key hkey
      rw [Option.mem_toList] at hkey
      have habsent := hfree key hkey
      rw [(S.keys_applyAll changes st.db).mem_iff, List.mem_append, not_or] at habsent
      exact ⟨habsent.1, habsent.2, hwait key hkey⟩
    have hholds : ∀ c', (({ st with seq := st.seq + 1 }.set c (.active (changes ++ [RowChange.inserted st.seq r]) k)).calls c').holds S =
        if c' = c then S.inserts changes ++ (S.key r).toList else (st.calls c').holds S := by
      intro c'
      split
      · rename_i hcc
        rw [hcc, Concurrent.set_self]
        exact S.inserts_append changes _
      · rename_i hcc
        rw [Concurrent.set_of_ne _ hcc]
    refine ⟨fun c' => ?_, fun c₁ c₂ hne key hkey hkey' => ?_⟩
    · rw [hholds]
      split
      · show (S.keys st.db ++ (S.inserts changes ++ (S.key r).toList)).Nodup
        rw [← List.append_assoc]
        refine hvisible.append (by cases S.key r <;> simp) ?_
        intro key hkey hkey'
        obtain ⟨hdb, hown, -⟩ := hnew key hkey'
        exact (List.mem_append.1 hkey).elim hdb hown
      · exact hst.visible c'
    · rw [hholds] at hkey hkey'
      -- the new key is held by no other transaction
      split at hkey <;> split at hkey'
      · rename_i h₁ h₂
        exact hne (h₁.trans h₂.symm)
      · rename_i h₁ h₂
        rcases List.mem_append.1 hkey with hkey | hkey
        · exact hst.apart c c₂ (Ne.symm h₂) (by rw [hc]; exact hkey) hkey'
        · exact (hnew key hkey).2.2 c₂ h₂ hkey'
      · rename_i h₁ h₂
        rcases List.mem_append.1 hkey' with hkey' | hkey'
        · exact hst.apart c₁ c h₁ hkey (by rw [hc]; exact hkey')
        · exact (hnew key hkey').2.2 c₁ h₁ hkey
      · exact hst.apart c₁ c₂ hne hkey hkey'
  | @commit changes a hc =>
    have hown : (st.calls c).holds S = S.inserts changes := by rw [hc]; rfl
    have hholds : ∀ c', (({ st with db := S.applyAll changes st.db }.set c (.committed a)).calls c').holds S =
        if c' = c then [] else (st.calls c').holds S := by
      intro c'
      split
      · rename_i hcc
        rw [hcc, Concurrent.set_self]
        rfl
      · rename_i hcc
        rw [Concurrent.set_of_ne _ hcc]
    refine ⟨fun c' => ?_, fun c₁ c₂ hne key hkey hkey' => ?_⟩
    · rw [hholds]
      refine ((S.keys_applyAll changes st.db).append_right _).nodup_iff.2 ?_
      have hvisible := hst.visible c
      rw [hown] at hvisible
      split
      · rw [List.append_nil]
        exact hvisible
      · rename_i hcc
        refine hvisible.append (List.Nodup.of_append_right (hst.visible c')) ?_
        intro key hkey hkey'
        rcases List.mem_append.1 hkey with hkey | hkey
        · exact (List.disjoint_of_nodup_append (hst.visible c')) hkey hkey'
        · exact hst.apart c c' (Ne.symm hcc) (by rw [hown]; exact hkey) hkey'
    · rw [hholds] at hkey hkey'
      split at hkey
      · simp at hkey
      · split at hkey'
        · simp at hkey'
        · exact hst.apart c₁ c₂ hne hkey hkey'

theorem Interleaves.keysOnce (h : Interleaves S st₀ st) (h₀ : st₀.KeysOnce S) : st.KeysOnce S := by
  induction h with
  | start => exact h₀
  | call c _ hstep ih => exact hstep.keysOnce ih

omit [DecidableEq ι] in
theorem Concurrent.keysOnce_begin {seq : Nat} {db : δ} {prog : ι → Stmt δ ρ υ ε α} (h : (S.keys db).Nodup) :
    (Concurrent.begin seq db prog).KeysOnce S := by
  refine ⟨fun c => ?_, fun c c' _ key hkey => ?_⟩
  · simpa [Concurrent.begin, Call.holds, Schema.inserts] using h
  · simp [Concurrent.begin, Call.holds, Schema.inserts] at hkey

/-! ## What one transaction establishes -/

section
variable (S)

/-- Started with `changes` made and `db` committed, the transaction keeps `C` of
its changes and returns only where `Q` holds, whatever the others commit
between its statements, as long as they keep `I`. -/
def Stmt.Meets (I : δ → Prop) (C : List (RowChange ρ υ) → Prop) (Q : α → List (RowChange ρ υ) → δ → Prop) :
    Stmt δ ρ υ ε α → List (RowChange ρ υ) → δ → Prop
  | .done a, changes, db => ∀ db', S.Grows db db' → I db' → Q a changes db'
  | .fail _, _, _ => True
  | .read k, changes, db => ∀ db', S.Grows db db' → I db' → (k (S.applyAll changes db')).Meets I C Q changes db'
  | .insert r k, changes, db => ∀ db', S.Grows db db' → I db' →
      (∀ id, (∀ key, S.key r = some key → key ∉ S.keys (S.applyAll changes db')) →
        C (changes ++ [RowChange.inserted id r]) ∧ k.Meets I C Q (changes ++ [RowChange.inserted id r]) db') ∧
      (∀ key, S.key r = some key → key ∈ S.keys (S.applyAll changes db') → k.Meets I C Q changes db')
  | .update u k, changes, db => ∀ db', S.Grows db db' → I db' →
      C (changes ++ [RowChange.updated u]) ∧ k.Meets I C Q (changes ++ [RowChange.updated u]) db'

end

variable {I : δ → Prop} {C : List (RowChange ρ υ) → Prop} {Q : α → List (RowChange ρ υ) → δ → Prop} {db db' : δ}
  {changes : List (RowChange ρ υ)}

theorem Stmt.Meets.mono {p : Stmt δ ρ υ ε α} (h : p.Meets S I C Q changes db) (hgrows : S.Grows db db') :
    p.Meets S I C Q changes db' := by
  cases p with
  | fail e => trivial
  | done a => exact fun db'' hgrows' => h db'' (S.grows_trans hgrows hgrows')
  | read k => exact fun db'' hgrows' => h db'' (S.grows_trans hgrows hgrows')
  | insert r k => exact fun db'' hgrows' => h db'' (S.grows_trans hgrows hgrows')
  | update u k => exact fun db'' hgrows' => h db'' (S.grows_trans hgrows hgrows')

/-- The others keep `I`, so only databases with `I` matter. -/
theorem Stmt.meets_of_kept {p : Stmt δ ρ υ ε α}
    (h : ∀ db', S.Grows db db' → I db' → p.Meets S I C Q changes db') : p.Meets S I C Q changes db := by
  cases p with
  | fail e => trivial
  | done a => exact fun db' hgrows hI => h db' hgrows hI db' (S.grows_refl db') hI
  | read k => exact fun db' hgrows hI => h db' hgrows hI db' (S.grows_refl db') hI
  | insert r k => exact fun db' hgrows hI => h db' hgrows hI db' (S.grows_refl db') hI
  | update u k => exact fun db' hgrows hI => h db' hgrows hI db' (S.grows_refl db') hI

theorem Stmt.meets_bind {p : Stmt δ ρ υ ε β} {f : β → Stmt δ ρ υ ε α}
    (h : p.Meets S I C (fun b changes db => (f b).Meets S I C Q changes db) changes db) :
    (p.bind f).Meets S I C Q changes db := by
  induction p generalizing changes db with
  | done b => exact Stmt.meets_of_kept h
  | fail e => trivial
  | read k ih => exact fun db' hgrows hI => ih _ (h db' hgrows hI)
  | insert r k ih =>
    intro db' hgrows hI
    obtain ⟨hfree, htaken⟩ := h db' hgrows hI
    exact ⟨fun id hkey => ⟨(hfree id hkey).1, ih (hfree id hkey).2⟩, fun key hkey hmem => ih (htaken key hkey hmem)⟩
  | update u k ih =>
    intro db' hgrows hI
    exact ⟨(h db' hgrows hI).1, ih (h db' hgrows hI).2⟩

theorem Stmt.Meets.weaken {Q' : α → List (RowChange ρ υ) → δ → Prop} {p : Stmt δ ρ υ ε α} (h : p.Meets S I C Q changes db)
    (hQ : ∀ a changes db, Q a changes db → Q' a changes db) : p.Meets S I C Q' changes db := by
  induction p generalizing changes db with
  | done a => exact fun db' hgrows hI => hQ a changes db' (h db' hgrows hI)
  | fail e => trivial
  | read k ih => exact fun db' hgrows hI => ih _ (h db' hgrows hI)
  | insert r k ih =>
    intro db' hgrows hI
    obtain ⟨hfree, htaken⟩ := h db' hgrows hI
    exact ⟨fun id hkey => ⟨(hfree id hkey).1, ih (hfree id hkey).2⟩, fun key hkey hmem => ih (htaken key hkey hmem)⟩
  | update u k ih =>
    intro db' hgrows hI
    exact ⟨(h db' hgrows hI).1, ih (h db' hgrows hI).2⟩

/-- What a transaction has gone on to: changes it keeps `C` of, and a database
in which nothing it could see is lost. -/
structure Schema.Goes (S : Schema δ ρ υ κ) (C : List (RowChange ρ υ) → Prop) (changes : List (RowChange ρ υ)) (db : δ)
    (changes' : List (RowChange ρ υ)) (db' : δ) : Prop where
  kept : C changes'
  grows : S.Grows (S.applyAll changes db) (S.applyAll changes' db')

omit [DecidableEq ι] in
theorem Schema.Goes.trans {changes' changes'' : List (RowChange ρ υ)} {db'' : δ} (h : S.Goes C changes db changes' db')
    (h' : S.Goes C changes' db' changes'' db'') : S.Goes C changes db changes'' db'' :=
  ⟨h'.kept, S.grows_trans h.grows h'.grows⟩

theorem Schema.Goes.later (hC : C changes) (hgrows : S.Grows db db') : S.Goes C changes db changes db' :=
  ⟨hC, S.applyAll_mono changes hgrows⟩

/-- The transaction goes on to where it sees `P`. -/
def Stmt.Reaches (S : Schema δ ρ υ κ) (I : δ → Prop) (C : List (RowChange ρ υ) → Prop) (P : α → δ → Prop)
    (p : Stmt δ ρ υ ε α) (changes : List (RowChange ρ υ)) (db : δ) : Prop :=
  p.Meets S I C (fun a changes' db' => I db' ∧ S.Goes C changes db changes' db' ∧ P a (S.applyAll changes' db')) changes db

section
variable {P : α → δ → Prop} {P' : β → δ → Prop}

theorem Stmt.reaches_fail (e : ε) : (Stmt.fail e : Stmt δ ρ υ ε α).Reaches S I C P changes db := trivial

theorem Stmt.reaches_done {a : α} (hstable : ∀ db db', S.Grows db db' → P a db → P a db') (hC : C changes)
    (ha : P a (S.applyAll changes db)) : (Stmt.done a : Stmt δ ρ υ ε α).Reaches S I C P changes db :=
  fun _ hgrows hI => ⟨hI, .later hC hgrows, hstable _ _ (S.applyAll_mono changes hgrows) ha⟩

theorem Stmt.reaches_bind {p : Stmt δ ρ υ ε β} {f : β → Stmt δ ρ υ ε α} (hp : p.Reaches S I C P' changes db)
    (hf : ∀ b changes' db', I db' → S.Goes C changes db changes' db' → P' b (S.applyAll changes' db') →
      (f b).Reaches S I C P changes' db') : (p.bind f).Reaches S I C P changes db := by
  refine Stmt.meets_bind (hp.weaken ?_)
  rintro b changes' db' ⟨hI, hgoes, hb⟩
  refine (hf b changes' db' hI hgoes hb).weaken ?_
  rintro a changes'' db'' ⟨hI', hgoes', ha⟩
  exact ⟨hI', hgoes.trans hgoes', ha⟩

/-- A statement that reads decides by what is visible then. -/
theorem Stmt.reaches_read {k : δ → Stmt δ ρ υ ε α} (hC : C changes)
    (hk : ∀ db', S.Grows db db' → I db' → (k (S.applyAll changes db')).Reaches S I C P changes db') :
    (Stmt.read k).Reaches S I C P changes db := by
  intro db' hgrows hI
  refine (hk db' hgrows hI).weaken ?_
  rintro a changes' db'' ⟨hI', hgoes, ha⟩
  exact ⟨hI', (Schema.Goes.later hC hgrows).trans hgoes, ha⟩

theorem Stmt.reaches_insert {r : ρ} {k : Stmt δ ρ υ ε α} (hC : C changes)
    (hinsert : ∀ db' id, S.Grows db db' → I db' →
      (∀ key, S.key r = some key → key ∉ S.keys (S.applyAll changes db')) → C (changes ++ [RowChange.inserted id r]))
    (hk : ∀ changes' db', S.Goes C changes db changes' db' → k.Reaches S I C P changes' db') :
    (Stmt.insert r k).Reaches S I C P changes db := by
  have hrest : ∀ changes' db', S.Goes C changes db changes' db' →
      k.Meets S I C (fun a changes' db' => I db' ∧ S.Goes C changes db changes' db' ∧ P a (S.applyAll changes' db'))
        changes' db' := by
    intro changes' db' hgoes
    refine (hk changes' db' hgoes).weaken ?_
    rintro a changes'' db'' ⟨hI, hgoes', ha⟩
    exact ⟨hI, hgoes.trans hgoes', ha⟩
  intro db' hgrows hI
  refine ⟨fun id hfree => ?_, fun _ _ _ => hrest changes db' (.later hC hgrows)⟩
  have hkept := hinsert db' id hgrows hI hfree
  refine ⟨hkept, hrest _ db' ⟨hkept, ?_⟩⟩
  rw [S.applyAll_append]
  exact S.grows_trans (S.applyAll_mono changes hgrows) (RowChange.grows _ _)

theorem Stmt.reaches_update {u : υ} {k : Stmt δ ρ υ ε α} (hC : C (changes ++ [RowChange.updated u]))
    (hk : k.Reaches S I C P (changes ++ [RowChange.updated u]) db) : (Stmt.update u k).Reaches S I C P changes db := by
  intro db' hgrows _
  refine ⟨hC, (Stmt.Meets.mono hk hgrows).weaken ?_⟩
  rintro a changes' db'' ⟨hI, hgoes, ha⟩
  refine ⟨hI, ⟨hgoes.kept, S.grows_trans ?_ hgoes.grows⟩, ha⟩
  rw [S.applyAll_append]
  exact RowChange.grows _ _

theorem Stmt.Reaches.weaken {P₀ : α → δ → Prop} {p : Stmt δ ρ υ ε α} (h : p.Reaches S I C P₀ changes db)
    (hP : ∀ a changes' db', S.Goes C changes db changes' db' → P₀ a (S.applyAll changes' db') → P a (S.applyAll changes' db')) :
    p.Reaches S I C P changes db := by
  refine Stmt.Meets.weaken h ?_
  rintro a changes' db' ⟨hI, hgoes, ha⟩
  exact ⟨hI, hgoes, hP a changes' db' hgoes ha⟩

/-- A loop reaches what its rounds reach, each from whatever the earlier ones
have left. -/
theorem Stmt.reaches_forEach {f : β → Stmt δ ρ υ ε Unit} {xs : List β} (hC : C changes)
    (hstable : ∀ x db db', S.Grows db db' → P' x db → P' x db')
    (hf : ∀ x ∈ xs, ∀ changes' db', S.Goes C changes db changes' db' →
      (f x).Reaches S I C (fun _ => P' x) changes' db') :
    (Stmt.forEach xs f).Reaches S I C (fun _ db' => ∀ x ∈ xs, P' x db') changes db := by
  induction xs generalizing changes db with
  | nil => exact Stmt.reaches_done (by simp) hC (by simp)
  | cons x xs ih =>
    refine Stmt.reaches_bind (hf x (by simp) changes db (.later hC (S.grows_refl db))) ?_
    intro _ changes' db' _ hgoes hx
    refine (ih hgoes.kept fun y hy changes'' db'' hgoes' => hf y (by simp [hy]) _ _ (hgoes.trans hgoes')).weaken ?_
    intro _ changes'' db'' hgoes' hxs y hy
    rcases List.mem_cons.1 hy with rfl | hy
    · exact hstable y _ _ hgoes'.grows hx
    · exact hxs y hy

end

/-! ## What all of them establish -/

/-- Every transaction is on its way to `Q`, or has committed and has `R`. -/
structure Concurrent.Sound (S : Schema δ ρ υ κ) (I : δ → Prop) (C : List (RowChange ρ υ) → Prop)
    (Q : α → List (RowChange ρ υ) → δ → Prop) (R : α → δ → Prop) (st : Concurrent ι δ ρ υ ε α) : Prop where
  active : ∀ c changes rest, st.calls c = .active changes rest → C changes ∧ rest.Meets S I C Q changes st.db
  committed : ∀ c a, st.calls c = .committed a → ∀ db', S.Grows st.db db' → R a db'
  invariant : I st.db

section
variable {R : α → δ → Prop}

/-- A transaction that moves on over the same database. -/
theorem Concurrent.Sound.set {c : ι} {rest : Stmt δ ρ υ ε α} (seq : Nat) (h : st.Sound S I C Q R)
    (hchanges : C changes) (hrest : rest.Meets S I C Q changes st.db) :
    (({ st with seq := seq } : Concurrent ι δ ρ υ ε α).set c (.active changes rest)).Sound S I C Q R := by
  refine ⟨fun c' changes' rest' hc' => ?_, fun c' a hc' => ?_, h.invariant⟩
  · by_cases hcc : c' = c
    · subst hcc
      rw [Concurrent.set_self] at hc'
      obtain ⟨rfl, rfl⟩ := Call.active.inj hc'
      exact ⟨hchanges, hrest⟩
    · rw [Concurrent.set_of_ne _ hcc] at hc'
      exact h.active c' changes' rest' hc'
  · by_cases hcc : c' = c
    · subst hcc
      rw [Concurrent.set_self] at hc'
      simp at hc'
    · rw [Concurrent.set_of_ne _ hcc] at hc'
      exact h.committed c' a hc'

/-- A transaction that ends without a commit. -/
theorem Concurrent.Sound.end {c : ι} {call : Call δ ρ υ ε α} (h : st.Sound S I C Q R)
    (hactive : ∀ changes rest, call ≠ .active changes rest) (hcommitted : ∀ a, call ≠ .committed a) :
    (st.set c call).Sound S I C Q R := by
  refine ⟨fun c' changes' rest' hc' => ?_, fun c' a hc' => ?_, h.invariant⟩
  · by_cases hcc : c' = c
    · subst hcc
      rw [Concurrent.set_self] at hc'
      exact absurd hc' (hactive _ _)
    · rw [Concurrent.set_of_ne _ hcc] at hc'
      exact h.active c' changes' rest' hc'
  · by_cases hcc : c' = c
    · subst hcc
      rw [Concurrent.set_self] at hc'
      exact absurd hc' (hcommitted _)
    · rw [Concurrent.set_of_ne _ hcc] at hc'
      exact h.committed c' a hc'

/-- What a commit owes: the invariant over the new database, and the
postcondition for good. -/
def Schema.Commits (S : Schema δ ρ υ κ) (I : δ → Prop) (C : List (RowChange ρ υ) → Prop)
    (Q : α → List (RowChange ρ υ) → δ → Prop) (R : α → δ → Prop) : Prop :=
  ∀ a changes db, I db → C changes → (S.keys (S.applyAll changes db)).Nodup → Q a changes db →
    I (S.applyAll changes db) ∧ ∀ db', S.Grows (S.applyAll changes db) db' → R a db'

theorem CallStep.sound {c : ι} (hcommits : S.Commits I C Q R) (h : CallStep S c st st') (hkeys : st.KeysOnce S)
    (hst : st.Sound S I C Q R) : st'.Sound S I C Q R := by
  have hI := hst.invariant
  have hnow := S.grows_refl st.db
  cases h with
  | read hc =>
    obtain ⟨hchanges, hrest⟩ := hst.active c _ _ hc
    exact hst.set st.seq hchanges (hrest _ hnow hI)
  | @insert changes r k hc hwait hfree =>
    obtain ⟨-, hrest⟩ := hst.active c _ _ hc
    obtain ⟨hchanges, hrest⟩ := (hrest _ hnow hI).1 st.seq hfree
    exact hst.set (st.seq + 1) hchanges hrest
  | conflict hc hkey htaken =>
    obtain ⟨hchanges, hrest⟩ := hst.active c _ _ hc
    exact hst.set st.seq hchanges ((hrest _ hnow hI).2 _ hkey htaken)
  | @update changes u k hc =>
    obtain ⟨-, hrest⟩ := hst.active c _ _ hc
    obtain ⟨hchanges, hrest⟩ := hrest _ hnow hI
    exact hst.set st.seq hchanges hrest
  | raise hc => exact hst.end (by simp) (by simp)
  | rollBack hc => exact hst.end (by simp) (by simp)
  | @commit changes a hc =>
    obtain ⟨hchanges, hrest⟩ := hst.active c _ _ hc
    have hgrows : S.Grows st.db (S.applyAll changes st.db) := S.grows_applyAll changes st.db
    have hnodup : (S.keys (S.applyAll changes st.db)).Nodup := by
      have hvisible := hkeys.visible c
      rw [hc] at hvisible
      exact (S.keys_applyAll changes st.db).nodup_iff.2 hvisible
    obtain ⟨hinvariant, hpost⟩ := hcommits a changes st.db hI hchanges hnodup (hrest _ hnow hI)
    refine ⟨fun c' changes' rest' hc' => ?_, fun c' a' hc' => ?_, hinvariant⟩
    · by_cases hcc : c' = c
      · subst hcc
        rw [Concurrent.set_self] at hc'
        simp at hc'
      · rw [Concurrent.set_of_ne _ hcc] at hc'
        obtain ⟨hchanges', hrest'⟩ := hst.active c' changes' rest' hc'
        exact ⟨hchanges', hrest'.mono hgrows⟩
    · by_cases hcc : c' = c
      · subst hcc
        rw [Concurrent.set_self] at hc'
        obtain rfl := Call.committed.inj hc'
        exact hpost
      · rw [Concurrent.set_of_ne _ hcc] at hc'
        exact fun db' hgrows' => hst.committed c' a' hc' db' (S.grows_trans hgrows hgrows')

/-- In every interleaving of transactions that establish `Q`, the invariant
holds of what is committed and each one that has committed has its
postcondition. -/
theorem Interleaves.sound {seq : Nat} {prog : ι → Stmt δ ρ υ ε α} (hcommits : S.Commits I C Q R)
    (hkeys : (S.keys db).Nodup) (hdb : I db) (hnil : C []) (hprog : ∀ c, (prog c).Meets S I C Q [] db)
    (h : Interleaves S (.begin seq db prog) st) : st.Sound S I C Q R := by
  have hkeep : st.KeysOnce S ∧ st.Sound S I C Q R := by
    induction h with
    | start =>
      refine ⟨Concurrent.keysOnce_begin hkeys, fun c changes rest hc => ?_, fun c a hc => ?_, hdb⟩
      · obtain ⟨rfl, rfl⟩ := Call.active.inj hc
        exact ⟨hnil, hprog c⟩
      · simp [Concurrent.begin] at hc
    | call c _ hstep ih => exact ⟨hstep.keysOnce ih.1, hstep.sound hcommits ih.1 ih.2⟩
  exact hkeep.2

/-- The same of transactions that go on to see `P`. -/
theorem Interleaves.reached {P : α → δ → Prop} {seq : Nat} {prog : ι → Stmt δ ρ υ ε α}
    (hstable : ∀ a db db', S.Grows db db' → P a db → P a db')
    (hcommit : ∀ a changes db, I db → C changes → (S.keys (S.applyAll changes db)).Nodup →
      P a (S.applyAll changes db) → I (S.applyAll changes db))
    (hkeys : (S.keys db).Nodup) (hdb : I db) (hnil : C []) (hprog : ∀ c, (prog c).Reaches S I C P [] db)
    (h : Interleaves S (.begin seq db prog) st) : I st.db ∧ ∀ c a, st.calls c = .committed a → P a st.db := by
  have hcommits : S.Commits I C
      (fun a changes' db' => I db' ∧ S.Goes C [] db changes' db' ∧ P a (S.applyAll changes' db')) P := by
    rintro a changes db' hI hC hnodup ⟨-, -, ha⟩
    exact ⟨hcommit a changes db' hI hC hnodup ha, fun db'' hgrows => hstable a _ _ hgrows ha⟩
  have hsound := Interleaves.sound hcommits hkeys hdb hnil hprog h
  exact ⟨hsound.invariant, fun c a hc => hsound.committed c a hc st.db (S.grows_refl _)⟩

end

/-! ## Rows stored once -/

/-- Some of the rows: how many are stored, and which new rows count. -/
structure Selection (S : Schema δ ρ υ κ) where
  count : δ → Nat
  hits : ρ → Bool
  count_add : ∀ id r db, count (S.add id r db) = count db + if hits r then 1 else 0
  count_modify : ∀ u db, count (S.modify u db) = count db

/-- How many of the rows some changes add. -/
def Selection.own (sel : Selection S) (changes : List (RowChange ρ υ)) : Nat :=
  changes.countP fun
    | .inserted _ r => sel.hits r
    | .updated _ => false

omit [DecidableEq ι] in
theorem Selection.own_inserted (sel : Selection S) (changes : List (RowChange ρ υ)) (id : Nat) (r : ρ) :
    sel.own (changes ++ [.inserted id r]) = sel.own changes + if sel.hits r then 1 else 0 := by
  simp [Selection.own, List.countP_append, List.countP_cons]

theorem Selection.own_updated (sel : Selection S) (changes : List (RowChange ρ υ)) (u : υ) :
    sel.own (changes ++ [.updated u]) = sel.own changes := by
  simp [Selection.own, List.countP_append]

theorem Selection.count_applyAll (sel : Selection S) (changes : List (RowChange ρ υ)) (db : δ) :
    sel.count (S.applyAll changes db) = sel.count db + sel.own changes := by
  induction changes generalizing db with
  | nil => rfl
  | cons change changes ih =>
    refine (ih _).trans ?_
    cases change with
    | inserted id r =>
      simp only [RowChange.apply, sel.count_add, Selection.own, List.countP_cons]
      omega
    | updated u => simp [RowChange.apply, sel.count_modify, Selection.own]

/-- At most one of the rows is stored, and one is as soon as the guard is.
Without a guard one is from the start. -/
def Selection.Kept (sel : Selection S) (guard : Option κ) (db : δ) : Prop :=
  sel.count db ≤ 1 ∧ (sel.count db ≠ 0 ↔ ∀ key, guard = some key → key ∈ S.keys db)

/-- A transaction that adds one of the rows holds the guard. -/
def Selection.Guarded (sel : Selection S) (guard : Option κ) (changes : List (RowChange ρ υ)) : Prop :=
  sel.own changes = 0 ∨ sel.own changes = 1 ∧ ∃ key, guard = some key ∧ key ∈ S.inserts changes

section
variable {sel : Selection S} {guard : Option κ}

theorem Selection.guarded_nil : sel.Guarded guard [] := .inl rfl

theorem Selection.Guarded.inserted {r : ρ} (h : sel.Guarded guard changes) (id : Nat) (hr : sel.hits r = false) :
    sel.Guarded guard (changes ++ [.inserted id r]) := by
  have hown : sel.own (changes ++ [.inserted id r]) = sel.own changes := by simp [sel.own_inserted, hr]
  rcases h with h | ⟨h, key, hguard, hkey⟩
  · exact .inl (hown.trans h)
  · exact .inr ⟨hown.trans h, key, hguard, by simp [Schema.inserts_append, hkey]⟩

theorem Selection.Guarded.updated (h : sel.Guarded guard changes) (u : υ) :
    sel.Guarded guard (changes ++ [.updated u]) := by
  have hown := sel.own_updated changes u
  rcases h with h | ⟨h, key, hguard, hkey⟩
  · exact .inl (hown.trans h)
  · exact .inr ⟨hown.trans h, key, hguard, by simp [Schema.inserts_append, hkey]⟩

/-- A row whose own key is the guard. -/
theorem Selection.Guarded.own_key {r : ρ} {key : κ} (h : sel.Guarded (some key) changes) (id : Nat)
    (hkey : S.key r = some key) (hfree : key ∉ S.keys (S.applyAll changes db)) :
    sel.Guarded (some key) (changes ++ [.inserted id r]) := by
  have hmem : key ∈ S.inserts (changes ++ [RowChange.inserted id r]) := by simp [Schema.inserts_append, RowChange.key, hkey]
  have hnone : sel.own changes = 0 := by
    rcases h with h | ⟨-, key', hguard, hheld⟩
    · exact h
    · cases hguard
      refine absurd ?_ hfree
      rw [(S.keys_applyAll changes db).mem_iff]
      exact List.mem_append_right _ hheld
  cases hr : sel.hits r with
  | false => exact .inl (by simp [sel.own_inserted, hnone, hr])
  | true => exact .inr ⟨by simp [sel.own_inserted, hnone, hr], key, rfl, hmem⟩

/-- A row that is missing although the guard is visible: the transaction has
stored the guard itself. -/
theorem Selection.Kept.missing {r : ρ} (hdb : sel.Kept guard db) (id : Nat)
    (hguard : ∀ key, guard = some key → key ∈ S.keys (S.applyAll changes db))
    (hcount : sel.count (S.applyAll changes db) = 0) : sel.Guarded guard (changes ++ [.inserted id r]) := by
  rw [sel.count_applyAll] at hcount
  obtain ⟨-, hiff⟩ := hdb
  cases hr : sel.hits r with
  | false => exact .inl (by simp only [sel.own_inserted, hr]; simp; omega)
  | true =>
    refine .inr ⟨by simp only [sel.own_inserted, hr]; simp; omega, ?_⟩
    cases guard with
    | none => exact absurd (by simp) (mt hiff.2 (by omega))
    | some key =>
      refine ⟨key, rfl, ?_⟩
      have hvisible := hguard key rfl
      rw [(S.keys_applyAll changes db).mem_iff, List.mem_append] at hvisible
      rcases hvisible with hstored | hheld
      · exact absurd (hiff.2 fun key' hkey' => by cases hkey'; exact hstored) (by omega)
      · simp [Schema.inserts_append, hheld]

/-- Committing a transaction that sees one of the rows. -/
theorem Selection.Kept.commit (hdb : sel.Kept guard db) (hchanges : sel.Guarded guard changes)
    (hkeys : (S.keys (S.applyAll changes db)).Nodup) (hcount : sel.count (S.applyAll changes db) ≠ 0) :
    sel.Kept guard (S.applyAll changes db) := by
  obtain ⟨hle, hiff⟩ := hdb
  have hperm := S.keys_applyAll changes db
  have happly := sel.count_applyAll changes db
  rcases hchanges with hown | ⟨hown, key, rfl, hheld⟩
  · refine ⟨by omega, fun _ key hkey => ?_, fun _ => hcount⟩
    rw [hperm.mem_iff]
    exact List.mem_append_left _ (hiff.1 (by omega) key hkey)
  · have hapart : key ∉ S.keys db := fun hstored =>
      List.disjoint_of_nodup_append (hperm.nodup_iff.1 hkeys) hstored hheld
    have hnone : sel.count db = 0 := by
      by_contra hsome
      exact hapart (hiff.1 hsome key rfl)
    refine ⟨by omega, fun _ key' hkey' => ?_, fun _ => hcount⟩
    cases hkey'
    rw [hperm.mem_iff]
    exact List.mem_append_right _ hheld

end
/-! ## Running a schedule -/

/-- What a transaction that committed returned. -/
def Call.reply : Call δ ρ υ ε α → Option α
  | .committed a => some a
  | _ => none

theorem Call.reply_eq_some {call : Call δ ρ υ ε α} {a : α} : call.reply = some a ↔ call = .committed a := by
  cases call <;> simp [Call.reply]

section
variable (S) [DecidableEq κ] (all : List ι)

/-- The next statement of a transaction, if it need not wait for one of `all`. -/
def Concurrent.advance (st : Concurrent ι δ ρ υ ε α) (c : ι) : Option (Concurrent ι δ ρ υ ε α) :=
  match st.calls c with
  | .active changes (.read k) => some (st.set c (.active changes (k (S.applyAll changes st.db))))
  | .active changes (.insert r k) =>
    if (S.key r).any (S.keys (S.applyAll changes st.db)).contains then some (st.set c (.active changes k))
    else if (S.key r).any fun key => all.any fun c' => c' != c && ((st.calls c').holds S).contains key then none
    else some ({ st with seq := st.seq + 1 }.set c (.active (changes ++ [RowChange.inserted st.seq r]) k))
  | .active changes (.update u k) => some (st.set c (.active (changes ++ [RowChange.updated u]) k))
  | .active changes (.done a) => some ({ st with db := S.applyAll changes st.db }.set c (.committed a))
  | .active _ (.fail e) => some (st.set c (.raised e))
  | _ => none

theorem Concurrent.advance_step {c : ι} (hall : ∀ c, c ∈ all) (h : st.advance S all c = some st') : CallStep S c st st' := by
  unfold Concurrent.advance at h
  split at h
  · rename_i hc
    cases h
    exact .read hc
  · rename_i changes r k hc
    split at h
    · rename_i htaken
      cases h
      obtain ⟨key, hkey, hmem⟩ := (Option.any_eq_true _ _).1 htaken
      exact .conflict hc hkey (by simpa using hmem)
    · rename_i hfree
      split at h
      · simp at h
      · rename_i hwait
        cases h
        refine .insert hc (fun key hkey c' hne hheld => hwait ?_) (fun key hkey hmem => hfree ?_)
        · rw [hkey]
          simp only [Option.any_some, List.any_eq_true]
          exact ⟨c', hall c', by simpa using ⟨hne, hheld⟩⟩
        · simpa [hkey] using hmem
  · rename_i hc
    cases h
    exact .update hc
  · rename_i hc
    cases h
    exact .commit hc
  · rename_i hc
    cases h
    exact .raise hc
  · simp at h

/-- The statements in the order of a schedule. -/
def Concurrent.follow (st : Concurrent ι δ ρ υ ε α) (schedule : List ι) : Option (Concurrent ι δ ρ υ ε α) :=
  schedule.foldlM (Concurrent.advance S all) st

theorem Concurrent.follow_interleaves {schedule : List ι} (hall : ∀ c, c ∈ all) (hst : Interleaves S st₀ st)
    (h : st.follow S all schedule = some st') : Interleaves S st₀ st' := by
  induction schedule generalizing st with
  | nil =>
    cases h
    exact hst
  | cons c schedule ih =>
    obtain ⟨st₁, hstep, hrest⟩ := Option.bind_eq_some_iff.1 h
    exact ih (.call c hst (Concurrent.advance_step S all hall hstep)) hrest

end
end
end M8flowCore.Lib
