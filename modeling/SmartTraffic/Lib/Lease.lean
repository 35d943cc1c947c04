import SmartTraffic.Lib.Dict

/-!
# Leases

A table that says who holds each key. A grant makes a holder that has not been
one before and puts it in the place of the one the key had; a release takes a
key's holder away. Holders are numbered as they are made, so a grant is a fencing
token: what is done with a key after a grant is done by the holder of that grant
or by a later one.
-/

namespace SmartTraffic.Lib

/-- What is seen of a step. -/
inductive Lease (K : Type)
  | granted (k : K) (holder : Nat)
  /-- The holder does something that only the holder of the key may do. -/
  | used (k : K) (holder : Nat)

structure Leases (K : Type) where
  table : Dict K Nat := ∅
  /-- The next holder that is made. -/
  next : Nat := 0

namespace Leases

variable {K : Type} [DecidableEq K]

/-- One step, and what is seen of it. -/
inductive Moves : Leases K → Option (Lease K) → Leases K → Prop
  | rest (l : Leases K) : Moves l none l
  | grant (l : Leases K) (k : K) :
      Moves l (some (.granted k l.next)) { table := l.table.set k l.next, next := l.next + 1 }
  | release (l : Leases K) (k : K) : Moves l none { l with table := l.table.erase k }
  | use {l : Leases K} {k : K} {holder : Nat} (hheld : l.table.get? k = some holder) :
      Moves l (some (.used k holder)) l

/-- A run from the empty table, by what was seen of its steps. -/
inductive Run : List (Option (Lease K)) → Leases K → Prop
  | start : Run [] {}
  | step {ls : List (Option (Lease K))} {l l' : Leases K} {seen : Option (Lease K)}
      (hrun : Run ls l) (hmove : Moves l seen l') : Run (ls ++ [seen]) l'

/-- What the grants of a run leave in the table. -/
structure Fenced (ls : List (Option (Lease K))) (l : Leases K) : Prop where
  held : ∀ k holder, l.table.get? k = some holder → holder < l.next
  made : ∀ k q, some (.granted k q) ∈ ls → q < l.next
  /-- A key is held by its last grant, or not at all. -/
  floor : ∀ k q, some (.granted k q) ∈ ls → ∀ holder, l.table.get? k = some holder → q ≤ holder

theorem mem_snoc {A : Type} {ls : List A} {a b : A} : a ∈ ls ++ [b] ↔ a ∈ ls ∨ a = b := by
  rw [List.mem_append, List.mem_singleton]

/-- A step without a grant, after which the keys are held as before or not at all. -/
theorem Fenced.shrink {ls : List (Option (Lease K))} {l l' : Leases K} {seen : Option (Lease K)}
    (h : Fenced ls l) (hseen : ∀ k q, seen ≠ some (.granted k q))
    (hshrink : l.table.Shrinks l'.table) (hnext : l'.next = l.next) : Fenced (ls ++ [seen]) l' := by
  have hold : ∀ k q, some (.granted k q) ∈ ls ++ [seen] → some (.granted k q) ∈ ls := by
    intro k q hq
    rcases mem_snoc.mp hq with hq | hq
    · exact hq
    · exact absurd hq.symm (hseen k q)
  refine ⟨fun k holder hget => ?_, fun k q hq => ?_, fun k q hq holder hget => ?_⟩
  · rw [hnext]; exact h.held k holder (hshrink k holder hget)
  · rw [hnext]; exact h.made k q (hold k q hq)
  · exact h.floor k q (hold k q hq) holder (hshrink k holder hget)

theorem Fenced.grant {ls : List (Option (Lease K))} {l : Leases K} (h : Fenced ls l) (k : K) :
    Fenced (ls ++ [some (.granted k l.next)])
      { table := l.table.set k l.next, next := l.next + 1 } := by
  refine ⟨fun k' holder hget => ?_, fun k' q hq => ?_, fun k' q hq holder hget => ?_⟩
  · rw [Dict.get?_set] at hget
    split_ifs at hget
    · obtain rfl := Option.some.inj hget
      exact Nat.lt_succ_self _
    · exact Nat.lt_succ_of_lt (h.held k' holder hget)
  · rcases mem_snoc.mp hq with hq | hq
    · exact Nat.lt_succ_of_lt (h.made k' q hq)
    · cases hq
      exact Nat.lt_succ_self _
  · rw [Dict.get?_set] at hget
    split_ifs at hget with hk
    · -- the key has the new holder, which is above every earlier one
      subst hk
      obtain rfl := Option.some.inj hget
      rcases mem_snoc.mp hq with hq | hq
      · exact (h.made k' q hq).le
      · cases hq
        exact le_rfl
    · rcases mem_snoc.mp hq with hq | hq
      · exact h.floor k' q hq holder hget
      · cases hq
        exact absurd rfl hk

theorem Fenced.move {ls : List (Option (Lease K))} {l l' : Leases K} {seen : Option (Lease K)}
    (h : Fenced ls l) (hmove : Moves l seen l') : Fenced (ls ++ [seen]) l' := by
  cases hmove with
  | rest => exact h.shrink (fun k q hq => by cases hq) (Dict.shrinks_refl _) rfl
  | grant k => exact h.grant k
  | release k => exact h.shrink (fun k q hq => by cases hq) (Dict.shrinks_erase _ k) rfl
  | use hheld => exact h.shrink (fun k q hq => by cases hq) (Dict.shrinks_refl _) rfl

theorem Run.fenced {ls : List (Option (Lease K))} {l : Leases K} (h : Run ls l) : Fenced ls l := by
  induction h with
  | start =>
      exact { held := fun k holder hget => (by cases hget)
              made := fun k q hq => (by cases hq)
              floor := fun k q hq => (by cases hq) }
  | step _ hmove ih => exact ih.move hmove

/-- Of two grants the later one made the later holder. -/
def Later (a b : Option (Lease K)) : Prop :=
  ∀ k k' p q, a = some (.granted k p) → b = some (.granted k' q) → p < q

/-- What is done with a key after a grant is done by that holder or a later one. -/
def Respects (a b : Option (Lease K)) : Prop :=
  ∀ k q holder, a = some (.granted k q) → b = some (.used k holder) → q ≤ holder

theorem pairwise_snoc {A : Type} {R : A → A → Prop} {ls : List A} {b : A} (h : ls.Pairwise R)
    (hb : ∀ a ∈ ls, R a b) : (ls ++ [b]).Pairwise R :=
  List.pairwise_append.mpr ⟨h, List.pairwise_singleton _ _, fun a ha c hc => by
    rw [List.mem_singleton.mp hc]; exact hb a ha⟩

/-- **No holder is granted twice.** -/
theorem Run.later {ls : List (Option (Lease K))} {l : Leases K} (h : Run ls l) :
    ls.Pairwise Later := by
  induction h with
  | start => exact List.Pairwise.nil
  | step hrun hmove ih =>
      refine pairwise_snoc ih fun a ha k k' p q hp hq => ?_
      subst hp
      cases hmove with
      | grant => cases hq; exact hrun.fenced.made k p ha
      | rest | release | use => cases hq

/-- **A grant fences off the holders before it.** -/
theorem Run.respects {ls : List (Option (Lease K))} {l : Leases K} (h : Run ls l) :
    ls.Pairwise Respects := by
  induction h with
  | start => exact List.Pairwise.nil
  | step hrun hmove ih =>
      refine pairwise_snoc ih fun a ha k q holder hq hused => ?_
      subst hq
      cases hmove with
      | use hheld => cases hused; exact hrun.fenced.floor k q ha holder hheld
      | rest | release | grant => cases hused

/-- Once a key has been granted to both, only one of two holders does anything with it. -/
theorem Run.exclusive {before after : List (Option (Lease K))} {l : Leases K} {k : K} {p q : Nat}
    (h : Run (before ++ after) l) (hp : some (.granted k p) ∈ before)
    (hq : some (.granted k q) ∈ before) (hp' : some (.used k p) ∈ after)
    (hq' : some (.used k q) ∈ after) : p = q := by
  have hcross := (List.pairwise_append.mp h.respects).2.2
  exact le_antisymm (hcross _ hp _ hq' k p q rfl rfl) (hcross _ hq _ hp' k q p rfl rfl)

end Leases

end SmartTraffic.Lib
