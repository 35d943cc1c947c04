import Mathlib.Algebra.Order.Ring.Rat
import Mathlib.Data.List.Basic

/-!
# What a store whose entries expire may answer

Such a store is not described by what it does inside, only by what can be relied on: an
answer for a key is a value that was put for it and whose time is not over yet. It may also
have nothing, whatever was put.
-/

namespace SmartTraffic.Lib

/-- What is put for a key, when, and for how long. -/
structure Deposit (K V : Type) where
  key : K
  value : V
  time : Rat
  ttl : Rat

/-- The time from which on it is gone. -/
def Deposit.expires {K V : Type} (p : Deposit K V) : Rat := p.time + p.ttl

variable {K V : Type}

/-- The value was put for the key, and its time is not over. -/
def Held (puts : List (Deposit K V)) (k : K) (now : Rat) (v : V) : Prop :=
  ∃ p ∈ puts, p.key = k ∧ p.value = v ∧ p.time ≤ now ∧ now < p.expires

instance [DecidableEq K] [DecidableEq V] (puts : List (Deposit K V)) (k : K) (now : Rat) (v : V) :
    Decidable (Held puts k now v) :=
  inferInstanceAs (Decidable (∃ p ∈ puts, p.key = k ∧ p.value = v ∧ p.time ≤ now ∧ now < p.expires))

/-- The store may give this answer for the key: a value it holds, or nothing. -/
def MayAnswer (puts : List (Deposit K V)) (k : K) (now : Rat) (answer : Option V) : Prop :=
  ∀ v, answer = some v → Held puts k now v

theorem mayAnswer_some {puts : List (Deposit K V)} {k : K} {now : Rat} {v : V} :
    MayAnswer puts k now (some v) ↔ Held puts k now v :=
  ⟨fun h => h v rfl, fun h _ heq => Option.some.inj heq ▸ h⟩

theorem Held.mono {puts puts' : List (Deposit K V)} (hsub : puts ⊆ puts') {k : K} {now : Rat}
    {v : V} (h : Held puts k now v) : Held puts' k now v := by
  obtain ⟨p, hp, hrest⟩ := h
  exact ⟨p, hsub hp, hrest⟩

theorem MayAnswer.mono {puts puts' : List (Deposit K V)} (hsub : puts ⊆ puts') {k : K}
    {now : Rat} {answer : Option V} (h : MayAnswer puts k now answer) :
    MayAnswer puts' k now answer := fun v hv => (h v hv).mono hsub

/-- Where everything lives for the same time, what is held was put within it. -/
theorem Held.within {puts : List (Deposit K V)} {ttl : Rat} (httl : ∀ p ∈ puts, p.ttl = ttl)
    {k : K} {now : Rat} {v : V} (h : Held puts k now v) :
    ∃ p ∈ puts, p.key = k ∧ p.value = v ∧ p.time ≤ now ∧ now < p.time + ttl := by
  obtain ⟨p, hp, hkey, hvalue, hput, hlive⟩ := h
  rw [Deposit.expires, httl p hp] at hlive
  exact ⟨p, hp, hkey, hvalue, hput, hlive⟩

end SmartTraffic.Lib
