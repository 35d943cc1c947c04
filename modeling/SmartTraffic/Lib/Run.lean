import Mathlib

/-!
# Runs of a step function

A step function takes a state and an input to a new state and an output. A run
over a list of inputs is recorded as its list of events, each with the state
before it and the state after it.

Two induction rules are packaged here. `events_invariant` carries an invariant
along a run. `SinceRule.pairwise` relates an earlier event to every later one: the
earlier event establishes a fact about the state, the steps in between keep it,
and the later event uses it. Both see the clock reading of the last input, so
that a run whose readings never decrease needs no clock in its state.
-/

namespace SmartTraffic.Lib

/-- One step of a run. -/
structure Event (S I O : Type) where
  pre : S
  input : I
  out : O
  post : S

section

variable {S I O : Type} (step : S → I → S × O)

/-- The event of one step. -/
def eventOf (s : S) (i : I) : Event S I O :=
  { pre := s, input := i, out := (step s i).2, post := (step s i).1 }

/-- The events of a run. -/
def events (s : S) : List I → List (Event S I O)
  | [] => []
  | i :: is => eventOf step s i :: events (step s i).1 is

/-- The state a run ends in. -/
def final (s : S) (is : List I) : S := is.foldl (fun s i => (step s i).1) s

@[simp] theorem events_nil (s : S) : events step s [] = [] := rfl

@[simp] theorem events_cons (s : S) (i : I) (is : List I) :
    events step s (i :: is) = eventOf step s i :: events step (step s i).1 is := rfl

@[simp] theorem final_cons (s : S) (i : I) (is : List I) :
    final step s (i :: is) = final step (step s i).1 is := rfl

theorem final_append (s : S) (is js : List I) :
    final step s (is ++ js) = final step (final step s is) js := by
  unfold final; rw [List.foldl_append]

theorem events_append (s : S) (is js : List I) :
    events step s (is ++ js) = events step s is ++ events step (final step s is) js := by
  induction is generalizing s with
  | nil => rfl
  | cons i is ih => rw [List.cons_append, events_cons, ih]; rfl

/-- The event of a run at a given place. -/
theorem mem_events_iff {s : S} {is : List I} {e : Event S I O} :
    e ∈ events step s is
      ↔ ∃ before i rest, is = before ++ i :: rest ∧ e = eventOf step (final step s before) i := by
  constructor
  · intro h
    induction is generalizing s with
    | nil => exact absurd h List.not_mem_nil
    | cons i is ih =>
        rcases List.mem_cons.mp h with rfl | h
        · exact ⟨[], i, is, rfl, rfl⟩
        · obtain ⟨before, j, rest, rfl, rfl⟩ := ih h
          exact ⟨i :: before, j, rest, rfl, rfl⟩
  · rintro ⟨before, i, rest, rfl, rfl⟩
    rw [events_append, events_cons]
    exact List.mem_append_right _ List.mem_cons_self

/-! ## Invariants -/

variable {step}

/-- **Invariant rule.** What every admissible step keeps holds before and after every event. -/
theorem events_invariant {Inv : S → Prop} {Ok : S → I → Prop}
    (hstep : ∀ s i, Inv s → Ok s i → Inv (step s i).1) {s : S} {is : List I} (hs : Inv s)
    (hok : ∀ e ∈ events step s is, Ok e.pre e.input) :
    ∀ e ∈ events step s is, Inv e.pre ∧ Inv e.post := by
  induction is generalizing s with
  | nil => intro e he; exact absurd he List.not_mem_nil
  | cons i is ih =>
      have hnext : Inv (step s i).1 := hstep s i hs (hok _ List.mem_cons_self)
      intro e he
      rcases List.mem_cons.mp he with rfl | he
      · exact ⟨hs, hnext⟩
      · exact ih hnext (fun e he => hok e (List.mem_cons_of_mem _ he)) e he

/-- The invariant rule for the state a run ends in. -/
theorem final_invariant {Inv : S → Prop} {Ok : S → I → Prop}
    (hstep : ∀ s i, Inv s → Ok s i → Inv (step s i).1) {s : S} {is : List I} (hs : Inv s)
    (hok : ∀ e ∈ events step s is, Ok e.pre e.input) : Inv (final step s is) := by
  induction is generalizing s with
  | nil => exact hs
  | cons i is ih =>
      rw [final_cons]
      exact ih (hstep s i hs (hok _ List.mem_cons_self))
        fun e he => hok e (List.mem_cons_of_mem _ he)

/-- The invariant rule when every input is admissible. -/
theorem final_invariant_of_step {Inv : S → Prop} (hstep : ∀ s i, Inv s → Inv (step s i).1) {s : S}
    (hs : Inv s) (is : List I) : Inv (final step s is) := by
  have hall : ∀ s i, Inv s → True → Inv (step s i).1 := fun s i h _ => hstep s i h
  exact final_invariant hall hs fun _ _ => trivial

/--
**Exactness rule.** If under an invariant a step is good exactly when it is admissible,
and admissible steps keep the invariant, then the good runs are the admissible ones:
the first bad event is the first inadmissible one.
-/
theorem events_good_iff {Inv : S → Prop} {Ok : S → I → Prop} {Good : Event S I O → Prop}
    (hgood : ∀ s i, Inv s → (Good (eventOf step s i) ↔ Ok s i))
    (hstep : ∀ s i, Inv s → Ok s i → Inv (step s i).1) {s : S} (hs : Inv s) (is : List I) :
    (∀ e ∈ events step s is, Good e) ↔ ∀ e ∈ events step s is, Ok e.pre e.input := by
  induction is generalizing s with
  | nil => simp
  | cons i is ih =>
      rw [events_cons, List.forall_mem_cons, List.forall_mem_cons, hgood s i hs]
      exact and_congr_right fun hi => ih (hstep s i hs hi)

/--
**Origin rule.** If what is there after an admissible step was there before it or
was made by it, then what is there at the end of a run was there at the start or
was made by one of its events.
-/
theorem final_origin {Inv : S → Prop} {Ok : S → I → Prop} (Has : S → Prop)
    (Makes : Event S I O → Prop)
    (hinv : ∀ s i, Inv s → Ok s i → Inv (step s i).1)
    (hstep : ∀ s i, Inv s → Ok s i → Has (step s i).1 → Has s ∨ Makes (eventOf step s i))
    {s : S} {is : List I} (hs : Inv s) (hok : ∀ e ∈ events step s is, Ok e.pre e.input)
    (h : Has (final step s is)) : Has s ∨ ∃ e ∈ events step s is, Makes e := by
  induction is generalizing s with
  | nil => exact Or.inl h
  | cons i is ih =>
      have hi : Ok s i := hok _ List.mem_cons_self
      rcases ih (hinv s i hs hi) (fun e he => hok e (List.mem_cons_of_mem _ he)) h with
        hmid | ⟨e, he, hm⟩
      · rcases hstep s i hs hi hmid with hbefore | hm
        · exact Or.inl hbefore
        · exact Or.inr ⟨_, List.mem_cons_self, hm⟩
      · exact Or.inr ⟨e, List.mem_cons_of_mem _ he, hm⟩

/-! ## Earlier and later events -/

variable {T : Type} [Preorder T]

/--
What relates an earlier event to a later one. `Since e s c` is the trace the
event `e` has left in the state `s` when the clock last read `c`.
-/
structure SinceRule (step : S → I → S × O) (clock : I → T) (Inv : S → Prop) (Ok : S → I → Prop)
    (Since : Event S I O → S → T → Prop) (R : Event S I O → Event S I O → Prop) : Prop where
  /-- Every admissible step keeps the invariant. -/
  inv : ∀ s i, Inv s → Ok s i → Inv (step s i).1
  /-- A step leaves its own trace. -/
  establish : ∀ s i, Inv s → Ok s i → Since (eventOf step s i) (step s i).1 (clock i)
  /-- Later steps keep it. -/
  keep : ∀ e s c i, Inv s → Ok s i → c ≤ clock i → Since e s c → Since e (step s i).1 (clock i)
  /-- The trace is enough for the relation. -/
  relate : ∀ e s c i, Inv s → Ok s i → c ≤ clock i → Since e s c → R e (eventOf step s i)

namespace SinceRule

variable {clock : I → T} {Inv : S → Prop} {Ok : S → I → Prop}
  {Since : Event S I O → S → T → Prop} {R : Event S I O → Event S I O → Prop}

/-- An event that has left its trace is related to everything after it. -/
theorem forall_later (h : SinceRule step clock Inv Ok Since R) {e : Event S I O} {s : S} {c : T}
    {is : List I} (hs : Inv s) (htrace : Since e s c) (hc : (c :: is.map clock).Pairwise (· ≤ ·))
    (hok : ∀ e ∈ events step s is, Ok e.pre e.input) : ∀ e' ∈ events step s is, R e e' := by
  induction is generalizing s c with
  | nil => intro e' he'; exact absurd he' List.not_mem_nil
  | cons i is ih =>
      have hi : Ok s i := hok _ List.mem_cons_self
      obtain ⟨hle, hrest⟩ := List.pairwise_cons.mp hc
      have hci : c ≤ clock i := hle _ (List.mem_map_of_mem List.mem_cons_self)
      intro e' he'
      rcases List.mem_cons.mp he' with rfl | he'
      · exact h.relate e s c i hs hi hci htrace
      · exact ih (h.inv s i hs hi) (h.keep e s c i hs hi hci htrace) hrest
          (fun e he => hok e (List.mem_cons_of_mem _ he)) e' he'

/-- **Every event is related to every later one**, when the clock readings never decrease. -/
theorem pairwise (h : SinceRule step clock Inv Ok Since R) {s : S} {is : List I} (hs : Inv s)
    (hc : (is.map clock).Pairwise (· ≤ ·)) (hok : ∀ e ∈ events step s is, Ok e.pre e.input) :
    (events step s is).Pairwise R := by
  induction is generalizing s with
  | nil => exact List.Pairwise.nil
  | cons i is ih =>
      have hi : Ok s i := hok _ List.mem_cons_self
      have hrest : ∀ e ∈ events step (step s i).1 is, Ok e.pre e.input :=
        fun e he => hok e (List.mem_cons_of_mem _ he)
      have hnext := h.inv s i hs hi
      refine List.pairwise_cons.mpr ⟨?_, ih hnext (List.pairwise_cons.mp hc).2 hrest⟩
      exact h.forall_later hnext (h.establish s i hs hi) hc hrest

end SinceRule

/-! ## The last one -/

/-- `a` is the last element of the list that satisfies `P`. -/
structure LastWith {A : Type} (P : A → Prop) (xs : List A) (a : A) : Prop where
  holds : P a
  split : ∃ before after, xs = before ++ a :: after ∧ ∀ b ∈ after, ¬P b

theorem lastWith_append_self {A : Type} {P : A → Prop} (xs : List A) {a : A} (h : P a) :
    LastWith P (xs ++ [a]) a := ⟨h, xs, [], rfl, fun _ hb => absurd hb List.not_mem_nil⟩

/-- It stays the last one until another element satisfies `P`. -/
theorem LastWith.append {A : Type} {P : A → Prop} {xs : List A} {a b : A} (h : LastWith P xs a)
    (hb : ¬P b) : LastWith P (xs ++ [b]) a := by
  obtain ⟨ha, before, after, rfl, hafter⟩ := h
  refine ⟨ha, before, after ++ [b], by simp, fun c hc => ?_⟩
  rcases List.mem_append.mp hc with hc | hc
  · exact hafter c hc
  · rw [List.mem_singleton.mp hc]; exact hb

theorem LastWith.mem {A : Type} {P : A → Prop} {xs : List A} {a : A} (h : LastWith P xs a) :
    a ∈ xs := by
  obtain ⟨-, before, after, rfl, -⟩ := h
  exact List.mem_append_right _ List.mem_cons_self

/-! ## Spells and countdowns -/

/-- From `s` on, `On` holds through `mid`, and `last` ends it. -/
structure Spell (step : S → I → S × O) (On : S → Prop) (s : S) (mid : List I) (last : I) :
    Prop where
  starts : On s
  stays : ∀ e ∈ events step s mid, On e.post
  ends : ¬On (step (final step s mid) last).1

/--
**Countdown rule.** A timer that falls by no more than the time of each step while
`On` holds, and that must have run out for `On` to end, bounds the length of the
spell from below.
-/
theorem Spell.timer_le {On : S → Prop} (timer : S → Rat) (time : I → Rat) (Ok : S → I → Prop)
    (hrun : ∀ s i, On s → Ok s i → On (step s i).1 → timer s - time i ≤ timer (step s i).1)
    (hend : ∀ s i, On s → Ok s i → ¬On (step s i).1 → timer s ≤ time i)
    {s : S} {mid : List I} {last : I} (h : Spell step On s mid last)
    (hok : ∀ e ∈ events step s (mid ++ [last]), Ok e.pre e.input) :
    timer s ≤ ((mid ++ [last]).map time).sum := by
  induction mid generalizing s with
  | nil =>
      have hlast := hend s last h.starts (hok _ List.mem_cons_self) h.ends
      simpa using hlast
  | cons i mid ih =>
      have hi : Ok s i := hok _ List.mem_cons_self
      have hon : On (step s i).1 := h.stays _ List.mem_cons_self
      have hrest : Spell step On (step s i).1 mid last :=
        ⟨hon, fun e he => h.stays e (List.mem_cons_of_mem _ he), h.ends⟩
      have hle := ih hrest fun e he => hok e (List.mem_cons_of_mem _ he)
      have hstep := hrun s i h.starts hi hon
      rw [List.cons_append, List.map_cons, List.sum_cons]
      linarith

end

end SmartTraffic.Lib
