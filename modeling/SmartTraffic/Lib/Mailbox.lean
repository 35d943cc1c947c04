import SmartTraffic.Lib.Dict

/-!
# A mailbox that keeps the latest letter of each sender

A slot for every key, a flag that is raised with every letter, and one consumer.
The consumer waits for the flag, gathers for a while, and then takes all slots at
once and lowers the flag. A letter that is put where one still lies replaces it.

A run is the list of what happened at each of its steps, so that a letter is
known by the place where it was put. What a batch holds is traced back to such
places: the newest letter of each key, none of them twice, and those of one key
in order.
-/

namespace SmartTraffic.Lib

/-- What the consumer is doing. -/
inductive Stage
  | waiting
  | gathering
  | busy
  deriving DecidableEq, Repr

/-- What a step may do to a mailbox that is seen from outside. -/
inductive Mail (K V : Type)
  | put (k : K) (v : V)
  | take (batch : List (K × V))

@[ext] structure Mailbox (K V : Type) where
  slots : Dict K V := ∅
  ready : Bool := false
  stage : Stage := .waiting

namespace Mailbox

variable {K V : Type}

/-- One step, and what is seen of it. -/
inductive Moves [DecidableEq K] : Mailbox K V → Option (Mail K V) → Mailbox K V → Prop
  | rest (m : Mailbox K V) : Moves m none m
  | put (m : Mailbox K V) (k : K) (v : V) :
      Moves m (some (.put k v)) { m with slots := m.slots.set k v, ready := true }
  | wake {m : Mailbox K V} (hstage : m.stage = .waiting) (hready : m.ready = true) :
      Moves m none { m with stage := .gathering }
  | take {m : Mailbox K V} (hstage : m.stage = .gathering) :
      Moves m (some (.take m.slots.items)) { slots := ∅, ready := false, stage := .busy }
  | finish {m : Mailbox K V} (hstage : m.stage = .busy) : Moves m none { m with stage := .waiting }

/-- A run from the empty mailbox, by what was seen of its steps. -/
inductive Run [DecidableEq K] : List (Option (Mail K V)) → Mailbox K V → Prop
  | start : Run [] {}
  | step {ls : List (Option (Mail K V))} {m m' : Mailbox K V} {l : Option (Mail K V)}
      (hrun : Run ls m) (hmove : Moves m l m') : Run (ls ++ [l]) m'

/-! ## Places in a run -/

/-- The letter `v` is put for `k` at place `i`. -/
def PutAt (ls : List (Option (Mail K V))) (i : Nat) (k : K) (v : V) : Prop :=
  ls[i]? = some (some (.put k v))

/-- The batch is taken at place `j`. -/
def TakenAt (ls : List (Option (Mail K V))) (j : Nat) (batch : List (K × V)) : Prop :=
  ls[j]? = some (some (.take batch))

/-- The letter put at place `i` is the newest of its key before place `n`. -/
structure Newest (ls : List (Option (Mail K V))) (n : Nat) (k : K) (v : V) (i : Nat) : Prop where
  before : i < n
  put : PutAt ls i k v
  newest : ∀ i' v', i < i' → i' < n → ¬PutAt ls i' k v'

/-- Nothing is taken between the places `i` and `n`. -/
def Untaken (ls : List (Option (Mail K V))) (i n : Nat) : Prop :=
  ∀ j batch, i < j → j < n → ¬TakenAt ls j batch

/-- The letter put for `k` at place `i` is in the batch taken at place `j`. -/
def Delivered (ls : List (Option (Mail K V))) (k : K) (i j : Nat) : Prop :=
  ∃ batch v, TakenAt ls j batch ∧ (k, v) ∈ batch ∧ Newest ls j k v i

theorem getElem?_snoc_of_lt {A : Type} {ls : List A} {l : A} {i : Nat} (h : i < ls.length) :
    (ls ++ [l])[i]? = ls[i]? := List.getElem?_append_left h

theorem newest_snoc {ls : List (Option (Mail K V))} {l : Option (Mail K V)} {n i : Nat} {k : K}
    {v : V} (hn : n ≤ ls.length) (h : Newest ls n k v i) : Newest (ls ++ [l]) n k v i where
  before := h.before
  put := by
    unfold PutAt
    rw [getElem?_snoc_of_lt (by have := h.before; omega)]
    exact h.put
  newest i' v' hi hn' := by
    unfold PutAt
    rw [getElem?_snoc_of_lt (by omega)]
    exact h.newest i' v' hi hn'

theorem untaken_snoc {ls : List (Option (Mail K V))} {l : Option (Mail K V)} {n i : Nat}
    (hn : n ≤ ls.length) (h : Untaken ls i n) : Untaken (ls ++ [l]) i n := by
  intro j batch hi hj
  unfold TakenAt
  rw [getElem?_snoc_of_lt (by omega)]
  exact h j batch hi hj

/-- The newest letter stays it while no other is put for its key. -/
theorem newest_extend {ls : List (Option (Mail K V))} {l : Option (Mail K V)} {i : Nat} {k : K}
    {v : V} (h : Newest ls ls.length k v i) (hl : ∀ v', l ≠ some (.put k v')) :
    Newest (ls ++ [l]) (ls ++ [l]).length k v i where
  before := by have := h.before; rw [List.length_append]; omega
  put := (newest_snoc le_rfl h).put
  newest i' v' hi hn' := by
    rw [List.length_append, List.length_singleton] at hn'
    by_cases hlast : i' = ls.length
    · subst hlast
      unfold PutAt
      rw [List.getElem?_concat_length]
      exact fun heq => hl v' (Option.some.inj heq)
    · exact (newest_snoc le_rfl h).newest i' v' hi (by omega)

theorem untaken_extend {ls : List (Option (Mail K V))} {l : Option (Mail K V)} {i : Nat}
    (h : Untaken ls i ls.length) (hl : ∀ batch, l ≠ some (.take batch)) :
    Untaken (ls ++ [l]) i (ls ++ [l]).length := by
  intro j batch hi hj
  rw [List.length_append, List.length_singleton] at hj
  by_cases hlast : j = ls.length
  · subst hlast
    unfold TakenAt
    rw [List.getElem?_concat_length]
    exact fun heq => hl batch (Option.some.inj heq)
  · exact untaken_snoc le_rfl h j batch hi (by omega)

/-- Only one letter is the newest. -/
theorem Newest.unique {ls : List (Option (Mail K V))} {n i i' : Nat} {k : K} {v v' : V}
    (h : Newest ls n k v i) (h' : Newest ls n k v' i') : i = i' := by
  rcases lt_trichotomy i i' with hlt | heq | hgt
  · exact absurd h'.put (h.newest i' v' hlt h'.before)
  · exact heq
  · exact absurd h.put (h'.newest i v hgt h.before)

/-- **The letters of one key are delivered in the order in which they were put.** -/
theorem Delivered.ordered {ls : List (Option (Mail K V))} {k : K} {i i' j j' : Nat}
    (hd : Delivered ls k i j) (hd' : Delivered ls k i' j') (hlt : i < i') : j < j' := by
  obtain ⟨batch, v, htake, hmem, hnew⟩ := hd
  obtain ⟨batch', v', htake', hmem', hnew'⟩ := hd'
  by_contra hle
  have hbefore : i' < j := lt_of_lt_of_le hnew'.before (not_lt.mp hle)
  exact hnew.newest i' v' hlt hbefore hnew'.put

/-! ## What every run keeps -/

variable [DecidableEq K]

/-- The flag is up exactly while a letter lies in the mailbox, and each has its place. -/
structure Kept (ls : List (Option (Mail K V))) (m : Mailbox K V) : Prop where
  ready : m.ready = true ↔ m.slots.items ≠ []
  gathering : m.stage = .gathering → m.ready = true
  letters : ∀ k v, m.slots.get? k = some v →
    ∃ i, Newest ls ls.length k v i ∧ Untaken ls i ls.length

theorem setItems_ne_nil (k : K) (v : V) (l : List (K × V)) : Dict.setItems k v l ≠ [] := by
  cases l with
  | nil => simp [Dict.setItems]
  | cons item rest => unfold Dict.setItems; split_ifs <;> simp

/-- A step at which nothing is seen keeps the letters. -/
theorem letters_quiet {ls : List (Option (Mail K V))} {m : Mailbox K V} (h : Kept ls m) {k : K}
    {v : V} (hget : m.slots.get? k = some v) :
    ∃ i, Newest (ls ++ [none]) (ls ++ [none]).length k v i
      ∧ Untaken (ls ++ [none]) i (ls ++ [none]).length := by
  obtain ⟨i, hnew, hun⟩ := h.letters k v hget
  exact ⟨i, newest_extend hnew fun v' heq => (by cases heq),
    untaken_extend hun fun batch heq => (by cases heq)⟩

theorem kept_step {ls : List (Option (Mail K V))} {m m' : Mailbox K V} {l : Option (Mail K V)}
    (h : Kept ls m) (hmove : Moves m l m') : Kept (ls ++ [l]) m' := by
  cases hmove with
  | rest => exact ⟨h.ready, h.gathering, fun k v hget => letters_quiet h hget⟩
  | wake hstage hready => exact ⟨h.ready, fun _ => hready, fun k v hget => letters_quiet h hget⟩
  | finish hstage => exact ⟨h.ready, fun hg => (by cases hg), fun k v hget => letters_quiet h hget⟩
  | take hstage =>
      exact ⟨by simp [EmptyCollection.emptyCollection, Dict.empty], fun hg => (by cases hg),
        fun k v hget => (by cases hget)⟩
  | put k v =>
      refine ⟨iff_of_true rfl (setItems_ne_nil k v _), fun _ => rfl, fun k' v' hget => ?_⟩
      by_cases hk : k' = k
      · -- the letter just put
        subst hk
        rw [Dict.get?_set_self] at hget
        obtain rfl := Option.some.inj hget
        refine ⟨ls.length, ⟨by simp, List.getElem?_concat_length, ?_⟩, ?_⟩
        · intro i' v' hi hn
          rw [List.length_append, List.length_singleton] at hn
          omega
        · intro j batch hi hn
          rw [List.length_append, List.length_singleton] at hn
          omega
      · rw [Dict.get?_set_of_ne _ _ hk] at hget
        obtain ⟨i, hnew, hun⟩ := h.letters k' v' hget
        refine ⟨i, newest_extend hnew fun w heq => ?_,
          untaken_extend hun fun b heq => (by cases heq)⟩
        cases heq
        exact hk rfl

theorem Run.kept {ls : List (Option (Mail K V))} {m : Mailbox K V} (h : Run ls m) : Kept ls m := by
  induction h with
  | start =>
      exact ⟨by simp [EmptyCollection.emptyCollection, Dict.empty], fun hg => (by cases hg),
        fun k v hget => (by cases hget)⟩
  | step hrun hmove ih => exact kept_step ih hmove

/-- **No wake-up is lost**: a letter in the mailbox keeps the flag up. -/
theorem Run.ready_of_letter {ls : List (Option (Mail K V))} {m : Mailbox K V} (h : Run ls m)
    (hne : m.slots.items ≠ []) : m.ready = true := h.kept.ready.mpr hne

/-! ## Batches -/

/--
**What a batch holds**: one letter for a key at most, and that the newest one, put
after everything before was taken.
-/
theorem Run.batch {ls : List (Option (Mail K V))} {m : Mailbox K V} (h : Run ls m) {j : Nat}
    {batch : List (K × V)} (hj : TakenAt ls j batch) :
    (batch.map Prod.fst).Nodup
      ∧ ∀ k v, (k, v) ∈ batch → ∃ i, Newest ls j k v i ∧ Untaken ls i j := by
  induction h with
  | start => cases hj
  | @step ls m m' l hrun hmove ih =>
      have hlen : j < (ls ++ [l]).length := (List.getElem?_eq_some_iff.mp hj).1
      rw [List.length_append, List.length_singleton] at hlen
      by_cases hlast : j = ls.length
      · -- the batch is taken by this very step
        subst hlast
        unfold TakenAt at hj
        rw [List.getElem?_concat_length] at hj
        obtain rfl := Option.some.inj hj
        cases hmove with
        | take hstage =>
            refine ⟨m.slots.nodup, fun k v hmem => ?_⟩
            obtain ⟨i, hnew, hun⟩ := hrun.kept.letters k v ((m.slots.mem_items_iff).mp hmem)
            exact ⟨i, newest_snoc le_rfl hnew, untaken_snoc le_rfl hun⟩
      · have hlt : j < ls.length := by omega
        unfold TakenAt at hj
        rw [getElem?_snoc_of_lt hlt] at hj
        obtain ⟨hnd, horigin⟩ := ih hj
        refine ⟨hnd, fun k v hmem => ?_⟩
        obtain ⟨i, hnew, hun⟩ := horigin k v hmem
        exact ⟨i, newest_snoc hlt.le hnew, untaken_snoc hlt.le hun⟩

/-- Between its place and that of its batch nothing else is taken. -/
theorem Run.untaken {ls : List (Option (Mail K V))} {m : Mailbox K V} (h : Run ls m) {k : K}
    {i j : Nat} (hd : Delivered ls k i j) : Untaken ls i j := by
  obtain ⟨batch, v, htake, hmem, hnew⟩ := hd
  obtain ⟨i', hnew', hun⟩ := (h.batch htake).2 k v hmem
  rw [hnew.unique hnew']
  exact hun

/-- **A letter is delivered once at most.** -/
theorem Run.delivered_once {ls : List (Option (Mail K V))} {m : Mailbox K V} (h : Run ls m)
    {k k' : K} {i j j' : Nat} (hd : Delivered ls k i j) (hd' : Delivered ls k' i j') :
    k = k' ∧ j = j' := by
  have hun := h.untaken hd
  have hun' := h.untaken hd'
  obtain ⟨batch, v, htake, hmem, hnew⟩ := hd
  obtain ⟨batch', v', htake', hmem', hnew'⟩ := hd'
  have hput := hnew.put.symm.trans hnew'.put
  have hk : k = k' := by cases hput; rfl
  refine ⟨hk, ?_⟩
  rcases lt_trichotomy j j' with hlt | heq | hgt
  · exact absurd htake (hun' j batch hnew.before hlt)
  · exact heq
  · exact absurd htake' (hun j' batch' hnew'.before hgt)

end Mailbox

end SmartTraffic.Lib
