import Mathlib

/-!
# Who comes first after a stable sort

An insertion sort is stable: of two elements that may stand in either order, the
one that was first stays first. So the elements of a class all come before the
others exactly if every pair of the unsorted list says so: a member is allowed
before what follows it, and what precedes a member is not allowed before it.

Ranks are places in the sorted list, counted from one.
-/

namespace SmartTraffic.Lib

variable {α : Type}

/-- The members of the class come before the others. -/
def Leads (p : α → Prop) (l : List α) : Prop := l.Pairwise fun x y => p y → p x

theorem leads_cons {p : α → Prop} {x : α} {l : List α} :
    Leads p (x :: l) ↔ (∀ y ∈ l, p y → p x) ∧ Leads p l := List.pairwise_cons

/-- Where the class leads, the head of a list with a member is a member. -/
theorem Leads.head {p : α → Prop} {x : α} {l : List α} (h : Leads p (x :: l))
    (hmem : ∃ y ∈ x :: l, p y) : p x := by
  obtain ⟨y, hy, hp⟩ := hmem
  rcases List.mem_cons.mp hy with rfl | hy
  · exact hp
  · exact (leads_cons.mp h).1 y hy hp

/-- Where the class leads, its members stand before the others in every relation of the list. -/
theorem Leads.rel {p : α → Prop} {R : α → α → Prop} {l : List α} (h : Leads p l)
    (hR : l.Pairwise R) {a b : α} (ha : a ∈ l) (hb : b ∈ l) (hpa : p a) (hpb : ¬p b) : R a b := by
  obtain ⟨i, hi, rfl⟩ := List.getElem_of_mem ha
  obtain ⟨j, hj, rfl⟩ := List.getElem_of_mem hb
  rcases Nat.lt_trichotomy i j with hij | hij | hij
  · exact List.pairwise_iff_getElem.mp hR i j hi hj hij
  · subst hij
    exact absurd hpa hpb
  · exact absurd (List.pairwise_iff_getElem.mp h j i hj hi hij hpa) hpb

/-- **When a class leads after a stable sort.** -/
theorem leads_insertionSort_iff (r : α → α → Prop) [DecidableRel r] [Std.Total r] [IsTrans α r]
    (p : α → Prop) (l : List α) :
    Leads p (l.insertionSort r)
      ↔ l.Pairwise fun a b => (p a → ¬p b → r a b) ∧ (¬p a → p b → ¬r a b) := by
  have hsorted := List.pairwise_insertionSort r l
  constructor
  · intro hleads
    rw [List.pairwise_iff_forall_sublist]
    intro a b hab
    have ha : a ∈ l.insertionSort r :=
      (List.mem_insertionSort r).mpr (hab.subset List.mem_cons_self)
    have hb : b ∈ l.insertionSort r :=
      (List.mem_insertionSort r).mpr (hab.subset (List.mem_cons_of_mem _ List.mem_cons_self))
    refine ⟨fun hpa hpb => hleads.rel hsorted ha hb hpa hpb, fun hpa hpb hr => ?_⟩
    -- the sort would leave the two in this order
    have hpair := List.pair_sublist_insertionSort hr hab
    exact hpa (List.pairwise_iff_forall_sublist.mp hleads hpair hpb)
  · intro hall
    induction l with
    | nil => exact List.Pairwise.nil
    | cons x l ih =>
        obtain ⟨hx, hrest⟩ := List.pairwise_cons.mp hall
        have hleads := ih (List.pairwise_insertionSort r l) hrest
        rw [List.insertionSort_cons]
        have hmem : ∀ y ∈ l.insertionSort r, y ∈ l := fun y hy => (List.mem_insertionSort r).mp hy
        generalize l.insertionSort r = s at hleads hmem
        -- the insertion finds its place among the members or among the others
        induction s with
        | nil => exact List.pairwise_singleton _ _
        | cons y s ihs =>
            obtain ⟨hy, hs⟩ := leads_cons.mp hleads
            have hyl := hx y (hmem y List.mem_cons_self)
            rw [List.orderedInsert_cons]
            split_ifs with hr
            · refine leads_cons.mpr ⟨?_, hleads⟩
              have hfirst : p y → p x := by
                intro hpy
                by_contra hpx
                exact hyl.2 hpx hpy hr
              intro z hz hpz
              rcases List.mem_cons.mp hz with rfl | hz
              · exact hfirst hpz
              · exact hfirst (hy z hz hpz)
            · have htail := ihs hs fun z hz => hmem z (List.mem_cons_of_mem _ hz)
              refine leads_cons.mpr ⟨?_, htail⟩
              intro z hz hpz
              rcases (List.mem_orderedInsert r).mp hz with rfl | hz
              · by_contra hpy
                exact hr (hyl.1 hpz hpy)
              · exact hy z hz hpz

/-- **A stable sort and leaving elements out commute.** -/
theorem filter_insertionSort (r : α → α → Prop) [DecidableRel r] [Std.Total r] [IsTrans α r]
    (p : α → Bool) (l : List α) :
    (l.insertionSort r).filter p = (l.filter p).insertionSort r := by
  have hinsert : ∀ (x : α) (s : List α), s.Pairwise r → (s.orderedInsert r x).filter p
      = if p x then (s.filter p).orderedInsert r x else s.filter p := by
    intro x s hs
    induction s with
    | nil => cases hx : p x <;> simp [hx]
    | cons y s ih =>
        obtain ⟨hy, hs⟩ := List.pairwise_cons.mp hs
        rw [List.orderedInsert_cons]
        by_cases hr : r x y
        · rw [if_pos hr]
          cases hx : p x with
          | false => simp [hx]
          | true =>
              -- what is left after `y` may also stand after `x`
              have hall : ∀ z ∈ (y :: s).filter p, r x z := by
                intro z hz
                rcases List.mem_cons.mp (List.mem_filter.mp hz).1 with rfl | hz
                · exact hr
                · exact IsTrans.trans x y z hr (hy z hz)
              rw [List.filter_cons_of_pos hx, if_pos rfl]
              cases hrest : (y :: s).filter p with
              | nil => rfl
              | cons z rest =>
                  rw [List.orderedInsert_cons, if_pos (hall z (by rw [hrest]; simp))]
        · rw [if_neg hr]
          cases hy' : p y with
          | false =>
              rw [List.filter_cons_of_neg (by simp [hy']), ih hs,
                List.filter_cons_of_neg (by simp [hy'])]
          | true =>
              rw [List.filter_cons_of_pos hy', ih hs, List.filter_cons_of_pos hy',
                List.orderedInsert_cons, if_neg hr]
              split_ifs <;> rfl
  induction l with
  | nil => rfl
  | cons x l ih =>
      rw [List.insertionSort_cons, hinsert x _ (List.pairwise_insertionSort r l), ih]
      cases hx : p x with
      | false => rw [List.filter_cons_of_neg (by simp [hx])]; rfl
      | true => rw [List.filter_cons_of_pos hx, List.insertionSort_cons]; rfl

/-- **A class leads exactly if its ranks are the smaller ones**, when ranks grow along the list. -/
theorem leads_iff_rank_lt {p : α → Prop} {rank : α → Nat} {l : List α}
    (h : l.Pairwise fun x y => rank x < rank y) :
    Leads p l ↔ ∀ a ∈ l, ∀ b ∈ l, p a → ¬p b → rank a < rank b := by
  constructor
  · intro hleads a ha b hb hpa hpb
    exact hleads.rel h ha hb hpa hpb
  · intro hall
    refine h.imp_of_mem fun {x y} hx hy hlt hpy => ?_
    by_contra hpx
    have hback := hall y hy x hx hpy hpx
    omega

end SmartTraffic.Lib
