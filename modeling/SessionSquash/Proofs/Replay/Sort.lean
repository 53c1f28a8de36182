import SessionSquash.Proofs.Replay.Commute

namespace SessionSquash

set_option autoImplicit false

namespace ReplayView

/-- The order the squash output is sorted by. -/
def byTime (a b : TimedRecord) : Bool := decide (a.time ≤ b.time)

/-- `a` stands before `b`; should the sort move `b` ahead of it, the two commute. -/
def Reorderable (a b : TimedRecord) : Prop := b.time < a.time → Commute a b

theorem Commute.reorderable {a b : TimedRecord} (h : Commute a b) : Reorderable a b :=
  fun _ => h

/-- `a` stands before `b` in time order, unless one of them changes nothing. -/
def InOrder (a b : TimedRecord) : Prop := Inert a ∨ Inert b ∨ a.time ≤ b.time

theorem InOrder.of_inert_left {a : TimedRecord} (ha : Inert a) (b : TimedRecord) : InOrder a b :=
  Or.inl ha

theorem InOrder.of_inert_right (a : TimedRecord) {b : TimedRecord} (hb : Inert b) : InOrder a b :=
  Or.inr (Or.inl hb)

theorem InOrder.of_le {a b : TimedRecord} (h : a.time ≤ b.time) : InOrder a b := Or.inr (Or.inr h)

theorem InOrder.reorderable {a b : TimedRecord} (h : InOrder a b) : Reorderable a b := by
  intro hlt
  rcases h with ha | hb | hle
  · exact commute_of_inert_left ha b
  · exact commute_of_inert_right a hb
  · exact absurd hle (Int64.not_le.mpr hlt)

/-- A record moved ahead of records it commutes with replays to the same view. -/
theorem foldl_apply_bubble {y : TimedRecord} :
    ∀ {A : List TimedRecord} (B : List TimedRecord), (∀ a ∈ A, Commute a y) →
      ∀ {v : ReplayView}, v.WF → (y :: (A ++ B)).foldl apply v = (A ++ y :: B).foldl apply v
  | [], _, _, _, _ => rfl
  | a :: A, B, hA, v, hv => by
    have hay : (v.apply y).apply a = (v.apply a).apply y := (hA a List.mem_cons_self v hv).symm
    have ih := foldl_apply_bubble B (fun b hb => hA b (List.mem_cons_of_mem a hb)) (hv.apply a)
    simp only [List.cons_append, List.foldl_cons] at ih ⊢
    rw [hay, ih]

/-- Merging a sorted list with another replays as their concatenation when every record the
merge moves forward commutes with those it passes. -/
theorem foldl_apply_merge :
    ∀ {xs ys : List TimedRecord}, xs.Pairwise (byTime · ·) →
      (∀ x ∈ xs, ∀ y ∈ ys, Reorderable x y) →
      ∀ {v : ReplayView}, v.WF → (xs.merge ys byTime).foldl apply v = (xs ++ ys).foldl apply v
  | [], ys, _, _, v, _ => by simp
  | x :: xs, [], _, _, v, _ => by simp
  | x :: xs, y :: ys, hxs, hcross, v, hv => by
    by_cases hxy : byTime x y
    · rw [List.cons_merge_cons_pos _ _ _ hxy, List.cons_append, List.foldl_cons,
        List.foldl_cons]
      exact foldl_apply_merge (List.pairwise_cons.mp hxs).2
        (fun a ha b hb => hcross a (List.mem_cons_of_mem x ha) b hb) (hv.apply x)
    · have hlt : y.time < x.time := by simpa [byTime] using hxy
      have hpass : ∀ a ∈ x :: xs, Commute a y := by
        intro a ha
        apply hcross a ha y List.mem_cons_self
        rcases List.mem_cons.mp ha with rfl | ha
        · exact hlt
        · have hxa : x.time ≤ a.time := by
            simpa [byTime] using (List.pairwise_cons.mp hxs).1 a ha
          exact Int64.lt_of_lt_of_le hlt hxa
      rw [List.cons_merge_cons_neg _ _ _ hxy, List.foldl_cons,
        foldl_apply_merge hxs (fun a ha b hb => hcross a ha b (List.mem_cons_of_mem y hb))
          (hv.apply y)]
      exact foldl_apply_bubble ys hpass hv
termination_by xs ys => xs.length + ys.length

theorem byTime_trans (a b c : TimedRecord) (hab : byTime a b) (hbc : byTime b c) :
    byTime a c := by
  simp only [byTime, decide_eq_true_eq] at *
  exact Int64.le_trans hab hbc

theorem byTime_total (a b : TimedRecord) : byTime a b || byTime b a := by
  simp only [byTime, Bool.or_eq_true, decide_eq_true_eq]
  exact Int64.le_total a.time b.time

/-- Sorting by time replays to the same view when the pairs it may swap commute. -/
theorem foldl_apply_mergeSort :
    ∀ {l : List TimedRecord}, l.Pairwise Reorderable →
      ∀ {v : ReplayView}, v.WF → (l.mergeSort byTime).foldl apply v = l.foldl apply v
  | [], _, _, _ => by simp
  | [a], _, _, _ => by simp
  | a :: b :: rest, hl, v, hv => by
    have h₁ : (List.MergeSort.Internal.splitInTwo ⟨a :: b :: rest, rfl⟩).1.1.length < rest.length + 1 + 1 := by
      simp [List.MergeSort.Internal.splitInTwo_fst]; omega
    have h₂ : (List.MergeSort.Internal.splitInTwo ⟨a :: b :: rest, rfl⟩).2.1.length < rest.length + 1 + 1 := by
      simp [List.MergeSort.Internal.splitInTwo_snd]; omega
    have happ : (List.MergeSort.Internal.splitInTwo ⟨a :: b :: rest, rfl⟩).1.1 ++
        (List.MergeSort.Internal.splitInTwo ⟨a :: b :: rest, rfl⟩).2.1 = a :: b :: rest :=
      List.MergeSort.Internal.splitInTwo_fst_append_splitInTwo_snd _
    rw [← happ] at hl
    obtain ⟨hleft, hright, hcross⟩ := List.pairwise_append.mp hl
    simp only [List.mergeSort]
    rw [foldl_apply_merge (List.pairwise_mergeSort byTime_trans byTime_total _)
      (fun x hx y hy => hcross x (List.mem_mergeSort.mp hx) y (List.mem_mergeSort.mp hy)) hv,
      List.foldl_append, foldl_apply_mergeSort hleft hv,
      foldl_apply_mergeSort hright (hv.foldl _), ← List.foldl_append, happ]
termination_by l => l.length

end ReplayView

end SessionSquash
