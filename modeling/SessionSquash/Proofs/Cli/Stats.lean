import SessionSquash.Cli.Report
import SessionSquash.Text.Space

namespace SessionSquash

set_option autoImplicit false

namespace Cli.LogStats

/-- A fold that keeps, of its accumulator and the next time, one that comes first by `key` ends
with a time of the list that comes first by `key` among all of them. -/
theorem foldl_keeps_first {f : Int64 → Int64 → Int64} (key : Int64 → Int)
    (keeps : ∀ a b, (f a b = a ∨ f a b = b) ∧ key (f a b) ≤ key a ∧ key (f a b) ≤ key b) :
    ∀ (ts : List Int64) (t : Int64),
      ts.foldl f t ∈ t :: ts ∧ ∀ u ∈ t :: ts, key (ts.foldl f t) ≤ key u := by
  intro ts
  induction ts with
  | nil => intro t; simp
  | cons u us ih =>
    intro t
    rw [List.foldl_cons]
    obtain ⟨hmem, hle⟩ := ih (f t u)
    obtain ⟨hkept, hkt, hku⟩ := keeps t u
    have hfirst := hle (f t u) List.mem_cons_self
    refine ⟨?_, fun v hv => ?_⟩
    · rcases List.mem_cons.mp hmem with h | h
      · rw [h]
        rcases hkept with h' | h'
        · rw [h']
          exact List.mem_cons_self
        · rw [h']
          exact List.mem_cons_of_mem _ List.mem_cons_self
      · exact List.mem_cons_of_mem _ (List.mem_cons_of_mem _ h)
    · rcases List.mem_cons.mp hv with rfl | hv
      · omega
      · rcases List.mem_cons.mp hv with rfl | hv
        · omega
        · exact hle v (List.mem_cons_of_mem _ hv)

theorem keeps_min (a b : Int64) :
    (min a b = a ∨ min a b = b) ∧ (min a b).toInt ≤ a.toInt ∧ (min a b).toInt ≤ b.toInt := by
  rw [show min a b = if a ≤ b then a else b from rfl]
  split
  · next h => exact ⟨.inl rfl, Int.le_refl _, Int64.le_iff_toInt_le.mp h⟩
  · next h =>
    have := mt Int64.le_iff_toInt_le.mpr h
    exact ⟨.inr rfl, by omega, Int.le_refl _⟩

theorem keeps_max (a b : Int64) :
    (max a b = a ∨ max a b = b) ∧ -(max a b).toInt ≤ -a.toInt ∧ -(max a b).toInt ≤ -b.toInt := by
  rw [show max a b = if a ≤ b then b else a from rfl]
  split
  · next h =>
    have := Int64.le_iff_toInt_le.mp h
    exact ⟨.inr rfl, by omega, Int.le_refl _⟩
  · next h =>
    have := mt Int64.le_iff_toInt_le.mpr h
    exact ⟨.inl rfl, Int.le_refl _, by omega⟩

/-- The span of a nonempty log is a time of it that no record precedes, and one that no record
follows. -/
theorem span_collect {records : List TimedRecord} (nonempty : records ≠ []) :
    ∃ first last, (collect records).span = some (first, last) ∧
      (∀ r ∈ records, first.toInt ≤ r.time.toInt ∧ r.time.toInt ≤ last.toInt) ∧
      (∃ r ∈ records, r.time = first) ∧ (∃ r ∈ records, r.time = last) := by
  obtain ⟨r, rs, rfl⟩ := List.exists_cons_of_ne_nil nonempty
  obtain ⟨hmin, hfirst⟩ := foldl_keeps_first Int64.toInt keeps_min (rs.map (·.time)) r.time
  obtain ⟨hmax, hlast⟩ := foldl_keeps_first (fun t => -t.toInt) keeps_max (rs.map (·.time)) r.time
  have hof : ∀ {t}, t ∈ r.time :: rs.map (·.time) → ∃ x ∈ r :: rs, x.time = t := by
    intro t ht
    simpa [eq_comm] using ht
  refine ⟨_, _, rfl, fun x hx => ?_, hof hmin, hof hmax⟩
  have htime : x.time ∈ r.time :: rs.map (·.time) := List.mem_map_of_mem hx
  exact ⟨hfirst _ htime, by simpa using hlast _ htime⟩

/-- The duration is the difference of the span's ends while it stays below 2^63, and that
difference less 2^64 from there on, so it is negative exactly from there on. -/
theorem duration_of_span {s : LogStats} {first last : Int64}
    (hspan : s.span = some (first, last)) (ordered : first.toInt ≤ last.toInt) :
    (last.toInt - first.toInt < 9223372036854775808 →
        s.duration.toInt = last.toInt - first.toInt) ∧
      (9223372036854775808 ≤ last.toInt - first.toInt →
        s.duration.toInt = last.toInt - first.toInt - 18446744073709551616) ∧
      (s.duration.toInt < 0 ↔ 9223372036854775808 ≤ last.toInt - first.toInt) := by
  have hl := last.toInt_lt
  have hf := first.le_toInt
  have hdur : s.duration = last - first := by simp [duration, hspan]
  rw [hdur, Int64.toInt_sub, Int.bmod_eq_emod, Int.emod_eq_of_lt (by omega) (by omega)]
  refine ⟨fun h => ?_, fun h => ?_, ?_⟩ <;> split <;> omega

/-- For a nonempty log, the span holds its earliest and its latest time, and the duration is
their difference while that stays below 2^63 ms and the difference less 2^64 from there on: a
negative duration exactly when the times lie 2^63 ms or more apart. -/
theorem collect_times {records : List TimedRecord} (nonempty : records ≠ []) :
    ∃ first last, (collect records).span = some (first, last) ∧
      (∀ r ∈ records, first.toInt ≤ r.time.toInt ∧ r.time.toInt ≤ last.toInt) ∧
      (∃ r ∈ records, r.time = first) ∧ (∃ r ∈ records, r.time = last) ∧
      (last.toInt - first.toInt < 9223372036854775808 →
        (collect records).duration.toInt = last.toInt - first.toInt) ∧
      (9223372036854775808 ≤ last.toInt - first.toInt →
        (collect records).duration.toInt = last.toInt - first.toInt - 18446744073709551616) ∧
      ((collect records).duration.toInt < 0 ↔
        9223372036854775808 ≤ last.toInt - first.toInt) := by
  obtain ⟨first, last, hspan, hbounds, hfirst, hlast⟩ := span_collect nonempty
  have ordered : first.toInt ≤ last.toInt := by
    obtain ⟨r, hr, -⟩ := hfirst
    exact Int.le_trans (hbounds r hr).1 (hbounds r hr).2
  exact ⟨first, last, hspan, hbounds, hfirst, hlast, duration_of_span hspan ordered⟩

/-- The reader takes both ends of the 64-bit range as times, and a log holding a record at each
end reports a duration of -1 ms. -/
theorem duration_wraps_full_range (r r' : Record) :
    Text.parseInt64 "-9223372036854775808" = some Int64.minValue ∧
      Text.parseInt64 "9223372036854775807" = some Int64.maxValue ∧
      (collect [⟨Int64.minValue, r⟩, ⟨Int64.maxValue, r'⟩]).duration.toInt = -1 := by
  refine ⟨by decide, by decide, ?_⟩
  simp only [collect, duration, List.map_cons, List.map_nil, List.foldl_cons, List.foldl_nil]
  decide

end Cli.LogStats

end SessionSquash
