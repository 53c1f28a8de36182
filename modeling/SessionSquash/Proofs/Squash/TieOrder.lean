import SessionSquash.Proofs.Squash.Output

namespace SessionSquash

set_option autoImplicit false

open ReplayView

namespace Squasher

/-- Taking in `l` moved the squasher from `s` to `s'`, and the current world and the open window
of `s'` hold only what those of `s` held and records of `l`. No close record is dropped. -/
structure Queued (s : Squasher) (l : List TimedRecord) (s' : Squasher) : Prop where
  world : ∀ x ∈ s'.currentWorld, x ∈ s.currentWorld ∨ x ∈ l
  window : ∀ x ∈ s'.windows.currentWindow, x ∈ s.windows.currentWindow ∨ x ∈ l
  closes : ∀ c ∈ s.windows.closeRecords, c ∈ s'.windows.closeRecords

variable {s s' s'' : Squasher} {l l' : List TimedRecord}

theorem queued_of_eq (hw : s'.currentWorld = s.currentWorld) (hwin : s'.windows = s.windows) :
    Queued s l s' where
  world _ hx := .inl (hw ▸ hx)
  window _ hx := .inl (hwin ▸ hx)
  closes _ hc := hwin ▸ hc

theorem Queued.trans (h₁ : Queued s l s') (h₂ : Queued s' l' s'') : Queued s (l ++ l') s'' where
  world x hx := by
    rcases h₂.world x hx with hx | hx
    · exact (h₁.world x hx).imp_right (List.mem_append_left l')
    · exact .inr (List.mem_append_right l hx)
  window x hx := by
    rcases h₂.window x hx with hx | hx
    · exact (h₁.window x hx).imp_right (List.mem_append_left l')
    · exact .inr (List.mem_append_right l hx)
  closes c hc := h₂.closes c (h₁.closes c hc)

section Handlers

variable (s : Squasher) (time : Int64)

theorem queued_passThrough (rec : Record) : Queued s [⟨time, rec⟩] (s.passThrough time rec) :=
  queued_of_eq rfl rfl

theorem queued_onEntity (rec : Record) : Queued s [⟨time, rec⟩] (s.onEntity time rec) := by
  unfold Squasher.onEntity
  split
  · exact queued_passThrough s time _
  · split
    · exact ⟨fun x hx => List.mem_append.mp hx, fun x hx => .inl hx, fun c hc => hc⟩
    · exact queued_of_eq rfl rfl
  · split
    · exact queued_of_eq rfl rfl
    · exact queued_of_eq rfl rfl
    · split <;> exact queued_of_eq rfl rfl
    · exact queued_of_eq rfl rfl

theorem queued_onWorld (rec : Record) : Queued s [⟨time, rec⟩] (s.onWorld time rec) := by
  unfold Squasher.onWorld
  split
  · exact queued_of_eq rfl rfl
  · exact ⟨fun x hx => List.mem_append.mp hx, fun x hx => .inl hx, fun c hc => hc⟩

theorem queued_onWindow (rec : Record) : Queued s [⟨time, rec⟩] (s.onWindow time rec) := by
  have hother : Queued s [⟨time, rec⟩] (if rec.kind == RecordKind.confirmTransaction &&
      s.config.dropTransactionConfirms then
      { s with report.confirmsDropped := s.report.confirmsDropped + 1 }
      else { s with windows := s.windows.onSecondary ⟨time, rec⟩ }) := by
    split
    · exact queued_of_eq rfl rfl
    · exact ⟨fun x hx => .inl hx, fun x hx => List.mem_append.mp hx, fun c hc => hc⟩
  unfold Squasher.onWindow
  dsimp only
  split
  · exact ⟨fun x hx => .inl hx, fun _ hx => (by cases hx), fun _ hc => List.mem_append_left _ hc⟩
  · split
    · exact ⟨fun x hx => .inl hx, fun x hx => .inl hx, fun c hc => hc⟩
    · exact hother
  · split
    · exact ⟨fun x hx => .inl hx, fun x hx => .inl hx, fun c hc => hc⟩
    · exact hother
  · exact hother

theorem queued_onChunk (rec : Record) : Queued s [⟨time, rec⟩] (s.onChunk time rec) := by
  unfold Squasher.onChunk
  split
  · exact queued_of_eq rfl rfl
  · exact queued_of_eq rfl rfl
  · exact queued_of_eq (sameState_onBlock s _).currentWorld (sameState_onBlock s _).windows
  · exact queued_of_eq (sameState_foldl_onBlock _ s).currentWorld
      (sameState_foldl_onBlock _ s).windows
  · exact queued_passThrough s time _

theorem queued_onSession (rec : Record) : Queued s [⟨time, rec⟩] (s.onSession time rec) := by
  unfold Squasher.onSession
  split
  · exact queued_of_eq rfl rfl
  · exact ⟨fun _ hx => (by cases hx), fun _ hx => (by cases hx), fun _ hc => hc⟩
  · exact queued_of_eq rfl rfl
  · exact queued_of_eq rfl rfl
  · exact queued_of_eq rfl rfl
  · exact queued_of_eq rfl rfl
  · exact queued_passThrough s time _

end Handlers

theorem queued_consume (s : Squasher) (r : TimedRecord) : Queued s [r] (s.consume r) := by
  obtain ⟨time, rec⟩ := r
  have h₀ : Queued s []
      { s with lastTime := time, report.recordsConsumed := s.report.recordsConsumed + 1 } :=
    queued_of_eq rfl rfl
  unfold Squasher.consume
  cases rec with
  | raw kind data =>
    dsimp only
    split
    · exact queued_of_eq rfl rfl
    · split
      · exact h₀.trans (queued_onWorld _ time _)
      · exact h₀.trans (queued_onWindow _ time _)
      · exact h₀.trans (queued_passThrough _ time _)
  | typed p =>
    dsimp only
    split
    · exact h₀.trans (queued_onEntity _ time _)
    · exact h₀.trans (queued_onChunk _ time _)
    · exact h₀.trans (queued_onWorld _ time _)
    · exact h₀.trans (queued_onWindow _ time _)
    · split
      · exact queued_of_eq rfl rfl
      · exact h₀.trans (queued_passThrough _ time _)
    · exact h₀.trans (queued_onSession _ time _)
    · exact h₀.trans (queued_passThrough _ time _)

theorem queued_consumeAll : ∀ (l : List TimedRecord) (s : Squasher), Queued s l (s.consumeAll l)
  | [], _ => queued_of_eq rfl rfl
  | r :: rest, s => (queued_consume s r).trans (queued_consumeAll rest (s.consume r))

theorem consumeAll_append (s : Squasher) (l₁ l₂ : List TimedRecord) :
    s.consumeAll (l₁ ++ l₂) = (s.consumeAll l₁).consumeAll l₂ :=
  List.foldl_append

/-- What a pass holds at its end, past a record `c`, came from what it held just after `c` and
from the records after `c`. -/
theorem queued_after {s S : Squasher} {pre post : List TimedRecord} {c : TimedRecord}
    (hS : s.consumeAll (pre ++ c :: post) = S) : Queued ((s.consumeAll pre).consume c) post S := by
  rw [← hS, consumeAll_append]
  exact queued_consumeAll post _

/-- A close empties the open window and is kept among the close records. -/
theorem consume_closeWindow (s : Squasher) (time : Int64) (w : CloseWindow) :
    (s.consume ⟨time, .typed (.closeWindow w)⟩).windows.currentWindow = [] ∧
      ⟨time, .typed (.closeWindow w)⟩ ∈
        (s.consume ⟨time, .typed (.closeWindow w)⟩).windows.closeRecords :=
  ⟨rfl, List.mem_append_right _ (List.mem_singleton_self _)⟩

/-- A respawn empties the current world and the open window. -/
theorem consume_respawn (s : Squasher) (time : Int64) (rs : Respawn) :
    (s.consume ⟨time, .typed (.respawn rs)⟩).currentWorld = [] ∧
      (s.consume ⟨time, .typed (.respawn rs)⟩).windows.currentWindow = [] :=
  ⟨rfl, rfl⟩

variable {a b : TimedRecord}

/-- A run of the body in time order is written in that order. -/
theorem sublist_finish (hl : l.Sublist s.body) (hp : l.Pairwise fun a b => a.time ≤ b.time)
    (endTime : Int64) : l.Sublist (s.finish endTime).1 := by
  have hsorted : l.Sublist (s.body.mergeSort byTime) :=
    List.sublist_mergeSort byTime_trans byTime_total
      (by simpa only [byTime, decide_eq_true_eq] using hp) hl
  rw [finish_fst, List.append_assoc]
  exact hsorted.trans (List.sublist_append_left _ _)

/-- Two records of the body at different times are written in time order, wherever the body
holds them. -/
theorem pair_finish_of_lt (ha : a ∈ s.body) (hb : b ∈ s.body) (hlt : a.time < b.time)
    (endTime : Int64) : [a, b].Sublist (s.finish endTime).1 := by
  obtain ⟨A, B, hsplit⟩ := List.append_of_mem (List.mem_mergeSort.mpr hb :
    b ∈ s.body.mergeSort byTime)
  have hsorted := s.pairwise_mergeSort_body
  rw [hsplit, List.pairwise_append, List.pairwise_cons] at hsorted
  have ha' : a ∈ A ++ b :: B := hsplit ▸ List.mem_mergeSort.mpr ha
  have hA : a ∈ A := by
    rcases List.mem_append.mp ha' with h | h
    · exact h
    · rcases List.mem_cons.mp h with rfl | h
      · exact absurd hlt Int64.lt_irrefl
      · exact absurd (hsorted.2.1.1 a h) (Int64.not_le.mpr hlt)
  have hpair : [a, b].Sublist (s.body.mergeSort byTime) := by
    rw [hsplit]
    exact (List.singleton_sublist.mpr hA).append (List.cons_sublist_cons.mpr (List.nil_sublist B))
  rw [finish_fst, List.append_assoc]
  exact hpair.trans (List.sublist_append_left _ _)

theorem pair_sublist_append {l₁ l₂ : List TimedRecord} (ha : a ∈ l₁) (hb : b ∈ l₂) :
    [a, b].Sublist (l₁ ++ l₂) :=
  (List.singleton_sublist.mpr ha).append (List.singleton_sublist.mpr hb)

/-- The body holds the open window before the close records. -/
theorem pair_body_window_close (ha : a ∈ s.windows.currentWindow)
    (hb : b ∈ s.windows.closeRecords) : [a, b].Sublist s.body := by
  have hinfix : (s.windows.currentWindow ++ s.windows.closeRecords).IsInfix s.body :=
    ⟨s.unhandled ++ s.currentWorld, s.windows.mainInventory.toList ++ s.windows.slotChanges.values ++
      s.session.synthesizeSession s.lastTime ++ s.entities.synthesize ++ s.chunks.synthesize,
      by simp only [body, WindowTracker.synthesize, List.append_assoc]⟩
  exact (pair_sublist_append ha hb).trans hinfix.sublist

/-- The body holds the current world and the open window before the session records. -/
theorem pair_body_queue_session (ha : a ∈ s.currentWorld ∨ a ∈ s.windows.currentWindow)
    (hb : b ∈ s.session.synthesizeSession s.lastTime) : [a, b].Sublist s.body := by
  have hinfix : (s.currentWorld ++ s.windows.synthesize ++
      s.session.synthesizeSession s.lastTime).IsInfix s.body :=
    ⟨s.unhandled, s.entities.synthesize ++ s.chunks.synthesize,
      by simp only [body, List.append_assoc]⟩
  have ha' : a ∈ s.currentWorld ++ s.windows.synthesize := by
    rcases ha with ha | ha
    · exact List.mem_append_left _ ha
    · exact List.mem_append_right _ (by
        simp only [WindowTracker.synthesize, List.mem_append, ha, true_or])
  exact (pair_sublist_append ha' hb).trans hinfix.sublist

/-- Two records the body holds in this order are written by time, and at equal times in this
order. -/
theorem pair_finish (hab : [a, b].Sublist s.body) (endTime : Int64) :
    (a.time ≤ b.time → [a, b].Sublist (s.finish endTime).1) ∧
      (b.time < a.time → [b, a].Sublist (s.finish endTime).1) := by
  have ha : a ∈ s.body := hab.subset (List.mem_cons_self ..)
  have hb : b ∈ s.body := hab.subset (List.mem_cons_of_mem _ (List.mem_singleton_self _))
  exact ⟨fun hle => sublist_finish hab (List.pairwise_pair.mpr hle) endTime,
    fun hlt => pair_finish_of_lt hb ha hlt endTime⟩

/-- A record of the open window at the end of a pass was taken in after the last close, and is
written by time against that close: at the close's own time, before it. -/
theorem flush_window_after_close {s S : Squasher} {pre post : List TimedRecord} {time : Int64}
    {w : CloseWindow} (hS : s.consumeAll (pre ++ ⟨time, .typed (.closeWindow w)⟩ :: post) = S)
    {x : TimedRecord} (hx : x ∈ S.windows.currentWindow) (endTime : Int64) :
    x ∈ post ∧
      (x.time ≤ time → [x, ⟨time, .typed (.closeWindow w)⟩].Sublist (S.flush endTime)) ∧
      (time < x.time → [⟨time, .typed (.closeWindow w)⟩, x].Sublist (S.flush endTime)) := by
  obtain ⟨hcleared, hkept⟩ := consume_closeWindow (s.consumeAll pre) time w
  have hq := queued_after hS
  have hpost : x ∈ post := (hq.window x hx).resolve_left (by rw [hcleared]; exact List.not_mem_nil)
  exact ⟨hpost, pair_finish (pair_body_window_close hx (hq.closes _ hkept)) endTime⟩

/-- What the current world and the open window hold at the end of a pass was taken in after the
last respawn, and is written by time against every session record, the respawn among them: at
equal times, before it. -/
theorem flush_queue_after_respawn {s S : Squasher} {pre post : List TimedRecord} {time : Int64}
    {rs : Respawn} (hS : s.consumeAll (pre ++ ⟨time, .typed (.respawn rs)⟩ :: post) = S)
    {x ρ : TimedRecord} (hx : x ∈ S.currentWorld ∨ x ∈ S.windows.currentWindow)
    (hρ : ρ ∈ S.session.synthesizeSession S.lastTime) (endTime : Int64) :
    x ∈ post ∧ (x.time ≤ ρ.time → [x, ρ].Sublist (S.flush endTime)) ∧
      (ρ.time < x.time → [ρ, x].Sublist (S.flush endTime)) := by
  obtain ⟨hworld, hwindow⟩ := consume_respawn (s.consumeAll pre) time rs
  have hq := queued_after hS
  have hpost : x ∈ post := by
    rcases hx with hx | hx
    · exact (hq.world x hx).resolve_left (by rw [hworld]; exact List.not_mem_nil)
    · exact (hq.window x hx).resolve_left (by rw [hwindow]; exact List.not_mem_nil)
  exact ⟨hpost, pair_finish (pair_body_queue_session hx hρ) endTime⟩

end Squasher

/-- A window closed and the next one opened, at one time. -/
def closeThenOpen : List TimedRecord :=
  [⟨5, .typed (.closeWindow ⟨2⟩)⟩,
    ⟨5, .typed (.openWindow ⟨3, "minecraft:chest", "Chest", 27⟩)⟩]

/-- Squashed, the window opened after the close is written before it. -/
theorem squash_closeThenOpen : (squash closeThenOpen 5 {}).1 =
    [⟨5, .typed (.openWindow ⟨3, "minecraft:chest", "Chest", 27⟩)⟩,
      ⟨5, .typed (.closeWindow ⟨2⟩)⟩] := by
  have hopen :
      (⟨5, .typed (.openWindow ⟨3, "minecraft:chest", "Chest", 27⟩)⟩ : TimedRecord) ∈
      ((Squasher.new {}).consumeAll closeThenOpen).windows.currentWindow :=
    List.mem_singleton_self _
  have hpair := (@Squasher.flush_window_after_close (Squasher.new {}) _ [] _ _ _ rfl _ hopen
    5).2.1 (Int64.le_refl _)
  have hlen : (squash closeThenOpen 5 {}).1.length = 2 := by
    rw [squash, Squasher.finish_fst, List.length_append, List.length_append,
      List.length_mergeSort]
    rfl
  exact (hpair.eq_of_length hlen.symm).symm

end SessionSquash
