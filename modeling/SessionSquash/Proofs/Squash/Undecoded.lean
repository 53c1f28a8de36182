import SessionSquash.Proofs.Squash.Unread

namespace SessionSquash

set_option autoImplicit false

/-- `b` is `a`, or `a` is `x` and `b` stands for it as `y`. -/
def StandsFor (x y a b : TimedRecord) : Prop := a = b ∨ (a = x ∧ b = y)

open ReplayView in
/-- Sorting by time keeps two lists related place by place when related records share a time:
the sort moves both the same way. -/
theorem forall₂_mergeSort {R : TimedRecord → TimedRecord → Prop}
    (htime : ∀ a b, R a b → a.time = b.time) {l l' : List TimedRecord} (h : List.Forall₂ R l l') :
    List.Forall₂ R (l.mergeSort byTime) (l'.mergeSort byTime) := by
  obtain ⟨hlen, hzip⟩ := List.forall₂_iff_zip.mp h
  have hpair : ∀ q ∈ l.zip l', R q.1 q.2 := fun _ hq => hzip hq
  have hleft : ((l.zip l').mergeSort fun a b => byTime a.1 b.1).map Prod.fst =
      l.mergeSort byTime := by
    calc _ = ((l.zip l').map Prod.fst).mergeSort byTime := List.map_mergeSort fun _ _ _ _ => rfl
      _ = l.mergeSort byTime := by rw [List.map_fst_zip hlen.le]
  have hright : ((l.zip l').mergeSort fun a b => byTime a.1 b.1).map Prod.snd =
      l'.mergeSort byTime := by
    calc _ = ((l.zip l').map Prod.snd).mergeSort byTime :=
          List.map_mergeSort fun a ha b hb => by
            simp only [byTime, htime _ _ (hpair a ha), htime _ _ (hpair b hb)]
      _ = l'.mergeSort byTime := by rw [List.map_snd_zip hlen.ge]
  rw [← hleft, ← hright, List.forall₂_map_left_iff, List.forall₂_map_right_iff,
    List.forall₂_same]
  exact fun q hq => hpair q ((List.mergeSort_perm _ _).mem_iff.mp hq)

namespace Squasher

/-- The squasher with its held lists (the pass-through list, the current world and the open
window) and its count of undecoded records passed through replaced. -/
abbrev withHeld (s : Squasher) (u w c : List TimedRecord) (p : Nat) : Squasher :=
  { s with
    unhandled := u
    currentWorld := w
    windows := { s.windows with currentWindow := c }
    report := { s.report with passedThrough := p } }

/-- `s'` is `s` with each held record related by `R` to the one in its place, and `n` more
undecoded records counted as passed through. -/
def Swapped (R : TimedRecord → TimedRecord → Prop) (n : Nat) (s s' : Squasher) : Prop :=
  ∃ u w c p, List.Forall₂ R s.unhandled u ∧ List.Forall₂ R s.currentWorld w ∧
    List.Forall₂ R s.windows.currentWindow c ∧ p = s.report.passedThrough + n ∧
    s' = s.withHeld u w c p

variable {R : TimedRecord → TimedRecord → Prop} {n : Nat} {s s' : Squasher} {time : Int64}
  {rec : Record}

theorem swapped_refl (hR : ∀ a, R a a) (s : Squasher) : Swapped R 0 s s :=
  ⟨_, _, _, _, List.forall₂_same.mpr fun a _ => hR a, List.forall₂_same.mpr fun a _ => hR a,
    List.forall₂_same.mpr fun a _ => hR a, rfl, rfl⟩

theorem Swapped.note (h : Swapped R n s s') (m : SquashNote) :
    Swapped R n (s.note m) (s'.note m) := by
  obtain ⟨u, w, c, p, hu, hw, hc, hp, rfl⟩ := h
  exact ⟨u, w, c, p, hu, hw, hc, hp, rfl⟩

theorem Swapped.passThrough (h : Swapped R n s s') (hr : R ⟨time, rec⟩ ⟨time, rec⟩) :
    Swapped R n (s.passThrough time rec) (s'.passThrough time rec) := by
  obtain ⟨u, w, c, p, hu, hw, hc, rfl, rfl⟩ := h
  refine ⟨_, w, c, _, List.rel_append hu (.cons hr .nil), hw, hc, ?_, rfl⟩
  simp only [passThrough]
  omega

/-- A decoded record passed through in one run and an undecoded one in the other: only the
second is counted. -/
theorem Swapped.passThrough_undecoded {p : Payload} {kind : RecordKind} {data : Json}
    (h : Swapped R n s s') (hr : R ⟨time, .typed p⟩ ⟨time, .raw kind data⟩) :
    Swapped R (n + 1) (s.passThrough time (.typed p)) (s'.passThrough time (.raw kind data)) := by
  obtain ⟨u, w, c, q, hu, hw, hc, rfl, rfl⟩ := h
  refine ⟨_, w, c, _, List.rel_append hu (.cons hr .nil), hw, hc, ?_, rfl⟩
  simp only [Squasher.passThrough, Record.isRaw, if_true, Bool.false_eq_true, if_false]
  omega

/-- The world handler reads a record's kind only. -/
theorem Swapped.onWorld {rec' : Record} (h : Swapped R n s s') (hr : R ⟨time, rec⟩ ⟨time, rec'⟩)
    (hk : rec'.kind = rec.kind) : Swapped R n (s.onWorld time rec) (s'.onWorld time rec') := by
  obtain ⟨u, w, c, p, hu, hw, hc, hp, rfl⟩ := h
  unfold onWorld
  rw [hk]
  split_ifs
  · exact ⟨u, w, c, p, hu, hw, hc, hp, rfl⟩
  · exact ⟨u, _, c, p, hu, List.rel_append hw (.cons hr .nil), hc, hp, rfl⟩

theorem Swapped.onWindow (h : Swapped R n s s') (hr : R ⟨time, rec⟩ ⟨time, rec⟩) :
    Swapped R n (s.onWindow time rec) (s'.onWindow time rec) := by
  obtain ⟨u, w, c, p, hu, hw, hc, hp, rfl⟩ := h
  have hqueued : List.Forall₂ R (s.windows.currentWindow ++ [⟨time, rec⟩]) (c ++ [⟨time, rec⟩]) :=
    List.rel_append hc (.cons hr .nil)
  unfold onWindow
  dsimp only
  split
  · exact ⟨u, w, [], p, hu, hw, .nil, hp, rfl⟩
  · split_ifs
    · exact ⟨u, w, c, p, hu, hw, hc, hp, rfl⟩
    · exact ⟨u, w, c, p, hu, hw, hc, hp, rfl⟩
    · exact ⟨u, w, _, p, hu, hw, hqueued, hp, rfl⟩
  · split_ifs
    · exact ⟨u, w, c, p, hu, hw, hc, hp, rfl⟩
    · exact ⟨u, w, c, p, hu, hw, hc, hp, rfl⟩
    · exact ⟨u, w, _, p, hu, hw, hqueued, hp, rfl⟩
  · split_ifs
    · exact ⟨u, w, c, p, hu, hw, hc, hp, rfl⟩
    · exact ⟨u, w, _, p, hu, hw, hqueued, hp, rfl⟩

/-- A record of an undecoded kind is never a close, a snapshot or a slot change, so the window
handler reads its kind only. -/
theorem onWindow_of_undecoded (s : Squasher) (time : Int64) {rec : Record}
    (hk : decodedKinds.contains rec.kind = false) :
    s.onWindow time rec =
      if rec.kind == .confirmTransaction && s.config.dropTransactionConfirms then
        { s with report.confirmsDropped := s.report.confirmsDropped + 1 }
      else { s with windows := s.windows.onSecondary ⟨time, rec⟩ } := by
  cases rec with
  | raw => rfl
  | typed p => cases p <;> first | rfl | exact nomatch hk

theorem Swapped.onWindow_undecoded {rec' : Record} (h : Swapped R n s s')
    (hr : R ⟨time, rec⟩ ⟨time, rec'⟩) (hk : rec'.kind = rec.kind)
    (hd : decodedKinds.contains rec.kind = false) :
    Swapped R n (s.onWindow time rec) (s'.onWindow time rec') := by
  rw [onWindow_of_undecoded s time hd, onWindow_of_undecoded s' time (hk ▸ hd)]
  obtain ⟨u, w, c, p, hu, hw, hc, hp, rfl⟩ := h
  rw [hk]
  split_ifs
  · exact ⟨u, w, c, p, hu, hw, hc, hp, rfl⟩
  · exact ⟨u, w, _, p, hu, hw, List.rel_append hc (.cons hr .nil), hp, rfl⟩

theorem Swapped.onEntity (h : Swapped R n s s') (hr : R ⟨time, rec⟩ ⟨time, rec⟩) :
    Swapped R n (s.onEntity time rec) (s'.onEntity time rec) := by
  have hpass := h.passThrough hr
  obtain ⟨u, w, c, p, hu, hw, hc, hp, rfl⟩ := h
  unfold onEntity
  split
  · exact hpass
  · split
    · exact ⟨u, _, c, p, hu, List.rel_append hw (.cons hr .nil), hc, hp, rfl⟩
    · exact ⟨u, w, c, p, hu, hw, hc, hp, rfl⟩
  · split
    · exact ⟨u, w, c, p, hu, hw, hc, hp, rfl⟩
    · exact ⟨u, w, c, p, hu, hw, hc, hp, rfl⟩
    · split_ifs
      · exact ⟨u, w, c, p, hu, hw, hc, hp, rfl⟩
      · exact ⟨u, w, c, p, hu, hw, hc, hp, rfl⟩
    · exact ⟨u, w, c, p, hu, hw, hc, hp, rfl⟩

theorem Swapped.onBlock (h : Swapped R n s s') (b : BlockChange) :
    Swapped R n (s.onBlock time b) (s'.onBlock time b) := by
  obtain ⟨u, w, c, p, hu, hw, hc, hp, rfl⟩ := h
  unfold onBlock
  dsimp only
  split_ifs
  all_goals exact ⟨u, w, c, p, hu, hw, hc, hp, rfl⟩

theorem Swapped.foldl_onBlock :
    ∀ (bs : List BlockChange) {s s' : Squasher}, Swapped R n s s' →
      Swapped R n (bs.foldl (·.onBlock time ·) s) (bs.foldl (·.onBlock time ·) s')
  | [], _, _, h => h
  | b :: rest, _, _, h => Swapped.foldl_onBlock rest (h.onBlock b)

theorem Swapped.onChunk (h : Swapped R n s s') (hr : R ⟨time, rec⟩ ⟨time, rec⟩) :
    Swapped R n (s.onChunk time rec) (s'.onChunk time rec) := by
  have hpass := h.passThrough hr
  have hfold : ∀ bs : List BlockChange,
      Swapped R n (bs.foldl (·.onBlock time ·) s) (bs.foldl (·.onBlock time ·) s') :=
    fun bs => Swapped.foldl_onBlock bs h
  obtain ⟨u, w, c, p, hu, hw, hc, hp, rfl⟩ := h
  unfold onChunk
  split
  · exact ⟨u, w, c, p, hu, hw, hc, hp, rfl⟩
  · exact ⟨u, w, c, p, hu, hw, hc, hp, rfl⟩
  · exact Swapped.onBlock ⟨u, w, c, p, hu, hw, hc, hp, rfl⟩ _
  · exact hfold _
  · exact hpass

theorem Swapped.onSession (h : Swapped R n s s') (hr : R ⟨time, rec⟩ ⟨time, rec⟩) :
    Swapped R n (s.onSession time rec) (s'.onSession time rec) := by
  have hpass := h.passThrough hr
  obtain ⟨u, w, c, p, hu, hw, hc, hp, rfl⟩ := h
  unfold onSession
  split
  case h_2 => exact ⟨u, [], [], p, hu, .nil, .nil, hp, rfl⟩
  case h_7 => exact hpass
  all_goals exact ⟨u, w, c, p, hu, hw, hc, hp, rfl⟩

/-- Nothing the engine decides reads a held record: taking in the same record keeps two
squashers related. -/
theorem Swapped.consume (h : Swapped R n s s') (r : TimedRecord) (hr : R r r) :
    Swapped R n (s.consume r) (s'.consume r) := by
  obtain ⟨time, rec⟩ := r
  obtain ⟨u, w, c, p, hu, hw, hc, hp, rfl⟩ := h
  have hb : Swapped R n
      { s with lastTime := time, report.recordsConsumed := s.report.recordsConsumed + 1 }
      { s.withHeld u w c p with
        lastTime := time, report.recordsConsumed := s.report.recordsConsumed + 1 } :=
    ⟨u, w, c, p, hu, hw, hc, hp, rfl⟩
  unfold Squasher.consume
  dsimp only
  cases rec with
  | raw kind data =>
    dsimp only
    split_ifs
    · exact (hb.passThrough hr).note _
    · split
      · exact hb.onWorld hr rfl
      · exact hb.onWindow hr
      · exact hb.passThrough hr
  | typed q =>
    dsimp only
    split
    · exact hb.onEntity hr
    · exact hb.onChunk hr
    · exact hb.onWorld hr rfl
    · exact hb.onWindow hr
    · split
      · exact ⟨u, w, c, p, hu, hw, hc, hp, rfl⟩
      · exact hb.passThrough hr
    · exact hb.onSession hr
    · exact hb.passThrough hr

theorem Swapped.consumeAll (hR : ∀ a, R a a) :
    ∀ (records : List TimedRecord) {s s' : Squasher}, Swapped R n s s' →
      Swapped R n (s.consumeAll records) (s'.consumeAll records)
  | [], _, _, h => h
  | r :: rest, _, _, h => Swapped.consumeAll hR rest (h.consume r (hR r))

theorem finish_snd (s : Squasher) (endTime : Int64) :
    (s.finish endTime).2 = { s.report with
      entitiesTracked := s.entities.size
      chunksTracked := s.chunks.size
      teamsTracked := s.teams.size
      recordsEmitted := (s.finish endTime).1.length } := rfl

/-- Two related squashers flush outputs related place by place, and the same report but for the
count of undecoded records passed through. -/
theorem Swapped.finish (h : Swapped R n s s') (hR : ∀ a, R a a)
    (htime : ∀ a b, R a b → a.time = b.time) (endTime : Int64) :
    List.Forall₂ R (s.finish endTime).1 (s'.finish endTime).1 ∧
      (s'.finish endTime).2 =
        { (s.finish endTime).2 with passedThrough := (s.finish endTime).2.passedThrough + n } := by
  obtain ⟨u, w, c, p, hu, hw, hc, rfl, rfl⟩ := h
  have hsame : ∀ l : List TimedRecord, List.Forall₂ R l l := fun _ =>
    List.forall₂_same.mpr fun a _ => hR a
  have hwindows : List.Forall₂ R s.windows.synthesize
      (s.withHeld u w c (s.report.passedThrough + n)).windows.synthesize :=
    List.rel_append (List.rel_append (List.rel_append hc (hsame _)) (hsame _)) (hsame _)
  have hbody : List.Forall₂ R s.body (s.withHeld u w c (s.report.passedThrough + n)).body :=
    List.rel_append (List.rel_append (List.rel_append (List.rel_append
      (List.rel_append hu hw) hwindows) (hsame _)) (hsame _)) (hsame _)
  have hout : List.Forall₂ R (s.finish endTime).1
      ((s.withHeld u w c (s.report.passedThrough + n)).finish endTime).1 := by
    rw [finish_fst, finish_fst]
    exact List.rel_append (List.rel_append (forall₂_mergeSort htime hbody) (hsame _)) (hsame _)
  refine ⟨hout, ?_⟩
  rw [finish_snd, finish_snd, ← hout.length_eq]

/-- Taking in a decoded record of an undecoded kind, or one of the same kind and time left
undecoded, gives the same squasher but for the one held record, and one more record counted
when the kind is of the other domain. -/
theorem swapped_consume_undecoded (s : Squasher) {p : Payload}
    (hk : decodedKinds.contains p.kind = false) (time : Int64) (data : Json) :
    Swapped (StandsFor ⟨time, .typed p⟩ ⟨time, .raw p.kind data⟩)
      (if p.kind.domain = .other then 1 else 0)
      (s.consume ⟨time, .typed p⟩) (s.consume ⟨time, .raw p.kind data⟩) := by
  have hx : StandsFor ⟨time, .typed p⟩ ⟨time, .raw p.kind data⟩
      ⟨time, .typed p⟩ ⟨time, .raw p.kind data⟩ := .inr ⟨rfl, rfl⟩
  have hb : Swapped (StandsFor ⟨time, .typed p⟩ ⟨time, .raw p.kind data⟩) 0
      { s with lastTime := time, report.recordsConsumed := s.report.recordsConsumed + 1 }
      { s with lastTime := time, report.recordsConsumed := s.report.recordsConsumed + 1 } :=
    swapped_refl (fun _ => .inl rfl) _
  unfold Squasher.consume
  dsimp only
  rw [hk, if_neg Bool.false_ne_true]
  rcases domain_of_undecoded hk with hd | hd | hd <;> simp only [hd]
  · exact hb.onWorld hx rfl
  · exact hb.onWindow_undecoded hx rfl hk
  · exact hb.passThrough_undecoded hx

end Squasher

/-- Replaying ignores every record of an undecoded kind. -/
theorem ReplayView.apply_of_undecoded (v : ReplayView) (time : Int64) {p : Payload}
    (hk : decodedKinds.contains p.kind = false) : v.apply ⟨time, .typed p⟩ = v := by
  cases p <;> first | rfl | exact nomatch hk

/-- The registry loses nothing the engine or a replay reads. Taking in a decoded record of an
undecoded kind, or the same kind undecoded with any payload, leaves every tracker the same but
for the one record standing where the other would; whatever follows, the flushed outputs agree
place by place but for that record, and the reports differ only in the count of undecoded
records passed through, by one when the kind is of the other domain. Replaying ignores both. -/
theorem undecoded_record_stands_in (s : Squasher) {p : Payload}
    (hk : decodedKinds.contains p.kind = false) (time : Int64) (data : Json)
    (rest : List TimedRecord) (endTime : Int64) :
    Squasher.Swapped (StandsFor ⟨time, .typed p⟩ ⟨time, .raw p.kind data⟩)
        (if p.kind.domain = .other then 1 else 0)
        (s.consume ⟨time, .typed p⟩) (s.consume ⟨time, .raw p.kind data⟩) ∧
      List.Forall₂ (StandsFor ⟨time, .typed p⟩ ⟨time, .raw p.kind data⟩)
        ((s.consumeAll (⟨time, .typed p⟩ :: rest)).flush endTime)
        ((s.consumeAll (⟨time, .raw p.kind data⟩ :: rest)).flush endTime) ∧
      ((s.consumeAll (⟨time, .raw p.kind data⟩ :: rest)).finish endTime).2 =
        { ((s.consumeAll (⟨time, .typed p⟩ :: rest)).finish endTime).2 with
          passedThrough :=
            ((s.consumeAll (⟨time, .typed p⟩ :: rest)).finish endTime).2.passedThrough +
              if p.kind.domain = .other then 1 else 0 } ∧
      ∀ v : ReplayView, v.apply ⟨time, .typed p⟩ = v ∧ v.apply ⟨time, .raw p.kind data⟩ = v := by
  have hstep := Squasher.swapped_consume_undecoded s hk time data
  have htime : ∀ a b, StandsFor ⟨time, .typed p⟩ ⟨time, .raw p.kind data⟩ a b →
      a.time = b.time := by
    rintro a b (rfl | ⟨rfl, rfl⟩) <;> rfl
  obtain ⟨hout, hreport⟩ :=
    (hstep.consumeAll (fun _ => .inl rfl) rest).finish (fun _ => .inl rfl) htime endTime
  exact ⟨hstep, hout, hreport, fun v => ⟨v.apply_of_undecoded time hk, rfl⟩⟩

/-- A chat line, decoded or not, opening an empty recording. -/
theorem chat_line_stands_in :
    decodedKinds.contains (Payload.chat ⟨"hello", 0⟩).kind = false ∧
      Squasher.Swapped (StandsFor ⟨0, .typed (.chat ⟨"hello", 0⟩)⟩ ⟨0, .raw .chat .null⟩)
          (if RecordKind.chat.domain = .other then 1 else 0)
          ((Squasher.new {}).consume ⟨0, .typed (.chat ⟨"hello", 0⟩)⟩)
          ((Squasher.new {}).consume ⟨0, .raw .chat .null⟩) ∧
        List.Forall₂ (StandsFor ⟨0, .typed (.chat ⟨"hello", 0⟩)⟩ ⟨0, .raw .chat .null⟩)
          (((Squasher.new {}).consumeAll [⟨0, .typed (.chat ⟨"hello", 0⟩)⟩]).flush 0)
          (((Squasher.new {}).consumeAll [⟨0, .raw .chat .null⟩]).flush 0) ∧
        (((Squasher.new {}).consumeAll [⟨0, .raw .chat .null⟩]).finish 0).2 =
          { (((Squasher.new {}).consumeAll [⟨0, .typed (.chat ⟨"hello", 0⟩)⟩]).finish 0).2 with
            passedThrough :=
              (((Squasher.new {}).consumeAll
                [⟨0, .typed (.chat ⟨"hello", 0⟩)⟩]).finish 0).2.passedThrough +
                if RecordKind.chat.domain = .other then 1 else 0 } ∧
        ∀ v : ReplayView,
          v.apply ⟨0, .typed (.chat ⟨"hello", 0⟩)⟩ = v ∧ v.apply ⟨0, .raw .chat .null⟩ = v :=
  have hk : decodedKinds.contains (Payload.chat ⟨"hello", 0⟩).kind = false := by decide
  ⟨hk, undecoded_record_stands_in (Squasher.new {}) hk 0 .null [] 0⟩

end SessionSquash
