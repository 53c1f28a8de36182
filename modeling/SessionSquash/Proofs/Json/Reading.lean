import Mathlib
import SessionSquash.Json.Read
import SessionSquash.Proofs.Json.Compact
import SessionSquash.Proofs.Json.Tree

namespace SessionSquash

set_option autoImplicit false

/-- A number the reader takes back from its text: an integer of its kind within 64 bits, or a
floating-point number whose text reads as a number. -/
def Number.Fits : Number → Prop
  | .nat n => n < 2 ^ 64
  | .negInt i => -2 ^ 63 ≤ i ∧ i < 0
  | n => ∃ m, Json.read n.render = .ok (.number m)

/-- What the text of a number reads back as. -/
def Number.reread (n : Number) : Number :=
  match Json.read n.render with
  | .ok (.number m) => m
  | _ => n

theorem Number.read_render_eq {n m : Number} (h : Json.read n.render = .ok (.number m)) :
    m = n.reread := by
  simp [Number.reread, h]

theorem FloatStyle.render_true (style : FloatStyle) (m : Nat) (q : Int) :
    style.render true m q = "-" ++ style.render false m q := by
  unfold FloatStyle.render
  by_cases hm : m = 0 <;> simp [hm]

/-- The text of a finite floating-point number starts with a sign or a digit. -/
theorem FloatStyle.render_head (style : FloatStyle) (negative : Bool) (m : Nat) (q : Int) :
    ∃ ch t, (style.render negative m q).toList = ch :: t ∧ (ch = '-' ∨ ch.isDigit = true) := by
  cases negative
  · unfold FloatStyle.render
    simp only [Bool.false_eq_true, if_false, String.empty_append]
    split
    · exact ⟨'0', ['.', '0'], rfl, .inr rfl⟩
    · obtain ⟨d, ds, hds, hd⟩ := Json.toDigits_eq_cons (style.format.shortest m q).1
      split_ifs with hwindow hlong hpos
      · simp [hds, hd]
      · simp only [Nat.toString_eq_repr] at hpos
        obtain ⟨k, hk⟩ : ∃ k, ((style.format.shortest m q).2 +
            ↑(style.format.shortest m q).1.repr.length).toNat = k + 1 :=
          ⟨_, (Nat.succ_pred_eq_of_pos (by omega)).symm⟩
        simp [hds, hd, hk]
      all_goals simp [hds, hd]
  · rw [FloatStyle.render_true]
    exact ⟨'-', (style.render false m q).toList, by simp, .inl rfl⟩

theorem Binary64.render_head (x : Binary64) : x.render = "null" ∨
    ∃ ch t, x.render.toList = ch :: t ∧ (ch = '-' ∨ ch.isDigit = true) := by
  unfold Binary64.render
  split
  · exact .inr (FloatStyle.render_head _ _ _ _)
  · exact .inl rfl

theorem Binary32.render_head (x : Binary32) : x.render = "null" ∨
    ∃ ch t, x.render.toList = ch :: t ∧ (ch = '-' ∨ ch.isDigit = true) := by
  unfold Binary32.render
  split
  · exact .inr (FloatStyle.render_head _ _ _ _)
  · exact .inl rfl

theorem Json.read_null : Json.read "null" = .ok .null := rfl

namespace Json

mutual

/-- How deeply arrays and objects nest in the tree; a scalar is at depth zero. -/
def depth : Json → Nat
  | .array items => depthList items + 1
  | .object fields => depthFields fields + 1
  | _ => 0

def depthList : List Json → Nat
  | [] => 0
  | j :: rest => max j.depth (depthList rest)

def depthFields : List (String × Json) → Nat
  | [] => 0
  | (_, j) :: rest => max j.depth (depthFields rest)

end

theorem depth_le_depthList {j : Json} {items : List Json} (h : j ∈ items) :
    j.depth ≤ depthList items := by
  induction items with
  | nil => cases h
  | cons k rest ih =>
    rcases List.mem_cons.mp h with rfl | h
    · exact le_max_left _ _
    · exact le_trans (ih h) (le_max_right _ _)

theorem depth_le_depthFields {p : String × Json} {fields : List (String × Json)}
    (h : p ∈ fields) : p.2.depth ≤ depthFields fields := by
  induction fields with
  | nil => cases h
  | cons q rest ih =>
    rcases List.mem_cons.mp h with rfl | h
    · exact le_max_left _ _
    · exact le_trans (ih h) (le_max_right _ _)

/-- The first character of a compact text is no blank and closes nothing. -/
theorem compact_head (j : Json) : ∃ c t, (compact j).toList = c :: t ∧
    Reader.isBlank c = false ∧ c ≠ ']' ∧ c ≠ '\x7d' ∧ c ≠ ',' := by
  have hdigit : ∀ c, c.isDigit = true →
      Reader.isBlank c = false ∧ c ≠ ']' ∧ c ≠ '\x7d' ∧ c ≠ ',' := by
    intro c hc
    simp only [Char.isDigit, Bool.and_eq_true, decide_eq_true_eq] at hc
    refine ⟨?_, ?_, ?_, ?_⟩
    · simp only [Reader.isBlank, Bool.or_eq_false_iff, beq_eq_false_iff_ne]
      refine ⟨⟨⟨?_, ?_⟩, ?_⟩, ?_⟩ <;> rintro rfl <;> simp at hc
    all_goals rintro rfl; simp at hc
  have hfloat : ∀ s : String, (s = "null" ∨ ∃ ch t, s.toList = ch :: t ∧
      (ch = '-' ∨ ch.isDigit = true)) → ∃ c t, s.toList = c :: t ∧
      Reader.isBlank c = false ∧ c ≠ ']' ∧ c ≠ '\x7d' ∧ c ≠ ',' := by
    rintro s (rfl | ⟨ch, t, ht, rfl | hd⟩)
    · exact ⟨'n', _, rfl, by decide⟩
    · exact ⟨'-', t, ht, by decide⟩
    · exact ⟨ch, t, ht, hdigit ch hd⟩
  cases j with
  | null => exact ⟨'n', _, rfl, by decide⟩
  | bool b => cases b <;> exact ⟨_, _, rfl, by decide⟩
  | number n =>
    cases n with
    | nat k =>
      obtain ⟨d, ds, hds, hd⟩ := toDigits_eq_cons k
      exact ⟨d, ds, by rw [toList_compact_nat, hds], hdigit d hd⟩
    | negInt i =>
      cases i with
      | ofNat k =>
        obtain ⟨d, ds, hds, hd⟩ := toDigits_eq_cons k
        exact ⟨d, ds, by simp [compact, Number.render, Int.repr, hds], hdigit d hd⟩
      | negSucc k =>
        exact ⟨'-', Nat.toDigits 10 (k + 1), by simp [compact, Number.render, Int.repr], by decide⟩
    | double x => exact hfloat _ (Binary64.render_head x)
    | single x => exact hfloat _ (Binary32.render_head x)
  | string s => exact ⟨'"', _, toList_quote s, by decide⟩
  | array items => exact ⟨'[', _, toList_compact_array items, by decide⟩
  | object fields => exact ⟨'\x7b', _, toList_compact_object fields, by decide⟩

/-- The compact text of items: the first, then each of the others behind a separator. -/
theorem toList_compactList_cons_flatMap (j : Json) (l : List Json) :
    (compactList (j :: l)).toList =
      (compact j).toList ++ l.flatMap fun k => ',' :: (compact k).toList := by
  induction l generalizing j with
  | nil => simp [compactList]
  | cons k l ih => rw [toList_compactList_cons_cons, ih k]; simp

/-- The compact text of members: the first, then each of the others behind a separator. -/
theorem toList_compactFields_cons_flatMap (p : String × Json) (l : List (String × Json)) :
    (compactFields (p :: l)).toList =
      (quote p.1).toList ++ ':' :: (compact p.2).toList ++
        l.flatMap fun q => ',' :: ((quote q.1).toList ++ ':' :: (compact q.2).toList) := by
  induction l generalizing p with
  | nil => simp [compactFields]
  | cons q l ih =>
    obtain ⟨k, v⟩ := p
    rw [toList_compactFields_cons_cons, ih q]
    simp

end Json

namespace Reader

open Json (Follows)

variable {α β : Type}

theorem run_bind_ok {m : Reader α} {k : α → Reader β} {c c' : Cursor} {a : α}
    (h : m.run c = .ok (a, c')) : (m >>= k).run c = (k a).run c' := by
  simp only [StateT.run] at h ⊢
  simp [bind, StateT.bind, h]
  rfl

theorem run_bind_eq_ok {m : Reader α} {k : α → Reader β} {c c₂ : Cursor} {b : β}
    (h : (m >>= k).run c = .ok (b, c₂)) :
    ∃ a c₁, m.run c = .ok (a, c₁) ∧ (k a).run c₁ = .ok (b, c₂) := by
  simp only [StateT.run, bind, StateT.bind] at h
  cases hm : m c with
  | error e => simp [hm] at h; cases h
  | ok p => exact ⟨p.1, p.2, hm, by simpa [hm, Except.bind, StateT.run] using h⟩

/-- Having read from a text `cs`, a reader reads the same from `cs` followed by what may
follow a value, at any later offset, and leaves what followed unread. -/
def Local (m : Reader α) (cs : List Char) : Prop :=
  ∀ o a c, m.run ⟨cs, o⟩ = .ok (a, c) → ∀ d rest, Follows rest →
    m.run ⟨cs ++ rest, o + d⟩ = .ok (a, ⟨c.rest ++ rest, c.offset + d⟩)

theorem local_pure (a : α) (cs : List Char) : Local (pure a) cs := by
  intro o a' c h d rest _
  simp only [StateT.run, pure, StateT.pure, Except.pure, Except.ok.injEq, Prod.mk.injEq] at h ⊢
  obtain ⟨rfl, rfl⟩ := h
  exact ⟨rfl, rfl⟩

theorem local_bind {m : Reader α} {k : α → Reader β} {cs : List Char} (hm : Local m cs)
    (hk : ∀ o a c, m.run ⟨cs, o⟩ = .ok (a, c) → Local (k a) c.rest) : Local (m >>= k) cs := by
  intro o b c₂ h d rest hrest
  obtain ⟨a, c₁, h₁, h₂⟩ := run_bind_eq_ok h
  rw [run_bind_ok (hm o a c₁ h₁ d rest hrest)]
  exact hk o a c₁ h₁ c₁.offset b c₂ h₂ d rest hrest

theorem run_fail (e : SyntaxError) (c : Cursor) :
    (fail e : Reader α).run c = .error ⟨e, c.offset⟩ := rfl

theorem local_fail (e : SyntaxError) (cs : List Char) : Local (fail e : Reader α) cs := by
  intro o a c h
  rw [run_fail] at h
  cases h

theorem run_peek (cs : List Char) (o : Nat) : peek.run ⟨cs, o⟩ = .ok (cs.head?, ⟨cs, o⟩) := rfl

theorem run_bump_cons (ch : Char) (t : List Char) (o : Nat) :
    bump.run ⟨ch :: t, o⟩ = .ok ((), ⟨t, o + ch.utf8Size⟩) := rfl

theorem run_pure (a : α) (c : Cursor) : (pure a : Reader α).run c = .ok (a, c) := rfl

theorem run_get (c : Cursor) : (get : Reader Cursor).run c = .ok (c, c) := rfl

theorem local_peek_cons {k : Option Char → Reader α} {ch : Char} {t : List Char}
    (hk : Local (k (some ch)) (ch :: t)) : Local (peek >>= k) (ch :: t) := by
  intro o a c h d rest hrest
  rw [run_bind_ok (run_peek _ _)] at h
  rw [List.cons_append, run_bind_ok (run_peek _ _)]
  exact hk o a c h d rest hrest

/-- At the end of a number's text, what may follow a value reads as the end of the text. -/
theorem local_peek_nil {k : Option Char → Reader α} (hk : Local (k none) [])
    (hstop : ∀ ch, ch = ',' ∨ ch = ']' ∨ ch = '\x7d' → k (some ch) = k none) :
    Local (peek >>= k) [] := by
  intro o a c h d rest hrest
  rw [run_bind_ok (run_peek _ _)] at h
  rw [run_bind_ok (run_peek _ _)]
  have hnone := hk o a c h d rest hrest
  cases rest with
  | nil => exact hnone
  | cons ch t =>
    rw [List.nil_append] at hnone ⊢
    rw [List.head?_cons, hstop ch (hrest ch rfl)]
    exact hnone

theorem local_bump_cons {k : Unit → Reader α} {ch : Char} {t : List Char}
    (hk : Local (k ()) t) : Local (bump >>= k) (ch :: t) := by
  intro o a c h d rest hrest
  rw [run_bind_ok (run_bump_cons _ _ _)] at h
  rw [List.cons_append, run_bind_ok (run_bump_cons _ _ _), Nat.add_right_comm]
  exact hk _ a c h d rest hrest

theorem run_failAhead (e : SyntaxError) (c : Cursor) :
    (failAhead e : Reader α).run c =
      .error ⟨e, if c.rest.isEmpty then c.offset else c.offset + 1⟩ := rfl

theorem local_failAhead (e : SyntaxError) (cs : List Char) : Local (failAhead e : Reader α) cs := by
  intro o a c h
  rw [run_failAhead] at h
  cases h

theorem local_fromParts (p : Bool) (s : Nat) (e : Int) (cs : List Char) :
    Local (fromParts p s e) cs := by
  unfold fromParts
  split
  · exact local_pure _ _
  · exact local_fail _ _

/-- A reader that fails on a text is local to it. -/
theorem local_of_error {m : Reader α} {cs : List Char}
    (h : ∀ o, ∃ e, m.run ⟨cs, o⟩ = .error e) : Local m cs := by
  intro o a c hm
  obtain ⟨e, he⟩ := h o
  rw [he] at hm
  cases hm

theorem isDigit_of_follows {rest : List Char} (h : Follows rest) :
    ∀ ch ∈ rest.head?, isDigit ch = false := by
  intro ch hch
  rcases h ch hch with rfl | rfl | rfl <;> rfl

theorem digitsWhile_go_append {σ : Type} (keep : σ → Nat → Bool) (add : σ → Nat → σ)
    {rest : List Char} (hrest : Follows rest) :
    ∀ (cs : List Char) (n : Nat) (acc : σ),
      digitsWhile.go keep add (cs ++ rest) n acc =
        ((digitsWhile.go keep add cs n acc).1 ++ rest, (digitsWhile.go keep add cs n acc).2)
  | [], n, acc => by
    cases rest with
    | nil => rfl
    | cons ch t => simp [digitsWhile.go, isDigit_of_follows hrest ch rfl]
  | ch :: t, n, acc => by
    simp only [List.cons_append, digitsWhile.go]
    split_ifs
    · exact digitsWhile_go_append keep add hrest t _ _
    · rfl
    · rfl

/-- A run of digits stopped by `keep` stops at a digit. -/
theorem digitsWhile_go_stopped {σ : Type} (keep : σ → Nat → Bool) (add : σ → Nat → σ) :
    ∀ (cs : List Char) (n : Nat) (acc : σ), (digitsWhile.go keep add cs n acc).2.2.2 = true →
      ∃ ch t, (digitsWhile.go keep add cs n acc).1 = ch :: t
  | [], _, _, h => by simp [digitsWhile.go] at h
  | ch :: t, n, acc, h => by
    simp only [digitsWhile.go] at h ⊢
    split_ifs at h ⊢
    · exact digitsWhile_go_stopped keep add t _ _ h
    · exact ⟨ch, t, rfl⟩

theorem run_digitsWhile {σ : Type} (keep : σ → Nat → Bool) (add : σ → Nat → σ) (start : σ)
    (cs : List Char) (o : Nat) :
    (digitsWhile keep add start).run ⟨cs, o⟩ =
      .ok (((digitsWhile.go keep add cs 0 start).2.2.1, (digitsWhile.go keep add cs 0 start).2.2.2),
        ⟨(digitsWhile.go keep add cs 0 start).1, o + (digitsWhile.go keep add cs 0 start).2.1⟩) :=
  rfl

theorem local_digitsWhile {σ : Type} (keep : σ → Nat → Bool) (add : σ → Nat → σ) (start : σ)
    (cs : List Char) : Local (digitsWhile keep add start) cs := by
  intro o a c h d rest hrest
  rw [run_digitsWhile, Except.ok.injEq] at h
  cases h
  rw [run_digitsWhile, digitsWhile_go_append keep add hrest]
  simp only [Except.ok.injEq, Prod.mk.injEq, Cursor.mk.injEq, true_and]
  omega

theorem takeWhile_isDigit_append {rest : List Char} (hrest : Follows rest) :
    ∀ cs : List Char, (cs ++ rest).takeWhile isDigit = cs.takeWhile isDigit
  | [] => by
    cases rest with
    | nil => rfl
    | cons ch t => simp [isDigit_of_follows hrest ch rfl]
  | ch :: t => by
    by_cases hd : isDigit ch = true
    · simp [hd, takeWhile_isDigit_append hrest t]
    · simp [hd]

theorem local_skipDigits (cs : List Char) : Local skipDigits cs := by
  intro o a c h d rest hrest
  have hlen : (cs.takeWhile isDigit).length ≤ cs.length := List.IsPrefix.length_le (List.takeWhile_prefix _)
  simp only [StateT.run, skipDigits, bind, StateT.bind, get, getThe, MonadStateOf.get, StateT.get,
    set, StateT.set, pure, StateT.pure, Except.bind, Except.pure, Except.ok.injEq] at h ⊢
  cases h
  rw [takeWhile_isDigit_append hrest, List.drop_append_of_le_length hlen]
  simp only [Prod.mk.injEq, Cursor.mk.injEq, true_and]
  omega

theorem local_exponentPart (p : Bool) (s : Nat) (start : Int) (ch : Char) (t : List Char) :
    Local (exponentPart p s start) (ch :: t) := by
  unfold exponentPart
  apply local_bump_cons
  extract_lets digits
  have hdigits : ∀ positiveExp cs, Local (digits positiveExp) cs := by
    intro positiveExp cs
    rcases cs with _ | ⟨c, cs⟩
    · exact local_of_error fun o => ⟨_, rfl⟩
    apply local_peek_cons
    dsimp only
    split
    · exact local_failAhead _ _
    apply local_bump_cons
    refine local_bind (local_digitsWhile _ _ _ _) fun o a c' h => ?_
    obtain ⟨exp, overflowed⟩ := a
    simp only
    split
    · next hover =>
      rw [run_digitsWhile, Except.ok.injEq] at h
      cases h
      obtain ⟨d, t', ht'⟩ := digitsWhile_go_stopped _ _ cs 0 _ hover
      simp only [ht']
      apply local_bump_cons
      split
      · exact local_fail _ _
      · exact local_bind (local_skipDigits _) fun _ _ _ _ => local_pure _ _
    · exact local_fromParts _ _ _ _
  rcases t with _ | ⟨c, t⟩
  · apply local_peek_nil
    · exact local_bind (local_pure _ _) fun _ _ _ _ => hdigits _ _
    · rintro ch (rfl | rfl | rfl) <;> rfl
  · apply local_peek_cons
    split
    · exact local_bump_cons (local_bind (local_pure _ _) fun _ _ _ _ => hdigits _ _)
    · exact local_bump_cons (local_bind (local_pure _ _) fun _ _ _ _ => hdigits _ _)
    · exact local_bind (local_pure _ _) fun _ _ _ _ => hdigits _ _

theorem local_afterDigits (p : Bool) (s : Nat) (e : Int) (cs : List Char) :
    Local (afterDigits p s e) cs := by
  unfold afterDigits
  rcases cs with _ | ⟨c, t⟩
  · apply local_peek_nil
    · exact local_fromParts _ _ _ _
    · rintro ch (rfl | rfl | rfl) <;> rfl
  · apply local_peek_cons
    split
    · exact local_exponentPart _ _ _ _ _
    · exact local_exponentPart _ _ _ _ _
    · exact local_fromParts _ _ _ _

/-- The fraction's value depends on how many digits it has, which is the same wherever the
text starts. -/
theorem local_fractionPart (p : Bool) (s : Nat) (b : Int) (ch : Char) (t : List Char) :
    Local (fractionPart p s b) (ch :: t) := by
  unfold fractionPart
  apply local_bump_cons
  intro o a c h d rest hrest
  rw [run_bind_ok (run_get _)] at h
  rw [run_bind_ok (run_get _)]
  obtain ⟨x, c₁, h₁, h₂⟩ := run_bind_eq_ok h
  rw [run_bind_ok (run_get _)] at h₂
  rw [run_bind_ok (local_digitsWhile _ _ _ _ o x c₁ h₁ d rest hrest), run_bind_ok (run_get _),
    Nat.add_sub_add_right]
  generalize c₁.offset - o = n at h₂ ⊢
  refine (?_ : Local _ c₁.rest) c₁.offset a c h₂ d rest hrest
  dsimp only
  split
  · exact local_bind (local_skipDigits _) fun _ _ _ _ => local_afterDigits _ _ _ _
  split
  · refine local_of_error fun o => ?_
    rw [run_bind_ok (run_peek _ _)]
    split <;> exact ⟨_, rfl⟩
  · exact local_afterDigits _ _ _ _

theorem local_longInteger (p : Bool) (s : Nat) (cs : List Char) : Local (longInteger p s) cs := by
  unfold longInteger
  refine local_bind (local_skipDigits _) fun o n c _ => ?_
  rcases c with ⟨_ | ⟨c, t⟩, offset⟩
  · apply local_peek_nil
    · exact local_fromParts _ _ _ _
    · rintro ch (rfl | rfl | rfl) <;> rfl
  · apply local_peek_cons
    split
    · exact local_fractionPart _ _ _ _ _
    · exact local_exponentPart _ _ _ _ _
    · exact local_exponentPart _ _ _ _ _
    · exact local_fromParts _ _ _ _

theorem local_afterSignificand (p : Bool) (s : Nat) (cs : List Char) :
    Local (afterSignificand p s) cs := by
  unfold afterSignificand
  rcases cs with _ | ⟨c, t⟩
  · apply local_peek_nil
    · exact local_pure _ _
    · rintro ch (rfl | rfl | rfl) <;> rfl
  · apply local_peek_cons
    split
    · exact local_bind (local_fractionPart _ _ _ _ _) fun _ _ _ _ => local_pure _ _
    · exact local_bind (local_exponentPart _ _ _ _ _) fun _ _ _ _ => local_pure _ _
    · exact local_bind (local_exponentPart _ _ _ _ _) fun _ _ _ _ => local_pure _ _
    · exact local_pure _ _

/-- Reading a number looks no further than its text when what follows may follow a value. -/
theorem local_number (p : Bool) (cs : List Char) : Local (number p) cs := by
  unfold number
  rcases cs with _ | ⟨c, t⟩
  · exact local_of_error fun o => ⟨_, rfl⟩
  apply local_peek_cons
  dsimp only
  split
  · exact local_failAhead _ _
  split
  · apply local_bump_cons
    rcases t with _ | ⟨d, t⟩
    · apply local_peek_nil
      · exact local_afterSignificand _ _ _
      · rintro ch (rfl | rfl | rfl) <;> rfl
    · apply local_peek_cons
      dsimp only
      split
      · exact local_failAhead _ _
      · exact local_afterSignificand _ _ _
  · apply local_bump_cons
    refine local_bind (local_digitsWhile _ _ _ _) fun o x c _ => ?_
    obtain ⟨s, overflowed⟩ := x
    dsimp only
    split
    · exact local_bind (local_longInteger _ _ _) fun _ _ _ _ => local_pure _ _
    · exact local_afterSignificand _ _ _

theorem isDigit_iff (c : Char) : isDigit c = c.isDigit := by
  simp [isDigit, Char.isDigit, Char.le_def]

theorem ofDigitChars_ge (l : List Char) (acc : Nat) : acc ≤ Nat.ofDigitChars 10 l acc := by
  induction l generalizing acc with
  | nil => simp
  | cons c l ih =>
    rw [Nat.ofDigitChars_cons]
    exact le_trans (by omega) (ih _)

/-- A run of digits whose value fits is read whole. -/
theorem digitsWhile_go_digits {rest : List Char} (hrest : Follows rest) :
    ∀ (l : List Char) (n acc : Nat), (∀ c ∈ l, isDigit c = true) →
      Nat.ofDigitChars 10 l acc ≤ maxU64 →
      digitsWhile.go (fun s d => decide (s * 10 + d ≤ maxU64)) (fun s d => s * 10 + d) (l ++ rest)
        n acc = (rest, n + l.length, Nat.ofDigitChars 10 l acc, false)
  | [], n, acc, _, _ => by
    rw [digitsWhile_go_append _ _ hrest [] n acc]
    rfl
  | c :: l, n, acc, hl, hfit => by
    have hc := hl c List.mem_cons_self
    have hd : digitValue c = c.toNat - '0'.toNat := rfl
    rw [Nat.ofDigitChars_cons] at hfit
    have hstep := ofDigitChars_ge l (10 * acc + (c.toNat - '0'.toNat))
    simp only [List.cons_append, digitsWhile.go, hc, if_true]
    rw [if_pos (decide_eq_true (by omega)), hd, Nat.mul_comm acc 10,
      digitsWhile_go_digits hrest l (n + 1) _ (fun c hc => hl c (List.mem_cons_of_mem _ hc)) hfit,
      Nat.ofDigitChars_cons, List.length_cons, Nat.add_right_comm, Nat.add_assoc]

theorem toDigits_ne_zero_cons : ∀ {n : Nat}, 0 < n → ∀ t, Nat.toDigits 10 n ≠ '0' :: t
  | n, hn, t, h => by
    by_cases hlt : n < 10
    · rw [Nat.toDigits_of_lt_base hlt, List.cons.injEq, Nat.digitChar_eq_zero] at h
      omega
    · rw [Nat.toDigits_of_base_le (by decide) (by omega)] at h
      obtain ⟨d, ds, hds, -⟩ := Json.toDigits_eq_cons (n / 10)
      rw [hds, List.cons_append, List.cons.injEq] at h
      obtain ⟨rfl, -⟩ := h
      exact @toDigits_ne_zero_cons (n / 10) (by omega) ds hds

/-- The digits of an integer that fits in 64 bits read back as that integer. -/
theorem run_number_toDigits {n : Nat} (hn : n ≤ maxU64) (positive : Bool) (o : Nat) :
    ∃ o', (number positive).run ⟨Nat.toDigits 10 n, o⟩ = .ok (integerResult positive n, ⟨[], o'⟩) := by
  rcases Nat.eq_zero_or_pos n with rfl | hpos
  · exact ⟨_, rfl⟩
  obtain ⟨d, ds, hds, hd⟩ := Json.toDigits_eq_cons n
  have hdigits : ∀ c ∈ ds, isDigit c = true := fun c hc => by
    rw [isDigit_iff]
    exact Json.isDigit_of_mem_toDigits (hds ▸ List.mem_cons_of_mem _ hc)
  have hvalue : Nat.ofDigitChars 10 ds (digitValue d) = n := by
    rw [← @Nat.ofDigitChars_ten_toDigits n, hds, Nat.ofDigitChars_cons, Nat.mul_zero,
      Nat.zero_add]
    rfl
  have hgo := digitsWhile_go_digits Json.follows_nil ds 0 (digitValue d) hdigits (hvalue ▸ hn)
  rw [List.append_nil, hvalue] at hgo
  have hd0 : d ≠ '0' := fun h => toDigits_ne_zero_cons hpos ds (h ▸ hds)
  refine ⟨o + d.utf8Size + ds.length, ?_⟩
  unfold number
  rw [hds, run_bind_ok (run_peek _ _)]
  rw [← isDigit_iff] at hd
  simp only [List.head?_cons]
  rw [if_neg (by simp [hd]), if_neg (by simpa using hd0), run_bind_ok (run_bump_cons _ _ _),
    run_bind_ok (run_digitsWhile _ _ _ _ _), hgo]
  simp only [Nat.zero_add]
  rfl

theorem drop_takeWhile_length (p : Char → Bool) (cs : List Char) :
    cs.drop (cs.takeWhile p).length = cs.dropWhile p := by
  have hsplit : cs.takeWhile p ++ cs.dropWhile p = cs := List.takeWhile_append_dropWhile
  calc cs.drop (cs.takeWhile p).length
      = (cs.takeWhile p ++ cs.dropWhile p).drop (cs.takeWhile p).length := by rw [hsplit]
    _ = cs.dropWhile p := List.drop_left

theorem run_skipBlanks (cs : List Char) (o : Nat) :
    skipBlanks.run ⟨cs, o⟩ =
      .ok ((cs.dropWhile isBlank).head?, ⟨cs.dropWhile isBlank, o + (cs.takeWhile isBlank).length⟩) := by
  rw [← drop_takeWhile_length]
  rfl

theorem run_skipBlanks_append {b r : List Char} (hb : ∀ c ∈ b, isBlank c = true)
    (hr : ∀ c ∈ r.head?, isBlank c = false) (o : Nat) :
    skipBlanks.run ⟨b ++ r, o⟩ = .ok (r.head?, ⟨r, o + b.length⟩) := by
  have hdrop : r.dropWhile isBlank = r := by
    cases r with
    | nil => rfl
    | cons c t => simp [hr c rfl]
  have htake : r.takeWhile isBlank = [] := by
    cases r with
    | nil => rfl
    | cons c t => simp [hr c rfl]
  rw [run_skipBlanks, List.dropWhile_append_of_pos hb, List.takeWhile_append_of_pos hb, hdrop,
    htake, List.append_nil]

theorem head_not_blank {c : Char} (hc : isBlank c = false) (t : List Char) :
    ∀ x ∈ (c :: t).head?, isBlank x = false := fun _ hx => Option.some.inj hx ▸ hc

theorem run_skipBlanks_cons {c : Char} (hc : isBlank c = false) (t : List Char) (o : Nat) :
    skipBlanks.run ⟨c :: t, o⟩ = .ok (some c, ⟨c :: t, o⟩) :=
  @run_skipBlanks_append [] (c :: t) (by simp) (by simpa using hc) o

theorem run_value_minus (F D : Nat) (t : List Char) (o : Nat) :
    (value (F + 1) D).run ⟨'-' :: t, o⟩ =
      (bump >>= fun _ => number false >>= fun n => pure (Json.number n)).run ⟨'-' :: t, o⟩ := by
  rw [value, run_bind_ok (run_skipBlanks_cons rfl _ _)]
  rfl

theorem run_value_digit (F D : Nat) {ch : Char} (hch : isDigit ch = true) (t : List Char)
    (o : Nat) :
    (value (F + 1) D).run ⟨ch :: t, o⟩ =
      (number true >>= fun n => pure (Json.number n)).run ⟨ch :: t, o⟩ := by
  have hblank : isBlank ch = false := by
    simp only [isDigit, Bool.and_eq_true, decide_eq_true_eq] at hch
    simp only [isBlank, Bool.or_eq_false_iff, beq_eq_false_iff_ne]
    refine ⟨⟨⟨?_, ?_⟩, ?_⟩, ?_⟩ <;> rintro rfl <;> simp at hch
  rw [value, run_bind_ok (run_skipBlanks_cons hblank _ _)]
  dsimp only
  split <;> simp_all [isDigit]

theorem local_value_minus (t : List Char) :
    Local (bump >>= fun _ => number false >>= fun n => pure (Json.number n)) ('-' :: t) :=
  local_bump_cons (local_bind (local_number false t) fun _ _ _ _ => local_pure _ _)

/-- A successful read is a value followed by nothing but blanks. -/
theorem run_value_of_read {s : String} {j : Json} (h : Json.read s = .ok j) :
    ∃ c, (value (2 * s.toList.length + 4) 128).run ⟨s.toList, 0⟩ = .ok (j, c) ∧
      ∀ ch ∈ c.rest, isBlank ch = true := by
  unfold Json.read at h
  simp only [Except.map] at h
  split at h
  · cases h
  next p hrun =>
    cases h
    obtain ⟨j, c⟩ := p
    obtain ⟨j', c₁, h₁, h₂⟩ := run_bind_eq_ok hrun
    obtain ⟨x, c₂, h₃, h₄⟩ := run_bind_eq_ok h₂
    rw [run_skipBlanks, Except.ok.injEq, Prod.mk.injEq] at h₃
    obtain ⟨rfl, rfl⟩ := h₃
    split at h₄
    · rw [run_failAhead] at h₄
      cases h₄
    next hnone =>
      simp only [StateT.run, pure, StateT.pure, Except.pure, Except.ok.injEq, Prod.mk.injEq] at h₄
      obtain ⟨rfl, -⟩ := h₄
      refine ⟨c₁, h₁, fun ch hch => ?_⟩
      have hnil : c₁.rest.dropWhile isBlank = [] := List.head?_eq_none_iff.mp hnone
      exact List.dropWhile_eq_nil_iff.mp hnil ch hch

/-- A number whose text reads as a number on its own reads the same way inside compact text,
whatever fuel and depth are left, leaving at most some blanks before what follows. -/
theorem value_append_of_read {x : Number} {m : Number} (h : Json.read x.render = .ok (.number m))
    (hhead : ∃ ch t, x.render.toList = ch :: t ∧ (ch = '-' ∨ ch.isDigit = true))
    (F D o : Nat) {rest : List Char} (hrest : Follows rest) :
    ∃ b o', (∀ ch ∈ b, isBlank ch = true) ∧
      (value (F + 1) D).run ⟨x.render.toList ++ rest, o⟩ = .ok (.number m, ⟨b ++ rest, o'⟩) := by
  obtain ⟨c, hc, hblank⟩ := run_value_of_read h
  obtain ⟨ch, t, ht, hch⟩ := hhead
  rw [ht] at hc ⊢
  refine ⟨c.rest, c.offset + o, hblank, ?_⟩
  rw [List.cons_append]
  rcases hch with rfl | hdigit
  · rw [run_value_minus] at hc ⊢
    simpa only [Nat.zero_add, List.cons_append] using local_value_minus t 0 _ c hc o rest hrest
  · rw [← isDigit_iff] at hdigit
    rw [run_value_digit _ _ hdigit] at hc ⊢
    simpa only [Nat.zero_add, List.cons_append] using
      local_bind (local_number true _) (fun _ _ _ _ => local_pure _ _) 0 _ c hc o rest hrest

/-- The digits of an integer that fits in 64 bits read back as it inside compact text. -/
theorem run_number_toDigits_append {k : Nat} (hk : k ≤ maxU64) (p : Bool) (o : Nat)
    {rest : List Char} (hrest : Follows rest) :
    ∃ o', (number p).run ⟨Nat.toDigits 10 k ++ rest, o⟩ = .ok (integerResult p k, ⟨rest, o'⟩) := by
  obtain ⟨o', h⟩ := run_number_toDigits hk p o
  exact ⟨o' + 0, local_number p _ o _ _ h 0 rest hrest⟩

theorem le_maxU64 {k : Nat} (hk : k < 2 ^ 64) : k ≤ maxU64 := by
  have h : maxU64 = 2 ^ 64 - 1 := rfl
  omega

/-- A number that fits reads back from its compact text: an integer as itself, a
floating-point number as what its own text reads as. -/
theorem value_number {n : Number} (hn : n.Fits) (F D o : Nat) {rest : List Char}
    (hrest : Follows rest) :
    ∃ b o', (∀ ch ∈ b, isBlank ch = true) ∧
      (value (F + 1) D).run ⟨(Json.compact (.number n)).toList ++ rest, o⟩ =
        .ok ((Json.number n).mapFloats Number.reread, ⟨b ++ rest, o'⟩) := by
  cases n with
  | nat k =>
    obtain ⟨d, ds, hds, hd⟩ := Json.toDigits_eq_cons k
    rw [← isDigit_iff] at hd
    obtain ⟨o', h⟩ := run_number_toDigits_append (le_maxU64 hn) true o hrest
    refine ⟨[], o', by simp, ?_⟩
    rw [Json.toList_compact_nat, hds, List.cons_append, run_value_digit _ _ hd, ← List.cons_append,
      ← hds, run_bind_ok h]
    rfl
  | negInt i =>
    obtain ⟨hlo, hneg⟩ := hn
    have hk : i.natAbs ≤ maxU64 := le_maxU64 (by omega)
    obtain ⟨o', h⟩ := run_number_toDigits_append hk false (o + '-'.utf8Size) hrest
    refine ⟨[], o', by simp, ?_⟩
    rw [Json.toList_compact_negInt hneg, List.cons_append, run_value_minus,
      run_bind_ok (run_bump_cons _ _ _), run_bind_ok h]
    have hresult : integerResult false i.natAbs = .negInt i := by
      have h63 : Nat.pow 2 63 = 2 ^ 63 := rfl
      simp only [integerResult, Bool.false_eq_true, if_false, beq_iff_eq, h63]
      rw [if_neg (by omega), if_pos (by omega)]
      congr 1
      omega
    rw [hresult]
    rfl
  | double x =>
    obtain ⟨m, hm⟩ := hn
    have hhead := (Binary64.render_head x).resolve_left fun hnull => by
      simp [Number.render, hnull, Json.read_null] at hm
    obtain ⟨b, o', hb, h⟩ := value_append_of_read hm hhead F D o hrest
    rw [Number.read_render_eq hm] at h
    exact ⟨b, o', hb, h⟩
  | single x =>
    obtain ⟨m, hm⟩ := hn
    have hhead := (Binary32.render_head x).resolve_left fun hnull => by
      simp [Number.render, hnull, Json.read_null] at hm
    obtain ⟨b, o', hb, h⟩ := value_append_of_read hm hhead F D o hrest
    rw [Number.read_render_eq hm] at h
    exact ⟨b, o', hb, h⟩

theorem hexValue_hexDigit : ∀ n < 16, hexValue (Json.hexDigit n) = some n := by decide

theorem toNat_hexDigit_lt : ∀ n < 16, (Json.hexDigit n).toNat < 128 := by decide

theorem foldl_utf8Size_ge (l : List Char) (k : Nat) :
    k + l.length ≤ l.foldl (fun n ch => n + ch.utf8Size) k := by
  induction l generalizing k with
  | nil => simp
  | cons ch l ih =>
    have := Char.utf8Size_pos ch
    have := ih (k + ch.utf8Size)
    simp only [List.foldl_cons, List.length_cons]
    omega

/-- The four hexadecimal digits of a control character's escape read back as its code. -/
theorem run_hexEscape {c : Char} (hc : c.toNat < 0x20) (t : List Char) (o : Nat) :
    hexEscape.run ⟨'0' :: '0' :: Json.hexDigit (c.toNat / 16) :: Json.hexDigit (c.toNat % 16) :: t, o⟩ =
      .ok (c.toNat, ⟨t, o + 4⟩) := by
  have hhi := hexValue_hexDigit (c.toNat / 16) (by omega)
  have hlo := hexValue_hexDigit (c.toNat % 16) (by omega)
  have hhi' := toNat_hexDigit_lt (c.toNat / 16) (by omega)
  have hlo' := toNat_hexDigit_lt (c.toNat % 16) (by omega)
  have hbytes := foldl_utf8Size_ge
    ('0' :: '0' :: Json.hexDigit (c.toNat / 16) :: Json.hexDigit (c.toNat % 16) :: t) 0
  simp only [List.length_cons] at hbytes
  have hzero : hexValue '0' = some 0 := rfl
  have hcode : c.toNat / 16 * 16 + c.toNat % 16 = c.toNat := by omega
  simp only [hexEscape, StateT.run, bind, StateT.bind, get, getThe, MonadStateOf.get, StateT.get,
    set, pure, Except.bind, Except.pure]
  rw [if_neg (by omega)]
  simp [hzero, hhi, hlo, hhi', hlo', hcode, StateT.bind, StateT.set, StateT.pure, pure,
    Except.pure]
  rfl

theorem run_escape_control {c : Char} (hc : c.toNat < 0x20) (t : List Char) (o : Nat) :
    escape.run ⟨'u' :: '0' :: '0' :: Json.hexDigit (c.toNat / 16) :: Json.hexDigit (c.toNat % 16) :: t, o⟩ =
      .ok (c, ⟨t, o + 'u'.utf8Size + 4⟩) := by
  rw [escape, run_bind_ok (run_peek _ _)]
  simp only [List.head?_cons]
  rw [run_bind_ok (run_bump_cons _ _ _), unicodeEscape, run_bind_ok (run_hexEscape hc _ _)]
  rw [if_neg (by simp; omega), if_pos (by simp; omega), Char.ofNat_toNat]
  rfl

/-- Reading an escape back gives the character escaped. -/
theorem run_go_escapeChar (c : Char) (t : List Char) (fuel : Nat) (acc : List Char) (o : Nat) :
    ∃ o', (stringBody.go (fuel + 1) acc).run ⟨Json.escapeChar c ++ t, o⟩ =
      (stringBody.go fuel (c :: acc)).run ⟨t, o'⟩ := by
  unfold Json.escapeChar
  split
  all_goals first | exact ⟨_, rfl⟩ | skip
  next hq hb _ _ _ _ _ =>
    split
    · next hc =>
      have hesc := run_escape_control hc t (o + '\\'.utf8Size)
      refine ⟨o + '\\'.utf8Size + 'u'.utf8Size + 4, ?_⟩
      rw [stringBody.go, run_bind_ok (run_peek _ _)]
      simp only [List.cons_append, List.nil_append, List.head?_cons]
      rw [run_bind_ok (run_bump_cons _ _ _), run_bind_ok hesc]
    · next hc =>
      refine ⟨o + c.utf8Size, ?_⟩
      rw [stringBody.go, run_bind_ok (run_peek _ _)]
      simp only [List.cons_append, List.head?_cons]
      split
      · simp_all
      · simp_all
        rfl

theorem length_le_flatMap_escapeChar (l : List Char) :
    l.length ≤ (l.flatMap Json.escapeChar).length := by
  induction l with
  | nil => simp
  | cons c l ih =>
    have hc : 1 ≤ (Json.escapeChar c).length := by
      unfold Json.escapeChar
      split <;> (try split) <;> simp
    simp only [List.flatMap_cons, List.length_append, List.length_cons]
    omega

theorem run_go_escaped (l : List Char) : ∀ (fuel : Nat) (acc : List Char) (o : Nat)
    (rest : List Char), l.length < fuel →
    ∃ o', (stringBody.go fuel acc).run ⟨l.flatMap Json.escapeChar ++ '"' :: rest, o⟩ =
      .ok (String.ofList (acc.reverse ++ l), ⟨rest, o'⟩) := by
  induction l with
  | nil =>
    intro fuel acc o rest hfuel
    obtain ⟨f, rfl⟩ : ∃ f, fuel = f + 1 := ⟨fuel - 1, by simp at hfuel; omega⟩
    exact ⟨_, by simp; rfl⟩
  | cons c l ih =>
    intro fuel acc o rest hfuel
    obtain ⟨f, rfl⟩ : ∃ f, fuel = f + 1 := ⟨fuel - 1, by simp at hfuel; omega⟩
    obtain ⟨o₁, h₁⟩ := run_go_escapeChar c (l.flatMap Json.escapeChar ++ '"' :: rest) f acc o
    obtain ⟨o₂, h₂⟩ := ih f (c :: acc) o₁ rest (by simp at hfuel; omega)
    refine ⟨o₂, ?_⟩
    rw [List.flatMap_cons, List.append_assoc, h₁, h₂]
    simp

/-- A quoted string's body, escapes and all, reads back as the string, whatever follows its
closing quote. -/
theorem run_stringBody (str : String) (rest : List Char) (o : Nat) :
    ∃ o', stringBody.run ⟨str.toList.flatMap Json.escapeChar ++ '"' :: rest, o⟩ =
      .ok (str, ⟨rest, o'⟩) := by
  have hlen := length_le_flatMap_escapeChar str.toList
  obtain ⟨o', h⟩ := run_go_escaped str.toList
    ((str.toList.flatMap Json.escapeChar ++ '"' :: rest).length + 1) [] o rest
    (by simp only [List.length_append, List.length_cons]; omega)
  refine ⟨o', ?_⟩
  rw [stringBody, run_bind_ok (run_get _)]
  simpa using h

theorem run_elements_close (F D : Nat) (first : Bool) (acc : List Json) {b : List Char}
    (hb : ∀ ch ∈ b, isBlank ch = true) (rest : List Char) (o : Nat) :
    (elements (F + 1) D first acc).run ⟨b ++ ']' :: rest, o⟩ =
      .ok (acc.reverse, ⟨']' :: rest, o + b.length⟩) := by
  rw [elements, run_bind_ok (run_skipBlanks_append hb (head_not_blank rfl _) o)]
  rfl

/-- Past a separator, the next item is read with one less fuel. -/
theorem run_elements_next (F D : Nat) (acc : List Json) {b : List Char}
    (hb : ∀ ch ∈ b, isBlank ch = true) (j : Json) (more : List Char) (o : Nat) :
    (elements (F + 1) D false acc).run ⟨b ++ ',' :: ((Json.compact j).toList ++ more), o⟩ =
      (value F D >>= fun item => elements F D false (item :: acc)).run
        ⟨(Json.compact j).toList ++ more, o + b.length + ','.utf8Size⟩ := by
  obtain ⟨c, t, hct, hblank, hclose, -, -⟩ := Json.compact_head j
  rw [hct, elements, run_bind_ok (run_skipBlanks_append hb (head_not_blank rfl _) o)]
  dsimp only [List.head?_cons]
  split
  · contradiction
  · simp only [Bool.false_eq_true, if_false]
    rw [run_bind_ok (run_bump_cons _ _ _), List.cons_append,
      run_bind_ok (run_skipBlanks_cons hblank _ _), run_bind_ok (run_pure _ _)]
    split
    · contradiction
    · next heq => exact absurd (by simpa using heq) hclose
    · next heq => simp at heq
    · rfl
  · rename_i _ hsep heq
    cases heq
    exact absurd rfl hsep
  · contradiction

/-- The first item is read where the array opens. -/
theorem run_elements_first (F D : Nat) (j : Json) (more : List Char) (o : Nat) :
    (elements (F + 1) D true []).run ⟨(Json.compact j).toList ++ more, o⟩ =
      (value F D >>= fun item => elements F D false [item]).run ⟨(Json.compact j).toList ++ more, o⟩ := by
  obtain ⟨c, t, hct, hblank, hclose, -, hcomma⟩ := Json.compact_head j
  rw [hct, List.cons_append, elements, run_bind_ok (run_skipBlanks_cons hblank _ _)]
  dsimp only [List.head?_cons]
  split
  · next heq => exact absurd (Option.some.inj heq) hclose
  · next heq => exact absurd (Option.some.inj heq) hcomma
  · rename_i _ _ heq₀
    cases heq₀
    simp only [if_true]
    rw [run_bind_ok (run_pure _ _)]
    split
    · contradiction
    · next heq => exact absurd (by simpa using heq) hclose
    · next heq => simp at heq
    · rfl
  · contradiction

theorem run_members_close (F D : Nat) (first : Bool) (acc : List (String × Json))
    {b : List Char} (hb : ∀ ch ∈ b, isBlank ch = true) (rest : List Char) (o : Nat) :
    (members (F + 1) D first acc).run ⟨b ++ '\x7d' :: rest, o⟩ =
      .ok (acc.reverse, ⟨'\x7d' :: rest, o + b.length⟩) := by
  rw [members, run_bind_ok (run_skipBlanks_append hb (head_not_blank rfl _) o)]
  rfl

/-- Past a separator, the next member is read: its key, its colon, then its value with one
less fuel. -/
theorem run_members_next (F D : Nat) (acc : List (String × Json)) {b : List Char}
    (hb : ∀ ch ∈ b, isBlank ch = true) (k : String) (more : List Char) (o : Nat) :
    ∃ o', (members (F + 1) D false acc).run
        ⟨b ++ ',' :: ((Json.quote k).toList ++ ':' :: more), o⟩ =
      (value F D >>= fun item => members F D false ((k, item) :: acc)).run ⟨more, o'⟩ := by
  obtain ⟨o₁, hkey⟩ := run_stringBody k (':' :: more) (o + b.length + ','.utf8Size + '"'.utf8Size)
  have htext : (Json.quote k).toList ++ ':' :: more =
      '"' :: (k.toList.flatMap Json.escapeChar ++ '"' :: ':' :: more) := by
    simp [Json.toList_quote]
  refine ⟨o₁ + ':'.utf8Size, ?_⟩
  rw [htext, members, run_bind_ok (run_skipBlanks_append hb (head_not_blank rfl _) o)]
  dsimp only [List.head?_cons]
  split
  · contradiction
  · simp only [Bool.false_eq_true, if_false]
    rw [run_bind_ok (run_bump_cons _ _ _), run_bind_ok (run_skipBlanks_cons rfl _ _),
      run_bind_ok (run_pure _ _)]
    split
    · contradiction
    · rw [run_bind_ok (run_bump_cons _ _ _), run_bind_ok hkey,
        run_bind_ok (run_skipBlanks_cons rfl _ _)]
      rfl
    · next heq => simp at heq
    · rename_i hkey' _ heq
      cases heq
      exact absurd rfl hkey'
    · next heq => simp at heq
  · rename_i _ hsep heq
    cases heq
    exact absurd rfl hsep
  · contradiction

/-- The first member is read where the object opens. -/
theorem run_members_first (F D : Nat) (k : String) (more : List Char) (o : Nat) :
    ∃ o', (members (F + 1) D true []).run ⟨(Json.quote k).toList ++ ':' :: more, o⟩ =
      (value F D >>= fun item => members F D false [(k, item)]).run ⟨more, o'⟩ := by
  obtain ⟨o₁, hkey⟩ := run_stringBody k (':' :: more) (o + '"'.utf8Size)
  have htext : (Json.quote k).toList ++ ':' :: more =
      '"' :: (k.toList.flatMap Json.escapeChar ++ '"' :: ':' :: more) := by
    simp [Json.toList_quote]
  refine ⟨o₁ + ':'.utf8Size, ?_⟩
  rw [htext, members, run_bind_ok (run_skipBlanks_cons rfl _ _)]
  dsimp only [List.head?_cons]
  split
  · next heq => simp at heq
  · next heq => simp at heq
  · rename_i _ _ heq₀
    cases heq₀
    simp only [if_true]
    rw [run_bind_ok (run_pure _ _)]
    split
    · contradiction
    · rw [run_bind_ok (run_bump_cons _ _ _), run_bind_ok hkey,
        run_bind_ok (run_skipBlanks_cons rfl _ _)]
      rfl
    · next heq => simp at heq
    · rename_i hquote _ heq
      cases heq
      exact absurd rfl hquote
    · next heq => simp at heq
  · contradiction

/-- A tree that `value` reads back from its compact text when left at most `D` levels of
nesting and fuel for the text, whatever may follow the text: it comes back with its
floating-point numbers reread, and at most some blanks are left before what follows. -/
def ReadsBack (D : Nat) (j : Json) : Prop :=
  ∀ F o rest, (Json.compact j).toList.length ≤ F → Follows rest →
    ∃ b o', (∀ ch ∈ b, isBlank ch = true) ∧
      (value F D).run ⟨(Json.compact j).toList ++ rest, o⟩ =
        .ok (j.mapFloats Number.reread, ⟨b ++ rest, o'⟩)

/-- A compact text is never empty, so reading it takes some fuel. -/
theorem exists_fuel_succ {j : Json} {F : Nat} (hF : (Json.compact j).toList.length ≤ F) :
    ∃ F', F = F' + 1 := by
  obtain ⟨c, t, hct, -⟩ := Json.compact_head j
  rw [hct, List.length_cons] at hF
  exact ⟨F - 1, by omega⟩

theorem readsBack_null (D : Nat) : ReadsBack D .null := by
  intro F o rest hF _
  obtain ⟨F, rfl⟩ := exists_fuel_succ hF
  exact ⟨[], _, by simp, rfl⟩

theorem readsBack_bool (D : Nat) (b : Bool) : ReadsBack D (.bool b) := by
  intro F o rest hF _
  obtain ⟨F, rfl⟩ := exists_fuel_succ hF
  cases b <;> exact ⟨[], _, by simp, rfl⟩

theorem run_value_quote (F D : Nat) (t : List Char) (o : Nat) :
    (value (F + 1) D).run ⟨'"' :: t, o⟩ =
      (bump >>= fun _ => stringBody >>= fun s => pure (Json.string s)).run ⟨'"' :: t, o⟩ := by
  rw [value, run_bind_ok (run_skipBlanks_cons rfl _ _)]
  rfl

theorem readsBack_string (D : Nat) (str : String) : ReadsBack D (.string str) := by
  intro F o rest hF _
  obtain ⟨F, rfl⟩ := exists_fuel_succ hF
  obtain ⟨o', hbody⟩ := run_stringBody str rest (o + '"'.utf8Size)
  refine ⟨[], o', by simp, ?_⟩
  rw [show (Json.compact (.string str)).toList ++ rest =
      '"' :: (str.toList.flatMap Json.escapeChar ++ '"' :: rest) by simp [Json.compact,
        Json.toList_quote],
    run_value_quote, run_bind_ok (run_bump_cons _ _ _), run_bind_ok hbody]
  rfl

/-- An array whose items were read up to its closing bracket. -/
theorem run_value_array {F D : Nat} (hD : 1 < D) {t : List Char} {o : Nat} {items : List Json}
    {o₁ : Nat} {rest : List Char}
    (h : (elements F (D - 1) true []).run ⟨t, o + '['.utf8Size⟩ = .ok (items, ⟨']' :: rest, o₁⟩)) :
    (value (F + 1) D).run ⟨'[' :: t, o⟩ = .ok (.array items, ⟨rest, o₁ + ']'.utf8Size⟩) := by
  rw [value, run_bind_ok (run_skipBlanks_cons rfl _ _)]
  show StateT.run (if D ≤ 1 then _ else _) _ = _
  rw [if_neg (by omega), run_bind_ok (run_bump_cons _ _ _), run_bind_ok h,
    run_bind_ok (run_skipBlanks_cons rfl _ _)]
  rfl

/-- An object whose members were read up to its closing brace. -/
theorem run_value_object {F D : Nat} (hD : 1 < D) {t : List Char} {o : Nat}
    {fields : List (String × Json)} {o₁ : Nat} {rest : List Char}
    (h : (members F (D - 1) true []).run ⟨t, o + '\x7b'.utf8Size⟩ =
      .ok (fields, ⟨'\x7d' :: rest, o₁⟩)) :
    (value (F + 1) D).run ⟨'\x7b' :: t, o⟩ = .ok (.object fields, ⟨rest, o₁ + '\x7d'.utf8Size⟩) := by
  rw [value, run_bind_ok (run_skipBlanks_cons rfl _ _)]
  show StateT.run (if D ≤ 1 then _ else _) _ = _
  rw [if_neg (by omega), run_bind_ok (run_bump_cons _ _ _), run_bind_ok h,
    run_bind_ok (run_skipBlanks_cons rfl _ _)]
  rfl

theorem follows_sep (l : List α) (f : α → List Char) {c : Char} (hc : c = ']' ∨ c = '\x7d')
    (rest : List Char) : Follows ((l.flatMap fun a => ',' :: f a) ++ c :: rest) := by
  cases l with
  | nil => exact Json.follows_cons (.inr hc) rest
  | cons a l => exact Json.follows_cons (.inl rfl) _

/-- The items after the first, each behind its separator, up to the closing bracket; the
invariant is that the fuel left exceeds the text left of them. -/
theorem run_elements_loop (D : Nat) (rest : List Char) :
    ∀ (l acc : List Json) (F o : Nat) (b : List Char), (∀ j ∈ l, ReadsBack D j) →
      (∀ ch ∈ b, isBlank ch = true) →
      (l.flatMap fun j => ',' :: (Json.compact j).toList).length < F →
      ∃ o', (elements F D false acc).run
          ⟨b ++ ((l.flatMap fun j => ',' :: (Json.compact j).toList) ++ ']' :: rest), o⟩ =
        .ok (acc.reverse ++ l.map (Json.mapFloats Number.reread), ⟨']' :: rest, o'⟩)
  | [], acc, F, o, b, _, hb, hF => by
    obtain ⟨F, rfl⟩ : ∃ F', F = F' + 1 := ⟨F - 1, by simp at hF; omega⟩
    exact ⟨_, by simpa using run_elements_close F D false acc hb rest o⟩
  | j :: l, acc, F, o, b, hl, hb, hF => by
    obtain ⟨F, rfl⟩ : ∃ F', F = F' + 1 := ⟨F - 1, by omega⟩
    simp only [List.flatMap_cons, List.length_append, List.length_cons] at hF
    obtain ⟨b', o₁, hb', hj⟩ := hl j List.mem_cons_self F (o + b.length + ','.utf8Size)
      ((l.flatMap fun j => ',' :: (Json.compact j).toList) ++ ']' :: rest) (by omega)
      (follows_sep l _ (.inl rfl) rest)
    obtain ⟨o₂, hloop⟩ := run_elements_loop D rest l (j.mapFloats Number.reread :: acc) F o₁ b'
      (fun k hk => hl k (List.mem_cons_of_mem _ hk)) hb' (by omega)
    refine ⟨o₂, ?_⟩
    simp only [List.flatMap_cons, List.cons_append, List.append_assoc]
    rw [run_elements_next F D acc hb, run_bind_ok hj, hloop]
    simp

/-- The members after the first, each behind its separator, up to the closing brace; the
invariant is that the fuel left exceeds the text left of them. -/
theorem run_members_loop (D : Nat) (rest : List Char) :
    ∀ (l acc : List (String × Json)) (F o : Nat) (b : List Char), (∀ p ∈ l, ReadsBack D p.2) →
      (∀ ch ∈ b, isBlank ch = true) →
      (l.flatMap fun p => ',' :: ((Json.quote p.1).toList ++ ':' :: (Json.compact p.2).toList)).length <
        F →
      ∃ o', (members F D false acc).run
          ⟨b ++ ((l.flatMap fun p => ',' :: ((Json.quote p.1).toList ++ ':' ::
            (Json.compact p.2).toList)) ++ '\x7d' :: rest), o⟩ =
        .ok (acc.reverse ++ l.map (fun p => (p.1, p.2.mapFloats Number.reread)),
          ⟨'\x7d' :: rest, o'⟩)
  | [], acc, F, o, b, _, hb, hF => by
    obtain ⟨F, rfl⟩ : ∃ F', F = F' + 1 := ⟨F - 1, by simp at hF; omega⟩
    exact ⟨_, by simpa using run_members_close F D false acc hb rest o⟩
  | (k, v) :: l, acc, F, o, b, hl, hb, hF => by
    obtain ⟨F, rfl⟩ : ∃ F', F = F' + 1 := ⟨F - 1, by omega⟩
    simp only [List.flatMap_cons, List.length_append, List.length_cons] at hF
    obtain ⟨o₁, hnext⟩ := run_members_next F D acc hb k ((Json.compact v).toList ++
      ((l.flatMap fun p => ',' :: ((Json.quote p.1).toList ++ ':' :: (Json.compact p.2).toList)) ++
        '\x7d' :: rest)) o
    obtain ⟨b', o₂, hb', hv⟩ := hl (k, v) List.mem_cons_self F o₁ _
      (by show (Json.compact v).toList.length ≤ F; omega) (follows_sep l _ (.inr rfl) rest)
    obtain ⟨o₃, hloop⟩ := run_members_loop D rest l ((k, v.mapFloats Number.reread) :: acc) F o₂ b'
      (fun q hq => hl q (List.mem_cons_of_mem _ hq)) hb' (by omega)
    refine ⟨o₃, ?_⟩
    simp only [List.flatMap_cons, List.cons_append, List.append_assoc] at hnext ⊢
    rw [hnext, run_bind_ok hv, hloop]
    simp

theorem readsBack_array {D : Nat} {items : List Json} (hD : 1 < D)
    (h : ∀ j ∈ items, ReadsBack (D - 1) j) : ReadsBack D (.array items) := by
  intro F o rest hF _
  obtain ⟨F, rfl⟩ := exists_fuel_succ hF
  rw [Json.toList_compact_array] at hF ⊢
  simp only [List.length_cons, List.length_append] at hF
  obtain ⟨o₁, helems⟩ : ∃ o₁, (elements F (D - 1) true []).run
      ⟨(Json.compactList items).toList ++ ']' :: rest, o + '['.utf8Size⟩ =
        .ok (items.map (Json.mapFloats Number.reread), ⟨']' :: rest, o₁⟩) := by
    cases items with
    | nil =>
      obtain ⟨F, rfl⟩ : ∃ F', F = F' + 1 := ⟨F - 1, by simp [Json.compactList] at hF; omega⟩
      exact ⟨_, @run_elements_close F (D - 1) true [] [] (by simp) rest _⟩
    | cons j l =>
      rw [Json.toList_compactList_cons_flatMap] at hF ⊢
      simp only [List.length_append] at hF
      obtain ⟨F, rfl⟩ : ∃ F', F = F' + 1 := ⟨F - 1, by omega⟩
      obtain ⟨b, o₂, hb, hj⟩ := h j List.mem_cons_self F (o + '['.utf8Size)
        ((l.flatMap fun k => ',' :: (Json.compact k).toList) ++ ']' :: rest) (by omega)
        (follows_sep l _ (.inl rfl) rest)
      have hpos := exists_fuel_succ (j := j) (le_refl _)
      obtain ⟨o₃, hloop⟩ := run_elements_loop (D - 1) rest l [j.mapFloats Number.reread] F o₂ b
        (fun k hk => h k (List.mem_cons_of_mem _ hk)) hb (by obtain ⟨n, hn⟩ := hpos; omega)
      refine ⟨o₃, ?_⟩
      rw [List.append_assoc, run_elements_first, run_bind_ok hj, hloop]
      simp
  refine ⟨[], o₁ + ']'.utf8Size, by simp, ?_⟩
  simp only [Json.mapFloats_array, List.cons_append, List.append_assoc, List.nil_append]
  exact run_value_array hD helems

theorem readsBack_object {D : Nat} {fields : List (String × Json)} (hD : 1 < D)
    (h : ∀ p ∈ fields, ReadsBack (D - 1) p.2) : ReadsBack D (.object fields) := by
  intro F o rest hF _
  obtain ⟨F, rfl⟩ := exists_fuel_succ hF
  rw [Json.toList_compact_object] at hF ⊢
  simp only [List.length_cons, List.length_append] at hF
  obtain ⟨o₁, hmembers⟩ : ∃ o₁, (members F (D - 1) true []).run
      ⟨(Json.compactFields fields).toList ++ '\x7d' :: rest, o + '\x7b'.utf8Size⟩ =
        .ok (fields.map (fun p => (p.1, p.2.mapFloats Number.reread)), ⟨'\x7d' :: rest, o₁⟩) := by
    cases fields with
    | nil =>
      obtain ⟨F, rfl⟩ : ∃ F', F = F' + 1 := ⟨F - 1, by simp [Json.compactFields] at hF; omega⟩
      exact ⟨_, @run_members_close F (D - 1) true [] [] (by simp) rest _⟩
    | cons p l =>
      obtain ⟨k, v⟩ := p
      rw [Json.toList_compactFields_cons_flatMap] at hF ⊢
      simp only [List.length_append, List.length_cons] at hF
      obtain ⟨F, rfl⟩ : ∃ F', F = F' + 1 := ⟨F - 1, by omega⟩
      obtain ⟨o₂, hfirst⟩ := run_members_first F (D - 1) k ((Json.compact v).toList ++
        ((l.flatMap fun q => ',' :: ((Json.quote q.1).toList ++ ':' :: (Json.compact q.2).toList)) ++
          '\x7d' :: rest)) (o + '\x7b'.utf8Size)
      obtain ⟨b, o₃, hb, hv⟩ := h (k, v) List.mem_cons_self F o₂ _
        (by show (Json.compact v).toList.length ≤ F; omega) (follows_sep l _ (.inr rfl) rest)
      have hpos := exists_fuel_succ (j := v) (le_refl _)
      obtain ⟨o₄, hloop⟩ := run_members_loop (D - 1) rest l [(k, v.mapFloats Number.reread)] F o₃
        b (fun q hq => h q (List.mem_cons_of_mem _ hq)) hb (by obtain ⟨n, hn⟩ := hpos; omega)
      refine ⟨o₄, ?_⟩
      simp only [List.cons_append, List.append_assoc] at hfirst ⊢
      rw [hfirst, run_bind_ok hv, hloop]
      simp
  refine ⟨[], o₁ + '\x7d'.utf8Size, by simp, ?_⟩
  simp only [Json.mapFloats_object, List.cons_append, List.append_assoc, List.nil_append]
  exact run_value_object hD hmembers

theorem readsBack_number {n : Number} (hn : n.Fits) (D : Nat) : ReadsBack D (.number n) := by
  intro F o rest hF hrest
  obtain ⟨F, rfl⟩ := exists_fuel_succ hF
  exact value_number hn F D o hrest

/-- Every tree whose numbers fit reads back from its compact text, when the reader allows its
nesting; by induction over the tree, items and members by the loops above. -/
theorem readsBack : ∀ j : Json, (∀ n ∈ j.numbers, n.Fits) → ∀ D, j.depth < D → ReadsBack D j := by
  intro j
  induction j using Json.induction_members with
  | null => exact fun _ D _ => readsBack_null D
  | bool b => exact fun _ D _ => readsBack_bool D b
  | number n => exact fun hn D _ => readsBack_number (hn n (by simp)) D
  | string s => exact fun _ D _ => readsBack_string D s
  | array items ih =>
    intro hn D hD
    simp only [Json.depth] at hD
    refine readsBack_array (by omega) fun j hj => ih j hj (fun n hnj => hn n ?_) _ ?_
    · rw [Json.numbers_array]
      exact List.mem_flatMap.mpr ⟨j, hj, hnj⟩
    · have := Json.depth_le_depthList hj
      omega
  | object fields ih =>
    intro hn D hD
    simp only [Json.depth] at hD
    refine readsBack_object (by omega) fun p hp => ih p hp (fun n hnp => hn n ?_) _ ?_
    · rw [Json.numbers_object]
      exact List.mem_flatMap.mpr ⟨p, hp, hnp⟩
    · have := Json.depth_le_depthFields hp
      omega

end Reader

open Reader in
/-- The compact text of a tree whose numbers fit and whose arrays and objects nest less than
128 levels deep reads back as the tree, each floating-point number replaced by what its own
text reads as. -/
theorem Json.read_compact {j : Json} (hn : ∀ n ∈ j.numbers, n.Fits) (hdepth : j.depth < 128) :
    Json.read j.compact = .ok (j.mapFloats Number.reread) := by
  obtain ⟨b, o', hb, hv⟩ := readsBack j hn 128 hdepth (2 * j.compact.toList.length + 4) 0 []
    (by omega) Json.follows_nil
  simp only [List.append_nil] at hv
  unfold Json.read
  dsimp only
  have hskip : skipBlanks.run ⟨b, o'⟩ = .ok (none, ⟨[], o' + b.length⟩) := by
    simpa using @run_skipBlanks_append b [] hb (by simp) o'
  rw [run_bind_ok hv, run_bind_ok hskip]
  rfl

end SessionSquash
