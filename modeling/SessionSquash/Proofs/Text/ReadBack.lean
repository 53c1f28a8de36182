import Mathlib
import SessionSquash.Text.Space

namespace SessionSquash

set_option autoImplicit false

open String

theorem get_singleton_zero (c : Char) : Pos.Raw.get (String.singleton c) 0 = c := by
  rw [singleton_eq_ofList]
  exact get_of_valid [] [c]

theorem next_singleton_zero (c : Char) :
    Pos.Raw.next (String.singleton c) 0 = ⟨c.utf8Size⟩ := by
  simpa using next_of_valid [] c []

theorem rawEndPos_singleton (c : Char) : (String.singleton c).rawEndPos = ⟨c.utf8Size⟩ := by
  rw [singleton_eq_ofList, rawEndPos_ofList, utf8Len_cons, utf8Len_nil, Nat.zero_add]

/-- The splitting loop at a one-character separator, from a piece `m` begun after the text `l`,
splits the rest `r` as `List.splitOn` does. -/
theorem splitOnAux_singleton (c : Char) :
    ∀ (r l m : List Char) (acc : List String),
      splitOnAux (ofList (l ++ m ++ r)) (String.singleton c) ⟨utf8Len l⟩
          ⟨utf8Len l + utf8Len m⟩ 0 acc =
        acc.reverse ++ (List.splitOnPPrepend (· == c) r m.reverse).map ofList
  | [], l, m, acc => by
    rw [splitOnAux]
    simp only [List.append_nil, atEnd_iff, rawEndPos_ofList, utf8Len_append, Pos.Raw.mk_le_mk,
      le_refl, if_true]
    simpa [-ofList_append] using extract_of_valid l m []
  | d :: r, l, m, acc => by
    rw [splitOnAux]
    have hget := get_of_valid (l ++ m) (d :: r)
    have hnext := next_of_valid (l ++ m) d r
    have hextract := extract_of_valid l m (d :: r)
    simp only [List.append_assoc, utf8Len_append] at hget hnext hextract
    simp only [List.append_assoc, atEnd_iff, rawEndPos_ofList, utf8Len_append, utf8Len_cons,
      Pos.Raw.mk_le_mk, hget, hnext, get_singleton_zero, next_singleton_zero, rawEndPos_singleton,
      List.headD_cons, Pos.Raw.unoffsetBy_zero, le_refl, if_true]
    rw [if_neg (by have := d.utf8Size_pos; omega)]
    by_cases h : d = c
    · subst h
      have hrest := splitOnAux_singleton d r (l ++ m ++ [d]) [] (ofList m :: acc)
      simp only [List.append_assoc, List.singleton_append, utf8Len_append,
        utf8Len_cons, utf8Len_nil, Nat.zero_add, Nat.add_zero, List.reverse_nil] at hrest
      have hback : ({ byteIdx := utf8Len l + utf8Len m + d.utf8Size } : Pos.Raw).unoffsetBy
          ⟨d.utf8Size⟩ = ⟨utf8Len l + utf8Len m⟩ := by
        ext
        simp [Pos.Raw.byteIdx_unoffsetBy]
      simp only [beq_self_eq_true, if_true, hback, hextract]
      rw [Nat.add_assoc, hrest, List.splitOnPPrepend_cons_pos (by simp)]
      simp
    · have hrest := splitOnAux_singleton c r l (m ++ [d]) acc
      simp only [List.append_assoc, List.singleton_append, utf8Len_append, utf8Len_cons,
        utf8Len_nil, Nat.zero_add] at hrest
      have hne : (d == c) = false := by simpa using h
      simp only [hne, Bool.false_eq_true, if_false]
      rw [Nat.add_assoc, hrest, List.splitOnPPrepend_cons_neg (p := fun x => x == c) hne]
      simp

theorem splitOn_singleton (s : String) (c : Char) :
    s.splitOn (String.singleton c) = (s.toList.splitOn c).map ofList := by
  have hsep : (String.singleton c == "") = false := by
    simp [← String.toList_inj]
  have h := splitOnAux_singleton c s.toList [] [] []
  simp only [List.nil_append, ofList_toList, utf8Len_nil, Nat.add_zero, List.reverse_nil] at h
  rw [String.splitOn, hsep, if_neg Bool.false_ne_true, List.splitOn_eq_splitOnP,
    List.splitOnP_eq_splitOnPPrepend]
  exact h

/-- A text made of pieces joined by a character none of them holds splits back into the
pieces. -/
theorem splitOn_of_toList_eq (c : Char) {s : String} {pieces : List String}
    (hs : s.toList = [c].intercalate (pieces.map String.toList))
    (hc : ∀ p ∈ pieces, c ∉ p.toList) (hne : pieces ≠ []) :
    s.splitOn (String.singleton c) = pieces := by
  rw [splitOn_singleton, hs, List.splitOn_intercalate c (by simpa using hc) (by simpa using hne)]
  simp

namespace Text

theorem dropTrailing_of_not_mem {c : Char} {s : String} (h : c ∉ s.toList) :
    dropTrailing c s = s := by
  have hkeep : s.toList.reverse.dropWhile (· == c) = s.toList.reverse := by
    rw [List.dropWhile_eq_self_iff]
    intro hpos hc
    have hmem := List.mem_reverse.mp (List.getElem_mem hpos)
    rw [beq_iff_eq.mp hc] at hmem
    exact h hmem
  rw [dropTrailing, hkeep, List.reverse_reverse, ofList_toList]

theorem dropOneTrailing_of_not_mem {c : Char} {s : String} (h : c ∉ s.toList) :
    dropOneTrailing c s = s := by
  unfold dropOneTrailing
  split
  · next d rest hs =>
    have hd : d ≠ c := by
      rintro rfl
      exact h (List.mem_reverse.mp (by rw [hs]; exact List.mem_cons_self))
    simp [hd]
  · rfl

/-- A text with a character that is not blank trims to a text that is not empty. -/
theorem trim_isEmpty_eq_false {s : String} {c : Char} (hc : c ∈ s.toList)
    (hb : isBlank c = false) : (trim s).isEmpty = false := by
  have hstart : s.toList.dropWhile isBlank ≠ [] := by
    rw [Ne, List.dropWhile_eq_nil_iff]
    exact fun hall => by simp [hall c hc] at hb
  have hend : (s.toList.dropWhile isBlank).reverse.dropWhile isBlank ≠ [] := by
    rw [Ne, List.dropWhile_eq_nil_iff]
    intro hall
    have hhead := List.head_dropWhile_not isBlank hstart
    rw [hall _ (List.mem_reverse.mpr (List.head_mem hstart))] at hhead
    exact Bool.noConfusion hhead
  rw [String.isEmpty_eq_false_iff, Ne, ← String.toList_inj]
  simpa [trim, trimStart, trimEnd] using hend

theorem toList_join_lines (ls : List String) :
    (String.join (ls.map (· ++ "\n"))).toList =
      ['\n'].intercalate (ls.map String.toList ++ [[]]) := by
  induction ls with
  | nil => rfl
  | cons l rest ih =>
    rw [List.map_cons, String.join_cons, String.toList_append, ih, List.map_cons, List.cons_append,
      List.intercalate_cons_of_ne_nil (by simp)]
    simp

/-- A text of line-feed-ended lines, none holding a line break, has those lines. -/
theorem lines_join {ls : List String} (h : ∀ l ∈ ls, '\n' ∉ l.toList ∧ '\r' ∉ l.toList) :
    lines (String.join (ls.map (· ++ "\n"))) = ls := by
  have hpieces : (String.join (ls.map (· ++ "\n"))).splitOn "\n" = ls ++ [""] := by
    refine splitOn_of_toList_eq '\n' (by simpa using toList_join_lines ls) ?_ (by simp)
    intro p hp
    rcases List.mem_append.mp hp with hp | hp
    · exact (h p hp).1
    · simp_all
  have hkeep : ls.map (dropOneTrailing '\r') = ls := by
    conv => rhs; rw [← List.map_id ls]
    exact List.map_congr_left fun l hl => dropOneTrailing_of_not_mem (h l hl).2
  simp [lines, hpieces, hkeep]

theorem foldl_digits_toDigits (n : Nat) :
    (Nat.toDigits 10 n).foldl (fun n d => n * 10 + (d.toNat - 48)) 0 = n := by
  have hstep : (fun n d => n * 10 + (d.toNat - 48)) =
      fun sofar (c : Char) => 10 * sofar + (c.toNat - '0'.toNat) := by
    funext n d
    rw [Nat.mul_comm]
    rfl
  rw [hstep, ← Nat.ofDigitChars_eq_foldl, Nat.ofDigitChars_ten_toDigits]

theorem toDigits_head (n : Nat) :
    ∃ d t, Nat.toDigits 10 n = d :: t ∧ d.isDigit = true := by
  obtain ⟨d, t, hdt⟩ := List.exists_cons_of_ne_nil (@Nat.toDigits_ne_nil n 10)
  exact ⟨d, t, hdt, Nat.isDigit_of_mem_toDigits (by decide) (by decide) (hdt ▸ List.mem_cons_self)⟩

theorem digit_ne_sign {d : Char} (hd : d.isDigit = true) : d ≠ '+' ∧ d ≠ '-' := by
  constructor <;> rintro rfl <;> simp at hd

/-- An integer written in decimal reads back as itself. -/
theorem parseInteger_toString (i : Int) : parseInteger true (toString i) = some i := by
  have hall : ∀ n, (Nat.toDigits 10 n).all Char.isDigit = true := fun n =>
    List.all_eq_true.mpr fun c hc => Nat.isDigit_of_mem_toDigits (by decide) (by decide) hc
  cases i with
  | ofNat n =>
    obtain ⟨d, t, hdt, hd⟩ := toDigits_head n
    obtain ⟨hplus, hminus⟩ := digit_ne_sign hd
    have hlist : (toString (Int.ofNat n)).toList = d :: t := by
      simpa [toString, Int.repr] using hdt
    rw [parseInteger, hlist]
    split
    · next negative rest hmatch =>
      split at hmatch
      · simp_all
      · simp_all
      · cases hmatch
        simp [← hdt, hall, foldl_digits_toDigits]
  | negSucc n =>
    have hlist : (toString (Int.negSucc n)).toList = '-' :: Nat.toDigits 10 (n + 1) := by
      simp [toString, Int.repr]
    unfold parseInteger
    rw [hlist]
    simp [hall, foldl_digits_toDigits, Int.negSucc_eq]

/-- A 64-bit integer written in decimal reads back as itself. -/
theorem parseInt64_toString (t : Int64) : parseInt64 (toString t.toInt) = some t := by
  have hlo := Int64.le_toInt t
  have hhi := Int64.toInt_lt t
  rw [parseInt64, parseInteger_toString]
  simp only [Int64.ofInt_toInt]
  rw [if_pos (by simp only [Bool.and_eq_true, decide_eq_true_eq]; exact ⟨hlo, hhi⟩)]

/-- A written integer starts with a digit or a minus sign: neither a blank nor `#`. -/
theorem toString_int_head (i : Int) :
    ∃ d t, (toString i).toList = d :: t ∧ isBlank d = false ∧ d ≠ '#' := by
  cases i with
  | ofNat n =>
    obtain ⟨d, t, hdt, hd⟩ := toDigits_head n
    refine ⟨d, t, by simpa [toString, Int.repr] using hdt, ?_, ?_⟩
    · have hnat : 48 ≤ d.toNat ∧ d.toNat ≤ 57 := Char.isDigit_iff_toNat.mp hd
      simp only [isBlank, Bool.or_eq_false_iff, Bool.and_eq_false_iff, decide_eq_false_iff_not,
        beq_eq_false_iff_ne]
      omega
    · rintro rfl
      simp at hd
  | negSucc n => exact ⟨'-', Nat.toDigits 10 (n + 1), by simp [toString, Int.repr], by decide, by decide⟩

end Text

end SessionSquash
