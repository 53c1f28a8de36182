import SessionSquash.Log.Line
import SessionSquash.Proofs.Json.Compact

namespace SessionSquash

set_option autoImplicit false

/-- Text with no control character: every character is a space or above. -/
def NoControl (cs : List Char) : Prop := ∀ c ∈ cs, 32 ≤ c.toNat

namespace NoControl

@[simp] theorem nil : NoControl [] := fun _ h => by cases h

@[simp] theorem cons_iff {c : Char} {cs : List Char} :
    NoControl (c :: cs) ↔ 32 ≤ c.toNat ∧ NoControl cs := List.forall_mem_cons

@[simp] theorem append_iff {a b : List Char} : NoControl (a ++ b) ↔ NoControl a ∧ NoControl b :=
  List.forall_mem_append

theorem take {cs : List Char} (h : NoControl cs) (n : Nat) : NoControl (cs.take n) :=
  fun c hc => h c (List.mem_of_mem_take hc)

theorem drop {cs : List Char} (h : NoControl cs) (n : Nat) : NoControl (cs.drop n) :=
  fun c hc => h c (List.mem_of_mem_drop hc)

theorem not_mem {cs : List Char} (h : NoControl cs) {c : Char} (hc : c.toNat < 32) : c ∉ cs :=
  fun hm => absurd (h c hm) (by omega)

end NoControl

theorem noControl_toDigits (n : Nat) : NoControl (Nat.toDigits 10 n) := by
  intro c hc
  have := Json.isDigit_of_mem_toDigits hc
  simp only [Char.isDigit, Bool.and_eq_true, decide_eq_true_eq] at this
  have h48 : (48 : UInt32) ≤ c.val := this.1
  rw [UInt32.le_iff_toNat_le] at h48
  exact Nat.le_trans (by decide) h48

theorem noControl_toString_nat (n : Nat) : NoControl (toString n).toList := by
  simpa using noControl_toDigits n

theorem noControl_zeros (n : Nat) : NoControl (FloatStyle.zeros n).toList := by
  intro c hc
  simp only [FloatStyle.zeros, String.toList_ofList, List.mem_replicate] at hc
  rw [hc.2]
  decide

/-- A finite float is written with digits, a sign, a point and an exponent. -/
theorem noControl_render (style : FloatStyle) (negative : Bool) (m : Nat) (q : Int) :
    NoControl (style.render negative m q).toList := by
  unfold FloatStyle.render
  have hd := noControl_toString_nat (style.format.shortest m q).1
  dsimp only
  generalize toString (style.format.shortest m q).1 = digits at hd ⊢
  have htail : NoControl digits.toList.tail := by simpa using hd.drop 1
  split_ifs <;> simp [hd, htail, hd.take, hd.drop, noControl_zeros, noControl_toDigits]

theorem noControl_toString_int (i : Int) : NoControl (toString i).toList := by
  cases i with
  | ofNat n => simpa [toString, Int.repr] using noControl_toDigits n
  | negSucc n => simpa [toString, Int.repr] using noControl_toDigits (n + 1)

theorem noControl_render_double (x : Binary64) : NoControl x.render.toList := by
  unfold Binary64.render
  generalize x.value = v
  cases v with
  | finite s m q => exact noControl_render _ _ _ _
  | infinite => simp
  | nan => simp

theorem noControl_render_single (x : Binary32) : NoControl x.render.toList := by
  unfold Binary32.render
  generalize x.value = v
  cases v with
  | finite s m q => exact noControl_render _ _ _ _
  | infinite => simp
  | nan => simp

theorem noControl_render_number (n : Number) : NoControl n.render.toList := by
  cases n with
  | nat n => exact noControl_toString_nat n
  | negInt n => exact noControl_toString_int n
  | double x => exact noControl_render_double x
  | single x => exact noControl_render_single x

namespace Json

theorem hexDigit_ge : ∀ n < 16, 32 ≤ (hexDigit n).toNat := by decide

/-- An escaped character is never a control character: a control character is written as a
backslash and letters or hexadecimal digits. -/
theorem noControl_escapeChar (c : Char) : NoControl (escapeChar c) := by
  unfold escapeChar
  split
  case h_8 =>
    split
    · next hc =>
      have h₁ := hexDigit_ge (c.toNat / 16) (by omega)
      have h₂ := hexDigit_ge (c.toNat % 16) (by omega)
      simp [h₁, h₂]
    · next hc => simpa using hc
  all_goals simp

theorem noControl_quote (s : String) : NoControl (quote s).toList := by
  rw [toList_quote]
  simp only [NoControl.cons_iff, NoControl.append_iff]
  refine ⟨by decide, fun c hc => ?_, by simp⟩
  obtain ⟨d, -, hd⟩ := List.mem_flatMap.mp hc
  exact noControl_escapeChar d c hd

theorem noControl_compactList {items : List Json}
    (h : ∀ j ∈ items, NoControl (compact j).toList) : NoControl (compactList items).toList := by
  induction items with
  | nil => simp [compactList]
  | cons j rest ih =>
    cases rest with
    | nil => simpa [compactList] using h j List.mem_cons_self
    | cons k rest =>
      rw [toList_compactList_cons_cons]
      simp only [NoControl.append_iff, NoControl.cons_iff]
      exact ⟨h j List.mem_cons_self, by decide,
        ih fun x hx => h x (List.mem_cons_of_mem _ hx)⟩

theorem noControl_compactFields {fields : List (String × Json)}
    (h : ∀ p ∈ fields, NoControl (compact p.2).toList) :
    NoControl (compactFields fields).toList := by
  induction fields with
  | nil => simp [compactFields]
  | cons p rest ih =>
    obtain ⟨k, j⟩ := p
    have hj := h (k, j) List.mem_cons_self
    cases rest with
    | nil =>
      rw [toList_compactFields_one]
      simp only [NoControl.append_iff, NoControl.cons_iff]
      exact ⟨noControl_quote k, by decide, hj⟩
    | cons q rest =>
      rw [toList_compactFields_cons_cons]
      simp only [NoControl.append_iff, NoControl.cons_iff]
      exact ⟨noControl_quote k, by decide, hj, by decide,
        ih fun x hx => h x (List.mem_cons_of_mem _ hx)⟩

/-- No compact JSON text holds a control character. -/
theorem noControl_compact (j : Json) : NoControl (compact j).toList := by
  induction j using induction_members with
  | null => simp [compact]
  | bool b => cases b <;> simp [compact]
  | number n => simpa [compact] using noControl_render_number n
  | string s => simpa [compact] using noControl_quote s
  | array items ih =>
    rw [toList_compact_array]
    simp only [NoControl.cons_iff, NoControl.append_iff]
    exact ⟨by decide, noControl_compactList ih, by simp⟩
  | object fields ih =>
    rw [toList_compact_object]
    simp only [NoControl.cons_iff, NoControl.append_iff]
    exact ⟨by decide, noControl_compactFields ih, by simp⟩

end Json

/-- Text that cannot break a line into fields: no tab, line feed or carriage return. -/
def FieldText (cs : List Char) : Prop := '\t' ∉ cs ∧ '\n' ∉ cs ∧ '\r' ∉ cs

theorem NoControl.fieldText {cs : List Char} (h : NoControl cs) : FieldText cs :=
  ⟨h.not_mem (by decide), h.not_mem (by decide), h.not_mem (by decide)⟩

theorem RecordKind.fieldText_name (k : RecordKind) : FieldText k.name.toList := by
  unfold FieldText
  cases k <;> simp [RecordKind.name]

/-- Three fields joined by tabs hold the two tabs and the line breaks of the fields. -/
theorem FieldText.join {a b c : List Char} (ha : FieldText a) (hb : FieldText b)
    (hc : FieldText c) :
    '\n' ∉ a ++ '\t' :: (b ++ '\t' :: c) ∧ '\r' ∉ a ++ '\t' :: (b ++ '\t' :: c) ∧
      (a ++ '\t' :: (b ++ '\t' :: c)).count '\t' = 2 := by
  obtain ⟨ha₁, ha₂, ha₃⟩ := ha
  obtain ⟨hb₁, hb₂, hb₃⟩ := hb
  obtain ⟨hc₁, hc₂, hc₃⟩ := hc
  refine ⟨by simp [ha₂, hb₂, hc₂], by simp [ha₃, hb₃, hc₃], ?_⟩
  simp [List.count_eq_zero_of_not_mem ha₁, List.count_eq_zero_of_not_mem hb₁,
    List.count_eq_zero_of_not_mem hc₁]

namespace RecordLog

theorem toList_lineOf (r : TimedRecord) :
    (lineOf r).toList = (toString r.time.toInt).toList ++
      '\t' :: (r.record.kind.name.toList ++ '\t' :: r.record.toJson.compact.toList) := by
  simp [lineOf, toString]

/-- The JSON text of a payload holds no line feed, so its line is never refused. -/
theorem toLogLine_eq_ok (r : TimedRecord) : toLogLine r = .ok (lineOf r) := by
  have h : '\n' ∉ r.record.toJson.compact.toList :=
    (Json.noControl_compact r.record.toJson).not_mem (by decide)
  simp [toLogLine, h]

theorem foldlM_writeLine (records : List TimedRecord) (out : String) :
    records.foldlM (fun out r => (out ++ ·) <$> writeLine r) out =
      .ok (out ++ String.join (records.map fun r => lineOf r ++ "\n")) := by
  induction records generalizing out with
  | nil => simp [pure, Except.pure]
  | cons r rest ih =>
    have hline : writeLine r = .ok (lineOf r ++ "\n") := by
      rw [writeLine, toLogLine_eq_ok]
      rfl
    rw [List.foldlM_cons, hline]
    refine (ih (out ++ (lineOf r ++ "\n"))).trans ?_
    simp [String.append_assoc]

/-- Writing a log never fails: it is the header, then each record's line and a line feed. -/
theorem write_eq_ok (records : List TimedRecord) :
    write records = .ok (header ++ String.join (records.map fun r => lineOf r ++ "\n")) :=
  foldlM_writeLine records header

/-- Every record is written, on one line of three fields: its decimal time, its kind's dotted
name and its payload's compact JSON, none of which holds a tab, a line feed or a carriage
return; and a whole log is always written. -/
theorem log_line_three_fields (r : TimedRecord) (records : List TimedRecord) :
    toLogLine r = .ok (lineOf r) ∧
      write records = .ok (header ++ String.join (records.map fun x => lineOf x ++ "\n")) ∧
      (lineOf r).toList = (toString r.time.toInt).toList ++
        '\t' :: (r.record.kind.name.toList ++ '\t' :: r.record.toJson.compact.toList) ∧
      FieldText (toString r.time.toInt).toList ∧ FieldText r.record.kind.name.toList ∧
      FieldText r.record.toJson.compact.toList ∧
      '\n' ∉ (lineOf r).toList ∧ '\r' ∉ (lineOf r).toList ∧ (lineOf r).toList.count '\t' = 2 := by
  have htime := (noControl_toString_int r.time.toInt).fieldText
  have hname := r.record.kind.fieldText_name
  have hdata := (Json.noControl_compact r.record.toJson).fieldText
  rw [toList_lineOf]
  exact ⟨toLogLine_eq_ok r, write_eq_ok records, rfl, htime, hname, hdata,
    FieldText.join htime hname hdata⟩

end RecordLog

end SessionSquash
