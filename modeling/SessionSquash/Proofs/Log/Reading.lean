import SessionSquash.Log.Line

namespace SessionSquash

set_option autoImplicit false

namespace RecordLog

/-- Whether a line opens, once leading blanks are dropped, with the header prefix. -/
def opensHeader (line : String) : Bool := (Text.trimStart line).startsWith headerPrefix

/-- What one line yields read on its own: the header line has its version checked, any other line
is read by `parseLine`, and a line naming an unknown kind yields nothing. -/
def lineYield (registry : Registry) (header : Bool) (line : String) :
    Except ParseError (Option TimedRecord) :=
  if header then
    match detectVersion line with
    | .ok _ => .ok none
    | .error m => .error (.versionMismatch m)
  else
    match parseLine registry line with
    | .ok (.record r) => .ok (some r)
    | .ok _ => .ok none
    | .error (.unknownKind _) => .ok none
    | .error e => .error e

/-- Reads the line at index `q.2` of a log whose header line is at `header`: what it yields, or
its fault with the line's number from 1. -/
def readAt (registry : Registry) (header : Option Nat) (q : String × Nat) :
    Except (Nat × ParseError) (Option TimedRecord) :=
  (lineYield registry (header == some q.2) q.1).mapError fun e => (q.2 + 1, e)

/-- Where the loop will meet the header among `lines`, read from index `n` on, once it has met a
header (`checked`) or not. -/
def headerAt (checked : Bool) (lines : List String) (n : Nat) : Option Nat :=
  if checked then none else (lines.findIdx? opensHeader).map (· + n)

/-- The records a run of the reading loop holds, newest first, or the line it stopped at. -/
def recordsOrFault : Parsed × Option (Nat × ParseError) →
    Except (Nat × ParseError) (List TimedRecord)
  | (p, none) => .ok p.records
  | (_, some e) => .error e

/-- The loop reads a line as the header exactly when no header was met and the line opens
with the prefix. -/
theorem headerAt_cons_eq_self (checked : Bool) (l : String) (ls : List String) (n : Nat) :
    (headerAt checked (l :: ls) n == some n) = (!checked && opensHeader l) := by
  cases checked with
  | true => simp [headerAt]
  | false =>
    cases hl : opensHeader l with
    | true => simp [headerAt, List.findIdx?_cons, hl]
    | false =>
      cases hi : ls.findIdx? opensHeader <;> simp [headerAt, List.findIdx?_cons, hl, hi]

/-- Past the line at `n`, the header the loop will meet is the one it meets in the rest. -/
theorem headerAt_cons_of_lt (checked : Bool) (l : String) (ls : List String) {n k : Nat}
    (hk : n < k) :
    (headerAt checked (l :: ls) n == some k) =
      (headerAt (checked || opensHeader l) ls (n + 1) == some k) := by
  cases checked with
  | true => simp [headerAt]
  | false =>
    cases hl : opensHeader l with
    | true => simp [headerAt, List.findIdx?_cons, hl, Nat.ne_of_lt hk]
    | false =>
      cases hi : ls.findIdx? opensHeader with
      | none => simp [headerAt, List.findIdx?_cons, hl, hi]
      | some i => simp [headerAt, List.findIdx?_cons, hl, hi, Nat.add_assoc, Nat.add_comm 1 n]

/-- A line that yields something lets the loop go on, with what it yields added to the records. -/
theorem readLines_cons_of_ok {registry : Registry} {checked : Bool} {p : Parsed} {k : Nat}
    {l : String} {rest : List (Nat × String)} {y : Option TimedRecord}
    (h : lineYield registry (!checked && opensHeader l) l = .ok y) :
    ∃ p' : Parsed, p'.records = y.toList ++ p.records ∧
      readLines registry checked p ((k, l) :: rest) =
        readLines registry (checked || opensHeader l) p' rest := by
  by_cases hh : (!checked && opensHeader l) = true
  · have hif : (!checked && (Text.trimStart l).startsWith headerPrefix) = true := hh
    rw [hh, lineYield, if_pos rfl] at h
    rw [readLines.eq_def]
    dsimp only
    rw [if_pos hif]
    obtain ⟨rfl, hl⟩ : checked = false ∧ opensHeader l = true := by simpa using hh
    rw [hl]
    generalize detectVersion l = res at h ⊢
    rcases res with m | v
    · cases h
    · cases h
      exact ⟨p, rfl, rfl⟩
  · have hkeep : (checked || opensHeader l) = checked := by
      cases checked <;> simp_all
    rw [Bool.not_eq_true] at hh
    have hif : (!checked && (Text.trimStart l).startsWith headerPrefix) = false := hh
    rw [hh, lineYield, if_neg Bool.false_ne_true] at h
    rw [readLines.eq_def]
    dsimp only
    rw [if_neg (by rw [hif]; exact Bool.false_ne_true), hkeep]
    generalize parseLine registry l = res at h ⊢
    rcases res with e | (_ | _ | r)
    · cases e
      case unknownKind kind =>
        cases h
        exact ⟨{ p with skipped := (k, kind) :: p.skipped }, rfl, rfl⟩
      all_goals cases h
    · cases h
      exact ⟨p, rfl, rfl⟩
    · cases h
      exact ⟨p, rfl, rfl⟩
    · cases h
      exact ⟨{ p with records := r :: p.records }, rfl, rfl⟩

/-- A line whose reading fails stops the loop there, with its number and its fault. -/
theorem readLines_cons_of_error {registry : Registry} {checked : Bool} {p : Parsed} {k : Nat}
    {l : String} {rest : List (Nat × String)} {e : ParseError}
    (h : lineYield registry (!checked && opensHeader l) l = .error e) :
    readLines registry checked p ((k, l) :: rest) = (p, some (k, e)) := by
  by_cases hh : (!checked && opensHeader l) = true
  · have hif : (!checked && (Text.trimStart l).startsWith headerPrefix) = true := hh
    rw [hh, lineYield, if_pos rfl] at h
    rw [readLines.eq_def]
    dsimp only
    rw [if_pos hif]
    generalize detectVersion l = res at h ⊢
    rcases res with m | v
    · cases h
      rfl
    · cases h
  · rw [Bool.not_eq_true] at hh
    have hif : (!checked && (Text.trimStart l).startsWith headerPrefix) = false := hh
    rw [hh, lineYield, if_neg Bool.false_ne_true] at h
    rw [readLines.eq_def]
    dsimp only
    rw [if_neg (by rw [hif]; exact Bool.false_ne_true)]
    generalize parseLine registry l = res at h ⊢
    rcases res with e' | (_ | _ | r)
    · cases e'
      case unknownKind kind => cases h
      all_goals
        cases h
        rfl
    all_goals cases h

theorem filterMap_cons_reverse (y : Option TimedRecord) (ys : List (Option TimedRecord)) :
    ((y :: ys).filterMap id).reverse = (ys.filterMap id).reverse ++ y.toList := by
  cases y <;> simp

/-- The loop, from any state, reads the rest of the lines as `readAt` reads them one by one,
given a header index that agrees with the loop's own from the current line on. -/
theorem recordsOrFault_readLines (registry : Registry) :
    ∀ (lines : List String) (checked : Bool) (p : Parsed) (n : Nat) (header : Option Nat),
      (∀ k, n ≤ k → (header == some k) = (headerAt checked lines n == some k)) →
      recordsOrFault (readLines registry checked p
          ((lines.zipIdx n).map fun q => (q.2 + 1, q.1))) =
        ((lines.zipIdx n).mapM (readAt registry header)).map
          fun ys => (ys.filterMap id).reverse ++ p.records := by
  intro lines
  induction lines with
  | nil => intro checked p n header _; rfl
  | cons l ls ih =>
    intro checked p n header agrees
    have hflag : (header == some n) = (!checked && opensHeader l) :=
      (agrees n (Nat.le_refl n)).trans (headerAt_cons_eq_self checked l ls n)
    have hrest : ∀ k, n + 1 ≤ k →
        (header == some k) = (headerAt (checked || opensHeader l) ls (n + 1) == some k) :=
      fun k hk => (agrees k (by omega)).trans (headerAt_cons_of_lt checked l ls hk)
    have hhead : readAt registry header (l, n) =
        (lineYield registry (!checked && opensHeader l) l).mapError fun e => (n + 1, e) := by
      rw [readAt, hflag]
    rw [List.zipIdx_cons, List.map_cons, List.mapM_cons, hhead]
    cases hy : lineYield registry (!checked && opensHeader l) l with
    | error e =>
      rw [readLines_cons_of_error hy]
      rfl
    | ok y =>
      obtain ⟨p', hrecords, hstep⟩ := @readLines_cons_of_ok registry checked p (n + 1) l
        ((ls.zipIdx (n + 1)).map fun q => (q.2 + 1, q.1)) y hy
      rw [hstep, ih _ p' (n + 1) header hrest, hrecords]
      cases (ls.zipIdx (n + 1)).mapM (readAt registry header) with
      | error e => rfl
      | ok ys =>
        show Except.ok _ = Except.ok _
        dsimp only
        rw [filterMap_cons_reverse, List.append_assoc]

/-- The records of a log read, or the number and the fault of its first bad line, as the
reading loop leaves them. -/
theorem map_records_parse (registry : Registry) (text : String) :
    (parse registry text).map Parsed.records =
      (recordsOrFault (readLines registry false ⟨[], []⟩
        (((List.range (Text.lines text).length).map (· + 1)).zip (Text.lines text)))).map
        List.reverse := by
  unfold parse read
  dsimp only
  rcases readLines registry false ⟨[], []⟩ _ with ⟨p, _ | e⟩ <;> rfl

theorem numbered_eq_zipIdx (lines : List String) :
    ((List.range lines.length).map (· + 1)).zip lines =
      (lines.zipIdx 0).map fun q => (q.2 + 1, q.1) := by
  apply List.ext_getElem
  · simp
  · intro i h₁ h₂
    simp

/-- A log is read line by line: the line at the index of the first line opening with the
header prefix has its version checked, every other line is read by `parseLine` with a line of
unknown kind read as nothing, and the log gives the first failing line's number from 1 and its
fault, or else the records its lines yield, in order. -/
theorem parse_reads_line_by_line (registry : Registry) (text : String) :
    (parse registry text).map Parsed.records =
      ((Text.lines text).zipIdx.mapM
          (readAt registry ((Text.lines text).findIdx? opensHeader))).map (List.filterMap id) := by
  rw [map_records_parse, numbered_eq_zipIdx,
    recordsOrFault_readLines registry _ false ⟨[], []⟩ 0 ((Text.lines text).findIdx? opensHeader)
      (fun k _ => by simp [headerAt])]
  cases (Text.lines text).zipIdx.mapM (readAt registry ((Text.lines text).findIdx? opensHeader))
    with
  | error e => rfl
  | ok ys =>
    show Except.ok _ = Except.ok _
    simp

end RecordLog

end SessionSquash
