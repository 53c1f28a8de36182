import Mathlib
import SessionSquash.Proofs.Text.ReadBack
import SessionSquash.Proofs.Binary.Exact
import SessionSquash.Proofs.Json.Compact
import SessionSquash.Proofs.Json.Reading
import SessionSquash.Proofs.Log.LineLayout
import SessionSquash.Proofs.Log.Reading
import SessionSquash.Proofs.Record.ValueForm
import SessionSquash.Proofs.Record.Bounds

namespace SessionSquash

set_option autoImplicit false

/-- A finite floating-point number, or a number of another kind. -/
def Number.IsFinite : Number → Prop
  | .double x => x.isFinite = true
  | .single x => x.isFinite = true
  | _ => True

/-- A number whose text reads back as a number, which its field's decoder takes to the number
itself: the printing and the reading of floating-point numbers are inverse on it. -/
def Number.ReadsBack (n : Number) : Prop := n.Fits ∧ n.KeptBy Number.reread

theorem Binary64.render_of_not_isFinite {x : Binary64} (h : x.isFinite = false) :
    x.render = "null" := by
  unfold Binary64.isFinite at h
  unfold Binary64.render
  split
  · next hv => simp [hv] at h
  · rfl

theorem Binary32.render_of_not_isFinite {x : Binary32} (h : x.isFinite = false) :
    x.render = "null" := by
  unfold Binary32.isFinite at h
  unfold Binary32.render
  split
  · next hv => simp [hv] at h
  · rfl

/-- A number whose text reads as a number is finite: the text of any other is `null`. -/
theorem Number.Fits.isFinite {n : Number} (h : n.Fits) : n.IsFinite := by
  cases n with
  | nat k => trivial
  | negInt i => trivial
  | double x =>
    obtain ⟨m, hm⟩ := h
    cases hx : x.isFinite with
    | true => exact hx
    | false =>
      rw [Number.render, Binary64.render_of_not_isFinite hx, Json.read_null] at hm
      cases hm
  | single x =>
    obtain ⟨m, hm⟩ := h
    cases hx : x.isFinite with
    | true => exact hx
    | false =>
      rw [Number.render, Binary32.render_of_not_isFinite hx, Json.read_null] at hm
      cases hm

/-- A finite number survives the value form: a single precision number is widened there and
narrowed back by its decoder. -/
theorem Number.IsFinite.keptBy_id {n : Number} (h : n.IsFinite) : n.KeptBy id := by
  cases n with
  | nat k => trivial
  | negInt i => trivial
  | double x =>
    intro o
    have hx : x.isFinite = true := h
    simp [Json.toValue, hx, Decoder.double]
  | single x =>
    intro o
    have hx : x.isFinite = true := h
    simp [Json.toValue, hx, Decoder.single, Binary32.toBinary32_toBinary64 x hx]

namespace Json

/-- The floating-point numbers of a tree are its numbers of floating-point kind. -/
theorem mem_floats_iff {n : Number} (j : Json) :
    n ∈ j.floats ↔ n ∈ j.numbers ∧ n.isFloat = true := by
  induction j using induction_members with
  | null => simp [floats, numbers]
  | bool b => simp [floats, numbers]
  | number k => cases k <;> simp [floats] <;> rintro rfl <;> rfl
  | string s => simp [floats, numbers]
  | array items ih =>
    simp only [floats_array, numbers_array, List.mem_flatMap]
    constructor
    · rintro ⟨j, hj, hn⟩
      exact ⟨⟨j, hj, ((ih j hj).mp hn).1⟩, ((ih j hj).mp hn).2⟩
    · rintro ⟨⟨j, hj, hn⟩, hf⟩
      exact ⟨j, hj, (ih j hj).mpr ⟨hn, hf⟩⟩
  | object fields ih =>
    simp only [floats_object, numbers_object, List.mem_flatMap]
    constructor
    · rintro ⟨p, hp, hn⟩
      exact ⟨⟨p, hp, ((ih p hp).mp hn).1⟩, ((ih p hp).mp hn).2⟩
    · rintro ⟨⟨p, hp, hn⟩, hf⟩
      exact ⟨p, hp, (ih p hp).mpr ⟨hn, hf⟩⟩

/-- A change that keeps each floating-point number of a tree keeps the tree. -/
theorem mapFloats_eq_self {f : Number → Number} (j : Json) (h : ∀ n ∈ j.floats, f n = n) :
    j.mapFloats f = j := by
  induction j using induction_members with
  | null => rfl
  | bool b => rfl
  | number k =>
    cases k with
    | double x => simpa [mapFloats] using h (.double x) (by simp [floats])
    | single x => simpa [mapFloats] using h (.single x) (by simp [floats])
    | nat k => rfl
    | negInt i => rfl
  | string s => rfl
  | array items ih =>
    rw [mapFloats_array, List.map_congr_left (g := id) fun j hj =>
      ih j hj fun n hn => h n (by simp only [floats_array, List.mem_flatMap]; exact ⟨j, hj, hn⟩),
      List.map_id]
  | object fields ih =>
    have hfields : fields.map (fun p => (p.1, p.2.mapFloats f)) = fields.map id :=
      List.map_congr_left fun p hp => by
        rw [ih p hp fun n hn => h n (by
          simp only [floats_object, List.mem_flatMap]; exact ⟨p, hp, hn⟩)]
        rfl
    rw [mapFloats_object, hfields, List.map_id]

end Json

/-- A typed payload's text reads back as its tree, each floating-point number replaced by what
its text reads as, once those texts read as numbers: its integers fit and it nests five deep at
most. -/
theorem Payload.read_compact {p : Payload} (hfits : ∀ n ∈ p.toJson.floats, n.Fits) :
    Json.read p.toJson.compact = .ok (p.toJson.mapFloats Number.reread) := by
  obtain ⟨hdepth, hnumbers⟩ := p.bounded_toJson
  refine Json.read_compact (fun n hn => ?_) (by omega)
  rcases hnumbers n hn with hfloat | hfit
  · exact hfits n ((Json.mem_floats_iff _).mpr ⟨hn, hfloat⟩)
  · exact hfit

/-- A typed payload decodes from the value form of its tree, each floating-point number changed
in a way its field's decoder undoes. -/
theorem Payload.decode_value {p : Payload} {f : Number → Number} (hkept : p.toJson.FloatsKept f) :
    Record.decode p.kind false (p.toJson.mapFloats f).toValue = .ok (.typed p) := by
  rw [Record.decode, Payload.decoder_value p rfl hkept]
  rfl

namespace Reader

variable {α β : Type}

theorem run_bind_error {m : Reader α} {k : α → Reader β} {c : Cursor} {e : ReadError}
    (h : m.run c = .error e) : (m >>= k).run c = .error e := by
  simp only [StateT.run] at h ⊢
  simp [bind, StateT.bind, h]
  rfl

theorem run_elements_open (F D : Nat) (t : List Char) (o : Nat) :
    (elements (F + 1) D true []).run ⟨'[' :: t, o⟩ =
      (value F D >>= fun item => elements F D false [item]).run ⟨'[' :: t, o⟩ := by
  rw [elements, run_bind_ok (run_skipBlanks_cons rfl _ _)]
  rfl

/-- A text opening with at least as many brackets as arrays may still open is refused. -/
theorem run_value_brackets (D : Nat) : ∀ (F n : Nat) (rest : List Char) (o : Nat),
    0 < D → D ≤ n → 2 * D ≤ F →
      ∃ e, (value F D).run ⟨List.replicate n '[' ++ rest, o⟩ = .error e := by
  induction D with
  | zero => intro F n rest o hD; omega
  | succ D ih =>
    intro F n rest o _ hn hF
    obtain ⟨F, rfl⟩ : ∃ F', F = F' + 1 := ⟨F - 1, by omega⟩
    obtain ⟨n, rfl⟩ : ∃ n', n = n' + 1 := ⟨n - 1, by omega⟩
    rw [List.replicate_succ, List.cons_append, value, run_bind_ok (run_skipBlanks_cons rfl _ _)]
    show ∃ e, StateT.run (if D + 1 ≤ 1 then _ else _) _ = _
    by_cases hD : D = 0
    · subst hD
      exact ⟨_, by rw [if_pos le_rfl, run_failAhead]⟩
    · obtain ⟨F, rfl⟩ : ∃ F', F = F' + 1 := ⟨F - 1, by omega⟩
      obtain ⟨n, rfl⟩ : ∃ n', n = n' + 1 := ⟨n - 1, by omega⟩
      obtain ⟨e, he⟩ := ih F (n + 1) rest (o + '['.utf8Size) (by omega) (by omega) (by omega)
      rw [List.replicate_succ, List.cons_append] at he
      refine ⟨e, ?_⟩
      rw [if_neg (by omega), run_bind_ok (run_bump_cons _ _ _), List.replicate_succ,
        List.cons_append, Nat.add_sub_cancel]
      exact run_bind_error (by rw [run_elements_open]; exact run_bind_error he)

end Reader

/-- A text opening with 128 brackets is refused: the reader opens 127 arrays at most. -/
theorem Json.read_brackets {text : String} {rest : List Char}
    (h : text.toList = List.replicate 128 '[' ++ rest) : ∃ e, Json.read text = .error e := by
  have hlen : 128 ≤ text.toList.length := by simp [h]
  obtain ⟨e, he⟩ := Reader.run_value_brackets 128 (2 * text.toList.length + 4) 128 rest 0
    (by omega) le_rfl (by omega)
  rw [← h] at he
  exact ⟨e, by rw [Json.read, Reader.run_bind_error he]; rfl⟩

theorem Json.toList_compact_nested (j : Json) :
    ∀ n, ∃ rest, (compact ((fun j => Json.array [j])^[n] j)).toList =
      List.replicate n '[' ++ rest
  | 0 => ⟨_, rfl⟩
  | n + 1 => by
    obtain ⟨rest, h⟩ := toList_compact_nested j n
    refine ⟨rest ++ [']'], ?_⟩
    rw [Function.iterate_succ_apply', toList_compact_array, compactList, h, List.replicate_succ]
    simp

/-- A record that a log written with it gives back when read with `registry`: a typed payload of a
kind the registry decodes, whose floating-point numbers read back; or an opaque one of a kind the registry leaves undecoded, holding a value
form whose integers fit in 64 bits, whose floating-point numbers read back as themselves and whose
containers nest less than 128 deep. -/
def Record.Storable (registry : Registry) : Record → Prop
  | .typed p => registry.requires p.kind = true ∧ ∀ n ∈ p.toJson.floats, n.ReadsBack
  | .raw k data => registry.requires k = false ∧ data.toValue = data ∧
      (∀ n ∈ data.numbers, n.Fits) ∧ (∀ n ∈ data.floats, n.reread = n) ∧ data.depth < 128

/-- Every kind is found again by its name. -/
theorem RecordKind.ofName?_name (k : RecordKind) : RecordKind.ofName? k.name = some k := by
  cases k <;> rfl

namespace RecordLog

theorem fieldText_lineOf (r : TimedRecord) :
    FieldText (toString r.time.toInt).toList ∧ FieldText r.record.kind.name.toList ∧
      FieldText r.record.toJson.compact.toList :=
  ⟨(noControl_toString_int _).fieldText, r.record.kind.fieldText_name,
    (Json.noControl_compact _).fieldText⟩

/-- A record's line is no comment and no blank line, has no line break to drop, and splits into
its three fields, whose first two read back as the time and the kind. -/
theorem lineOf_fields (r : TimedRecord) :
    Text.dropTrailing '\r' (Text.dropTrailing '\n' (lineOf r)) = lineOf r ∧
      (lineOf r).startsWith "#" = false ∧ (Text.trim (lineOf r)).isEmpty = false ∧
      (lineOf r).splitOn "\t" =
        [toString r.time.toInt, r.record.kind.name, r.record.toJson.compact] ∧
      Text.parseInt64 (toString r.time.toInt) = some r.time ∧
      RecordKind.ofName? r.record.kind.name = some r.record.kind := by
  obtain ⟨htime, hkind, hdata⟩ := fieldText_lineOf r
  obtain ⟨hnl, hcr, -⟩ := FieldText.join htime hkind hdata
  rw [← toList_lineOf] at hnl hcr
  obtain ⟨d, t, hdt, hblank, hhash⟩ := Text.toString_int_head r.time.toInt
  have hhead : (lineOf r).toList = d :: (t ++ '\t' :: (r.record.kind.name.toList ++
      '\t' :: r.record.toJson.compact.toList)) := by
    rw [toList_lineOf, hdt, List.cons_append]
  refine ⟨?_, ?_, Text.trim_isEmpty_eq_false (c := d) (by simp [hhead]) hblank, ?_,
    Text.parseInt64_toString r.time, RecordKind.ofName?_name _⟩
  · rw [Text.dropTrailing_of_not_mem hnl, Text.dropTrailing_of_not_mem hcr]
  · rw [String.startsWith_string_eq_false_iff, hhead]
    simpa [eq_comm] using hhash
  · show (lineOf r).splitOn (String.singleton '\t') = _
    refine splitOn_of_toList_eq '\t' ?_ ?_ (by simp)
    · simp [toList_lineOf]
    · intro piece hpiece
      simp only [List.mem_cons, List.not_mem_nil, or_false] at hpiece
      rcases hpiece with rfl | rfl | rfl
      exacts [htime.1, hkind.1, hdata.1]

/-- A line holding a typed payload of a kind the registry decodes reads back when its payload's
text reads as a tree whose value form decodes to the payload. -/
theorem parseLine_lineOf_typed {registry : Registry} (t : Int64) {p : Payload} {j : Json}
    (hkind : registry.requires p.kind = true) (hread : Json.read p.toJson.compact = .ok j)
    (hdecode : Record.decode p.kind false j.toValue = .ok (.typed p)) :
    parseLine registry (lineOf ⟨t, .typed p⟩) = .ok (.record ⟨t, .typed p⟩) := by
  obtain ⟨hdrop, hhash, htrim, hsplit, htime, hname⟩ := lineOf_fields ⟨t, .typed p⟩
  simp only [Record.kind, Record.toJson] at hsplit hname
  simp only [parseLine, hdrop, hhash, htrim, hsplit, htime, hname, hread, hkind, hdecode,
    Bool.false_eq_true, ↓reduceIte, pure_bind]
  rfl

/-- A line holding an opaque payload of a kind the registry leaves undecoded reads back when its
payload's text reads as a tree whose value form is the payload. -/
theorem parseLine_lineOf_raw {registry : Registry} (t : Int64) {k : RecordKind} {data j : Json}
    (hkind : registry.requires k = false) (hread : Json.read data.compact = .ok j)
    (hvalue : j.toValue = data) :
    parseLine registry (lineOf ⟨t, .raw k data⟩) = .ok (.record ⟨t, .raw k data⟩) := by
  obtain ⟨hdrop, hhash, htrim, hsplit, htime, hname⟩ := lineOf_fields ⟨t, .raw k data⟩
  simp only [Record.kind, Record.toJson] at hsplit hname
  simp only [parseLine, hdrop, hhash, htrim, hsplit, htime, hname, hread, hkind, hvalue,
    Bool.false_eq_true, ↓reduceIte, pure_bind]
  rfl

/-- A line whose payload's text the reader refuses is refused as invalid JSON, whatever the
registry. -/
theorem parseLine_lineOf_unread {registry : Registry} (r : TimedRecord) {e : ReadError}
    (hread : Json.read r.record.toJson.compact = .error e) :
    ∃ detail, parseLine registry (lineOf r) = .error (.invalidDataJson detail) := by
  obtain ⟨hdrop, hhash, htrim, hsplit, htime, hname⟩ := lineOf_fields r
  exact ⟨_, by simp only [parseLine, hdrop, hhash, htrim, hsplit, htime, hname, hread,
    Bool.false_eq_true, ↓reduceIte]; rfl⟩

/-- A line whose opaque payload opens with 128 nested arrays is refused as invalid JSON,
whatever the registry: its text is written, but the reader opens 127 arrays at most. -/
theorem parseLine_lineOf_nested (registry : Registry) (t : Int64) (k : RecordKind) (j : Json)
    {n : Nat} (hn : 128 ≤ n) :
    ∃ detail, parseLine registry (lineOf ⟨t, .raw k ((fun j => Json.array [j])^[n] j)⟩) =
      .error (.invalidDataJson detail) := by
  obtain ⟨rest, hrest⟩ := Json.toList_compact_nested j n
  have hopen : (Json.compact ((fun j => Json.array [j])^[n] j)).toList =
      List.replicate 128 '[' ++ (List.replicate (n - 128) '[' ++ rest) := by
    rw [hrest, ← List.append_assoc, ← List.replicate_add, Nat.add_sub_cancel' hn]
  obtain ⟨e, he⟩ := Json.read_brackets hopen
  exact parseLine_lineOf_unread ⟨t, .raw k _⟩ he

/-- A record the registry keeps has a line that reads back as the record. -/
theorem parseLine_lineOf {registry : Registry} {r : TimedRecord}
    (h : r.record.Storable registry) : parseLine registry (lineOf r) = .ok (.record r) := by
  obtain ⟨t, record⟩ := r
  cases record with
  | typed p =>
    obtain ⟨hkind, hfloats⟩ := h
    exact parseLine_lineOf_typed t hkind (Payload.read_compact fun n hn => (hfloats n hn).1)
      (Payload.decode_value fun n hn => (hfloats n hn).2)
  | raw k data =>
    obtain ⟨hkind, hvalue, hfits, hfloats, hdepth⟩ := h
    have hread := Json.read_compact hfits hdepth
    rw [Json.mapFloats_eq_self data hfloats] at hread
    exact parseLine_lineOf_raw t hkind hread hvalue

theorem header_eq : header =
    String.join (["# recap record log v1", "# fields: time_ms \\t kind \\t data"].map
      (· ++ "\n")) := by
  decide

theorem detectVersion_header : detectVersion "# recap record log v1" = .ok 1 := by
  have htrim : Text.trim "# recap record log v1" = "# recap record log v1" := by decide
  have hprefix : ("# recap record log v1").startsWith headerPrefix = true := by
    rw [headerPrefix, String.startsWith_string_iff]
    decide
  have hrest : String.ofList (("# recap record log v1").toList.drop headerPrefix.length) = "1" := by
    decide
  have hversion : Text.parseUInt32 "1" = some 1 := by decide
  simp only [detectVersion, htrim, hprefix, hrest, hversion, if_true]
  rfl

theorem opensHeader_header : opensHeader "# recap record log v1" = true := by
  have htrim : Text.trimStart "# recap record log v1" = "# recap record log v1" := by decide
  rw [opensHeader, htrim, headerPrefix, String.startsWith_string_iff]
  decide

theorem parseLine_fields_comment (registry : Registry) :
    parseLine registry "# fields: time_ms \\t kind \\t data" =
      .ok (.comment "# fields: time_ms \\t kind \\t data") := by
  have hdrop : Text.dropTrailing '\r' (Text.dropTrailing '\n' "# fields: time_ms \\t kind \\t data") =
      "# fields: time_ms \\t kind \\t data" := by decide
  have hhash : ("# fields: time_ms \\t kind \\t data").startsWith "#" = true := by
    rw [String.startsWith_string_iff]
    decide
  simp only [parseLine, hdrop, hhash, if_true]
  rfl

/-- A written log's lines are the two header lines, then a line per record. -/
theorem lines_write_text (records : List TimedRecord) :
    Text.lines (header ++ String.join (records.map fun r => lineOf r ++ "\n")) =
      "# recap record log v1" :: "# fields: time_ms \\t kind \\t data" :: records.map lineOf := by
  have hlines : records.map (fun r => lineOf r ++ "\n") = (records.map lineOf).map (· ++ "\n") := by
    simp
  rw [header_eq, hlines, ← String.join_append, ← List.map_append]
  apply Text.lines_join
  intro l hl
  rcases List.mem_append.mp hl with hl | hl
  · simp only [List.mem_cons, List.not_mem_nil, or_false] at hl
    rcases hl with rfl | rfl <;> decide
  · obtain ⟨r, -, rfl⟩ := List.mem_map.mp hl
    obtain ⟨htime, hkind, hdata⟩ := fieldText_lineOf r
    obtain ⟨hnl, hcr, -⟩ := FieldText.join htime hkind hdata
    rw [toList_lineOf]
    exact ⟨hnl, hcr⟩

/-- Past the header, lines that each read as their record give those records, in order, and skip
nothing. -/
theorem readLines_records (registry : Registry) (records : List TimedRecord)
    (h : ∀ r ∈ records, parseLine registry (lineOf r) = .ok (.record r)) :
    ∀ (numbers : List Nat) (p : Parsed), numbers.length = records.length →
      readLines registry true p (numbers.zip (records.map lineOf)) =
        (⟨records.reverse ++ p.records, p.skipped⟩, none) := by
  induction records with
  | nil =>
    intro numbers p _
    simp [readLines]
  | cons r rest ih =>
    intro numbers p hlen
    obtain ⟨k, ks, rfl⟩ : ∃ k ks, numbers = k :: ks := List.exists_cons_of_length_eq_add_one hlen
    have hline := h r List.mem_cons_self
    rw [List.map_cons, List.zip_cons_cons, readLines]
    simp only [Bool.not_true, Bool.false_and, Bool.false_eq_true, if_false, hline]
    rw [ih (fun x hx => h x (List.mem_cons_of_mem r hx)) ks _ (by simpa using hlen)]
    simp

/-- A log written from records that each read back from their line reads back as those records,
the header checked and the field comment skipped. -/
theorem parse_write_text {registry : Registry} {records : List TimedRecord}
    (h : ∀ r ∈ records, parseLine registry (lineOf r) = .ok (.record r)) :
    parse registry (header ++ String.join (records.map fun r => lineOf r ++ "\n")) =
      .ok ⟨records, []⟩ := by
  simp only [parse, read, lines_write_text, List.length_cons, List.range_succ_eq_map,
    List.map_cons, List.zip_cons_cons]
  rw [readLines, if_pos (by simp only [Bool.not_false, Bool.true_and]; exact opensHeader_header), detectVersion_header]
  dsimp only
  rw [readLines, if_neg (by simp), parseLine_fields_comment]
  dsimp only
  rw [readLines_records registry records h _ _ (by simp)]
  simp

end RecordLog

open RecordLog in
/-- Writing and reading a record log are inverse on the records a registry keeps: a record's line
reads back as the record, and a whole log reads back as its records, the header checked and no
line skipped. The value form of a typed payload with finite floating-point numbers decodes to the
payload. -/
theorem record_log_round_trip :
    (∀ (registry : Registry) (r : TimedRecord), r.record.Storable registry →
      ∃ line, toLogLine r = .ok line ∧ parseLine registry line = .ok (.record r)) ∧
    (∀ (registry : Registry) (records : List TimedRecord),
      (∀ r ∈ records, r.record.Storable registry) →
        ∃ text, write records = .ok text ∧ parse registry text = .ok ⟨records, []⟩) ∧
    (∀ p : Payload, (∀ n ∈ p.toJson.floats, n.IsFinite) →
      Record.decode p.kind false p.toJson.toValue = .ok (.typed p)) := by
  refine ⟨fun registry r h => ⟨lineOf r, toLogLine_eq_ok r, parseLine_lineOf h⟩,
    fun registry records h => ⟨_, write_eq_ok records,
      parse_write_text fun r hr => parseLine_lineOf (h r hr)⟩,
    fun p hfinite => ?_⟩
  have hkept : p.toJson.FloatsKept id := fun n hn => (hfinite n hn).keptBy_id
  have h := Payload.decode_value (f := id) hkept
  rwa [Json.mapFloats_eq_self (f := id) p.toJson fun n _ => rfl] at h

/-- A head look, whose yaw is a floating-point number, reads back from its line; with a chat line
and an opaque line it reads back as a log under a registry that decodes head looks and chat; and
the head look's value form decodes to it. -/
theorem record_log_round_trip_look_chat_opaque :
    ((Record.typed (.headLook ⟨7, ⟨0x3FC00000⟩⟩)).Storable ⟨[.chat, .headLook]⟩ ∧
      ∃ line, RecordLog.toLogLine ⟨5, .typed (.headLook ⟨7, ⟨0x3FC00000⟩⟩)⟩ = .ok line ∧
        RecordLog.parseLine ⟨[.chat, .headLook]⟩ line =
          .ok (.record ⟨5, .typed (.headLook ⟨7, ⟨0x3FC00000⟩⟩)⟩)) ∧
    ((∀ r ∈ [(⟨5, .typed (.headLook ⟨7, ⟨0x3FC00000⟩⟩)⟩ : TimedRecord),
        ⟨6, .typed (.chat ⟨"hi", 1⟩)⟩,
        ⟨-3, .raw .tileEntityEditor (.array [.number (.nat 7), .bool true])⟩],
        r.record.Storable ⟨[.chat, .headLook]⟩) ∧
      ∃ text, RecordLog.write [⟨5, .typed (.headLook ⟨7, ⟨0x3FC00000⟩⟩)⟩,
          ⟨6, .typed (.chat ⟨"hi", 1⟩)⟩,
          ⟨-3, .raw .tileEntityEditor (.array [.number (.nat 7), .bool true])⟩] = .ok text ∧
        RecordLog.parse ⟨[.chat, .headLook]⟩ text = .ok ⟨[⟨5, .typed (.headLook ⟨7, ⟨0x3FC00000⟩⟩)⟩,
          ⟨6, .typed (.chat ⟨"hi", 1⟩)⟩,
          ⟨-3, .raw .tileEntityEditor (.array [.number (.nat 7), .bool true])⟩], []⟩) ∧
    ((∀ n ∈ (Payload.headLook ⟨7, ⟨0x3FC00000⟩⟩).toJson.floats, n.IsFinite) ∧
      Record.decode (Payload.headLook ⟨7, ⟨0x3FC00000⟩⟩).kind false
          (Payload.headLook ⟨7, ⟨0x3FC00000⟩⟩).toJson.toValue =
        .ok (.typed (.headLook ⟨7, ⟨0x3FC00000⟩⟩))) := by
  have hyaw : (Number.single ⟨0x3FC00000⟩).ReadsBack := by
    have hread : Json.read (Number.single ⟨0x3FC00000⟩).render =
        .ok (.number (.double ⟨0x3FF8000000000000⟩)) := by rfl
    refine ⟨⟨_, hread⟩, fun o => ?_⟩
    rw [Number.reread, hread]
    rfl
  have hlook : (Record.typed (.headLook ⟨7, ⟨0x3FC00000⟩⟩)).Storable ⟨[.chat, .headLook]⟩ :=
    ⟨rfl, by simp [Payload.toJson, HeadLook.toJson, hyaw]⟩
  have hchat : (Record.typed (.chat ⟨"hi", 1⟩)).Storable ⟨[.chat, .headLook]⟩ :=
    ⟨rfl, by simp [Payload.toJson, Chat.toJson]⟩
  have hopaque : (Record.raw .tileEntityEditor (.array [.number (.nat 7), .bool true])).Storable
      ⟨[.chat, .headLook]⟩ :=
    ⟨rfl, rfl, by simp [Number.Fits], by simp [Json.floats], by decide⟩
  have hall : ∀ r ∈ [(⟨5, .typed (.headLook ⟨7, ⟨0x3FC00000⟩⟩)⟩ : TimedRecord),
      ⟨6, .typed (.chat ⟨"hi", 1⟩)⟩,
      ⟨-3, .raw .tileEntityEditor (.array [.number (.nat 7), .bool true])⟩],
      r.record.Storable ⟨[.chat, .headLook]⟩ := by
    simpa using ⟨hlook, hchat, hopaque⟩
  have hfinite : ∀ n ∈ (Payload.headLook ⟨7, ⟨0x3FC00000⟩⟩).toJson.floats, n.IsFinite := by
    have hyaw : Binary32.isFinite ⟨0x3FC00000⟩ = true := by decide
    simp [Payload.toJson, HeadLook.toJson, Number.IsFinite, hyaw]
  exact ⟨⟨hlook, record_log_round_trip.1 _ _ hlook⟩, ⟨hall, record_log_round_trip.2.1 _ _ hall⟩,
    ⟨hfinite, record_log_round_trip.2.2 _ hfinite⟩⟩

/-- An opaque payload of 128 nested arrays, of a kind the registry leaves undecoded, is written
but its line is refused as invalid JSON. -/
theorem deep_opaque_payload_refused :
    Registry.empty.requires .tileEntityEditor = false ∧
      RecordLog.toLogLine ⟨0, .raw .tileEntityEditor ((fun j => Json.array [j])^[128] .null)⟩ =
        .ok (RecordLog.lineOf ⟨0, .raw .tileEntityEditor ((fun j => Json.array [j])^[128] .null)⟩) ∧
      ∃ detail, RecordLog.parseLine Registry.empty
          (RecordLog.lineOf ⟨0, .raw .tileEntityEditor ((fun j => Json.array [j])^[128] .null)⟩) =
        .error (.invalidDataJson detail) :=
  ⟨rfl, RecordLog.toLogLine_eq_ok _, RecordLog.parseLine_lineOf_nested _ _ _ _ le_rfl⟩

end SessionSquash
