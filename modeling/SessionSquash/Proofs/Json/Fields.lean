import Mathlib
import SessionSquash.Proofs.Json.Tree

namespace SessionSquash

set_option autoImplicit false

namespace Json

/-- The keys strictly increase. -/
def KeysSorted (fields : List (String × Json)) : Prop := (fields.map (·.1)).Pairwise (· < ·)

theorem keysSorted_cons {p : String × Json} {rest : List (String × Json)} :
    KeysSorted (p :: rest) ↔ (∀ q ∈ rest, p.1 < q.1) ∧ KeysSorted rest := by
  simp [KeysSorted, List.pairwise_cons]

theorem field?_cons (p : String × Json) (rest : List (String × Json)) (k : String) :
    field? (p :: rest) k = if p.1 = k then some p.2 else field? rest k := by
  by_cases h : p.1 = k <;> simp [field?, h]

theorem field?_eq_none_of_lt {l : List (String × Json)} {k : String}
    (h : ∀ p ∈ l, k < p.1) : field? l k = none := by
  induction l with
  | nil => rfl
  | cons p rest ih =>
    rw [field?_cons, if_neg (ne_of_gt (h p List.mem_cons_self)),
      ih fun q hq => h q (List.mem_cons_of_mem _ hq)]

theorem mem_insertAbsent {key : String} {value : Json} :
    ∀ {l : List (String × Json)} {p : String × Json}, p ∈ insertAbsent key value l →
      p = (key, value) ∨ p ∈ l
  | [], p, h => by simpa [insertAbsent] using h
  | (k, v) :: rest, p, h => by
    unfold insertAbsent at h
    split_ifs at h
    · simpa using h
    · exact .inr h
    · rcases List.mem_cons.mp h with rfl | h
      · exact .inr List.mem_cons_self
      · rcases mem_insertAbsent h with rfl | h
        · exact .inl rfl
        · exact .inr (List.mem_cons_of_mem _ h)

theorem lt_of_not_lt_of_not_beq {a b : String} (hlt : ¬a < b) (heq : ¬(a == b) = true) : b < a :=
  lt_of_le_of_ne (not_lt.mp hlt) fun e => heq (by simp [e])

theorem keysSorted_insertAbsent {key : String} {value : Json} :
    ∀ {l : List (String × Json)}, KeysSorted l → KeysSorted (insertAbsent key value l)
  | [], _ => by simp [KeysSorted, insertAbsent]
  | (k, v) :: rest, h => by
    obtain ⟨hk, hrest⟩ := keysSorted_cons.mp h
    unfold insertAbsent
    split_ifs with hlt heq
    · refine keysSorted_cons.mpr ⟨?_, h⟩
      rintro q (_ | ⟨_, hq⟩)
      · exact hlt
      · exact hlt.trans (hk q hq)
    · exact h
    · refine keysSorted_cons.mpr ⟨fun q hq => ?_, keysSorted_insertAbsent hrest⟩
      rcases mem_insertAbsent hq with rfl | hq
      · exact lt_of_not_lt_of_not_beq hlt heq
      · exact hk q hq

/-- Adding a member to sorted members keeps a member already there. -/
theorem field?_insertAbsent {key : String} {value : Json} (k : String) :
    ∀ {l : List (String × Json)}, KeysSorted l →
      field? (insertAbsent key value l) k =
        if k = key then (field? l k).or (some value) else field? l k
  | [], _ => by
    by_cases h : k = key
    · subst h
      simp [insertAbsent, field?]
    · simp [insertAbsent, field?_cons, h, Ne.symm h]
  | (k', v) :: rest, h => by
    obtain ⟨hk, hrest⟩ := keysSorted_cons.mp h
    unfold insertAbsent
    by_cases hlt : key < k'
    · rw [if_pos hlt]
      by_cases hkey : k = key
      · subst hkey
        have hnone : field? ((k', v) :: rest) k = none :=
          field?_eq_none_of_lt fun q hq => by
            rcases List.mem_cons.mp hq with rfl | hq
            · exact hlt
            · exact hlt.trans (hk q hq)
        simp [field?_cons, hnone]
      · rw [field?_cons, if_neg (Ne.symm hkey), if_neg hkey]
    rw [if_neg hlt]
    by_cases heq : (key == k') = true
    · rw [if_pos heq]
      rw [beq_iff_eq] at heq
      subst heq
      by_cases hkey : k = key
      · subst hkey
        simp [field?_cons]
      · rw [if_neg hkey]
    · rw [if_neg heq, field?_cons, field?_cons, field?_insertAbsent k hrest]
      have hgt := lt_of_not_lt_of_not_beq hlt heq
      by_cases hkey : k = key
      · subst hkey
        simp [ne_of_lt hgt]
      · simp [hkey]

theorem keysSorted_toValueFields : ∀ fields : List (String × Json),
    KeysSorted (toValueFields fields)
  | [] => List.Pairwise.nil
  | (_, _) :: rest => keysSorted_insertAbsent (keysSorted_toValueFields rest)

/-- The value form of an object holds, under each key, the value form of the last member of
that name. -/
theorem field?_toValueFields (fields : List (String × Json)) (k : String) :
    field? (toValueFields fields) k = (fields.reverse.find? (·.1 == k)).map (·.2.toValue) := by
  induction fields with
  | nil => rfl
  | cons p rest ih =>
    obtain ⟨k', j⟩ := p
    rw [toValueFields_cons, field?_insertAbsent k (keysSorted_toValueFields rest), ih,
      List.reverse_cons, List.find?_append]
    by_cases hk : k = k'
    · subst hk
      cases (rest.reverse.find? (·.1 == k)) <;> simp
    · simp [hk, Ne.symm hk]

end Json

namespace Fields

theorem filterMap_zip_range' (name : String) : ∀ (fs : List (String × Json)) (s : Nat),
    ((List.range' s fs.length).zip fs).filterMap
        (fun (q : Nat × String × Json) => if q.2.1 == name then some q.1 else none) =
      (((List.range' 0 fs.length).zip fs).filterMap
        (fun (q : Nat × String × Json) => if q.2.1 == name then some q.1 else none)).map (· + s)
  | [], _ => rfl
  | p :: fs, s => by
    simp only [List.length_cons, List.range'_succ, List.zip_cons_cons, List.filterMap_cons]
    rw [filterMap_zip_range' name fs (s + 1), filterMap_zip_range' name fs (0 + 1)]
    by_cases h : p.1 == name <;> simp [h, Function.comp_def, Nat.add_comm, Nat.add_left_comm]

theorem positions_cons (p : String × Json) (fs : List (String × Json)) (name : String) :
    positions (p :: fs) name =
      (if p.1 = name then [0] else []) ++ (positions fs name).map (· + 1) := by
  unfold positions
  simp only [List.range_eq_range', List.length_cons, List.range'_succ, List.zip_cons_cons,
    List.filterMap_cons]
  rw [filterMap_zip_range' name fs (0 + 1)]
  by_cases h : p.1 = name <;> simp [h]

theorem positions_eq_nil {fs : List (String × Json)} {name : String}
    (h : Json.field? fs name = none) : positions fs name = [] := by
  induction fs with
  | nil => rfl
  | cons p rest ih =>
    rw [Json.field?_cons] at h
    split_ifs at h with hp
    rw [positions_cons, if_neg hp, ih h]
    rfl

theorem field?_eq_none_of_positions {fs : List (String × Json)} {name : String}
    (h : positions fs name = []) : Json.field? fs name = none := by
  induction fs with
  | nil => rfl
  | cons p rest ih =>
    rw [positions_cons] at h
    rw [Json.field?_cons]
    split_ifs at h ⊢ with hp
    · cases h
    · exact ih (List.map_eq_nil_iff.mp h)

/-- The first position of a name holds the member that `field?` finds. -/
theorem getElem?_positions_head {fs : List (String × Json)} {name : String} {i : Nat}
    {rest : List Nat} (h : positions fs name = i :: rest) :
    (fs[i]?).map (·.2) = Json.field? fs name := by
  induction fs generalizing i rest with
  | nil => cases h
  | cons p fs ih =>
    rw [positions_cons] at h
    rw [Json.field?_cons]
    split_ifs at h ⊢ with hp
    · cases h
      rfl
    · obtain ⟨j, js, hj, rfl, rfl⟩ := List.map_eq_cons_iff.mp h
      simpa using ih hj

variable {α : Type} [Inhabited α]

/-- Reading one field of named members whose first member of that name holds `found`, when
nothing has failed before: the value read, and the state with the failure noted at its rank. -/
def readMember (name : String) (d : Decoder α) (absent : Except (Nat → SchemaError) α)
    (missingRank foundRank : Nat) (st : FieldState) : Option Json → α × FieldState
  | none =>
    match absent with
    | .ok a => (a, st)
    | .error _ => (default, { st with failure := some (missingRank, .missingField name) })
  | some v =>
    match d st.origin v with
    | .ok a => (a, st)
    | .error e => (default, { st with failure := some (foundRank, e) })

/-- A field of named members read from a value is what the first member of that name holds,
or its absence. -/
theorem run_field_members (name : String) (d : Decoder α)
    (absent : Except (Nat → SchemaError) α) (fs : List (String × Json)) {o : Origin}
    (ho : o.fromText = false) (e : String) (n : Nat) :
    (field name d absent).run ⟨.members fs, o, e, n, none⟩ =
      readMember name d absent (fs.length + n) ((positions fs name).headD 0)
        ⟨.members fs, o, e, n + 1, none⟩ (Json.field? fs name) := by
  cases hp : positions fs name with
  | nil =>
    have hv := field?_eq_none_of_positions hp
    cases absent <;> simp [field, hp, hv, readMember, note] <;> rfl
  | cons i rest =>
    have hv := getElem?_positions_head hp
    cases hd : Json.field? fs name with
    | none => simp [positions_eq_nil hd] at hp
    | some v =>
      rw [hd] at hv
      simp [field, hp, ho, hv, readMember, decodeAt, note]
      cases d o v <;> rfl

theorem run_bind {β γ : Type} (x : Fields β) (k : β → Fields γ) (st : FieldState) :
    (x >>= k).run st = (k (x.run st).1).run (x.run st).2 := rfl

theorem run_pure {β : Type} (a : β) (st : FieldState) : (pure a : Fields β).run st = (a, st) :=
  rfl

theorem run_bind_field {β : Type} (name : String) (d : Decoder α)
    (absent : Except (Nat → SchemaError) α) (k : α → Fields β) (fs : List (String × Json))
    {o : Origin} (ho : o.fromText = false) (e : String) (n : Nat) :
    (field name d absent >>= k).run ⟨.members fs, o, e, n, none⟩ =
      (k (readMember name d absent (fs.length + n) ((positions fs name).headD 0)
        ⟨.members fs, o, e, n + 1, none⟩ (Json.field? fs name)).1).run
        (readMember name d absent (fs.length + n) ((positions fs name).headD 0)
          ⟨.members fs, o, e, n + 1, none⟩ (Json.field? fs name)).2 := by
  rw [run_bind, run_field_members name d absent fs ho e n]

theorem run_map_field {β : Type} (name : String) (d : Decoder α)
    (absent : Except (Nat → SchemaError) α) (g : α → β) (fs : List (String × Json))
    {o : Origin} (ho : o.fromText = false) (e : String) (n : Nat) :
    (g <$> field name d absent).run ⟨.members fs, o, e, n, none⟩ =
      ((g (readMember name d absent (fs.length + n) ((positions fs name).headD 0)
        ⟨.members fs, o, e, n + 1, none⟩ (Json.field? fs name)).1,
        (readMember name d absent (fs.length + n) ((positions fs name).headD 0)
          ⟨.members fs, o, e, n + 1, none⟩ (Json.field? fs name)).2) : β × FieldState) := by
  rw [StateT.run_map, run_field_members name d absent fs ho e n]
  rfl

theorem run_bind_required {β : Type} (name : String) (d : Decoder α) (k : α → Fields β)
    (src : FieldSource) (o : Origin) (e : String) (n : Nat)
    (failure : Option (Nat × SchemaError)) :
    (required name d >>= k).run ⟨src, o, e, n, failure⟩ =
      (field name d (.error fun i => .invalidLength i e) >>= k).run ⟨src, o, e, n, failure⟩ := by
  rw [required]
  rfl

theorem run_map_required {β : Type} (name : String) (d : Decoder α) (g : α → β)
    (src : FieldSource) (o : Origin) (e : String) (n : Nat)
    (failure : Option (Nat × SchemaError)) :
    (g <$> required name d).run ⟨src, o, e, n, failure⟩ =
      (g <$> field name d (.error fun i => .invalidLength i e)).run ⟨src, o, e, n, failure⟩ := by
  rw [required]
  rfl

theorem run_bind_optional {β γ : Type} (name : String) (d : Decoder β)
    (k : Option β → Fields γ) (fs : List (String × Json)) (o : Origin) (e : String) (n : Nat)
    (failure : Option (Nat × SchemaError)) :
    (optional name d >>= k).run ⟨.members fs, o, e, n, failure⟩ =
      (field name (Decoder.option d) (.ok none) >>= k).run ⟨.members fs, o, e, n, failure⟩ := by
  rw [optional]
  rfl

theorem run_map_optional {β γ : Type} (name : String) (d : Decoder β) (g : Option β → γ)
    (fs : List (String × Json)) (o : Origin) (e : String) (n : Nat)
    (failure : Option (Nat × SchemaError)) :
    (g <$> optional name d).run ⟨.members fs, o, e, n, failure⟩ =
      (g <$> field name (Decoder.option d) (.ok none)).run ⟨.members fs, o, e, n, failure⟩ := by
  rw [optional]
  rfl

end Fields

namespace Decoder

theorem integer_ofInt (expected : String) {lo hi i : Int} (hlo : lo ≤ i) (hhi : i ≤ hi)
    (o : Origin) : integer expected lo hi o (Json.ofInt i) = .ok i := by
  by_cases h : 0 ≤ i
  · simp only [Json.ofInt, if_pos h, integer]
    rw [if_pos (by omega)]
    congr 1
    omega
  · simp only [Json.ofInt, if_neg h, integer, if_pos hlo]

@[simp] theorem int8_ofInt (x : Int8) (o : Origin) : int8 o (Json.ofInt x.toInt) = .ok x := by
  have := x.le_toInt
  have := x.toInt_lt
  show (integer "i8" (-128) 127 o (Json.ofInt x.toInt)).map Int8.ofInt = .ok x
  rw [integer_ofInt "i8" (by omega) (by omega)]
  exact congrArg Except.ok x.ofInt_toInt

@[simp] theorem int16_ofInt (x : Int16) (o : Origin) : int16 o (Json.ofInt x.toInt) = .ok x := by
  have := x.le_toInt
  have := x.toInt_lt
  show (integer "i16" (-32768) 32767 o (Json.ofInt x.toInt)).map Int16.ofInt = .ok x
  rw [integer_ofInt "i16" (by omega) (by omega)]
  exact congrArg Except.ok x.ofInt_toInt

@[simp] theorem int32_ofInt (x : Int32) (o : Origin) : int32 o (Json.ofInt x.toInt) = .ok x := by
  have := x.le_toInt
  have := x.toInt_lt
  show (integer "i32" (-(Int.pow 2 31)) (Int.pow 2 31 - 1) o (Json.ofInt x.toInt)).map
    Int32.ofInt = .ok x
  rw [integer_ofInt "i32" (by simp only [Int.pow_eq]; omega) (by simp only [Int.pow_eq]; omega)]
  exact congrArg Except.ok x.ofInt_toInt

@[simp] theorem int64_ofInt (x : Int64) (o : Origin) : int64 o (Json.ofInt x.toInt) = .ok x := by
  have := x.le_toInt
  have := x.toInt_lt
  show (integer "i64" (-(Int.pow 2 63)) (Int.pow 2 63 - 1) o (Json.ofInt x.toInt)).map
    Int64.ofInt = .ok x
  rw [integer_ofInt "i64" (by simp only [Int.pow_eq]; omega) (by simp only [Int.pow_eq]; omega)]
  exact congrArg Except.ok x.ofInt_toInt

@[simp] theorem uint8_ofNat (x : UInt8) (o : Origin) : uint8 o (Json.ofNat x.toNat) = .ok x := by
  have := x.toNat_lt
  show (integer "u8" 0 255 o (Json.ofInt x.toNat)).map (·.toNat.toUInt8) = .ok x
  rw [integer_ofInt "u8" (by omega) (by omega)]
  exact congrArg Except.ok (by simp)

@[simp] theorem uint32_ofNat (x : UInt32) (o : Origin) : uint32 o (Json.ofNat x.toNat) = .ok x := by
  have := x.toNat_lt
  show (integer "u32" 0 (Int.pow 2 32 - 1) o (Json.ofInt x.toNat)).map (·.toNat.toUInt32) = .ok x
  rw [integer_ofInt "u32" (by omega) (by simp only [Int.pow_eq]; omega)]
  exact congrArg Except.ok (by simp)

@[simp] theorem string_string (s : String) (o : Origin) : string o (.string s) = .ok s := rfl

@[simp] theorem double_keptBy {f : Number → Number} {x : Binary64}
    (h : (Number.double x).KeptBy f) (o : Origin) :
    double o (Json.number (f (.double x))).toValue = .ok x :=
  h o

@[simp] theorem single_keptBy {f : Number → Number} {x : Binary32}
    (h : (Number.single x).KeptBy f) (o : Origin) :
    single o (Json.number (f (.single x))).toValue = .ok x :=
  h o

@[simp] theorem bool_bool (b : Bool) (o : Origin) : bool o (.bool b) = .ok b := rfl

variable {β : Type}

theorem mapM_map_ok (d : Json → Except SchemaError β) (g : β → Json) :
    ∀ l : List β, (∀ a ∈ l, d (g a) = .ok a) → (l.map g).mapM d = .ok l
  | [], _ => rfl
  | a :: rest, h => by
    rw [List.map_cons, List.mapM_cons, h a List.mem_cons_self,
      mapM_map_ok d g rest fun b hb => h b (List.mem_cons_of_mem _ hb)]
    rfl

/-- A list reads back item by item. -/
theorem list_array_map (d : Decoder β) (o : Origin) (g : β → Json) (l : List β)
    (h : ∀ a ∈ l, d o (g a) = .ok a) : list d o (.array (l.map g)) = .ok l :=
  mapM_map_ok (d o) g l h

@[simp] theorem bytes_ofBytes (o : Origin) (l : List UInt8) : bytes o (Json.ofBytes l) = .ok l :=
  list_array_map uint8 o _ l fun a _ => uint8_ofNat a o

/-- An array of the length asked for reads back item by item. -/
theorem exactly_array_map (n : Nat) (d : Decoder β) (o : Origin) (g : β → Json) (l : List β)
    (hn : l.length = n) (h : ∀ a ∈ l, d o (g a) = .ok a) :
    exactly n d o (.array (l.map g)) = .ok ⟨l.toArray, by simpa using hn⟩ := by
  subst hn
  have htake : (l.map g).take l.length = l.map g := List.take_of_length_le (by simp)
  simp only [exactly, List.length_map, htake, mapM_map_ok (d o) g l h]
  simp [bind, Except.bind, pure, Except.pure]

@[simp] theorem option_null (d : Decoder β) (o : Origin) : option d o .null = .ok none := rfl

@[simp] theorem option_object (d : Decoder β) (o : Origin) (fs : List (String × Json)) :
    option d o (.object fs) = (d o (.object fs)).map some := rfl

@[simp] theorem option_array (d : Decoder β) (o : Origin) (items : List Json) :
    option d o (.array items) = (d o (.array items)).map some := rfl

@[simp] theorem triple_array_three (d : Decoder β) (o : Origin) (ja jb jc : Json) :
    triple d o (.array [ja, jb, jc]) = (do
      let a ← d o ja
      let b ← d o jb
      let c ← d o jc
      pure (a, b, c)) := by
  simp only [triple, exactly, List.take_of_length_le (by simp : [ja, jb, jc].length ≤ 3),
    List.mapM_cons, List.mapM_nil]
  cases d o ja <;> cases d o jb <;> cases d o jc <;> rfl

end Decoder

namespace Except

variable {ε α β : Type}

theorem ok_bind (a : α) (k : α → Except ε β) : (Except.ok a >>= k) = k a := rfl

theorem map_ok (g : α → β) (a : α) : (Except.ok a : Except ε α).map g = .ok (g a) := rfl

end Except

namespace Json

@[simp] theorem ofOption_none {β : Type} (f : β → Json) : ofOption f none = .null := rfl

@[simp] theorem ofOption_some {β : Type} (f : β → Json) (a : β) : ofOption f (some a) = f a := rfl

theorem ofTriple_eq {β : Type} (f : β → Json) (t : β × β × β) :
    ofTriple f t = .array [f t.1, f t.2.1, f t.2.2] := rfl

@[simp] theorem mapFloats_ofBytes (f : Number → Number) (l : List UInt8) :
    (ofBytes l).mapFloats f = ofBytes l := by
  simp [ofBytes, Function.comp_def]

@[simp] theorem toValue_ofBytes (l : List UInt8) : (ofBytes l).toValue = ofBytes l := by
  simp [ofBytes, Function.comp_def]

end Json

end SessionSquash
