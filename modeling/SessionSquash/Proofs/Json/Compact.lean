import Mathlib
import SessionSquash.Json.Write

namespace SessionSquash

set_option autoImplicit false

namespace Json

/-- The value of a lowercase hexadecimal digit. -/
def hexValue (c : Char) : Nat := if c.toNat < 58 then c.toNat - 48 else c.toNat - 87

theorem hexValue_hexDigit : ∀ n < 16, hexValue (hexDigit n) = n := by decide

/-- The character a backslash and `e` stand for, but for a `u` escape. -/
def shortEscape (e : Char) : Char :=
  if e = 'n' then '\n' else if e = 'r' then '\r' else if e = 't' then '\t'
  else if e = 'b' then '\x08' else if e = 'f' then '\x0c' else e

/-- Reads the first character of an escaped text back. -/
def unescapeHead : List Char → Option (Char × List Char)
  | '\\' :: 'u' :: _ :: _ :: h :: l :: t => some (Char.ofNat (16 * hexValue h + hexValue l), t)
  | '\\' :: e :: t => some (shortEscape e, t)
  | c :: t => some (c, t)
  | [] => none

/-- Reading an escape back gives the character escaped. -/
theorem unescapeHead_escapeChar (c : Char) (t : List Char) :
    unescapeHead (escapeChar c ++ t) = some (c, t) := by
  unfold escapeChar
  split
  · rfl
  · rfl
  · rfl
  · rfl
  · rfl
  · rfl
  · rfl
  · next hq hb _ _ _ _ _ =>
    split
    · next hc =>
      have h₁ := hexValue_hexDigit (c.toNat / 16) (by omega)
      have h₂ := hexValue_hexDigit (c.toNat % 16) (by omega)
      simp only [unescapeHead, List.cons_append, List.nil_append, h₁, h₂, Nat.div_add_mod,
        Char.ofNat_toNat]
    · show unescapeHead (c :: t) = some (c, t)
      unfold unescapeHead
      split
      · next heq => exact absurd (List.cons.inj heq).1 hb
      · next heq => exact absurd (List.cons.inj heq).1 hb
      · next heq =>
        obtain ⟨rfl, rfl⟩ := List.cons.inj heq
        rfl
      · next heq => cases heq

theorem escapeChar_append_inj {c c' : Char} {t t' : List Char}
    (h : escapeChar c ++ t = escapeChar c' ++ t') : c = c' ∧ t = t' := by
  have hread := (unescapeHead_escapeChar c t).symm.trans (h ▸ unescapeHead_escapeChar c' t')
  simpa using hread

/-- No escaped character starts with a quote. -/
theorem escapeChar_append_ne_quote (c : Char) (t r : List Char) :
    escapeChar c ++ t ≠ '"' :: r := by
  intro h
  have hread := unescapeHead_escapeChar c t
  rw [h] at hread
  obtain ⟨rfl, rfl⟩ : '"' = c ∧ r = t := by simpa [unescapeHead] using hread
  simp [escapeChar] at h

/-- An escaped text ends at its first unescaped quote. -/
theorem escaped_append_inj : ∀ {l l' r r' : List Char},
    l.flatMap escapeChar ++ '"' :: r = l'.flatMap escapeChar ++ '"' :: r' → l = l' ∧ r = r'
  | [], [], _, _, h => by simpa using h
  | [], c' :: l', _, _, h => by
    rw [List.flatMap_cons, List.append_assoc] at h
    exact absurd h.symm (escapeChar_append_ne_quote _ _ _)
  | c :: l, [], _, _, h => by
    rw [List.flatMap_cons, List.append_assoc] at h
    exact absurd h (escapeChar_append_ne_quote _ _ _)
  | c :: l, c' :: l', _, _, h => by
    rw [List.flatMap_cons, List.flatMap_cons, List.append_assoc, List.append_assoc] at h
    obtain ⟨rfl, ht⟩ := escapeChar_append_inj h
    obtain ⟨rfl, rfl⟩ := escaped_append_inj ht
    exact ⟨rfl, rfl⟩

theorem toList_quote (s : String) :
    (quote s).toList = '"' :: (s.toList.flatMap escapeChar ++ ['"']) := by
  simp [quote]

/-- A quoted string ends at its closing quote, whatever follows. -/
theorem quote_append_inj {s s' : String} {r r' : List Char}
    (h : (quote s).toList ++ r = (quote s').toList ++ r') : s = s' ∧ r = r' := by
  simp only [toList_quote, List.cons_append, List.cons.injEq, true_and, List.append_assoc] at h
  obtain ⟨hs, rfl⟩ := escaped_append_inj h
  exact ⟨String.toList_inj.mp hs, rfl⟩

/-- A run of digits ends where a character that is no digit follows. -/
theorem digits_append_inj : ∀ {a b r r' : List Char}, (∀ c ∈ a, c.isDigit = true) →
    (∀ c ∈ b, c.isDigit = true) → (∀ c ∈ r.head?, c.isDigit = false) →
    (∀ c ∈ r'.head?, c.isDigit = false) → a ++ r = b ++ r' → a = b ∧ r = r'
  | [], [], _, _, _, _, _, _, h => ⟨rfl, h⟩
  | [], d :: _, _, _, _, hb, hr, _, h => by
    subst h
    simp [hb d List.mem_cons_self] at hr
  | d :: _, [], _, _, ha, _, _, hr', h => by
    subst h
    simp [ha d List.mem_cons_self] at hr'
  | d :: a, e :: b, _, _, ha, hb, hr, hr', h => by
    rw [List.cons_append, List.cons_append] at h
    obtain ⟨rfl, hrest⟩ := List.cons.inj h
    obtain ⟨rfl, rfl⟩ := digits_append_inj (fun c hc => ha c (List.mem_cons_of_mem _ hc))
      (fun c hc => hb c (List.mem_cons_of_mem _ hc)) hr hr' hrest
    exact ⟨rfl, rfl⟩

theorem isDigit_of_mem_toDigits {n : Nat} {c : Char} (hc : c ∈ Nat.toDigits 10 n) :
    c.isDigit = true :=
  Nat.isDigit_of_mem_toDigits (by decide) (by decide) hc

/-- The decimal digits of a number, followed by no digit, are read back as the number. -/
theorem toDigits_append_inj {n m : Nat} {r r' : List Char}
    (hr : ∀ c ∈ r.head?, c.isDigit = false) (hr' : ∀ c ∈ r'.head?, c.isDigit = false)
    (h : Nat.toDigits 10 n ++ r = Nat.toDigits 10 m ++ r') : n = m ∧ r = r' := by
  obtain ⟨hd, rfl⟩ := digits_append_inj (fun _ => isDigit_of_mem_toDigits)
    (fun _ => isDigit_of_mem_toDigits) hr hr' h
  refine ⟨?_, rfl⟩
  rw [← Nat.ofDigitChars_ten_toDigits (n := n), hd, Nat.ofDigitChars_ten_toDigits]

theorem toDigits_eq_cons (n : Nat) :
    ∃ d ds, Nat.toDigits 10 n = d :: ds ∧ d.isDigit = true := by
  cases h : Nat.toDigits 10 n with
  | nil => exact absurd h Nat.toDigits_ne_nil
  | cons d ds => exact ⟨d, ds, rfl, isDigit_of_mem_toDigits (h ▸ List.mem_cons_self)⟩

mutual

/-- Every number of the tree is an integer of the kind its sign calls for, as `ofInt` and
`ofNat` build them. -/
def Integral : Json → Prop
  | .number (.nat _) => True
  | .number (.negInt n) => n < 0
  | .number _ => False
  | .array items => IntegralList items
  | .object fields => IntegralFields fields
  | _ => True

def IntegralList : List Json → Prop
  | [] => True
  | j :: rest => Integral j ∧ IntegralList rest

def IntegralFields : List (String × Json) → Prop
  | [] => True
  | (_, j) :: rest => Integral j ∧ IntegralFields rest

end

theorem integralList_iff {l : List Json} : IntegralList l ↔ ∀ j ∈ l, j.Integral := by
  induction l with
  | nil => simp [IntegralList]
  | cons j rest ih => simp [IntegralList, ih]

theorem integralFields_iff {l : List (String × Json)} :
    IntegralFields l ↔ ∀ p ∈ l, p.2.Integral := by
  induction l with
  | nil => simp [IntegralFields]
  | cons p rest ih =>
    obtain ⟨k, j⟩ := p
    simp [IntegralFields, ih]

@[simp] theorem integral_null : Json.null.Integral ↔ True := Iff.rfl

@[simp] theorem integral_bool (b : Bool) : (Json.bool b).Integral ↔ True := Iff.rfl

@[simp] theorem integral_string (s : String) : (Json.string s).Integral ↔ True := Iff.rfl

@[simp] theorem integral_array (items : List Json) :
    (Json.array items).Integral ↔ ∀ j ∈ items, j.Integral :=
  integralList_iff

@[simp] theorem integral_object (fields : List (String × Json)) :
    (Json.object fields).Integral ↔ ∀ p ∈ fields, p.2.Integral :=
  integralFields_iff

@[simp] theorem integral_ofNat (n : Nat) : (ofNat n).Integral ↔ True := Iff.rfl

@[simp] theorem integral_ofInt (i : Int) : (ofInt i).Integral := by
  unfold ofInt
  split
  · trivial
  · show i < 0
    omega

@[simp] theorem integral_ofBytes (bytes : List UInt8) : (ofBytes bytes).Integral := by
  simp [ofBytes]

theorem integral_ofOption {α : Type} {f : α → Json} (hf : ∀ a, (f a).Integral) :
    ∀ o : Option α, (ofOption f o).Integral
  | none => trivial
  | some a => hf a

/-- What may follow a value in compact text: nothing, a separator or a closing bracket. -/
def Follows (r : List Char) : Prop := ∀ c ∈ r.head?, c = ',' ∨ c = ']' ∨ c = '\x7d'

theorem follows_nil : Follows [] := fun _ h => by cases h

theorem follows_cons {c : Char} (hc : c = ',' ∨ c = ']' ∨ c = '\x7d') (t : List Char) :
    Follows (c :: t) := by
  intro x hx
  cases hx
  exact hc

theorem Follows.not_digit {r : List Char} (h : Follows r) : ∀ c ∈ r.head?, c.isDigit = false := by
  intro c hc
  rcases h c hc with rfl | rfl | rfl <;> rfl

/-- The kind of a value as the first character of its compact text tells it. -/
def kind : Json → Nat
  | .null => 0
  | .bool true => 1
  | .bool false => 2
  | .number (.nat _) => 3
  | .number _ => 4
  | .string _ => 5
  | .array _ => 6
  | .object _ => 7

/-- The kind of value a first character announces, or 8 for none. -/
def charKind (c : Char) : Nat :=
  if c.isDigit then 3 else if c = 'n' then 0 else if c = 't' then 1 else if c = 'f' then 2
  else if c = '-' then 4 else if c = '"' then 5 else if c = '[' then 6 else if c = '\x7b' then 7
  else 8

theorem toList_compact_nat (n : Nat) :
    (compact (.number (.nat n))).toList = Nat.toDigits 10 n := by
  simp [compact, Number.render]

theorem toList_compact_negInt {n : Int} (h : n < 0) :
    (compact (.number (.negInt n))).toList = '-' :: Nat.toDigits 10 n.natAbs := by
  obtain ⟨m, rfl⟩ := Int.eq_negSucc_of_lt_zero h
  simp [compact, Number.render, Int.repr]

theorem toList_compact_array (items : List Json) :
    (compact (.array items)).toList = '[' :: ((compactList items).toList ++ [']']) := by
  simp [compact]

theorem toList_compact_object (fields : List (String × Json)) :
    (compact (.object fields)).toList = '\x7b' :: ((compactFields fields).toList ++ ['\x7d']) := by
  simp [compact]

theorem toList_compactList_cons_cons (j k : Json) (rest : List Json) :
    (compactList (j :: k :: rest)).toList =
      (compact j).toList ++ ',' :: (compactList (k :: rest)).toList := by
  simp [compactList]

theorem toList_compactList_cons (j : Json) (rest : List Json) :
    ∃ t, (compactList (j :: rest)).toList = (compact j).toList ++ t := by
  cases rest with
  | nil => exact ⟨[], by simp [compactList]⟩
  | cons k rest => exact ⟨_, toList_compactList_cons_cons j k rest⟩

theorem toList_compactFields_one (k : String) (j : Json) :
    (compactFields [(k, j)]).toList = (quote k).toList ++ ':' :: (compact j).toList := by
  simp [compactFields]

theorem toList_compactFields_cons_cons (k : String) (j : Json) (p : String × Json)
    (rest : List (String × Json)) :
    (compactFields ((k, j) :: p :: rest)).toList =
      (quote k).toList ++ ':' :: ((compact j).toList ++ ',' :: (compactFields (p :: rest)).toList) := by
  simp [compactFields]

theorem toList_compactFields_cons (k : String) (j : Json) (rest : List (String × Json)) :
    ∃ t, (compactFields ((k, j) :: rest)).toList = '"' :: t := by
  cases rest with
  | nil => exact ⟨_, by rw [toList_compactFields_one, toList_quote]; rfl⟩
  | cons p rest => exact ⟨_, by rw [toList_compactFields_cons_cons, toList_quote]; rfl⟩

/-- The first character of a tree's compact text tells the kind of the tree. -/
theorem head?_compact {j : Json} (hj : j.Integral) :
    ((compact j).toList.head?).map charKind = some j.kind := by
  cases j with
  | null => rfl
  | bool b => cases b <;> rfl
  | number n =>
    cases n with
    | nat n =>
      obtain ⟨d, ds, hds, hd⟩ := toDigits_eq_cons n
      rw [toList_compact_nat, hds]
      simp [charKind, hd, kind]
    | negInt n =>
      rw [toList_compact_negInt hj]
      rfl
    | double x => exact hj.elim
    | single x => exact hj.elim
  | string s => rw [show (compact (.string s)).toList = (quote s).toList from rfl, toList_quote]; rfl
  | array items => rw [toList_compact_array]; rfl
  | object fields => rw [toList_compact_object]; rfl

theorem kind_lt (j : Json) : j.kind < 8 := by
  rcases j with _ | (_ | _) | (_ | _ | _ | _) | _ | _ | _ <;> simp [kind]

/-- Two compact texts that start alike are of values of the same kind. -/
theorem kind_eq_of_append_eq {j j' : Json} {r r' : List Char} (hj : j.Integral)
    (hj' : j'.Integral) (h : (compact j).toList ++ r = (compact j').toList ++ r') :
    j.kind = j'.kind := by
  obtain ⟨c, hc, hk⟩ := Option.map_eq_some_iff.mp (head?_compact hj)
  obtain ⟨c', hc', hk'⟩ := Option.map_eq_some_iff.mp (head?_compact hj')
  have hhead := congrArg List.head? h
  rw [List.head?_append, List.head?_append, hc, hc'] at hhead
  simp only [Option.some_or, Option.some.injEq] at hhead
  rw [← hk, ← hk', hhead]

/-- No compact value starts with a closing bracket. -/
theorem compact_append_ne_bracket {j : Json} (hj : j.Integral) (t r : List Char) :
    (compact j).toList ++ t ≠ ']' :: r := by
  intro h
  obtain ⟨c, hc, hk⟩ := Option.map_eq_some_iff.mp (head?_compact hj)
  have hhead := congrArg List.head? h
  rw [List.head?_append, hc] at hhead
  simp only [Option.some_or, List.head?_cons, Option.some.injEq] at hhead
  have hlt := kind_lt j
  rw [← hk, hhead] at hlt
  exact absurd hlt (by decide)

/-- A tree whose compact text, followed by what may follow a value, is read one way. -/
def ReadsOneWay (j : Json) : Prop :=
  j.Integral → ∀ (j' : Json) (r r' : List Char), j'.Integral → Follows r → Follows r' →
    (compact j).toList ++ r = (compact j').toList ++ r' → j = j' ∧ r = r'

/-- A value that is the only one of its kind reads one way: its text is all there is to read. -/
theorem readsOneWay_of_only {j : Json} (honly : ∀ j', j'.Integral → j'.kind = j.kind → j' = j) :
    ReadsOneWay j := by
  intro hj j' r r' hj' _ _ h
  obtain rfl := honly j' hj' (kind_eq_of_append_eq hj hj' h).symm
  exact ⟨rfl, List.append_cancel_left h⟩

/-- A value read one way, each side followed by a separator or a closing bracket: the values,
the separators and what follows them agree. -/
theorem ReadsOneWay.sep {j j' : Json} (hread : ReadsOneWay j) (hj : j.Integral)
    (hj' : j'.Integral) {c c' : Char} {r r' : List Char}
    (h : (compact j).toList ++ c :: r = (compact j').toList ++ c' :: r')
    (hc : c = ',' ∨ c = ']' ∨ c = '\x7d') (hc' : c' = ',' ∨ c' = ']' ∨ c' = '\x7d') :
    j = j' ∧ c = c' ∧ r = r' := by
  obtain ⟨rfl, hr⟩ := hread hj j' _ _ hj' (follows_cons hc r) (follows_cons hc' r') h
  exact ⟨rfl, List.cons.inj hr⟩

/-- The items of an array whose items each read one way are read one way up to its closing
bracket. -/
theorem compactList_append_inj {l l' : List Json} {r r' : List Char}
    (hread : ∀ j ∈ l, ReadsOneWay j) (hl : IntegralList l) (hl' : IntegralList l')
    (h : (compactList l).toList ++ ']' :: r = (compactList l').toList ++ ']' :: r') :
    l = l' ∧ r = r' := by
  induction l generalizing l' r r' with
  | nil =>
    rcases l' with _ | ⟨j', rest'⟩
    · exact ⟨rfl, by simpa [compactList] using h⟩
    · obtain ⟨t, ht⟩ := toList_compactList_cons j' rest'
      rw [ht, List.append_assoc] at h
      exact absurd h.symm (compact_append_ne_bracket hl'.1 _ _)
  | cons j rest ih =>
    rcases l' with _ | ⟨j', rest'⟩
    · obtain ⟨t, ht⟩ := toList_compactList_cons j rest
      rw [ht, List.append_assoc] at h
      exact absurd h (compact_append_ne_bracket hl.1 _ _)
    have hj := @ReadsOneWay.sep j j' (hread j List.mem_cons_self) hl.1 hl'.1
    rcases rest with _ | ⟨k, rest⟩ <;> rcases rest' with _ | ⟨k', rest'⟩
    · obtain ⟨rfl, -, rfl⟩ := hj h (by decide) (by decide)
      exact ⟨rfl, rfl⟩
    · rw [toList_compactList_cons_cons, List.append_assoc] at h
      exact absurd (hj h (by decide) (by decide)).2.1 (by decide)
    · rw [toList_compactList_cons_cons, List.append_assoc] at h
      exact absurd (hj h (by decide) (by decide)).2.1 (by decide)
    · rw [toList_compactList_cons_cons, toList_compactList_cons_cons, List.append_assoc,
        List.append_assoc] at h
      obtain ⟨rfl, -, hr⟩ := hj h (by decide) (by decide)
      obtain ⟨heq, rfl⟩ := ih (fun x hx => hread x (List.mem_cons_of_mem _ hx)) hl.2 hl'.2 hr
      exact ⟨by rw [heq], rfl⟩

/-- The fields of an object whose values each read one way are read one way up to its closing
brace. -/
theorem compactFields_append_inj {l l' : List (String × Json)} {r r' : List Char}
    (hread : ∀ p ∈ l, ReadsOneWay p.2) (hl : IntegralFields l) (hl' : IntegralFields l')
    (h : (compactFields l).toList ++ '\x7d' :: r = (compactFields l').toList ++ '\x7d' :: r') :
    l = l' ∧ r = r' := by
  induction l generalizing l' r r' with
  | nil =>
    rcases l' with _ | ⟨⟨k', j'⟩, rest'⟩
    · exact ⟨rfl, by simpa [compactFields] using h⟩
    · obtain ⟨t, ht⟩ := toList_compactFields_cons k' j' rest'
      rw [ht] at h
      exact absurd (List.cons.inj h).1 (by decide)
  | cons p rest ih =>
    obtain ⟨k, j⟩ := p
    rcases l' with _ | ⟨⟨k', j'⟩, rest'⟩
    · obtain ⟨t, ht⟩ := toList_compactFields_cons k j rest
      rw [ht] at h
      exact absurd (List.cons.inj h).1 (by decide)
    have hj := @ReadsOneWay.sep j j' (hread (k, j) List.mem_cons_self) hl.1 hl'.1
    rcases rest with _ | ⟨p, rest⟩ <;> rcases rest' with _ | ⟨p', rest'⟩
    · rw [toList_compactFields_one, toList_compactFields_one, List.append_assoc,
        List.append_assoc] at h
      obtain ⟨rfl, hrest⟩ := quote_append_inj h
      obtain ⟨rfl, -, rfl⟩ := hj (List.cons.inj hrest).2 (by decide) (by decide)
      exact ⟨rfl, rfl⟩
    · rw [toList_compactFields_one, toList_compactFields_cons_cons, List.append_assoc,
        List.append_assoc] at h
      obtain ⟨rfl, hrest⟩ := quote_append_inj h
      rw [List.cons_append, List.cons_append, List.cons.injEq, List.append_assoc] at hrest
      exact absurd (hj hrest.2 (by decide) (by decide)).2.1 (by decide)
    · rw [toList_compactFields_cons_cons, toList_compactFields_one, List.append_assoc,
        List.append_assoc] at h
      obtain ⟨rfl, hrest⟩ := quote_append_inj h
      rw [List.cons_append, List.cons_append, List.cons.injEq, List.append_assoc] at hrest
      exact absurd (hj hrest.2 (by decide) (by decide)).2.1 (by decide)
    · rw [toList_compactFields_cons_cons, toList_compactFields_cons_cons, List.append_assoc,
        List.append_assoc] at h
      obtain ⟨rfl, hrest⟩ := quote_append_inj h
      rw [List.cons_append, List.cons_append, List.cons.injEq, List.append_assoc,
        List.append_assoc] at hrest
      obtain ⟨rfl, -, hr⟩ := hj hrest.2 (by decide) (by decide)
      obtain ⟨heq, rfl⟩ := ih (fun x hx => hread x (List.mem_cons_of_mem _ hx)) hl.2 hl'.2 hr
      exact ⟨by rw [heq], rfl⟩

theorem sizeOf_snd_lt (p : String × Json) : sizeOf p.2 < sizeOf p := by
  obtain ⟨k, v⟩ := p
  simp only [Prod.mk.sizeOf_spec]
  omega

/-- Induction over a tree: a property of every item of an array, and of every field's value of
an object, holds of the array or the object. -/
@[elab_as_elim]
theorem induction_members {motive : Json → Prop} (null : motive .null)
    (bool : ∀ b, motive (.bool b)) (number : ∀ n, motive (.number n))
    (string : ∀ s, motive (.string s))
    (array : ∀ items, (∀ j ∈ items, motive j) → motive (.array items))
    (object : ∀ fields : List (String × Json), (∀ p ∈ fields, motive p.2) →
      motive (.object fields)) : ∀ j, motive j
  | .null => null
  | .bool b => bool b
  | .number n => number n
  | .string s => string s
  | .array items =>
    array items fun j _ => induction_members null bool number string array object j
  | .object fields =>
    object fields fun p _ => induction_members null bool number string array object p.2
termination_by j => sizeOf j
decreasing_by
  · have := List.sizeOf_lt_of_mem ‹_ ∈ items›
    simp only [Json.array.sizeOf_spec]
    omega
  · have hmem := List.sizeOf_lt_of_mem ‹_ ∈ fields›
    have hpair := sizeOf_snd_lt ‹String × Json›
    simp only [Json.object.sizeOf_spec]
    omega

/-- Unique readability: the first character tells the kind of a value, and each kind reads one
way, its items and fields by induction. -/
theorem readsOneWay : ∀ j : Json, ReadsOneWay j
  | .null => readsOneWay_of_only fun j' _ hk => by
    rcases j' with _ | (_ | _) | (_ | _ | _ | _) | _ | _ | _ <;> simp [kind] at hk ⊢
  | .bool true => readsOneWay_of_only fun j' _ hk => by
    rcases j' with _ | (_ | _) | (_ | _ | _ | _) | _ | _ | _ <;> simp [kind] at hk ⊢
  | .bool false => readsOneWay_of_only fun j' _ hk => by
    rcases j' with _ | (_ | _) | (_ | _ | _ | _) | _ | _ | _ <;> simp [kind] at hk ⊢
  | .number (.nat n) => by
    intro hj j' r r' hj' hr hr' h
    have hk := kind_eq_of_append_eq hj hj' h
    rcases j' with _ | (_ | _) | (n' | _ | _ | _) | _ | _ | _ <;> simp [kind] at hk
    rw [toList_compact_nat, toList_compact_nat] at h
    obtain ⟨rfl, rfl⟩ := toDigits_append_inj hr.not_digit hr'.not_digit h
    exact ⟨rfl, rfl⟩
  | .number (.negInt n) => by
    intro hj j' r r' hj' hr hr' h
    have hk := kind_eq_of_append_eq hj hj' h
    rcases j' with _ | (_ | _) | (_ | n' | x | x) | _ | _ | _ <;> simp [kind] at hk
    · rw [toList_compact_negInt hj, toList_compact_negInt hj', List.cons_append,
        List.cons_append, List.cons.injEq] at h
      obtain ⟨habs, rfl⟩ := toDigits_append_inj hr.not_digit hr'.not_digit h.2
      have hn : n < 0 := hj
      have hn' : n' < 0 := hj'
      refine ⟨?_, rfl⟩
      rw [Int.eq_neg_natAbs_of_nonpos hn.le, Int.eq_neg_natAbs_of_nonpos hn'.le, habs]
    · exact hj'.elim
    · exact hj'.elim
  | .number (.double _) => fun hj => hj.elim
  | .number (.single _) => fun hj => hj.elim
  | .string s => by
    intro hj j' r r' hj' _ _ h
    have hk := kind_eq_of_append_eq hj hj' h
    rcases j' with _ | (_ | _) | (_ | _ | _ | _) | s' | _ | _ <;> simp [kind] at hk
    obtain ⟨rfl, rfl⟩ := quote_append_inj h
    exact ⟨rfl, rfl⟩
  | .array items => by
    intro hj j' r r' hj' _ _ h
    have hk := kind_eq_of_append_eq hj hj' h
    rcases j' with _ | (_ | _) | (_ | _ | _ | _) | _ | items' | _ <;> simp [kind] at hk
    simp only [toList_compact_array, List.cons_append, List.cons.injEq, true_and,
      List.append_assoc] at h
    obtain ⟨rfl, rfl⟩ := compactList_append_inj (fun x _ => readsOneWay x) hj hj' h
    exact ⟨rfl, rfl⟩
  | .object fields => by
    intro hj j' r r' hj' _ _ h
    have hk := kind_eq_of_append_eq hj hj' h
    rcases j' with _ | (_ | _) | (_ | _ | _ | _) | _ | _ | fields' <;> simp [kind] at hk
    simp only [toList_compact_object, List.cons_append, List.cons.injEq, true_and,
      List.append_assoc] at h
    obtain ⟨rfl, rfl⟩ := compactFields_append_inj (fun p _ => readsOneWay p.2) hj hj' h
    exact ⟨rfl, rfl⟩
termination_by j => sizeOf j
decreasing_by
  · have := List.sizeOf_lt_of_mem ‹_ ∈ items›
    simp only [Json.array.sizeOf_spec]
    omega
  · have hmem := List.sizeOf_lt_of_mem ‹_ ∈ fields›
    have hpair := sizeOf_snd_lt ‹String × Json›
    simp only [Json.object.sizeOf_spec]
    omega

/-- A compact value, followed by what may follow a value, is read one way. -/
theorem compact_append_inj {j j' : Json} {r r' : List Char} (hj : j.Integral)
    (hj' : j'.Integral) (hr : Follows r) (hr' : Follows r')
    (h : (compact j).toList ++ r = (compact j').toList ++ r') : j = j' ∧ r = r' :=
  readsOneWay j hj _ _ _ hj' hr hr' h

/-- Two trees whose numbers are integers and whose compact texts are equal are the same tree. -/
theorem compact_inj {j j' : Json} (hj : j.Integral) (hj' : j'.Integral)
    (h : compact j = compact j') : j = j' :=
  (compact_append_inj hj hj' follows_nil follows_nil (by rw [h])).1

theorem ofNat_inj {m n : Nat} : ofNat m = ofNat n ↔ m = n := by
  simp [ofNat]

theorem ofInt_inj {a b : Int} : ofInt a = ofInt b ↔ a = b := by
  constructor
  · intro h
    unfold ofInt at h
    split at h <;> split at h <;> simp at h <;> omega
  · rintro rfl
    rfl

theorem ofBytes_inj {x y : List UInt8} : ofBytes x = ofBytes y ↔ x = y := by
  unfold ofBytes
  rw [Json.array.injEq]
  exact (List.map_injective_iff.mpr fun a b h => UInt8.toNat_inj.mp (ofNat_inj.mp h)).eq_iff

theorem ofOption_inj {α : Type} {f : α → Json} (hf : Function.Injective f)
    (hnull : ∀ a, f a ≠ .null) {o o' : Option α} : ofOption f o = ofOption f o' ↔ o = o' := by
  constructor
  · intro h
    cases o <;> cases o' <;> simp only [ofOption] at h
    · rfl
    · exact absurd h.symm (hnull _)
    · exact absurd h (hnull _)
    · rw [hf h]
  · rintro rfl
    rfl

theorem ofInt_ne_null (i : Int) : ofInt i ≠ .null := by
  unfold ofInt
  split <;> simp

/-- An integer's compact text is its decimal text. -/
theorem compact_ofInt (i : Int) : compact (ofInt i) = toString i := by
  unfold ofInt
  split
  · next h =>
    obtain ⟨m, rfl⟩ := Int.eq_ofNat_of_zero_le h
    rfl
  · rfl

theorem toString_int_inj {a b : Int} (h : toString a = toString b) : a = b :=
  ofInt_inj.mp (compact_inj (integral_ofInt a) (integral_ofInt b)
    (by rw [compact_ofInt, compact_ofInt, h]))

theorem toString_nat_inj {m n : Nat} (h : toString m = toString n) : m = n :=
  ofNat_inj.mp (compact_inj trivial trivial h)

end Json

end SessionSquash
