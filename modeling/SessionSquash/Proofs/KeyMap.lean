import SessionSquash.Data.KeyMap
import SessionSquash.Record.Shared

namespace SessionSquash

set_option autoImplicit false

namespace KeyMap

variable {κ ν μ : Type} [Ord κ]

/-- The keys strictly increase from front to back. -/
def Sorted (m : KeyMap κ ν) : Prop := m.entries.Pairwise fun a b => compare a.1 b.1 = .lt

/-- Keeps the entries whose value `f` maps to something, with that value. -/
def filterMapValues (m : KeyMap κ ν) (f : ν → Option μ) : KeyMap κ μ :=
  ⟨m.entries.filterMap fun e => (f e.2).map (e.1, ·)⟩

/-- Rewrites what one key holds from what it held; `none` leaves the key out. Every
update of a single key below is one of these. -/
def update (m : KeyMap κ ν) (k : κ) (f : Option ν → Option ν) : KeyMap κ ν :=
  match f (m.find? k) with
  | some v => m.insert k v
  | none => m.erase k

theorem sorted_empty : ({} : KeyMap κ ν).Sorted := List.Pairwise.nil

theorem find?_empty (k : κ) : ({} : KeyMap κ ν).find? k = none := rfl

theorem mem_insert_go {k x : κ} {v w : ν} :
    ∀ {l : List (κ × ν)}, (x, w) ∈ insert.go k v l → (x, w) = (k, v) ∨ (x, w) ∈ l
  | [] => by simp [insert.go]
  | (k', v') :: rest => by
    unfold insert.go
    split
    · exact fun h => by simpa only [List.mem_cons] using h
    · simp only [List.mem_cons]
      rintro (h | h)
      · exact .inl h
      · exact .inr (.inr h)
    · simp only [List.mem_cons]
      rintro (h | h)
      · exact .inr (.inl h)
      · rcases mem_insert_go h with h | h
        · exact .inl h
        · exact .inr (.inr h)

theorem Sorted.erase {m : KeyMap κ ν} (h : m.Sorted) (k : κ) : (m.erase k).Sorted :=
  h.sublist List.filter_sublist

theorem Sorted.foldl_erase {m : KeyMap κ ν} (h : m.Sorted) (ks : List κ) :
    (ks.foldl KeyMap.erase m).Sorted := by
  induction ks generalizing m with
  | nil => exact h
  | cons k rest ih => exact ih (h.erase k)

theorem Sorted.filter {m : KeyMap κ ν} (h : m.Sorted) (p : κ → Bool) : (m.filter p).Sorted :=
  h.sublist List.filter_sublist

theorem Sorted.filterMapValues {m : KeyMap κ ν} (h : m.Sorted) (f : ν → Option μ) :
    (m.filterMapValues f).Sorted := by
  unfold KeyMap.filterMapValues Sorted
  apply List.Pairwise.filterMap _ _ h
  intro a b hab a' ha' b' hb'
  cases hfa : f a.2 <;> cases hfb : f b.2 <;> simp_all
  subst_vars
  exact hab

theorem Sorted.insert [Std.TransOrd κ] [Std.LawfulEqOrd κ] {m : KeyMap κ ν} (h : m.Sorted)
    (k : κ) (v : ν) : (m.insert k v).Sorted := by
  obtain ⟨l⟩ := m
  simp only [KeyMap.insert, Sorted] at h ⊢
  induction l with
  | nil => simp [insert.go]
  | cons e rest ih =>
    obtain ⟨k₀, v₀⟩ := e
    have hrest := (List.pairwise_cons.mp h).2
    have hhead := (List.pairwise_cons.mp h).1
    unfold insert.go
    split
    · rename_i hlt
      refine List.Pairwise.cons ?_ h
      intro x hx
      rcases List.mem_cons.mp hx with rfl | hx
      · exact hlt
      · exact Std.TransCmp.lt_trans hlt (hhead x hx)
    · rename_i heq
      have hk : k = k₀ := Std.compare_eq_iff_eq.mp heq
      subst hk
      exact List.Pairwise.cons hhead hrest
    · rename_i hgt
      refine List.Pairwise.cons ?_ (ih hrest)
      intro x hx
      rcases mem_insert_go (x := x.1) (w := x.2) hx with hx | hx
      · rw [show x = (k, v) from hx]
        exact Std.OrientedCmp.lt_of_gt hgt
      · exact hhead x hx

theorem Sorted.alter [Std.TransOrd κ] [Std.LawfulEqOrd κ] {m : KeyMap κ ν} (h : m.Sorted)
    (k : κ) (init : ν) (f : ν → ν) : (m.alter k init f).Sorted :=
  h.insert k _

theorem Sorted.update [Std.TransOrd κ] [Std.LawfulEqOrd κ] {m : KeyMap κ ν} (h : m.Sorted)
    (k : κ) (f : Option ν → Option ν) : (m.update k f).Sorted := by
  unfold KeyMap.update
  split
  · exact h.insert k _
  · exact h.erase k

theorem Sorted.foldl_update [Std.TransOrd κ] [Std.LawfulEqOrd κ] {α : Type} {m : KeyMap κ ν}
    (hm : m.Sorted) (key : α → κ) (f : α → Option ν → Option ν) (l : List α) :
    (l.foldl (fun acc a => acc.update (key a) (f a)) m).Sorted := by
  induction l generalizing m with
  | nil => exact hm
  | cons a rest ih => exact ih (hm.update (key a) _)

theorem insert_eq_update (m : KeyMap κ ν) (k : κ) (v : ν) :
    m.insert k v = m.update k fun _ => some v := rfl

theorem erase_eq_update (m : KeyMap κ ν) (k : κ) : m.erase k = m.update k fun _ => none := rfl

/-- An update reads the key only once: two that agree on what it holds agree. -/
theorem update_congr (m : KeyMap κ ν) (k : κ) {f g : Option ν → Option ν}
    (h : f (m.find? k) = g (m.find? k)) : m.update k f = m.update k g := by
  unfold update
  rw [h]

theorem contains_iff (m : KeyMap κ ν) (k : κ) : m.contains k = true ↔ (m.find? k).isSome :=
  Iff.rfl

/-- Erasing a key the map does not hold leaves it as it is. -/
theorem erase_of_find?_eq_none {m : KeyMap κ ν} {k : κ} (h : m.find? k = none) : m.erase k = m := by
  obtain ⟨l⟩ := m
  simp only [KeyMap.find?, Option.map_eq_none_iff, List.find?_eq_none] at h
  simp only [KeyMap.erase]
  congr 1
  rw [List.filter_eq_self]
  intro e he
  simpa using h e he

theorem foldl_erase_empty (ks : List κ) : ks.foldl KeyMap.erase ({} : KeyMap κ ν) = {} := by
  induction ks with
  | nil => rfl
  | cons k rest ih => exact ih

theorem mem_entries_insert {m : KeyMap κ ν} {k : κ} {v : ν} {p : κ × ν}
    (h : p ∈ (m.insert k v).entries) : p = (k, v) ∨ p ∈ m.entries := by
  obtain ⟨x, w⟩ := p
  exact mem_insert_go h

/-- A lookup answers with the value of some entry. -/
theorem find?_mem {m : KeyMap κ ν} {k : κ} {v : ν} (h : m.find? k = some v) :
    ∃ k', (k', v) ∈ m.entries := by
  obtain ⟨e, he, rfl⟩ := Option.map_eq_some_iff.mp h
  exact ⟨e.1, List.mem_of_find?_eq_some he⟩

/-- An altered map holds its old entries, and under the key a value made from `init` or from
the value of an old entry. -/
theorem mem_entries_alter {m : KeyMap κ ν} {k : κ} {init : ν} {f : ν → ν} {p : κ × ν}
    (h : p ∈ (m.alter k init f).entries) :
    p ∈ m.entries ∨ p.2 = f init ∨ ∃ q ∈ m.entries, p.2 = f q.2 := by
  rcases mem_entries_insert h with rfl | h
  · cases hfind : m.find? k with
    | none => exact .inr (.inl rfl)
    | some v =>
      obtain ⟨k', hk'⟩ := find?_mem hfind
      exact .inr (.inr ⟨(k', v), hk', rfl⟩)
  · exact .inl h

/-- An updated map holds its old entries, and under the key what the update made of the old
value. -/
theorem mem_entries_update {m : KeyMap κ ν} {k : κ} {f : Option ν → Option ν} {p : κ × ν}
    (h : p ∈ (m.update k f).entries) : p ∈ m.entries ∨ f (m.find? k) = some p.2 := by
  unfold update at h
  split at h
  · rename_i v hv
    rcases mem_entries_insert h with rfl | h
    · exact .inr hv
    · exact .inl h
  · exact .inl (List.mem_filter.mp h).1

theorem mem_entries_foldl_erase {ks : List κ} {m : KeyMap κ ν} {p : κ × ν}
    (h : p ∈ (ks.foldl KeyMap.erase m).entries) : p ∈ m.entries := by
  induction ks generalizing m with
  | nil => exact h
  | cons k rest ih => exact (List.mem_filter.mp (ih h)).1

section Lookup

variable [Std.LawfulEqOrd κ] [DecidableEq κ]

theorem find?_cons (k k' : κ) (v : ν) (rest : List (κ × ν)) :
    (⟨(k', v) :: rest⟩ : KeyMap κ ν).find? k =
      if k' = k then some v else (⟨rest⟩ : KeyMap κ ν).find? k := by
  by_cases h : k' = k
  · subst h; simp [KeyMap.find?]
  · have : compare k' k ≠ .eq := fun he => h (Std.compare_eq_iff_eq.mp he)
    simp [KeyMap.find?, h, this]

theorem find?_filter (m : KeyMap κ ν) (p : κ → Bool) (k : κ) :
    (m.filter p).find? k = if p k then m.find? k else none := by
  obtain ⟨l⟩ := m
  induction l with
  | nil => simp [KeyMap.filter, KeyMap.find?]
  | cons e rest ih =>
    obtain ⟨k₀, v₀⟩ := e
    have hf : (⟨(k₀, v₀) :: rest⟩ : KeyMap κ ν).filter p =
        if p k₀ then ⟨(k₀, v₀) :: ((⟨rest⟩ : KeyMap κ ν).filter p).entries⟩
        else (⟨rest⟩ : KeyMap κ ν).filter p := by
      simp only [KeyMap.filter, List.filter_cons]
      split <;> rfl
    rw [hf, find?_cons]
    by_cases hk : k₀ = k
    · subst hk
      by_cases hp : p k₀ <;> simp [hp, find?_cons, ih]
    · by_cases hp : p k₀ <;> simp [hp, find?_cons, hk, ih]

theorem find?_insert_go (k k' : κ) (v : ν) :
    ∀ l : List (κ × ν), (⟨insert.go k v l⟩ : KeyMap κ ν).find? k' =
      if k = k' then some v else (⟨l⟩ : KeyMap κ ν).find? k'
  | [] => by
    rw [show insert.go k v [] = [(k, v)] from rfl, find?_cons]
  | (k₀, v₀) :: rest => by
    unfold insert.go
    split
    · rw [find?_cons]
    · rename_i heq
      have hk : k = k₀ := Std.compare_eq_iff_eq.mp heq
      subst hk
      simp only [find?_cons]
      by_cases h : k = k' <;> simp [h]
    · rename_i hgt
      have hne : k₀ ≠ k := by
        intro h; subst h; simp [Std.ReflOrd.compare_self] at hgt
      rw [find?_cons, find?_cons, find?_insert_go k k' v rest]
      by_cases h1 : k₀ = k'
      · subst h1
        simp [Ne.symm hne]
      · simp [h1]

@[simp] theorem find?_insert (m : KeyMap κ ν) (k k' : κ) (v : ν) :
    (m.insert k v).find? k' = if k = k' then some v else m.find? k' :=
  find?_insert_go k k' v m.entries

@[simp] theorem find?_erase (m : KeyMap κ ν) (k k' : κ) :
    (m.erase k).find? k' = if k = k' then none else m.find? k' := by
  have h := find?_filter m (fun e => compare e k != .eq) k'
  simp only [KeyMap.filter] at h
  simp only [KeyMap.erase]
  rw [h]
  by_cases hk : k = k'
  · subst hk; simp [Std.ReflOrd.compare_self]
  · have : compare k' k ≠ .eq := fun he => hk (Std.compare_eq_iff_eq.mp he).symm
    simp [hk, this]

theorem find?_foldl_erase (ks : List κ) (k : κ) :
    ∀ m : KeyMap κ ν, (ks.foldl KeyMap.erase m).find? k = if k ∈ ks then none else m.find? k := by
  induction ks with
  | nil => intro m; simp
  | cons k₀ rest ih =>
    intro m
    rw [List.foldl_cons, ih, find?_erase]
    by_cases h₀ : k₀ = k
    · subst h₀; simp
    · by_cases hr : k ∈ rest <;> simp [hr, h₀, Ne.symm h₀]

@[simp] theorem find?_alter (m : KeyMap κ ν) (k k' : κ) (init : ν) (f : ν → ν) :
    (m.alter k init f).find? k' =
      if k = k' then some (f ((m.find? k).getD init)) else m.find? k' :=
  find?_insert m k k' _

/-- In a sorted map, a lookup finds exactly the entries of the list. -/
theorem Sorted.find?_eq_some_iff {m : KeyMap κ ν} (h : m.Sorted) {k : κ} {v : ν} :
    m.find? k = some v ↔ (k, v) ∈ m.entries := by
  obtain ⟨l⟩ := m
  simp only [Sorted] at h
  induction l with
  | nil => simp [KeyMap.find?]
  | cons e rest ih =>
    obtain ⟨k₀, v₀⟩ := e
    have ih' := ih (List.pairwise_cons.mp h).2
    rw [find?_cons]
    by_cases hk : k₀ = k
    · subst hk
      have hnot : (k₀, v) ∉ rest := fun hw => by
        have := (List.pairwise_cons.mp h).1 _ hw
        simp [Std.ReflOrd.compare_self] at this
      simp only [if_true, Option.some.injEq, List.mem_cons, Prod.mk.injEq, true_and]
      constructor
      · rintro rfl; exact .inl rfl
      · rintro (h | h)
        · exact h.symm
        · exact absurd h hnot
    · simp only [hk, if_false, ih', List.mem_cons, Prod.mk.injEq]
      constructor
      · exact .inr
      · rintro (⟨h, _⟩ | h)
        · exact absurd h.symm hk
        · exact h

omit [DecidableEq κ] in
/-- A sorted map holds each key once. -/
theorem Sorted.nodup_keys {m : KeyMap κ ν} (h : m.Sorted) : (m.entries.map Prod.fst).Nodup := by
  refine List.pairwise_map.mpr (h.imp fun hlt heq => ?_)
  rw [heq, Std.ReflOrd.compare_self] at hlt
  cases hlt

@[simp] theorem find?_filterMapValues {m : KeyMap κ ν} (h : m.Sorted) (f : ν → Option μ) (k : κ) :
    (m.filterMapValues f).find? k = (m.find? k).bind f := by
  obtain ⟨l⟩ := m
  simp only [Sorted] at h
  induction l with
  | nil => rfl
  | cons e rest ih =>
    obtain ⟨k₀, v₀⟩ := e
    have ih' := ih (List.pairwise_cons.mp h).2
    have hfm : (⟨(k₀, v₀) :: rest⟩ : KeyMap κ ν).filterMapValues f =
        match f v₀ with
        | some w => ⟨(k₀, w) :: ((⟨rest⟩ : KeyMap κ ν).filterMapValues f).entries⟩
        | none => (⟨rest⟩ : KeyMap κ ν).filterMapValues f := by
      simp only [KeyMap.filterMapValues, List.filterMap_cons]
      cases f v₀ <;> rfl
    rw [hfm, find?_cons]
    by_cases hk : k₀ = k
    · subst hk
      have hnone : (⟨rest⟩ : KeyMap κ ν).find? k₀ = none := by
        cases hf : (⟨rest⟩ : KeyMap κ ν).find? k₀ with
        | none => rfl
        | some w =>
          have hmem := ((show (⟨rest⟩ : KeyMap κ ν).Sorted from
            (List.pairwise_cons.mp h).2).find?_eq_some_iff).mp hf
          have := (List.pairwise_cons.mp h).1 _ hmem
          simp [Std.ReflOrd.compare_self] at this
      cases hf : f v₀ with
      | some w => simp [find?_cons, hf]
      | none => simp [ih', hnone, hf]
    · cases hf : f v₀ with
      | some w => simp [find?_cons, hk, ih']
      | none => simp [hk, ih']

theorem Sorted.find?_tail {k : κ} {v : ν} {rest : List (κ × ν)} {k' : κ}
    (h : (⟨(k, v) :: rest⟩ : KeyMap κ ν).Sorted) (hk : compare k k' ≠ .lt) :
    (⟨rest⟩ : KeyMap κ ν).find? k' = none := by
  cases hf : (⟨rest⟩ : KeyMap κ ν).find? k' with
  | none => rfl
  | some w =>
    have hrest : (⟨rest⟩ : KeyMap κ ν).Sorted := (List.pairwise_cons.mp h).2
    exact absurd ((List.pairwise_cons.mp h).1 _ (hrest.find?_eq_some_iff.mp hf)) hk

theorem find?_update (m : KeyMap κ ν) (k k' : κ) (f : Option ν → Option ν) :
    (m.update k f).find? k' = if k = k' then f (m.find? k) else m.find? k' := by
  unfold KeyMap.update
  split
  · rename_i v hv
    rw [find?_insert]
    by_cases hk : k = k'
    · subst hk; simp [hv]
    · simp [hk]
  · rename_i hv
    rw [find?_erase]
    by_cases hk : k = k'
    · subst hk; simp [hv]
    · simp [hk]

/-- Updating a map once for each element of a list whose keys are pairwise distinct: a key is
changed by the one element that names it. -/
theorem find?_foldl_update {α : Type} (key : α → κ) (f : α → Option ν → Option ν) :
    ∀ {l : List α}, l.Pairwise (fun a b => key a ≠ key b) → ∀ (base : KeyMap κ ν) (k : κ),
      (l.foldl (fun acc a => acc.update (key a) (f a)) base).find? k =
        match l.find? fun a => decide (key a = k) with
        | some a => f a (base.find? k)
        | none => base.find? k
  | [], _, _, _ => rfl
  | a :: rest, hl, base, k => by
    rw [List.foldl_cons, find?_foldl_update key f (List.pairwise_cons.mp hl).2, List.find?_cons]
    by_cases hk : key a = k
    · have hnone : (rest.find? fun b => decide (key b = k)) = none :=
        List.find?_eq_none.mpr fun b hb hbk =>
          (List.pairwise_cons.mp hl).1 b hb (hk.trans (of_decide_eq_true hbk).symm)
      simp [hnone, hk, find?_update]
    · cases rest.find? fun b => decide (key b = k) <;> simp [find?_update, hk]

/-- Updating a map at every entry of a sorted list, each by its key and value: a key the list
holds is changed once, by its own entry. -/
theorem find?_foldl_update_entries_of_find? (f : κ → μ → Option ν → Option ν) {m : KeyMap κ μ}
    (hm : m.Sorted) (base : KeyMap κ ν) (k : κ) :
    (m.entries.foldl (fun acc p => acc.update p.1 (f p.1 p.2)) base).find? k =
      (m.find? k).elim (base.find? k) fun x => f k x (base.find? k) := by
  obtain ⟨l⟩ := m
  have hl : l.Pairwise fun a b => compare a.1 b.1 = .lt := hm
  have hne : l.Pairwise fun a b => a.1 ≠ b.1 := hl.imp fun h he => by
    rw [he, Std.ReflOrd.compare_self] at h
    cases h
  rw [find?_foldl_update Prod.fst (fun p => f p.1 p.2) hne]
  have hfind : (⟨l⟩ : KeyMap κ μ).find? k = (l.find? fun a => decide (a.1 = k)).map (·.2) := by
    simp only [KeyMap.find?]
    congr 2
    funext a
    by_cases h : a.1 = k
    · simp [h, Std.ReflOrd.compare_self]
    · have : compare a.1 k ≠ .eq := fun he => h (Std.compare_eq_iff_eq.mp he)
      simp [h, this]
  rw [hfind]
  cases hx : l.find? fun a => decide (a.1 = k) with
  | none => rfl
  | some a =>
    have hk : a.1 = k := by simpa using List.find?_some hx
    subst hk
    rfl

/-- Updating a map at every entry of a sorted list, each by the value of the entry. -/
theorem find?_foldl_update_entries (f : μ → Option ν → Option ν) {m : KeyMap κ μ}
    (hm : m.Sorted) (base : KeyMap κ ν) (k : κ) :
    (m.entries.foldl (fun acc p => acc.update p.1 (f p.2)) base).find? k =
      match m.find? k with
      | some x => f x (base.find? k)
      | none => base.find? k := by
  rw [find?_foldl_update_entries_of_find? (fun _ => f) hm]
  cases m.find? k <;> rfl

end Lookup

section Ext

variable [Std.TransOrd κ] [Std.LawfulEqOrd κ] [DecidableEq κ]

/-- Two sorted maps with the same lookups are the same map. -/
theorem ext {m₁ m₂ : KeyMap κ ν} (h₁ : m₁.Sorted) (h₂ : m₂.Sorted)
    (h : ∀ k, m₁.find? k = m₂.find? k) : m₁ = m₂ := by
  obtain ⟨l₁⟩ := m₁
  obtain ⟨l₂⟩ := m₂
  congr
  induction l₁ generalizing l₂ with
  | nil =>
    cases l₂ with
    | nil => rfl
    | cons e rest =>
      have := h e.1
      rw [find?_empty, show e = (e.1, e.2) from rfl, find?_cons, if_pos rfl] at this
      exact absurd this.symm (by simp)
  | cons a r₁ ih =>
    cases l₂ with
    | nil =>
      have := h a.1
      rw [show a = (a.1, a.2) from rfl, find?_cons, if_pos rfl] at this
      exact absurd this (by simp [find?_empty])
    | cons b r₂ =>
      obtain ⟨ka, va⟩ := a
      obtain ⟨kb, vb⟩ := b
      have hkey : ka = kb := by
        cases hc : compare ka kb with
        | eq => exact Std.compare_eq_iff_eq.mp hc
        | lt =>
          have hne : kb ≠ ka := fun e => by simp [e, Std.ReflOrd.compare_self] at hc
          have hl := h ka
          rw [find?_cons, find?_cons, if_pos rfl, if_neg hne,
            h₂.find?_tail (by simp [Std.OrientedCmp.gt_of_lt hc])] at hl
          exact absurd hl (by simp)
        | gt =>
          have hne : ka ≠ kb := fun e => by simp [e, Std.ReflOrd.compare_self] at hc
          have hl := h kb
          rw [find?_cons, find?_cons, if_pos rfl, if_neg hne,
            h₁.find?_tail (by simp [hc])] at hl
          exact absurd hl (by simp)
      subst hkey
      have hval : va = vb := by
        have hl := h ka
        rw [find?_cons, find?_cons, if_pos rfl, if_pos rfl] at hl
        exact Option.some.inj hl
      subst hval
      congr 1
      apply ih (List.pairwise_cons.mp h₁).2 _ (List.pairwise_cons.mp h₂).2
      intro k
      by_cases hk : ka = k
      · subst hk
        rw [h₁.find?_tail (by simp [Std.ReflOrd.compare_self]),
          h₂.find?_tail (by simp [Std.ReflOrd.compare_self])]
      · have hl := h k
        simp only [find?_cons, if_neg hk] at hl
        exact hl

/-- An update that gives back what the key held changes nothing. -/
theorem update_of_eq {m : KeyMap κ ν} (h : m.Sorted) {k : κ} {f : Option ν → Option ν}
    (hf : f (m.find? k) = m.find? k) : m.update k f = m := by
  apply ext (h.update k f) h
  intro k'
  rw [find?_update]
  by_cases hk : k = k'
  · subst hk; simp [hf]
  · simp [hk]

/-- Two updates of one key are one update by their composite. -/
theorem update_update {m : KeyMap κ ν} (h : m.Sorted) (k : κ) (f g : Option ν → Option ν) :
    (m.update k f).update k g = m.update k (g ∘ f) := by
  apply ext ((h.update k f).update k g) (h.update k _)
  intro j
  simp only [find?_update]
  by_cases hk : k = j <;> simp [hk]

/-- Two updates of one key can be made in either order when they commute on what it holds. -/
theorem update_comm_of_eq {m : KeyMap κ ν} (h : m.Sorted) {k : κ} {f g : Option ν → Option ν}
    (hfg : g (f (m.find? k)) = f (g (m.find? k))) :
    (m.update k f).update k g = (m.update k g).update k f := by
  rw [update_update h, update_update h]
  unfold KeyMap.update
  simp only [Function.comp, hfg]

/-- Updates of two different keys can be made in either order. -/
theorem update_comm {m : KeyMap κ ν} (h : m.Sorted) {k k' : κ} (hk : k ≠ k')
    (f g : Option ν → Option ν) : (m.update k f).update k' g = (m.update k' g).update k f := by
  apply ext ((h.update k f).update k' g) ((h.update k' g).update k f)
  intro j
  simp only [find?_update]
  by_cases h₁ : k = j <;> by_cases h₂ : k' = j
  · exact absurd (h₁.trans h₂.symm) hk
  all_goals simp [h₁, h₂]

/-- Erasing keys one after another commutes with an update of a key not among them. -/
theorem update_foldl_erase {m : KeyMap κ ν} (h : m.Sorted) {ks : List κ} {k : κ} (hk : k ∉ ks)
    (f : Option ν → Option ν) :
    (ks.foldl KeyMap.erase m).update k f = ks.foldl KeyMap.erase (m.update k f) := by
  induction ks generalizing m with
  | nil => rfl
  | cons k' rest ih =>
    have hne : k ≠ k' := fun e => hk (e ▸ List.mem_cons_self)
    have hrest : k ∉ rest := fun e => hk (List.mem_cons_of_mem _ e)
    simp only [List.foldl_cons]
    rw [ih (h.erase k') hrest, erase_eq_update, erase_eq_update,
      update_comm h (Ne.symm hne)]

/-- Filtering values after an update of one key is updating the filtered map there. -/
theorem filterMapValues_update {m : KeyMap κ ν} (h : m.Sorted) (k : κ)
    (f : Option ν → Option ν) (g : ν → Option μ) :
    (m.update k f).filterMapValues g =
      (m.filterMapValues g).update k fun _ => (f (m.find? k)).bind g := by
  apply ext ((h.update k f).filterMapValues g) ((h.filterMapValues g).update k _)
  intro j
  rw [find?_filterMapValues (h.update k f), find?_update, find?_update,
    find?_filterMapValues h]
  by_cases hk : k = j <;> simp [hk]

theorem filterMapValues_congr {m : KeyMap κ ν} (hm : m.Sorted) {f g : ν → Option μ}
    (h : ∀ k x, m.find? k = some x → f x = g x) : m.filterMapValues f = m.filterMapValues g := by
  apply ext (hm.filterMapValues f) (hm.filterMapValues g)
  intro k
  rw [find?_filterMapValues hm, find?_filterMapValues hm]
  cases hk : m.find? k with
  | none => rfl
  | some x => exact h k x hk

/-- Updating the empty map at every entry of a sorted map maps each of its values. -/
theorem foldl_update_entries_empty {m : KeyMap κ μ} (hm : m.Sorted)
    (f : μ → Option ν → Option ν) :
    m.entries.foldl (fun acc p => acc.update p.1 (f p.2)) {} =
      m.filterMapValues fun x => f x none := by
  apply ext (sorted_empty.foldl_update Prod.fst (fun p => f p.2) m.entries) (hm.filterMapValues _)
  intro k
  rw [find?_foldl_update_entries f hm, find?_filterMapValues hm]
  cases m.find? k <;> rfl

end Ext

section Sizes

omit [Ord κ] in
theorem length_values (m : KeyMap κ ν) : m.values.length = m.size := List.length_map _

/-- Putting a value under a key adds at most one entry. -/
theorem size_insert_le (m : KeyMap κ ν) (k : κ) (v : ν) : (m.insert k v).size ≤ m.size + 1 := by
  obtain ⟨l⟩ := m
  simp only [KeyMap.insert, KeyMap.size]
  induction l with
  | nil => simp [insert.go]
  | cons e rest ih =>
    obtain ⟨k₀, v₀⟩ := e
    unfold insert.go
    split <;> simp only [List.length_cons] <;> omega

theorem size_erase_le (m : KeyMap κ ν) (k : κ) : (m.erase k).size ≤ m.size :=
  List.length_filter_le _ _

omit [Ord κ] in
theorem size_filter_le (m : KeyMap κ ν) (p : κ → Bool) : (m.filter p).size ≤ m.size :=
  List.length_filter_le _ _

end Sizes

end KeyMap

namespace KeySet

variable {κ : Type} [Ord κ]

/-- The elements strictly increase from front to back. -/
def Sorted (s : KeySet κ) : Prop := s.elements.Pairwise fun a b => compare a b = .lt

theorem sorted_empty : ({} : KeySet κ).Sorted := List.Pairwise.nil

theorem Sorted.erase {s : KeySet κ} (h : s.Sorted) (k : κ) : (s.erase k).Sorted :=
  h.sublist List.filter_sublist

theorem mem_insert_go {k x : κ} : ∀ {l : List κ}, x ∈ insert.go k l → x = k ∨ x ∈ l
  | [] => by simp [insert.go]
  | k' :: rest => by
    unfold insert.go
    split
    · exact fun h => by simpa only [List.mem_cons] using h
    · exact fun h => .inr h
    · simp only [List.mem_cons]
      rintro (h | h)
      · exact .inr (.inl h)
      · rcases mem_insert_go h with h | h
        · exact .inl h
        · exact .inr (.inr h)

theorem Sorted.insert [Std.TransOrd κ] {s : KeySet κ} (h : s.Sorted) (k : κ) :
    (s.insert k).Sorted := by
  obtain ⟨l⟩ := s
  simp only [KeySet.insert, Sorted] at h ⊢
  induction l with
  | nil => simp [insert.go]
  | cons k₀ rest ih =>
    have hrest := (List.pairwise_cons.mp h).2
    have hhead := (List.pairwise_cons.mp h).1
    unfold insert.go
    split
    · rename_i hlt
      refine List.Pairwise.cons ?_ h
      intro x hx
      rcases List.mem_cons.mp hx with rfl | hx
      · exact hlt
      · exact Std.TransCmp.lt_trans hlt (hhead x hx)
    · exact h
    · rename_i hgt
      refine List.Pairwise.cons ?_ (ih hrest)
      intro x hx
      rcases mem_insert_go hx with rfl | hx
      · exact Std.OrientedCmp.lt_of_gt hgt
      · exact hhead x hx

theorem Sorted.foldl_insert [Std.TransOrd κ] {s : KeySet κ} (h : s.Sorted) (ks : List κ) :
    (ks.foldl KeySet.insert s).Sorted := by
  induction ks generalizing s with
  | nil => exact h
  | cons k rest ih => exact ih (h.insert k)

theorem Sorted.foldl_erase {s : KeySet κ} (h : s.Sorted) (ks : List κ) :
    (ks.foldl KeySet.erase s).Sorted := by
  induction ks generalizing s with
  | nil => exact h
  | cons k rest ih => exact ih (h.erase k)

/-- Erasing an element that is not there changes nothing. -/
theorem erase_of_contains_eq_false {s : KeySet κ} {k : κ} (h : s.contains k = false) :
    s.erase k = s := by
  obtain ⟨l⟩ := s
  simp only [KeySet.erase, KeySet.contains, List.any_eq_false] at h ⊢
  congr 1
  rw [List.filter_eq_self]
  intro a ha
  simpa using h a ha

theorem insert_go_of_lt [Std.TransOrd κ] {k : κ} :
    ∀ {l : List κ}, (∀ a ∈ l, compare a k = .lt) → insert.go k l = l ++ [k]
  | [] => fun _ => rfl
  | a :: rest => fun h => by
    have hgt : compare k a = .gt := Std.OrientedCmp.gt_of_lt (h a List.mem_cons_self)
    unfold insert.go
    rw [hgt]
    simp only [List.cons_append]
    rw [insert_go_of_lt fun b hb => h b (List.mem_cons_of_mem _ hb)]

/-- Inserting the elements of a sorted list, in order, after smaller ones appends them. -/
theorem foldl_insert_of_sorted [Std.TransOrd κ] :
    ∀ (acc rest : List κ), (acc ++ rest).Pairwise (fun a b => compare a b = .lt) →
      rest.foldl KeySet.insert ⟨acc⟩ = ⟨acc ++ rest⟩
  | acc, [] => fun _ => by simp
  | acc, x :: rest => fun h => by
    have hx : ∀ a ∈ acc, compare a x = .lt := fun a ha =>
      (List.pairwise_append.mp h).2.2 a ha x List.mem_cons_self
    have hstep : KeySet.insert ⟨acc⟩ x = ⟨acc ++ [x]⟩ := by
      simp only [KeySet.insert]
      rw [insert_go_of_lt hx]
    rw [List.foldl_cons, hstep, foldl_insert_of_sorted (acc ++ [x]) rest (by simpa using h)]
    simp

section Members

variable [Std.LawfulEqOrd κ]

theorem contains_iff_mem {s : KeySet κ} {k : κ} : s.contains k = true ↔ k ∈ s.elements := by
  simp [KeySet.contains]

theorem mem_insert_go_iff {k x : κ} : ∀ {l : List κ}, x ∈ insert.go k l ↔ x = k ∨ x ∈ l
  | [] => by simp [insert.go]
  | k' :: rest => by
    unfold insert.go
    split
    · simp only [List.mem_cons]
    · rename_i heq
      have hk : k = k' := Std.LawfulEqOrd.eq_of_compare heq
      subst hk
      simp only [List.mem_cons]
      constructor
      · exact fun h => .inr h
      · rintro (h | h | h) <;> simp [h]
    · simp only [List.mem_cons, mem_insert_go_iff]
      constructor
      · rintro (h | h | h) <;> simp [h]
      · rintro (h | h | h) <;> simp [h]

theorem mem_insert {s : KeySet κ} {k x : κ} :
    x ∈ (s.insert k).elements ↔ x = k ∨ x ∈ s.elements :=
  mem_insert_go_iff

theorem mem_erase {s : KeySet κ} {k x : κ} :
    x ∈ (s.erase k).elements ↔ x ∈ s.elements ∧ x ≠ k := by
  simp [KeySet.erase]

theorem mem_foldl_insert {x : κ} :
    ∀ (ks : List κ) (s : KeySet κ),
      x ∈ (ks.foldl KeySet.insert s).elements ↔ x ∈ ks ∨ x ∈ s.elements
  | [], _ => by simp
  | k :: rest, s => by
    rw [List.foldl_cons, mem_foldl_insert rest, mem_insert, List.mem_cons]
    simp only [or_assoc, or_left_comm]

theorem mem_foldl_erase {x : κ} :
    ∀ (ks : List κ) (s : KeySet κ),
      x ∈ (ks.foldl KeySet.erase s).elements ↔ x ∈ s.elements ∧ x ∉ ks
  | [], _ => by simp
  | k :: rest, s => by
    rw [List.foldl_cons, mem_foldl_erase rest, mem_erase, List.mem_cons]
    simp only [not_or, and_assoc, ne_eq]

theorem mem_ofList {ks : List κ} {x : κ} : x ∈ (KeySet.ofList ks).elements ↔ x ∈ ks := by
  rw [KeySet.ofList, mem_foldl_insert]
  simp [KeySet.empty]

/-- Two sorted sets with the same elements are the same set. -/
theorem ext [Std.TransOrd κ] {s₁ s₂ : KeySet κ} (h₁ : s₁.Sorted) (h₂ : s₂.Sorted)
    (h : ∀ x, x ∈ s₁.elements ↔ x ∈ s₂.elements) : s₁ = s₂ := by
  obtain ⟨l₁⟩ := s₁
  obtain ⟨l₂⟩ := s₂
  congr
  simp only [Sorted] at h₁ h₂ h
  induction l₁ generalizing l₂ with
  | nil =>
    cases l₂ with
    | nil => rfl
    | cons b _ => exact absurd ((h b).mpr List.mem_cons_self) List.not_mem_nil
  | cons a r₁ ih =>
    cases l₂ with
    | nil => exact absurd ((h a).mp List.mem_cons_self) List.not_mem_nil
    | cons b r₂ =>
      have hab : a = b := by
        rcases List.mem_cons.mp ((h a).mp List.mem_cons_self) with hab | ha
        · exact hab
        rcases List.mem_cons.mp ((h b).mpr List.mem_cons_self) with hba | hb
        · exact hba.symm
        have hgt := Std.OrientedCmp.gt_of_lt ((List.pairwise_cons.mp h₁).1 b hb)
        have hlt := (List.pairwise_cons.mp h₂).1 a ha
        rw [hgt] at hlt
        cases hlt
      subst hab
      have htail : ∀ {l : List κ}, (a :: l).Pairwise (fun a b => compare a b = .lt) →
          ∀ x ∈ l, x ≠ a := fun hl x hx hxa => by
        have := (List.pairwise_cons.mp hl).1 x hx
        rw [hxa, Std.ReflOrd.compare_self] at this
        cases this
      congr 1
      refine ih (List.pairwise_cons.mp h₁).2 r₂ (List.pairwise_cons.mp h₂).2 fun x => ?_
      constructor
      · intro hx
        exact ((List.mem_cons.mp ((h x).mp (List.mem_cons_of_mem _ hx))).resolve_left
          (htail h₁ x hx))
      · intro hx
        exact ((List.mem_cons.mp ((h x).mpr (List.mem_cons_of_mem _ hx))).resolve_left
          (htail h₂ x hx))

end Members

/-- A sorted set is rebuilt by inserting its elements. -/
theorem ofList_elements [Std.TransOrd κ] {s : KeySet κ} (h : s.Sorted) :
    KeySet.ofList s.elements = s := by
  have := foldl_insert_of_sorted [] s.elements (by rw [List.nil_append]; exact h)
  simpa [KeySet.ofList, KeySet.empty] using this

end KeySet

namespace BlockPos

instance : Std.TransOrd BlockPos :=
  inferInstanceAs (Std.TransCmp (compareLex (compareOn BlockPos.x)
    (compareLex (compareOn BlockPos.y) (compareOn BlockPos.z))))

instance : Std.LawfulEqOrd BlockPos where
  eq_of_compare {a b} h := by
    have h' : ((Ord.compare a.x b.x).then ((Ord.compare a.y b.y).then (Ord.compare a.z b.z))) =
        .eq := h
    simp only [Ordering.then_eq_eq] at h'
    obtain ⟨hx, hy, hz⟩ := h'
    cases a
    cases b
    simp only [BlockPos.mk.injEq]
    exact ⟨Std.LawfulEqOrd.eq_of_compare hx, Std.LawfulEqOrd.eq_of_compare hy,
      Std.LawfulEqOrd.eq_of_compare hz⟩

end BlockPos

end SessionSquash
