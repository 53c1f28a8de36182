import SessionSquash.Proofs.Squash.EntityTimes

namespace SessionSquash

set_option autoImplicit false

/-- One call on an entity tracker. -/
inductive EntityCall where
  | movement (time : Int64) (m : Movement)
  | teleport (time : Int64) (tp : Teleport)
  | spawn (id : Int32) (r : TimedRecord)
  | generic (id : Int32) (r : TimedRecord)
  | destroy (ids : List Int32)
  | shared (ids : List Int32) (r : TimedRecord)
  | clear

/-- The call forgets entity `id`: a destroy naming it, or a clear. -/
def EntityCall.Forgets (id : Int32) : EntityCall → Prop
  | .destroy ids => id ∈ ids
  | .clear => True
  | _ => False

/-- A record replay writes, with where it comes from: an entity's own queue, a shared slot, or
an entity's gathered motion. -/
inductive Emission where
  | own (r : TimedRecord)
  | shared (slot : Nat) (r : TimedRecord)
  | motion (r : TimedRecord)

namespace Emission

def record : Emission → TimedRecord
  | .own r | .shared _ r | .motion r => r

/-- The slot a record was written from, if it was a shared one. -/
def slot? : Emission → Option Nat
  | .shared slot _ => some slot
  | _ => none

end Emission

namespace EntityTracker

/-- What one call does to an entity tracker. -/
def run (t : EntityTracker) : EntityCall → EntityTracker
  | .movement time m => t.onMovement time m
  | .teleport time tp => t.onTeleport time tp
  | .spawn id r => t.onSpawn id r
  | .generic id r => t.onGeneric id r
  | .destroy ids => t.onDestroy ids
  | .shared ids r => t.onShared ids r
  | .clear => t.clear

/-- The tracker a sequence of calls leaves, from a new one. -/
def ofCalls (calls : List EntityCall) : EntityTracker := calls.foldl run {}

/-- One record of a queue replayed, as `EntityState.queueStep` does, with its source. -/
def queueEmit (t : EntityTracker) (acc : List (Option SharedRecord) × List Emission) :
    Queued → List (Option SharedRecord) × List Emission
  | .own r => (acc.1, acc.2 ++ [.own r])
  | .shared i =>
    match acc.1[i]? with
    | some (some s) =>
      (acc.1.set i none,
        if s.ids.all t.entities.contains then acc.2 ++ [.shared i s.record] else acc.2)
    | _ => acc

/-- One entity's records, as `entityStep` writes them, with their sources. -/
def entityEmit (t : EntityTracker) (acc : List (Option SharedRecord) × List Emission)
    (entry : Int32 × EntityState) : List (Option SharedRecord) × List Emission :=
  let q := entry.2.queue.foldl t.queueEmit acc
  (q.1, q.2 ++ (entry.2.motionRecords entry.1).map .motion)

/-- The records the tracker synthesizes, each with its source. -/
def emissions (t : EntityTracker) : List Emission :=
  (t.entities.entries.foldl t.entityEmit (t.shared, [])).2

variable (t : EntityTracker)

/-- Replaying a record after others were written writes what it writes alone, after them. -/
theorem queueEmit_after (out : List Emission) (acc : List (Option SharedRecord) × List Emission)
    (q : Queued) :
    t.queueEmit (acc.1, out ++ acc.2) q = ((t.queueEmit acc q).1, out ++ (t.queueEmit acc q).2) := by
  cases q with
  | own r => simp [queueEmit]
  | shared i =>
    cases h : acc.1[i]? with
    | none => simp [queueEmit, h]
    | some o =>
      cases o with
      | none => simp [queueEmit, h]
      | some s =>
        simp only [queueEmit, h]
        split <;> simp

theorem foldl_queueEmit_after (out : List Emission) (queue : List Queued)
    (acc : List (Option SharedRecord) × List Emission) :
    queue.foldl t.queueEmit (acc.1, out ++ acc.2) =
      ((queue.foldl t.queueEmit acc).1, out ++ (queue.foldl t.queueEmit acc).2) :=
  List.foldl_hom (fun acc => (acc.1, out ++ acc.2)) fun acc q => queueEmit_after t out acc q

/-- `queueEmit` writes the records `queueStep` writes, tagged. -/
theorem queueStep_eq (acc : List (Option SharedRecord) × List Emission) (q : Queued) :
    EntityState.queueStep t (acc.1, acc.2.map Emission.record) q =
      ((t.queueEmit acc q).1, (t.queueEmit acc q).2.map Emission.record) := by
  cases q with
  | own r => simp [EntityState.queueStep, queueEmit, Emission.record]
  | shared i =>
    cases h : acc.1[i]? with
    | none => simp [EntityState.queueStep, queueEmit, h]
    | some o =>
      cases o with
      | none => simp [EntityState.queueStep, queueEmit, h]
      | some s =>
        simp only [EntityState.queueStep, queueEmit, h]
        split <;> simp [Emission.record]

/-- `entityEmit` writes the records `entityStep` writes, tagged. -/
theorem entityStep_eq (acc : List (Option SharedRecord) × List Emission)
    (e : Int32 × EntityState) :
    t.entityStep (acc.1, acc.2.map Emission.record) e =
      ((t.entityEmit acc e).1, (t.entityEmit acc e).2.map Emission.record) := by
  have hq := @List.foldl_hom _ _ _ (fun acc => (acc.1, acc.2.map Emission.record))
    t.queueEmit (EntityState.queueStep t) e.2.queue (acc.1, []) fun acc q => queueStep_eq t acc q
  have ha : e.2.queue.foldl t.queueEmit acc = ((e.2.queue.foldl t.queueEmit (acc.1, [])).1,
      acc.2 ++ (e.2.queue.foldl t.queueEmit (acc.1, [])).2) := by
    simpa using foldl_queueEmit_after t acc.2 e.2.queue (acc.1, [])
  simp only [List.map_nil] at hq
  simp only [entityStep, entityEmit, ha, hq]
  simp [Function.comp_def, Emission.record]

/-- Synthesizing writes the records of the emissions, in their order. -/
theorem synthesize_eq_emissions : t.synthesize = t.emissions.map Emission.record := by
  rw [synthesize_eq, emissions]
  exact congrArg Prod.snd (@List.foldl_hom _ _ _ (fun acc => (acc.1, acc.2.map Emission.record))
    t.entityEmit t.entityStep t.entities.entries (t.shared, []) fun acc e => entityStep_eq t acc e)

/-- Slot `k` holds no record. -/
def Emptied (slots : List (Option SharedRecord)) (k : Nat) : Prop :=
  ∀ s, slots[k]? ≠ some (some s)

theorem emptied_set (slots : List (Option SharedRecord)) (i : Nat) :
    Emptied (slots.set i none) i := by
  intro s
  rw [List.getElem?_set_self']
  cases slots[i]? <;> simp

theorem Emptied.set {slots : List (Option SharedRecord)} {k : Nat} (h : Emptied slots k)
    (i : Nat) : Emptied (slots.set i none) k := by
  by_cases hi : i = k
  · subst hi
    exact emptied_set slots i
  · rw [Emptied, List.getElem?_set_ne hi]
    exact h

/-- A slot holding a record after another slot was emptied held it before. -/
theorem getElem?_of_set_none {slots : List (Option SharedRecord)} {i k : Nat} {s : SharedRecord}
    (h : (slots.set i none)[k]? = some (some s)) : i ≠ k ∧ slots[k]? = some (some s) := by
  by_cases hik : i = k
  · subst hik
    exact absurd h (emptied_set _ _ s)
  · rw [List.getElem?_set_ne hik] at h
    exact ⟨hik, h⟩

theorem Emptied.of_set {slots : List (Option SharedRecord)} {i k : Nat}
    (h : Emptied (slots.set i none) k) (hik : i ≠ k) : Emptied slots k := by
  intro s hs
  apply h s
  rw [List.getElem?_set_ne hik]
  exact hs

/-- What replaying queues keeps, against the slots the tracker holds: slots only lose their
records; a slot written holds no record any more, was written once, and held the record written,
every entity of which is tracked; and a slot that lost a record naming only tracked entities
was written. -/
structure Tally (acc : List (Option SharedRecord) × List Emission) : Prop where
  kept : ∀ (k : Nat) (s : SharedRecord), acc.1[k]? = some (some s) → t.shared[k]? = some (some s)
  emptied : ∀ k ∈ acc.2.filterMap Emission.slot?, Emptied acc.1 k
  nodup : (acc.2.filterMap Emission.slot?).Nodup
  source : ∀ (k : Nat) (x : TimedRecord), Emission.shared k x ∈ acc.2 →
    ∃ s : SharedRecord, t.shared[k]? = some (some s) ∧ x = s.record ∧
      s.ids.all t.entities.contains = true
  written : ∀ (k : Nat) (s : SharedRecord), t.shared[k]? = some (some s) →
    s.ids.all t.entities.contains = true →
    Emptied acc.1 k → k ∈ acc.2.filterMap Emission.slot?

variable {t}

theorem tally_start : Tally t (t.shared, []) where
  kept _ _ h := h
  emptied _ h := by cases h
  nodup := List.nodup_nil
  source _ _ h := by cases h
  written _ _ h _ he := absurd h (he _)

/-- Writing records that come from no slot keeps the tally. -/
theorem Tally.append {slots : List (Option SharedRecord)} {out : List Emission}
    (h : Tally t (slots, out)) (extra : List Emission) (hx : ∀ e ∈ extra, e.slot? = none) :
    Tally t (slots, out ++ extra) := by
  have hslots : (out ++ extra).filterMap Emission.slot? = out.filterMap Emission.slot? := by
    rw [List.filterMap_append, List.filterMap_eq_nil_iff.mpr hx, List.append_nil]
  refine ⟨h.kept, ?_, ?_, fun k x hk => ?_, ?_⟩
  · rw [hslots]
    exact h.emptied
  · rw [hslots]
    exact h.nodup
  · rcases List.mem_append.mp hk with hk | hk
    · exact h.source k x hk
    · cases hx _ hk
  · rw [hslots]
    exact h.written

/-- Taking a record out of its slot without writing it, because an entity it names is gone,
keeps the tally. -/
theorem Tally.drop {acc : List (Option SharedRecord) × List Emission} (h : Tally t acc) {i : Nat}
    {s : SharedRecord} (hi : acc.1[i]? = some (some s))
    (hall : s.ids.all t.entities.contains = false) : Tally t (acc.1.set i none, acc.2) := by
  refine ⟨fun k s' hk => h.kept k s' (getElem?_of_set_none hk).2,
    fun k hk => (h.emptied k hk).set i, h.nodup, h.source, fun k s' hk hall' he => ?_⟩
  by_cases hik : i = k
  · subst hik
    have hs := Option.some.inj (Option.some.inj ((h.kept i s hi).symm.trans hk))
    subst hs
    rw [hall] at hall'
    cases hall'
  · exact h.written k s' hk hall' (he.of_set hik)

/-- Writing a record from its slot, every entity of which is tracked, keeps the tally. -/
theorem Tally.write {acc : List (Option SharedRecord) × List Emission} (h : Tally t acc) {i : Nat}
    {s : SharedRecord} (hi : acc.1[i]? = some (some s))
    (hall : s.ids.all t.entities.contains = true) :
    Tally t (acc.1.set i none, acc.2 ++ [.shared i s.record]) := by
  have hslots : (acc.2 ++ [Emission.shared i s.record]).filterMap Emission.slot? =
      acc.2.filterMap Emission.slot? ++ [i] := by
    simp [List.filterMap_append, Emission.slot?]
  have hnew : i ∉ acc.2.filterMap Emission.slot? := fun hw => h.emptied i hw s hi
  refine ⟨fun k s' hk => h.kept k s' (getElem?_of_set_none hk).2, fun k hk => ?_, ?_,
    fun k x hk => ?_, fun k s' hk hall' he => ?_⟩
  · rw [hslots, List.mem_append, List.mem_singleton] at hk
    rcases hk with hk | rfl
    · exact (h.emptied k hk).set i
    · exact emptied_set _ _
  · rw [hslots, List.nodup_append]
    exact ⟨h.nodup, List.nodup_singleton i, fun a ha b hb hab => by
      rw [List.mem_singleton.mp hb] at hab
      exact hnew (hab ▸ ha)⟩
  · rcases List.mem_append.mp hk with hk | hk
    · exact h.source k x hk
    · simp only [List.mem_singleton, Emission.shared.injEq] at hk
      obtain ⟨rfl, rfl⟩ := hk
      exact ⟨s, h.kept k s hi, rfl, hall⟩
  · rw [hslots, List.mem_append, List.mem_singleton]
    by_cases hik : i = k
    · exact .inr hik.symm
    · exact .inl (h.written k s' hk hall' (he.of_set hik))

theorem Tally.queueEmit {acc : List (Option SharedRecord) × List Emission} (h : Tally t acc) :
    ∀ q, Tally t (t.queueEmit acc q)
  | .own r => by
    obtain ⟨slots, out⟩ := acc
    exact h.append [.own r] (by simp [Emission.slot?])
  | .shared i => by
    simp only [EntityTracker.queueEmit]
    split
    · rename_i s hi
      split
      · exact h.write hi ‹_›
      · exact h.drop hi (Bool.eq_false_iff.mpr ‹_›)
    · exact h

theorem Tally.foldl_queueEmit {acc : List (Option SharedRecord) × List Emission}
    (h : Tally t acc) (queue : List Queued) : Tally t (queue.foldl t.queueEmit acc) := by
  induction queue generalizing acc with
  | nil => exact h
  | cons q rest ih => exact ih (h.queueEmit q)

theorem Tally.foldl_entityEmit {acc : List (Option SharedRecord) × List Emission}
    (h : Tally t acc) (entries : List (Int32 × EntityState)) :
    Tally t (entries.foldl t.entityEmit acc) := by
  induction entries generalizing acc with
  | nil => exact h
  | cons e rest ih =>
    apply ih
    exact (h.foldl_queueEmit e.2.queue).append _ (by simp [Emission.slot?])

theorem tally_emissions :
    Tally t (t.entities.entries.foldl t.entityEmit (t.shared, [])) :=
  tally_start.foldl_entityEmit _

theorem Emptied.queueEmit {acc : List (Option SharedRecord) × List Emission} {k : Nat}
    (h : Emptied acc.1 k) : ∀ q, Emptied (t.queueEmit acc q).1 k
  | .own _ => h
  | .shared i => by
    simp only [EntityTracker.queueEmit]
    split
    · exact h.set i
    · exact h

/-- Replaying a slot empties it, whether or not its record is written. -/
theorem emptied_queueEmit_shared (acc : List (Option SharedRecord) × List Emission) (k : Nat) :
    Emptied (t.queueEmit acc (.shared k)).1 k := by
  simp only [EntityTracker.queueEmit]
  split
  · exact emptied_set _ _
  · rename_i hk
    exact fun s hs => hk s hs

/-- A slot queued on the entity replayed, or emptied before, is emptied after its queue. -/
theorem emptied_foldl_queueEmit {k : Nat} :
    ∀ (queue : List Queued) (acc : List (Option SharedRecord) × List Emission),
      Queued.shared k ∈ queue ∨ Emptied acc.1 k → Emptied (queue.foldl t.queueEmit acc).1 k
  | [], _, h => h.resolve_left List.not_mem_nil
  | q :: rest, acc, h => by
    apply emptied_foldl_queueEmit rest
    by_cases hr : Queued.shared k ∈ rest
    · exact .inl hr
    · right
      rcases h with h | h
      · rcases List.mem_cons.mp h with rfl | h
        · exact emptied_queueEmit_shared _ _
        · exact absurd h hr
      · exact h.queueEmit q

/-- A slot queued on some entity is emptied once every entity is replayed. -/
theorem emptied_foldl_entityEmit {k : Nat} :
    ∀ (entries : List (Int32 × EntityState)) (acc : List (Option SharedRecord) × List Emission),
      (∃ e ∈ entries, Queued.shared k ∈ e.2.queue) ∨ Emptied acc.1 k →
        Emptied (entries.foldl t.entityEmit acc).1 k
  | [], _, h => by
    rcases h with ⟨_, h, _⟩ | h
    · cases h
    · exact h
  | e :: rest, acc, h => by
    apply emptied_foldl_entityEmit rest
    by_cases hr : ∃ e' ∈ rest, Queued.shared k ∈ e'.2.queue
    · exact .inl hr
    · right
      apply emptied_foldl_queueEmit e.2.queue acc
      rcases h with ⟨e', he', hk⟩ | h
      · rcases List.mem_cons.mp he' with rfl | he'
        · exact .inl hk
        · exact absurd ⟨e', he', hk⟩ hr
      · exact .inr h

theorem nodup_emissions_slots : (t.emissions.filterMap Emission.slot?).Nodup :=
  tally_emissions.nodup

/-- A record written from a slot is the record the slot holds, every entity of which is
tracked. -/
theorem source_of_mem_emissions {k : Nat} {x : TimedRecord}
    (h : Emission.shared k x ∈ t.emissions) :
    ∃ s, t.shared[k]? = some (some s) ∧ x = s.record ∧ s.ids.all t.entities.contains = true :=
  tally_emissions.source k x h

/-- A slot queued on some entity and holding a record of tracked entities is written. -/
theorem slot_mem_emissions {k : Nat} {s : SharedRecord} (hk : t.shared[k]? = some (some s))
    (hall : s.ids.all t.entities.contains = true)
    (hq : ∃ e ∈ t.entities.entries, Queued.shared k ∈ e.2.queue) :
    k ∈ t.emissions.filterMap Emission.slot? :=
  tally_emissions.written k s hk hall (emptied_foldl_entityEmit _ _ (.inl hq))

/-- Emissions from distinct slots hold at most one from each. -/
theorem length_filter_slot_le :
    ∀ (L : List Emission), (L.filterMap Emission.slot?).Nodup →
      ∀ k, (L.filter fun e => e.slot? == some k).length ≤ 1
  | [], _, _ => by simp
  | e :: L, h, k => by
    rw [List.filter_cons]
    cases he : e.slot? with
    | none =>
      rw [List.filterMap_cons_none he] at h
      simpa using length_filter_slot_le L h k
    | some j =>
      rw [List.filterMap_cons_some he, List.nodup_cons] at h
      by_cases hj : j = k
      · subst hj
        have hnil : L.filter (fun e => e.slot? == some j) = [] :=
          List.filter_eq_nil_iff.mpr fun e' he' hs =>
            h.1 (List.mem_filterMap.mpr ⟨e', he', by simpa using hs⟩)
        simp [hnil]
      · simpa [hj] using length_filter_slot_le L h.2 k

/-- An emission from a slot is the record the slot holds. -/
theorem eq_of_slot?_eq {e : Emission} (he : e ∈ t.emissions) {k : Nat} {s : SharedRecord}
    (hk : t.shared[k]? = some (some s)) (hek : e.slot? = some k) : e = .shared k s.record := by
  cases e with
  | shared j x =>
    simp only [Emission.slot?, Option.some.injEq] at hek
    subst hek
    obtain ⟨s', hk', rfl, -⟩ := source_of_mem_emissions he
    cases hk.symm.trans hk'
    rfl
  | own r | motion r => simp [Emission.slot?] at hek

/-- A slot queued on some entity and holding a record of tracked entities is written exactly
once, with its record. -/
theorem filter_slot_emissions {k : Nat} {s : SharedRecord} (hk : t.shared[k]? = some (some s))
    (hall : s.ids.all t.entities.contains = true)
    (hq : ∃ e ∈ t.entities.entries, Queued.shared k ∈ e.2.queue) :
    t.emissions.filter (fun e => e.slot? == some k) = [.shared k s.record] := by
  obtain ⟨e, he, hek⟩ := List.mem_filterMap.mp (slot_mem_emissions hk hall hq)
  have hmem : e ∈ t.emissions.filter fun e => e.slot? == some k :=
    List.mem_filter.mpr ⟨he, by simp [hek]⟩
  have hlen := le_antisymm (length_filter_slot_le _ nodup_emissions_slots k)
    (List.length_pos_of_mem hmem)
  have hrep : t.emissions.filter (fun e => e.slot? == some k) =
      List.replicate 1 (.shared k s.record) :=
    List.eq_replicate_iff.mpr ⟨hlen, fun e' he' => by
      obtain ⟨he', hs'⟩ := List.mem_filter.mp he'
      exact eq_of_slot?_eq he' hk (by simpa using hs')⟩
  exact hrep

theorem ofCalls_append_singleton (calls : List EntityCall) (c : EntityCall) :
    ofCalls (calls ++ [c]) = (ofCalls calls).run c :=
  List.foldl_append ..

theorem ofCalls_append_cons (pre : List EntityCall) (c : EntityCall) (post : List EntityCall) :
    ofCalls (pre ++ c :: post) = post.foldl run ((ofCalls pre).run c) := by
  rw [ofCalls, List.foldl_append, List.foldl_cons]
  rfl

theorem shared_run_shared (ids : List Int32) (r : TimedRecord) :
    (t.run (.shared ids r)).shared = t.shared ++ [some ⟨r, ids⟩] := by
  rw [run, onShared_eq, foldl_share_shared]

/-- Every call but a clear keeps the slots, and may add one. -/
theorem shared_run {c : EntityCall} (hc : c ≠ .clear) : ∃ extra, (t.run c).shared = t.shared ++ extra := by
  cases c with
  | shared ids r => exact ⟨_, shared_run_shared ids r⟩
  | clear => exact absurd rfl hc
  | movement | teleport | spawn | generic | destroy => exact ⟨[], (List.append_nil _).symm⟩

theorem getElem?_shared_foldl_run {k : Nat} {o : Option SharedRecord} :
    ∀ (cs : List EntityCall) (t : EntityTracker), .clear ∉ cs → t.shared[k]? = some o →
      (cs.foldl run t).shared[k]? = some o
  | [], _, _, h => h
  | c :: rest, t, hc, h => by
    apply getElem?_shared_foldl_run rest _ (fun h' => hc (List.mem_cons_of_mem c h'))
    obtain ⟨extra, he⟩ := t.shared_run fun h' => hc (h' ▸ List.mem_cons_self)
    rw [he, List.getElem?_append_left (List.getElem?_eq_some_iff.mp h).1]
    exact h

/-- A record given to a call since the last clear holds its slot: the number of slots before
the call. -/
theorem getElem?_shared_ofCalls {pre post : List EntityCall} {ids : List Int32}
    {r : TimedRecord} (hpost : .clear ∉ post) :
    (ofCalls (pre ++ .shared ids r :: post)).shared[(ofCalls pre).shared.length]? =
      some (some ⟨r, ids⟩) := by
  rw [ofCalls_append_cons]
  apply getElem?_shared_foldl_run post _ hpost
  simp [shared_run_shared]

/-- Every slot holds the record of a call made since the last clear, numbered by the slots
before it. -/
theorem exists_call_of_getElem?_shared {k : Nat} {o : Option SharedRecord} :
    ∀ {calls : List EntityCall}, (ofCalls calls).shared[k]? = some o →
      ∃ pre ids r post, calls = pre ++ .shared ids r :: post ∧ .clear ∉ post ∧
        (ofCalls pre).shared.length = k ∧ o = some ⟨r, ids⟩ := by
  intro calls
  induction calls using List.reverseRecOn with
  | nil => simp [ofCalls]
  | append_singleton calls c ih =>
    intro h
    rw [ofCalls_append_singleton] at h
    have hlater (hc : c ≠ .clear) (h' : (ofCalls calls).shared[k]? = some o) :
        ∃ pre ids r post, calls ++ [c] = pre ++ .shared ids r :: post ∧ .clear ∉ post ∧
          (ofCalls pre).shared.length = k ∧ o = some ⟨r, ids⟩ := by
      obtain ⟨pre, ids, r, post, rfl, hpost, hk, ho⟩ := ih h'
      refine ⟨pre, ids, r, post ++ [c], by simp, ?_, hk, ho⟩
      simpa [hpost] using hc.symm
    cases c with
    | clear => simp [run, clear] at h
    | shared ids r =>
      rw [shared_run_shared] at h
      by_cases hk : k < (ofCalls calls).shared.length
      · rw [List.getElem?_append_left hk] at h
        exact hlater (by simp) h
      · rw [List.getElem?_append_right (by omega)] at h
        have hk' : k = (ofCalls calls).shared.length := by
          have := (List.getElem?_eq_some_iff.mp h).1
          simp at this
          omega
        subst hk'
        simp only [Nat.sub_self, List.getElem?_cons_zero, Option.some.injEq] at h
        exact ⟨calls, ids, r, [], by simp, List.not_mem_nil, rfl, h.symm⟩
    | movement | teleport | spawn | generic | destroy => exact hlater (by simp) h

/-- Entity `id` is tracked with slot `k` waiting in its queue. -/
def Queues (t : EntityTracker) (id : Int32) (k : Nat) : Prop :=
  ∃ st, t.entities.find? id = some st ∧ Queued.shared k ∈ st.queue

/-- A handler that keeps everything an entity has queued. -/
def KeepsQueue (f : EntityState → EntityState) : Prop := ∀ st, ∀ q ∈ st.queue, q ∈ (f st).queue

theorem Queues.contains {id : Int32} {k : Nat} (h : t.Queues id k) :
    t.entities.contains id = true := by
  obtain ⟨st, hst, -⟩ := h
  rw [KeyMap.contains_iff, hst]
  rfl

theorem Queues.modify {id : Int32} {k : Nat} (h : t.Queues id k) {f : EntityState → EntityState}
    (hf : KeepsQueue f) (id' : Int32) : (t.modify id' f).Queues id k := by
  obtain ⟨st, hst, hq⟩ := h
  by_cases hid : id' = id
  · subst hid
    exact ⟨f st, by simp [EntityTracker.modify, hst], hf st _ hq⟩
  · exact ⟨st, by simp [EntityTracker.modify, hid, hst], hq⟩

theorem keepsQueue_shareStep (k : Nat) : KeepsQueue (EntityState.shareStep k) := by
  intro st q hq
  unfold EntityState.shareStep
  split
  · exact hq
  · exact List.mem_append_left _ hq

/-- Sharing a slot with an entity leaves the slot in its queue, last or already there. -/
theorem mem_queue_shareStep (k : Nat) (st : EntityState) :
    Queued.shared k ∈ (EntityState.shareStep k st).queue := by
  unfold EntityState.shareStep
  split
  · rename_i hend
    unfold EntityState.endsWith at hend
    split at hend
    · rename_i s hlast
      rw [beq_iff_eq.mp hend] at hlast
      exact List.mem_of_getLast? hlast
    · cases hend
  · simp

/-- Sharing any slot keeps the slots already queued on an entity. -/
theorem Queues.foldl_share {id : Int32} {k : Nat} (slot : Nat) :
    ∀ (ids : List Int32) {u : EntityTracker}, u.Queues id k →
      (ids.foldl (fun u id => u.modify id (EntityState.shareStep slot)) u).Queues id k
  | [], _, h => h
  | id' :: rest, _, h => Queues.foldl_share slot rest (h.modify (keepsQueue_shareStep slot) id')

/-- Sharing a slot queues it on every entity named. -/
theorem queues_foldl_share {id : Int32} {k : Nat} :
    ∀ (ids : List Int32) (u : EntityTracker), id ∈ ids →
      (ids.foldl (fun u id => u.modify id (EntityState.shareStep k)) u).Queues id k
  | [], _, h => absurd h List.not_mem_nil
  | id' :: rest, u, h => by
    rw [List.foldl_cons]
    by_cases hid : id' = id
    · subst hid
      exact Queues.foldl_share k rest
        ⟨EntityState.shareStep k ((u.entities.find? id').getD {}), by simp [modify],
          mem_queue_shareStep k _⟩
    · exact queues_foldl_share rest _ ((List.mem_cons.mp h).resolve_left (Ne.symm hid))

/-- A call that does not forget an entity keeps the slots queued on it. -/
theorem Queues.run {id : Int32} {k : Nat} (h : t.Queues id k) :
    ∀ c : EntityCall, ¬ c.Forgets id → (t.run c).Queues id k
  | .movement time m, _ => by
    obtain ⟨f, hf, heq⟩ := moves_onMovement (t := t) time m
    rw [EntityTracker.run, heq]
    exact h.modify (fun st q hq => (hf st).1 ▸ hq) _
  | .teleport time tp, _ => by
    refine h.modify ?_ tp.entityId
    exact fun _ _ hq => hq
  | .spawn id' r, _ => by
    refine h.modify ?_ id'
    exact fun _ _ hq => List.mem_append_left _ hq
  | .generic id' r, _ => by
    refine h.modify ?_ id'
    exact fun _ _ hq => List.mem_append_left _ hq
  | .destroy ids, hc => by
    obtain ⟨st, hst, hq⟩ := h
    refine ⟨st, ?_, hq⟩
    rw [EntityTracker.run, find?_onDestroy, if_neg (show id ∉ ids from hc), hst]
  | .shared ids r, _ => by
    rw [EntityTracker.run, onShared_eq]
    exact Queues.foldl_share _ ids h
  | .clear, hc => absurd trivial hc

theorem Queues.foldl_run {id : Int32} {k : Nat} :
    ∀ (cs : List EntityCall) {t : EntityTracker}, t.Queues id k → (∀ c ∈ cs, ¬ c.Forgets id) →
      (cs.foldl EntityTracker.run t).Queues id k
  | [], _, h, _ => h
  | c :: rest, _, h, hc =>
    Queues.foldl_run rest (h.run c (hc c List.mem_cons_self))
      fun c' h' => hc c' (List.mem_cons_of_mem c h')

/-- A record's slot stays queued on each entity it names until that entity is forgotten. -/
theorem queues_ofCalls {pre post : List EntityCall} {ids : List Int32} {r : TimedRecord}
    {id : Int32} (hid : id ∈ ids) (hpost : ∀ c ∈ post, ¬ c.Forgets id) :
    (ofCalls (pre ++ .shared ids r :: post)).Queues id (ofCalls pre).shared.length := by
  rw [ofCalls_append_cons]
  apply Queues.foldl_run post _ hpost
  rw [run, onShared_eq]
  exact queues_foldl_share ids _ hid

end EntityTracker

open EntityTracker in
/-- Over any calls on a new entity tracker, replay writes the emissions' records; it writes from
each slot at most once; what it writes from a slot is the record of a call made since the last
clear, every entity of which is tracked; and a record naming at least one entity, none of which
is forgotten after the call, is written from its slot exactly once. -/
theorem shared_records_emitted_once (calls : List EntityCall) :
    let t := EntityTracker.ofCalls calls
    t.synthesize = t.emissions.map Emission.record ∧
      (∀ k, (t.emissions.filter fun e => e.slot? == some k).length ≤ 1) ∧
      (∀ k x, Emission.shared k x ∈ t.emissions →
        ∃ pre ids post, calls = pre ++ .shared ids x :: post ∧ .clear ∉ post ∧
          (EntityTracker.ofCalls pre).shared.length = k ∧
          ∀ id ∈ ids, t.entities.contains id = true) ∧
      ∀ pre ids r post, calls = pre ++ .shared ids r :: post → ids ≠ [] →
        (∀ c ∈ post, ∀ id ∈ ids, ¬ c.Forgets id) →
        t.emissions.filter (fun e => e.slot? == some (EntityTracker.ofCalls pre).shared.length) =
          [.shared (EntityTracker.ofCalls pre).shared.length r] := by
  intro t
  refine ⟨synthesize_eq_emissions t, length_filter_slot_le _ nodup_emissions_slots,
    fun k x hx => ?_, fun pre ids r post hcalls hids hpost => ?_⟩
  · obtain ⟨s, hk, rfl, hall⟩ := source_of_mem_emissions hx
    obtain ⟨pre, ids, r, post, hcalls, hclear, hlen, hs⟩ := exists_call_of_getElem?_shared hk
    cases hs
    exact ⟨pre, ids, post, hcalls, hclear, hlen, List.all_eq_true.mp hall⟩
  · obtain ⟨id₀, hid₀⟩ := List.exists_mem_of_ne_nil ids hids
    have hclear : .clear ∉ post := fun h => hpost _ h id₀ hid₀ trivial
    have hslot : t.shared[(ofCalls pre).shared.length]? = some (some ⟨r, ids⟩) := by
      rw [show t = ofCalls (pre ++ .shared ids r :: post) from congrArg ofCalls hcalls]
      exact getElem?_shared_ofCalls hclear
    have hq (id : Int32) (hid : id ∈ ids) : t.Queues id (ofCalls pre).shared.length := by
      rw [show t = ofCalls (pre ++ .shared ids r :: post) from congrArg ofCalls hcalls]
      exact queues_ofCalls hid fun c hc => hpost c hc id hid
    have hall : (⟨r, ids⟩ : SharedRecord).ids.all t.entities.contains = true :=
      List.all_eq_true.mpr fun id hid => (hq id hid).contains
    obtain ⟨st, hst, hmem⟩ := hq id₀ hid₀
    obtain ⟨key, he⟩ := KeyMap.find?_mem hst
    exact filter_slot_emissions hslot hall ⟨_, he, hmem⟩

/-- An item collected: entity 1 by entity 2. -/
def collectOneByTwo : TimedRecord := ⟨1, .typed (.collectItem ⟨1, 2⟩)⟩

/-- A record naming entity 1 twice and entity 2, followed only by a destroy of entity 3, is
written from its slot, the first, exactly once. -/
theorem shared_record_named_twice_written_once :
    ([1, 2, 1] : List Int32) ≠ [] ∧
      (∀ c ∈ [EntityCall.destroy [3]], ∀ id ∈ ([1, 2, 1] : List Int32), ¬ c.Forgets id) ∧
      (EntityTracker.ofCalls [.shared [1, 2, 1] collectOneByTwo, .destroy [3]]).emissions.filter
          (fun e => e.slot? == some 0) = [.shared 0 collectOneByTwo] := by
  have hpost : ∀ c ∈ [EntityCall.destroy [3]], ∀ id ∈ ([1, 2, 1] : List Int32),
      ¬ c.Forgets id := by
    simp [EntityCall.Forgets]
  exact ⟨by simp, hpost, (shared_records_emitted_once _).2.2.2 [] [1, 2, 1] collectOneByTwo
    [.destroy [3]] rfl (by simp) hpost⟩

/-- A record naming no entity takes a slot but is queued on no entity, so replay never writes
it, though no later call forgets anything. -/
theorem shared_record_naming_nothing_dropped :
    (EntityTracker.ofCalls [.shared [] collectOneByTwo]).shared = [some ⟨collectOneByTwo, []⟩] ∧
      (EntityTracker.ofCalls [.shared [] collectOneByTwo]).synthesize = [] :=
  ⟨rfl, rfl⟩

end SessionSquash
