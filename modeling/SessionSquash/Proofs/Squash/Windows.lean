import SessionSquash.Squash.Window
import SessionSquash.Proofs.Replay.Sort

namespace SessionSquash

set_option autoImplicit false

open ReplayView

/-- A record that changes the main inventory and nothing else. -/
def InventoryOnly (r : TimedRecord) : Prop := ∃ c, change r = { inventory := c }

/-- Such a record commutes with any record that leaves the inventory alone. -/
theorem InventoryOnly.commute {a : TimedRecord} (ha : InventoryOnly a) {b : TimedRecord}
    (hb : (change b).inventory = .keep) : Commute a b := by
  obtain ⟨c, hc⟩ := ha
  apply commute_of_disjoint
  rw [hc]
  refine ⟨trivial, trivial, .inl rfl, .inl rfl, ?_, .inl rfl⟩
  rw [hb]
  cases c <;> trivial

namespace WindowTracker

/-- The item a main-inventory slot change puts in its slot. -/
def slotItem (r : TimedRecord) : Option ItemStack :=
  match r.record with
  | .typed (.setSlot d) => d.item
  | _ => none

/-- The main inventory as the last snapshot left it. -/
def snapshot (w : WindowTracker) : KeyMap Int16 (Option ItemStack) :=
  match w.mainInventory with
  | some r => (change r).inventory.run {}
  | none => {}

/-- The main inventory a tracker stands for: the snapshot, then each slot's last change. -/
def inventory (w : WindowTracker) : KeyMap Int16 (Option ItemStack) :=
  w.slotChanges.entries.foldl (fun m p => m.update p.1 fun _ => some (slotItem p.2)) w.snapshot

/-- What the tracker keeps: records that change nothing in the secondary window and among
the closes, a snapshot that fills the inventory, each slot's change under its slot, and no
slot change older than the snapshot. -/
structure Valid (w : WindowTracker) : Prop where
  current : ∀ r ∈ w.currentWindow, Inert r
  closes : ∀ r ∈ w.closeRecords, Inert r
  snapshot : ∀ r, w.mainInventory = some r → ∃ items, change r = { inventory := .fill items }
  sorted : w.slotChanges.Sorted
  slots : ∀ k r, w.slotChanges.find? k = some r →
    change r = { inventory := .slot k (slotItem r) }
  ordered : ∀ r k s, w.mainInventory = some r → w.slotChanges.find? k = some s →
    r.time ≤ s.time

/-- What the tracker keeps whatever the order of its records: `Valid` but for the snapshot
being older than the slot changes. -/
structure Sound (w : WindowTracker) : Prop where
  current : ∀ r ∈ w.currentWindow, Inert r
  closes : ∀ r ∈ w.closeRecords, Inert r
  snapshot : ∀ r, w.mainInventory = some r → ∃ items, change r = { inventory := .fill items }
  sorted : w.slotChanges.Sorted
  slots : ∀ k r, w.slotChanges.find? k = some r →
    change r = { inventory := .slot k (slotItem r) }

variable {w : WindowTracker}

@[simp] theorem snapshot_onMainSlot (slot : Int16) (r : TimedRecord) :
    (w.onMainSlot slot r).snapshot = w.snapshot := rfl

@[simp] theorem slotChanges_onMainSlot (slot : Int16) (r : TimedRecord) :
    (w.onMainSlot slot r).slotChanges = w.slotChanges.insert slot r := rfl

theorem sorted_snapshot (w : WindowTracker) : w.snapshot.Sorted := by
  unfold snapshot
  split
  · exact InventoryChange.run_sorted KeyMap.sorted_empty _
  · exact KeyMap.sorted_empty

theorem sorted_inventory (w : WindowTracker) : w.inventory.Sorted :=
  w.sorted_snapshot.foldl_update _ _ _

/-- A snapshot replaces the whole inventory, whatever slot changes came before it. -/
@[simp] theorem inventory_onMainInventory (r : TimedRecord) :
    (w.onMainInventory r).inventory = (change r).inventory.run {} := rfl

/-- A slot change overrides its slot and nothing else. -/
theorem inventory_onMainSlot (hw : w.slotChanges.Sorted) (slot : Int16) (r : TimedRecord) :
    (w.onMainSlot slot r).inventory = w.inventory.update slot fun _ => some (slotItem r) := by
  apply KeyMap.ext (sorted_inventory _) ((sorted_inventory w).update _ _)
  intro k
  unfold inventory
  rw [snapshot_onMainSlot, slotChanges_onMainSlot,
    KeyMap.find?_foldl_update_entries (fun x _ => some (slotItem x)) (hw.insert slot r),
    KeyMap.find?_update, KeyMap.find?_foldl_update_entries (fun x _ => some (slotItem x)) hw,
    KeyMap.find?_insert]
  by_cases hk : slot = k <;> simp [hk]

theorem valid_empty : ({} : WindowTracker).Valid where
  current _ h := by cases h
  closes _ h := by cases h
  snapshot _ h := by cases h
  sorted := KeyMap.sorted_empty
  slots _ _ h := by cases h
  ordered _ _ _ h := by cases h

theorem Valid.onMainInventory (hw : w.Valid) {r : TimedRecord} {items : List (Option ItemStack)}
    (hr : change r = { inventory := .fill items }) : (w.onMainInventory r).Valid where
  current := hw.current
  closes := hw.closes
  snapshot _ h := by cases h; exact ⟨items, hr⟩
  sorted := KeyMap.sorted_empty
  slots _ _ h := by cases h
  ordered _ _ _ _ h := by cases h

/-- A slot change is kept when it is no older than the snapshot. -/
theorem Valid.onMainSlot (hw : w.Valid) (slot : Int16) {r : TimedRecord}
    (hr : change r = { inventory := .slot slot (slotItem r) })
    (hle : ∀ m, w.mainInventory = some m → m.time ≤ r.time) : (w.onMainSlot slot r).Valid where
  current := hw.current
  closes := hw.closes
  snapshot := hw.snapshot
  sorted := hw.sorted.insert slot r
  slots k s h := by
    rw [slotChanges_onMainSlot, KeyMap.find?_insert] at h
    split at h
    · rename_i hk
      cases h
      rw [← hk]
      exact hr
    · exact hw.slots k s h
  ordered m k s hm h := by
    rw [slotChanges_onMainSlot, KeyMap.find?_insert] at h
    split at h
    · cases h
      exact hle m hm
    · exact hw.ordered m k s hm h

theorem Valid.onSecondary (hw : w.Valid) {r : TimedRecord} (hr : Inert r) :
    (w.onSecondary r).Valid :=
  { hw with
    current := fun x hx => (List.mem_append.mp hx).elim (hw.current x)
      fun hx => List.mem_singleton.mp hx ▸ hr }

theorem Valid.onClose (hw : w.Valid) {r : TimedRecord} (hr : Inert r) : (w.onClose r).Valid :=
  { hw with
    current := fun _ h => by cases h
    closes := fun x hx => (List.mem_append.mp hx).elim (hw.closes x)
      fun hx => List.mem_singleton.mp hx ▸ hr }

theorem Valid.clearCurrent (hw : w.Valid) : w.clearCurrent.Valid :=
  { hw with current := fun _ h => by cases h }

theorem Valid.sound (hw : w.Valid) : w.Sound :=
  ⟨hw.current, hw.closes, hw.snapshot, hw.sorted, hw.slots⟩

theorem sound_empty : ({} : WindowTracker).Sound :=
  valid_empty.sound

theorem Sound.onMainInventory (hw : w.Sound) {r : TimedRecord} {items : List (Option ItemStack)}
    (hr : change r = { inventory := .fill items }) : (w.onMainInventory r).Sound where
  current := hw.current
  closes := hw.closes
  snapshot _ h := by cases h; exact ⟨items, hr⟩
  sorted := KeyMap.sorted_empty
  slots _ _ h := by cases h

/-- Without an order on times any slot change is kept. -/
theorem Sound.onMainSlot (hw : w.Sound) (slot : Int16) {r : TimedRecord}
    (hr : change r = { inventory := .slot slot (slotItem r) }) : (w.onMainSlot slot r).Sound where
  current := hw.current
  closes := hw.closes
  snapshot := hw.snapshot
  sorted := hw.sorted.insert slot r
  slots k s h := by
    rw [slotChanges_onMainSlot, KeyMap.find?_insert] at h
    split at h
    · rename_i hk
      cases h
      rw [← hk]
      exact hr
    · exact hw.slots k s h

theorem Sound.onSecondary (hw : w.Sound) {r : TimedRecord} (hr : Inert r) :
    (w.onSecondary r).Sound :=
  { hw with
    current := fun x hx => (List.mem_append.mp hx).elim (hw.current x)
      fun hx => List.mem_singleton.mp hx ▸ hr }

theorem Sound.onClose (hw : w.Sound) {r : TimedRecord} (hr : Inert r) : (w.onClose r).Sound :=
  { hw with
    current := fun _ h => by cases h
    closes := fun x hx => (List.mem_append.mp hx).elim (hw.closes x)
      fun hx => List.mem_singleton.mp hx ▸ hr }

theorem Sound.clearCurrent (hw : w.Sound) : w.clearCurrent.Sound :=
  { hw with current := fun _ h => by cases h }

/-- Slot changes kept under their slots replay as one update of each slot in turn. -/
theorem foldl_apply_slots :
    ∀ {l : List (Int16 × TimedRecord)},
      (∀ p ∈ l, change p.2 = { inventory := .slot p.1 (slotItem p.2) }) →
      ∀ {v : ReplayView}, v.WF →
        (l.map Prod.snd).foldl ReplayView.apply v =
          { v with
            inventory := l.foldl (fun m p => m.update p.1 fun _ => some (slotItem p.2)) v.inventory }
  | [], _, _, _ => rfl
  | p :: rest, h, v, hv => by
    rw [List.map_cons, List.foldl_cons, apply_eq_run hv.chunks, h p (.head _),
      foldl_apply_slots (fun q hq => h q (.tail _ hq)) (hv.run _)]
    rfl

theorem Sound.entries (hw : w.Sound) :
    ∀ p ∈ w.slotChanges.entries, change p.2 = { inventory := .slot p.1 (slotItem p.2) } :=
  fun p hp => hw.slots p.1 p.2 (hw.sorted.find?_eq_some_iff.mpr hp)

theorem Valid.entries (hw : w.Valid) :
    ∀ p ∈ w.slotChanges.entries, change p.2 = { inventory := .slot p.1 (slotItem p.2) } :=
  hw.sound.entries

/-- Replaying what a tracker synthesizes, from a view with an empty inventory, brings in
exactly the tracker's inventory. -/
theorem Sound.foldl_apply_synthesize (hw : w.Sound) {v : ReplayView} (hv : v.WF)
    (hi : v.inventory = {}) :
    w.synthesize.foldl ReplayView.apply v = { v with inventory := w.inventory } := by
  unfold synthesize
  rw [List.foldl_append, List.foldl_append, List.foldl_append, foldl_apply_of_inert hw.current hv,
    foldl_apply_of_inert hw.closes hv]
  have hsnap : w.mainInventory.toList.foldl ReplayView.apply v =
      { v with inventory := w.snapshot } := by
    cases hm : w.mainInventory with
    | none =>
      simp only [Option.toList_none, List.foldl_nil, WindowTracker.snapshot, hm]
      rw [← hi]
    | some r =>
      obtain ⟨items, hr⟩ := hw.snapshot r hm
      simp only [Option.toList_some, List.foldl_cons, List.foldl_nil, WindowTracker.snapshot, hm]
      rw [apply_eq_run hv.chunks, hr]
      rfl
  have hsnapWF : ({ v with inventory := w.snapshot } : ReplayView).WF :=
    { hv with inventory := w.sorted_snapshot }
  rw [hsnap, KeyMap.values, foldl_apply_slots hw.entries hsnapWF]
  rfl

theorem foldl_apply_synthesize (hw : w.Valid) {v : ReplayView} (hv : v.WF)
    (hi : v.inventory = {}) :
    w.synthesize.foldl ReplayView.apply v = { v with inventory := w.inventory } :=
  hw.sound.foldl_apply_synthesize hv hi

/-- Two changes of distinct slots commute. -/
theorem commute_of_slots {k k' : Int16} (hne : k ≠ k') {a b : TimedRecord}
    (ha : change a = { inventory := .slot k (slotItem a) })
    (hb : change b = { inventory := .slot k' (slotItem b) }) : Commute a b := by
  apply commute_of_disjoint
  rw [ha, hb]
  exact ⟨trivial, trivial, .inl rfl, .inl rfl, hne, .inl rfl⟩

/-- Sorting by time may reorder what a tracker synthesizes without changing its replay: only
the snapshot and the slot changes do anything, the snapshot is the oldest of them, and the
slot changes name distinct slots. -/
theorem pairwise_synthesize (hw : w.Valid) : w.synthesize.Pairwise Reorderable := by
  unfold synthesize
  have hinert : ∀ r ∈ w.currentWindow ++ w.closeRecords, Inert r := fun r hr =>
    (List.mem_append.mp hr).elim (hw.current r) (hw.closes r)
  have hslots : (w.slotChanges.values).Pairwise Reorderable := by
    unfold KeyMap.values
    rw [List.pairwise_map]
    refine (List.Pairwise.and_mem.mp hw.sorted).imp ?_
    rintro ⟨k, a⟩ ⟨k', b⟩ ⟨ha, hb, hlt⟩
    have hne : k ≠ k' := fun he => by
      rw [he, Std.ReflOrd.compare_self] at hlt
      cases hlt
    exact (commute_of_slots hne (hw.entries _ ha) (hw.entries _ hb)).reorderable
  have hmain : ∀ m ∈ w.mainInventory.toList, ∀ s ∈ w.slotChanges.values, Reorderable m s := by
    intro m hm s hs
    obtain ⟨⟨k, s'⟩, hk, rfl⟩ := List.mem_map.mp hs
    exact (InOrder.of_le (hw.ordered m k s' (Option.mem_toList.mp hm)
      (hw.sorted.find?_eq_some_iff.mpr hk))).reorderable
  rw [List.append_assoc, List.pairwise_append]
  refine ⟨List.pairwise_of_forall_mem_list fun a ha _ _ =>
      (commute_of_inert_left (hinert a ha) _).reorderable, ?_, ?_⟩
  · rw [List.pairwise_append]
    refine ⟨?_, hslots, hmain⟩
    cases w.mainInventory <;> simp
  · exact fun a ha _ _ => (commute_of_inert_left (hinert a ha) _).reorderable

/-- Each synthesized record changes nothing, or only the main inventory. -/
theorem mem_synthesize (hw : w.Valid) {r : TimedRecord} (hr : r ∈ w.synthesize) :
    Inert r ∨ InventoryOnly r := by
  unfold synthesize at hr
  simp only [List.mem_append] at hr
  rcases hr with ((hr | hr) | hr) | hr
  · exact .inl (hw.current r hr)
  · exact .inl (hw.closes r hr)
  · obtain ⟨items, h⟩ := hw.snapshot r (Option.mem_toList.mp hr)
    exact .inr ⟨_, h⟩
  · obtain ⟨⟨k, s⟩, hk, rfl⟩ := List.mem_map.mp hr
    exact .inr ⟨_, hw.entries _ hk⟩

end WindowTracker

end SessionSquash
