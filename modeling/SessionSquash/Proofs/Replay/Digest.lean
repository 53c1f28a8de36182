import Mathlib
import SessionSquash.Proofs.Json.Compact
import SessionSquash.Replay.View

namespace SessionSquash

set_option autoImplicit false

open Json

/-- Two lists mapped alike by functions that tell the same elements apart. -/
theorem map_eq_map_iff {α β γ : Type} {f : α → β} {g : α → γ}
    (h : ∀ x y, f x = f y ↔ g x = g y) : ∀ {l l' : List α}, l.map f = l'.map f ↔ l.map g = l'.map g
  | [], [] => by simp
  | [], _ :: _ => by simp
  | _ :: _, [] => by simp
  | x :: l, y :: l' => by simp [h x y, map_eq_map_iff h]

/-- Two lists map alike exactly when they are as long and map alike pair by pair. -/
theorem map_eq_map_iff_zip {α β : Type} {f : α → β} :
    ∀ {l l' : List α},
      l.map f = l'.map f ↔ l.length = l'.length ∧ ∀ x ∈ l.zip l', f x.1 = f x.2
  | [], [] => by simp
  | [], _ :: _ => by simp
  | _ :: _, [] => by simp
  | x :: l, y :: l' => by simp [map_eq_map_iff_zip, and_left_comm]

theorem GameMode.toJson_inj : Function.Injective GameMode.toJson := by
  intro a b h
  cases a <;> cases b <;> simp_all [GameMode.toJson, GameMode.name]

theorem Difficulty.toJson_inj : Function.Injective Difficulty.toJson := by
  intro a b h
  cases a <;> cases b <;> simp_all [Difficulty.toJson, Difficulty.name]

theorem WorldType.toJson_inj : Function.Injective WorldType.toJson := by
  intro a b h
  cases a <;> cases b <;> simp_all [WorldType.toJson, WorldType.name]

theorem FriendlyFire.toJson_inj : Function.Injective FriendlyFire.toJson := by
  intro a b h
  cases a <;> cases b <;> simp_all [FriendlyFire.toJson, FriendlyFire.name]

theorem TeamInfo.toJson_inj : Function.Injective TeamInfo.toJson := by
  rintro ⟨d, l, t, f⟩ ⟨d', l', t', f'⟩ h
  simp only [TeamInfo.toJson, Json.object.injEq, List.cons.injEq, Prod.mk.injEq, Json.string.injEq,
    true_and, and_true] at h
  obtain ⟨rfl, rfl, rfl, hf⟩ := h
  rw [FriendlyFire.toJson_inj hf]

theorem BlockPos.toJson_inj : Function.Injective BlockPos.toJson := by
  rintro ⟨x, y, z⟩ ⟨x', y', z'⟩ h
  simp only [BlockPos.toJson, Json.object.injEq, List.cons.injEq, Prod.mk.injEq, ofInt_inj,
    Int32.toInt_inj, true_and, and_true] at h
  obtain ⟨rfl, rfl, rfl⟩ := h
  rfl

theorem ItemStack.toJson_inj : Function.Injective ItemStack.toJson := by
  rintro ⟨i, a, d, n⟩ ⟨i', a', d', n'⟩ h
  simp only [ItemStack.toJson, List.cons_append, List.nil_append, Json.object.injEq,
    List.cons.injEq, Prod.mk.injEq, ofInt_inj, ofNat_inj, Int32.toInt_inj, UInt8.toNat_inj,
    Int16.toInt_inj, true_and] at h
  obtain ⟨rfl, rfl, rfl, hn⟩ := h
  cases n <;> cases n' <;> simp_all [ofBytes_inj]

theorem MapData.toJson_inj : Function.Injective MapData.toJson := by
  rintro ⟨i, s, d⟩ ⟨i', s', d'⟩ h
  simp only [MapData.toJson, Json.object.injEq, List.cons.injEq, Prod.mk.injEq, ofInt_inj,
    ofNat_inj, Int32.toInt_inj, UInt8.toNat_inj, ofBytes_inj, true_and, and_true] at h
  obtain ⟨rfl, rfl, rfl⟩ := h
  rfl

theorem EntityView.toJson_inj : Function.Injective EntityView.toJson := by
  rintro ⟨⟨x, y, z⟩, ⟨yaw, pitch⟩⟩ ⟨⟨x', y', z'⟩, ⟨yaw', pitch'⟩⟩ h
  simp only [EntityView.toJson, Json.object.injEq, List.cons.injEq, Prod.mk.injEq,
    Json.array.injEq, ofInt_inj, ofNat_inj, Int64.toInt_inj, UInt32.toNat_inj, true_and,
    and_true] at h
  obtain ⟨⟨rfl, rfl, rfl⟩, rfl, rfl⟩ := h
  rfl

theorem SessionView.toJson_inj : Function.Injective SessionView.toJson := by
  have hd : Function.Injective fun d : Int32 => ofInt d.toInt := fun a b h =>
    Int32.toInt_inj.mp (ofInt_inj.mp h)
  rintro ⟨g, d, f, w⟩ ⟨g', d', f', w'⟩ h
  simp only [SessionView.toJson, Json.object.injEq, List.cons.injEq, Prod.mk.injEq, true_and,
    and_true, ofOption_inj GameMode.toJson_inj (fun _ => Json.noConfusion),
    ofOption_inj hd (fun _ => ofInt_ne_null _),
    ofOption_inj Difficulty.toJson_inj (fun _ => Json.noConfusion),
    ofOption_inj WorldType.toJson_inj (fun _ => Json.noConfusion)] at h
  obtain ⟨rfl, rfl, rfl, rfl⟩ := h
  rfl

theorem ChunkView.toJson_eq_iff {c c' : ChunkView} :
    c.toJson = c'.toJson ↔ (c.sections, c.biome) = (c'.sections, c'.biome) := by
  have hs : Function.Injective (ofOption ofBytes) := fun a b h =>
    (ofOption_inj (fun _ _ => ofBytes_inj.mp) (fun _ => Json.noConfusion)).mp h
  simp only [ChunkView.toJson, Json.object.injEq, List.cons.injEq, Prod.mk.injEq, true_and,
    and_true, Json.array.injEq, (List.map_injective_iff.mpr hs).eq_iff, hs.eq_iff]

theorem TeamView.toJson_eq_iff {t t' : TeamView} :
    t.toJson = t'.toJson ↔ (t.info, t.players.elements) = (t'.info, t'.players.elements) := by
  have hs : Function.Injective Json.string := fun _ _ => Json.string.inj
  simp only [TeamView.toJson, Json.object.injEq, List.cons.injEq, Prod.mk.injEq, true_and,
    and_true, Json.array.injEq, (List.map_injective_iff.mpr hs).eq_iff, TeamInfo.toJson_inj.eq_iff]

theorem int32_key_inj : Function.Injective fun k : Int32 => toString k.toInt :=
  fun _ _ h => Int32.toInt_inj.mp (toString_int_inj h)

theorem int16_key_inj : Function.Injective fun k : Int16 => toString k.toInt :=
  fun _ _ h => Int16.toInt_inj.mp (toString_int_inj h)

theorem uint64_key_inj : Function.Injective fun k : UInt64 => toString k.toNat :=
  fun _ _ h => UInt64.toNat_inj.mp (toString_nat_inj h)

theorem EntityView.integral_toJson (e : EntityView) : e.toJson.Integral := by
  simp [EntityView.toJson]

theorem ChunkView.integral_toJson (c : ChunkView) : c.toJson.Integral := by
  simp [ChunkView.toJson, integral_ofOption]

theorem TeamView.integral_toJson (t : TeamView) : t.toJson.Integral := by
  simp [TeamView.toJson, TeamInfo.toJson, FriendlyFire.toJson]

theorem SessionView.integral_toJson (s : SessionView) : s.toJson.Integral := by
  simp [SessionView.toJson, integral_ofOption (f := GameMode.toJson) fun _ => trivial,
    integral_ofOption (f := Difficulty.toJson) fun _ => trivial,
    integral_ofOption (f := WorldType.toJson) fun _ => trivial,
    integral_ofOption (f := fun d : Int32 => ofInt d.toInt) fun _ => integral_ofInt _]

theorem ItemStack.integral_toJson (i : ItemStack) : i.toJson.Integral := by
  cases h : i.nbt <;> simp [ItemStack.toJson, h]

theorem MapData.integral_toJson (m : MapData) : m.toJson.Integral := by
  simp [MapData.toJson]

theorem BlockPos.integral_toJson (p : BlockPos) : p.toJson.Integral := by
  simp [BlockPos.toJson]

namespace ReplayView

variable {κ ν : Type}

/-- What a replay comparison looks at: the entities, the columns' sections and biome, the block
values, the teams with their players, the session, the inventory and the maps. Block write times
are not part of it. -/
@[mk_iff]
structure Alike (a b : ReplayView) : Prop where
  entities : a.entities.entries = b.entities.entries
  chunks : a.chunks.entries.map (fun p => (p.1, p.2.sections, p.2.biome)) =
    b.chunks.entries.map (fun p => (p.1, p.2.sections, p.2.biome))
  blocks : a.blockValues = b.blockValues
  teams : a.teams.entries.map (fun p => (p.1, p.2.info, p.2.players.elements)) =
    b.teams.entries.map (fun p => (p.1, p.2.info, p.2.players.elements))
  session : a.session = b.session
  inventory : a.inventory.entries = b.inventory.entries
  maps : a.maps.entries = b.maps.entries

theorem agrees_iff (a b : ReplayView) : a.agrees b = true ↔ Alike a b := by
  rw [alike_iff,
    map_eq_map_iff_zip (f := fun p : UInt64 × ChunkView => (p.1, p.2.sections, p.2.biome))]
  simp only [agrees, Bool.and_eq_true, beq_iff_eq, List.all_eq_true, Prod.mk.injEq, and_assoc]

theorem keyed_eq (key : κ → String) (value : ν → Json) (m : KeyMap κ ν) :
    keyed key value m = .object (m.entries.map fun p => (key p.1, value p.2)) := rfl

theorem integral_keyed (key : κ → String) {value : ν → Json} (hv : ∀ x, (value x).Integral)
    (m : KeyMap κ ν) : (keyed key value m).Integral := by
  simp only [keyed_eq, integral_object, List.mem_map]
  rintro _ ⟨p, -, rfl⟩
  exact hv p.2

/-- Two maps written with the same key and value printers are written alike exactly when their
entries agree on what `g` keeps, when the printers keep just that. -/
theorem keyed_eq_keyed_iff {γ : Type} (key : κ → String) (value : ν → Json)
    {g : κ × ν → γ} (h : ∀ x y, (key x.1, value x.2) = (key y.1, value y.2) ↔ g x = g y) {m m' : KeyMap κ ν} :
    keyed key value m = keyed key value m' ↔ m.entries.map g = m'.entries.map g := by
  rw [keyed_eq, keyed_eq, Json.object.injEq]
  exact map_eq_map_iff h

theorem keyed_inj {key : κ → String} {value : ν → Json} (hk : Function.Injective key)
    (hv : Function.Injective value) {m m' : KeyMap κ ν} :
    keyed key value m = keyed key value m' ↔ m.entries = m'.entries := by
  rw [keyed_eq_keyed_iff key value (g := id) fun x y => ?_, List.map_id, List.map_id]
  simp only [hk.eq_iff, hv.eq_iff, id, Prod.ext_iff]

theorem canonical_eq (v : ReplayView) :
    v.canonical = .object [("view", v.toJson), ("blocks",
      .array (v.blockValues.map fun p => .array [p.1.toJson, ofNat p.2.toNat]))] := rfl

theorem block_inj : Function.Injective fun p : BlockPos × UInt32 =>
    Json.array [p.1.toJson, ofNat p.2.toNat] := by
  rintro ⟨p, b⟩ ⟨p', b'⟩ h
  simp only [Json.array.injEq, List.cons.injEq, BlockPos.toJson_inj.eq_iff, ofNat_inj,
    UInt32.toNat_inj, and_true] at h
  rw [h.1, h.2]

/-- Two views have the same canonical form exactly when they are alike. -/
theorem canonical_eq_iff (a b : ReplayView) : a.canonical = b.canonical ↔ Alike a b := by
  have hchunks : ∀ x y : UInt64 × ChunkView,
      (toString x.1.toNat, x.2.toJson) = (toString y.1.toNat, y.2.toJson) ↔
        (x.1, x.2.sections, x.2.biome) = (y.1, y.2.sections, y.2.biome) := by
    intro x y
    simp only [Prod.mk.injEq, uint64_key_inj.eq_iff, ChunkView.toJson_eq_iff]
  have hteams : ∀ x y : String × TeamView,
      (id x.1, x.2.toJson) = (id y.1, y.2.toJson) ↔
        (x.1, x.2.info, x.2.players.elements) = (y.1, y.2.info, y.2.players.elements) := by
    intro x y
    simp only [Prod.mk.injEq, id, TeamView.toJson_eq_iff]
  simp only [canonical_eq, toJson, Json.object.injEq, List.cons.injEq, Prod.mk.injEq, true_and,
    and_true, Json.array.injEq, (List.map_injective_iff.mpr block_inj).eq_iff,
    keyed_inj int32_key_inj EntityView.toJson_inj,
    keyed_eq_keyed_iff (fun k : UInt64 => toString k.toNat) ChunkView.toJson hchunks,
    keyed_eq_keyed_iff id TeamView.toJson hteams, SessionView.toJson_inj.eq_iff,
    keyed_inj int16_key_inj fun _ _ h =>
      (ofOption_inj ItemStack.toJson_inj (fun _ => Json.noConfusion)).mp h,
    keyed_inj int32_key_inj MapData.toJson_inj]
  rw [alike_iff]
  tauto

theorem integral_toJson (v : ReplayView) : v.toJson.Integral := by
  simp [toJson, integral_keyed, EntityView.integral_toJson, ChunkView.integral_toJson,
    TeamView.integral_toJson, SessionView.integral_toJson,
    integral_ofOption ItemStack.integral_toJson, MapData.integral_toJson]

theorem integral_canonical (v : ReplayView) : v.canonical.Integral := by
  simp only [canonical_eq, integral_object, integral_array, List.forall_mem_cons,
    List.forall_mem_map, List.not_mem_nil, IsEmpty.forall_iff, implies_true, and_true]
  refine ⟨integral_toJson v, fun p _ => ?_⟩
  simp [BlockPos.integral_toJson]

end ReplayView

namespace Blake3

theorem hexValue_hexDigit {n : Nat} (h : n < 16) : Json.hexValue (hexDigit n) = n :=
  Json.hexValue_hexDigit n h

/-- Hexadecimal text loses nothing: each byte is written as two digits that read back. -/
theorem hex_inj {x y : List UInt8} (h : hex x = hex y) : x = y := by
  unfold hex at h
  rw [String.ofList_inj] at h
  induction x generalizing y with
  | nil => cases y <;> simp_all
  | cons a x ih =>
    cases y with
    | nil => simp at h
    | cons b y =>
      simp only [List.flatMap_cons, List.cons_append, List.nil_append, List.cons.injEq] at h
      obtain ⟨hhi, hlo, hrest⟩ := h
      have ha := a.toNat_lt
      have hb := b.toNat_lt
      have hhi' := congrArg Json.hexValue hhi
      have hlo' := congrArg Json.hexValue hlo
      rw [hexValue_hexDigit (by omega), hexValue_hexDigit (by omega)] at hhi' hlo'
      have hab : a = b := UInt8.toNat_inj.mp (by omega)
      rw [hab, ih hrest]

end Blake3

namespace ReplayView

/-- Two digests are equal exactly when the hashes they print are. -/
theorem digest_eq_iff (a b : ReplayView) : a.digest = b.digest ↔
    Blake3.hash a.canonical.compact.toUTF8.toList = Blake3.hash b.canonical.compact.toUTF8.toList := by
  unfold digest
  rw [String.append_right_inj]
  exact ⟨Blake3.hex_inj, congrArg Blake3.hex⟩

/-- Comparing two views is comparing the bytes of their canonical forms; so the digests of two
views agree exactly when those bytes hash alike, and differ whenever the views do not agree and
the hash does not collide. -/
theorem agrees_iff_canonical_bytes (a b : ReplayView) :
    (a.agrees b = true ↔ a.canonical.compact.toUTF8 = b.canonical.compact.toUTF8) ∧
    (a.digest = b.digest ↔ Blake3.hash a.canonical.compact.toUTF8.toList =
      Blake3.hash b.canonical.compact.toUTF8.toList) := by
  refine ⟨?_, digest_eq_iff a b⟩
  rw [String.toUTF8_eq_toByteArray, String.toUTF8_eq_toByteArray, String.toByteArray_inj,
    agrees_iff, ← canonical_eq_iff]
  exact ⟨congrArg compact, compact_inj (integral_canonical a) (integral_canonical b)⟩

end ReplayView

end SessionSquash
