import Mathlib
import SessionSquash.Proofs.Json.Reading
import SessionSquash.Proofs.Json.Fields
import SessionSquash.Record.Basic

namespace SessionSquash

set_option autoImplicit false

/-- Whether the number is a floating-point one. -/
def Number.isFloat : Number → Bool
  | .double _ | .single _ => true
  | _ => false

namespace Json

/-- Nested at most `d` deep, every integer within the range the reader takes. -/
def Bounded (d : Nat) (j : Json) : Prop :=
  j.depth ≤ d ∧ ∀ n ∈ j.numbers, n.isFloat = true ∨ n.Fits

theorem depthList_le_iff {items : List Json} {d : Nat} :
    depthList items ≤ d ↔ ∀ j ∈ items, j.depth ≤ d := by
  induction items with
  | nil => simp [depthList]
  | cons j rest ih => simp [depthList, ih]

theorem depthFields_le_iff {fields : List (String × Json)} {d : Nat} :
    depthFields fields ≤ d ↔ ∀ p ∈ fields, p.2.depth ≤ d := by
  induction fields with
  | nil => simp [depthFields]
  | cons p rest ih =>
    obtain ⟨k, j⟩ := p
    simp [depthFields, ih]

variable {d : Nat}

@[simp] theorem bounded_array (items : List Json) :
    (Json.array items).Bounded (d + 1) ↔ ∀ j ∈ items, j.Bounded d := by
  simp only [Bounded, depth, Nat.add_le_add_iff_right, depthList_le_iff, numbers_array,
    List.mem_flatMap, forall_exists_index, and_imp]
  exact ⟨fun h j hj => ⟨h.1 j hj, fun n hn => h.2 n j hj hn⟩,
    fun h => ⟨fun j hj => (h j hj).1, fun n j hj hn => (h j hj).2 n hn⟩⟩

@[simp 1100] theorem bounded_array_map {α : Type} (g : α → Json) (l : List α) :
    (Json.array (l.map g)).Bounded (d + 1) ↔ ∀ a ∈ l, (g a).Bounded d := by
  simp only [bounded_array, List.forall_mem_map]

@[simp] theorem bounded_object (fields : List (String × Json)) :
    (Json.object fields).Bounded (d + 1) ↔ ∀ p ∈ fields, p.2.Bounded d := by
  simp only [Bounded, depth, Nat.add_le_add_iff_right, depthFields_le_iff, numbers_object,
    List.mem_flatMap, forall_exists_index, and_imp]
  exact ⟨fun h p hp => ⟨h.1 p hp, fun n hn => h.2 n p hp hn⟩,
    fun h => ⟨fun p hp => (h p hp).1, fun n p hp hn => (h p hp).2 n hn⟩⟩

theorem bounded_ofInt {i : Int} (hlo : -2 ^ 63 ≤ i) (hhi : i < 2 ^ 64) : (ofInt i).Bounded d := by
  refine ⟨by unfold ofInt; split <;> simp [depth], ?_⟩
  unfold ofInt
  split <;> simp [Number.Fits] <;> omega

@[simp] theorem bounded_int8 (x : Int8) : (ofInt x.toInt).Bounded d :=
  bounded_ofInt (by have := x.le_toInt; omega) (by have := x.toInt_lt; omega)

@[simp] theorem bounded_int16 (x : Int16) : (ofInt x.toInt).Bounded d :=
  bounded_ofInt (by have := x.le_toInt; omega) (by have := x.toInt_lt; omega)

@[simp] theorem bounded_int32 (x : Int32) : (ofInt x.toInt).Bounded d :=
  bounded_ofInt (by have := x.le_toInt; omega) (by have := x.toInt_lt; omega)

@[simp] theorem bounded_int64 (x : Int64) : (ofInt x.toInt).Bounded d :=
  bounded_ofInt (by have := x.le_toInt; omega) (by have := x.toInt_lt; omega)

theorem bounded_ofNat {n : Nat} (h : n < 2 ^ 64) : (ofNat n).Bounded d :=
  ⟨Nat.zero_le d, by simpa [ofNat, Number.Fits, Number.isFloat] using h⟩

@[simp] theorem bounded_uint8 (x : UInt8) : (ofNat x.toNat).Bounded d :=
  bounded_ofNat (by have := x.toNat_lt; omega)

@[simp] theorem bounded_uint32 (x : UInt32) : (ofNat x.toNat).Bounded d :=
  bounded_ofNat (by have := x.toNat_lt; omega)

@[simp] theorem bounded_ofDouble (x : Binary64) : (ofDouble x).Bounded d :=
  ⟨Nat.zero_le d, by simp [ofDouble, Number.isFloat]⟩

@[simp] theorem bounded_ofSingle (x : Binary32) : (ofSingle x).Bounded d :=
  ⟨Nat.zero_le d, by simp [ofSingle, Number.isFloat]⟩

@[simp] theorem bounded_string (s : String) : (Json.string s).Bounded d :=
  ⟨Nat.zero_le d, by simp⟩

@[simp] theorem bounded_bool (b : Bool) : (Json.bool b).Bounded d :=
  ⟨Nat.zero_le d, by simp⟩

@[simp] theorem bounded_null : Json.null.Bounded d :=
  ⟨Nat.zero_le d, by simp⟩

@[simp] theorem bounded_ofBytes (l : List UInt8) : (ofBytes l).Bounded (d + 1) := by
  simp [ofBytes]

@[simp] theorem bounded_ofTriple {α : Type} {g : α → Json} (hg : ∀ a, (g a).Bounded d)
    (t : α × α × α) : (ofTriple g t).Bounded (d + 1) := by
  simp [ofTriple_eq, hg]

@[simp] theorem bounded_ofOption {α : Type} {g : α → Json} (hg : ∀ a, (g a).Bounded d)
    (x : Option α) : (ofOption g x).Bounded d := by
  cases x
  · exact bounded_null
  · exact hg _

end Json

section

variable (d : Nat)

@[simp] theorem GameMode.bounded_toJson (v : GameMode) : v.toJson.Bounded d := by
  simp [GameMode.toJson]

@[simp] theorem Difficulty.bounded_toJson (v : Difficulty) : v.toJson.Bounded d := by
  simp [Difficulty.toJson]

@[simp] theorem WorldType.bounded_toJson (v : WorldType) : v.toJson.Bounded d := by
  simp [WorldType.toJson]

@[simp] theorem FriendlyFire.bounded_toJson (v : FriendlyFire) : v.toJson.Bounded d := by
  simp [FriendlyFire.toJson]

@[simp] theorem MovementKind.bounded_toJson (v : MovementKind) : v.toJson.Bounded d := by
  simp [MovementKind.toJson]

@[simp] theorem Location.bounded_toJson (r : Location) : r.toJson.Bounded (d + 1) := by
  simp [Location.toJson]

@[simp] theorem BlockPos.bounded_toJson (r : BlockPos) : r.toJson.Bounded (d + 1) := by
  simp [BlockPos.toJson]

@[simp] theorem ItemStack.bounded_toJson (r : ItemStack) : r.toJson.Bounded (d + 2) := by
  cases h : r.nbt <;> simp [ItemStack.toJson, h]

@[simp] theorem SpawnPlayer.bounded_toJson (r : SpawnPlayer) : r.toJson.Bounded (d + 2) := by
  simp [SpawnPlayer.toJson]
@[simp] theorem SpawnObject.bounded_toJson (r : SpawnObject) : r.toJson.Bounded (d + 2) := by
  simp [SpawnObject.toJson]
@[simp] theorem SpawnMob.bounded_toJson (r : SpawnMob) : r.toJson.Bounded (d + 2) := by
  simp [SpawnMob.toJson]
@[simp] theorem SpawnPainting.bounded_toJson (r : SpawnPainting) : r.toJson.Bounded (d + 2) := by
  simp [SpawnPainting.toJson]
@[simp] theorem SpawnExpOrb.bounded_toJson (r : SpawnExpOrb) : r.toJson.Bounded (d + 1) := by
  simp [SpawnExpOrb.toJson]
@[simp] theorem SpawnGlobal.bounded_toJson (r : SpawnGlobal) : r.toJson.Bounded (d + 1) := by
  simp [SpawnGlobal.toJson]
@[simp] theorem Animation.bounded_toJson (r : Animation) : r.toJson.Bounded (d + 1) := by
  simp [Animation.toJson]
@[simp] theorem CollectItem.bounded_toJson (r : CollectItem) : r.toJson.Bounded (d + 1) := by
  simp [CollectItem.toJson]
@[simp] theorem Destroy.bounded_toJson (r : Destroy) : r.toJson.Bounded (d + 2) := by
  simp [Destroy.toJson]
@[simp] theorem Attach.bounded_toJson (r : Attach) : r.toJson.Bounded (d + 1) := by
  simp [Attach.toJson]
@[simp] theorem Effect.bounded_toJson (r : Effect) : r.toJson.Bounded (d + 1) := by
  simp [Effect.toJson]
@[simp] theorem RemoveEffect.bounded_toJson (r : RemoveEffect) : r.toJson.Bounded (d + 1) := by
  simp [RemoveEffect.toJson]
@[simp] theorem Equipment.bounded_toJson (r : Equipment) : r.toJson.Bounded (d + 3) := by
  simp [Equipment.toJson]
@[simp] theorem HeadLook.bounded_toJson (r : HeadLook) : r.toJson.Bounded (d + 1) := by
  simp [HeadLook.toJson]
@[simp] theorem Metadata.bounded_toJson (r : Metadata) : r.toJson.Bounded (d + 2) := by
  simp [Metadata.toJson]
@[simp] theorem Movement.bounded_toJson (r : Movement) : r.toJson.Bounded (d + 1) := by
  simp [Movement.toJson]
@[simp] theorem Teleport.bounded_toJson (r : Teleport) : r.toJson.Bounded (d + 2) := by
  simp [Teleport.toJson]
@[simp] theorem Velocity.bounded_toJson (r : Velocity) : r.toJson.Bounded (d + 1) := by
  simp [Velocity.toJson]
@[simp] theorem AttributeModifier.bounded_toJson (r : AttributeModifier) : r.toJson.Bounded (d + 1) := by
  simp [AttributeModifier.toJson]
@[simp] theorem Attribute.bounded_toJson (r : Attribute) : r.toJson.Bounded (d + 3) := by
  by_cases hm : r.modifiers = [] <;> simp [Attribute.toJson, hm]
@[simp] theorem Properties.bounded_toJson (r : Properties) : r.toJson.Bounded (d + 5) := by
  simp [Properties.toJson]
@[simp] theorem Status.bounded_toJson (r : Status) : r.toJson.Bounded (d + 1) := by
  simp [Status.toJson]
@[simp] theorem UseBed.bounded_toJson (r : UseBed) : r.toJson.Bounded (d + 2) := by
  simp [UseBed.toJson]
@[simp] theorem BlockBreakAnim.bounded_toJson (r : BlockBreakAnim) : r.toJson.Bounded (d + 2) := by
  simp [BlockBreakAnim.toJson]

@[simp] theorem ChunkColumn.bounded_toJson (r : ChunkColumn) : r.toJson.Bounded (d + 3) := by
  cases h : r.biome <;> simp [ChunkColumn.toJson, h]
@[simp] theorem MultiChunk.bounded_toJson (r : MultiChunk) : r.toJson.Bounded (d + 5) := by
  simp [MultiChunk.toJson]
@[simp] theorem BlockChange.bounded_toJson (r : BlockChange) : r.toJson.Bounded (d + 2) := by
  simp [BlockChange.toJson]
@[simp] theorem MultiBlockChange.bounded_toJson (r : MultiBlockChange) : r.toJson.Bounded (d + 4) := by
  simp [MultiBlockChange.toJson]

@[simp] theorem PositionRotation.bounded_toJson (r : PositionRotation) : r.toJson.Bounded (d + 2) := by
  simp [PositionRotation.toJson]
@[simp] theorem BlockValue.bounded_toJson (r : BlockValue) : r.toJson.Bounded (d + 2) := by
  simp [BlockValue.toJson]
@[simp] theorem Explosion.bounded_toJson (r : Explosion) : r.toJson.Bounded (d + 3) := by
  simp [Explosion.toJson]
@[simp] theorem TileEntityEditor.bounded_toJson (r : TileEntityEditor) : r.toJson.Bounded (d + 2) := by
  simp [TileEntityEditor.toJson]
@[simp] theorem PlayEffect.bounded_toJson (r : PlayEffect) : r.toJson.Bounded (d + 2) := by
  simp [PlayEffect.toJson]
@[simp] theorem PlaySound.bounded_toJson (r : PlaySound) : r.toJson.Bounded (d + 1) := by
  simp [PlaySound.toJson]
@[simp] theorem Particle.bounded_toJson (r : Particle) : r.toJson.Bounded (d + 2) := by
  simp [Particle.toJson]
@[simp] theorem SpawnPosition.bounded_toJson (r : SpawnPosition) : r.toJson.Bounded (d + 2) := by
  simp [SpawnPosition.toJson]
@[simp] theorem UpdateSign.bounded_toJson (r : UpdateSign) : r.toJson.Bounded (d + 2) := by
  simp [UpdateSign.toJson]
@[simp] theorem TileEntity.bounded_toJson (r : TileEntity) : r.toJson.Bounded (d + 2) := by
  simp [TileEntity.toJson]
@[simp] theorem WorldTime.bounded_toJson (r : WorldTime) : r.toJson.Bounded (d + 1) := by
  simp [WorldTime.toJson]

@[simp] theorem OpenWindow.bounded_toJson (r : OpenWindow) : r.toJson.Bounded (d + 1) := by
  simp [OpenWindow.toJson]
@[simp] theorem CloseWindow.bounded_toJson (r : CloseWindow) : r.toJson.Bounded (d + 1) := by
  simp [CloseWindow.toJson]
@[simp] theorem WindowProperty.bounded_toJson (r : WindowProperty) : r.toJson.Bounded (d + 1) := by
  simp [WindowProperty.toJson]
@[simp] theorem WindowItems.bounded_toJson (r : WindowItems) : r.toJson.Bounded (d + 4) := by
  simp [WindowItems.toJson]
@[simp] theorem SetSlot.bounded_toJson (r : SetSlot) : r.toJson.Bounded (d + 3) := by
  simp [SetSlot.toJson]
@[simp] theorem ConfirmTransaction.bounded_toJson (r : ConfirmTransaction) : r.toJson.Bounded (d + 1) := by
  simp [ConfirmTransaction.toJson]

@[simp] theorem JoinGame.bounded_toJson (r : JoinGame) : r.toJson.Bounded (d + 1) := by
  simp [JoinGame.toJson]
@[simp] theorem Respawn.bounded_toJson (r : Respawn) : r.toJson.Bounded (d + 1) := by
  simp [Respawn.toJson]
@[simp] theorem Notification.bounded_toJson (r : Notification) : r.toJson.Bounded (d + 1) := by
  cases r <;> simp [Notification.toJson]
@[simp] theorem Experience.bounded_toJson (r : Experience) : r.toJson.Bounded (d + 1) := by
  simp [Experience.toJson]
@[simp] theorem Abilities.bounded_toJson (r : Abilities) : r.toJson.Bounded (d + 1) := by
  simp [Abilities.toJson]
@[simp] theorem MapData.bounded_toJson (r : MapData) : r.toJson.Bounded (d + 2) := by
  simp [MapData.toJson]

@[simp] theorem Chat.bounded_toJson (r : Chat) : r.toJson.Bounded (d + 1) := by
  simp [Chat.toJson]
@[simp] theorem PluginMessage.bounded_toJson (r : PluginMessage) : r.toJson.Bounded (d + 2) := by
  simp [PluginMessage.toJson]
@[simp] theorem TeamInfo.bounded_toJson (r : TeamInfo) : r.toJson.Bounded (d + 1) := by
  simp [TeamInfo.toJson]
@[simp] theorem TeamRecord.bounded_toJson (r : TeamRecord) : r.toJson.Bounded (d + 2) := by
  cases h : r.action <;> simp [TeamRecord.toJson, h, TeamAction.members, TeamAction.playerList]

end

/-- Every payload's JSON form nests at most five deep and holds integers of 64 bits only. -/
theorem Payload.bounded_toJson (p : Payload) : p.toJson.Bounded 5 := by
  cases p <;> simp [Payload.toJson]

end SessionSquash
