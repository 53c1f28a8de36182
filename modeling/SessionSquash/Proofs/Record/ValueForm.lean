import Mathlib
import SessionSquash.Proofs.Json.Fields
import SessionSquash.Record.Basic

namespace SessionSquash

set_option autoImplicit false

attribute [local simp] Fields.readMember Fields.withDefault Fields.runOn Decoder.record
  Json.field?_toValueFields Except.ok_bind Except.map_ok

attribute [local simp 1100] Fields.run_bind_required Fields.run_map_required Fields.run_bind_optional
  Fields.run_map_optional Fields.run_bind_field Fields.run_map_field

variable {f : Number → Number} {o : Origin}

namespace Json

theorem field?_filter_ne (t k : String) :
    ∀ fs : List (String × Json),
      field? (fs.filter fun p => p.1 != t) k = if k = t then none else field? fs k
  | [] => by simp [field?]
  | p :: rest => by
    have hrest := field?_filter_ne t k rest
    by_cases hp : p.1 = t
    · by_cases hk : k = t
      · simp_all
      · simp_all [field?_cons, Ne.symm hk]
    · by_cases hk : p.1 = k <;> by_cases hkt : k = t <;> simp_all [field?_cons]

end Json

namespace Decoder

variable {β : Type}

theorem find?_name (name : β → String) (v : β) :
    ∀ all : List β, v ∈ all → (all.map name).Nodup →
      (all.map fun a => (name a, a)).find? (·.1 == name v) = some (name v, v)
  | [], hv, _ => absurd hv List.not_mem_nil
  | a :: rest, hv, hnd => by
    rw [List.map_cons, List.nodup_cons] at hnd
    by_cases hav : a = v
    · subst hav
      simp
    · have hrest : v ∈ rest := (List.mem_cons.1 hv).resolve_left (Ne.symm hav)
      have hne : name a ≠ name v := fun h => hnd.1 (h ▸ List.mem_map_of_mem hrest)
      simp [hne, find?_name name v rest hrest hnd.2]

/-- A choice written by its name reads back, when no two choices share a name. -/
theorem variant_name (all : List β) (name : β → String) (v : β) (hv : v ∈ all)
    (hnames : (all.map name).Nodup) :
    variant (all.map fun a => (name a, a)) o (.string (name v)) = .ok v := by
  simp only [variant, find?_name name v all hv hnames]

/-- A list reads back item by item. -/
@[simp] theorem list_value (d : Decoder β) (g : β → Json) (l : List β)
    (h : ∀ a ∈ l, d o ((g a).mapFloats f).toValue = .ok a) :
    list d o (.array (l.map (Json.toValue ∘ Json.mapFloats f ∘ g))) = .ok l :=
  list_array_map d o _ l h

@[simp] theorem list_string_value (l : List String) :
    list string o (.array (l.map (Json.toValue ∘ Json.mapFloats f ∘ Json.string))) = .ok l :=
  list_value _ _ l fun _ _ => rfl

@[simp] theorem option_bytes_ofBytes (l : List UInt8) :
    option bytes o (Json.ofBytes l) = .ok (some l) := by
  rw [Json.ofBytes, option_array, ← Json.ofBytes, bytes_ofBytes]
  rfl

@[simp] theorem option_bytes_value (a : Option (List UInt8)) :
    option bytes o ((Json.ofOption Json.ofBytes a).mapFloats f).toValue = .ok a := by
  cases a <;> simp

/-- An array of the length asked for reads back item by item. -/
@[simp] theorem exactly_value (n : Nat) (d : Decoder β) (g : β → Json) (l : List β)
    (hn : l.length = n) (h : ∀ a ∈ l, d o ((g a).mapFloats f).toValue = .ok a) :
    exactly n d o (.array (l.map (Json.toValue ∘ Json.mapFloats f ∘ g))) =
      .ok ⟨l.toArray, by simpa using hn⟩ :=
  exactly_array_map n d o _ l hn h

theorem option_of_ne_null (d : Decoder β) {j : Json} (h : j ≠ .null) :
    option d o j = (d o j).map some := by
  cases j <;> first | rfl | exact absurd rfl h

/-- A field read on its own from a value form is what its first member holds. -/
theorem member_value (d : Decoder β) (ho : o.fromText = false) (fs : List (String × Json))
    (name : String) :
    member d o fs name = ((Json.field? fs name).map (d o)).getD (.error (.missingField name)) := by
  unfold member
  cases hp : Fields.positions fs name with
  | nil => simp [Fields.field?_eq_none_of_positions hp]
  | cons i rest =>
    have hv := Fields.getElem?_positions_head hp
    cases hd : Json.field? fs name with
    | none => simp [Fields.positions_eq_nil hd] at hp
    | some v =>
      rw [hd] at hv
      simp only [hv, Option.getD_some, ho, Option.map_some]
      cases d o v <;> rfl

end Decoder

@[simp] theorem GameMode.decoder_value (v : GameMode) :
    GameMode.decoder o (v.toJson.mapFloats f).toValue = .ok v :=
  Decoder.variant_name all name v (by cases v <;> simp [all]) (by decide)

@[simp] theorem Difficulty.decoder_value (v : Difficulty) :
    Difficulty.decoder o (v.toJson.mapFloats f).toValue = .ok v :=
  Decoder.variant_name all name v (by cases v <;> simp [all]) (by decide)

@[simp] theorem WorldType.decoder_value (v : WorldType) :
    WorldType.decoder o (v.toJson.mapFloats f).toValue = .ok v :=
  Decoder.variant_name all name v (by cases v <;> simp [all]) (by decide)

@[simp] theorem FriendlyFire.decoder_value (v : FriendlyFire) :
    FriendlyFire.decoder o (v.toJson.mapFloats f).toValue = .ok v :=
  Decoder.variant_name all name v (by cases v <;> simp [all]) (by decide)

@[simp] theorem MovementKind.decoder_value (v : MovementKind) :
    MovementKind.decoder o (v.toJson.mapFloats f).toValue = .ok v :=
  Decoder.variant_name all name v (by cases v <;> simp [all]) (by decide)

@[simp] theorem Location.decoder_value (r : Location) (ho : o.fromText = false)
    (hkept : r.toJson.FloatsKept f) :
    Location.decoder o (r.toJson.mapFloats f).toValue = .ok r := by
  simp [Location.toJson] at hkept
  simp [Location.decoder, Location.toJson, ho, hkept]

@[simp] theorem BlockPos.decoder_value (r : BlockPos) (ho : o.fromText = false) :
    BlockPos.decoder o (r.toJson.mapFloats f).toValue = .ok r := by
  simp [BlockPos.decoder, BlockPos.toJson, ho]

@[simp] theorem ItemStack.decoder_value (r : ItemStack) (ho : o.fromText = false) :
    ItemStack.decoder o (r.toJson.mapFloats f).toValue = .ok r := by
  obtain ⟨id, amount, damage, nbt⟩ := r
  cases nbt <;> simp [ItemStack.decoder, ItemStack.toJson, ho]

@[simp] theorem ItemStack.option_decoder_value (r : Option ItemStack) (ho : o.fromText = false) :
    Decoder.option ItemStack.decoder o ((Json.ofOption ItemStack.toJson r).mapFloats f).toValue =
      .ok r := by
  cases r with
  | none => rfl
  | some r =>
    have hobject : ((Json.ofOption ItemStack.toJson (some r)).mapFloats f).toValue ≠ .null := by
      simp [ItemStack.toJson]
    rw [Decoder.option_of_ne_null _ hobject, Json.ofOption_some, ItemStack.decoder_value r ho]
    rfl

@[simp] theorem SpawnPlayer.decoder_value (r : SpawnPlayer) (ho : o.fromText = false)
    (hkept : r.toJson.FloatsKept f) :
    SpawnPlayer.decoder o (r.toJson.mapFloats f).toValue = .ok r := by
  simp [SpawnPlayer.toJson] at hkept
  simp [SpawnPlayer.decoder, SpawnPlayer.toJson, ho, hkept]

@[simp] theorem SpawnObject.decoder_value (r : SpawnObject) (ho : o.fromText = false)
    (hkept : r.toJson.FloatsKept f) :
    SpawnObject.decoder o (r.toJson.mapFloats f).toValue = .ok r := by
  simp [SpawnObject.toJson, Json.ofTriple_eq] at hkept
  simp [SpawnObject.decoder, SpawnObject.toJson, Json.ofTriple_eq, ho, hkept]

@[simp] theorem SpawnMob.decoder_value (r : SpawnMob) (ho : o.fromText = false)
    (hkept : r.toJson.FloatsKept f) :
    SpawnMob.decoder o (r.toJson.mapFloats f).toValue = .ok r := by
  simp [SpawnMob.toJson, Json.ofTriple_eq] at hkept
  simp [SpawnMob.decoder, SpawnMob.toJson, Json.ofTriple_eq, ho, hkept]

@[simp] theorem SpawnPainting.decoder_value (r : SpawnPainting) (ho : o.fromText = false) :
    SpawnPainting.decoder o (r.toJson.mapFloats f).toValue = .ok r := by
  simp [SpawnPainting.decoder, SpawnPainting.toJson, ho]

@[simp] theorem SpawnExpOrb.decoder_value (r : SpawnExpOrb) (ho : o.fromText = false)
    (hkept : r.toJson.FloatsKept f) :
    SpawnExpOrb.decoder o (r.toJson.mapFloats f).toValue = .ok r := by
  simp [SpawnExpOrb.toJson] at hkept
  simp [SpawnExpOrb.decoder, SpawnExpOrb.toJson, ho, hkept]

@[simp] theorem SpawnGlobal.decoder_value (r : SpawnGlobal) (ho : o.fromText = false)
    (hkept : r.toJson.FloatsKept f) :
    SpawnGlobal.decoder o (r.toJson.mapFloats f).toValue = .ok r := by
  simp [SpawnGlobal.toJson] at hkept
  simp [SpawnGlobal.decoder, SpawnGlobal.toJson, ho, hkept]

@[simp] theorem Animation.decoder_value (r : Animation) (ho : o.fromText = false) :
    Animation.decoder o (r.toJson.mapFloats f).toValue = .ok r := by
  simp [Animation.decoder, Animation.toJson, ho]

@[simp] theorem CollectItem.decoder_value (r : CollectItem) (ho : o.fromText = false) :
    CollectItem.decoder o (r.toJson.mapFloats f).toValue = .ok r := by
  simp [CollectItem.decoder, CollectItem.toJson, ho]

@[simp] theorem Destroy.decoder_value (r : Destroy) (ho : o.fromText = false) :
    Destroy.decoder o (r.toJson.mapFloats f).toValue = .ok r := by
  simp [Destroy.decoder, Destroy.toJson, ho]

@[simp] theorem Attach.decoder_value (r : Attach) (ho : o.fromText = false) :
    Attach.decoder o (r.toJson.mapFloats f).toValue = .ok r := by
  simp [Attach.decoder, Attach.toJson, ho]

@[simp] theorem Effect.decoder_value (r : Effect) (ho : o.fromText = false) :
    Effect.decoder o (r.toJson.mapFloats f).toValue = .ok r := by
  simp [Effect.decoder, Effect.toJson, ho]

@[simp] theorem RemoveEffect.decoder_value (r : RemoveEffect) (ho : o.fromText = false) :
    RemoveEffect.decoder o (r.toJson.mapFloats f).toValue = .ok r := by
  simp [RemoveEffect.decoder, RemoveEffect.toJson, ho]

@[simp] theorem Equipment.decoder_value (r : Equipment) (ho : o.fromText = false) :
    Equipment.decoder o (r.toJson.mapFloats f).toValue = .ok r := by
  simp [Equipment.decoder, Equipment.toJson, ho]

@[simp] theorem HeadLook.decoder_value (r : HeadLook) (ho : o.fromText = false)
    (hkept : r.toJson.FloatsKept f) :
    HeadLook.decoder o (r.toJson.mapFloats f).toValue = .ok r := by
  simp [HeadLook.toJson] at hkept
  simp [HeadLook.decoder, HeadLook.toJson, ho, hkept]

@[simp] theorem Metadata.decoder_value (r : Metadata) (ho : o.fromText = false) :
    Metadata.decoder o (r.toJson.mapFloats f).toValue = .ok r := by
  simp [Metadata.decoder, Metadata.toJson, ho]

@[simp] theorem Movement.decoder_value (r : Movement) (ho : o.fromText = false)
    (hkept : r.toJson.FloatsKept f) :
    Movement.decoder o (r.toJson.mapFloats f).toValue = .ok r := by
  simp [Movement.toJson] at hkept
  simp [Movement.decoder, Movement.toJson, ho, hkept]

@[simp] theorem Teleport.decoder_value (r : Teleport) (ho : o.fromText = false)
    (hkept : r.toJson.FloatsKept f) :
    Teleport.decoder o (r.toJson.mapFloats f).toValue = .ok r := by
  simp [Teleport.toJson] at hkept
  simp [Teleport.decoder, Teleport.toJson, ho, hkept]

@[simp] theorem Velocity.decoder_value (r : Velocity) (ho : o.fromText = false)
    (hkept : r.toJson.FloatsKept f) :
    Velocity.decoder o (r.toJson.mapFloats f).toValue = .ok r := by
  simp [Velocity.toJson] at hkept
  simp [Velocity.decoder, Velocity.toJson, ho, hkept]

@[simp] theorem AttributeModifier.decoder_value (r : AttributeModifier) (ho : o.fromText = false)
    (hkept : r.toJson.FloatsKept f) :
    AttributeModifier.decoder o (r.toJson.mapFloats f).toValue = .ok r := by
  simp [AttributeModifier.toJson] at hkept
  simp [AttributeModifier.decoder, AttributeModifier.toJson, ho, hkept]

@[simp] theorem AttributeModifier.list_decoder_value (l : List AttributeModifier)
    (ho : o.fromText = false) (hkept : ∀ a ∈ l, a.toJson.FloatsKept f) :
    Decoder.list AttributeModifier.decoder o
      (.array (l.map (Json.toValue ∘ Json.mapFloats f ∘ AttributeModifier.toJson))) = .ok l :=
  Decoder.list_value _ _ l fun a ha => AttributeModifier.decoder_value a ho (hkept a ha)

@[simp] theorem Attribute.decoder_value (r : Attribute) (ho : o.fromText = false)
    (hkept : r.toJson.FloatsKept f) :
    Attribute.decoder o (r.toJson.mapFloats f).toValue = .ok r := by
  obtain ⟨key, value, modifiers⟩ := r
  by_cases hm : modifiers = []
  · subst hm
    simp [Attribute.toJson] at hkept
    simp [Attribute.decoder, Attribute.toJson, ho, hkept]
  · simp [Attribute.toJson, hm] at hkept
    obtain ⟨hvalue, hmodifiers⟩ := hkept
    simp [Attribute.decoder, Attribute.toJson, hm, ho, hvalue,
      AttributeModifier.list_decoder_value modifiers ho hmodifiers]

@[simp] theorem Attribute.list_decoder_value (l : List Attribute) (ho : o.fromText = false)
    (hkept : ∀ a ∈ l, a.toJson.FloatsKept f) :
    Decoder.list Attribute.decoder o
      (.array (l.map (Json.toValue ∘ Json.mapFloats f ∘ Attribute.toJson))) = .ok l :=
  Decoder.list_value _ _ l fun a ha => Attribute.decoder_value a ho (hkept a ha)

@[simp] theorem Properties.decoder_value (r : Properties) (ho : o.fromText = false)
    (hkept : r.toJson.FloatsKept f) :
    Properties.decoder o (r.toJson.mapFloats f).toValue = .ok r := by
  simp [Properties.toJson] at hkept
  simp [Properties.decoder, Properties.toJson, ho, Attribute.list_decoder_value _ ho hkept]

@[simp] theorem Status.decoder_value (r : Status) (ho : o.fromText = false) :
    Status.decoder o (r.toJson.mapFloats f).toValue = .ok r := by
  simp [Status.decoder, Status.toJson, ho]

@[simp] theorem UseBed.decoder_value (r : UseBed) (ho : o.fromText = false) :
    UseBed.decoder o (r.toJson.mapFloats f).toValue = .ok r := by
  simp [UseBed.decoder, UseBed.toJson, ho]

@[simp] theorem BlockBreakAnim.decoder_value (r : BlockBreakAnim) (ho : o.fromText = false) :
    BlockBreakAnim.decoder o (r.toJson.mapFloats f).toValue = .ok r := by
  simp [BlockBreakAnim.decoder, BlockBreakAnim.toJson, ho]

@[simp] theorem ChunkColumn.decoder_value (r : ChunkColumn) (ho : o.fromText = false) :
    ChunkColumn.decoder o (r.toJson.mapFloats f).toValue = .ok r := by
  obtain ⟨x, z, sections, hsections, biome⟩ := r
  cases biome <;> simp_all [ChunkColumn.decoder, ChunkColumn.toJson]

@[simp] theorem ChunkColumn.list_decoder_value (l : List ChunkColumn) (ho : o.fromText = false) :
    Decoder.list ChunkColumn.decoder o
      (.array (l.map (Json.toValue ∘ Json.mapFloats f ∘ ChunkColumn.toJson))) = .ok l :=
  Decoder.list_value _ _ l fun c _ => ChunkColumn.decoder_value c ho

@[simp] theorem MultiChunk.decoder_value (r : MultiChunk) (ho : o.fromText = false) :
    MultiChunk.decoder o (r.toJson.mapFloats f).toValue = .ok r := by
  simp [MultiChunk.decoder, MultiChunk.toJson, ho, ChunkColumn.list_decoder_value _ ho]

@[simp] theorem BlockChange.decoder_value (r : BlockChange) (ho : o.fromText = false) :
    BlockChange.decoder o (r.toJson.mapFloats f).toValue = .ok r := by
  simp [BlockChange.decoder, BlockChange.toJson, ho]

@[simp] theorem MultiBlockChange.decoder_value (r : MultiBlockChange) (ho : o.fromText = false) :
    MultiBlockChange.decoder o (r.toJson.mapFloats f).toValue = .ok r := by
  simp [MultiBlockChange.decoder, MultiBlockChange.toJson, ho]

@[simp] theorem PositionRotation.decoder_value (r : PositionRotation) (ho : o.fromText = false)
    (hkept : r.toJson.FloatsKept f) :
    PositionRotation.decoder o (r.toJson.mapFloats f).toValue = .ok r := by
  simp [PositionRotation.toJson] at hkept
  simp [PositionRotation.decoder, PositionRotation.toJson, ho, hkept]

@[simp] theorem BlockValue.decoder_value (r : BlockValue) (ho : o.fromText = false) :
    BlockValue.decoder o (r.toJson.mapFloats f).toValue = .ok r := by
  simp [BlockValue.decoder, BlockValue.toJson, ho]

@[simp] theorem Explosion.decoder_value (r : Explosion) (ho : o.fromText = false)
    (hkept : r.toJson.FloatsKept f) :
    Explosion.decoder o (r.toJson.mapFloats f).toValue = .ok r := by
  simp [Explosion.toJson, Json.ofTriple_eq] at hkept
  simp [Explosion.decoder, Explosion.toJson, Json.ofTriple_eq, ho, hkept]

@[simp] theorem TileEntityEditor.decoder_value (r : TileEntityEditor) (ho : o.fromText = false) :
    TileEntityEditor.decoder o (r.toJson.mapFloats f).toValue = .ok r := by
  simp [TileEntityEditor.decoder, TileEntityEditor.toJson, ho]

@[simp] theorem PlayEffect.decoder_value (r : PlayEffect) (ho : o.fromText = false) :
    PlayEffect.decoder o (r.toJson.mapFloats f).toValue = .ok r := by
  simp [PlayEffect.decoder, PlayEffect.toJson, ho]

@[simp] theorem PlaySound.decoder_value (r : PlaySound) (ho : o.fromText = false)
    (hkept : r.toJson.FloatsKept f) :
    PlaySound.decoder o (r.toJson.mapFloats f).toValue = .ok r := by
  simp [PlaySound.toJson] at hkept
  simp [PlaySound.decoder, PlaySound.toJson, ho, hkept]

@[simp] theorem Particle.decoder_value (r : Particle) (ho : o.fromText = false)
    (hkept : r.toJson.FloatsKept f) :
    Particle.decoder o (r.toJson.mapFloats f).toValue = .ok r := by
  simp [Particle.toJson, Json.ofTriple_eq] at hkept
  simp [Particle.decoder, Particle.toJson, Json.ofTriple_eq, ho, hkept]

@[simp] theorem SpawnPosition.decoder_value (r : SpawnPosition) (ho : o.fromText = false) :
    SpawnPosition.decoder o (r.toJson.mapFloats f).toValue = .ok r := by
  simp [SpawnPosition.decoder, SpawnPosition.toJson, ho]

@[simp] theorem UpdateSign.decoder_value (r : UpdateSign) (ho : o.fromText = false) :
    UpdateSign.decoder o (r.toJson.mapFloats f).toValue = .ok r := by
  simp [UpdateSign.decoder, UpdateSign.toJson, ho]

@[simp] theorem TileEntity.decoder_value (r : TileEntity) (ho : o.fromText = false) :
    TileEntity.decoder o (r.toJson.mapFloats f).toValue = .ok r := by
  simp [TileEntity.decoder, TileEntity.toJson, ho]

@[simp] theorem WorldTime.decoder_value (r : WorldTime) (ho : o.fromText = false) :
    WorldTime.decoder o (r.toJson.mapFloats f).toValue = .ok r := by
  simp [WorldTime.decoder, WorldTime.toJson, ho]

@[simp] theorem OpenWindow.decoder_value (r : OpenWindow) (ho : o.fromText = false) :
    OpenWindow.decoder o (r.toJson.mapFloats f).toValue = .ok r := by
  simp [OpenWindow.decoder, OpenWindow.toJson, ho]

@[simp] theorem CloseWindow.decoder_value (r : CloseWindow) (ho : o.fromText = false) :
    CloseWindow.decoder o (r.toJson.mapFloats f).toValue = .ok r := by
  simp [CloseWindow.decoder, CloseWindow.toJson, ho]

@[simp] theorem WindowProperty.decoder_value (r : WindowProperty) (ho : o.fromText = false) :
    WindowProperty.decoder o (r.toJson.mapFloats f).toValue = .ok r := by
  simp [WindowProperty.decoder, WindowProperty.toJson, ho]

@[simp] theorem WindowItems.decoder_value (r : WindowItems) (ho : o.fromText = false) :
    WindowItems.decoder o (r.toJson.mapFloats f).toValue = .ok r := by
  simp [WindowItems.decoder, WindowItems.toJson, ho]

@[simp] theorem SetSlot.decoder_value (r : SetSlot) (ho : o.fromText = false) :
    SetSlot.decoder o (r.toJson.mapFloats f).toValue = .ok r := by
  simp [SetSlot.decoder, SetSlot.toJson, ho]

@[simp] theorem ConfirmTransaction.decoder_value (r : ConfirmTransaction)
    (ho : o.fromText = false) :
    ConfirmTransaction.decoder o (r.toJson.mapFloats f).toValue = .ok r := by
  simp [ConfirmTransaction.decoder, ConfirmTransaction.toJson, ho]

@[simp] theorem JoinGame.decoder_value (r : JoinGame) (ho : o.fromText = false) :
    JoinGame.decoder o (r.toJson.mapFloats f).toValue = .ok r := by
  simp [JoinGame.decoder, JoinGame.toJson, ho]

@[simp] theorem Respawn.decoder_value (r : Respawn) (ho : o.fromText = false) :
    Respawn.decoder o (r.toJson.mapFloats f).toValue = .ok r := by
  simp [Respawn.decoder, Respawn.toJson, ho]

@[simp] theorem Experience.decoder_value (r : Experience) (ho : o.fromText = false)
    (hkept : r.toJson.FloatsKept f) :
    Experience.decoder o (r.toJson.mapFloats f).toValue = .ok r := by
  simp [Experience.toJson] at hkept
  simp [Experience.decoder, Experience.toJson, ho, hkept]

@[simp] theorem Abilities.decoder_value (r : Abilities) (ho : o.fromText = false)
    (hkept : r.toJson.FloatsKept f) :
    Abilities.decoder o (r.toJson.mapFloats f).toValue = .ok r := by
  simp [Abilities.toJson] at hkept
  simp [Abilities.decoder, Abilities.toJson, ho, hkept]

@[simp] theorem MapData.decoder_value (r : MapData) (ho : o.fromText = false) :
    MapData.decoder o (r.toJson.mapFloats f).toValue = .ok r := by
  simp [MapData.decoder, MapData.toJson, ho]

@[simp] theorem Chat.decoder_value (r : Chat) (ho : o.fromText = false) :
    Chat.decoder o (r.toJson.mapFloats f).toValue = .ok r := by
  simp [Chat.decoder, Chat.toJson, ho]

@[simp] theorem PluginMessage.decoder_value (r : PluginMessage) (ho : o.fromText = false) :
    PluginMessage.decoder o (r.toJson.mapFloats f).toValue = .ok r := by
  simp [PluginMessage.decoder, PluginMessage.toJson, ho]

@[simp] theorem TeamInfo.decoder_value (r : TeamInfo) (ho : o.fromText = false) :
    TeamInfo.decoder o (r.toJson.mapFloats f).toValue = .ok r := by
  simp [TeamInfo.decoder, TeamInfo.toJson, ho]

@[simp] theorem TeamAction.players_value (l : List String) :
    TeamAction.players o ((TeamAction.playerList l).mapFloats f).toValue = .ok l := by
  simp [TeamAction.players, TeamAction.playerList]

@[simp] theorem TeamRecord.decoder_value (r : TeamRecord) (ho : o.fromText = false) :
    TeamRecord.decoder o (r.toJson.mapFloats f).toValue = .ok r := by
  obtain ⟨name, action⟩ := r
  cases action <;>
    simp only [TeamRecord.decoder, TeamRecord.toJson, TeamAction.members, TeamAction.decode,
      Decoder.tagged, Decoder.member_value _ ho] <;>
    simp [Json.field?_filter_ne, ho, Decoder.variantIndex, List.idxOf?, List.findIdx?_cons,
      -List.filter_filter] <;>
    simp [Fields.onMembers, Decoder.unitVariant, Json.field?_filter_ne, -List.filter_filter]

@[simp] theorem Notification.decoder_value (r : Notification) (ho : o.fromText = false)
    (hkept : r.toJson.FloatsKept f) :
    Notification.decoder o (r.toJson.mapFloats f).toValue = .ok r := by
  cases r <;> simp [Notification.toJson] at hkept <;>
    simp only [Notification.decoder, Notification.toJson, Json.mapFloats_object,
      Json.toValue_object, Decoder.tagged, Decoder.member_value _ ho] <;>
    simp [ho, Decoder.variantIndex, List.idxOf?, List.findIdx?_cons] <;>
    simp [Fields.onMembers, Decoder.unitVariant, Notification.valueVariant, Json.field?_filter_ne,
      hkept]

/-- The decoder of a payload's kind reads back the value form of the payload, when its
floating-point numbers are kept. -/
theorem Payload.decoder_value (p : Payload) (ho : o.fromText = false)
    (hkept : p.toJson.FloatsKept f) :
    Payload.decoder p.kind o (p.toJson.mapFloats f).toValue = .ok p := by
  cases p <;> simp_all [Payload.kind, Payload.toJson, Payload.decoder]

end SessionSquash
