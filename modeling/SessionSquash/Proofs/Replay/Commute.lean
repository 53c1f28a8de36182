import SessionSquash.Replay.View
import SessionSquash.Proofs.KeyMap

namespace SessionSquash

set_option autoImplicit false

namespace EntityView

/-- A relative movement applied to what a viewer sees of one entity. -/
def moved (e : EntityView) (m : Movement) : EntityView :=
  let e := if m.kind.carriesPosition then
    { e with position := (e.position.1 + toFixed m.dx, e.position.2.1 + toFixed m.dy,
        e.position.2.2 + toFixed m.dz) }
    else e
  if m.kind.carriesRotation then { e with orientation := (m.yaw.bits, m.pitch.bits) } else e

end EntityView

namespace ChunkView

/-- Rewrites the override stored at one position. -/
def setBlock (pos : BlockPos) (h : Option (Int64 × UInt32) → Option (Int64 × UInt32))
    (c : ChunkView) : ChunkView :=
  { c with blocks := c.blocks.update pos h }

/-- One section a column sends, taken in by a viewer. -/
def loadStep (c : ChunkView) (e : Option (List UInt8) × Nat) : ChunkView :=
  match e with
  | (section?, index) =>
    match section? with
    | some payload =>
      { c with
        sections := c.sections.set index (some payload)
        blocks := c.blocks.filter fun pos => Coord.sectionOf pos.y != some index }
    | none => c

theorem load_eq (c : ChunkView) (column : ChunkColumn) :
    c.load column =
      let c := column.sections.zipIdx.foldl loadStep c
      if column.biome.isSome then { c with biome := column.biome } else c :=
  rfl

end ChunkView

namespace ReplayView

/-- The column a block lies in, as a key. -/
def blockKey (pos : BlockPos) : UInt64 :=
  Coord.chunkKey (Coord.chunkOfBlock pos.x pos.z).1 (Coord.chunkOfBlock pos.x pos.z).2

/-- A write at `time` over the override stored at its position: kept only if strictly newer. -/
def newer (time : Int64) (block : UInt32) : Option (Int64 × UInt32) → Option (Int64 × UInt32)
  | some (stored, old) => if time ≤ stored then some (stored, old) else some (time, block)
  | none => some (time, block)

/-- What a column record does to the column at its key. -/
def columnUpdate (c : ChunkColumn) (o : Option ChunkView) : Option ChunkView :=
  if c.isUnload then none else some ((o.getD .empty).load c)

/-- What a block change does to the column holding it. -/
def blockUpdate (time : Int64) (change : BlockChange) (o : Option ChunkView) :
    Option ChunkView :=
  match Coord.sectionOf change.position.y with
  | some _ => o.map (ChunkView.setBlock change.position (newer time change.block))
  | none => o

/-- The column map is sorted, and so is every column's map of overrides. -/
def ChunksWF (m : KeyMap UInt64 ChunkView) : Prop :=
  m.Sorted ∧ ∀ k c, m.find? k = some c → c.blocks.Sorted

/-- The maps a view keeps are sorted. -/
structure WF (v : ReplayView) : Prop where
  entities : v.entities.Sorted
  chunks : ChunksWF v.chunks
  teams : v.teams.Sorted
  inventory : v.inventory.Sorted
  maps : v.maps.Sorted

/-- What a record does to the live entities. -/
inductive EntityChange where
  | keep
  /-- Rewrites one entity from what it was. -/
  | at (id : Int32) (g : Option EntityView → Option EntityView)
  | erase (ids : List Int32)
  | clear

def EntityChange.run : EntityChange → KeyMap Int32 EntityView → KeyMap Int32 EntityView
  | .keep, m => m
  | .at id g, m => m.update id g
  | .erase ids, m => ids.foldl KeyMap.erase m
  | .clear, _ => {}

/-- What a record does to the loaded columns. -/
inductive ChunkChange where
  | keep
  | column (c : ChunkColumn)
  | block (time : Int64) (change : BlockChange)
  | columns (cs : List ChunkColumn)
  | blocks (time : Int64) (changes : List BlockChange)
  | clear

def ChunkChange.run : ChunkChange → KeyMap UInt64 ChunkView → KeyMap UInt64 ChunkView
  | .keep, m => m
  | .column c, m => m.update (Coord.chunkKey c.x c.z) (columnUpdate c)
  | .block time change, m => m.update (blockKey change.position) (blockUpdate time change)
  | .columns cs, m => cs.foldl (fun m c => m.update (Coord.chunkKey c.x c.z) (columnUpdate c)) m
  | .blocks time changes, m =>
    changes.foldl (fun m change => m.update (blockKey change.position) (blockUpdate time change)) m
  | .clear, _ => {}

/-- What a record does to the main inventory. -/
inductive InventoryChange where
  | keep
  | slot (slot : Int16) (item : Option ItemStack)
  | fill (items : List (Option ItemStack))

def InventoryChange.run : InventoryChange → KeyMap Int16 (Option ItemStack) →
    KeyMap Int16 (Option ItemStack)
  | .keep, m => m
  | .slot i item, m => m.insert i item
  | .fill items, _ => (({} : ReplayView).fillInventory items).inventory

/-- What a record does to each field of a view. -/
structure Change where
  entities : EntityChange := .keep
  chunks : ChunkChange := .keep
  teams : Option TeamRecord := none
  session : Option (SessionView → SessionView) := none
  inventory : InventoryChange := .keep
  maps : Option MapData := none

def Change.run (c : Change) (v : ReplayView) : ReplayView where
  entities := c.entities.run v.entities
  chunks := c.chunks.run v.chunks
  teams := match c.teams with
    | some r => (({ teams := v.teams } : ReplayView).team r).teams
    | none => v.teams
  session := match c.session with
    | some f => f v.session
    | none => v.session
  inventory := c.inventory.run v.inventory
  maps := match c.maps with
    | some d => v.maps.insert d.mapId d
    | none => v.maps

/-- The scalars a join or a respawn sets. -/
def scalars (gameMode : GameMode) (dimension : Int32) (difficulty : Difficulty)
    (worldType : WorldType) : SessionView :=
  { gameMode := some gameMode, dimension := some dimension, difficulty := some difficulty,
    worldType := some worldType }

/-- The entity a spawn brings in and what a viewer sees of it. -/
def spawned : Payload → Option (Int32 × EntityView)
  | .spawnPlayer d => some (d.entityId, .ofLocation d.location)
  | .spawnMob d => some (d.entityId, .ofLocation d.location)
  | .spawnObject d => some (d.entityId, .ofLocation d.location)
  | .spawnPainting d => some (d.entityId, .ofLocation (still (Binary64.ofInt d.position.x.toInt)
      (Binary64.ofInt d.position.y.toInt) (Binary64.ofInt d.position.z.toInt)))
  | .spawnExpOrb d => some (d.entityId, .ofLocation (still d.x d.y d.z))
  | .spawnGlobal d => some (d.entityId, .ofLocation (still d.x d.y d.z))
  | _ => none

/-- What a payload written at `time` changes. -/
def payloadChange (time : Int64) : Payload → Change
  | .destroy d => { entities := .erase d.entityIds }
  | .teleport d => { entities := .at d.entityId (Option.map fun _ => .ofLocation d.location) }
  | .movement d => { entities := .at d.entityId (Option.map (·.moved d)) }
  | .chunkData c => { chunks := .column c }
  | .multiChunkData d => { chunks := .columns d.columns }
  | .blockChange c => { chunks := .block time c }
  | .multiBlockChange d => { chunks := .blocks time d.records }
  | .team d => { teams := some d }
  | .join d =>
    { session := some fun _ => scalars d.gameMode d.dimension d.difficulty d.worldType }
  | .respawn d =>
    { session := some fun _ => scalars d.gameMode d.dimension d.difficulty d.worldType
      entities := .clear
      chunks := .clear }
  | .notify (.changeGameMode m) => { session := some fun s => { s with gameMode := some m } }
  | .windowItems d => if d.isMainInventory then { inventory := .fill d.items } else {}
  | .setSlot d => if d.isMainInventory then { inventory := .slot d.slot d.item } else {}
  | .mapData d => { maps := some d }
  | p => match spawned p with
    | some (id, e) => { entities := .at id fun _ => some e }
    | none => {}

/-- What a record changes; an undecoded record changes nothing. -/
def change (r : TimedRecord) : Change :=
  match r.record with
  | .raw .. => {}
  | .typed p => payloadChange r.time p

theorem moveBy_eq (v : ReplayView) (m : Movement) :
    v.moveBy m = { v with entities := v.entities.update m.entityId (Option.map (·.moved m)) } := by
  unfold moveBy
  split
  · rename_i e he
    simp [KeyMap.update, he, EntityView.moved]
  · rename_i he
    simp [KeyMap.update, he, KeyMap.erase_of_find?_eq_none he]

theorem column_eq (v : ReplayView) (c : ChunkColumn) :
    v.column c = { v with chunks := v.chunks.update (Coord.chunkKey c.x c.z) (columnUpdate c) } := by
  unfold column
  by_cases hu : c.isUnload <;> simp [KeyMap.update, columnUpdate, hu]

theorem block_eq {v : ReplayView} (hv : ChunksWF v.chunks) (time : Int64) (change : BlockChange) :
    v.block time change =
      { v with chunks := v.chunks.update (blockKey change.position) (blockUpdate time change) } := by
  have hkey : Coord.chunkKey (change.position.x >>> 4) (change.position.z >>> 4) =
      blockKey change.position := rfl
  unfold block blockUpdate
  simp only [Coord.chunkOfBlock, hkey]
  cases hs : Coord.sectionOf change.position.y with
  | none =>
    simp only
    rw [KeyMap.update_of_eq hv.1 rfl]
  | some level =>
    simp only
    cases hc : v.chunks.find? (blockKey change.position) with
    | none =>
      simp [KeyMap.update, hc, KeyMap.erase_of_find?_eq_none hc]
    | some chunk =>
      have hblocks : chunk.blocks.Sorted := hv.2 _ _ hc
      cases hb : chunk.blocks.find? change.position with
      | none =>
        simp [KeyMap.update, hc, ChunkView.setBlock, hb, newer]
      | some entry =>
        obtain ⟨stored, old⟩ := entry
        by_cases ht : time ≤ stored
        · have hnewer : newer time change.block (chunk.blocks.find? change.position) =
              chunk.blocks.find? change.position := by simp [hb, newer, ht]
          have hsame : ChunkView.setBlock change.position (newer time change.block) chunk =
              chunk := by
            unfold ChunkView.setBlock
            rw [KeyMap.update_of_eq hblocks hnewer]
          simp only [hb, ht, if_true]
          rw [KeyMap.update_of_eq hv.1 (by simp [hc, hsame])]
        · simp [KeyMap.update, hc, ChunkView.setBlock, hb, newer, ht]

theorem load_blocks_sorted {c : ChunkView} (hc : c.blocks.Sorted) (column : ChunkColumn) :
    (c.load column).blocks.Sorted := by
  unfold ChunkView.load
  dsimp only
  split <;>
  · refine List.foldlRecOn (motive := fun c : ChunkView => c.blocks.Sorted) _ _ hc ?_
    rintro c h ⟨_ | payload, index⟩ -
    · exact h
    · exact h.filter _

theorem ChunksWF.update_column {m : KeyMap UInt64 ChunkView} (hm : ChunksWF m) (c : ChunkColumn) :
    ChunksWF (m.update (Coord.chunkKey c.x c.z) (columnUpdate c)) := by
  refine ⟨hm.1.update _ _, ?_⟩
  intro k chunk hk
  rw [KeyMap.find?_update] at hk
  split at hk
  · unfold columnUpdate at hk
    split at hk
    · cases hk
    · cases hk
      cases ho : m.find? (Coord.chunkKey c.x c.z) with
      | none => exact load_blocks_sorted KeyMap.sorted_empty c
      | some old => exact load_blocks_sorted (hm.2 _ _ ho) c
  · exact hm.2 _ _ hk

theorem ChunksWF.update_block {m : KeyMap UInt64 ChunkView} (hm : ChunksWF m) (time : Int64)
    (change : BlockChange) :
    ChunksWF (m.update (blockKey change.position) (blockUpdate time change)) := by
  refine ⟨hm.1.update _ _, ?_⟩
  intro k chunk hk
  rw [KeyMap.find?_update] at hk
  split at hk
  · unfold blockUpdate at hk
    split at hk
    · obtain ⟨old, ho, rfl⟩ := Option.map_eq_some_iff.mp hk
      exact (hm.2 _ _ ho).update _ _
    · exact hm.2 _ _ hk
  · exact hm.2 _ _ hk

theorem ChunkChange.run_wf {m : KeyMap UInt64 ChunkView} (hm : ChunksWF m) :
    ∀ c : ChunkChange, ChunksWF (c.run m)
  | .keep => hm
  | .column c => hm.update_column c
  | .block time change => hm.update_block time change
  | .columns cs => by
    induction cs generalizing m with
    | nil => exact hm
    | cons c rest ih => exact ih (hm.update_column c)
  | .blocks time changes => by
    induction changes generalizing m with
    | nil => exact hm
    | cons change rest ih => exact ih (hm.update_block time change)
  | .clear => ⟨KeyMap.sorted_empty, fun _ _ h => by cases h⟩

theorem foldl_column_eq (v : ReplayView) (cs : List ChunkColumn) :
    cs.foldl column v = { v with chunks := (ChunkChange.columns cs).run v.chunks } := by
  induction cs generalizing v with
  | nil => rfl
  | cons c rest ih =>
    rw [List.foldl_cons, ih, column_eq]
    rfl

theorem foldl_block_eq {v : ReplayView} (hv : ChunksWF v.chunks) (time : Int64)
    (changes : List BlockChange) :
    changes.foldl (block · time ·) v =
      { v with chunks := (ChunkChange.blocks time changes).run v.chunks } := by
  induction changes generalizing v with
  | nil => rfl
  | cons change rest ih =>
    rw [List.foldl_cons, block_eq hv, ih (hv.update_block time change)]
    rfl

theorem team_eq (v : ReplayView) (r : TeamRecord) :
    v.team r = { v with teams := (({ teams := v.teams } : ReplayView).team r).teams } := by
  unfold team modifyTeam
  cases r.action <;> simp only <;> (try split) <;> rfl

/-- Replaying a record runs its change. -/
theorem apply_eq_run {v : ReplayView} (hv : ChunksWF v.chunks) (r : TimedRecord) :
    v.apply r = (change r).run v := by
  obtain ⟨time, record⟩ := r
  cases record with
  | raw => rfl
  | typed p =>
    cases p <;> simp only [ReplayView.apply, change, payloadChange, spawned, Change.run,
      EntityChange.run, ChunkChange.run, InventoryChange.run]
    case movement m => rw [moveBy_eq]
    case teleport d =>
      cases hf : v.entities.find? d.entityId with
      | none =>
        have hc : v.entities.contains d.entityId = false := by simp [KeyMap.contains, hf]
        simp [hc, KeyMap.update, hf, KeyMap.erase_of_find?_eq_none hf]
      | some e =>
        have hc : v.entities.contains d.entityId = true := by simp [KeyMap.contains, hf]
        simp [hc, KeyMap.update, hf]
    case chunkData c => rw [column_eq]
    case multiChunkData d => rw [foldl_column_eq]; rfl
    case blockChange c => rw [block_eq hv]
    case multiBlockChange d => rw [foldl_block_eq hv]; rfl
    case windowItems d => split <;> rfl
    case setSlot d => split <;> rfl
    case team d => rw [team_eq]
    case notify d => cases d <;> rfl
    all_goals rfl

theorem EntityChange.run_sorted {m : KeyMap Int32 EntityView} (hm : m.Sorted) :
    ∀ c : EntityChange, (c.run m).Sorted
  | .keep => hm
  | .at id g => hm.update id g
  | .erase ids => hm.foldl_erase ids
  | .clear => KeyMap.sorted_empty

theorem fillInventory_sorted (items : List (Option ItemStack)) :
    (({} : ReplayView).fillInventory items).inventory.Sorted := by
  unfold fillInventory
  refine List.foldlRecOn (motive := fun m : KeyMap Int16 (Option ItemStack) => m.Sorted) _ _
    KeyMap.sorted_empty ?_
  rintro m h ⟨item, i⟩ -
  exact h.insert _ _

theorem InventoryChange.run_sorted {m : KeyMap Int16 (Option ItemStack)} (hm : m.Sorted) :
    ∀ c : InventoryChange, (c.run m).Sorted
  | .keep => hm
  | .slot i item => hm.insert i item
  | .fill items => fillInventory_sorted items

theorem team_sorted {m : KeyMap String TeamView} (hm : m.Sorted) (r : TeamRecord) :
    (({ teams := m } : ReplayView).team r).teams.Sorted := by
  unfold team modifyTeam
  cases r.action <;> simp only
  all_goals first
    | exact hm.insert _ _
    | exact hm.erase _
    | (split
       · exact hm.insert _ _
       · exact hm)

theorem WF.run {v : ReplayView} (hv : v.WF) (c : Change) : (c.run v).WF where
  entities := EntityChange.run_sorted hv.entities c.entities
  chunks := ChunkChange.run_wf hv.chunks c.chunks
  teams := by
    simp only [Change.run]
    cases c.teams with
    | some r => exact team_sorted hv.teams r
    | none => exact hv.teams
  inventory := InventoryChange.run_sorted hv.inventory c.inventory
  maps := by
    simp only [Change.run]
    cases c.maps with
    | some d => exact hv.maps.insert _ _
    | none => exact hv.maps

theorem WF.apply {v : ReplayView} (hv : v.WF) (r : TimedRecord) : (v.apply r).WF := by
  rw [apply_eq_run hv.chunks]
  exact hv.run (change r)

theorem WF.foldl {v : ReplayView} (hv : v.WF) (l : List TimedRecord) :
    (l.foldl ReplayView.apply v).WF := by
  induction l generalizing v with
  | nil => exact hv
  | cons r rest ih => exact ih (hv.apply r)

theorem WF.update_entities {v : ReplayView} (hv : v.WF) (e : Int32)
    (g : Option EntityView → Option EntityView) :
    ({ v with entities := v.entities.update e g } : ReplayView).WF :=
  hv.run { entities := .at e g }

theorem wf_empty : ({} : ReplayView).WF :=
  ⟨KeyMap.sorted_empty, ⟨KeyMap.sorted_empty, fun _ _ h => by cases h⟩, KeyMap.sorted_empty,
    KeyMap.sorted_empty, KeyMap.sorted_empty⟩

/-- A record that changes nothing a viewer sees. -/
def Inert (r : TimedRecord) : Prop := change r = {}

theorem apply_of_inert {r : TimedRecord} (h : Inert r) {v : ReplayView} (hv : v.WF) :
    v.apply r = v := by
  rw [apply_eq_run hv.chunks, h]
  rfl

theorem foldl_apply_of_inert {l : List TimedRecord} (h : ∀ r ∈ l, Inert r) {v : ReplayView}
    (hv : v.WF) : l.foldl ReplayView.apply v = v := by
  induction l with
  | nil => rfl
  | cons r rest ih =>
    rw [List.foldl_cons, apply_of_inert (h r (.head _)) hv]
    exact ih fun x hx => h x (.tail _ hx)

/-- A record that rewrites one entity and nothing else. -/
theorem apply_of_change_at {r : TimedRecord} {e : Int32} {g : Option EntityView → Option EntityView}
    (h : change r = { entities := .at e g }) {v : ReplayView} (hv : v.WF) :
    v.apply r = { v with entities := v.entities.update e g } := by
  rw [apply_eq_run hv.chunks, h]
  rfl

/-- Two changes of the live entities that touch no entity in common. -/
def EntityChange.Disjoint (a b : EntityChange) : Prop :=
  match a, b with
  | .keep, _ => True
  | .at _ _, .keep => True
  | .at i _, .at j _ => i ≠ j
  | .at i _, .erase ids => i ∉ ids
  | .at _ _, .clear => False
  | .erase _, .keep => True
  | .erase ids, .at i _ => i ∉ ids
  | .erase _, .erase _ => False
  | .erase _, .clear => True
  | .clear, .keep => True
  | .clear, .erase _ => True
  | .clear, _ => False

theorem EntityChange.run_comm {a b : EntityChange} (h : a.Disjoint b)
    {m : KeyMap Int32 EntityView} (hm : m.Sorted) : a.run (b.run m) = b.run (a.run m) := by
  cases a <;> cases b <;> simp only [Disjoint] at h <;> simp only [run]
  case at.at i g j g' => exact KeyMap.update_comm hm (Ne.symm h) g' g
  case at.erase i g ids => exact KeyMap.update_foldl_erase hm h g
  case erase.at ids i g => exact (KeyMap.update_foldl_erase hm h g).symm
  case erase.clear ids => exact KeyMap.foldl_erase_empty ids
  case clear.erase ids => exact (KeyMap.foldl_erase_empty ids).symm

/-- Two changes of the loaded columns that touch no column, or no override, in common. -/
def ChunkChange.Disjoint (a b : ChunkChange) : Prop :=
  match a with
  | .keep => True
  | .column c =>
    match b with
    | .keep => True
    | .column c' => Coord.chunkKey c.x c.z ≠ Coord.chunkKey c'.x c'.z
    | .block _ change => Coord.chunkKey c.x c.z ≠ blockKey change.position
    | _ => False
  | .block _ change =>
    match b with
    | .keep => True
    | .column c => Coord.chunkKey c.x c.z ≠ blockKey change.position
    | .block _ change' =>
      blockKey change.position ≠ blockKey change'.position ∨ change.position ≠ change'.position
    | _ => False
  | _ =>
    match b with
    | .keep => True
    | _ => False

/-- Block writes at two positions of one column commute. -/
theorem blockUpdate_comm {o : Option ChunkView} (ho : ∀ c, o = some c → c.blocks.Sorted)
    {time time' : Int64} {change change' : BlockChange}
    (hpos : change.position ≠ change'.position) :
    blockUpdate time change (blockUpdate time' change' o) =
      blockUpdate time' change' (blockUpdate time change o) := by
  unfold blockUpdate
  generalize Coord.sectionOf change.position.y = s
  generalize Coord.sectionOf change'.position.y = s'
  cases s <;> cases s' <;> simp only
  cases o with
  | none => simp
  | some c =>
    simp only [Option.map_some, ChunkView.setBlock, Option.some.injEq]
    rw [KeyMap.update_comm (ho c rfl) (Ne.symm hpos)]

theorem ChunkChange.run_comm {a b : ChunkChange} (h : a.Disjoint b)
    {m : KeyMap UInt64 ChunkView} (hm : ChunksWF m) : a.run (b.run m) = b.run (a.run m) := by
  cases a with
  | keep => rfl
  | column c =>
    cases b with
    | keep => rfl
    | column c' => exact KeyMap.update_comm hm.1 (Ne.symm h) _ _
    | block time change => exact KeyMap.update_comm hm.1 (Ne.symm h) _ _
    | columns _ => exact (h : False).elim
    | blocks _ _ => exact (h : False).elim
    | clear => exact (h : False).elim
  | block time change =>
    cases b with
    | keep => rfl
    | column c => exact KeyMap.update_comm hm.1 h _ _
    | block time' change' =>
      by_cases hk : blockKey change.position = blockKey change'.position
      · have hpos : change.position ≠ change'.position := (h : _ ∨ _).resolve_left fun hne => hne hk
        simp only [run]
        rw [hk]
        apply KeyMap.update_comm_of_eq hm.1
        exact blockUpdate_comm (fun c hc => hm.2 _ c hc) hpos
      · exact KeyMap.update_comm hm.1 (Ne.symm hk) _ _
    | columns _ => exact (h : False).elim
    | blocks _ _ => exact (h : False).elim
    | clear => exact (h : False).elim
  | columns _ =>
    cases b with
    | keep => rfl
    | _ => exact (h : False).elim
  | blocks _ _ =>
    cases b with
    | keep => rfl
    | _ => exact (h : False).elim
  | clear =>
    cases b with
    | keep => rfl
    | _ => exact (h : False).elim

/-- Two changes of the main inventory that touch no slot in common. -/
def InventoryChange.Disjoint (a b : InventoryChange) : Prop :=
  match a, b with
  | .keep, _ => True
  | .slot _ _, .keep => True
  | .slot i _, .slot j _ => i ≠ j
  | .slot _ _, .fill _ => False
  | .fill _, .keep => True
  | .fill _, _ => False

theorem InventoryChange.run_comm {a b : InventoryChange} (h : a.Disjoint b)
    {m : KeyMap Int16 (Option ItemStack)} (hm : m.Sorted) : a.run (b.run m) = b.run (a.run m) := by
  cases a <;> cases b <;> simp only [Disjoint] at h <;> simp only [run]
  case slot.slot i item j item' =>
    exact KeyMap.update_comm hm (Ne.symm h) (fun _ => some item') (fun _ => some item)

/-- Two changes that touch no part of a view in common. -/
def Change.Disjoint (a b : Change) : Prop :=
  a.entities.Disjoint b.entities ∧ a.chunks.Disjoint b.chunks ∧
    (a.teams = none ∨ b.teams = none) ∧ (a.session = none ∨ b.session = none) ∧
    a.inventory.Disjoint b.inventory ∧ (a.maps = none ∨ b.maps = none)

theorem Change.run_comm {a b : Change} (h : a.Disjoint b) {v : ReplayView} (hv : v.WF) :
    a.run (b.run v) = b.run (a.run v) := by
  obtain ⟨he, hc, ht, hs, hi, hm⟩ := h
  simp only [Change.run, ReplayView.mk.injEq]
  refine ⟨EntityChange.run_comm he hv.entities, ChunkChange.run_comm hc hv.chunks, ?_, ?_,
    InventoryChange.run_comm hi hv.inventory, ?_⟩
  · rcases ht with ht | ht <;> simp [ht]
  · rcases hs with hs | hs <;> simp [hs]
  · rcases hm with hm | hm <;> simp [hm]

theorem Change.disjoint_empty_left (b : Change) : ({} : Change).Disjoint b :=
  ⟨trivial, trivial, .inl rfl, .inl rfl, trivial, .inl rfl⟩

theorem Change.disjoint_empty_right (a : Change) : a.Disjoint {} := by
  refine ⟨?_, ?_, .inr rfl, .inr rfl, ?_, .inr rfl⟩
  · cases a.entities <;> trivial
  · cases a.chunks <;> trivial
  · cases a.inventory <;> trivial

/-- Two records may be replayed in either order from any view with sorted maps. -/
def Commute (a b : TimedRecord) : Prop :=
  ∀ v : ReplayView, v.WF → (v.apply a).apply b = (v.apply b).apply a

theorem commute_of_disjoint {a b : TimedRecord} (h : (change a).Disjoint (change b)) :
    Commute a b := by
  intro v hv
  rw [apply_eq_run hv.chunks a, apply_eq_run (hv.run _).chunks b, apply_eq_run hv.chunks b,
    apply_eq_run (hv.run _).chunks a]
  exact (Change.run_comm h hv).symm

theorem Commute.symm {a b : TimedRecord} (h : Commute a b) : Commute b a :=
  fun v hv => (h v hv).symm

theorem commute_of_inert_left {a : TimedRecord} (ha : Inert a) (b : TimedRecord) : Commute a b :=
  commute_of_disjoint (by rw [ha]; exact Change.disjoint_empty_left _)

theorem commute_of_inert_right (a : TimedRecord) {b : TimedRecord} (hb : Inert b) : Commute a b :=
  commute_of_disjoint (by rw [hb]; exact Change.disjoint_empty_right _)

end ReplayView

end SessionSquash
