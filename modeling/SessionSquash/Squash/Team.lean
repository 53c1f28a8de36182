import SessionSquash.Record.Basic
import SessionSquash.Data.KeyMap

namespace SessionSquash

/-- How a team's entry came about during the recording. -/
inductive TeamStatus where
  /-- First seen being created. -/
  | created
  /-- First seen being changed: the team existed before. -/
  | updated
  /-- Removed; it existed before. -/
  | removed
  /-- Removed, then created again under the same name. -/
  | recreated
deriving DecidableEq, Inhabited

def TeamStatus.name : TeamStatus → String
  | .created => "created"
  | .updated => "updated"
  | .removed => "removed"
  | .recreated => "recreated"

structure TeamState where
  status : TeamStatus
  info : Option TeamInfo := none
  pendingAdd : KeySet String := {}
  pendingRemove : KeySet String := {}
deriving Inhabited

namespace TeamState

def addPlayers (t : TeamState) (players : List String) : TeamState :=
  players.foldl (fun t p =>
    if t.pendingRemove.contains p then { t with pendingRemove := t.pendingRemove.erase p }
    else { t with pendingAdd := t.pendingAdd.insert p }) t

def removePlayers (t : TeamState) (players : List String) : TeamState :=
  players.foldl (fun t p =>
    if t.pendingAdd.contains p then { t with pendingAdd := t.pendingAdd.erase p }
    else if t.status == .updated then { t with pendingRemove := t.pendingRemove.insert p }
    else t) t

def apply (t : TeamState) : TeamAction → TeamState
  | .create info players => { t with info := some info }.addPlayers players
  | .update info => { t with info := some info }
  | .addPlayers players => t.addPlayers players
  | .removePlayers players => t.removePlayers players
  | .remove => t

end TeamState

structure TeamTracker where
  teams : KeyMap String TeamState := {}
deriving Inhabited

namespace TeamTracker

def size (t : TeamTracker) : Nat := t.teams.size

def onTeam (t : TeamTracker) (r : TeamRecord) : TeamTracker :=
  match t.teams.find? r.name with
  | none =>
    let status : TeamStatus :=
      match r.action with
      | .create .. => .created
      | .remove => .removed
      | _ => .updated
    { teams := t.teams.insert r.name (({ status } : TeamState).apply r.action) }
  | some team =>
    match r.action, team.status with
    | .remove, .created => { teams := t.teams.erase r.name }
    | .remove, _ => { teams := t.teams.insert r.name { status := .removed } }
    | .create .., .removed =>
      { teams := t.teams.insert r.name (({ status := .recreated } : TeamState).apply r.action) }
    | action, _ => { teams := t.teams.insert r.name (team.apply action) }

/-- The records replaying one team's changes. -/
def teamRecords (name : String) (team : TeamState) : List TeamRecord :=
  match team.status with
  | .created | .recreated =>
    let removal := if team.status == .recreated then [⟨name, .remove⟩] else []
    match team.info with
    | some info => removal ++ [⟨name, .create info team.pendingAdd.elements⟩]
    | none => removal
  | .updated =>
    team.info.toList.map (fun info => ⟨name, .update info⟩) ++
      (if team.pendingAdd.isEmpty then [] else [⟨name, .addPlayers team.pendingAdd.elements⟩]) ++
      (if team.pendingRemove.isEmpty then [] else [⟨name, .removePlayers team.pendingRemove.elements⟩])
  | .removed => [⟨name, .remove⟩]

/-- Every team's records, by name, all at `time`. -/
def synthesize (t : TeamTracker) (time : Int64) : List TimedRecord :=
  t.teams.entries.flatMap fun (name, team) =>
    (teamRecords name team).map fun r => ⟨time, .typed (.team r)⟩

/-- The teams created without display information: no record can create them, so they are
left out of the synthesized log. -/
def uninformed (t : TeamTracker) : List String :=
  t.teams.entries.filterMap fun (name, team) =>
    match team.status, team.info with
    | .created, none | .recreated, none => some name
    | _, _ => none

end TeamTracker

end SessionSquash
