import SessionSquash.Cli.Invocation
import SessionSquash.ErrorCode
import SessionSquash.Json.Write
import SessionSquash.Squash.Config
import SessionSquash.Record.Basic
import SessionSquash.Replay.View

namespace SessionSquash.Cli

def rule : String := "".pushn '-' 48

def section_ (heading : String) : String := heading ++ "\n" ++ rule ++ "\n"

def keyLine (key value : String) : String :=
  let label := key ++ ":"
  label ++ "".pushn ' ' (20 - label.length) ++ " " ++ value ++ "\n"

def jsonReport (j : Json) : String := Json.pretty 0 j ++ "\n"

/-- An error report: its code, and the detail that follows the code's message. -/
structure Problem where
  code : ErrorCode
  detail : String
deriving Inhabited

namespace Problem

def message (p : Problem) : String := p.code.message ++ ": " ++ p.detail

def render (mode : OutputMode) (p : Problem) : String :=
  match mode with
  | .json =>
    jsonReport (.object [("error", .object ([("error_code", .string p.code.code),
      ("message", .string p.message)] ++
      (p.code.hint.map fun h => [("suggestion", Json.string h)]).getD []))])
  | _ =>
    "error[" ++ p.code.code ++ "]: " ++ p.message ++ "\n" ++
      (p.code.hint.map fun h => "  suggestion: " ++ h ++ "\n").getD ""

end Problem

structure SquashSummary where
  input : String
  output : Option String
  endTime : Int64
  report : SquashReport
  /-- The digest of the squashed log's replay, when it was verified. -/
  digest : Option String
deriving Inhabited

namespace SquashSummary

def toJson (s : SquashSummary) : Json :=
  .object ([("input", .string s.input)] ++
    (s.output.map fun o => [("output", Json.string o)]).getD [] ++
    [("end_time", Json.ofInt s.endTime.toInt)] ++ s.report.members ++
    [("verified", if s.digest.isSome then .bool true else .null)] ++
    (s.digest.map fun d => [("digest", Json.string d)]).getD [])

def verdict (s : SquashSummary) : String := if s.digest.isSome then "ok" else "skipped"

def render (mode : OutputMode) (s : SquashSummary) : String :=
  let r := s.report
  match mode with
  | .json => jsonReport s.toJson
  | .text =>
    s!"consumed {r.recordsConsumed}\nemitted {r.recordsEmitted}\ndropped {r.dropped}\n" ++
      s!"verified {s.verdict}\n"
  | .pretty =>
    section_ ("Squashed " ++ s.input) ++
      (s.output.map (keyLine "output")).getD "" ++
      keyLine "end time" (toString s.endTime.toInt) ++
      keyLine "records" s!"{r.recordsConsumed} -> {r.recordsEmitted}" ++
      keyLine "dropped" (s!"{r.dropped} (particles {r.particlesDropped}, " ++
        s!"confirms {r.confirmsDropped}, orphan blocks {r.orphanBlockChanges})") ++
      keyLine "opaque passed" (toString r.passedThrough) ++
      keyLine "respawns" (toString r.respawns) ++
      keyLine "tracked" (s!"{r.entitiesTracked} entities, {r.chunksTracked} chunks, " ++
        s!"{r.teamsTracked} teams") ++
      keyLine "verified" s.verdict ++
      (s.digest.map (keyLine "digest")).getD ""

end SquashSummary

/-- How often each name occurs, by name in byte order. -/
def tally (names : List String) : List (String × Nat) :=
  (names.mergeSort fun a b => decide (a ≤ b)).foldr (fun n acc =>
    match acc with
    | (m, k) :: rest => if m == n then (m, k + 1) :: rest else (n, 1) :: acc
    | [] => [(n, 1)]) []

/-- What a record log holds: how many records, the times of the earliest and the
latest, and the count per kind and per domain. -/
structure LogStats where
  records : Nat
  span : Option (Int64 × Int64)
  byKind : List (String × Nat)
  byDomain : List (String × Nat)
deriving Inhabited

namespace LogStats

def collect (records : List TimedRecord) : LogStats :=
  let times := records.map (·.time)
  { records := records.length
    span := match times with
      | [] => none
      | t :: ts => some (ts.foldl min t, ts.foldl max t)
    byKind := tally (records.map (·.record.kind.name))
    byDomain := tally (records.map (·.record.kind.domain.name)) }

/-- The time between the earliest and the latest record, in 64-bit arithmetic. -/
def duration (s : LogStats) : Int64 :=
  match s.span with
  | some (first, last) => last - first
  | none => 0

def counts (entries : List (String × Nat)) : Json :=
  .object (entries.map fun (k, n) => (k, Json.ofNat n))

def toJson (s : LogStats) : Json :=
  .object [("records", Json.ofNat s.records),
    ("first_time", (s.span.map fun (f, _) => Json.ofInt f.toInt).getD .null),
    ("last_time", (s.span.map fun (_, l) => Json.ofInt l.toInt).getD .null),
    ("duration_ms", Json.ofInt s.duration.toInt),
    ("by_kind", counts s.byKind), ("by_domain", counts s.byDomain)]

def render (mode : OutputMode) (input : String) (s : LogStats) : String :=
  match mode with
  | .json => jsonReport s.toJson
  | .text =>
    s!"records {s.records}\nduration_ms {s.duration.toInt}\n" ++
      String.join (s.byKind.map fun (k, n) => s!"kind {k} {n}\n")
  | .pretty =>
    section_ ("Record log " ++ input) ++ keyLine "records" (toString s.records) ++
      (s.span.map fun (f, l) => keyLine "time span" s!"{f.toInt} .. {l.toInt} ms").getD "" ++
      keyLine "duration" s!"{s.duration.toInt} ms" ++ "\n" ++
      section_ "By domain" ++ String.join (s.byDomain.map fun (k, n) => keyLine k (toString n)) ++
      "\n" ++
      section_ "By kind" ++ String.join (s.byKind.map fun (k, n) => keyLine k (toString n))

end LogStats

/-- One log's replay, summarized. -/
structure ViewSummary where
  records : Nat
  entities : Nat
  chunks : Nat
  teams : Nat
  digest : String
deriving Inhabited

namespace ViewSummary

def of (records : Nat) (v : ReplayView) : ViewSummary :=
  { records, entities := v.entities.size, chunks := v.chunks.size, teams := v.teams.size,
    digest := v.digest }

def toJson (s : ViewSummary) : Json :=
  .object [("records", Json.ofNat s.records), ("entities", Json.ofNat s.entities),
    ("chunks", Json.ofNat s.chunks), ("teams", Json.ofNat s.teams),
    ("digest", .string s.digest)]

def describe (s : ViewSummary) : String :=
  s!"{s.records} records, {s.entities} entities, {s.chunks} chunks, {s.teams} teams"

end ViewSummary

structure VerifyReport where
  matched : Bool
  recording : ViewSummary
  squashed : ViewSummary
deriving Inhabited

namespace VerifyReport

def toJson (r : VerifyReport) : Json :=
  .object [("matched", .bool r.matched), ("original", r.recording.toJson),
    ("squashed", r.squashed.toJson)]

def render (mode : OutputMode) (r : VerifyReport) : String :=
  match mode with
  | .json => jsonReport r.toJson
  | .text => s!"matched {r.matched}\ndigest {r.squashed.digest}\n"
  | .pretty =>
    section_ "Verification" ++ keyLine "result" (if r.matched then "match" else "MISMATCH") ++
      keyLine "original" r.recording.describe ++ keyLine "squashed" r.squashed.describe ++
      keyLine "digest" r.squashed.digest

end VerifyReport

end SessionSquash.Cli
