import OutageWatch.Cluster.Reply
import OutageWatch.Json.Writer
import OutageWatch.Monitor.World

/-!
# Recordings of a cluster

A recording holds rounds of queries: the time of each, and the reply for each path that was asked.
A monitor that works on a recording is asked to stop when the rounds are used up.

A line of a recording is one round, as an object such as
`{"time": 60, "replies": {"/api/v1/namespaces": {"status": 200, "body": {"items": []}}}}`.

## Main definitions

* `Recording.Round`, `Recording.Round.ofLine?` : a round, and how it is read.
* `Recording.Round.answers`, `Recording.Round.events` : what a round answers, and what is logged
  about the objects in it.
* `Recording.stopRequest`, `Recording.world` : what a monitor of a recording meets.
-/

namespace OutageWatch.Recording

/-- A round: its time, and the replies. -/
structure Round where
  time : Int
  replies : List (String × Reply)

namespace Round

/-- The reply for a path that was not recorded. -/
def notRecorded : Reply := .unreachable "no reply was recorded"

/-- The reply for a path. -/
def reply (r : Round) (path : String) : Reply :=
  ((r.replies.find? (·.1 == path)).map (·.2)).getD notRecorded

/-- What a round answers about the namespaces of which the name starts with `start`. -/
def answers (start : String) (r : Round) : Answers :=
  let workloads (k : Kind) : Answer Record :=
    ⟨(r.reply (Reply.workloadsPath k)).workloads k start, none⟩
  { namespaces := ⟨(r.reply Reply.namespacesPath).namespaces start, none⟩
    workloads := ⟨workloads .deploymentConfig, workloads .deployment, workloads .statefulSet⟩ }

/-- What is logged about the objects of a round. -/
def events (start : String) (r : Round) : List Event :=
  Kind.all.flatMap fun k => (r.reply (Reply.workloadsPath k)).workloadsEvents k start

/-- The reply that a value stands for; without a status it is a success. -/
def reply? (j : Json) : Option Reply := do
  let body ← j.field? "body"
  let status := ((j.field? "status").bind Json.asInt?).getD 200
  return .answered status.toNat (Utf8.encode body.chars)

/-- The round that a line stands for. -/
def ofLine? (line : String) : Option Round := do
  let some j := (Json.parse line).toOption | none
  let time ← (← j.field? "time").asInt?
  let .object members ← j.field? "replies" | none
  let replies ← members.mapM fun m => do return (m.1, ← reply? m.2)
  return { time, replies }

end Round

/-- A stop is asked for when the rounds are used up. -/
def stopRequest (rounds : List Round) : StopRequest := ⟨rounds.length, none⟩

/-- What a monitor of a recording meets.  The clock shows the time of the round that was asked
last, of which `used` went by before the clock was read for the first time. -/
def world (start : String) (rounds : List Round) (used : Nat) : World where
  answers n := (rounds[n - 1]?.getD ⟨0, []⟩).answers start
  clock n := ((rounds.drop (used + n - 1)).head?.or rounds.getLast?).elim 0 Round.time
  putProblem _ := none
  isStopped := (stopRequest rounds).isDue

end OutageWatch.Recording
