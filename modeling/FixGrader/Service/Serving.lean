import FixGrader.Scoring.Basic
import FixGrader.Service.Startup
import FixGrader.Worker.Schedule

namespace FixGrader

def ScoringService.pass (service : ScoringService Work) (t : Trace) (time : Nat) (s : Submission) :
    PassOutcome × Nat × Trace :=
  let (a, t) := (service.score s.slug s.code).run { t with clock := time }
  (.assessed a, t.clock - time, t)

namespace Service

def workerEnv (s : Settings) (service : ScoringService Work) (date : Nat → Instant) :
    WorkerEnv Trace Connection where
  store := .remote
  pass := service.pass
  date := date
  patience := s.stopSeconds.toNat * 1000

def takeList (key : String) (server : KeyValueServer) : List String × KeyValueServer :=
  ((server.lists.lookup key).getD [],
    { server with lists := server.lists.filter (·.1 != key) })

def quietMillis : Nat := 1000

/-- Serves what is on the list, and stops. Shutdown is requested in a pop that finds the list empty.
The result is what the server then holds. -/
def serve (s : Settings) (service : ScoringService Work) (date : Nat → Instant)
    (server : KeyValueServer) : KeyValueServer :=
  let env := workerEnv s service date
  let (texts, server) := takeList s.queueKey server
  let w : Worker Trace Connection := { service := {}, store := { server } }
  let (_, w) := w.perform env none .start
  let (_, w) := w.perform env none (.pull (texts.map IdQueue.ofText?))
  let w := { w.pause env quietMillis with shutdown := true }
  let (_, w) := w.perform env none (.awaitPop [none])
  let (_, w) := w.perform env none .stop
  w.store.server

/-- Starts the service and serves. The host gives its programs the variables of the service. The
result is what the server of the service then holds. -/
def run (readFile : String → Except FileFault (List Nat)) (env : Environment)
    (host : Environment → Host) (date : Nat → Instant) (network : Network) :
    Except StartupFault KeyValueServer := do
  let env ← completeEnvironment readFile env
  let s ← configure readFile env
  let service ← (ScoringService.ofSettings (host env) s).mapError fun t =>
    .settings (.badPattern t)
  let c ← (network.connect s.redisUrl).mapError fun _ => .unreachable s.redisUrl
  return serve s service date c.server

end Service

end FixGrader
