import FixGrader.Service.Serving

namespace FixGrader

/-- A host without programs. -/
def Host.bare : Host where
  locate _ := none
  hasPath _ := false
  tempDir := "/tmp"
  suffix n := toString n
  staging _ := none
  uuid n := toString n
  reply _ c _ := ⟨.error [s!"Failed to spawn {c.program}", FileFault.missing.message], 0⟩

/-- A server that holds submissions, all of them to be graded. -/
def KeyValueServer.ofSubmissions (queueKey : String) (ss : List Submission) : KeyValueServer where
  texts := ss.map fun s => (RemoteStore.key s.id, s.encode)
  lists := [(queueKey, ss.map fun s => s.id.toString)]

namespace CommandLine

def faultOf : IO.Error → FileFault
  | .noFileOrDirectory .. => .missing
  | .inappropriateType .. => .isDirectory
  | _ => .notText

def readBytes (path : String) : IO (Except FileFault (List Nat)) := do
  try
    return .ok ((← IO.FS.readBinFile path).toList.map UInt8.toNat)
  catch e =>
    return .error (faultOf e)

def variableNames : List String := "SCORING_CONFIG" :: Variable.all.map Variable.name

def readEnvironment : IO Environment := do
  let values ← variableNames.mapM fun name => return (name, ← IO.getEnv name)
  return values.filterMap fun (name, value) => value.map (name, ·)

partial def readLines (input : IO.FS.Stream) (lines : List String) : IO (List String) := do
  let line ← input.getLine
  if line.isEmpty then return lines.reverse
  readLines input (line :: lines)

def refuse (fault : StartupFault) : IO UInt32 := do
  IO.eprint fault.report
  return fault.exitCode.toUInt32

end CommandLine

end FixGrader

open FixGrader CommandLine

def main (args : List String) : IO UInt32 := do
  let added ← readBytes Service.variableFile
  match Service.completeEnvironment (fun _ => added) (← readEnvironment) with
  | .error fault => refuse fault
  | .ok env =>
    let document ← readBytes ((env.lookup "SCORING_CONFIG").getD Settings.defaultPath)
    let readFile (path : String) := if path == Service.variableFile then added else document
    match Service.configure readFile env with
    | .error fault => refuse fault
    | .ok s =>
      let submissions := (← readLines (← IO.getStdin) []).filterMap Submission.decode?
      let network : Network := [(s.redisUrl, .ofSubmissions s.queueKey submissions)]
      let epoch : Instant := ⟨⟨1970, 1, 1⟩, 0, 0, 0⟩
      let date := (args.head?.bind Instant.parse?).getD epoch
      match Service.run readFile env (fun _ => Host.bare) (fun _ => date) network with
      | .error fault => refuse fault
      | .ok server =>
        for (_, text) in server.texts do
          IO.println text
        return 0
