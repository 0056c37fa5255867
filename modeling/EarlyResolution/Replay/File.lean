import EarlyResolution.Replay.Replayer
import EarlyResolution.Trace.Reader

/-!
# Replaying a trace file

The trace is loaded before the units are made, so a trace that cannot be read is
reported before a configuration that cannot be used, and that before any event.
-/

namespace EarlyResolution

def replayFile (config : Config) (content : FileContent) : Except Failure (Report × Counters) := do
  let events ← Trace.ofFile content
  match Replayer.ofConfig config with
  | .error error => throw (.config error)
  | .ok replayer =>
      match replayer.run events with
      | (.error violation, _) => throw (.violation violation)
      | (.ok report, after) => return (report, after.counters)

end EarlyResolution
