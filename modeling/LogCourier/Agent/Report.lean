import LogCourier.Agent.Basic
import LogCourier.Json.Writer

/-! # Reports

The statistics of an agent as a JSON text.
-/

namespace LogCourier

open Json.Writer

def DeliveryStats.json (s : DeliveryStats) : String :=
  object [("sent", toString s.sent), ("dropped", toString s.dropped),
    ("send_errors", toString s.sendErrors), ("connect_attempts", toString s.connectAttempts),
    ("connections", toString s.connections)]

def TailerStatus.json (s : TailerStatus) : String :=
  object [("state", text s.phase.name), ("bytes_read", toString s.stats.bytesRead),
    ("lines", toString s.stats.counters.lines), ("emitted", toString s.stats.counters.emitted),
    ("duplicates", toString s.stats.counters.duplicates),
    ("suppressed", toString s.stats.counters.suppressed),
    ("open_attempts", toString s.stats.openAttempts), ("reopens", toString s.stats.reopens),
    ("truncations", toString s.stats.truncations)]

def AgentStats.json (s : AgentStats) : String :=
  object [("run_id", text s.runId), ("transport", s.transport.json),
    ("streams", object (s.tailers.toList.map fun (id, status) => (id, status.json)))]

end LogCourier
