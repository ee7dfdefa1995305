import PLoadtesting.Worker.BusyCounter
import PLoadtesting.ControlPlane.Models
import PLoadtesting.ControlPlane.Permissions
import PLoadtesting.Lib.Url

/-!
The registration of an agent (`register_worker` in `workers/agent.py`), which it
repeats until an answer with an id arrives. The id is kept in memory and goes into
the path of every heartbeat; an agent that is started again registers again.
-/

namespace PLoadtesting.Worker

open Python

/-- The environment that an agent registers with. -/
structure AgentConfig where
  workerName : String
  workerPort : Int
  workerAdvertiseIp : String
  workerCapabilities : String
  apiToken : String

/-- `WORKER_CAPABILITIES`. -/
def capabilitiesOf (config : AgentConfig) : List String :=
  ((Url.splitOn ',' config.workerCapabilities.toList).map fun item =>
    strip (String.ofList item)).filter (· ≠ "")

/-- `registration_ip`, with the address that `get_local_ip` finds. -/
def registrationIp (config : AgentConfig) (localIp : String) : String :=
  if strip config.workerAdvertiseIp = "" then localIp else strip config.workerAdvertiseIp

def registrationCapabilities (config : AgentConfig) : List String :=
  if (capabilitiesOf config).isEmpty then ["k6", "jmeter"] else capabilitiesOf config

/-- The body that `register_worker` posts. -/
def registrationPayload (config : AgentConfig) (localIp : String) : Json :=
  .obj [("name", .str config.workerName), ("ip_address", .str (registrationIp config localIp)),
    ("port", .int config.workerPort),
    ("capabilities", .arr ((registrationCapabilities config).map .str))]

/-- `api_headers`. -/
def apiHeaders (config : AgentConfig) : ControlPlane.Headers := ⟨config.apiToken, ""⟩

/-- An agent: its environment, `worker_state["worker_id"]`, and the number of the
post whose answer `register_worker` waits for. -/
structure Agent where
  config : AgentConfig
  workerId : Option ControlPlane.WorkerId
  waitsFor : Option Nat

end PLoadtesting.Worker
