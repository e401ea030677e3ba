import TopicBus.Bus.Consumer
import TopicBus.Settings.Limits
import TopicBus.Setup

/-!
# Making publishers and consumers

A publisher is made over an outlet and a consumer over an inlet: the broker inside the process,
a remote broker, a script, or whatever a setup names. Whatever is wrong is reported in a fixed
order: the backend, the options, the client, and then the binding of the payload kind.

Which settings a client of a remote broker accepts is a matter of the library that the client comes
from, and of how that library was built. It stays a parameter here.
-/

namespace TopicBus

namespace Settings

/-- What keeps a client of a role from being created, as the library of the client has it. -/
abbrev Obstacles := Broker → Role → Option ConnectionFault

/-- The settings for a client of a remote broker, if such a client can be created. -/
def Broker.forClient (obstacle? : Obstacles) (options : Mapping) (role : Role) :
    Except Fault Broker :=
  match Broker.resolve options with
  | .error cause => .error (.settings cause)
  | .ok broker =>
      match obstacle? broker role with
      | some obstacle => .error (.connection obstacle)
      | none => .ok broker

end Settings

/-- Where a publisher is to write to, with the options for it. -/
inductive Outlet
  | memory (options : Mapping)
  | remote (obstacle? : Settings.Obstacles) (options : Mapping)
  | scripted (options : Mapping) (plan : FlushPlan)

/-- Where a consumer is to read from, with the options for it. -/
inductive Inlet
  | memory (options : Mapping)
  | remote (obstacle? : Settings.Obstacles) (options : Mapping)
  | scripted (options : Mapping) (script : Script)

namespace Setup

def outlet (obstacle? : Settings.Obstacles) (setup : Setup) : Except Fault Outlet :=
  setup.backend.map fun backend =>
    match backend with
    | .memory => .memory setup.options
    | .kafka => .remote obstacle? setup.options

def inlet (obstacle? : Settings.Obstacles) (setup : Setup) : Except Fault Inlet :=
  setup.backend.map fun backend =>
    match backend with
    | .memory => .memory setup.options
    | .kafka => .remote obstacle? setup.options

end Setup

namespace Outlet

/-- The sink and the settings of an outlet. -/
def resolve : Outlet → Except Fault (Sink × Settings.Producer)
  | .memory options =>
      ((Settings.Producer.resolve options).mapError .settings).map fun settings =>
        (.memory, settings)
  | .remote obstacle? options =>
      (Settings.Broker.forClient obstacle? options .producer).map fun broker =>
        (.remote broker.producer.deliversInTime false, broker.producer)
  | .scripted options plan =>
      ((Settings.Producer.resolve options).mapError .settings).map fun settings =>
        (.scripted plan [], settings)

end Outlet

namespace Inlet

/-- The source and the settings of an inlet. -/
def resolve : Inlet → Except Fault (Source × Settings.Consumer)
  | .memory options =>
      ((Settings.Consumer.resolve options).mapError .settings).map fun settings =>
        (.memory (.ofSettings settings), settings)
  | .remote obstacle? options =>
      (Settings.Broker.forClient obstacle? options .consumer).map fun broker =>
        (.remote broker.consumer.remoteGroup?, broker.consumer)
  | .scripted options script =>
      ((Settings.Consumer.resolve options).mapError .settings).map fun settings =>
        (.scripted script, settings)

end Inlet

/-- The publisher for a payload kind over an outlet. -/
def Publisher.ofOutlet (registry : Registry) (kind : Payload.Kind) (outlet : Outlet)
    (scope : String) : Except Fault Publisher :=
  match outlet.resolve with
  | .error fault => .error fault
  | .ok (sink, settings) =>
      match registry.topic kind with
      | .error cause => .error (.registry cause)
      | .ok topic => .ok (.create topic sink settings scope)

/-- The consumer for a payload kind over an inlet. -/
def Consumer.ofInlet (registry : Registry) (kind : Payload.Kind) (inlet : Inlet)
    (scope : String) : Except Fault Consumer :=
  match inlet.resolve with
  | .error fault => .error fault
  | .ok (source, settings) =>
      match registry.topic kind with
      | .error cause => .error (.registry cause)
      | .ok topic => .ok (.create topic source settings scope)

/-- The publisher for a payload kind over what a setup names. -/
def Publisher.ofSetup (obstacle? : Settings.Obstacles) (registry : Registry) (kind : Payload.Kind)
    (setup : Setup) (scope : String) : Except Fault Publisher :=
  match setup.outlet obstacle? with
  | .error fault => .error fault
  | .ok outlet => Publisher.ofOutlet registry kind outlet scope

/-- The consumer for a payload kind over what a setup names. -/
def Consumer.ofSetup (obstacle? : Settings.Obstacles) (registry : Registry) (kind : Payload.Kind)
    (setup : Setup) (scope : String) : Except Fault Consumer :=
  match setup.inlet obstacle? with
  | .error fault => .error fault
  | .ok inlet => Consumer.ofInlet registry kind inlet scope

end TopicBus
