import Testbed.Container.Options
import Testbed.Json.Read
import Testbed.Json.Shape
import Testbed.Fault

/-!
# Reading the engine's inspect output

The engine describes containers as a JSON array of objects. The summary is read from the first
element: its id, its name without one leading slash, its image, the state fields, and two
settings of the host configuration. A non-empty image in the container's own configuration
wins over the top-level image. The document is decoded into the engine's declared layout, so a
member of the wrong kind anywhere in that layout is an error even when the summary does not
use it.
-/

namespace Testbed.Container

open Json

def namedText (typeName : String) : Shape := .text typeName fun _ => true

def stringList : Shape := .list "[]string" Shape.string

def stringMap : Shape := .dict "map[string]string" Shape.string

def intField : Shape := Shape.int64 "int"

def healthShape : Shape :=
  .record "container.Health" true
    [("Status", namedText "container.HealthStatus"), ("FailingStreak", intField),
     ("Log", .anything)]

/-- The run state of a container. -/
def stateShape : Shape :=
  .record "container.State" true
    [("Status", namedText "container.ContainerState"), ("Running", .flag), ("Paused", .flag),
     ("Restarting", .flag), ("OOMKilled", .flag), ("Dead", .flag), ("Pid", intField),
     ("ExitCode", intField), ("Error", Shape.string), ("StartedAt", Shape.string),
     ("FinishedAt", Shape.string), ("Health", healthShape)]

/-- The host configuration of a container, resource limits included. -/
def hostConfigShape : Shape :=
  .record "container.HostConfig" true
    [("Binds", stringList), ("ContainerIDFile", Shape.string),
     ("LogConfig", .record "container.LogConfig" false
        [("Type", Shape.string), ("Config", stringMap)]),
     ("NetworkMode", namedText "container.NetworkMode"), ("PortBindings", .anything),
     ("RestartPolicy", .record "container.RestartPolicy" false
        [("Name", namedText "container.RestartPolicyMode"), ("MaximumRetryCount", intField)]),
     ("AutoRemove", .flag), ("VolumeDriver", Shape.string), ("VolumesFrom", stringList),
     ("Annotations", stringMap), ("CgroupnsMode", namedText "container.CgroupnsMode"),
     ("Dns", stringList), ("DnsOptions", stringList), ("DnsSearch", stringList),
     ("ExtraHosts", stringList), ("GroupAdd", stringList), ("IpcMode", namedText "container.IpcMode"),
     ("Cgroup", namedText "container.CgroupSpec"), ("Links", stringList),
     ("OomScoreAdj", intField), ("PidMode", namedText "container.PidMode"),
     ("Privileged", .flag), ("PublishAllPorts", .flag), ("ReadonlyRootfs", .flag),
     ("SecurityOpt", stringList), ("StorageOpt", stringMap), ("Tmpfs", stringMap),
     ("UTSMode", namedText "container.UTSMode"), ("UsernsMode", namedText "container.UsernsMode"),
     ("ShmSize", Shape.int64 "int64"), ("Sysctls", stringMap), ("Runtime", Shape.string),
     ("Isolation", namedText "container.Isolation"), ("CpuShares", Shape.int64 "int64"),
     ("Memory", Shape.int64 "int64"), ("NanoCpus", Shape.int64 "int64"),
     ("CgroupParent", Shape.string), ("CpuPeriod", Shape.int64 "int64"),
     ("CpuQuota", Shape.int64 "int64"), ("CpusetCpus", Shape.string),
     ("CpusetMems", Shape.string), ("MemoryReservation", Shape.int64 "int64"),
     ("MemorySwap", Shape.int64 "int64"), ("MemorySwappiness", Shape.int64 "int64"),
     ("PidsLimit", Shape.int64 "int64"), ("MaskedPaths", stringList),
     ("ReadonlyPaths", stringList)]

/-- The container's own configuration. -/
def configShape : Shape :=
  .record "container.Config" true
    [("Hostname", Shape.string), ("Domainname", Shape.string), ("User", Shape.string),
     ("AttachStdin", .flag), ("AttachStdout", .flag), ("AttachStderr", .flag),
     ("ExposedPorts", .anything), ("Tty", .flag), ("OpenStdin", .flag), ("StdinOnce", .flag),
     ("Env", stringList), ("Cmd", .anything), ("Healthcheck", .anything),
     ("ArgsEscaped", .flag), ("Image", Shape.string), ("Volumes", .anything),
     ("WorkingDir", Shape.string), ("Entrypoint", .anything), ("NetworkDisabled", .flag),
     ("MacAddress", Shape.string), ("OnBuild", stringList), ("Labels", stringMap),
     ("StopSignal", Shape.string), ("StopTimeout", intField), ("Shell", .anything)]

/-- One element of the inspect array. -/
def responseShape : Shape :=
  .record "container.InspectResponse" false
    [("Id", Shape.string), ("Created", Shape.string), ("Path", Shape.string),
     ("Args", stringList), ("State", stateShape), ("Image", Shape.string),
     ("ResolvConfPath", Shape.string), ("HostnamePath", Shape.string),
     ("HostsPath", Shape.string), ("LogPath", Shape.string), ("Node", .anything),
     ("Name", Shape.string), ("RestartCount", intField), ("Driver", Shape.string),
     ("Platform", Shape.string), ("MountLabel", Shape.string), ("ProcessLabel", Shape.string),
     ("AppArmorProfile", Shape.string), ("ExecIDs", stringList), ("HostConfig", hostConfigShape),
     ("GraphDriver", .record "storage.DriverData" false
        [("Data", stringMap), ("Name", Shape.string)]),
     ("SizeRw", Shape.int64 "int64"), ("SizeRootFs", Shape.int64 "int64"),
     ("Mounts", .anything), ("Config", configShape), ("NetworkSettings", .anything),
     ("ImageManifestDescriptor", .anything)]

def documentShape : Shape := .list "[]container.InspectResponse" responseShape

def dropSlash (name : String) : String :=
  match name.toList with
  | '/' :: rest => String.ofList rest
  | _ => name

/-- The summary of a decoded inspect element. -/
def State.ofResponse (response : Json) : State :=
  let run := response.field "State"
  let host := response.field "HostConfig"
  let ownImage := (response.field "Config").field "Image" |>.textOr
  { id := (response.field "Id").textOr
    name := dropSlash (response.field "Name").textOr
    image := if ownImage.isEmpty then (response.field "Image").textOr else ownImage
    status := (run.field "Status").textOr
    running := (run.field "Running").flagOr
    exitCode := (run.field "ExitCode").intOr
    startedAt := (run.field "StartedAt").textOr
    error := (run.field "Error").textOr
    privileged := (host.field "Privileged").flagOr
    memory := (host.field "Memory").intOr }

def decodingFault (text : String) : Fault := .context "decoding inspect output" (some (.note text))

/-- Reads the summary of the first container of an inspect document. -/
def State.ofInspect (text : String) : Except Fault State :=
  match Json.read text with
  | .error e => .error (decodingFault e.message)
  | .ok document =>
    match Json.decode documentShape document with
    | .error e => .error (decodingFault e.message)
    | .ok (.array (first :: _)) => .ok (State.ofResponse first)
    | .ok _ => .error (.note "inspect returned no containers")

end Testbed.Container
