import Mathlib.Data.Int.Notation

namespace LandscapeOrchestrator

/-- The `DeploymentResult.type` of a Kubernetes Service exposed as a result. -/
def typeHTTPK8sService : String := "http-k8s-service"

/-- A deployment result as it is published on status and in vector data; `raw`
is the JSON text of its spec. -/
structure DeploymentResult where
  name : String
  type : String
  raw : String
  deriving DecidableEq, Repr

/-- The transport protocol of a Service port. The field is a string, so it may
hold anything. -/
inductive Protocol where
  | tcp
  | udp
  | sctp
  | other (s : String)
  deriving DecidableEq, Repr

def Protocol.text : Protocol → String
  | tcp => "TCP"
  | udp => "UDP"
  | sctp => "SCTP"
  | other s => s

structure ServicePort where
  name : String
  protocol : Protocol
  port : ℤ
  deriving DecidableEq, Repr

/-- The payload of a result of type `typeHTTPK8sService`. An empty
`ingressExposedPortName` means that no port is routed through the edge. -/
structure ServiceSpec where
  ns : String
  k8sName : String
  servicePorts : List ServicePort
  ingressExposedPortName : String
  deriving DecidableEq, Repr

end LandscapeOrchestrator
