import MultiCluster.Join.Credential
import MultiCluster.Join.Request
import MultiCluster.Text.Search

/-!
# Registrations

The resource that hands a joined cluster to the operator that connects clusters. Ranges that were discovered are
left out of it, so that the operator follows the live cluster.
-/

namespace MultiCluster

/-- The namespace in which the operator works. -/
def operatorNamespace : String := "submariner-operator"

/-- The address behind the scheme of a URL. -/
def stripScheme (url : String) : String :=
  match Text.afterFirst? "://".toList url.toList with
  | some rest => String.ofList rest
  | none => url

/-- Where the broker is. -/
structure Broker where
  /-- The namespace of the ledger and of the credentials. -/
  space : String
  /-- The URL of the API server. -/
  apiServer : String
  deriving DecidableEq, Repr

/-- The registration of a cluster. -/
structure Registration where
  /-- The API server of the broker, without a scheme. -/
  apiServer : String
  token : String
  ca : Bytes
  brokerSpace : String
  cluster : String
  /-- The range of the services, unless it was discovered. -/
  serviceCidr : Option String
  /-- The range of the pods, unless it was discovered. -/
  clusterCidr : Option String
  globalCidr : Option Network
  plugin : String
  deriving DecidableEq

namespace Registration

/-- The name of the resource. -/
def objectName : String := "submariner"

/-- A range that was not discovered. -/
def explicit? (c : ResolvedCidr) : Option String :=
  if c.autoDetected then none else some c.cidr

/-- The registration of a cluster at a broker. -/
def of (network : ResolvedNetwork) (credential : Credential) (broker : Broker) : Registration where
  apiServer := stripScheme broker.apiServer
  token := credential.token
  ca := credential.ca
  brokerSpace := broker.space
  cluster := network.cluster
  serviceCidr := explicit? network.serviceCidr
  clusterCidr := explicit? network.clusterCidr
  globalCidr := network.globalCidr
  plugin := network.plugin

/-- A registration as a resource. -/
def toJson (r : Registration) : Json :=
  .object [
    ("apiVersion", .text "submariner.io/v1alpha1"),
    ("kind", .text "Submariner"),
    ("metadata", .ofPairs [("name", objectName), ("namespace", operatorNamespace)]),
    ("spec", .object <| [
      ("broker", .text "k8s"),
      ("brokerK8sApiServer", .text r.apiServer),
      ("brokerK8sApiServerToken", .text r.token),
      ("brokerK8sCA", .text (String.ofList (Text.Base64.encode r.ca))),
      ("brokerK8sRemoteNamespace", .text r.brokerSpace),
      ("clusterID", .text r.cluster)] ++
      Json.optionalMember "serviceCIDR" .text r.serviceCidr ++
      Json.optionalMember "clusterCIDR" .text r.clusterCidr ++
      Json.optionalMember "globalCIDR" (fun n : Network => .text n.toText) r.globalCidr ++ [
      ("namespace", .text operatorNamespace),
      ("networkPlugin", .text r.plugin)])]

end Registration

end MultiCluster
