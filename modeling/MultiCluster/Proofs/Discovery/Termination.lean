import MultiCluster.Discovery.Discover
import MultiCluster.Proofs.Concurrency.Termination

/-!
# Discovery ends

A probe makes a few lookups and the fallback a few requests, whatever they are answered with. So discovery comes to an
end. Main statement: `Discovery.finishes_discoverWith`.
-/

namespace MultiCluster

namespace Introspection

private theorem finishes_ask (q : Query) : (ask q).toProgram.Finishes :=
  Program.finishes_request (I := interface) q

end Introspection

open Introspection (finishes_ask)

namespace Discovery

private theorem finishes_findFlag (selector flag : String) : (findFlag selector flag).toProgram.Finishes :=
  Task.finishes_bind (finishes_ask _) fun _ => Task.finishes_pure _

private theorem finishes_findServiceCidr : findServiceCidr.toProgram.Finishes :=
  finishes_findFlag _ _

private theorem finishes_findPodCidr : findPodCidr.toProgram.Finishes := by
  refine Task.finishes_bind (finishes_findFlag _ _) fun found => ?_
  cases found with
  | some cidr => exact Task.finishes_pure _
  | none => exact finishes_findFlag _ _

private theorem finishes_discoverGeneric : discoverGeneric.toProgram.Finishes := by
  refine Task.finishes_bind finishes_findServiceCidr fun found => ?_
  cases found with
  | some cidr => exact Task.finishes_bind (Task.finishes_pure _) fun cidr => Task.finishes_pure _
  | none =>
    have hprobe : serviceCidrFromProbe.toProgram.Finishes := by
      refine Task.finishes_bind (finishes_ask _) fun outcome => ?_
      cases outcome with
      | rejected message => exact Task.finishes_pure _
      | created name address => exact Task.finishes_bind (finishes_ask _) fun u => Task.finishes_pure _
    exact Task.finishes_bind hprobe fun cidr => Task.finishes_pure _

end Discovery

namespace Probe

private theorem finishes_signature (p : Probe) : p.signature.toProgram.Finishes := by
  cases p
  all_goals exact Task.finishes_bind (finishes_ask _) fun found => Task.finishes_pure _

private theorem finishes_ovnNetwork (pod : Pod) : (ovnNetwork pod).toProgram.Finishes := by
  unfold ovnNetwork
  cases pod.metadata.space with
  | none => exact Task.finishes_pure _
  | some space =>
    refine Task.finishes_bind (finishes_ask _) fun there => ?_
    cases there with
    | false => exact Task.finishes_pure _
    | true =>
      refine Task.finishes_bind (finishes_ask _) fun found => ?_
      cases found.bind ConfigMap.data with
      | none => exact Task.finishes_pure _
      | some data => exact Task.finishes_pure _

private theorem finishes_extract (p : Probe) (s : Signature) : (p.extract s).toProgram.Finishes := by
  unfold extract
  split
  · exact Task.finishes_pure _
  · exact Task.finishes_bind Discovery.finishes_findServiceCidr fun cidr => Task.finishes_pure _
  · exact Task.finishes_bind Discovery.finishes_findServiceCidr fun cidr => Task.finishes_pure _
  · exact Task.finishes_bind Discovery.finishes_findServiceCidr fun cidr => Task.finishes_pure _
  · exact finishes_ovnNetwork _
  · refine Task.finishes_bind Discovery.finishes_findPodCidr fun pods => ?_
    exact Task.finishes_bind Discovery.finishes_findServiceCidr fun cidr => Task.finishes_pure _
  · exact Task.finishes_pure _

private theorem finishes_detect (p : Probe) : p.detect.toProgram.Finishes := by
  refine Task.finishes_bind (finishes_signature p) fun found => ?_
  cases found with
  | none => exact Task.finishes_pure _
  | some s => exact Task.finishes_bind (finishes_extract p s) fun network => Task.finishes_pure _

end Probe

theorem Discovery.finishes_discoverWith (ps : List Probe) : (discoverWith ps).toProgram.Finishes := by
  induction ps with
  | nil => exact Task.finishes_mapFailure finishes_discoverGeneric _
  | cons p ps ih =>
    refine Task.finishes_bind (Task.finishes_mapFailure p.finishes_detect _) fun found => ?_
    cases found with
    | some network => exact Task.finishes_pure _
    | none => exact ih

end MultiCluster
