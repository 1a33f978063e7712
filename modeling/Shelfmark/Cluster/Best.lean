import Shelfmark.Cluster.Basic

/-!
# Clusters - The best cluster

A record is represented by its largest Library of Congress cluster; only where
there is none does the largest cluster of all represent it.  Of clusters with
equally many members the one whose members come first is preferred, and of
clusters that are equal in that too, the one with the smaller key.
-/

namespace Shelfmark

/-- Whether a cluster represents a record better than another one: it has more members, or
as many and these come first. -/
def Cluster.isBetter (candidate current : Cluster) : Bool :=
  (compare candidate.members.length current.members.length).then
    (List.compareLex Entry.compare current.members candidate.members) == .gt

namespace Clusters

/-- The best cluster; of several that are equally good, the first. -/
def largest? : List Cluster → Option Cluster
  | [] => none
  | cluster :: rest =>
    some (rest.foldl (fun best candidate =>
      if candidate.isBetter best then candidate else best) cluster)

/-- The best of the Library of Congress clusters, or else the best of all. -/
def best? (clusters : Clusters) : Option Cluster :=
  (largest? (clusters.filter Cluster.isLc)).or (largest? clusters)

end Clusters
end Shelfmark
