import Shelfmark.Entry
import Shelfmark.Options

/-!
# Clusters - Grouping entries

Call numbers that share their first few characters usually are the volumes or
copies of one work.  A cluster collects the entries with one key.  Its members
are in ascending order, and of entries that are the same call number only the
first that came is kept.  The clusters themselves are in ascending order of
their keys.
-/

namespace Shelfmark

/-- Entries with a common key, ascending, no two the same. -/
structure Cluster where
  /-- The characters that the values of the members begin with. -/
  key : Text
  /-- The members in ascending order. -/
  members : List Entry
  deriving Repr, DecidableEq

namespace Cluster

/-! ## One cluster -/

/-- Inserts an entry at its place in an ascending list, unless it is there already. -/
def insertMember (entry : Entry) : List Entry → List Entry
  | [] => [entry]
  | member :: rest =>
    match entry.compare member with
    | .lt => entry :: member :: rest
    | .eq => member :: rest
    | .gt => member :: insertMember entry rest

/-- The first member. -/
def first? (cluster : Cluster) : Option Entry :=
  cluster.members.head?

/-- A cluster counts as Library of Congress when its first member does. -/
def isLc (cluster : Cluster) : Bool :=
  cluster.first?.any Entry.isLc

end Cluster

/-! ## All clusters of a record -/

/-- The clusters of a record, in ascending order of their keys. -/
abbrev Clusters := List Cluster

namespace Clusters

/-- Adds an entry to the cluster with the given key, which is made if there is none. -/
def add (key : Text) (entry : Entry) : Clusters → Clusters
  | [] => [⟨key, [entry]⟩]
  | cluster :: rest =>
    if key < cluster.key then ⟨key, [entry]⟩ :: cluster :: rest
    else if key = cluster.key then
      ⟨cluster.key, Cluster.insertMember entry cluster.members⟩ :: rest
    else cluster :: add key entry rest

/-- Whether the options keep an entry. -/
def keeps (options : Options) (entry : Entry) : Bool :=
  !options.dropUnknownSchemes || entry.scheme != .unknown

/-- Groups entries by the beginning of their values. -/
def ofEntries (entries : List Entry) (options : Options) : Clusters :=
  (entries.filter (keeps options)).foldl
    (fun clusters entry => add (entry.clusterKey options.keyLength) entry clusters) []

/-- The cluster with a given key. -/
def get? (clusters : Clusters) (key : Text) : Option Cluster :=
  clusters.find? (·.key == key)

/-- The members of all clusters. -/
def entries (clusters : Clusters) : List Entry :=
  clusters.flatMap Cluster.members

end Clusters
end Shelfmark
