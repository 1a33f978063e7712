import Shelfmark.Cluster.Basic

/-!
# Clusters - Summaries

A cluster is displayed as what its members have in common, followed by what
tells them apart: `PS3511.A3 E4 1925` and `PS3511.A3 E4 1925 COPY 2` become
`PS3511.A3 E4 1925,1925 COPY 2`.  A summary that would be too long, or would
list too many members, gives their number instead.
-/

namespace Shelfmark
namespace Cluster

/-- The number of leading positions, at most `limit`, at which two texts agree loosely. -/
def agreement (limit : Nat) (a b : Text) : Nat :=
  (((a.zip b).take limit).takeWhile fun pair =>
    NaturalOrder.looselyEqual pair.1 pair.2).length

/-- The number of leading positions at which a text agrees with all others. -/
def commonLength (first : Text) (others : List Text) : Nat :=
  others.foldl (fun length other => agreement length first other) first.length

/-- Cuts a text in front of its last space, if it has one. -/
def cutAtLastSpace (s : Text) : Text :=
  match Text.afterLast? ' ' s with
  | some rest => (s.before rest).dropLast
  | none => s

/-- The common beginning of two or more values, cut in front of its last space. -/
def commonBeginning (first : Text) (others : List Text) : Text :=
  cutAtLastSpace (first.take (commonLength first others))

/-- What is left of each value behind the common beginning, in natural order. -/
def remainders (beginning : Text) (values : List Text) : List Text :=
  NaturalOrder.sortBy NaturalOrder.natural
    ((values.map fun value => Text.trim (value.drop beginning.length)).filter (!·.isEmpty))

/-- The common beginning followed by the remainders. -/
def listing (beginning : Text) (remainders : List Text) : Text :=
  match remainders with
  | [] => beginning
  | remainders => beginning ++ ' ' :: Text.join [','] remainders

/-- The common beginning followed by the number of members. -/
def volumeCount (beginning : Text) (members : Nat) : Text :=
  beginning ++ " (".toList ++ Nat.toDigits 10 members ++ " volumes)".toList

/-- The summary of a list of values; a single value stands for itself. -/
def summarize? (options : Options) : List Text → Option Text
  | [] => none
  | [value] => some value
  | first :: others =>
    let values := first :: others
    let beginning := commonBeginning first others
    let text := listing beginning (remainders beginning values)
    if options.maxSummaryLength < text.length ∨ options.maxListedVolumes < values.length then
      some (volumeCount beginning values.length)
    else some text

/-- The summary of a cluster, without tags. -/
def summary? (cluster : Cluster) (options : Options) : Option Text :=
  summarize? options (cluster.members.map Entry.value)

end Cluster

/-- The summaries of all clusters, in order and without repetition. -/
def Clusters.summaries (clusters : Clusters) (options : Options) : List Text :=
  NaturalOrder.sortDistinct NaturalOrder.normed
    (clusters.filterMap fun cluster => cluster.summary? options)

end Shelfmark
