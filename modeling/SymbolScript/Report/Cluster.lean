import SymbolScript.Report.Basic
import SymbolScript.SymbolChoice.Cluster

/-! The report on clusters: how close the symbols of a cluster are, and how far clusters are
apart. -/

namespace SymbolScript.Report.Cluster

open SymbolChoice

def pairs : List (String × String) := [("α", "β"), ("λ", "∫"), ("α", "⬛"), ("∈", "∪")]

def clusterRow (statistics : ClusterStatistics) (name : Text) (cluster : SymbolChoice.Cluster) :
    Except Failure (List String) := do
  let within := (Dictionary.get? statistics.perCluster name).getD 0
  return [String.ofList name, String.ofList (Text.join " " cluster.symbols),
    String.ofList cluster.centroid, places 2 (← cluster.cohesion.toFloat), places 3 within]

def pairLine (left right : String) : Except Failure String := do
  let apart ← symbolDistance left.toList right.toList
  return s!"   {left} ↔ {right}: {places 3 apart}"

def text : Except Failure String := do
  let statistics ← clusterStatistics clusters
  return print <|
    ["GaiaScript Vector Space Clustering Analysis\n",
      "Symbol Clusters:",
      ← grid ["Cluster", "Symbols", "Centroid", "Cohesion", "Intra Dist"] "<<<>>"
        (← clusters.mapM fun (name, cluster) => clusterRow statistics name cluster),
      "\nCluster Statistics:",
      s!"   Clusters: {whole statistics.clusterCount}, symbols: {whole statistics.symbolCount}",
      s!"   Mean cohesion: {places 3 statistics.meanCohesion}",
      s!"   Mean intra-cluster distance: {places 3 statistics.withinClusters}",
      s!"   Mean inter-centroid distance: {places 3 statistics.betweenClusters}",
      s!"   Separation ratio: {places 2 statistics.separation}",
      "\nPairwise Distances:"] ++
    (← pairs.mapM fun (left, right) => pairLine left right)

end SymbolScript.Report.Cluster
