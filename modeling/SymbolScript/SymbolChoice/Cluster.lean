import SymbolScript.Dictionary
import SymbolScript.Mean
import SymbolScript.Number
import SymbolScript.Text.Category

/-!
Clusters of symbols. A symbol is a vector of features: the magnitude of its code point, whether the
code point lies in each of some blocks, and whether the character has each of some categories. How
close the symbols of a cluster are, and how far clusters are apart, is measured on these vectors.
-/

namespace SymbolScript.SymbolChoice

/-! ## Features -/

def blocks : List (Nat × Nat) := [
  (0x370, 0x3ff), (0x2100, 0x214f), (0x2190, 0x21ff), (0x2200, 0x22ff), (0x25a0, 0x27bf),
  (0x2b00, 0x2bff), (0x1d400, 0x1d7ff)]

def featureCategories : List Text.Category :=
  [.lowercaseLetter, .uppercaseLetter, .mathSymbol, .otherSymbol]

def flag (condition : Bool) : Float :=
  if condition then 1 else 0

/-- The features of a symbol are those of its first character; the null character has no
magnitude. -/
def features : Text → Except Failure (List Float)
  | [] => .error .missingPosition
  | c :: _ =>
    let point := c.toNat
    if point = 0 then .error (.value .logarithmOfZero)
    else .ok ((Float.ofNat point).log2 / 17 ::
      blocks.map (fun (first, last) => flag (first ≤ point && point ≤ last)) ++
      featureCategories.map fun category => flag (category.holds c))

def distance (left right : List Float) : Float :=
  let squares := List.zipWith (fun a b => (a - b) * (a - b)) left right
  (Mean.sumInOrder 0 squares).sqrt

def symbolDistance (left right : Text) : Except Failure Float := do
  return distance (← features left) (← features right)

/-! ## Clusters -/

structure Cluster where
  symbols : List Text
  centroid : Text
  cohesion : Number
  similarity : Text

abbrev ClusterTable := Dictionary Text Cluster

private def grouped (name : String) (symbols : List String) (centroid : String) (cohesion : Float)
    (similarity : String) : Text × Cluster :=
  (name.toList, {
    symbols := symbols.map String.toList
    centroid := centroid.toList
    cohesion := .real cohesion
    similarity := similarity.toList })

def clusters : ClusterTable := [
  grouped "functions" ["λ", "ƒ", "∫", "∂", "∇"] "mathematical operators" 0.92 "high",
  grouped "state" ["Σ", "∑", "∏", "Π", "⊕", "⊗"] "aggregation/summation" 0.89 "high",
  grouped "logic" ["∧", "∨", "¬", "⇒", "⇔", "∀", "∃"] "logical operations" 0.94 "very high",
  grouped "greek" ["α", "β", "γ", "δ", "ε", "ζ", "η", "θ"] "Greek alphabet" 0.96 "very high",
  grouped "sets" ["∈", "∉", "⊂", "⊃", "∪", "∩", "∅"] "set operations" 0.93 "high",
  grouped "visual" ["☰", "⊞", "◐", "⬛", "◯", "●", "□", "■"] "visual/geometric" 0.78 "medium"]

/-! ## Statistics -/

def vectors (cluster : Cluster) : Except Failure (List (List Float)) := do
  let found ← cluster.symbols.mapM features
  if found.isEmpty then throw (.value .emptyCluster)
  return found

def meanVector : List (List Float) → List Float
  | [] => []
  | first :: others =>
    let count := Float.ofNat (others.length + 1)
    (others.foldl (List.zipWith (· + ·)) first).map (· / count)

def pairDistances : List (List Float) → List Float
  | [] => []
  | first :: others => others.map (distance first) ++ pairDistances others

/-- The mean distance of the pairs of vectors; without pairs it is zero. -/
def meanPairDistance (vectors : List (List Float)) : Float :=
  match pairDistances vectors with
  | [] => 0
  | distances => Mean.mean distances

structure ClusterStatistics where
  clusterCount : Nat
  symbolCount : Nat
  meanCohesion : Float
  withinClusters : Float
  betweenClusters : Float
  perCluster : Dictionary Text Float

def ClusterStatistics.separation (statistics : ClusterStatistics) : Float :=
  if statistics.withinClusters == 0 then Decimal.infinity
  else statistics.betweenClusters / statistics.withinClusters

def clusterStatistics (table : ClusterTable) : Except Failure ClusterStatistics := do
  if table.isEmpty then return ⟨0, 0, 0, 0, 0, []⟩
  let measured ← table.mapM fun (name, cluster) => return (name, ← vectors cluster)
  let perCluster := measured.map fun (name, found) => (name, meanPairDistance found)
  let cohesions ← table.mapM fun (_, cluster) => cluster.cohesion.toFloat
  return {
    clusterCount := table.length
    symbolCount := (table.map fun (_, cluster) => cluster.symbols.length).sum
    meanCohesion := Mean.mean cohesions
    withinClusters := Mean.mean (perCluster.map (·.2))
    betweenClusters := meanPairDistance (measured.map fun (_, found) => meanVector found)
    perCluster }

end SymbolScript.SymbolChoice
