import SymbolScript.Report.Adaptation
import SymbolScript.Report.Base64Number
import SymbolScript.Report.CategoryTheory
import SymbolScript.Report.Cluster
import SymbolScript.Report.KeywordSpelling
import SymbolScript.Report.Recognition
import SymbolScript.Report.Refinement
import SymbolScript.Report.StyleSheet
import SymbolScript.Report.TypeMark
import SymbolScript.Report.VectorNumber

/-! All reports by name. -/

namespace SymbolScript.Report

inductive Topic
  | vectorNumbers
  | keywordSpelling
  | clusters
  | refinements
  | recognition
  | base64Numbers
  | typeMarks
  | styleSheets
  | categoryTheory
  | adaptations
deriving DecidableEq, Repr

namespace Topic

def all : List Topic := [
  vectorNumbers, keywordSpelling, clusters, refinements, recognition, base64Numbers, typeMarks,
  styleSheets, categoryTheory, adaptations]

def spelling : Topic → String
  | vectorNumbers => "vector-numbers"
  | keywordSpelling => "llm-efficiency"
  | clusters => "clustering"
  | refinements => "symbol-refinements"
  | recognition => "cross-model"
  | base64Numbers => "base64"
  | typeMarks => "type-notation"
  | styleSheets => "css-system"
  | categoryTheory => "category-theory"
  | adaptations => "llm-adaptations"

def ofText? (text : Text) : Option Topic :=
  all.find? fun topic => topic.spelling.toList == text

def comparesTokens : Topic → Bool
  | keywordSpelling | recognition | styleSheets | categoryTheory | adaptations => true
  | _ => false

end Topic

/-- The text of a report; only the one on refinements depends on the threshold. -/
def text (threshold : Number) : Topic → Except Failure String
  | .vectorNumbers => VectorNumber.text
  | .keywordSpelling => KeywordSpelling.text
  | .clusters => Cluster.text
  | .refinements => Refinement.text threshold
  | .recognition => Recognition.text
  | .base64Numbers => Base64Number.text
  | .typeMarks => TypeMark.text
  | .styleSheets => StyleSheet.text
  | .categoryTheory => CategoryTheory.text
  | .adaptations => Adaptation.text

end SymbolScript.Report
