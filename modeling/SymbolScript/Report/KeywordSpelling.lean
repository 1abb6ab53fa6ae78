import SymbolScript.Report.Basic

/-! The report on token efficiency: how much shorter symbols are than CJK keywords. -/

namespace SymbolScript.Report.KeywordSpelling

def samples : List TokenCost.Sample := [
  sample "Function Definition"
    "函數定義⟨計算總和,數字列表⟩數字列表.reduce((累加,當前)=>累加+當前,0)⟨/函數定義⟩"
    "λ⟨計算總和,數字列表⟩數字列表.∘((累加,當前)=>累加+當前,⊗∅)⟨/λ⟩",
  sample "State Management"
    "狀態管理⟨用戶:物件類型⟨名稱:文字類型⟨⟩,年齡:數字類型⟨25⟩⟩,活躍:布林類型⟨真⟩⟩"
    "Σ⟨用戶:𝕆⟨名稱:𝕊⟨⟩,年齡:ℝ⟨⊗βε⟩⟩,活躍:𝔹⟨⊗⊤⟩⟩",
  sample "Component with Styles"
    ("組件建立⟨按鈕⟩樣式配置\x7b顏色屬性:藍色;內邊距:8像素;邊框屬性:1像素 實心 灰色;" ++
      "過渡效果:全部 0.2秒 緩動\x7d⟨/組件建立⟩")
    "∆⟨按鈕⟩Φ\x7bρ:藍色;φ:⊗θ像素;β:⊗α像素 ⬛ 灰色;τ:全部 ⊗∅.⊗β秒 緩動\x7d⟨/∆⟩",
  sample "Control Flow"
    "條件判斷⟨年齡 >= 18⟩流程控制⟨成年人⟩否則⟨未成年⟩"
    "∇⟨年齡 >= ⊗αθ⟩→⟨成年人⟩¬⟨未成年⟩",
  sample "Array Operations"
    "陣列類型⟨1,2,3,4,5⟩.映射(數字=>數字*2).過濾(數字=>數字>5)"
    "𝔸⟨⊗α,⊗β,⊗γ,⊗δ,⊗ε⟩.∘(數字=>數字*⊗β).∇(數字=>數字>⊗ε)"]

def aim : Float := 60

def row (name : String) (totals : TokenCost.Totals) : Except Failure (List String) := do
  return [name, whole totals.traditionalLength, whole totals.symbolicLength,
    percent 1 (← totals.lengthReduction), percent 1 (← totals.tokenReduction)]

def text : Except Failure String := do
  let comparisons ← TokenCost.compareEstimated samples
  let summary ← TokenCost.summarize comparisons
  let rows ← comparisons.mapM fun comparison =>
    row (String.ofList comparison.sample.name) comparison.totals
  let lengthReduction ← summary.lengthReduction
  let tokenReduction ← summary.tokenReduction
  let verdict := if aim ≤ tokenReduction then "PASS" else "FAIL"
  return print [
    "GaiaScript LLM Token Efficiency Validation\n",
    "Token Efficiency Analysis (estimated):",
    ← gridOf (some [21, 8, 8, 8, 12]) ["Test Case", "Trad Len", "Math Len", "Char Red", "Token Red"]
      "<>>>>" (rows ++ [← row "TOTAL" summary]),
    "\nKey Results:",
    s!"   Overall character reduction: {percent 1 lengthReduction}",
    s!"   Token reduction: {percent 1 tokenReduction}",
    s!"   Traditional chars: {whole summary.traditionalLength}, " ++
      s!"Math chars: {whole summary.symbolicLength}",
    s!"   Traditional tokens: {whole summary.traditionalTokens}, " ++
      s!"Math tokens: {whole summary.symbolicTokens}",
    s!"\n   [{verdict}] {places 0 aim}-80% token reduction (actual {percent 1 tokenReduction})"]

end SymbolScript.Report.KeywordSpelling
