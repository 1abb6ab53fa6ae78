import SymbolScript.Text.Basic

/-! What the service shows to those who do not ask for anything in particular. -/

namespace SymbolScript.Service

def indexPage : Text :=
  ("<!doctype html>\n" ++
   "<html>\n" ++
   "<head><meta charset=\"utf-8\"><title>GaiaScript</title></head>\n" ++
   "<body>\n" ++
   "<h1>GaiaScript</h1>\n" ++
   "<textarea id=\"src\" rows=\"12\" cols=\"80\">λ⟨add,a,b⟩return a + b;⟨/λ⟩</textarea>\n" ++
   "<p><button onclick=\"compile()\">Compile</button></p>\n" ++
   "<pre id=\"out\"></pre>\n" ++
   "<script>\n" ++
   "async function compile() \x7b\n" ++
   "  const res = await fetch(\"/api/compile\", \x7b\n" ++
   "    method: \"POST\",\n" ++
   "    headers: \x7b\"Content-Type\": \"application/json\"\x7d,\n" ++
   "    body: JSON.stringify(\x7bsource: document.getElementById(\"src\").value\x7d),\n" ++
   "  \x7d);\n" ++
   "  const data = await res.json();\n" ++
   "  document.getElementById(\"out\").textContent =\n" ++
   "    data.success ? data.javascript : data.diagnostics.join(\"\\n\");\n" ++
   "\x7d\n" ++
   "</script>\n" ++
   "</body>\n" ++
   "</html>\n").toList

def examples : List (String × String) := [
  ("Counter State", "Σ⟨count:⊗∅, active:𝔹⟨true⟩⟩"),
  ("Function", "λ⟨add,a,b⟩return a + b;⟨/λ⟩"),
  ("Imports", "導⟨Button,Card⟩\nΨ⟨useState⟩"),
  ("Styled Text", "Φ\x7bρ:blue;φ:⊗α⊗∅px\x7d⟦Hello⟧"),
  ("App Root", "界⟨✱⟩<h1>文⟨Hello GaiaScript⟩</h1>⟨/界⟩"),
  ("Base64 Number", "const million = #⟨D0JA⟩;")]

end SymbolScript.Service
