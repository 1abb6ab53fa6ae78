import SymbolScript.Service.Standalone

/-! The web service as it runs alone. -/

namespace SymbolScript.Service

/-- The answer where there is no vocabulary to count tokens by. -/
def respond (request : Request) : Except Failure Answer :=
  standalone.respondWith none request

end SymbolScript.Service
