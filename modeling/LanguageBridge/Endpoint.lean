import LanguageBridge.Text.Blank

/-!
# Endpoints

An endpoint names a language server, usually as a host and a port.  The address of its socket has
a scheme, which is added to an endpoint that comes without one.
-/

namespace LanguageBridge.Endpoint

/-- Whether an endpoint already names the scheme of a socket. -/
def hasScheme (endpoint : List Char) : Bool :=
  "ws://".toList.isPrefixOf endpoint || "wss://".toList.isPrefixOf endpoint

/-- The address of the socket of an endpoint. -/
def address (endpoint : String) : String :=
  let trimmed := Text.trimList endpoint.toList
  String.ofList (if hasScheme trimmed then trimmed else "ws://".toList ++ trimmed)

end LanguageBridge.Endpoint
