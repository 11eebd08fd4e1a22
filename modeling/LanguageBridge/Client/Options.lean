import LanguageBridge.Backoff

/-!
# Client options

Everything a client is told when it is made: the language and the document it serves, and how long
it waits for what.
-/

namespace LanguageBridge.Client

/-- Languages, names and times of a client. -/
structure Options where
  /-- The language that providers register for and that an opened document announces. -/
  languageId : String
  /-- The name of the one document. -/
  documentUri : String
  baseDelay : Duration
  maxDelay : Duration
  /-- The delay of a reconnect that is forced by a stale session. -/
  forcedDelay : Duration
  healthInterval : Duration
  handshakeTimeout : Duration
  requestTimeout : Duration
  deriving DecidableEq, Repr

namespace Options

/-- The options of a client that is told nothing else. -/
def standard : Options where
  languageId := "python"
  documentUri := "inmemory://model.py"
  baseDelay := Duration.ofMillis 1000
  maxDelay := Duration.ofMillis 30000
  forcedDelay := Duration.ofMillis 500
  healthInterval := Duration.ofMillis 5000
  handshakeTimeout := Duration.ofMillis 10000
  requestTimeout := Duration.ofMillis 10000

instance : Inhabited Options := ⟨standard⟩

/-- The growth of the delay between attempts. -/
def backoff (o : Options) : Backoff := ⟨o.baseDelay, o.maxDelay⟩

end Options
end LanguageBridge.Client
