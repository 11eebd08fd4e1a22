import LanguageBridge.Client.Options
import LanguageBridge.Editor.Result
import LanguageBridge.Json.Printer
import LanguageBridge.Json.Tagged

/-!
# Settings

The settings of the bridge live in a JSON file.  Every field has a default of its own, so a file
may hold any part of them; a file that does not decode counts as if it were not there.  The default
server is taken from the environment.

`Settings.options` turns the settings into the options of a client.  A period of zero is raised to
a millisecond, and the longest delay to the base delay, so no setting makes the client spin.
-/

namespace LanguageBridge

open Json (Decoder Fields)

/-- The delays between attempts to reconnect, in milliseconds. -/
structure ReconnectSettings where
  baseDelayMs : UInt64
  maxDelayMs : UInt64
  forceDelayMs : UInt64
  deriving DecidableEq, Repr

namespace ReconnectSettings

/-- The delays when nothing is said about them. -/
def standard : ReconnectSettings := ⟨1000, 30000, 500⟩

instance : Inhabited ReconnectSettings := ⟨standard⟩

/-- The written form of the delays. -/
def toJson (r : ReconnectSettings) : Json :=
  .object [("base_delay_ms", .nat r.baseDelayMs.toNat), ("max_delay_ms", .nat r.maxDelayMs.toNat),
    ("force_delay_ms", .nat r.forceDelayMs.toNat)]

/-- Reads the delays. -/
def decoder : Decoder ReconnectSettings :=
  Decoder.record "ReconnectConfig"
    (ReconnectSettings.mk
      <$> Fields.withDefault "base_delay_ms" Decoder.word64 standard.baseDelayMs
      <*> Fields.withDefault "max_delay_ms" Decoder.word64 standard.maxDelayMs
      <*> Fields.withDefault "force_delay_ms" Decoder.word64 standard.forceDelayMs)

end ReconnectSettings

/-- The settings of the bridge. -/
structure Settings where
  host : String
  languageId : String
  documentUri : String
  reconnect : ReconnectSettings
  healthCheckIntervalMs : UInt64
  handshakeTimeoutMs : UInt64
  requestTimeoutMs : UInt64
  snippets : List Editor.Snippet
  deriving DecidableEq, Repr

namespace Settings

/-- The server that is used when neither the settings nor the environment name one. -/
def localHost : String := "localhost:2087"

/-- The settings when nothing is said about them.  `environment` is the server named by the
environment, if it names one. -/
def standard (environment : Option String) : Settings where
  host := environment.getD localHost
  languageId := "python"
  documentUri := "inmemory://model.py"
  reconnect := .standard
  healthCheckIntervalMs := 5000
  handshakeTimeoutMs := 10000
  requestTimeoutMs := 10000
  snippets := []

/-- The written form of the settings. -/
def toJson (s : Settings) : Json :=
  .object [("lsp_host", .text s.host), ("language_id", .text s.languageId),
    ("document_uri", .text s.documentUri), ("reconnect", s.reconnect.toJson),
    ("health_check_interval_ms", .nat s.healthCheckIntervalMs.toNat),
    ("handshake_timeout_ms", .nat s.handshakeTimeoutMs.toNat),
    ("request_timeout_ms", .nat s.requestTimeoutMs.toNat),
    ("snippets", .list (s.snippets.map Editor.Snippet.toJson))]

/-- Reads settings, taking what is missing from the standard ones. -/
def decoder (environment : Option String) : Decoder Settings :=
  let d := standard environment
  Decoder.record "BridgeConfig"
    (Settings.mk <$> Fields.withDefault "lsp_host" Decoder.text d.host
      <*> Fields.withDefault "language_id" Decoder.text d.languageId
      <*> Fields.withDefault "document_uri" Decoder.text d.documentUri
      <*> Fields.withDefault "reconnect" ReconnectSettings.decoder d.reconnect
      <*> Fields.withDefault "health_check_interval_ms" Decoder.word64 d.healthCheckIntervalMs
      <*> Fields.withDefault "handshake_timeout_ms" Decoder.word64 d.handshakeTimeoutMs
      <*> Fields.withDefault "request_timeout_ms" Decoder.word64 d.requestTimeoutMs
      <*> Fields.withDefault "snippets" (Decoder.list Editor.Snippet.decoder) d.snippets)

/-- The settings that a text stands for, or why it stands for none. -/
def ofText (environment : Option String) (text : List Char) : Except Json.TextFault Settings :=
  Json.decodeText (decoder environment) text

/-- The text that is stored for the settings. -/
def toText (s : Settings) : String := s.toJson.pretty

/-! ## Files -/

/-- The character that a well-formed sequence at the start of some bytes encodes, and the number of
its bytes. -/
def utf8Char? : List UInt8 → Option (Char × Nat)
  | [] => none
  | b :: rest =>
    let trail (bs : List UInt8) (count : Nat) (low : Nat) (start : Nat) : Option (Char × Nat) :=
      let taken := bs.take count
      if taken.length = count ∧ taken.all fun t => t.toNat / 64 = 2 then
        let n := taken.foldl (fun n t => n * 64 + t.toNat % 64) start
        if h : n.isValidChar then
          if low ≤ n then some (Char.ofNatAux n h, count + 1) else none
        else none
      else none
    let n := b.toNat
    if n < 0x80 then some (Char.ofNat n, 1)
    else if 0xC0 ≤ n ∧ n < 0xE0 then trail rest 1 0x80 (n - 0xC0)
    else if 0xE0 ≤ n ∧ n < 0xF0 then trail rest 2 0x800 (n - 0xE0)
    else if 0xF0 ≤ n ∧ n < 0xF8 then trail rest 3 0x10000 (n - 0xF0)
    else none

/-- What a byte outside of any character is read as: the escape of half a surrogate pair.  Both may
stand in a text that is skipped and spoil any other. -/
def strayByte : List Char := "\\udc80".toList

/-- The characters of a file that is not well-formed UTF-8.  `skip` bytes belong to the character
in front. -/
def lenientChars : Nat → List UInt8 → List Char
  | _, [] => []
  | skip + 1, _ :: rest => lenientChars skip rest
  | 0, b :: rest =>
    match utf8Char? (b :: rest) with
    | some (c, width) => c :: lenientChars (width - 1) rest
    | none => strayByte ++ lenientChars 0 rest

/-- The characters of a file. -/
def fileChars (file : ByteArray) : List Char :=
  match String.fromUTF8? file with
  | some text => text.toList
  | none => lenientChars 0 file.data.toList

/-- The settings in a file, or the standard ones when there is no such file or it does not
decode. -/
def load (environment : Option String) (file : Option ByteArray) : Settings :=
  match file with
  | none => standard environment
  | some bytes =>
    match ofText environment (fileChars bytes) with
    | .ok s => s
    | .error _ => standard environment

/-- The bytes that are stored for the settings. -/
def toFile (s : Settings) : ByteArray := s.toText.toUTF8

/-! ## Options of the client -/

/-- A period in milliseconds, a zero raised to one. -/
def atLeastOne (ms : UInt64) : Nat := max ms.toNat 1

/-- The options of a client with these settings. -/
def options (s : Settings) : Client.Options where
  languageId := s.languageId
  documentUri := s.documentUri
  baseDelay := Duration.ofMillis (atLeastOne s.reconnect.baseDelayMs)
  maxDelay :=
    Duration.ofMillis (max s.reconnect.maxDelayMs.toNat (atLeastOne s.reconnect.baseDelayMs))
  forcedDelay := Duration.ofMillis (atLeastOne s.reconnect.forceDelayMs)
  healthInterval := Duration.ofMillis (atLeastOne s.healthCheckIntervalMs)
  handshakeTimeout := Duration.ofMillis s.handshakeTimeoutMs.toNat
  requestTimeout := Duration.ofMillis s.requestTimeoutMs.toNat

end Settings
end LanguageBridge
