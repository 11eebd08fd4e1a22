import LanguageBridge.Message
import LanguageBridge.Proofs.Server.Suggestions

/-!
# What a server reads in a frame

A message goes to the server as a frame, the text of its written form, and the frame is all that the
server has of it.  Theorems about queues speak of messages.  Here is what these messages say to
whoever reads their frames.

The frames are looked at from the other end: a server takes a frame apart as a record with the
version of the protocol, the method and the parameters, and the parameters as records of their own
(`Server.Notice`, `Server.Query`, `Server.Document`, `Server.Place`).  What it gets is what was to
be said, whatever the texts hold (`Message.read_didOpen`, `Message.read_place`,
`Message.read_settingsChanged`, `Message.read_handshakeDone`).  The order of the fields and their
layout play no part in that.

All of them come down to one fact about notifications and one about requests: parameters that come
back from their written form do so inside a frame too (`Message.read_notification`,
`Message.read_request`).
-/

namespace LanguageBridge

open Json (Decoder Fields PlainFields RoundTrip)

namespace Server

variable {α : Type}

/-- A notification as a server reads it. -/
structure Notice (α : Type) where
  version : String
  method : String
  params : α

/-- A request as a server reads it. -/
structure Query (α : Type) where
  version : String
  id : UInt64
  method : String
  params : α

/-- A document that a server is told of. -/
structure Document where
  uri : String
  languageId : String
  version : UInt32
  text : String

/-- A place in a document that a server is asked about. -/
structure Place where
  uri : String
  position : Position

/-- A notification read by a server that knows what its parameters are. -/
def Notice.decoder (params : Decoder α) : Decoder (Notice α) :=
  Decoder.record "Notification" (Notice.mk <$> Fields.required "jsonrpc" Decoder.text
    <*> Fields.required "method" Decoder.text <*> Fields.required "params" params)

/-- A request read in the same way. -/
def Query.decoder (params : Decoder α) : Decoder (Query α) :=
  Decoder.record "Request" (Query.mk <$> Fields.required "jsonrpc" Decoder.text
    <*> Fields.required "id" Decoder.word64 <*> Fields.required "method" Decoder.text
    <*> Fields.required "params" params)

namespace Document

def toJson (d : Document) : Json :=
  .object [("languageId", .text d.languageId), ("text", .text d.text), ("uri", .text d.uri),
    ("version", .nat d.version.toNat)]

def decoder : Decoder Document :=
  Decoder.record "TextDocumentItem" (Document.mk <$> Fields.required "uri" Decoder.text
    <*> Fields.required "languageId" Decoder.text <*> Fields.required "version" Decoder.word32
    <*> Fields.required "text" Decoder.text)

theorem roundTrip : RoundTrip toJson decoder where
  plain := fun _ => PlainFields.object (.cons (.text _) (.cons (.text _) (.cons (.text _)
    (.cons (RoundTrip.word32.plain _) .nil))))
  decode := fun source _ =>
    Decoder.record_of_gives (((((Fields.gives_required .text rfl).map _).seq
      (Fields.gives_required .text rfl)).seq (Fields.gives_required .word32 rfl)).seq
        (Fields.gives_required .text rfl)) _ source

end Document

namespace Place

def toJson (p : Place) : Json :=
  .object [("position", p.position.toJson), ("textDocument", .object [("uri", .text p.uri)])]

def decoder : Decoder Place :=
  Decoder.record "TextDocumentPositionParams" (Place.mk <$> Fields.required "textDocument"
      (Decoder.record "TextDocumentIdentifier" (id <$> Fields.required "uri" Decoder.text))
    <*> Fields.required "position" Position.decoder)

/-- A place comes back from its written form, with the document it is in. -/
theorem roundTrip : RoundTrip toJson decoder where
  plain := fun _ => PlainFields.object (.cons (Position.roundTrip.plain _)
    (.cons (PlainFields.object (.cons (.text _) .nil)) .nil))
  decode := fun source _ =>
    Decoder.record_of_gives (((Fields.gives_required (RoundTrip.text.field _ "uri") rfl).map _).seq
      (Fields.gives_required Position.roundTrip rfl)) _ source

end Place

end Server

namespace Message

open Server (Document Notice Place Query)

variable {α : Type} {write : α → Json} {decode : Decoder α}

/-- A notification comes back from its frame, if its parameters come back from their written
form. -/
theorem read_notification (trip : RoundTrip write decode) (method : String) (a : α) :
    Json.decodeText (Notice.decoder decode) (notification method (write a)).frame.toList
      = .ok ⟨"2.0", method, a⟩ := by
  have plain : Json.Plain (notification method (write a)).toJson :=
    PlainFields.object (.cons (.text _) (.cons (.text _) (.cons (trip.plain a) .nil)))
  rw [frame, Json.compact, String.toList_ofList]
  refine plain.reads_print.decodeText fun source => ?_
  exact Decoder.record_of_gives ((((Fields.gives_required .text rfl).map Notice.mk).seq
    (Fields.gives_required .text rfl)).seq (Fields.gives_required trip rfl)) _ source

/-- So does a request, with its id. -/
theorem read_request (trip : RoundTrip write decode) (id : UInt64) (method : String) (a : α) :
    Json.decodeText (Query.decoder decode) (request id.toNat method (write a)).frame.toList
      = .ok ⟨"2.0", id, method, a⟩ := by
  have plain : Json.Plain (request id.toNat method (write a)).toJson :=
    PlainFields.object (.cons (RoundTrip.word64.plain id)
      (.cons (.text _) (.cons (.text _) (.cons (trip.plain a) .nil))))
  rw [frame, Json.compact, String.toList_ofList]
  refine plain.reads_print.decodeText fun source => ?_
  exact Decoder.record_of_gives (((((Fields.gives_required .text rfl).map Query.mk).seq
    (Fields.gives_required .word64 rfl)).seq (Fields.gives_required .text rfl)).seq
      (Fields.gives_required trip rfl)) _ source

/-! ## The messages of a client -/

/-- The notification with which a client opens a document says which one it is, and its whole
text. -/
theorem read_didOpen (uri languageId text : String) :
    Json.decodeText (Notice.decoder (Decoder.record "DidOpenTextDocumentParams"
        (id <$> Fields.required "textDocument" Document.decoder)))
      (didOpen uri languageId text).frame.toList
      = .ok ⟨"2.0", "textDocument/didOpen", ⟨uri, languageId, 1, text⟩⟩ :=
  read_notification (Document.roundTrip.field _ "textDocument") _ ⟨uri, languageId, 1, text⟩

/-- A request about a place in a document says which document it is, and names the place. -/
theorem read_place (id : UInt64) (method uri : String) (place : Server.Position) :
    Json.decodeText (Query.decoder Place.decoder)
      (request id.toNat method (placeParams uri place)).frame.toList
      = .ok ⟨"2.0", id, method, ⟨uri, place⟩⟩ :=
  read_request Place.roundTrip id method ⟨uri, place⟩

/-- New settings are given as they are, whatever they are settings of. -/
theorem read_settingsChanged (trip : RoundTrip write decode) (settings : α) :
    Json.decodeText (Notice.decoder (Decoder.record "DidChangeConfigurationParams"
        (id <$> Fields.required "settings" decode)))
      (settingsChanged (write settings)).frame.toList
      = .ok ⟨"2.0", "workspace/didChangeConfiguration", settings⟩ :=
  read_notification (trip.field _ "settings") _ settings

/-- The end of the handshake has nothing to say beside that. -/
theorem read_handshakeDone :
    Json.decodeText (Notice.decoder (Decoder.record "InitializedParams" (pure ())))
      handshakeDone.frame.toList = .ok ⟨"2.0", "initialized", ()⟩ :=
  read_notification (RoundTrip.unit _) _ ()

end Message

end LanguageBridge
