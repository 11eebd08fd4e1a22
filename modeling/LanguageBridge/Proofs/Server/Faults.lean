import LanguageBridge.Editor.Shaping
import LanguageBridge.Proofs.Json.Faults

/-!
# Replies that do not decode

A reply of the server that has not got the shape its feature asks for is a failure, and whether a
failure shows that the session is gone is told from its wording.  None of the names of the types and
fields of a reply tells of an end, so an undecodable reply counts as the end of the session exactly
if the fault quotes a text of the reply that does (`Answer.isStale_of_undecodable`).

That happens at the places of a hover or of signature help where a text stands for a number, a
record or a list.  It never happens with suggestions: their reply is one of two alternatives, and
what is wrong with either of them is not told.

For each type of a reply there is one lemma `quotes_decoder`.  It follows the decoder, record by
record, and asks of each name that it is mute.
-/

namespace LanguageBridge

open Json (Decoder Fault Fields)
open Failure (tellsOfEnd)

namespace Server

/-- A place quotes what stands for one of its numbers. -/
theorem Position.quotes_decoder : Position.decoder.Quotes :=
  Decoder.quotes_record (by decide)
    (((Fields.Quotes.required (by decide) Decoder.quotes_word32).map Position.mk).seq
      (.required (by decide) Decoder.quotes_word32))

theorem Range.quotes_decoder : Range.decoder.Quotes :=
  Decoder.quotes_record (by decide)
    (((Fields.Quotes.required (by decide) Position.quotes_decoder).map Range.mk).seq
      (.required (by decide) Position.quotes_decoder))

/-- A hover quotes what stands for its range, and nothing of its contents, which have
alternatives. -/
theorem Hover.quotes_decoder : Hover.decoder.Quotes :=
  Decoder.quotes_record (by decide)
    (((Fields.Quotes.required (by decide)
        (Decoder.quotes_either (by decide) _ _)).map Hover.mk).seq
      (.optional (by decide) Range.quotes_decoder))

theorem Documentation.quotes_decoder : Documentation.decoder.Quotes :=
  Decoder.quotes_either (by decide) _ _

theorem Parameter.quotes_decoder : Parameter.decoder.Quotes :=
  Decoder.quotes_record (by decide)
    (((Fields.Quotes.required (by decide)
        (Decoder.quotes_either (by decide) _ _)).map Parameter.mk).seq
      (.optional (by decide) Documentation.quotes_decoder))

theorem Signature.quotes_decoder : Signature.decoder.Quotes :=
  Decoder.quotes_record (by decide)
    ((((Fields.Quotes.required (by decide) Decoder.quotes_text).map Signature.mk).seq
      (.optional (by decide) Documentation.quotes_decoder)).seq
      (.withDefault (by decide) Parameter.quotes_decoder.list))

theorem SignatureHelp.quotes_decoder : SignatureHelp.decoder.Quotes :=
  Decoder.quotes_record (by decide)
    ((((Fields.Quotes.withDefault (by decide) Signature.quotes_decoder.list).map
      SignatureHelp.mk).seq
      (.optional (by decide) Decoder.quotes_word32)).seq
      (.optional (by decide) Decoder.quotes_word32))

theorem CompletionReply.quotes_decoder : CompletionReply.decoder.Quotes :=
  Decoder.quotes_either (by decide) _ _

end Server

namespace Editor.Answer

variable {snippets : List Snippet} {subject : Subject} {f : Feature} {reply : Json} {fault : Fault}

/-- A fault of a reply quotes at most a text of the reply. -/
theorem quoting_of_ofContent (failed : ofContent snippets subject f reply = .error fault) :
    fault.Quoting reply.Holds := by
  have quoting {α : Type} {decode : Decoder α} (quotes : decode.Quotes)
      (failed : decode.ofValue reply = .error fault) : fault.Quoting reply.Holds :=
    (quotes .value reply.draft fault failed).mono fun _ => Json.holds_of_draft
  cases f with
  | completion => exact quoting Server.CompletionReply.quotes_decoder (Decoder.error_of_map failed)
  | hover => exact quoting Server.Hover.quotes_decoder (Decoder.error_of_map failed)
  | signatureHelp =>
    exact quoting Server.SignatureHelp.quotes_decoder (Decoder.error_of_map failed)

/-- A fault of suggestions quotes nothing. -/
theorem quoted?_of_completion
    (failed : ofContent snippets subject .completion reply = .error fault) :
    fault.quoted? = none := by
  rw [Decoder.eq_noVariant (Decoder.error_of_map failed)]
  rfl

/-- An undecodable reply counts as the end of its session exactly if the text that its fault quotes
tells of an end. -/
theorem isStale_of_undecodable (failed : ofContent snippets subject f reply = .error fault) :
    (Failure.undecodable fault.message).isStale = fault.quoted?.any tellsOfEnd := by
  rw [Failure.isStale_undecodable, Fault.tellsOfEnd_message (quoting_of_ofContent failed).discreet]

end Editor.Answer
end LanguageBridge
