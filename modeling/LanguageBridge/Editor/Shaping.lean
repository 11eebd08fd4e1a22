import LanguageBridge.Editor.Answer
import LanguageBridge.Editor.Document
import LanguageBridge.Failure
import LanguageBridge.Preamble
import LanguageBridge.Text.LowerCase
import LanguageBridge.Text.Search

/-!
# From replies to answers

What the server replies, brought into the shape the editor wants: documentation as markdown, places
in coordinates of the editor, and the snippets of the user merged into the suggestions of the
server.  `Answer.ofReply` does this for a reply to any feature; a reply without content is an
answer without content, and one of the wrong shape is a failure.
-/

namespace LanguageBridge.Editor

/-- A piece of documentation as markdown. -/
def Markdown.ofDocumentation (d : Server.Documentation) : Markdown := ⟨d.value⟩

/-! ## Completion -/

namespace Snippet

/-- The number of the completion kind "snippet". -/
def kind : UInt32 := 15

/-- Whether a snippet is offered for a typed word: its label contains the word, whatever the case
of the letters. -/
def suits (s : Snippet) (word : String) : Bool :=
  word.isEmpty || Text.occurs (Text.lower word) (Text.lower s.label)

end Snippet

namespace Suggestion

/-- A suggestion of the server, for a range. -/
def ofItem (range : Range) (i : Server.CompletionItem) : Suggestion where
  label := i.label
  kind := i.kind
  insertText := i.resolvedText
  insertAsSnippet := i.isSnippet
  detail := i.detail
  documentation := i.documentation.map .ofDocumentation
  sortText := i.sortText
  range := range

/-- A snippet as a suggestion, for a range. -/
def ofSnippet (range : Range) (s : Snippet) : Suggestion where
  label := s.label
  kind := some Snippet.kind
  insertText := s.insertText
  insertAsSnippet := true
  detail := none
  documentation := s.documentation.map Markdown.mk
  sortText := none
  range := range

/-- What two suggestions have in common when one of them is redundant. -/
structure Key where
  label : String
  insertText : String
  kind : Option UInt32
  deriving DecidableEq, Repr

/-- The key of a suggestion. -/
def key (s : Suggestion) : Key := ⟨s.label, s.insertText, s.kind⟩

/-- The suggestions whose key has not been seen before. -/
def firsts (seen : List Key) : List Suggestion → List Suggestion
  | [] => []
  | s :: rest => if s.key ∈ seen then firsts seen rest else s :: firsts (s.key :: seen) rest

end Suggestion

namespace Suggestions

/-- The columns of a word, on a line. -/
def rangeOf (word : WordAt) (line : UInt32) : Range where
  startLine := line
  startColumn := word.startColumn
  endLine := line
  endColumn := word.endColumn

/-- The suggestions of the server followed by the snippets that suit the typed word, each key only
once. -/
def merge (items : List Server.CompletionItem) (snippets : List Snippet) (word : WordAt)
    (line : UInt32) : Suggestions :=
  let range := rangeOf word line
  let offered := snippets.filter fun s => s.suits word.word
  ⟨Suggestion.firsts [] (items.map (.ofItem range) ++ offered.map (.ofSnippet range))⟩

end Suggestions

/-! ## Hover -/

/-- What the server shows about a place, for an editor whose document is moved down by some lines;
none if every block is blank. -/
def Hover.ofServer? (lines : UInt32) (h : Server.Hover) : Option Hover :=
  match h.contents.blocks with
  | [] => none
  | blocks => some ⟨blocks.map Markdown.mk, h.range.bind (Preamble.toEditor? lines)⟩

/-! ## Signature help -/

/-- A parameter of the server. -/
def Parameter.ofServer (p : Server.Parameter) : Parameter :=
  ⟨p.label, p.documentation.map .ofDocumentation⟩

/-- A signature of the server. -/
def Signature.ofServer (s : Server.Signature) : Signature :=
  ⟨s.label, s.documentation.map .ofDocumentation, s.parameters.map .ofServer⟩

/-- The signatures of the server; where it names none as active, the first one is. -/
def SignatureHelp.ofServer (h : Server.SignatureHelp) : SignatureHelp :=
  ⟨h.signatures.map .ofServer, h.activeSignature.getD 0, h.activeParameter.getD 0⟩

/-! ## Replies -/

/-- What a request was about: the visible text and the place in it, and the number of lines by
which the server saw the text moved. -/
structure Subject where
  text : String
  place : Position
  lines : UInt32
  deriving DecidableEq, Repr

/-- The answer to a reply that has content. -/
def Answer.ofContent (snippets : List Snippet) (subject : Subject) (f : Feature) (reply : Json) :
    Except Json.Fault Answer :=
  match f with
  | .completion =>
    (Server.CompletionReply.decoder.ofValue reply).map fun r =>
      .completion (.merge r.items snippets (wordBefore subject.text subject.place)
        subject.place.line)
  | .hover =>
    (Server.Hover.decoder.ofValue reply).map fun h => .hover (Hover.ofServer? subject.lines h)
  | .signatureHelp =>
    (Server.SignatureHelp.decoder.ofValue reply).map fun h => .signatureHelp (.ofServer h)

/-- The answer to a reply without content: the snippets at most. -/
def Answer.ofNothing (snippets : List Snippet) (subject : Subject) : Feature → Answer
  | .completion =>
    .completion (.merge [] snippets (wordBefore subject.text subject.place) subject.place.line)
  | .hover => .hover none
  | .signatureHelp => .signatureHelp .none

/-- The answer to a reply. -/
def Answer.ofReply (snippets : List Snippet) (subject : Subject) (f : Feature) (reply : Json) :
    Except Failure Answer :=
  if reply.isNull then .ok (.ofNothing snippets subject f)
  else (Answer.ofContent snippets subject f reply).mapError fun fault => .undecodable fault.message

end LanguageBridge.Editor
