import LanguageBridge.Text.Blank

/-!
# Headers

The host may set a header that the server sees in front of the visible document.  A header is
trimmed and ends with a line break, so it shifts the document by whole lines; a blank header is no
header at all.
-/

namespace LanguageBridge.Host

/-- The header that a text stands for. -/
def normalizeHeader (text : String) : Option String :=
  match Text.trimList text.toList with
  | [] => none
  | trimmed => some (String.ofList (trimmed ++ ['\n']))

end LanguageBridge.Host
