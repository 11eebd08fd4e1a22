import LanguageBridge.Host.Bridge
import LanguageBridge.Proofs.Editor.Results

/-!
# Messages on the wire

Commands and events are exchanged as lines of text.  Each of them comes back from its line, whatever
it holds (`Host.messages_round_trip`), and a line holds no line break.  So a command that is passed
on as its line is carried out as that command: trimming takes nothing away from a text between
braces.

A message is an object with one field, its name, or the name alone if it has no content.  The two
proofs of `roundTrip` go through the messages one by one, and each case picks the content of its
name and puts its fields together; printing, reading and layout are behind `Json.RoundTrip`.
-/

namespace LanguageBridge

open Json (Plain PlainFields RoundTrip Tagged)

/-- A text that neither starts nor ends with a blank is not changed by trimming. -/
theorem Text.trimList_of_solid {c d : Char} {inner : List Char} (first : isBlank c = false)
    (last : isBlank d = false) : trimList (c :: inner ++ [d]) = c :: inner ++ [d] := by
  rw [trimList, List.cons_append, List.dropWhile_cons_of_neg (by simp [first]), List.reverse_cons,
    List.reverse_append, List.reverse_singleton, List.singleton_append, List.cons_append,
    List.dropWhile_cons_of_neg (by simp [last])]
  simp

namespace Host

/-- Every command comes back from its written form. -/
theorem Command.roundTrip : RoundTrip toJson decoder where
  plain := fun command => by
    cases command with
    | setText text => exact .named (.text _) _
    | setCursor place => exact .named (Editor.Position.roundTrip.plain _) _
    | setEndpoint endpoint => exact .named (.text _) _
    | setHeader header => exact .named (.text _) _
    | getHeader => exact .nameOnly _
    | completion place => exact .named (Editor.Position.roundTrip.plain _) _
    | hover place => exact .named (Editor.Position.roundTrip.plain _) _
    | signatureHelp place => exact .named (Editor.Position.roundTrip.plain _) _
    | destroy => exact .nameOnly _
  decode := fun source command => by
    cases command with
    | setText text => exact Tagged.decoder_named rfl (RoundTrip.text.map _ source _)
    | setCursor place => exact Tagged.decoder_named rfl (Editor.Position.roundTrip.map _ source _)
    | setEndpoint endpoint => exact Tagged.decoder_named rfl (RoundTrip.text.map _ source _)
    | setHeader header => exact Tagged.decoder_named rfl (RoundTrip.text.map _ source _)
    | getHeader => exact Tagged.decoder_nameOnly rfl rfl
    | completion place => exact Tagged.decoder_named rfl (Editor.Position.roundTrip.map _ source _)
    | hover place => exact Tagged.decoder_named rfl (Editor.Position.roundTrip.map _ source _)
    | signatureHelp place => exact Tagged.decoder_named rfl (Editor.Position.roundTrip.map _ source _)
    | destroy => exact Tagged.decoder_nameOnly rfl rfl

theorem Event.roundTrip : RoundTrip toJson decoder where
  plain := fun event => by
    cases event with
    | currentText text => exact .named (.text _) _
    | currentCursor place => exact .named (Editor.Position.roundTrip.plain _) _
    | currentHeader header => exact .named (.text _) _
    | completion suggestions => exact .named (Editor.Suggestions.roundTrip.plain _) _
    | hover result =>
        cases result with
        | none => exact .named .null _
        | some result => exact .named (Editor.Hover.roundTrip.plain _) _
    | signatureHelp result => exact .named (Editor.SignatureHelp.roundTrip.plain _) _
    | warning text => exact .named (.text _) _
  decode := fun source event => by
    cases event with
    | currentText text => exact Tagged.decoder_named rfl (RoundTrip.text.map _ source _)
    | currentCursor place => exact Tagged.decoder_named rfl (Editor.Position.roundTrip.map _ source _)
    | currentHeader header => exact Tagged.decoder_named rfl (RoundTrip.text.map _ source _)
    | completion suggestions =>
        exact Tagged.decoder_named rfl (Editor.Suggestions.roundTrip.map _ source _)
    | hover result =>
        cases result with
        | none => exact Tagged.decoder_named (v := .null) rfl rfl
        | some result =>
            refine Tagged.decoder_named (v := result.toJson) rfl ?_
            exact congrArg (Except.map hover)
              (Editor.Hover.roundTrip.optional (fun _ => rfl) source result)
    | signatureHelp result =>
        exact Tagged.decoder_named rfl (Editor.SignatureHelp.roundTrip.map _ source _)
    | warning text => exact Tagged.decoder_named rfl (RoundTrip.text.map _ source _)

/-! ## Lines -/

/-- The line of a command stands between braces. -/
theorem Command.line_eq (c : Command) :
    ∃ inner, c.line = String.ofList ('\x7b' :: inner ++ ['\x7d']) := by
  have braces : ∃ fields, c.toJson = .object fields := by
    cases c <;> exact ⟨_, rfl⟩
  obtain ⟨fields, own⟩ := braces
  obtain ⟨inner, printed⟩ := Json.print_object fields
  exact ⟨inner, by rw [Command.line, Json.compact, own, printed]⟩

theorem Command.ofLine_line (c : Command) : Command.ofLine c.line = .ok c := by
  rw [Command.ofLine, Command.line, Json.compact, String.toList_ofList]
  exact Command.roundTrip.decodeText_print c

/-- A command that is passed on as its line is carried out as that command. -/
theorem Bridge.handleLine_line (b : Bridge) (c : Command) : b.handleLine c.line = b.handle c := by
  obtain ⟨inner, braces⟩ := c.line_eq
  have trimmed : Text.trim c.line = c.line := by
    rw [Text.trim, braces, String.toList_ofList, Text.trimList_of_solid (by decide) (by decide)]
  have solid : c.line.isEmpty = false := by
    simp [braces]
  rw [handleLine, trimmed]
  simp only [solid, Command.ofLine_line]
  rfl

/-- What there is to say of a command and an event that are exchanged as lines. -/
structure Exchanged (c : Command) (e : Event) : Prop where
  /-- A command comes back from its line. -/
  command : Command.ofLine c.line = .ok c
  /-- So does an event. -/
  event : Json.decodeText Event.decoder e.line.toList = .ok e
  /-- Neither line holds a character below the space, and so no line break. -/
  oneLine : Json.OneLine c.line.toList ∧ Json.OneLine e.line.toList
  unbroken : '\n' ∉ c.line.toList ∧ '\r' ∉ c.line.toList ∧ '\n' ∉ e.line.toList ∧
    '\r' ∉ e.line.toList
  /-- Any bridge carries out the line of a command as that command. -/
  carriedOut : ∀ b : Bridge, b.handleLine c.line = b.handle c

/-- Messages come back from their lines, whatever they hold, and a bridge understands the line of a
command. -/
theorem messages_round_trip (c : Command) (e : Event) : Exchanged c e := by
  have commandLine : Json.OneLine c.line.toList := by
    rw [Command.line, Json.compact, String.toList_ofList]
    exact (Command.roundTrip.plain c).oneLine
  have eventLine : Json.OneLine e.line.toList := by
    rw [Event.line, Json.compact, String.toList_ofList]
    exact (Event.roundTrip.plain e).oneLine
  have absent {text : List Char} {d : Char} (line : Json.OneLine text) (low : d.toNat < 0x20) :
      d ∉ text := fun mem => Nat.not_lt.2 (line d mem) low
  exact {
    command := c.ofLine_line
    event := by
      rw [Event.line, Json.compact, String.toList_ofList]
      exact Event.roundTrip.decodeText_print e
    oneLine := ⟨commandLine, eventLine⟩
    unbroken := ⟨absent commandLine (by decide), absent commandLine (by decide),
      absent eventLine (by decide), absent eventLine (by decide)⟩
    carriedOut := fun b => b.handleLine_line c }

example : (Command.setText "a\"\\\n\x01é").line
    = "\x7b\"name\":\"set_text\",\"value\":\"a\\\"\\\\\\n\\u0001é\"\x7d" := by
  decide +kernel

end Host
end LanguageBridge
