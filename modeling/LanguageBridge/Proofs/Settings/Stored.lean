import LanguageBridge.Proofs.Editor.Results
import LanguageBridge.Settings.Location

/-!
# Stored settings

Settings that have been stored are loaded again as they were, whatever they hold and whatever server
the environment names: every field is written, so that none is taken from the standard settings
(`Settings.load_saved`).

A file is bytes.  Text that is written out as UTF-8 is read back character by character
(`Settings.fileChars_toUTF8`), so the rest is the round trip of the layout with indentation.
-/

namespace LanguageBridge

open Json (Decoder Fields PlainFields RoundTrip)

theorem ReconnectSettings.roundTrip : RoundTrip toJson decoder where
  plain := fun _ => PlainFields.object (.cons (RoundTrip.word64.plain _)
    (.cons (RoundTrip.word64.plain _) (.cons (RoundTrip.word64.plain _) .nil)))
  decode := fun source _ =>
    Decoder.record_of_gives ((((Fields.gives_withDefault .word64 rfl _).map _).seq
      (Fields.gives_withDefault .word64 rfl _)).seq (Fields.gives_withDefault .word64 rfl _)) _ source

namespace Settings

/-- Settings come back from their written form, whichever server the environment names. -/
theorem roundTrip (environment : Option String) : RoundTrip toJson (decoder environment) where
  plain := fun _ => PlainFields.object (.cons (.text _) (.cons (.text _) (.cons (.text _)
    (.cons (ReconnectSettings.roundTrip.plain _) (.cons (RoundTrip.word64.plain _)
      (.cons (RoundTrip.word64.plain _) (.cons (RoundTrip.word64.plain _)
        (.cons (Editor.Snippet.roundTrip.list.plain _) .nil))))))))
  decode := fun source _ => by
    unfold decoder
    refine Decoder.record_of_gives (((((((((Fields.gives_withDefault .text ?_ _).map mk).seq
      (Fields.gives_withDefault .text ?_ _)).seq (Fields.gives_withDefault .text ?_ _)).seq
      (Fields.gives_withDefault ReconnectSettings.roundTrip ?_ _)).seq
      (Fields.gives_withDefault .word64 ?_ _)).seq (Fields.gives_withDefault .word64 ?_ _)).seq
      (Fields.gives_withDefault .word64 ?_ _)).seq
      (Fields.gives_withDefault Editor.Snippet.roundTrip.list ?_ _)) _ source
    all_goals rfl

/-- A text is read from its bytes. -/
theorem fileChars_toUTF8 (text : String) : fileChars text.toUTF8 = text.toList := by
  have read : String.fromUTF8? text.toUTF8 = some text := dif_pos text.isValidUTF8
  rw [fileChars, read]

theorem ofText_toText (environment : Option String) (s : Settings) :
    ofText environment s.toText.toList = .ok s := by
  rw [ofText, toText, Json.pretty, String.toList_ofList]
  exact (roundTrip environment).decodeText_printIndented 0 s

theorem text_of_save {t : Tree} {path text : String} {s : Settings}
    (saved : save t path s = .ok text) : text = s.toText := by
  unfold save at saved
  simp only [] at saved
  split at saved
  · cases saved
  · split at saved
    · exact (Except.ok.inj saved).symm
    · cases saved

/-- Settings that could be stored at some place are loaded from there as they were: what the file
holds decodes to them, and nothing is taken from the environment. -/
theorem load_saved (environment : Option String) {t : Tree} {path text : String} {s : Settings}
    (saved : save t path s = .ok text) :
    ofText environment (fileChars text.toUTF8) = .ok s ∧
      load environment (some text.toUTF8) = s := by
  have read : ofText environment (fileChars text.toUTF8) = .ok s := by
    rw [fileChars_toUTF8, text_of_save saved, ofText_toText]
  exact ⟨read, by rw [load, read]⟩

/-- Settings that differ from the standard ones. -/
def unusual : Settings where
  host := "example:1"
  languageId := "\"\\\n\x00"
  documentUri := ""
  reconnect := ⟨0, 18446744073709551615, 1⟩
  healthCheckIntervalMs := 18446744073709551615
  handshakeTimeoutMs := 0
  requestTimeoutMs := 1
  snippets := [⟨"for", "for é in x:\n\t", none⟩, ⟨"", "", some "loop"⟩]

/-- Control characters, quotes and the greatest numbers come back as well. -/
theorem unusual_load_saved : save ⟨[], []⟩ "bridge/config.json" unusual = .ok unusual.toText ∧
    load (some "other:2") (some unusual.toText.toUTF8) = unusual := by
  have saved : save ⟨[], []⟩ "bridge/config.json" unusual = .ok unusual.toText := by
    rfl
  exact ⟨saved, (load_saved (some "other:2") saved).2⟩

end Settings
end LanguageBridge
