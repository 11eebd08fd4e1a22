import LanguageBridge.Proofs.Json.Shapes
import LanguageBridge.Proofs.Settings.Stored

/-!
# Partial settings

A file may hold any part of the settings.  `Settings.IsSettings` says what a draft stands for, field
by field: a field that is not given counts as its own default, and the delays between attempts have
defaults of their own within the settings.  A file that holds some fields of given settings, in any
order and beside fields that are not known, stands for these settings with the default of each field
that is left out (`Settings.Partly.isSettings`).

A file that is no record of settings counts as if it were not there, and nothing is taken from it,
whatever else it holds (`Settings.load_fieldwise`).

## Three levels

* Drafts: `columns` lists the fields of a record with their shapes, and `Shown` what each of them
  stands for.  `decodes` says of each record that its decoder does exactly this.
* Parts: `Key` names a field that may be left out, and `fill` gives what is then in its place.
  `Partly` is the relation between settings, the keys that are left out, and a draft; fields come as
  a permutation, so their order is no part of it.
* Files: a file is bytes, its characters stand for a draft or for nothing, and loading is decoding
  that falls back to the standard settings as a whole.

The default of the server's address is taken from the environment, which is a parameter throughout.
-/

namespace LanguageBridge

open Json

/-! ## What drafts stand for -/

namespace Editor.Snippet

/-- The fields of a snippet. -/
def columns : List (String × Bool × Shape) :=
  [("label", true, .text), ("insertText", true, .text), ("documentation", false, .optional .text)]

/-- A snippet, by what is given for its fields. -/
structure Shown (e : Entries) (s : Snippet) : Prop where
  label : Given IsText (e "label" 0) s.label
  insertText : Given IsText (e "insertText" 1) s.insertText
  documentation : GivenOr none (IsOptional IsText) (e "documentation" 2) s.documentation

/-- A draft that stands for a snippet. -/
def IsSnippet (d : Draft) (s : Snippet) : Prop := ∃ e, Gives columns.length d e ∧ Shown e s

theorem decodes : Decodes decoder (.record columns) IsSnippet := by
  refine decodes_record (Fields.Tells.congr ((((Fields.tells_required decodes_text "label").map mk).seq
    (Fields.tells_required decodes_text "insertText")).seq
    (Fields.tells_withDefault decodes_text.optional "documentation" none)) fun e s => ⟨?_, ?_⟩) "Snippet"
  · rintro ⟨_, _, ⟨_, _, ⟨_, label, rfl⟩, insertText, rfl⟩, documentation, rfl⟩
    exact ⟨label, insertText, documentation⟩
  · rintro ⟨label, insertText, documentation⟩
    exact ⟨_, _, ⟨_, _, ⟨_, label, rfl⟩, insertText, rfl⟩, documentation, rfl⟩

end Editor.Snippet

namespace ReconnectSettings

/-- The fields of the delays. -/
def columns : List (String × Bool × Shape) :=
  [("base_delay_ms", false, .word64), ("max_delay_ms", false, .word64), ("force_delay_ms", false, .word64)]

/-- The delays, by what is given for their fields. -/
structure Shown (e : Entries) (r : ReconnectSettings) : Prop where
  baseDelayMs : GivenOr 1000 IsWord (e "base_delay_ms" 0) r.baseDelayMs
  maxDelayMs : GivenOr 30000 IsWord (e "max_delay_ms" 1) r.maxDelayMs
  forceDelayMs : GivenOr 500 IsWord (e "force_delay_ms" 2) r.forceDelayMs

/-- A draft that stands for delays. -/
def IsReconnect (d : Draft) (r : ReconnectSettings) : Prop := ∃ e, Gives columns.length d e ∧ Shown e r

/-- Delays are decoded as what they show, each with its own default. -/
theorem decodes : Decodes decoder (.record columns) IsReconnect := by
  refine decodes_record (Fields.Tells.congr
    ((((Fields.tells_withDefault decodes_word64 "base_delay_ms" _).map mk).seq
      (Fields.tells_withDefault decodes_word64 "max_delay_ms" _)).seq
      (Fields.tells_withDefault decodes_word64 "force_delay_ms" _)) fun e r => ⟨?_, ?_⟩) "ReconnectConfig"
  · rintro ⟨_, _, ⟨_, _, ⟨_, base, rfl⟩, most, rfl⟩, forced, rfl⟩
    exact ⟨base, most, forced⟩
  · rintro ⟨base, most, forced⟩
    exact ⟨_, _, ⟨_, _, ⟨_, base, rfl⟩, most, rfl⟩, forced, rfl⟩

end ReconnectSettings

namespace Settings

/-- The fields of the settings. -/
def columns : List (String × Bool × Shape) :=
  [("lsp_host", false, .text), ("language_id", false, .text), ("document_uri", false, .text),
    ("reconnect", false, .record ReconnectSettings.columns), ("health_check_interval_ms", false, .word64),
    ("handshake_timeout_ms", false, .word64), ("request_timeout_ms", false, .word64),
    ("snippets", false, .list (.record Editor.Snippet.columns))]

/-- The settings, by what is given for their fields. -/
structure Shown (environment : Option String) (e : Entries) (s : Settings) : Prop where
  host : GivenOr (environment.getD localHost) IsText (e "lsp_host" 0) s.host
  languageId : GivenOr "python" IsText (e "language_id" 1) s.languageId
  documentUri : GivenOr "inmemory://model.py" IsText (e "document_uri" 2) s.documentUri
  reconnect : GivenOr ⟨1000, 30000, 500⟩ ReconnectSettings.IsReconnect (e "reconnect" 3) s.reconnect
  healthCheckIntervalMs : GivenOr 5000 IsWord (e "health_check_interval_ms" 4) s.healthCheckIntervalMs
  handshakeTimeoutMs : GivenOr 10000 IsWord (e "handshake_timeout_ms" 5) s.handshakeTimeoutMs
  requestTimeoutMs : GivenOr 10000 IsWord (e "request_timeout_ms" 6) s.requestTimeoutMs
  snippets : GivenOr [] (IsList Editor.Snippet.IsSnippet) (e "snippets" 7) s.snippets

/-- A draft that stands for settings. -/
def IsSettings (environment : Option String) (d : Draft) (s : Settings) : Prop :=
  ∃ e, Gives columns.length d e ∧ Shown environment e s

/-- Settings are decoded as what they show, each field with its own default. -/
theorem decodes (environment : Option String) :
    Decodes (decoder environment) (.record columns) (IsSettings environment) := by
  refine decodes_record (Fields.Tells.congr
    (((((((((Fields.tells_withDefault decodes_text "lsp_host" _).map mk).seq
      (Fields.tells_withDefault decodes_text "language_id" _)).seq
      (Fields.tells_withDefault decodes_text "document_uri" _)).seq
      (Fields.tells_withDefault ReconnectSettings.decodes "reconnect" _)).seq
      (Fields.tells_withDefault decodes_word64 "health_check_interval_ms" _)).seq
      (Fields.tells_withDefault decodes_word64 "handshake_timeout_ms" _)).seq
      (Fields.tells_withDefault decodes_word64 "request_timeout_ms" _)).seq
      (Fields.tells_withDefault Editor.Snippet.decodes.list "snippets" _)) fun e s => ⟨?_, ?_⟩)
    "BridgeConfig"
  · rintro ⟨_, _, ⟨_, _, ⟨_, _, ⟨_, _, ⟨_, _, ⟨_, _, ⟨_, _, ⟨_, host, rfl⟩, language, rfl⟩, uri, rfl⟩,
      reconnect, rfl⟩, health, rfl⟩, handshake, rfl⟩, request, rfl⟩, snippets, rfl⟩
    exact ⟨host, language, uri, reconnect, health, handshake, request, snippets⟩
  · rintro ⟨host, language, uri, reconnect, health, handshake, request, snippets⟩
    exact ⟨_, _, ⟨_, _, ⟨_, _, ⟨_, _, ⟨_, _, ⟨_, _, ⟨_, _, ⟨_, host, rfl⟩, language, rfl⟩, uri, rfl⟩,
      reconnect, rfl⟩, health, rfl⟩, handshake, rfl⟩, request, rfl⟩, snippets, rfl⟩

/-! ## Parts of settings -/

/-- A field of the settings or of the delays within them. -/
inductive Key where
  | host
  | languageId
  | documentUri
  | reconnect
  | baseDelay
  | maxDelay
  | forceDelay
  | healthCheckInterval
  | handshakeTimeout
  | requestTimeout
  | snippets
  deriving DecidableEq, Repr

/-- The name of a field. -/
def Key.name : Key → String
  | .host => "lsp_host"
  | .languageId => "language_id"
  | .documentUri => "document_uri"
  | .reconnect => "reconnect"
  | .baseDelay => "base_delay_ms"
  | .maxDelay => "max_delay_ms"
  | .forceDelay => "force_delay_ms"
  | .healthCheckInterval => "health_check_interval_ms"
  | .handshakeTimeout => "handshake_timeout_ms"
  | .requestTimeout => "request_timeout_ms"
  | .snippets => "snippets"

/-- Delays with some fields replaced by their defaults. -/
def fillDelays (omitted : List Key) (r : ReconnectSettings) : ReconnectSettings where
  baseDelayMs := if .baseDelay ∈ omitted then 1000 else r.baseDelayMs
  maxDelayMs := if .maxDelay ∈ omitted then 30000 else r.maxDelayMs
  forceDelayMs := if .forceDelay ∈ omitted then 500 else r.forceDelayMs

/-- Settings with some fields replaced by their defaults. -/
def fill (environment : Option String) (omitted : List Key) (s : Settings) : Settings where
  host := if .host ∈ omitted then environment.getD localHost else s.host
  languageId := if .languageId ∈ omitted then "python" else s.languageId
  documentUri := if .documentUri ∈ omitted then "inmemory://model.py" else s.documentUri
  reconnect := if .reconnect ∈ omitted then ⟨1000, 30000, 500⟩ else fillDelays omitted s.reconnect
  healthCheckIntervalMs := if .healthCheckInterval ∈ omitted then 5000 else s.healthCheckIntervalMs
  handshakeTimeoutMs := if .handshakeTimeout ∈ omitted then 10000 else s.handshakeTimeoutMs
  requestTimeoutMs := if .requestTimeout ∈ omitted then 10000 else s.requestTimeoutMs
  snippets := if .snippets ∈ omitted then [] else s.snippets

/-- A field with its value, unless it is left out. -/
def piece (omitted : List Key) (key : Key) (d : Draft) : List (Option String × Draft) :=
  if key ∈ omitted then [] else [(some key.name, d)]

/-- The fields of delays that are not left out. -/
def delayPieces (omitted : List Key) (r : ReconnectSettings) : List (Option String × Draft) :=
  piece omitted .baseDelay (.number (some (.natural r.baseDelayMs.toNat)))
    ++ piece omitted .maxDelay (.number (some (.natural r.maxDelayMs.toNat)))
    ++ piece omitted .forceDelay (.number (some (.natural r.forceDelayMs.toNat)))

/-- The fields of settings that are not left out. -/
def pieces (omitted : List Key) (s : Settings) (reconnect snippets : Draft) :
    List (Option String × Draft) :=
  piece omitted .host (.text (some s.host)) ++ piece omitted .languageId (.text (some s.languageId))
    ++ piece omitted .documentUri (.text (some s.documentUri)) ++ piece omitted .reconnect reconnect
    ++ piece omitted .healthCheckInterval (.number (some (.natural s.healthCheckIntervalMs.toNat)))
    ++ piece omitted .handshakeTimeout (.number (some (.natural s.handshakeTimeoutMs.toNat)))
    ++ piece omitted .requestTimeout (.number (some (.natural s.requestTimeoutMs.toNat)))
    ++ piece omitted .snippets snippets

/-- Fields with names of their own, none of which is a name of a record. -/
def Unknown (columns : List (String × Bool × Shape)) (fields : List (Option String × Draft)) : Prop :=
  ∀ f ∈ fields, ∃ name, f.1 = some name ∧ ∀ c ∈ columns, c.1 ≠ name

/-- An object that holds the fields of settings that are not left out, in some order and beside
fields that are not known. -/
inductive Partly (s : Settings) (omitted : List Key) : Draft → Prop
  | object {given delays others otherDelays : List (Option String × Draft)} {snippets : Draft}
      (fields : given.Perm (s.pieces omitted (.object delays) snippets ++ others))
      (within : delays.Perm (delayPieces omitted s.reconnect ++ otherDelays))
      (listed : IsList Editor.Snippet.IsSnippet snippets s.snippets)
      (unknown : Unknown columns others) (unknownWithin : Unknown ReconnectSettings.columns otherDelays) :
      Partly s omitted (.object given)

section Pieces

variable {omitted : List Key} {others given : List (Option String × Draft)}
  {known : List (String × Bool × Shape)}

/-- What is given in two parts of an object is given in order. -/
theorem ofObject_append (front back : List (Option String × Draft)) (name : String) (place : ℕ) :
    Entries.ofObject (front ++ back) name place
      = Entries.ofObject front name place ++ Entries.ofObject back name place := by
  simp [Entries.ofObject]

/-- A piece gives its own field, unless that is left out. -/
theorem ofObject_piece (key : Key) (d : Draft) (name : String) (place : ℕ) :
    Entries.ofObject (piece omitted key d) name place
      = if key.name = name then if key ∈ omitted then [] else [d] else [] := by
  unfold piece Entries.ofObject
  split <;> split <;> simp [*]

/-- Fields that are not known give nothing for one that is. -/
theorem ofObject_unknown (unknown : Unknown known others) {name : String}
    (mem : name ∈ known.map Prod.fst) (place : ℕ) : Entries.ofObject others name place = [] := by
  obtain ⟨c, known, rfl⟩ := List.mem_map.1 mem
  rw [Entries.ofObject, List.map_eq_nil_iff, List.filter_eq_nil_iff]
  intro f given
  obtain ⟨name, named, other⟩ := unknown f given
  simpa [named] using (other c known).symm

theorem named_piece (key : Key) (d : Draft) : ∀ f ∈ piece omitted key d, f.1 ≠ none := by
  unfold piece
  split <;> simp

theorem Unknown.named (unknown : Unknown known others) : ∀ f ∈ others, f.1 ≠ none := by
  intro f mem
  obtain ⟨name, named, -⟩ := unknown f mem
  simp [named]

/-- A field that is given unless it is left out. -/
theorem givenOr_fill {α : Type} {means : Draft → α → Prop} {fields : List (Option String × Draft)}
    (perm : given.Perm fields) (key : Key) {d : Draft} {place : ℕ}
    (own : Entries.ofObject fields key.name place = if key ∈ omitted then [] else [d]) {default a : α}
    (meant : means d a) :
    GivenOr default means (Entries.ofObject given key.name place)
      (if key ∈ omitted then default else a) := by
  have same : (Entries.ofObject given key.name place).Perm (if key ∈ omitted then [] else [d]) :=
    own ▸ (perm.filter _).map _
  split
  case isTrue left =>
    rw [if_pos left, List.perm_nil] at same
    exact .inl ⟨same, rfl⟩
  case isFalse kept =>
    rw [if_neg kept, List.perm_singleton] at same
    exact .inr ⟨d, same, meant⟩

/-- Delays of which some fields are left out have their defaults for them. -/
theorem isReconnect_fillDelays {r : ReconnectSettings}
    (within : given.Perm (delayPieces omitted r ++ others))
    (unknown : Unknown ReconnectSettings.columns others) :
    ReconnectSettings.IsReconnect (.object given) (fillDelays omitted r) := by
  have named : ∀ f ∈ given, f.1 ≠ none := by
    simp only [within.mem_iff, delayPieces, List.forall_mem_append]
    refine ⟨?_, unknown.named⟩
    and_intros <;> exact named_piece _ _
  refine ⟨_, .object named, givenOr_fill within .baseDelay ?_ rfl, givenOr_fill within .maxDelay ?_ rfl,
    givenOr_fill within .forceDelay ?_ rfl⟩
  all_goals
    simp [delayPieces, ofObject_append, ofObject_piece, ofObject_unknown unknown, Key.name,
      ReconnectSettings.columns]

/-- An object that holds a part of settings stands for them, with the default of each field that is
left out. -/
theorem Partly.isSettings {s : Settings} {d : Draft} (partly : s.Partly omitted d)
    (environment : Option String) : IsSettings environment d (s.fill environment omitted) := by
  obtain @⟨given, _, _, _, _, fields, within, listed, unknown, unknownWithin⟩ := partly
  have delays := isReconnect_fillDelays within unknownWithin
  have named : ∀ f ∈ given, f.1 ≠ none := by
    simp only [fields.mem_iff, pieces, List.forall_mem_append]
    refine ⟨?_, unknown.named⟩
    and_intros <;> exact named_piece _ _
  refine ⟨_, .object named, givenOr_fill fields .host ?_ rfl, givenOr_fill fields .languageId ?_ rfl,
    givenOr_fill fields .documentUri ?_ rfl, givenOr_fill fields .reconnect ?_ delays,
    givenOr_fill fields .healthCheckInterval ?_ rfl, givenOr_fill fields .handshakeTimeout ?_ rfl,
    givenOr_fill fields .requestTimeout ?_ rfl, givenOr_fill fields .snippets ?_ listed⟩
  all_goals
    simp [pieces, ofObject_append, ofObject_piece, ofObject_unknown unknown, Key.name, columns]

end Pieces

/-! ## Files -/

/-- A file that stands for settings is loaded as these. -/
theorem load_of_isSettings {environment : Option String} {file : ByteArray} {d : Draft} {s : Settings}
    (stands : Stands (fileChars file) d) (meant : IsSettings environment d s) :
    load environment (some file) = s := by
  have read : ofText environment (fileChars file) = .ok s :=
    (decodes environment).decodeText_eq_ok_iff.2 ⟨d, stands, meant⟩
  rw [load, read]

/-- A file that does not is loaded as if there were none. -/
theorem load_of_unreadable (environment : Option String) {file : ByteArray}
    (unreadable : Unreadable (.record columns) (fileChars file)) :
    load environment (some file) = standard environment := by
  have refused := (decodes environment).unreadable_iff.1 unreadable
  cases read : ofText environment (fileChars file) with
  | error fault => rw [load, read]
  | ok s => exact absurd read (refused s)

/-- The compact layout of a plain value stands for it. -/
theorem stands_compact {v : Json} (plain : Plain v) : Stands (fileChars v.compact.toUTF8) (draft v) := by
  rw [fileChars_toUTF8, compact, String.toList_ofList]
  exact ⟨[], plain.reads_print.readDraft, rfl⟩

/-- So does the layout with indentation, in which files are saved. -/
theorem stands_pretty {v : Json} (plain : Plain v) : Stands (fileChars v.pretty.toUTF8) (draft v) := by
  rw [fileChars_toUTF8, pretty, String.toList_ofList]
  exact ⟨[], (plain.reads_printIndented 0).readDraft, rfl⟩

/-- A file that holds a part of some settings is loaded as these settings, with its own default for
each field that is left out, and so is an object in either of its layouts.  A file that is
unreadable, because it is no JSON, or goes on behind it, or has something wrong with a field or
within one, is loaded as the standard settings, and every other file as what it stands for, field by
field.  A value that is `null` is wrong unless it may be. -/
theorem load_fieldwise (environment : Option String) :
    (∀ (s : Settings) (omitted : List Key) (file : ByteArray) (d : Draft),
      Stands (fileChars file) d → s.Partly omitted d →
        load environment (some file) = s.fill environment omitted) ∧
    (∀ (s : Settings) (omitted : List Key) (fields : List (String × Json)), PlainFields fields →
      s.Partly omitted (draft (.object fields)) →
        ∀ text ∈ [(Json.object fields).compact, (Json.object fields).pretty],
          load environment (some text.toUTF8) = s.fill environment omitted) ∧
    (∀ file, Unreadable (.record columns) (fileChars file) →
      load environment (some file) = standard environment) ∧
    (∀ file, ¬Unreadable (.record columns) (fileChars file) →
      ∃ d, Stands (fileChars file) d ∧ IsSettings environment d (load environment (some file))) ∧
    ∀ shape : Shape, (∀ inner, shape ≠ .optional inner) → shape.Misfit .null := by
  refine ⟨fun s omitted file d stands partly =>
    load_of_isSettings stands (partly.isSettings environment), ?_,
    fun file unreadable => load_of_unreadable environment unreadable, ?_,
    fun _ solid => Shape.misfit_null solid⟩
  · intro s omitted fields each partly text mem
    have stands : Stands (fileChars text.toUTF8) (draft (.object fields)) := by
      rcases List.mem_pair.1 mem with rfl | rfl
      · exact stands_compact (.object each)
      · exact stands_pretty (.object each)
    exact load_of_isSettings stands (partly.isSettings environment)
  · intro file readable
    rw [(decodes environment).unreadable_iff] at readable
    push Not at readable
    obtain ⟨s, read⟩ := readable
    obtain ⟨d, stands, meant⟩ := (decodes environment).decodeText_eq_ok_iff.1 read
    exact ⟨d, stands, by rwa [load_of_isSettings stands meant]⟩

/-- A file with a language, one of the delays and two fields that are not known. -/
def languageOnly : List (String × Json) :=
  [("theme", .null), ("reconnect", .object [("jitter", .null), ("max_delay_ms", .nat 5000)]),
    ("language_id", .text "rust")]

/-- A file of one field, and everything else from the standard settings. -/
theorem languageOnly_load :
    load (some "other:2") (some (Json.object languageOnly).pretty.toUTF8)
        = { standard (some "other:2") with languageId := "rust", reconnect := ⟨1000, 5000, 500⟩ } ∧
      load (some "other:2") (some Json.null.compact.toUTF8) = standard (some "other:2") := by
  obtain ⟨-, printed, unreadable, -, null⟩ := load_fieldwise (some "other:2")
  constructor
  · have plain : PlainFields languageOnly :=
      .cons .null (.cons (PlainFields.object (.cons .null (.cons (.nat (by decide)) .nil)))
        (.cons (.text _) .nil))
    have partly : { standard none with languageId := "rust", reconnect := ⟨0, 5000, 0⟩ }.Partly
        [.host, .documentUri, .baseDelay, .forceDelay, .healthCheckInterval, .handshakeTimeout,
          .requestTimeout, .snippets] (draft (.object languageOnly)) := by
      refine @Partly.object _ _ _ _ [(some "theme", .null)] [(some "jitter", .null)] _
        (List.reverse_perm _).symm (List.reverse_perm _).symm ⟨_, rfl, .nil⟩ ?_ ?_
      · simp [Unknown, columns]
      · simp [Unknown, ReconnectSettings.columns]
    exact printed _ _ _ plain partly _ (List.mem_pair.2 (.inr rfl))
  · exact unreadable _ (.misfit (stands_compact .null) (null _ nofun))

end Settings
end LanguageBridge
