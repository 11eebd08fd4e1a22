import LanguageBridge.Proofs.Client.Standing
import LanguageBridge.Proofs.Host.Documents
import LanguageBridge.Proofs.Host.Wire
import Mathlib.Data.List.Chain
import Mathlib.Data.List.DropRight

/-!
# The host can mirror the bridge

The bridge keeps a document and, as the preamble of its client, a header.  The host does not see
either of them, only the echoes among the events.  `echoes_mirror` says that they are enough, after
any run in which nobody but the bridge sets the preamble: the last echo of a kind tells what the
bridge has, and a host that sends it back gets what it has already.

Two things carry this.  Whatever the client does, it only adds events that answer requests
(`Client.System.Answering`), so it echoes nothing.  And a header that has been normalized stands for
itself (`normalizeHeader_eq_some`): it is trimmed, and the line break that was put behind it is
trimmed away again before another one is put there.

## The invariant

`Mirrors texts headers document preamble` is about lists of echoes alone, and `Bridge.Told` about
those among the events of a bridge.  An echo of a text is made only for a change, so no two texts in
a row are the same; an echo of a header is made for every command that sets or asks for it, so
headers may repeat.  That is why `Mirrors.text` asks for a change and `Mirrors.again` allows
repetition.
-/

namespace LanguageBridge

/-! ## Trimming

Headers are trimmed at both ends and given one line break.  That this can be done twice without a
change is a fact about lists of characters. -/

namespace Text

theorem trimList_eq (cs : List Char) :
    trimList cs = (cs.dropWhile isBlank).rdropWhile isBlank := rfl

/-- Nothing but blanks is trimmed away altogether. -/
theorem trimList_eq_nil {cs : List Char} : trimList cs = [] ↔ ∀ c ∈ cs, isBlank c = true := by
  rw [trimList_eq, List.rdropWhile_eq_nil_iff]
  constructor
  · intro dropped c mem
    rw [← List.takeWhile_append_dropWhile (p := isBlank) (l := cs)] at mem
    rcases List.mem_append.1 mem with front | back
    · exact List.mem_takeWhile_imp front
    · exact dropped c back
  · exact fun blank c mem => blank c ((List.dropWhile_sublist _).subset mem)

/-- A text is trimmed to nothing if there is nothing but blanks in it. -/
theorem isEmpty_trim {text : String} :
    (trim text).isEmpty = true ↔ ∀ c ∈ text.toList, isBlank c = true := by
  rw [← trimList_eq_nil, trim, String.isEmpty_iff, ← String.toList_eq_nil_iff,
    String.toList_ofList]

/-- What has been trimmed is trimmed to the same with a blank behind it. -/
theorem trimList_concat {cs : List Char} {c : Char} (some : trimList cs ≠ [])
    (blank : isBlank c = true) : trimList (trimList cs ++ [c]) = trimList cs := by
  have first : (trimList cs ++ [c]).dropWhile isBlank = trimList cs ++ [c] := by
    obtain ⟨rest, own⟩ : trimList cs <+: cs.dropWhile isBlank := List.rdropWhile_prefix _ _
    have nonempty : cs.dropWhile isBlank ≠ [] := by
      intro none
      rw [none] at own
      exact some (List.append_eq_nil_iff.1 own).1
    have head := List.head_dropWhile_not isBlank nonempty
    simp only [← own, List.head_append_of_ne_nil some] at head
    obtain ⟨d, inner, trimmed⟩ := List.exists_cons_of_ne_nil some
    simp only [trimmed, List.head_cons] at head
    rw [trimmed, List.cons_append, List.dropWhile_cons_of_neg (by simp [head])]
  have last : (trimList cs).rdropWhile isBlank = trimList cs := List.rdropWhile_idempotent _ _
  rw [trimList_eq (trimList cs ++ [c]), first, List.rdropWhile_concat_pos _ _ _ blank, last]

end Text

/-! ## What the client tells

The events of a client and those of its bridge are in one list.  An echo is never an answer, so
what the client adds can be skipped. -/

namespace Client.System

variable {s t u : System}

/-- A system has gone on, and the only events are answers to requests. -/
def Answering (s t : System) : Prop :=
  ∃ answers, t.events = s.events ++ answers ∧ ∀ e ∈ answers, e.feature?.isSome

namespace Answering

theorem of_front (same : t.front = s.front) : Answering s t :=
  ⟨[], by rw [List.append_nil]; exact congrArg Front.events same, nofun⟩

theorem trans (first : Answering s t) (second : Answering t u) : Answering s u := by
  obtain ⟨answers, told, plain⟩ := first
  obtain ⟨more, told', plain'⟩ := second
  refine ⟨answers ++ more, by rw [told', told, List.append_assoc], fun e mem => ?_⟩
  exact (List.mem_append.1 mem).elim (plain e) (plain' e)

/-- A request that is over adds its answer, if the host made it. -/
theorem finishRequest (s : System) (r : Request) (answer : Editor.Answer) :
    Answering s (s.finishRequest r answer) := by
  have shown := congrArg Front.events (front_finishRequest s r answer)
  refine ⟨_, shown.trans (events_answered s r answer), fun e mem => ?_⟩
  split at mem
  · rw [List.mem_singleton.1 mem, Host.Event.feature?_ofAnswer]
    rfl
  · cases mem

/-- What follows from an outcome may show signature help. -/
theorem conclude (s : System) (r : Request) (c : Nat) (lines : UInt32) (outcome : Outcome) :
    Answering s (s.conclude r c lines outcome).2 := by
  unfold System.conclude
  split
  · exact of_front (front_requestFailed s c _)
  · split
    · exact of_front (front_requestFailed s c _)
    · rename_i help _
      refine ⟨_, events_observe s help, fun e mem => ?_⟩
      split at mem
      · rw [List.mem_singleton.1 mem]
        rfl
      · cases mem
    · exact of_front rfl

theorem settleRequest (s : System) (r : Request) (c : Nat) (lines : UInt32) (outcome : Outcome) :
    Answering s (s.settleRequest r c lines outcome) :=
  (conclude s r c lines outcome).trans (finishRequest _ r _)

/-- A request that is sent adds nothing, or ends at once. -/
theorem sendRequest (s : System) (r : Request) (c : Nat) (lines : UInt32) :
    Answering s (s.sendRequest r c lines) := by
  unfold System.sendRequest
  simp only []
  rcases (s.connection c).session.call (s.connection c).link s.now _ _ _ with ⟨call, session, link⟩
  have told : Answering s (s.exchange c session link) := of_front (front_exchange s c session link)
  cases call with
  | «over» outcome => exact told.trans (settleRequest _ r c lines outcome)
  | waiting id due => exact told.trans ⟨[], (List.append_nil _).symm, nofun⟩

theorem openDocument (s : System) (r : Request) (c : Nat) : Answering s (s.openDocument r c) := by
  have told := front_notify s c (.didOpen s.state.options.documentUri
    (s.connection c).session.languageId (Preamble.inFrontOf s.state.preamble r.text))
  unfold System.openDocument
  simp only []
  split
  · rename_i t failed
    rw [failed] at told
    exact (of_front told).trans (finishRequest t r _)
  · rename_i t sent
    rw [sent] at told
    exact (of_front told).trans (sendRequest t r c _)

theorem startRequest (s : System) (r : Request) : Answering s (s.startRequest r) := by
  have looked := front_validSession s
  unfold System.startRequest
  split
  · exact finishRequest s r _
  · split
    · rename_i t valid
      rw [valid] at looked
      exact (of_front looked).trans (finishRequest t r _)
    · rename_i c t valid
      rw [valid] at looked
      split
      · exact (of_front looked).trans (openDocument t r c)
      · exact (of_front looked).trans (finishRequest t r _)

theorem runRequest (s : System) (number : Nat) : Answering s (s.runRequest number) := by
  unfold System.runRequest
  split
  · exact of_front rfl
  · split
    · exact startRequest s _
    · simp only []
      rcases (s.connection _).session.resume s.now _ _ with ⟨call, session⟩
      cases call with
      | «over» outcome => exact (of_front rfl).trans (settleRequest _ _ _ _ outcome)
      | waiting id due => exact of_front rfl

end Answering

/-- Whatever happens to a client, it only answers requests. -/
theorem answering_act (s : System) (a : Action) : Answering s (s.act a) := by
  by_cases runs : ∃ number, a = .run (.request number)
  · obtain ⟨number, rfl⟩ := runs
    exact .runRequest s number
  · refine ⟨[], ?_, nofun⟩
    rw [List.append_nil]
    cases a with
    | ask origin feature target text place => rfl
    | _ =>
        exact congrArg Front.events
          (s.front_act (fun number own => runs ⟨number, own⟩) fun _ _ _ _ _ => nofun)

end Client.System

namespace Host

open Client (Action System)

/-! ## Echoes -/

/-- The text of the document that an event echoes. -/
def Event.text? : Event → Option String
  | .currentText text => some text
  | .currentCursor _ => none
  | .currentHeader _ => none
  | .completion _ => none
  | .hover _ => none
  | .signatureHelp _ => none
  | .warning _ => none

/-- The header that an event echoes. -/
def Event.header? : Event → Option String
  | .currentHeader header => some header
  | .currentText _ => none
  | .currentCursor _ => none
  | .completion _ => none
  | .hover _ => none
  | .signatureHelp _ => none
  | .warning _ => none

/-- The preamble that a header in an echo stands for; an empty one stands for none. -/
def preambleOf (header : String) : Option String := if header = "" then none else some header

namespace Bridge

/-- The texts of the document that a bridge has echoed, the oldest one first. -/
def texts (b : Bridge) : List String := b.system.events.filterMap Event.text?

/-- The headers that a bridge has echoed, the oldest one first. -/
def headers (b : Bridge) : List String := b.system.events.filterMap Event.header?

@[simp] theorem texts_emit (b : Bridge) (e : Event) :
    (b.emit e).texts = b.texts ++ e.text?.toList := by
  simp [texts, emit, having, List.filterMap_cons]
  cases e.text? <;> rfl

@[simp] theorem headers_emit (b : Bridge) (e : Event) :
    (b.emit e).headers = b.headers ++ e.header?.toList := by
  simp [headers, emit, having, List.filterMap_cons]
  cases e.header? <;> rfl

end Bridge

/-! ## Headers -/

theorem normalizeHeader_of_nil {text : String} (blank : Text.trimList text.toList = []) :
    normalizeHeader text = none := by
  rw [normalizeHeader, blank]

/-- Any other header is trimmed, and ends with one line break. -/
theorem normalizeHeader_of_ne_nil {text : String} (solid : Text.trimList text.toList ≠ []) :
    normalizeHeader text = some (String.ofList (Text.trimList text.toList ++ ['\n'])) := by
  unfold normalizeHeader
  split
  · rename_i blank
    exact absurd blank solid
  · rfl

/-- A header that has been normalized stands for itself. -/
theorem normalizeHeader_eq_some {text header : String}
    (normal : normalizeHeader text = some header) :
    header ≠ "" ∧ normalizeHeader header = some header := by
  by_cases blank : Text.trimList text.toList = []
  · cases (normalizeHeader_of_nil blank).symm.trans normal
  · obtain rfl := Option.some.inj ((normalizeHeader_of_ne_nil blank).symm.trans normal)
    refine ⟨by simp, ?_⟩
    have same := Text.trimList_concat (c := '\n') blank (by decide)
    have solid : Text.trimList
        (String.ofList (Text.trimList text.toList ++ ['\n'])).toList ≠ [] := by
      rwa [String.toList_ofList, same]
    rw [normalizeHeader_of_ne_nil solid, String.toList_ofList, same]

/-- The echo of a header, sent back, stands for the same preamble as the header. -/
theorem normalizeHeader_echo (text : String) :
    preambleOf ((normalizeHeader text).getD "") = normalizeHeader text ∧
      normalizeHeader ((normalizeHeader text).getD "") = normalizeHeader text := by
  cases normal : normalizeHeader text with
  | none => exact ⟨rfl, rfl⟩
  | some header =>
      obtain ⟨solid, same⟩ := normalizeHeader_eq_some normal
      exact ⟨if_neg solid, same⟩

/-! ## What echoes tell

The invariant, one lemma for each way in which a bridge echoes. -/

/-- Echoes that tell which document and which preamble there are. -/
structure Mirrors (texts headers : List String) (document : String) (preamble : Option String) :
    Prop where
  /-- The document is the text that was echoed last, and empty at first. -/
  document : document = texts.getLast?.getD ""
  /-- The preamble is the one that the header stands for that was echoed last. -/
  preamble : preamble = headers.getLast?.bind preambleOf
  /-- A text is echoed only if it differs from the one before. -/
  changes : ("" :: texts).IsChain (· ≠ ·)
  /-- A header that was echoed is normal: it stands for itself. -/
  normal : ∀ header ∈ headers, normalizeHeader header = preambleOf header

namespace Mirrors

variable {texts headers : List String} {document : String} {preamble : Option String}

/-- Another text is echoed. -/
theorem text (mirrors : Mirrors texts headers document preamble) {text : String}
    (other : document ≠ text) : Mirrors (texts ++ [text]) headers text preamble where
  document := by simp
  preamble := mirrors.preamble
  changes := by
    rw [← List.cons_append, List.isChain_append]
    refine ⟨mirrors.changes, List.isChain_singleton text, ?_⟩
    rintro before last after ⟨⟩
    -- The text before is the document.
    have same : before = document := by
      rw [List.getLast?_cons] at last
      exact (Option.some.inj last).symm.trans mirrors.document.symm
    rwa [same]
  normal := mirrors.normal

/-- A header is echoed when the preamble is set, and when it is asked for. -/
theorem header (mirrors : Mirrors texts headers document preamble) {header : String}
    {later : Option String} (told : later = preambleOf header)
    (normal : normalizeHeader header = preambleOf header) :
    Mirrors texts (headers ++ [header]) document later where
  document := mirrors.document
  preamble := by simpa using told
  changes := mirrors.changes
  normal := by
    intro other mem
    rcases List.mem_append.1 mem with before | own
    · exact mirrors.normal other before
    · rw [List.mem_singleton.1 own]
      exact normal

/-- The preamble that the echoes tell, echoed again. -/
theorem again (mirrors : Mirrors texts headers document preamble) :
    Mirrors texts (headers ++ [preamble.getD ""]) document preamble := by
  have told : preamble = preambleOf (preamble.getD "") ∧
      normalizeHeader (preamble.getD "") = preambleOf (preamble.getD "") := by
    have shown := mirrors.preamble
    cases last : headers.getLast? with
    | none =>
        rw [last] at shown
        rw [shown]
        exact ⟨rfl, rfl⟩
    | some header =>
        rw [last, Option.bind_some] at shown
        have normal := mirrors.normal header (List.mem_of_getLast? last)
        by_cases empty : header = ""
        · rw [preambleOf, if_pos empty] at shown
          rw [shown]
          exact ⟨rfl, rfl⟩
        · rw [preambleOf, if_neg empty] at shown
          rw [shown]
          exact ⟨(if_neg empty).symm, normal⟩
  exact mirrors.header told.1 told.2

end Mirrors

/-- The echoes of a bridge tell what it has. -/
def Bridge.Told (b : Bridge) : Prop :=
  Mirrors b.texts b.headers b.document b.system.state.preamble

namespace Bridge.Told

variable {b : Bridge}

/-- An event that is no echo. -/
theorem emit (told : b.Told) {e : Event} (text : e.text? = none) (header : e.header? = none) :
    (b.emit e).Told := by
  unfold Told
  rw [texts_emit, headers_emit, text, header, Option.toList_none, List.append_nil, List.append_nil]
  exact told

/-- Nobody but the bridge echoes anything. -/
theorem act (told : b.Told) {a : Action} (other : ∀ preamble, a ≠ .setPreamble preamble) :
    (b.having (·.act a)).Told := by
  obtain ⟨answers, shown, plain⟩ := b.system.answering_act a
  have mute : answers.filterMap Event.text? = [] ∧ answers.filterMap Event.header? = [] := by
    refine ⟨List.filterMap_eq_nil_iff.2 fun e mem => ?_,
      List.filterMap_eq_nil_iff.2 fun e mem => ?_⟩ <;>
    · have answer := plain e mem
      cases e <;> first | rfl | cases answer
  have texts : (b.having (·.act a)).texts = b.texts := by
    show (b.system.act a).events.filterMap Event.text? = _
    rw [shown, List.filterMap_append, mute.1, List.append_nil, texts]
  have headers : (b.having (·.act a)).headers = b.headers := by
    show (b.system.act a).events.filterMap Event.header? = _
    rw [shown, List.filterMap_append, mute.2, List.append_nil, headers]
  have preamble : (b.system.act a).state.preamble = b.system.state.preamble := by
    have same := congrArg Client.Configuration.preamble (b.system.configuration_act a)
    refine same.trans ?_
    cases a with
    | setPreamble preamble => exact absurd rfl (other preamble)
    | destroy =>
        rw [Client.System.configured]
        split <;> rfl
    | _ => rfl
  unfold Told
  rw [texts, headers]
  exact preamble ▸ told

theorem handle (told : b.Told) (c : Command) : (b.handle c).2.Told := by
  cases c with
  | setText text =>
      show (b.setText text).Told
      unfold setText
      split
      · exact told
      · rename_i other
        unfold Told
        rw [texts_emit, headers_emit, Event.header?, Option.toList_none, List.append_nil]
        exact Mirrors.text told other
  | setCursor place => exact Told.emit (b := { b with cursor := place }) told rfl rfl
  | setEndpoint endpoint =>
      show (b.setEndpoint endpoint).Told
      unfold setEndpoint
      split
      · exact told.emit rfl rfl
      · exact told.act (a := .setEndpoint endpoint) (fun _ => nofun)
  | setHeader header =>
      obtain ⟨stands, normal⟩ := normalizeHeader_echo header
      show (b.setHeader header).Told
      unfold setHeader Told
      rw [texts_emit, headers_emit, Event.text?, Option.toList_none, List.append_nil]
      exact Mirrors.header told stands.symm (normal.trans stands.symm)
  | getHeader =>
      show (b.emit _).Told
      unfold Told
      rw [texts_emit, headers_emit, Event.text?, Option.toList_none, List.append_nil]
      exact Mirrors.again told
  | completion place =>
      exact Told.act (b := { b with cursor := place })
        (a := .ask .host .completion _ b.document place) told (fun _ => nofun)
  | hover place =>
      exact told.act (a := .ask .host .hover _ b.document place) (fun _ => nofun)
  | signatureHelp place =>
      exact Told.act (b := { b with cursor := place })
        (a := .ask .host .signatureHelp _ b.document place) told (fun _ => nofun)
  | destroy => exact told.act (a := .destroy) (fun _ => nofun)

/-- Every deed does, unless somebody else sets the preamble. -/
theorem deed (told : b.Told) {d : Deed} (other : ∀ preamble, d ≠ .client (.setPreamble preamble)) :
    (b.act d).Told := by
  cases d with
  | client a => exact told.act fun preamble same => other preamble (congrArg Deed.client same)
  | command c => exact told.handle c
  | line text =>
      show (b.handleLine text).2.Told
      unfold handleLine
      simp only []
      split
      · exact told
      · split
        · exact told.handle _
        · exact told.emit rfl rfl

theorem acts (told : b.Told) {deeds : List Deed}
    (alone : ∀ d ∈ deeds, ∀ preamble, d ≠ .client (.setPreamble preamble)) :
    (b.acts deeds).Told := by
  induction deeds using List.reverseRecOn with
  | nil => exact told
  | append_singleton deeds d ih =>
      rw [acts_concat]
      refine (ih fun d mem => alone d (List.mem_append_left _ mem)).deed ?_
      exact alone d (List.mem_append_right _ (List.mem_singleton_self d))

/-- The document that has been echoed, sent back, is no change. -/
theorem setText_last (told : b.Told) {text : String} (last : b.texts.getLast? = some text) :
    b.handle (.setText text) = (.goesOn, b) := by
  have same : b.document = text := by
    rw [told.document, last]
    rfl
  rw [Bridge.handle, setText, if_pos same]

/-- A header that has been echoed, sent back, is set as it stands, and echoed once more. -/
theorem setHeader_echoed (told : b.Told) {header : String} (echoed : header ∈ b.headers) :
    b.handle (.setHeader header)
      = (.goesOn, (b.having (·.setPreamble (preambleOf header))).emit (.currentHeader header)) := by
  have echo : (preambleOf header).getD "" = header := by
    rw [preambleOf]
    split
    · rename_i empty
      exact empty.symm
    · rfl
  rw [Bridge.handle, setHeader, told.normal header echoed]
  simp only [echo]

/-- If it is the last one, nothing else happens. -/
theorem setHeader_last (told : b.Told) {header : String}
    (last : b.headers.getLast? = some header) :
    b.handle (.setHeader header) = (.goesOn, b.emit (.currentHeader header)) := by
  have shown : b.system.state.preamble = preambleOf header := by
    rw [told.preamble, last]
    rfl
  rw [told.setHeader_echoed (List.mem_of_getLast? last), ← shown]
  rfl

end Bridge.Told

/-! ## The host

What the host concludes from the last echo of either kind. -/

/-- What a host can rely on that has seen the events of a bridge. -/
structure Mirror (b : Bridge) : Prop where
  /-- The document is the text that was echoed last, and empty if none was. -/
  document : b.document = b.texts.getLast?.getD ""
  /-- The preamble is the header that was echoed last, an empty one standing for none; and there is
  none if no header was echoed. -/
  preamble : b.system.state.preamble =
    b.headers.getLast?.bind fun header => if header = "" then none else some header
  /-- No text is echoed twice in a row, nor the empty one first. -/
  changes : ("" :: b.texts).IsChain (· ≠ ·)
  /-- The text that was echoed last may be sent back, and nothing happens. -/
  textBack : ∀ text, b.texts.getLast? = some text →
    b.handleLine (Command.setText text).line = (.goesOn, b)
  /-- The header that was echoed last may be sent back; it is echoed once more. -/
  headerBack : ∀ header, b.headers.getLast? = some header →
    b.handleLine (Command.setHeader header).line = (.goesOn, { b with
      system := { b.system with events := b.system.events ++ [.currentHeader header] } })
  /-- So may any header that was ever echoed, and it is set as it stands. -/
  headerStands : ∀ header ∈ b.headers,
    b.handleLine (Command.setHeader header).line = (.goesOn, { b with
      system := { b.system with
        state := { b.system.state with preamble := if header = "" then none else some header }
        events := b.system.events ++ [.currentHeader header] } })
  /-- A line that is no command leads to one warning. -/
  garbage : ∀ line fault, (∃ c ∈ line.toList, Text.isBlank c = false) →
    Command.ofLine (Text.trim line) = .error fault →
    b.handleLine line = (.goesOn, { b with
      system := { b.system with
        events := b.system.events ++ [.warning ("unrecognized message: " ++ fault.message)] } })
  blank : ∀ line : String, (∀ c ∈ line.toList, Text.isBlank c = true) →
    b.handleLine line = (.goesOn, b)

theorem Bridge.Told.mirror {b : Bridge} (told : b.Told) : Mirror b where
  document := told.document
  preamble := told.preamble
  changes := told.changes
  textBack := fun text last => by rw [b.handleLine_line, told.setText_last last]
  headerBack := fun header last => by
    rw [b.handleLine_line, told.setHeader_last last]
    rfl
  headerStands := fun header echoed => by
    rw [b.handleLine_line, told.setHeader_echoed echoed]
    rfl
  garbage := by
    rintro line fault ⟨c, mem, solid⟩ garbage
    have some : (Text.trim line).isEmpty ≠ true := by
      rw [Ne, Text.isEmpty_trim]
      exact fun blank => absurd (blank c mem) (by simp [solid])
    rw [Bridge.handleLine]
    simp only [if_neg some, garbage]
    rfl
  blank := fun line blank => by
    rw [Bridge.handleLine]
    simp only [if_pos (Text.isEmpty_trim.2 blank)]

/-- Whatever the host sends to a bridge, and whatever its client does, as long as nobody else sets
the preamble: the echoes tell the document and the preamble, what has been echoed may be sent back,
and lines that are no commands change nothing. -/
theorem echoes_mirror {system : System} (unset : system.state.preamble = none)
    (unseen : system.events = []) {deeds : List Deed}
    (alone : ∀ d ∈ deeds, ∀ preamble, d ≠ .client (.setPreamble preamble)) :
    Mirror ((Bridge.fresh system).acts deeds) := by
  have told : (Bridge.fresh system).Told := by
    have texts : (Bridge.fresh system).texts = [] := congrArg (List.filterMap Event.text?) unseen
    have headers : (Bridge.fresh system).headers = [] :=
      congrArg (List.filterMap Event.header?) unseen
    unfold Bridge.Told
    rw [texts, headers]
    exact ⟨rfl, unset, List.isChain_singleton "", nofun⟩
  exact (told.acts alone).mirror

/-- A host that sets a text twice and a header with blanks around it, and then sends a line that is
no command. -/
def twiceSet : List Deed :=
  [.line "\x7b\"name\":\"set_text\",\"value\":\"a\"\x7d", .command (.setText "a"), .line " ",
    .client (.connect "one"), .command (.setHeader "  h  "), .line "no command"]

theorem twiceSet_mirror :
    Mirror ((Bridge.fresh (.fresh .standard)).acts twiceSet) ∧
      ((Bridge.fresh (.fresh .standard)).acts twiceSet).texts = ["a"] ∧
      ((Bridge.fresh (.fresh .standard)).acts twiceSet).headers = ["h\n"] :=
  ⟨echoes_mirror rfl rfl (by simp [twiceSet]), by decide +kernel, by decide +kernel⟩

end Host
end LanguageBridge
