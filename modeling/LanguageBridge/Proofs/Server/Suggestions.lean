import LanguageBridge.Proofs.Json.RoundTrip
import LanguageBridge.Server.Reply

/-!
# Suggestions of a server

A server replies with its suggestions as a bare list, or wrapped in an object under the name
`items`.  Both are alternatives of one reply: a list is tried first, and an object is no list, so
neither shape is ever taken for the other.  `CompletionReply.items_of_carries` says that whatever
suggestions there are, of whatever contents and in whatever number, both shapes give exactly them.

Every suggestion can be sent: its written form is read back (`CompletionItem.roundTrip`).
-/

namespace LanguageBridge.Server

open Json (Decoder Fields PlainFields RoundTrip draft draftItems under under_append under_cons
  under_field?)

/-! ## What suggestions are made of -/

theorem Position.roundTrip : RoundTrip toJson decoder where
  plain := fun _ =>
    PlainFields.object (.cons (RoundTrip.word32.plain _) (.cons (RoundTrip.word32.plain _) .nil))
  decode := fun source _ =>
    Decoder.record_of_gives (((Fields.gives_required .word32 rfl).map _).seq
      (Fields.gives_required .word32 rfl)) _ source

theorem Range.roundTrip : RoundTrip toJson decoder where
  plain := fun _ => PlainFields.object
    (.cons (Position.roundTrip.plain _) (.cons (Position.roundTrip.plain _) .nil))
  decode := fun source _ =>
    Decoder.record_of_gives (((Fields.gives_required Position.roundTrip rfl).map _).seq
      (Fields.gives_required Position.roundTrip rfl)) _ source

theorem TextEdit.roundTrip : RoundTrip toJson decoder where
  plain := fun _ => PlainFields.object (.cons (Range.roundTrip.plain _) (.cons (.text _) .nil))
  decode := fun source _ =>
    Decoder.record_of_gives (((Fields.gives_required Range.roundTrip rfl).map _).seq
      (Fields.gives_required .text rfl)) _ source

theorem Markup.roundTrip : RoundTrip toJson decoder where
  plain := fun _ => PlainFields.object (.cons (.text _) (.cons (.text _) .nil))
  decode := fun source _ =>
    Decoder.record_of_gives (((Fields.gives_required .text rfl).map _).seq
      (Fields.gives_required .text rfl)) _ source

/-- A plain text is not a record, so it is not taken for a marked-up text. -/
theorem Documentation.roundTrip : RoundTrip toJson decoder where
  plain := fun d => by
    cases d with
    | markup m => exact Markup.roundTrip.plain m
    | plain s => exact .text s
  decode := fun source d => by
    cases d with
    | markup m =>
        have read := Markup.roundTrip.map Documentation.markup source m
        rw [decoder, Decoder.either, toJson, read]
    | plain s => exact Decoder.either_of_second rfl rfl

/-- Documentation that is written is never `null`, so it is told apart from none. -/
theorem Documentation.isNull_toJson (d : Documentation) : d.toJson.isNull = false := by
  cases d <;> rfl

/-- A suggestion is read from the fields that it is written with, whichever of the optional ones
there are. -/
theorem CompletionItem.roundTrip : RoundTrip toJson decoder where
  plain := fun _ => PlainFields.object <| .append (.append (.append (.append (.append (.append
    (.cons (.text _) (.field? RoundTrip.word32.plain _)) (.field? .text _))
    (.field? Documentation.roundTrip.plain _)) (.field? .text _))
    (.field? RoundTrip.word32.plain _)) (.field? TextEdit.roundTrip.plain _)) (.field? .text _)
  decode := fun source _ => by
    refine Decoder.record_of_gives ((((((((Fields.gives_required .text ?_).map _).seq
      (Fields.gives_field? .word32 (fun _ => rfl) ?_ _)).seq
      (Fields.gives_field? .text (fun _ => rfl) ?_ _)).seq
      (Fields.gives_field? Documentation.roundTrip Documentation.isNull_toJson ?_ _)).seq
      (Fields.gives_field? .text (fun _ => rfl) ?_ _)).seq
      (Fields.gives_field? .word32 (fun _ => rfl) ?_ _)).seq
      (Fields.gives_field? TextEdit.roundTrip (fun _ => rfl) ?_ _) |>.seq
      (Fields.gives_field? .text (fun _ => rfl) ?_ _)) _ source
    all_goals simp [under_cons, under_append, under_field?]

/-! ## Replies -/

namespace CompletionReply

/-- The two shapes of a reply with some suggestions: a bare list, or an object with this list under
`items` that may also say whether more of them could follow, and anything else under other names. -/
inductive Carries (values : List Json) : Json → Prop
  | bare : Carries values (.list values)
  | wrapped {fields : List (String × Json)} (items : under "items" fields = [.list values])
      (flag : under "isIncomplete" fields = [] ∨
        ∃ b, under "isIncomplete" fields = [.bool b]) : Carries values (.object fields)

variable {values : List Json} {reply : Json} {items : List CompletionItem}

/-- The suggestions of a reply are those that it carries, in either shape. -/
theorem items_of_carries (carries : Carries values reply)
    (read : List.Forall₂ (fun v i => CompletionItem.decoder.ofValue v = .ok i) values items) :
    ∃ r, decoder.ofValue reply = .ok r ∧ r.items = items := by
  have list : Decoder.list CompletionItem.decoder .value (.list (draftItems values)) = .ok items :=
    Decoder.items_of_forall₂ read
  cases carries with
  | bare =>
      refine ⟨.bare items, ?_, rfl⟩
      simp only [Decoder.ofValue, draft, decoder, Decoder.either, Decoder.map, list, Except.map]
  | @wrapped fields once flag =>
      obtain ⟨isIncomplete, given⟩ : ∃ b, (Fields.withDefault "isIncomplete" Decoder.bool
          false).ofFields .value (Json.draftFields fields) = .ok b := by
        rcases flag with never | ⟨b, given⟩
        · exact ⟨false, Fields.ofFields_of_never never⟩
        · exact ⟨b, Fields.ofFields_of_once given rfl⟩
      have wrapped : CompletionList.decoder .value (draft (.object fields))
          = .ok ⟨isIncomplete, items⟩ :=
        Decoder.fieldsOnly_pair given (Fields.ofFields_of_once once list)
      have accepted : Decoder.map CompletionReply.wrapped CompletionList.decoder .value
          (draft (.object fields)) = .ok (.wrapped ⟨isIncomplete, items⟩) := by
        rw [Decoder.map, wrapped]
        rfl
      refine ⟨.wrapped ⟨isIncomplete, items⟩, ?_, rfl⟩
      rw [Decoder.ofValue, decoder]
      exact Decoder.either_of_second rfl accepted

end CompletionReply
end LanguageBridge.Server
