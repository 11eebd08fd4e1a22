import LanguageBridge.Proofs.Retry.Chronicle

/-!
# The history of a slot determines its timers

`Sound` says what a slot and its timers are, given their history: retries are numbered from one in
the order in which they are armed; the pending retry is the one armed last, unless it was revoked or
claimed; and the timers that are running are those of the retries that have neither been revoked nor
fired.  Every deed keeps this (`Sound.act`), and `Orderly` says what it means for whoever uses a
slot.

## The step

A deed adds one or two events, and for each event there is a lemma: `Sound.arm`, `Sound.revoke`,
`Sound.claim`, `Sound.fire`, and `Sound.of_eq` for a deed that adds none.  A retry that is armed in
place of another one is first a revocation and then an arming, and a timer that elapses with the
slot in hand first fires and then claims.  The order matters in one clause only: who has lost the
slot before does not fire.

Both ways to arm a retry are treated as one.  `Arms` says what they have in common, which is that
the new retry gets the next token and the slot.
-/

namespace LanguageBridge.Rehearsal

/-- A way to arm a retry: it takes the next token and the slot. -/
structure Arms (how : Retry → Retry.Armed × Retry) : Prop where
  token : ∀ r, (how r).1.token = r.issued + 1
  issued : ∀ r, (how r).2.issued = r.issued + 1
  pending : ∀ r, (how r).2.pending = some (r.issued + 1)

/-- A list without repetitions, with something new behind it. -/
theorem nodup_concat {α : Type} {l : List α} {a : α} (distinct : l.Nodup) (new : a ∉ l) :
    (l ++ [a]).Nodup := by
  rw [List.nodup_append]
  refine ⟨distinct, by simp, ?_⟩
  intro b mem c single
  rw [List.mem_singleton.1 single]
  rintro rfl
  exact new mem

theorem arms_backoff : Arms Retry.scheduleBackoff := ⟨fun _ => rfl, fun _ => rfl, fun _ => rfl⟩

theorem arms_forced : Arms Retry.scheduleForced := ⟨fun _ => rfl, fun _ => rfl, fun _ => rfl⟩

namespace RetryStage

variable {s : RetryStage} {token : Nat}

/-! ## The slot and its timers

What the operations on a slot do, read off the slot alone.  A token that is not the pending one
claims nothing, whoever comes with it. -/

/-- The slot is claimed with the token of the pending retry and with no other. -/
theorem complete_iff : (s.complete token).1 = .flag true ↔ s.pending? = some token := by
  unfold complete pending?
  cases s.retry with
  | none => simp
  | some r => simp [Retry.claim_iff]

/-- A timer gets the slot if it was set up to claim it and its retry is the pending one. -/
theorem claim?_iff : (s.claim? token).map Prod.fst = some true ↔
    token ∈ s.claiming ∧ s.pending? = some token := by
  unfold claim? pending?
  split
  · rename_i claims
    cases s.retry with
    | none => simp
    | some r => simp [claims, Retry.claim_iff]
  · rename_i leaves
    simp [leaves]

/-- A timer is due when it is running and its time has come. -/
theorem isDue_iff : s.isDue token = true ↔
    ∃ due, Timer.mk due token ∈ s.agenda.timers ∧ due ≤ s.agenda.now := by
  rw [isDue, List.any_eq_true]
  constructor
  · rintro ⟨t, mem, h⟩
    rw [Bool.and_eq_true, decide_eq_true_iff, decide_eq_true_iff] at h
    obtain ⟨rfl, due⟩ := h
    exact ⟨t.due, mem, due⟩
  · rintro ⟨due, mem, reached⟩
    exact ⟨_, mem, by simp [reached]⟩

theorem sublist_stopPending (s : RetryStage) :
    s.stopPending.agenda.timers.Sublist s.agenda.timers := by
  unfold stopPending
  split
  · exact List.filter_sublist
  · exact List.Sublist.refl _

@[simp] theorem now_stopPending (s : RetryStage) : s.stopPending.agenda.now = s.agenda.now := by
  unfold stopPending
  split <;> rfl

@[simp] theorem fired_stopPending (s : RetryStage) : s.stopPending.fired = s.fired := by
  unfold stopPending
  split <;> rfl

/-- The slot after it was claimed with a token. -/
theorem pending_claim (r : Retry) : (r.claim token).2.pending
    = if r.pending = some token then none else r.pending := by
  unfold Retry.claim
  split <;> rfl

theorem issued_claim (r : Retry) : (r.claim token).2.issued = r.issued := by
  unfold Retry.claim
  split <;> rfl

end RetryStage

/-! ## The invariant -/

/-- What a record of a timer that has elapsed says. -/
def Fired.event (f : Fired) : RetryEvent := .fired f.token f.time

/-- What a slot and its timers are, given their history. -/
structure Sound (s : RetryStage) (log : List RetryEvent) : Prop where
  /-- Retries are numbered in the order in which they were armed. -/
  numbered : armed log = List.range' 1 (armed log).length
  issued : ∀ r, s.retry = some r → r.issued = (armed log).length
  /-- The pending retry is the one armed last, if it has kept the slot. -/
  slot : ∀ t, s.pending? = some t ↔
    (armed log).getLast? = some t ∧ t ∉ revoked log ∧ t ∉ claimed log
  known : ∀ t, t ∈ revoked log ∨ t ∈ claimed log ∨ t ∈ fired log → t ∈ armed log
  claimed_once : (claimed log).Nodup
  fired_once : (fired log).Nodup
  /-- A timer runs until it elapses or its retry loses the slot. -/
  running : ∀ t due, Timer.mk due t ∈ s.agenda.timers ↔
    .armed t due ∈ log ∧ t ∉ fired log ∧ t ∉ revoked log
  unique : (s.agenda.timers.map Timer.task).Nodup
  /-- Who has lost the slot before does not fire. -/
  order : ∀ t, RevokedFirst log t → t ∉ fired log
  /-- The timers that have elapsed are on record. -/
  records : s.fired.map Fired.event = log.filter RetryEvent.isFired

theorem sound_fresh (backoff : Backoff) (forcedDelay : Duration) :
    Sound (.fresh backoff forcedDelay) [] where
  numbered := rfl
  issued := by
    rintro r ⟨⟩
    rfl
  slot := by
    intro t
    constructor
    · intro pending
      cases pending
    · rintro ⟨last, -⟩
      cases last
  known := by
    rintro t (mem | mem | mem) <;> cases mem
  claimed_once := List.nodup_nil
  fired_once := List.nodup_nil
  running := by
    intro t due
    constructor
    · intro mem
      cases mem
    · rintro ⟨mem, -⟩
      cases mem
  unique := List.nodup_nil
  order := by
    rintro t - mem
    cases mem
  records := rfl

namespace Sound

variable {s u : RetryStage} {log : List RetryEvent}

/-- The pending retry is known. -/
theorem pending_mem (sound : Sound s log) {t : Nat} (pending : s.pending? = some t) :
    t ∈ armed log :=
  List.mem_of_getLast? ((sound.slot t).1 pending).1

/-! ### One more event

An event concerns one retry.  All others keep what is known of them, so each lemma has two parts:
what becomes of that retry, and that its token is none of the others. -/

/-- The clock may move, and the count of failed attempts may be set back. -/
theorem of_eq (sound : Sound s log) (pending : u.pending? = s.pending?)
    (issued : ∀ r, u.retry = some r → ∃ r', s.retry = some r' ∧ r.issued = r'.issued)
    (timers : u.agenda.timers = s.agenda.timers) (fired : u.fired = s.fired) :
    Sound u log where
  numbered := sound.numbered
  issued := by
    intro r here
    obtain ⟨r', before, same⟩ := issued r here
    exact same.trans (sound.issued r' before)
  slot := by
    intro t
    rw [pending]
    exact sound.slot t
  known := sound.known
  claimed_once := sound.claimed_once
  fired_once := sound.fired_once
  running := by
    intro t due
    rw [timers]
    exact sound.running t due
  unique := by
    rw [timers]
    exact sound.unique
  order := sound.order
  records := by
    rw [fired]
    exact sound.records

/-- The pending retry, if there is one, loses the slot, and its timer is stopped. -/
theorem revoke (sound : Sound s log) (pending : u.pending? = none)
    (issued : ∀ r, u.retry = some r → ∃ r', s.retry = some r' ∧ r.issued = r'.issued)
    (timers : u.agenda.timers = s.stopPending.agenda.timers)
    (fired : u.fired = s.fired) : Sound u (log ++ s.revocations) where
  numbered := by
    simpa using sound.numbered
  issued := by
    intro r here
    obtain ⟨r', before, same⟩ := issued r here
    simpa [same] using sound.issued r' before
  slot := by
    intro t
    constructor
    · intro here
      cases pending.symm.trans here
    · rintro ⟨last, unrevoked, unclaimed⟩
      -- It would have been pending, so it was revoked just now.
      simp only [armed_append, armed_revocations, List.append_nil, revoked_append,
        revoked_revocations, claimed_append, claimed_revocations, List.mem_append, not_or,
        Option.mem_toList] at last unrevoked unclaimed
      have before := (sound.slot t).2 ⟨last, unrevoked.1, unclaimed⟩
      exact absurd before unrevoked.2
  known := by
    intro t
    simp only [armed_append, armed_revocations, List.append_nil, revoked_append,
      revoked_revocations, claimed_append, claimed_revocations, fired_append, fired_revocations,
      List.mem_append, Option.mem_toList]
    rintro ((mem | mem) | mem | mem)
    · exact sound.known t (.inl mem)
    · exact sound.pending_mem mem
    · exact sound.known t (.inr (.inl mem))
    · exact sound.known t (.inr (.inr mem))
  claimed_once := by
    simpa using sound.claimed_once
  fired_once := by
    simpa using sound.fired_once
  running := by
    intro t due
    have before := sound.running t due
    have unrevoked : RetryEvent.armed t due ∉ s.revocations := by
      simp [RetryStage.revocations]
    simp only [fired_append, fired_revocations, List.append_nil, revoked_append,
      revoked_revocations, List.mem_append, Option.mem_toList, not_or, unrevoked, or_false]
    rw [timers, RetryStage.stopPending]
    cases slot : s.pending? with
    | none => simpa using before
    | some p =>
        simp only [RetryStage.stop, Agenda.disarm, List.mem_filter, decide_eq_true_iff, before,
          Option.some.injEq]
        constructor
        · rintro ⟨⟨mem, unfired, unrevoked⟩, other⟩
          exact ⟨mem, unfired, unrevoked, fun same => other same.symm⟩
        · rintro ⟨mem, unfired, unrevoked, other⟩
          exact ⟨⟨mem, unfired, unrevoked⟩, fun same => other same.symm⟩
  order := by
    intro t first
    rw [fired_append, fired_revocations, List.append_nil]
    rcases first.append with before | ⟨unfired, -⟩
    · exact sound.order t before
    · exact unfired
  unique := by
    rw [timers]
    exact (s.sublist_stopPending.map _).nodup sound.unique
  records := by
    rw [fired, List.filter_append, filter_revocations, List.append_nil]
    exact sound.records

/-- A retry takes the slot. -/
theorem arm (sound : Sound s log) {r r' : Retry} {due : Nat} (slot : s.retry = some r)
    (retry : u.retry = some r')
    (issued : r'.issued = r.issued + 1) (pending : r'.pending = some (r.issued + 1))
    (timers : u.agenda.timers = s.agenda.timers ++ [⟨due, r.issued + 1⟩])
    (elapsed : u.fired = s.fired) :
    Sound u (log ++ [.armed (r.issued + 1) due]) := by
  have count := sound.issued r slot
  have here : u.pending? = some (r.issued + 1) := by
    rw [RetryStage.pending?, retry]
    exact pending
  -- The token is a new one.
  have fresh : r.issued + 1 ∉ armed log := by
    rw [sound.numbered, ← count, List.mem_range'_1]
    omega
  have unknown : r.issued + 1 ∉ revoked log ∧ r.issued + 1 ∉ claimed log ∧
      r.issued + 1 ∉ fired log :=
    ⟨fun mem => fresh (sound.known _ (.inl mem)), fun mem => fresh (sound.known _ (.inr (.inl mem))),
      fun mem => fresh (sound.known _ (.inr (.inr mem)))⟩
  have more : armed (log ++ [.armed (r.issued + 1) due]) = armed log ++ [r.issued + 1] := by
    rw [armed_append]
    rfl
  have same : revoked (log ++ [.armed (r.issued + 1) due]) = revoked log ∧
      claimed (log ++ [.armed (r.issued + 1) due]) = claimed log ∧
      fired (log ++ [.armed (r.issued + 1) due]) = fired log := by
    rw [revoked_append, claimed_append, fired_append]
    exact ⟨List.append_nil _, List.append_nil _, List.append_nil _⟩
  exact {
    numbered := by
      simp only [more]
      rw [List.length_append, List.length_singleton, List.range'_concat, ← sound.numbered, ← count]
      congr 2
      omega
    issued := by
      intro r'' own
      cases retry.symm.trans own
      simp only [more]
      rw [issued, List.length_append, count]
      rfl
    slot := by
      intro t
      simp only [more, same, List.getLast?_concat]
      rw [here]
      constructor
      · rintro ⟨⟩
        exact ⟨rfl, unknown.1, unknown.2.1⟩
      · exact And.left
    known := by
      intro t
      simp only [more, same]
      exact fun mem => List.mem_append_left _ (sound.known t mem)
    claimed_once := by
      simp only [same]
      exact sound.claimed_once
    fired_once := by
      simp only [same]
      exact sound.fired_once
    running := by
      intro t due'
      simp only [same]
      rw [timers, List.mem_append,
        List.mem_append, sound.running, List.mem_singleton, List.mem_singleton]
      constructor
      · rintro (⟨mem, unfired, unrevoked⟩ | own)
        · exact ⟨.inl mem, unfired, unrevoked⟩
        · cases own
          exact ⟨.inr rfl, unknown.2.2, unknown.1⟩
      · rintro ⟨mem | own, unfired, unrevoked⟩
        · exact .inl ⟨mem, unfired, unrevoked⟩
        · cases own
          exact .inr rfl
    order := by
      intro t first
      simp only [same]
      rcases first.append with before | ⟨-, mem⟩
      · exact sound.order t before
      · cases mem
    unique := by
      rw [timers, List.map_append]
      refine nodup_concat sound.unique fun
        (mem : r.issued + 1 ∈ s.agenda.timers.map Timer.task) => ?_
      obtain ⟨t, running, own⟩ := List.mem_map.1 mem
      have known : t.task ∈ armed log :=
        (mem_armed_iff _ _).2 ⟨t.due, ((sound.running t.task t.due).1 running).1⟩
      exact fresh (own ▸ known)
    records := by
      rw [elapsed, List.filter_append]
      exact sound.records.trans (List.append_nil _).symm }

/-- The slot is claimed, or not, with a token. -/
theorem claim (sound : Sound s log) {token : Nat}
    (retry : u.retry = s.retry.map fun r => (r.claim token).2)
    (timers : u.agenda.timers = s.agenda.timers) (elapsed : u.fired = s.fired) :
    Sound u (log ++ if s.pending? = some token then [.claimed token] else []) := by
  have issued : ∀ r, u.retry = some r → ∃ r', s.retry = some r' ∧ r.issued = r'.issued := by
    intro r own
    rw [retry, Option.map_eq_some_iff] at own
    obtain ⟨r', before, rfl⟩ := own
    exact ⟨r', before, RetryStage.issued_claim r'⟩
  have pending : u.pending? =
      if s.pending? = some token then none else s.pending? := by
    unfold RetryStage.pending?
    rw [retry]
    cases s.retry with
    | none => rfl
    | some r => exact RetryStage.pending_claim r
  split
  · rename_i own
    rw [if_pos own] at pending
    obtain ⟨last, unrevoked, unclaimed⟩ := (sound.slot token).1 own
    have same : armed (log ++ [.claimed token]) = armed log ∧
        revoked (log ++ [.claimed token]) = revoked log ∧
        fired (log ++ [.claimed token]) = fired log := by
      rw [armed_append, revoked_append, fired_append]
      exact ⟨List.append_nil _, List.append_nil _, List.append_nil _⟩
    have more : claimed (log ++ [.claimed token]) = claimed log ++ [token] := by
      rw [claimed_append]
      rfl
    exact {
      numbered := by
        simp only [same]
        exact sound.numbered
      issued := by
        intro r here
        obtain ⟨r', before, count⟩ := issued r here
        simp only [same]
        exact count.trans (sound.issued r' before)
      slot := by
        intro t
        simp only [same, more, List.mem_append, List.mem_singleton, not_or]
        rw [pending]
        constructor
        · intro none
          cases none
        · rintro ⟨last', -, -, other⟩
          exact absurd (Option.some.inj (last'.symm.trans last)) other
      known := by
        intro t
        simp only [same, more, List.mem_append, List.mem_singleton]
        rintro (mem | (mem | rfl) | mem)
        · exact sound.known t (.inl mem)
        · exact sound.known t (.inr (.inl mem))
        · exact List.mem_of_getLast? last
        · exact sound.known t (.inr (.inr mem))
      claimed_once := by
        simp only [more]
        exact nodup_concat sound.claimed_once unclaimed
      fired_once := by
        simp only [same]
        exact sound.fired_once
      running := by
        intro t due
        simp only [same, List.mem_append, List.mem_singleton, reduceCtorEq, or_false]
        rw [timers]
        exact sound.running t due
      order := by
        intro t first
        simp only [same]
        rcases first.append with before | ⟨-, mem⟩
        · exact sound.order t before
        · cases mem
      unique := by
        rw [timers]
        exact sound.unique
      records := by
        rw [elapsed, List.filter_append]
        exact sound.records.trans (List.append_nil _).symm }
  · rename_i other
    rw [if_neg other] at pending
    rw [List.append_nil]
    exact sound.of_eq pending issued timers elapsed

/-- A timer elapses. -/
theorem fire (sound : Sound s log) {token due : Nat} (running : ⟨due, token⟩ ∈ s.agenda.timers)
    {record : Fired} {time : Nat} (own : record.event = .fired token time)
    (retry : u.retry = s.retry)
    (timers : u.agenda.timers = (s.stop token).agenda.timers)
    (elapsed : u.fired = s.fired ++ [record]) :
    Sound u (log ++ [.fired token time]) := by
  obtain ⟨mem, unfired, unrevoked⟩ := (sound.running token due).1 running
  have pending : u.pending? = s.pending? := congrArg (Option.bind · Retry.pending) retry
  have same : armed (log ++ [.fired token time]) = armed log ∧
      revoked (log ++ [.fired token time]) = revoked log ∧
      claimed (log ++ [.fired token time]) = claimed log := by
    rw [armed_append, revoked_append, claimed_append]
    exact ⟨List.append_nil _, List.append_nil _, List.append_nil _⟩
  have more : fired (log ++ [.fired token time]) = fired log ++ [token] := by
    rw [fired_append]
    rfl
  exact {
    numbered := by
      simp only [same]
      exact sound.numbered
    issued := by
      intro r here
      simp only [same]
      exact sound.issued r (retry.symm.trans here)
    slot := by
      intro t
      simp only [same]
      rw [pending]
      exact sound.slot t
    known := by
      intro t
      simp only [same, more, List.mem_append, List.mem_singleton]
      rintro (mem' | mem' | mem' | rfl)
      · exact sound.known t (.inl mem')
      · exact sound.known t (.inr (.inl mem'))
      · exact sound.known t (.inr (.inr mem'))
      · exact (mem_armed_iff _ _).2 ⟨due, mem⟩
    claimed_once := by
      simp only [same]
      exact sound.claimed_once
    fired_once := by
      simp only [more]
      exact nodup_concat sound.fired_once unfired
    running := by
      intro t due'
      simp only [same, more, List.mem_append, List.mem_singleton, reduceCtorEq, or_false, not_or]
      rw [timers, RetryStage.stop, Agenda.disarm,
        List.mem_filter, sound.running, decide_eq_true_iff]
      constructor
      · rintro ⟨⟨mem', unfired', unrevoked'⟩, other⟩
        exact ⟨mem', ⟨unfired', other⟩, unrevoked'⟩
      · rintro ⟨mem', ⟨unfired', other⟩, unrevoked'⟩
        exact ⟨⟨mem', unfired', unrevoked'⟩, other⟩
    order := by
      intro t first
      rcases first.append with before | ⟨-, mem'⟩
      · simp only [more, List.mem_append, List.mem_singleton, not_or]
        refine ⟨sound.order t before, ?_⟩
        rintro rfl
        -- A timer that elapses was running, so its retry was not revoked.
        obtain ⟨front, back, split, -⟩ := before
        refine unrevoked ((mem_revoked_iff _ _).2 ?_)
        rw [split]
        exact List.mem_append_right front List.mem_cons_self
      · cases mem'
    unique := by
      rw [timers]
      exact (List.filter_sublist.map _).nodup sound.unique
    records := by
      rw [elapsed, List.map_append, sound.records, List.filter_append, List.map_singleton, own]
      rfl }

/-! ## Deeds

A deed is put together from events.  Which events it makes is told by the slot before it, so both
sides of each step are known at once. -/

/-- A retry takes the slot from the one that was pending. -/
theorem schedule (sound : Sound s log) {how : Retry → Retry.Armed × Retry} (arms : Arms how)
    (claims : Bool) :
    Sound (s.schedule how claims).2 (log ++ s.armings how) := by
  unfold RetryStage.schedule RetryStage.armings
  cases slot : s.retry with
  | none =>
      simp only []
      rw [List.append_nil]
      exact sound
  | some r =>
      simp only []
      have cleared : Sound { s.stopPending with retry := some r.cancel }
          (log ++ s.revocations) := by
        refine sound.revoke rfl ?_ rfl ?_
        · rintro r' ⟨⟩
          exact ⟨r, slot, rfl⟩
        · exact s.fired_stopPending
      rw [← List.append_assoc, arms.token]
      refine cleared.arm (r := r.cancel) rfl rfl (arms.issued r) (arms.pending r) ?_ rfl
      show s.stopPending.agenda.timers ++
        [⟨Duration.dueAt s.stopPending.agenda.now (how r).1.delay, (how r).1.token⟩] = _
      rw [s.now_stopPending, arms.token r]
      rfl

/-- A slot that is cancelled revokes its pending retry, if there is one. -/
theorem cancel (sound : Sound s log) : Sound s.cancel.2 (log ++ s.revocations) := by
  unfold RetryStage.cancel
  cases slot : s.retry with
  | none =>
      have vacant : s.revocations = [] := by
        simp [RetryStage.revocations, RetryStage.pending?, slot]
      rw [vacant, List.append_nil]
      exact sound
  | some r =>
      refine sound.revoke rfl ?_ rfl ?_
      · rintro r' ⟨⟩
        exact ⟨r, slot, rfl⟩
      · exact s.fired_stopPending

/-- Setting back the count leaves no trace in the history. -/
theorem reset (sound : Sound s log) : Sound { s with retry := s.retry.map Retry.reset } log := by
  refine sound.of_eq ?_ ?_ rfl rfl
  · unfold RetryStage.pending?
    cases s.retry <;> rfl
  · intro r own
    obtain ⟨r', before, rfl⟩ := Option.map_eq_some_iff.1 own
    exact ⟨r', before, rfl⟩

/-- Somebody completes a retry, or tries to. -/
theorem complete (sound : Sound s log) (token : Nat) : Sound (s.complete token).2
    (log ++ if (s.complete token).1 = .flag true then [.claimed token] else []) := by
  simp only [RetryStage.complete_iff]
  refine sound.claim ?_ ?_ ?_
  · unfold RetryStage.complete
    cases slot : s.retry with
    | none => exact slot
    | some r => rfl
  · unfold RetryStage.complete
    split <;> rfl
  · unfold RetryStage.complete
    split <;> rfl

/-- A timer comes to run, whether or not its time has come: if it has, it elapses, and after that
the slot may be claimed. -/
theorem elapse (sound : Sound s log) (token : Nat) :
    Sound (s.elapse token) (log ++ s.events (.elapse token)) := by
  show Sound (s.elapse token) (log ++ if s.isDue token then _ else [])
  unfold RetryStage.elapse
  split
  · rename_i due
    obtain ⟨end', running, -⟩ := RetryStage.isDue_iff.1 due
    rw [← List.singleton_append, ← List.append_assoc]
    let record : Fired :=
      ⟨token, s.agenda.now, (s.claim? token).map Prod.fst⟩
    have fired : Sound { s.stop token with fired := s.fired ++ [record] }
        (log ++ [.fired token s.agenda.now]) :=
      sound.fire running rfl rfl rfl rfl
    simp only [RetryStage.claim?_iff]
    by_cases claims : token ∈ s.claiming
    · simp only [claims, true_and]
      refine fired.claim ?_ rfl rfl
      show ((s.claim? token).map Prod.snd).or s.retry
        = s.retry.map fun r => (r.claim token).2
      rw [RetryStage.claim?, if_pos claims]
      cases s.retry <;> rfl
    · simp only [claims, false_and, if_false, List.append_nil]
      refine fired.of_eq ?_ ?_ rfl rfl
      · simp [RetryStage.pending?, RetryStage.claim?, claims, RetryStage.stop]
      · intro r own
        refine ⟨r, ?_, rfl⟩
        show s.retry = some r
        simpa [RetryStage.claim?, claims] using own
  · rw [List.append_nil]
    exact sound

/-- **Every deed keeps a slot sound with its history.** -/
theorem act (sound : Sound s log) (d : RetryDeed) :
    Sound (s.deed d) (log ++ s.events d) := by
  cases d with
  | backoff claims => exact sound.schedule arms_backoff claims
  | forced claims => exact sound.schedule arms_forced claims
  | cancel => exact sound.cancel
  | reset =>
      show Sound _ (log ++ [])
      rw [List.append_nil]
      exact sound.reset
  | complete token => exact sound.complete token
  | drop => exact sound.revoke rfl nofun rfl s.fired_stopPending
  | wait time =>
      show Sound (s.wait time) (log ++ [])
      rw [List.append_nil]
      exact sound.of_eq rfl (fun r own => ⟨r, own, rfl⟩) rfl rfl
  | elapse token => exact sound.elapse token

end Sound

/-- However a slot is used, its history determines what it and its timers are. -/
theorem Chronicle.sound (backoff : Backoff) (forcedDelay : Duration) (deeds : List RetryDeed) :
    Sound ((fresh backoff forcedDelay).acts deeds).stage
      ((fresh backoff forcedDelay).acts deeds).log :=
  acts_keep (P := fun c => Sound c.stage c.log) (fun _ d _ sound => sound.act d)
    (sound_fresh backoff forcedDelay)

end LanguageBridge.Rehearsal
