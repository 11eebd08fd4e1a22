import LanguageBridge.Proofs.Client.Staleness

/-!
# Settings are pushed whole or not at all

New settings go to the server in one notification on the session in use.  Between the question
whether there is such a session and the attempt to queue the notification several things may go
wrong: the session may be stale, or its socket may not carry frames yet, which the question lets
pass and the socket does not.

## Main result

However it goes, whoever pushes the settings is told the truth (`System.settings_all_or_nothing`).
Either the notification is queued, as one frame that carries these very settings, and the client is
as it was; or nothing is queued anywhere, no session is in use any more, and what was in use is
dropped in the way of every stale session.

## How the proof goes

`updateSettings_cases` lists what the operation can come to.  That a notification is never refused
for want of a handshake is the invariant `Reachable.introduced`: the handshake on the connection in
use is over.  So a push fails only on a session that is over or on a socket that does not carry
frames.
-/

namespace LanguageBridge.Client.System

open Message (handshakeDone settingsChanged)

variable {s : System} {c : Nat}

/-- What the connections carry, and how far the attempts have come, agree in every run. -/
theorem Reachable.aligned {options : Options} (run : Reachable options s) :
    Aligned s.attempts s := by
  induction run with
  | fresh => exact .fresh options
  | act a run ih => exact (turn_act run ih a).aligned

/-- The handshake on the connection in use is over. -/
theorem Reachable.introduced {options : Options} (run : Reachable options s)
    (current : s.state.current = some c) :
    .frame handshakeDone ∈ (s.connection c).link.queued := by
  obtain ⟨later, said⟩ := run.aligned.used c current
  have mem : handshakeDone ∈ (s.connection c).said := by
    rw [said]
    exact List.mem_cons_of_mem _ List.mem_cons_self
  obtain ⟨entry, queued, own⟩ := List.mem_filterMap.1 (List.mem_filter.1 mem).1
  cases entry with
  | frame m =>
      cases own
      exact queued
  | close => cases own

/-- The ways in which a push goes. -/
theorem updateSettings_cases (lasting : s.state.destroyed = false) (settings : Json) :
    (s.state.current = none ∧ s.updateSettings settings = (.error .notConnected, s)) ∨
    (∃ c link, s.state.current = some c ∧
      (s.connection c).link.send (settingsChanged settings) = .ok link ∧
      s.updateSettings settings = (.ok (), s.exchange c (s.connection c).session link)) ∨
    (∃ c e, s.state.current = some c ∧ s.updateSettings settings = (.error e, s.recover c)) := by
  unfold updateSettings
  rw [if_neg (by simp [lasting])]
  rcases validSession_cases s with
    ⟨none, valid⟩ | ⟨c, current, usable, valid⟩ | ⟨c, e, current, stale, valid⟩ <;> rw [valid]
  · exact .inl ⟨none, rfl⟩
  · refine .inr ?_
    simp only []
    rcases notify_cases s c (settingsChanged settings) with ⟨link, sent, told⟩ | ⟨e, refused, told⟩ <;>
      rw [told]
    · exact .inl ⟨c, link, current, Session.notify_eq sent, rfl⟩
    · -- The question has let the session pass, so it is the socket that has refused.
      refine .inr ⟨c, e, current, ?_⟩
      have closed : e = .connectionClosed := by
        rw [Session.notify, show (s.connection c).session.inspect (s.connection c).link.state = .ok ()
          from usable] at refused
        simp only [Link.send] at refused
        split at refused <;> cases refused
        rfl
      rw [requestFailed, closed]
      rfl
  · exact .inr (.inr ⟨c, _, current, rfl⟩)

/-- What becomes of settings that are pushed. -/
structure AllOrNothing (s : System) (settings : Json) : Prop where
  /-- The push succeeds if one notification with these settings was queued on the session in use,
  behind the end of its handshake. -/
  delivered : (s.updateSettings settings).1 = .ok () ↔ ∃ c, s.state.current = some c ∧
    .frame (.notification "initialized" (.object [])) ∈ (s.connection c).link.queued ∧
      ((s.updateSettings settings).2.connection c).link.queued
        = (s.connection c).link.queued ++ [.frame (.notification "workspace/didChangeConfiguration"
            (.object [("settings", settings)]))]
  /-- Nothing else has happened then, neither to the client nor on any other connection. -/
  kept : (s.updateSettings settings).1 = .ok () → (s.updateSettings settings).2.state = s.state ∧
    ∀ d, s.state.current ≠ some d → (s.updateSettings settings).2.connection d = s.connection d
  /-- If it fails, nothing was queued, and no session is in use. -/
  failed : ∀ e, (s.updateSettings settings).1 = .error e → s.state.destroyed = false →
    (∀ d, ((s.updateSettings settings).2.connection d).link.queued
        = (s.connection d).link.queued) ∧
      (s.updateSettings settings).2.state.current = none
  /-- The session that was in use, if there was one, has been dropped. -/
  dropped : ∀ e, (s.updateSettings settings).1 = .error e → s.state.destroyed = false →
    ∀ c, s.state.current = some c → Dropped s (s.updateSettings settings).2 c
  destroyed : s.state.destroyed = true → s.updateSettings settings = (.error .destroyed, s)

/-- In every run, settings that are pushed reach the queue of an initialized session and the client
is as it was, or they reach nothing and no session is in use. -/
theorem settings_all_or_nothing {options : Options} (run : Reachable options s) (settings : Json) :
    AllOrNothing s settings := by
  have gone : s.state.destroyed = true → s.updateSettings settings = (.error .destroyed, s) :=
    fun destroyed => if_pos destroyed
  have grown (queued : List (Outbound Message)) (m : Message) : queued ≠ queued ++ [.frame m] :=
    fun same => nomatch List.self_eq_append_right.1 same
  cases destroyed : s.state.destroyed with
  | true =>
      refine ⟨?_, ?_, ?_, ?_, gone⟩ <;> rw [gone destroyed]
      · refine ⟨nofun, ?_⟩
        rintro ⟨c, -, -, more⟩
        exact absurd more (grown _ _)
      · exact nofun
      · exact fun _ _ lasting => nomatch destroyed.symm.trans lasting
      · exact fun _ _ lasting => nomatch destroyed.symm.trans lasting
  | false =>
      rcases updateSettings_cases destroyed settings with
        ⟨unused, told⟩ | ⟨c, link, current, sent, told⟩ | ⟨c, e, current, told⟩
      · refine ⟨?_, ?_, ?_, ?_, gone⟩ <;> rw [told]
        · refine ⟨nofun, ?_⟩
          rintro ⟨c, current, -⟩
          cases unused.symm.trans current
        · exact nofun
        · exact fun _ _ _ => ⟨fun _ => rfl, unused⟩
        · exact fun _ _ _ c current => nomatch unused.symm.trans current
      · have within : c < s.connections.length := by
          refine Nat.lt_of_not_le fun beyond => ?_
          rw [connection_of_length_le s beyond] at sent
          cases sent
        have own : (s.exchange c (s.connection c).session link).connection c
            = { s.connection c with link } := by
          rw [connection_exchange, if_pos ⟨rfl, within⟩]
        refine ⟨?_, ?_, ?_, ?_, gone⟩ <;> rw [told]
        · refine ⟨fun _ => ⟨c, current, run.introduced current, ?_⟩, fun _ => rfl⟩
          rw [own, Link.send_eq sent]
          rfl
        · refine fun _ => ⟨state_exchange s c _ link, fun d other => ?_⟩
          rw [connection_exchange, if_neg]
          rintro ⟨rfl, -⟩
          exact other current
        · exact nofun
        · exact nofun
      · have dropped := dropped_recover run current
        refine ⟨?_, ?_, ?_, ?_, gone⟩ <;> rw [told]
        · refine ⟨nofun, ?_⟩
          rintro ⟨d, -, -, more⟩
          exact absurd ((dropped.queued d).symm.trans more) (grown _ _)
        · exact nofun
        · refine fun _ _ _ => ⟨dropped.queued, ?_⟩
          rw [dropped.state]
        · rintro _ - - d there
          cases current.symm.trans there
          exact dropped

/-- A client whose socket has moved back to connecting while it serves, which no check takes for
stale. -/
def movedBack : System := (System.fresh .standard).acts
  [.connect "one", .run (.attempt 1), .connectorOpened 1 .opened, .peerFeed 0 "\x7b\"id\":1\x7d",
    .run (.reader 0), .run (.attempt 1), .updateSettings (.bool true), .peerState 0 .connecting]

/-- The settings that were pushed before have arrived, and a further push drops the session. -/
theorem movedBack_all_or_nothing :
    AllOrNothing movedBack .null ∧ movedBack.validSession.1 = some 0 ∧
      (movedBack.connection 0).link.queued
        = [.frame (.request 1 "initialize" (Message.handshakeParams 0)),
          .frame (.notification "initialized" (.object [])),
          .frame (.notification "workspace/didChangeConfiguration"
            (.object [("settings", .bool true)]))] ∧
      Dropped movedBack (movedBack.updateSettings .null).2 0 := by
  have whole : AllOrNothing movedBack .null :=
    settings_all_or_nothing (Reachable.fresh.acts _ : Reachable .standard movedBack) .null
  have refused : (movedBack.updateSettings .null).1 = .error .connectionClosed := by
    decide +kernel
  exact ⟨whole, by decide +kernel, by decide +kernel,
    whole.dropped _ refused (by decide +kernel) 0 (by decide +kernel)⟩

end LanguageBridge.Client.System
