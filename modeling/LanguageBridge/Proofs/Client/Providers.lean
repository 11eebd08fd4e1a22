import LanguageBridge.Proofs.Client.Abandoned
import Mathlib.Data.List.Induction

/-!
# Providers come and go together

A client offers one provider for each feature of its language, and it offers them in a registry that
others use as well, for other languages.  A run is a list of `Use`s of that registry: the client
acts, or somebody else registers a provider or disposes of a handle.

`providers_as_a_unit` says that after any run the registry has a provider of the client for every
feature of its language, all of them made by the installation on record, or it has none at all; and
which of the two it is depends on whether there is such an installation and the client is still
there.

What a client has to do with providers is its `System.shelf`.  A step leaves it alone, or clears it,
or puts a fresh set on it (`Restocks`), and each of these keeps the handles and the registry in
order (`Stocked`).

## How the proof goes

* `Step.restocks` is the case analysis: of all the primitive steps of a client only the end of an
  attempt's handshake puts providers on the shelf, and only its destruction and its release take
  them off.  An attempt does its other work behind the scenes first (`Installs`).
* `Stocked` is the invariant of one step and `WellStocked` that of whole actions.  They differ in
  the clause for a client that nobody holds, which an action restores at its end but not in between.
* `Restocked` records how the shelf goes on.  It is what tells, at the end of a run, which use of
  the registry made the set that is there now (`Latest`).

## Registering before disposing

The fresh set is registered before the old handles are disposed of.  A handle that has been
superseded disposes of nothing, so the order cannot be seen in the registry, and the set is never
incomplete.
-/

namespace LanguageBridge.Client.System

open Editor (Feature Handle Registry Slot)

variable {s t u : System}

/-! ## The shelf

Everything that has to do with providers, and nothing else: the registry, the handles, the last
installation, and whether the client is still there.  A step that leaves these alone needs no
look. -/

/-- What a client has to do with providers. -/
structure Shelf where
  language : String
  destroyed : Bool
  installed : Option Installation
  /-- The number of sets of providers ever made. -/
  made : Nat
  handles : List Handle
  registry : Registry

/-- The shelf of a client. -/
def shelf (s : System) : Shelf where
  language := s.state.options.languageId
  destroyed := s.state.destroyed
  installed := s.state.installed
  made := s.providersMade
  handles := s.state.handles
  registry := s.registry

namespace Shelf

/-- All providers taken off the shelf. -/
def cleared (shelf : Shelf) : Shelf :=
  { shelf with handles := [], registry := shelf.registry.disposeAll shelf.handles }

/-- A fresh set of providers on the shelf, for an installation. -/
def renewed (shelf : Shelf) (i : Installation) : Shelf :=
  let (handles, registry) := shelf.registry.registerAll shelf.language (shelf.made + 1)
  { shelf with
    installed := some i, made := shelf.made + 1, handles
    registry := registry.disposeAll shelf.handles }

end Shelf

theorem Backstage.shelf (backstage : Backstage s t) : t.shelf = s.shelf := by
  rw [backstage.rest]
  rfl

/-- What a step does to the shelf. -/
inductive Restocks (s t : System) : Prop
  | kept (same : t.shelf = s.shelf)
  /-- The client is dropped. -/
  | dropped (gone : t.alive = false) (same : t.shelf = s.shelf.cleared)
  | destroyed (same : t.shelf = { s.shelf.cleared with destroyed := true })
  /-- A session is installed. -/
  | renewed (i : Installation) (lasting : s.state.destroyed = false) (alive : s.alive = true)
      (same : t.shelf = s.shelf.renewed i)

/-- A step behind the scenes leaves the shelf alone. -/
theorem Backstage.restocks (backstage : Backstage s t) : Restocks s t := .kept backstage.shelf

/-- A session that is installed puts a fresh set on the shelf, whatever it stops before. -/
theorem shelf_install (s : System) (g c : Nat) :
    (s.install g c).shelf = s.shelf.renewed ⟨c, g⟩ := by
  unfold install
  simp only []
  rw [(Backstage.stopChecks _).rest, (Backstage.cancelRetry s).rest]
  rfl

/-- A client is destroyed once: the first time clears its shelf, and any other does nothing. -/
theorem restocks_destroy (s : System) : Restocks s s.destroy := by
  by_cases destroyed : s.state.destroyed = true
  · rw [destroy_of_destroyed destroyed]
    exact .kept rfl
  · refine .destroyed ?_
    rw [destroy, if_neg destroyed]
    simp only []
    rw [(Backstage.giveUp _).shelf, (Backstage.stopChecks _).rest, (Backstage.stopAttempt _).rest,
      (Backstage.cancelRetry _).rest]
    rfl

/-- A client that nobody holds any more clears its shelf. -/
theorem restocks_release (s : System) : Restocks s s.release := by
  by_cases alive : s.alive = true
  · rw [release, if_pos alive]
    exact .kept rfl
  · refine .dropped ((alive_of_front (front_release s)).trans (Bool.eq_false_iff.2 alive)) ?_
    rw [release, if_neg alive]
    simp only []
    rw [(Backstage.stopChecks _).rest, (Backstage.cancelRetry _).rest]
    rfl

/-! ## Attempts

An attempt does much before it installs its session, and most of it may also be the last thing
that it does.  `Installs` separates the one outcome that matters from all the others. -/

/-- An attempt that does something behind the scenes installs nothing; or it is wanted, and its
session is installed after that. -/
def Installs (s t : System) : Prop :=
  Backstage s t ∨ ∃ u g c, Backstage s u ∧ s.alive = true ∧ s.state.destroyed = false ∧
    t = u.install g c

/-- Work behind the scenes may come before an installation. -/
theorem Backstage.installs (backstage : Backstage s t) (installs : Installs t u) : Installs s u := by
  have alive := alive_of_front backstage.front
  have destroyed : t.state.destroyed = s.state.destroyed := by rw [backstage.rest]
  rcases installs with nothing | ⟨v, g, c, before, here, lasting, same⟩
  · exact .inl (backstage.trans nothing)
  · exact .inr ⟨v, g, c, backstage.trans before, alive ▸ here, destroyed ▸ lasting, same⟩

/-- An installation restocks the shelf for a client that is still there. -/
theorem Installs.restocks (installs : Installs s t) : Restocks s t := by
  rcases installs with nothing | ⟨u, g, c, before, alive, lasting, rfl⟩
  · exact nothing.restocks
  · exact .renewed ⟨c, g⟩ lasting alive (by rw [shelf_install, before.shelf])

/-- Only a client that somebody holds and that has not been destroyed wants an attempt. -/
theorem of_wanted {g : Nat} (wanted : s.wanted g = true) :
    s.alive = true ∧ s.state.destroyed = false := by
  rw [System.wanted, Bool.and_eq_true, Bool.and_eq_true, Bool.not_eq_true'] at wanted
  exact wanted.1

/-- A handshake that has ended well installs its session if the attempt is still wanted; in all
other cases it closes the connection behind the scenes. -/
theorem installs_finishHandshake (s : System) (g c : Nat) (outcome : Outcome) :
    Installs s (s.finishHandshake g c outcome) := by
  rcases finished : (s.connection c).session.finishHandshake (s.connection c).link outcome
    with ⟨result, session, link⟩
  let told := (s.disarm (.attempt g)).exchange c session link
  have before : Backstage s told := Backstage.trans ⟨rfl⟩ (.exchange _ c session link)
  have left : Backstage s ((told.dispose c).closeSocket c) :=
    before.trans (.calm ((Calm.dispose told c).trans (.closeSocket _ c)))
  unfold finishHandshake
  simp only []
  rw [show (s.disarm (.attempt g)).connection c = s.connection c from rfl, finished]
  cases result with
  | ok capabilities =>
      simp only []
      split
      · rename_i wanted
        obtain ⟨alive, lasting⟩ := of_wanted wanted
        exact before.installs (.inr ⟨told, g, c, .refl told, alive, lasting, rfl⟩)
      · exact .inl (left.trans (.endAttempt _ g))
  | error e => exact .inl (left.trans (.finishAttempt _ g))

/-- Of the phases of an attempt only the handshake can end in an installation. -/
theorem installs_runAttempt (s : System) (g : Nat) : Installs s (s.runAttempt g) := by
  unfold runAttempt
  split
  · exact .inl (.refl s)
  · split
    · exact .inl ⟨rfl⟩
    · exact .inl (.refl s)
    · simp only []
      unfold greeted
      split
      · exact Backstage.installs ⟨rfl⟩ (installs_finishHandshake _ g _ _)
      · exact .inl ⟨rfl⟩
    · split
      · exact .inl (.finishAttempt s g)
      · exact .inl (.refl s)

/-- A session whose greeting cannot even be sent fails its handshake on the spot. -/
theorem installs_startSession (s : System) (g c : Nat) : Installs s (s.startSession g c) := by
  obtain ⟨call, session, link, -, begun⟩ := startSession_eq s g c
  have greeted : Backstage s ((s.opening c).exchange c session link) :=
    Backstage.trans ⟨rfl⟩ (.exchange _ c session link)
  rw [begun]
  cases call with
  | «over» outcome => exact greeted.installs (installs_finishHandshake _ g c outcome)
  | waiting id due => exact .inl (greeted.trans ⟨rfl⟩)

/-- A connection that is opened too late is closed, and nothing comes of it. -/
theorem installs_connectorOpened (s : System) (g : Nat) (state : SocketState) :
    Installs s (s.connectorOpened g state) := by
  unfold connectorOpened
  split
  · exact .inl (.refl s)
  · rename_i c _
    simp only []
    split
    · exact Backstage.installs ⟨rfl⟩ (installs_startSession _ g c)
    · let shut := (s.update c fun k => k.opened state).closeSocket c
      have opened : Backstage s shut := Backstage.trans ⟨rfl⟩ (.calm (.closeSocket _ c))
      exact .inl ((opened.trans ⟨rfl⟩).trans (.endAttempt _ g))

/-! ## Steps -/

/-- **What a step does to the shelf.**  One case for each primitive step of a client. -/
theorem Step.restocks (step : Step s t) : Restocks s t := by
  cases step with
  | calm calm => exact (Backstage.calm calm).restocks
  | read c => exact (Backstage.talk (.runReader s c)).restocks
  | send c m link current sent => exact (Backstage.exchange s c _ link).restocks
  | call c method params answer session link current called =>
      exact (Backstage.exchange s c session link).restocks
  | configure preamble snippets observer => exact .kept rfl
  | face rest kept => exact .kept (by rw [rest]; rfl)
  | disown => exact .kept rfl
  | release => exact restocks_release s
  | recover c => exact (Backstage.recover s c).restocks
  | nudge c current usable shut => exact (Backstage.reconnectSoon s).restocks
  | connect endpoint => exact (Backstage.connect s endpoint).restocks
  | setEndpoint endpoint => exact (Backstage.setEndpoint s endpoint).restocks
  | destroy => exact restocks_destroy s
  | check id monitor => exact .kept rfl
  | endChecks id finished => exact .kept rfl
  | pause token due => exact .kept rfl
  | endPause token => exact (Backstage.endPause s token).restocks
  | attempt generation => exact (installs_runAttempt s generation).restocks
  | connectorFailed generation =>
      refine Backstage.restocks ?_
      unfold System.connectorFailed
      split
      · exact .refl s
      · exact .finishAttempt s generation
  | connectorOpened generation state => exact (installs_connectorOpened s generation state).restocks

/-! ## What is kept of the shelf

The four ways in which a step treats the shelf are brought together here with what has to be true
of handles and slots.  From here on no operation of a client is opened any more. -/

/-- A shelf in order. -/
structure Stocked (s : System) : Prop where
  stocks : s.registry.Stocks s.state.options.languageId s.providersMade s.state.handles
  /-- Whoever has providers has installed a session and has not been destroyed. -/
  earned : s.state.handles ≠ [] → s.state.installed.isSome ∧ s.state.destroyed = false
  /-- Whoever has installed a session has providers, as long as the client is there. -/
  provided : s.state.installed.isSome → s.state.destroyed = false → s.alive = true →
    s.state.handles ≠ []
  /-- An installation is on record from the first set of providers on. -/
  begun : s.state.installed.isSome ↔ 0 < s.providersMade

/-- A shelf that has gone on.  Nothing is installed unless a set of providers is made. -/
structure Restocked (s t : System) : Prop where
  language : t.state.options.languageId = s.state.options.languageId
  made : s.providersMade ≤ t.providersMade
  installed : t.providersMade = s.providersMade → t.state.installed = s.state.installed

theorem Restocked.of_shelf (same : t.shelf = s.shelf) : Restocked s t where
  language := congrArg Shelf.language same
  made := Nat.le_of_eq (congrArg Shelf.made same).symm
  installed := fun _ => congrArg Shelf.installed same

/-- Of two stretches that make no set of providers, neither installs anything. -/
theorem Restocked.trans (first : Restocked s t) (second : Restocked t u) : Restocked s u where
  language := second.language.trans first.language
  made := Nat.le_trans first.made second.made
  installed := by
    intro same
    have here : t.providersMade = s.providersMade :=
      Nat.le_antisymm (same ▸ second.made) first.made
    exact (second.installed (same.trans here.symm)).trans (first.installed here)

/-- Being in order depends on the shelf, and on the client being there only so far as it was. -/
theorem Stocked.of_shelf (stocked : Stocked s) (same : t.shelf = s.shelf)
    (alive : t.alive = true → s.alive = true) : Stocked t := by
  obtain ⟨language, destroyed, installed, made, handles, registry⟩ := Shelf.mk.inj same
  refine ⟨?_, ?_, ?_, ?_⟩
  · rw [language, made, handles, registry]
    exact stocked.stocks
  · rw [handles, installed, destroyed]
    exact stocked.earned
  · rw [handles, installed, destroyed]
    exact fun some lasting here => stocked.provided some lasting (alive here)
  · rw [installed, made]
    exact stocked.begun

namespace Restocks

/-- Whichever of the four it is, the shelf has gone on. -/
theorem restocked (restocks : Restocks s t) : Restocked s t := by
  cases restocks with
  | kept same => exact .of_shelf same
  | dropped gone same =>
      obtain ⟨language, -, installed, made, -⟩ := Shelf.mk.inj same
      exact ⟨language, Nat.le_of_eq made.symm, fun _ => installed⟩
  | destroyed same =>
      obtain ⟨language, -, installed, made, -⟩ := Shelf.mk.inj same
      exact ⟨language, Nat.le_of_eq made.symm, fun _ => installed⟩
  | renewed i lasting alive same =>
      obtain ⟨language, -, -, made, -⟩ := Shelf.mk.inj same
      exact ⟨language, made ▸ Nat.le_succ _, fun none => absurd (made.symm.trans none) (Nat.succ_ne_self _)⟩

/-- **The invariant of a step.**  The last hypothesis is about the order of events in an action: a
client does not come back once nobody holds it. -/
theorem stocked (restocks : Restocks s t) (stocked : Stocked s)
    (before : t.alive = true → s.alive = true) : Stocked t := by
  cases restocks with
  | kept same => exact stocked.of_shelf same before
  | dropped gone same =>
      obtain ⟨language, -, installed, made, handles, registry⟩ := Shelf.mk.inj same
      refine ⟨?_, fun some => absurd handles some, fun _ _ here => ?_, ?_⟩
      · rw [language, made, handles, registry]
        exact stocked.stocks.clear
      · cases gone.symm.trans here
      · rw [installed, made]
        exact stocked.begun
  | destroyed same =>
      obtain ⟨language, destroyed, installed, made, handles, registry⟩ := Shelf.mk.inj same
      refine ⟨?_, fun some => absurd handles some, fun _ lasting => ?_, ?_⟩
      · rw [language, made, handles, registry]
        exact stocked.stocks.clear
      · cases destroyed.symm.trans lasting
      · rw [installed, made]
        exact stocked.begun
  | renewed i lasting alive same =>
      let fresh := s.registry.registerAll s.state.options.languageId (s.providersMade + 1)
      have language : t.state.options.languageId = s.state.options.languageId :=
        congrArg Shelf.language same
      have destroyed : t.state.destroyed = s.state.destroyed := congrArg Shelf.destroyed same
      have made : t.providersMade = s.providersMade + 1 := congrArg Shelf.made same
      have handles : t.state.handles = fresh.1 := congrArg Shelf.handles same
      have registry : t.registry = fresh.2.disposeAll s.state.handles := congrArg Shelf.registry same
      have recorded : t.state.installed.isSome := by
        rw [show t.state.installed = some i from congrArg Shelf.installed same]
        rfl
      have some : t.state.handles ≠ [] := by
        have slots : fresh.1.map Handle.slot = Feature.all.map _ :=
          (Editor.Registry.fresh_registerAll stocked.stocks.ids _ _).1
        intro none
        rw [handles.symm.trans none] at slots
        cases slots
      refine ⟨?_, fun _ => ⟨recorded, destroyed.trans lasting⟩, fun _ _ _ => some,
        fun _ => ?_, fun _ => recorded⟩
      · rw [language, made, handles, registry]
        exact stocked.stocks.renew (s.providersMade + 1)
      · rw [made]
        exact Nat.succ_pos _

/-- A client that nobody holds and that has nothing on its shelf gets nothing on it. -/
theorem vacant (restocks : Restocks s t) (gone : s.alive = false) (none : s.state.handles = []) :
    t.state.handles = [] := by
  cases restocks with
  | kept same => exact (congrArg Shelf.handles same).trans none
  | dropped gone same => exact congrArg Shelf.handles same
  | destroyed same => exact congrArg Shelf.handles same
  | renewed i lasting alive same => cases gone.symm.trans alive

end Restocks

/-! ## Actions

An action is a list of steps, but for the peer that moves a socket.  In between its steps a client
may be gone and still have providers, since letting go is one step and clearing the shelf another. -/

namespace Steps

/-- The steps of an action, taken together, let the shelf go on. -/
theorem restocked (steps : Steps s t) : Restocked s t := by
  induction steps with
  | refl => exact .of_shelf rfl
  | tail _ step ih => exact ih.trans step.restocks.restocked

/-- The steps of an action keep the shelf in order. -/
theorem stocked (steps : Steps s t) (stocked : Stocked s) : Stocked t := by
  induction steps with
  | refl => exact stocked
  | tail _ step ih => exact step.restocks.stocked ih step.alive

/-- An empty shelf of a client that nobody holds stays empty. -/
theorem vacant (steps : Steps s t) (gone : s.alive = false) (none : s.state.handles = []) :
    t.state.handles = [] := by
  induction steps with
  | refl => exact none
  | tail before step ih =>
      refine step.restocks.vacant (Bool.eq_false_iff.2 fun alive => ?_) ih
      cases gone.symm.trans (Steps.alive before alive)

end Steps

/-- The socket of a connection has nothing to do with providers. -/
theorem shelf_peerState (s : System) (c : Nat) (next : SocketState) :
    (s.peerState c next).shelf = s.shelf := by
  obtain ⟨agenda, connections, same, -⟩ := peerState_eq s c next
  rw [same]
  rfl

/-- An action lets the shelf go on: its steps do, and so does a peer that moves a socket. -/
theorem restocked_act (s : System) (a : Action) : Restocked s (s.act a) := by
  rcases act_cases s a with steps | ⟨c, next, moved⟩
  · exact steps.restocked
  · rw [moved]
    exact .of_shelf (shelf_peerState s c next)

/-- A shelf between actions: it is in order, and whoever is gone has left nothing on it. -/
structure WellStocked (s : System) : Prop extends Stocked s where
  left : s.alive = false → s.state.handles = []

/-- A fresh client has an empty shelf, and nothing to be put on it. -/
theorem wellStocked_fresh (options : Options) : WellStocked (.fresh options) where
  stocks := Editor.Registry.stocks_empty _ _
  earned := fun some => absurd rfl some
  provided := nofun
  begun := ⟨nofun, nofun⟩
  left := fun _ => rfl

/-- **The invariant of an action.** -/
theorem WellStocked.act (stocked : WellStocked s) (a : Action) : WellStocked (s.act a) := by
  rcases act_cases s a with steps | ⟨c, next, moved⟩
  · refine ⟨steps.stocked stocked.toStocked, fun gone => ?_⟩
    cases alive : s.alive with
    | true => exact ((released_act alive a).vacated gone).2
    | false => exact steps.vacant alive (stocked.left alive)
  · have same := shelf_peerState s c next
    rw [moved]
    refine ⟨stocked.toStocked.of_shelf same fun alive => ?_, fun gone => ?_⟩
    · rwa [alive_peerState] at alive
    · rw [alive_peerState] at gone
      exact (congrArg Shelf.handles same).trans (stocked.left gone)

/-! ## A registry that is shared

The registry belongs to the editor.  Others use it while the client runs, for languages of their
own, and none of their uses may be taken for one of the client's. -/

/-- One use of the registry. -/
inductive Use where
  /-- The client acts. -/
  | client (a : Action)
  /-- Somebody else registers a provider. -/
  | register (slot : Slot) (provider : Nat)
  /-- Somebody else disposes of a handle. -/
  | dispose (h : Handle)

/-- A use that leaves a language to the client. -/
def Use.Elsewhere (language : String) : Use → Prop
  | .client _ => True
  | .register slot _ => slot.language ≠ language
  | .dispose h => h.slot.language ≠ language

/-- The registry used once. -/
def use (s : System) : Use → System
  | .client a => s.act a
  | .register slot provider => { s with registry := (s.registry.register slot provider).2 }
  | .dispose h => { s with registry := s.registry.dispose h }

/-- The registry used several times. -/
def uses (s : System) (uses : List Use) : System := uses.foldl use s

/-- Runs grow at the end, which is where the induction takes them apart. -/
theorem uses_concat (s : System) (before : List Use) (last : Use) :
    s.uses (before ++ [last]) = (s.uses before).use last := by
  rw [uses, uses, List.foldl_append]
  rfl

/-- Somebody else puts something else into the registry, for other languages. -/
theorem WellStocked.elsewhere (stocked : WellStocked s) {r : Registry} (made : s.registry.made ≤ r.made)
    (same : ∀ slot, slot.language = s.state.options.languageId →
      r.inPlace? slot = s.registry.inPlace? slot) : WellStocked { s with registry := r } :=
  { stocked with stocks := stocked.stocks.elsewhere made same }

/-- Somebody else's use of the registry installs nothing. -/
theorem restocked_use (s : System) (use : Use) : Restocked s (s.use use) := by
  cases use with
  | client a => exact restocked_act s a
  | register slot provider => exact ⟨rfl, Nat.le_refl _, fun _ => rfl⟩
  | dispose h => exact ⟨rfl, Nat.le_refl _, fun _ => rfl⟩

/-- **The invariant of a use.**  Others keep to languages of their own, so the slots of the client
stay as they are. -/
theorem WellStocked.use (stocked : WellStocked s) {use : Use}
    (elsewhere : use.Elsewhere s.state.options.languageId) : WellStocked (s.use use) := by
  cases use with
  | client a => exact stocked.act a
  | register slot provider =>
      refine stocked.elsewhere (Nat.le_succ _) fun other own => ?_
      refine Editor.Registry.inPlace?_register_of_ne _ _ fun same => elsewhere ?_
      rw [← same, own]
  | dispose h =>
      refine stocked.elsewhere (Nat.le_of_eq ?_) fun other own => ?_
      · exact (Editor.Registry.made_disposeAll s.registry [h]).symm
      · refine Editor.Registry.inPlace?_dispose_of_ne _ _ fun same => elsewhere ?_
        rw [← same, own]

/-! ## Runs

Which set is in place is told by the run: it is the one that was made last. -/

/-- The last set of providers of a run was made by the installation on record. -/
def Latest (start : System) (uses : List Use) : Prop :=
  ∃ before use after, uses = before ++ use :: after ∧
    (start.uses before).providersMade < (start.uses (before ++ [use])).providersMade ∧
    (start.uses (before ++ [use])).providersMade = (start.uses uses).providersMade ∧
    (start.uses (before ++ [use])).state.installed = (start.uses uses).state.installed

/-- One more use makes a set of providers, or the last one stays the last. -/
theorem Latest.concat {start : System} {uses : List Use} (use : Use)
    (latest : (start.uses uses).state.installed.isSome → Latest start uses)
    (recorded : (start.uses (uses ++ [use])).state.installed.isSome) :
    Latest start (uses ++ [use]) := by
  have restocked := restocked_use (start.uses uses) use
  rw [← uses_concat] at restocked
  rcases Nat.eq_or_lt_of_le restocked.made with same | grown
  · have installed := restocked.installed same.symm
    obtain ⟨before, last, after, rfl, grown, made, kept⟩ := latest (installed ▸ recorded)
    exact ⟨before, last, after ++ [use], by rw [List.append_assoc, List.cons_append], grown,
      made.trans same, kept.trans installed.symm⟩
  · exact ⟨uses, use, [], rfl, grown, rfl, rfl⟩

/-- The providers of a client, after a run. -/
structure AsUnit (start : System) (uses : List Use) : Prop where
  /-- A client that has installed a session and has been neither destroyed nor dropped offers its
  last set of providers for every feature. -/
  offers : (start.uses uses).state.installed.isSome → (start.uses uses).state.destroyed = false →
    (start.uses uses).alive = true → ∀ f : Feature,
    (start.uses uses).registry.provider? ⟨f, start.state.options.languageId⟩
      = some (start.uses uses).providersMade
  /-- Any other client offers none. -/
  offersNothing : ¬((start.uses uses).state.installed.isSome ∧
      (start.uses uses).state.destroyed = false ∧ (start.uses uses).alive = true) →
    ∀ f : Feature,
    (start.uses uses).registry.provider? ⟨f, start.state.options.languageId⟩ = none
  latest : (start.uses uses).state.installed.isSome → Latest start uses
  /-- An installation is on record as soon as there has been one. -/
  recorded : (start.uses uses).state.installed.isSome ↔ 0 < (start.uses uses).providersMade

/-- A client that has something to offer offers the last set it has made. -/
theorem WellStocked.offers (stocked : WellStocked s) (installed : s.state.installed.isSome)
    (lasting : s.state.destroyed = false) (alive : s.alive = true) (f : Feature) :
    s.registry.provider? ⟨f, s.state.options.languageId⟩ = some s.providersMade :=
  stocked.stocks.full (stocked.provided installed lasting alive) f

/-- A client with nothing to offer has no handle left, and so no slot. -/
theorem WellStocked.offersNothing (stocked : WellStocked s)
    (not : ¬(s.state.installed.isSome ∧ s.state.destroyed = false ∧ s.alive = true)) (f : Feature) :
    s.registry.provider? ⟨f, s.state.options.languageId⟩ = none := by
  have none : s.state.handles = [] := by
    by_contra some
    obtain ⟨installed, lasting⟩ := stocked.earned some
    refine not ⟨installed, lasting, ?_⟩
    by_contra gone
    exact some (stocked.left (Bool.eq_false_iff.2 gone))
  have vacant := stocked.stocks
  rw [none] at vacant
  rw [Editor.Registry.provider?, vacant.vacant f]
  rfl

/-- Whatever a client and others that use its registry for other languages do: a client that has
installed a session and has been neither destroyed nor dropped offers a provider for every feature,
all of them made by the last installation, and any other client offers none. -/
theorem providers_as_a_unit (options : Options) (uses : List Use)
    (alone : ∀ use ∈ uses, use.Elsewhere options.languageId) :
    AsUnit (.fresh options) uses := by
  obtain ⟨stocked, language, latest⟩ :
      WellStocked ((fresh options).uses uses) ∧
      ((fresh options).uses uses).state.options.languageId = options.languageId ∧
      (((fresh options).uses uses).state.installed.isSome → Latest (.fresh options) uses) := by
    induction uses using List.reverseRecOn with
    | nil => exact ⟨wellStocked_fresh options, rfl, nofun⟩
    | append_singleton before last ih =>
        obtain ⟨stocked, language, latest⟩ := ih fun use mem => alone use (List.mem_append_left _ mem)
        have elsewhere := alone last (List.mem_append_right _ (List.mem_singleton_self last))
        rw [uses_concat]
        refine ⟨stocked.use (language ▸ elsewhere), (restocked_use _ last).language.trans language, ?_⟩
        rw [← uses_concat]
        exact Latest.concat last latest
  exact ⟨language ▸ stocked.offers, language ▸ stocked.offersNothing, latest, stocked.begun⟩

/-- A client that installs one session after another, while somebody else registers a provider for
another language. -/
def swapped : List Use :=
  [.client (.connect "one"), .client (.run (.attempt 1)), .client (.connectorOpened 1 .opened),
    .client (.peerFeed 0 "\x7b\"id\":1\x7d"), .client (.run (.reader 0)),
    .client (.run (.attempt 1)), .register ⟨.hover, "other"⟩ 7, .client (.connect "two"),
    .client (.run (.attempt 2)), .client (.connectorOpened 2 .opened),
    .client (.peerFeed 1 "\x7b\"id\":1\x7d"), .client (.run (.reader 1)),
    .client (.run (.attempt 2))]

/-- After two installations the second set is in place, beside the provider of the other language;
the three handles of the first set are gone. -/
theorem swapped_as_a_unit :
    AsUnit (.fresh .standard) swapped ∧
      ((System.fresh .standard).uses swapped).state.installed = some ⟨1, 2⟩ ∧
      ((System.fresh .standard).uses swapped).providersMade = 2 ∧
      ((System.fresh .standard).uses swapped).registry.count = 4 :=
  ⟨providers_as_a_unit .standard swapped (by simp [swapped, Use.Elsewhere, Options.standard]),
    by decide +kernel, by decide +kernel, by decide +kernel⟩

end LanguageBridge.Client.System
