import Telemetry.Proofs.Settings.Likeness
import Telemetry.Proofs.Tracker.Likeness

/-!
Contract: a launch goes by the records that it reads.

Owns:
- resources and worlds that are the same but for records that they do not share;
- that sessions and the built-in machines act alike in such worlds;
- the records that a launch reads, and that over stores that share these it comes to the same.

Does not own: what else changes the records of a store.
-/

namespace Telemetry

variable {η : Type} {shared : SettingsKey → Prop}

/-! ### Resources -/

/-- The resources are the same, but for records that they do not share. -/
structure Resources.AlikeOn (shared : SettingsKey → Prop) (resources parallel : Resources) :
    Prop where
  settings : resources.settings.AlikeOn shared parallel.settings
  bus : parallel.bus = resources.bus
  uuids : parallel.uuids = resources.uuids

namespace Resources.AlikeOn

variable {resources parallel : Resources} {key : SettingsKey}

theorem draw (alike : resources.AlikeOn shared parallel) :
    parallel.draw.1 = resources.draw.1 ∧ resources.draw.2.AlikeOn shared parallel.draw.2 := by
  rw [Resources.draw, Resources.draw, alike.uuids]
  exact ⟨rfl, alike.settings, alike.bus, rfl⟩

theorem publish (alike : resources.AlikeOn shared parallel) (notification : Notification) :
    (resources.publish notification).AlikeOn shared (parallel.publish notification) :=
  { alike with bus := congrArg (Bus.publish · notification) alike.bus }

theorem read (alike : resources.AlikeOn shared parallel) (isShared : shared key) :
    (parallel.read key).1 = (resources.read key).1 ∧
      (resources.read key).2.AlikeOn shared (parallel.read key).2 :=
  ⟨alike.settings.get_fst isShared, { alike with settings := alike.settings.get_snd key }⟩

theorem write (alike : resources.AlikeOn shared parallel) (key : SettingsKey) (value : Json) :
    (parallel.write key value).1 = (resources.write key value).1 ∧
      (resources.write key value).2.AlikeOn shared (parallel.write key value).2 := by
  obtain ⟨answers, after⟩ := alike.settings.set key value value fun _ => rfl
  exact ⟨answers, { alike with settings := after }⟩

theorem migrate (alike : resources.AlikeOn shared parallel) (isShared : shared key)
    (legacy : resources.settings.backend.recordAt? key = none → shared (.legacy key.name))
    (transform : Json → Option Json) :
    (parallel.migrate key transform).1 = (resources.migrate key transform).1 ∧
      (resources.migrate key transform).2.AlikeOn shared (parallel.migrate key transform).2 := by
  obtain ⟨answers, after⟩ := alike.settings.migrate isShared legacy transform
  exact ⟨answers, { alike with settings := after }⟩

end Resources.AlikeOn

/-! ### Sessions -/

namespace Session

variable {resources parallel : Resources} {scope : String}

theorem persist_alikeOn (alike : resources.AlikeOn shared parallel) (session : Session) :
    (session.persist resources).AlikeOn shared (session.persist parallel) :=
  (alike.write (SessionRecord.settingsKey session.scope) session.record.toJson).2

theorem update_alikeOn (alike : resources.AlikeOn shared parallel) (session : Session)
    (event : Uuid) (instant : Int) (signal : Option LifecycleSignal) :
    (session.update parallel event instant signal).1 =
        (session.update resources event instant signal).1 ∧
      (session.update resources event instant signal).2.AlikeOn shared
        (session.update parallel event instant signal).2 := by
  obtain ⟨same, drawn⟩ := alike.draw
  have stored := persist_alikeOn drawn
    (session.advanced resources.draw.1 event instant signal)
  simp only [Session.update, same]
  split
  · exact ⟨rfl, stored.publish _⟩
  · exact ⟨rfl, stored⟩

theorem storedRecord?_alikeOn (alike : resources.AlikeOn shared parallel)
    (isShared : shared (SessionRecord.settingsKey scope)) :
    (storedRecord? scope parallel).1 = (storedRecord? scope resources).1 ∧
      (storedRecord? scope resources).2.AlikeOn shared (storedRecord? scope parallel).2 := by
  obtain ⟨answers, after⟩ := alike.read isShared
  unfold storedRecord?
  generalize resources.read (SessionRecord.settingsKey scope) = read,
    parallel.read (SessionRecord.settingsKey scope) = mirrorRead at answers after
  obtain ⟨answer, last⟩ := read
  obtain ⟨mirrorAnswer, mirrorLast⟩ := mirrorRead
  obtain rfl : answer = mirrorAnswer := answers.symm
  match answer with
  | .error cause => exact ⟨rfl, after⟩
  | .ok none => exact ⟨rfl, after⟩
  | .ok (some value) => exact ⟨rfl, after⟩

/-- A session is loaded the same if all that is read for it is shared. -/
theorem load_alikeOn (config : SessionConfig) (alike : resources.AlikeOn shared parallel)
    (isShared : shared (SessionRecord.settingsKey scope))
    (legacy : resources.settings.backend.recordAt? (SessionRecord.settingsKey scope) = none →
      shared (.legacy SessionRecord.settingsName)) :
    (load scope config parallel).1 = (load scope config resources).1 ∧
      (load scope config resources).2.AlikeOn shared (load scope config parallel).2 := by
  let opening : Resources :=
    { resources with settings := migrated scope resources, uuids := resources.uuids.skip 3 }
  let mirrorOpening : Resources :=
    { parallel with settings := migrated scope parallel, uuids := resources.uuids.skip 3 }
  have opened : opening.AlikeOn shared mirrorOpening := by
    refine ⟨?_, alike.bus, rfl⟩
    have moved := alike.settings.migrate isShared legacy fun value =>
      (legacyRecord? resources.uuids value).map SessionRecord.toJson
    simp only [opening, mirrorOpening, migrated, alike.uuids]
    exact moved.2
  obtain ⟨found, read⟩ := storedRecord?_alikeOn opened isShared
  rw [load_eq, load_eq, alike.uuids]
  generalize storedRecord? scope opening = stored,
    storedRecord? scope mirrorOpening = mirrored at found read
  obtain ⟨record, after⟩ := stored
  obtain ⟨mirrorRecord, mirrorAfter⟩ := mirrored
  obtain rfl : record = mirrorRecord := found.symm
  cases record with
  | some record => exact ⟨rfl, read⟩
  | none => exact ⟨rfl, persist_alikeOn read _⟩

end Session

/-! ### Worlds -/

namespace World

/-- The worlds are the same, but for records that they do not share. -/
structure AlikeOn (shared : SettingsKey → Prop) (world parallel : World η) : Prop where
  resources : world.resources.AlikeOn shared parallel.resources
  session : parallel.session = world.session
  platform : parallel.platform = world.platform
  source : parallel.source = world.source
  reads : parallel.reads = world.reads
  elapsed : parallel.elapsed = world.elapsed
  host : parallel.host = world.host

theorem absentStates_same (_ : MachineKind) : (none : Option MachineState) = none := rfl

/-- What two runs have in common that share some records: the states of all machines. -/
def sharing (η : Type) (shared : SettingsKey → Prop) : Likeness (World η) (World η) where
  worlds := AlikeOn shared
  states := fun _ state mirrored => mirrored = state
  none := absentStates_same

namespace AlikeOn

variable {world parallel : World η}

theorem updateSession (alike : world.AlikeOn shared parallel) (event : ObservedEvent) :
    (parallel.updateSession event).1 = (world.updateSession event).1 ∧
      (world.updateSession event).2.AlikeOn shared (parallel.updateSession event).2 := by
  simp only [World.updateSession, alike.session]
  split
  · exact ⟨rfl, alike⟩
  · next session _ =>
    obtain ⟨next, resources⟩ := session.update_alikeOn alike.resources event.id event.timestamp
      (LifecycleSignal.ofSchema? event.schema)
    simp only [next]
    exact ⟨trivial, { alike with resources := resources, session := rfl }⟩

theorem sessionEntities? (alike : world.AlikeOn shared parallel) (state : Option MachineState) :
    parallel.sessionEntities? state = world.sessionEntities? state := by
  unfold World.sessionEntities? World.hidesUser
  rw [alike.session]

theorem platformEntity (alike : world.AlikeOn shared parallel) :
    parallel.platformEntity.1 = world.platformEntity.1 ∧
      world.platformEntity.2.AlikeOn shared parallel.platformEntity.2 := by
  simp only [World.platformEntity, alike.platform, alike.source, alike.elapsed, alike.reads]
  split
  · exact ⟨rfl, alike⟩
  · exact ⟨rfl, { alike with platform := rfl, source := rfl, reads := rfl, elapsed := rfl }⟩

end AlikeOn

theorem sharing_carriesOn : (sharing η shared).CarriesOn where
  draw := by
    intro world parallel alike
    have worlds : world.AlikeOn shared parallel := alike
    obtain ⟨same, drawn⟩ := worlds.resources.draw
    exact ⟨same, { worlds with resources := drawn }⟩
  publish := by
    intro world parallel notification alike
    have worlds : world.AlikeOn shared parallel := alike
    exact { worlds with resources := worlds.resources.publish notification }

theorem sessionMachine_sharing :
    (sessionMachine η).Alike (sharing η shared) (sessionMachine η) where
  identifier := rfl
  kind := rfl
  subscriptions := rfl
  transition := by
    rintro _ state world parallel event rfl alike
    obtain ⟨next, after⟩ := AlikeOn.updateSession alike event
    exact ⟨congrArg (Option.or · state) next, after⟩
  entities := by
    rintro _ state world parallel event rfl alike
    exact ⟨AlikeOn.sessionEntities? alike state, alike⟩
  payloadValues := fun _ _ => rfl
  filter := fun _ _ alike => ⟨rfl, alike⟩
  afterTrack := fun _ alike => alike

theorem builtIn_sharing (settings : TrackerSettings) (hasSource : Bool) :
    ∀ machine ∈ Tracker.builtIn (η := η) settings hasSource,
      machine.Alike (sharing η shared) machine :=
  builtIn_alikeIn sessionMachine_sharing
    (platformMachine_alikeIn fun alike => AlikeOn.platformEntity alike)
    (fun _ _ _ _ => Iff.rfl) settings hasSource

end World

/-! ### Launches -/

namespace LaunchPlan

/-- A launch reads the record of a name, if its set-up asks for what is recorded under it. -/
inductive Consults (plan : LaunchPlan η) : String → Prop where
  | session : plan.settings.sessionContext = true → Consults plan SessionRecord.settingsName
  | install : plan.settings.install = true → Consults plan Tracker.installName

/-- The keys that a launch reads: those of its scope, and those of the legacy layout where its
scope has no record. -/
inductive Reads (plan : LaunchPlan η) (backend : SettingsBackend) : SettingsKey → Prop where
  | own {name : String} : plan.Consults name → Reads plan backend ⟨plan.settings.scope, name⟩
  | legacy {name : String} : plan.Consults name →
      backend.recordAt? ⟨plan.settings.scope, name⟩ = none → Reads plan backend (.legacy name)

variable {plan : LaunchPlan η} {store mirror : SettingsStore}

/-- A launch comes to the same over two stores, but for records that these do not share. -/
structure SameLaunch (plan : LaunchPlan η) (shared : SettingsKey → Prop)
    (store mirror : SettingsStore) : Prop where
  /-- The session is loaded the same, also by a launch that fails then. -/
  loads : (plan.prepared store).world.AlikeOn shared (plan.prepared mirror).world
  fails : ∀ cause, plan.launch mirror = .error cause ↔ plan.launch store = .error cause
  launches : ∀ tracker, plan.launch store = .ok tracker →
    ∃ mirrored, plan.launch mirror = .ok mirrored ∧
      tracker.AlikeIn (World.sharing η shared) mirrored

section Sharing

variable (alike : store.AlikeOn shared mirror)
  (reads : ∀ key, plan.Reads store.backend key → shared key)

include alike reads

theorem started_sharing :
    (plan.started store).AlikeIn (World.sharing η shared) (plan.started mirror) := by
  have resources : (plan.parts store).resources.AlikeOn shared (plan.parts mirror).resources :=
    ⟨alike, rfl, rfl⟩
  obtain ⟨session, after⟩ :
      (Tracker.loadSession plan.settings plan.sessionConfig (plan.parts mirror).resources).1 =
          (Tracker.loadSession plan.settings plan.sessionConfig (plan.parts store).resources).1 ∧
        Resources.AlikeOn shared
          (Tracker.loadSession plan.settings plan.sessionConfig (plan.parts store).resources).2
          (Tracker.loadSession plan.settings plan.sessionConfig
            (plan.parts mirror).resources).2 := by
    unfold Tracker.loadSession
    split
    · next sessions =>
      have consults : plan.Consults SessionRecord.settingsName := .session sessions
      obtain ⟨session, after⟩ := Session.load_alikeOn plan.sessionConfig resources
        (reads _ (.own consults)) fun absent => reads _ (.legacy consults absent)
      exact ⟨congrArg (fun session => some (session.setAnonymise plan.settings.anonymise)) session,
        after⟩
    · exact ⟨rfl, resources⟩
  exact started_alikeIn (World.builtIn_sharing plan.settings plan.source.isSome)
    ⟨after, session, rfl, rfl, rfl, rfl, rfl⟩

/-- Loading a session changes no record of a first launch, so what is read of these is shared
still. -/
theorem trackInstall_sharing (asked : plan.settings.install = true) :
    ((plan.started store).trackInstall plan.now).AlikeIn (World.sharing η shared)
      ((plan.started mirror).trackInstall plan.now) := by
  have started := started_sharing alike reads
  have worlds : (plan.started store).world.AlikeOn shared (plan.started mirror).world :=
    started.worlds
  have consults : plan.Consults Tracker.installName := .install asked
  have isShared : shared (plan.started store).installKey := reads _ (.own consults)
  have legacy (absent : (plan.started store).world.resources.settings.backend.recordAt?
      (plan.started store).installKey = none) : shared (.legacy Tracker.installName) := by
    refine reads _ (.legacy consults ?_)
    rw [← absent]
    exact ((plan.started_frame store).1.recordAt? plan.settings.scope).symm
  obtain ⟨-, migrated⟩ := worlds.resources.migrate isShared legacy some
  obtain ⟨found, looked⟩ := migrated.read isShared
  obtain ⟨outcome, noted⟩ := looked.write (plan.started store).installKey
    (Tracker.installRecord plan.now)
  exact started.trackInstall World.sharing_carriesOn found
    { worlds with resources := looked } outcome { worlds with resources := noted }

/-- A launch comes to the same over stores that share what it reads. -/
theorem sameLaunch : plan.SameLaunch shared store mirror where
  loads := (started_sharing alike reads).worlds
  fails := by
    intro cause
    rw [launch_eq, launch_eq]
    split
    · exact iff_of_false nofun nofun
    · exact Iff.rfl
  launches := by
    intro tracker launched
    rw [launch_eq] at launched ⊢
    split at launched
    · next inRuntime =>
      obtain rfl := Except.ok.inj launched
      refine ⟨_, if_pos inRuntime, ?_⟩
      split
      · next asked => exact trackInstall_sharing alike reads asked
      · exact started_sharing alike reads
    · cases launched

end Sharing

end LaunchPlan

end Telemetry
