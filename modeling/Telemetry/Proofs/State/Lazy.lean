import Mathlib.Data.List.Induction
import Telemetry.Proofs.State.Registration
import Telemetry.Proofs.State.Versions
import Telemetry.State.DeepLink
import Telemetry.State.Lifecycle

/-!
Contract: states that are computed when they are read are the states of a manager that
computes them at once.

Owns:
- the slot of one identifier in a manager that computes at once;
- what a host does with a manager, and the law of one move and of a series of moves;
- what any snapshot shows, whatever happens after it was taken.

Does not own: how versions are settled.
-/

namespace Telemetry

variable {ω : Type}

/-- What a host does with a manager: it registers and removes machines, tracks events, and
reads any snapshot. Whatever else it does may change the world. -/
inductive ManagerMove (ω : Type) where
  | add (machine : Machine ω)
  | remove (identifier : String)
  | observe (event : ObservedEvent)
  | read (seen : Snapshot) (identifier : String)
  | elsewhere (change : ω → ω)

namespace Manager

def perform (manager : Manager ω) (world : ω) : ManagerMove ω → Manager ω × ω
  | .add machine => (manager.add machine, world)
  | .remove identifier => (manager.remove identifier, world)
  | .observe event => (manager.snapshot world event).2
  | .read seen identifier => (manager.read world seen identifier).2
  | .elsewhere change => (manager, change world)

def performAll (manager : Manager ω) (world : ω) (moves : List (ManagerMove ω)) :
    Manager ω × ω :=
  moves.foldl (fun current move => current.1.perform current.2 move) (manager, world)

end Manager

/-! ### A manager that computes each state at once -/

/-- What a manager that computes at once has for one identifier: the machine that is
registered, its state, and the events since the slot was created or reset, each with the
machine that followed it. -/
structure Slot (ω : Type) where
  machine : Option (Machine ω) := none
  stored : Option MachineState := none
  noted : List (ObservedEvent × Machine ω) := []

namespace Slot

/-- A machine takes over the state of one of its own kind. -/
def register (slot : Slot ω) (machine : Machine ω) : Slot ω :=
  if slot.machine.any fun held => held.kind = machine.kind then
    { slot with machine := some machine }
  else
    { machine := some machine }

def observe (world : ω) (slot : Slot ω) (event : ObservedEvent) : Slot ω :=
  match slot.machine with
  | none => slot
  | some machine =>
    if machine.subscriptions.transitions.selects event.identifier then
      { slot with
        stored := machine.next world event slot.stored
        noted := slot.noted ++ [(event, machine)] }
    else
      slot

def perform (world : ω) (identifier : String) (slot : Slot ω) : ManagerMove ω → Slot ω
  | .add machine => if machine.identifier = identifier then slot.register machine else slot
  | .remove removed => if removed = identifier then {} else slot
  | .observe event => slot.observe world event
  | .read _ _ => slot
  | .elsewhere _ => slot

/-- The slot of an identifier after a series of moves. -/
def after (world : ω) (identifier : String) (moves : List (ManagerMove ω)) : Slot ω :=
  moves.foldl (perform world identifier) {}

/-- The state that events lead to, each by the machine that followed it. -/
def leadsTo (world : ω) (noted : List (ObservedEvent × Machine ω)) : Option MachineState :=
  noted.foldl (fun before note => note.2.next world note.1 before) none

/-- A slot holds the state that its events lead to, and none without a machine. -/
structure WellFormed (world : ω) (slot : Slot ω) : Prop where
  stored : slot.stored = leadsTo world slot.noted
  vacant : slot.machine = none → slot = {}

theorem WellFormed.perform {world : ω} {slot : Slot ω} (wellFormed : slot.WellFormed world)
    (identifier : String) (move : ManagerMove ω) :
    (slot.perform world identifier move).WellFormed world := by
  cases move with
  | add machine =>
      rw [Slot.perform]
      split
      · rw [register]
        split
        · exact ⟨wellFormed.stored, nofun⟩
        · exact ⟨rfl, nofun⟩
      · exact wellFormed
  | remove removed =>
      rw [Slot.perform]
      split
      · exact ⟨rfl, fun _ => rfl⟩
      · exact wellFormed
  | observe event =>
      rw [Slot.perform, observe]
      split
      · exact wellFormed
      · next machine isMachine =>
        split
        · refine ⟨?_, fun vacant => absurd (isMachine.symm.trans vacant) nofun⟩
          rw [leadsTo, List.foldl_append, wellFormed.stored]
          rfl
        · exact wellFormed
  | read seen read => exact wellFormed
  | elsewhere change => exact wellFormed

/-- Only a machine of another kind empties the slot that it takes over. -/
theorem WellFormed.stored_register {world : ω} {slot : Slot ω}
    (wellFormed : slot.WellFormed world) (machine : Machine ω) :
    (slot.register machine).stored =
      if ∃ held ∈ slot.machine, held.kind ≠ machine.kind then none else slot.stored := by
  rw [register]
  cases isMachine : slot.machine with
  | none =>
      rw [if_neg (by simp), if_neg (by simp), wellFormed.vacant isMachine]
  | some held =>
      by_cases sameKind : held.kind = machine.kind
      · rw [if_pos (by simpa using sameKind), if_neg (by simpa using sameKind)]
      · rw [if_neg (by simpa using sameKind), if_pos (by simpa using sameKind)]

theorem after_concat (world : ω) (identifier : String) (moves : List (ManagerMove ω))
    (move : ManagerMove ω) :
    after world identifier (moves ++ [move]) =
      (after world identifier moves).perform world identifier move := by
  rw [after, List.foldl_append]
  rfl

theorem after_wellFormed (world : ω) (identifier : String) (moves : List (ManagerMove ω)) :
    (after world identifier moves).WellFormed world := by
  induction moves using List.reverseRecOn with
  | nil => exact ⟨rfl, fun _ => rfl⟩
  | append_singleton earlier move inductionHypothesis =>
      rw [after_concat]
      exact inductionHypothesis.perform identifier move

end Slot

/-! ### Registration -/

/-- The identifiers in the order of registration. One that is registered again keeps its
position. -/
def registered (known : List String) : ManagerMove ω → List String
  | .add machine =>
    if machine.identifier ∈ known then known else known ++ [machine.identifier]
  | .remove identifier => known.filter (· ≠ identifier)
  | .observe _ => known
  | .read _ _ => known
  | .elsewhere _ => known

def registeredAfter (moves : List (ManagerMove ω)) : List String :=
  moves.foldl registered []

theorem registeredAfter_concat (moves : List (ManagerMove ω)) (move : ManagerMove ω) :
    registeredAfter (moves ++ [move]) = registered (registeredAfter moves) move := by
  rw [registeredAfter, List.foldl_append]
  rfl

theorem registered_nodup {known : List String} (distinct : known.Nodup)
    (move : ManagerMove ω) : (registered known move).Nodup := by
  cases move with
  | add machine =>
      rw [registered]
      split
      · exact distinct
      · next isNew =>
        refine List.nodup_append.mpr ⟨distinct, List.pairwise_singleton _ _, ?_⟩
        intro identifier isKnown other isLast same
        rw [same, List.mem_singleton.mp isLast] at isKnown
        exact isNew isKnown
  | remove identifier => exact distinct.filter _
  | observe event => exact distinct
  | read seen identifier => exact distinct
  | elsewhere change => exact distinct

/-! ### One move -/

/-- A manager after a series of moves: its versions have values, and under each identifier
it has the machine and the state that the slot has. `other` is the world of the manager
that computes at once. -/
structure Mirrors (manager : Manager ω) (values : List (Option MachineState)) (other : ω)
    (moves : List (ManagerMove ω)) : Prop where
  settles : Settles manager.versions values
  within : Manager.NamesWithin manager.current values.length
  ignores : ∀ machine ∈ manager.machines, machine.IgnoresWorld
  registered : manager.identifiers = registeredAfter moves
  distinct : manager.identifiers.Nodup
  owned : ∀ identifier, manager.current.contains identifier → identifier ∈ manager.identifiers
  machine : ∀ identifier, manager.find? identifier = (Slot.after other identifier moves).machine
  shows : ∀ identifier, stateAt values (manager.current.get? identifier) =
    (Slot.after other identifier moves).stored

namespace Mirrors

variable {manager : Manager ω} {values : List (Option MachineState)} {other : ω}
  {moves : List (ManagerMove ω)}

theorem empty (other : ω) : Mirrors ({} : Manager ω) [] other [] where
  settles := Settles.empty
  within := nofun
  ignores := fun _ member => absurd member List.not_mem_nil
  registered := rfl
  distinct := List.Pairwise.nil
  owned := nofun
  machine := fun _ => rfl
  shows := fun _ => rfl

theorem add (mirrors : Mirrors manager values other moves) {machine : Machine ω}
    (ignores : machine.IgnoresWorld) :
    Mirrors (manager.add machine) values other (moves ++ [.add machine]) := by
  have identifiers : (manager.add machine).identifiers =
      Telemetry.registered manager.identifiers (.add machine) :=
    manager.identifiers_add machine
  constructor
  case settles => rw [manager.add_versions]; exact mirrors.settles
  case within =>
    intro identifier id named
    rw [Manager.get?_current_add] at named
    split at named
    · cases named
    · exact mirrors.within identifier id named
  case ignores =>
    intro member isMember
    rcases Manager.mem_add isMember with rfl | old
    · exact ignores
    · exact mirrors.ignores member old
  case registered => rw [identifiers, mirrors.registered, registeredAfter_concat]
  case distinct => rw [identifiers]; exact registered_nodup mirrors.distinct _
  case owned =>
    intro identifier held
    rw [Entries.contains, Manager.get?_current_add] at held
    split at held
    · cases held
    · have isKnown := mirrors.owned identifier held
      rw [identifiers, Telemetry.registered]
      split
      · exact isKnown
      · exact List.mem_append_left _ isKnown
  case machine =>
    intro identifier
    rw [Manager.find?_add, Slot.after_concat, Slot.perform]
    split
    · rw [Slot.register]
      split <;> rfl
    · exact mirrors.machine identifier
  case shows =>
    intro identifier
    rw [Manager.get?_current_add, Slot.after_concat, Slot.perform, mirrors.machine]
    by_cases same : machine.identifier = identifier
    · rw [if_pos same, (Slot.after_wellFormed other identifier moves).stored_register]
      simp only [same, true_and]
      split
      · rfl
      · exact mirrors.shows identifier
    · rw [if_neg same, if_neg fun both => same both.1]
      exact mirrors.shows identifier

theorem remove (mirrors : Mirrors manager values other moves) (removed : String) :
    Mirrors (manager.remove removed) values other (moves ++ [.remove removed]) := by
  have identifiers : (manager.remove removed).identifiers =
      Telemetry.registered manager.identifiers (.remove removed : ManagerMove ω) :=
    manager.identifiers_remove removed
  have current : ∀ identifier, (manager.remove removed).current.get? identifier =
      if removed = identifier then none else manager.current.get? identifier :=
    Entries.get?_erase manager.current removed
  constructor
  case settles => exact mirrors.settles
  case within =>
    intro identifier id named
    rw [current] at named
    split at named
    · cases named
    · exact mirrors.within identifier id named
  case ignores =>
    exact fun machine isMember => mirrors.ignores machine (List.mem_filter.mp isMember).1
  case registered => rw [identifiers, mirrors.registered, registeredAfter_concat]
  case distinct => rw [identifiers]; exact registered_nodup mirrors.distinct _
  case owned =>
    intro identifier held
    rw [Entries.contains, current] at held
    split at held
    · cases held
    · next differs =>
      rw [identifiers]
      exact List.mem_filter.mpr ⟨mirrors.owned identifier held, by simpa using Ne.symm differs⟩
  case machine =>
    intro identifier
    rw [Manager.find?_remove, Slot.after_concat, Slot.perform]
    split
    · rfl
    · exact mirrors.machine identifier
  case shows =>
    intro identifier
    rw [current, Slot.after_concat, Slot.perform]
    split
    · rfl
    · exact mirrors.shows identifier

/-- Each slot notes an event as the machines together do. -/
theorem stored_observe (mirrors : Mirrors manager values other moves) (event : ObservedEvent)
    (identifier : String) :
    (Slot.after other identifier (moves ++ [.observe event])).stored =
      Manager.followed manager.machines other event identifier
        (stateAt values (manager.current.get? identifier)) := by
  rw [mirrors.shows, Slot.after_concat, Slot.perform, Slot.observe, ← mirrors.machine,
    Manager.followed, ← Manager.find?]
  cases manager.find? identifier with
  | none => rfl
  | some machine =>
      simp only [Machine.follow]
      split <;> rfl

theorem observe (mirrors : Mirrors manager values other moves) (world : ω)
    (event : ObservedEvent) :
    ∃ more, Mirrors (manager.snapshot world event).2.1 (values ++ more) other
      (moves ++ [.observe event]) := by
  obtain ⟨more, noted⟩ := Manager.advanceAll_notes mirrors.settles mirrors.within world event
    mirrors.ignores mirrors.distinct other
  have machines : (manager.snapshot world event).2.1.machines = manager.machines :=
    noted.machines
  have identifiers : (manager.snapshot world event).2.1.identifiers = manager.identifiers :=
    congrArg (List.map Machine.identifier) machines
  refine ⟨more, ?_⟩
  constructor
  case settles => exact noted.settles
  case within => exact noted.within
  case ignores => rw [machines]; exact mirrors.ignores
  case registered => rw [identifiers, mirrors.registered, registeredAfter_concat]; rfl
  case distinct => rw [identifiers]; exact mirrors.distinct
  case owned =>
    intro identifier held
    rw [identifiers]
    rcases noted.owned identifier held with before | follows
    · exact mirrors.owned identifier before
    · exact follows
  case machine =>
    intro identifier
    rw [Slot.after_concat, Slot.perform, Slot.observe, Manager.find?, machines,
      ← Manager.find?, mirrors.machine]
    split
    · rfl
    · split <;> rfl
  case shows =>
    intro identifier
    rw [mirrors.stored_observe]
    exact noted.shows identifier

/-- Reading changes nothing that a slot has. -/
theorem idle (mirrors : Mirrors manager values other moves) {after : Manager ω}
    (left : Manager.Rereads manager after values) {move : ManagerMove ω}
    (known : registeredAfter (moves ++ [move]) = registeredAfter moves)
    (untouched : ∀ identifier,
      Slot.after other identifier (moves ++ [move]) = Slot.after other identifier moves) :
    Mirrors after values other (moves ++ [move]) := by
  have identifiers : after.identifiers = manager.identifiers :=
    congrArg (List.map Machine.identifier) left.machines
  constructor
  case settles => exact left.settles
  case within => rw [left.current]; exact mirrors.within
  case ignores => rw [left.machines]; exact mirrors.ignores
  case registered => rw [identifiers, known, mirrors.registered]
  case distinct => rw [identifiers]; exact mirrors.distinct
  case owned => rw [identifiers, left.current]; exact mirrors.owned
  case machine =>
    intro identifier
    rw [untouched, ← mirrors.machine, Manager.find?, left.machines, Manager.find?]
  case shows => intro identifier; rw [untouched, left.current, mirrors.shows]

theorem perform (mirrors : Mirrors manager values other moves) (world : ω)
    {move : ManagerMove ω} (ignoring : ∀ machine, move = .add machine → machine.IgnoresWorld) :
    ∃ more, Mirrors (manager.perform world move).1 (values ++ more) other (moves ++ [move]) := by
  cases move with
  | add machine => exact ⟨[], by rw [List.append_nil]; exact mirrors.add (ignoring machine rfl)⟩
  | remove identifier => exact ⟨[], by rw [List.append_nil]; exact mirrors.remove identifier⟩
  | observe event => exact mirrors.observe world event
  | read seen identifier =>
      have left := (Manager.read_value mirrors.settles world seen identifier).2
      refine ⟨[], ?_⟩
      rw [List.append_nil]
      exact mirrors.idle left (registeredAfter_concat _ _) fun _ => Slot.after_concat _ _ _ _
  | elsewhere change =>
      refine ⟨[], ?_⟩
      rw [List.append_nil]
      exact mirrors.idle ⟨mirrors.settles, rfl, rfl⟩ (registeredAfter_concat _ _)
        fun _ => Slot.after_concat _ _ _ _

/-- A series of moves adds versions, and leaves the values of those that were there. -/
theorem performAll (mirrors : Mirrors manager values other moves) (world : ω)
    {later : List (ManagerMove ω)}
    (ignoring : ∀ machine, .add machine ∈ later → machine.IgnoresWorld) :
    ∃ more,
      Mirrors (manager.performAll world later).1 (values ++ more) other (moves ++ later) := by
  induction later generalizing manager values world moves with
  | nil => exact ⟨[], by rw [List.append_nil, List.append_nil]; exact mirrors⟩
  | cons move rest inductionHypothesis =>
      have firstIgnoring : ∀ machine, move = .add machine → machine.IgnoresWorld :=
        fun machine isMove => ignoring machine (by simp [isMove])
      obtain ⟨first, next⟩ := mirrors.perform world firstIgnoring
      obtain ⟨others, last⟩ := inductionHypothesis next (manager.perform world move).2
        fun machine member => ignoring machine (List.mem_cons_of_mem _ member)
      refine ⟨first ++ others, ?_⟩
      rw [← List.append_assoc, List.append_cons]
      exact last

end Mirrors

/-! ### Every series of moves -/

namespace Manager

/-- What is read from the snapshot of an event is what a manager that computes at once
stored right after the event: the state that the events since the slot was created or reset
lead to. Nothing that happens later changes it, neither events, replacements and removals
nor the order of the reads. A machine that takes the place of one keeps the position, and
the state if it is of the same kind; only registered identifiers have a state. -/
theorem snapshots_show_eager_states (world other : ω) (earlier later : List (ManagerMove ω))
    (event : ObservedEvent) (identifier : String)
    (ignoring : ∀ machine, .add machine ∈ earlier ++ later → machine.IgnoresWorld) :
    let before := performAll {} world earlier
    let noted := before.1.snapshot before.2 event
    let last := noted.2.1.performAll noted.2.2 later
    let slot := Slot.after other identifier earlier
    let shown := Slot.after other identifier (earlier ++ [.observe event])
    ((last.1.read last.2 noted.1 identifier).1 = shown.stored ∧
        shown.stored = Slot.leadsTo other shown.noted) ∧
      ((before.1.state before.2 identifier).1 = slot.stored ∧
        before.1.find? identifier = slot.machine ∧
        before.1.identifiers = registeredAfter earlier) ∧
      (∀ machine held, before.1.find? machine.identifier = some held →
        (before.1.add machine).identifiers = before.1.identifiers ∧
          (before.1.add machine).current.get? machine.identifier =
            if held.kind = machine.kind then
              before.1.current.get? machine.identifier
            else
              none) ∧
      (before.1.remove identifier).current.get? identifier = none ∧
      (before.1.current.contains identifier → identifier ∈ before.1.identifiers) := by
  intro before noted last slot shown
  obtain ⟨values, mirrors⟩ := (Mirrors.empty other).performAll world
    fun machine member => ignoring machine (List.mem_append_left later member)
  rw [List.nil_append, List.nil_append] at mirrors
  obtain ⟨more, observed⟩ := mirrors.observe before.2 event
  obtain ⟨rest, settled⟩ := observed.performAll noted.2.2
    fun machine member => ignoring machine (List.mem_append_right earlier member)
  refine ⟨⟨?_, (Slot.after_wellFormed other identifier _).stored⟩,
    ⟨?_, mirrors.machine identifier, mirrors.registered⟩, ?_, ?_, mirrors.owned identifier⟩
  · have present : ∀ id ∈ noted.1.get? identifier, id < (values ++ more).length :=
      observed.within identifier
    rw [(read_value settled.settles last.2 noted.1 identifier).1,
      stateAt_append _ rest present]
    exact observed.shows identifier
  · rw [state, (read_value mirrors.settles before.2 _ identifier).1, mirrors.shows]
  · intro machine held found
    refine ⟨?_, current_add_of_found found⟩
    rw [identifiers_add, if_pos (mem_identifiers_of_find? found)]
  · rw [remove, Entries.get?_erase, if_pos rfl]

/-- A link waits, and its machine is replaced by one of another kind and removed before
anyone looks at what the screen was shown. -/
theorem snapshot_shows_link_of_replaced_machine :
    let link := DeepLinkState.machine Nat
    let lifecycle := { LifecycleState.machine Nat with identifier := DeepLinkState.identifier }
    let seen (event : Event) := ObservedEvent.ofEvent event ⟨0⟩ 0
    let earlier := [.add link, .observe (seen (.deepLinkReceived "app://start" none))]
    let later := [.add lifecycle, .observe (seen (.foreground 1)), .elsewhere (· + 1),
      .remove DeepLinkState.identifier]
    let before := performAll {} 0 earlier
    let noted := before.1.snapshot before.2 (seen (.screenView "home" ⟨1⟩ none))
    let last := noted.2.1.performAll noted.2.2 later
    (∀ machine, .add machine ∈ earlier ++ later → machine.IgnoresWorld) ∧
      (last.1.read last.2 noted.1 DeepLinkState.identifier).1 =
        some (.deepLink (.ready ⟨"app://start", none⟩)) := by
  intro link lifecycle seen earlier later before noted last
  have ignoring : ∀ machine, .add machine ∈ earlier ++ later → machine.IgnoresWorld := by
    intro machine member
    have isMachine : machine = link ∨ machine = lifecycle := by
      simpa [earlier, later] using member
    rcases isMachine with rfl | rfl
    · exact fun _ _ _ _ => rfl
    · exact fun _ _ _ _ => rfl
  have shows := (snapshots_show_eager_states 0 0 earlier later
    (seen (.screenView "home" ⟨1⟩ none)) DeepLinkState.identifier ignoring).1.1
  refine ⟨ignoring, shows.trans ?_⟩
  decide +kernel

end Manager

end Telemetry
