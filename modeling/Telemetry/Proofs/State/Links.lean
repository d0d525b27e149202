import Mathlib.Data.List.Induction
import Telemetry.Proofs.State.Steady
import Telemetry.State.DeepLink

/-!
Contract: a received link reaches exactly the next screen view.

Owns:
- the link that an event tells of, and which screen view it reaches in a history of events;
- the law of one event for the link that waits, and from it the law of histories;
- the entities that the machine of links gives, whatever else a host does with the manager.

Does not own: how versions are settled.
-/

namespace Telemetry

namespace ObservedEvent

/-- The event is one that a host tracks, of any kind. -/
def Submitted (event : ObservedEvent) : Prop :=
  ∃ source id instant, event = .ofEvent source id instant

/-- The link that the event tells of: its address, and its referrer if that is a text. An event
without an address that is a text tells of none. -/
def link? (event : ObservedEvent) : Option DeepLink :=
  if event.schema = some Schemas.deepLinkReceived then
    match event.string? "url" with
    | some url => some ⟨url, event.string? "referrer"⟩
    | none => none
  else
    none

def ViewsScreen (event : ObservedEvent) : Prop := event.schema = some Schemas.screenView

instance (event : ObservedEvent) : Decidable event.ViewsScreen :=
  inferInstanceAs (Decidable (event.schema = some Schemas.screenView))

variable {event : ObservedEvent}

theorem link?_eq_some_iff {link : DeepLink} :
    event.link? = some link ↔
      event.schema = some Schemas.deepLinkReceived ∧ event.string? "url" = some link.url ∧
        event.string? "referrer" = link.referrer := by
  obtain ⟨url, referrer⟩ := link
  rw [link?]
  split
  · next isReceived =>
    split
    · next told isText => simp [isReceived, isText]
    · next noText => simp [noText]
  · next isOther => simp [isOther]

/-- The machine reads an event of a received link as the event tells it. -/
theorem ofEvent?_of_received (isReceived : event.schema = some Schemas.deepLinkReceived) :
    DeepLink.ofEvent? event = event.link? := by
  rw [link?, if_pos isReceived, DeepLink.ofEvent?]
  cases event.string? "url" <;> rfl

/-- Only an event of a schema has that schema as its identifier. -/
theorem Submitted.identifier_eq_iff (submitted : event.Submitted) {text : String}
    (notName : text ∉ EventNames.all) : event.identifier = text ↔ event.schema = some text := by
  obtain ⟨source, id, instant, rfl⟩ := submitted
  have differs : source.kind.name ≠ text := fun same =>
    notName (same ▸ source.kind.name_mem_all)
  simp only [identifier, ofEvent, Event.schema?, Event.name]
  cases source.kind.schema? with
  | none => exact ⟨fun same => absurd same differs, nofun⟩
  | some schema => exact Option.some_inj.symm

end ObservedEvent

/-! ### Histories -/

/-- The latest link of a history waits: since the event at `source` told of it no event told of
another, and no screen was viewed. -/
structure LinkWaits (events : List ObservedEvent) (source : Nat) (link : DeepLink) : Prop where
  told : ∃ event ∈ events[source]?, event.link? = some link
  since : ∀ {position : Nat} {event : ObservedEvent}, source < position →
    events[position]? = some event → event.link? = none ∧ ¬ event.ViewsScreen

/-- The event at `target` views a screen, for which the link of the event at `source` waited. -/
structure LinkReaches (events : List ObservedEvent) (source : Nat) (link : DeepLink)
    (target : Nat) : Prop where
  viewed : ∃ event ∈ events[target]?, event.ViewsScreen
  waits : LinkWaits (events.take target) source link

variable {events : List ObservedEvent} {event : ObservedEvent} {source target : Nat}
  {link : DeepLink}

namespace LinkWaits

theorem lt_length (waits : LinkWaits events source link) : source < events.length := by
  obtain ⟨event, isThere, _⟩ := waits.told
  exact (List.getElem?_eq_some_iff.mp isThere).1

end LinkWaits

/-- A link waits after an event if the event told of it, or if it waited before and the event left
it waiting. -/
theorem exists_linkWaits_concat_iff :
    (∃ source, LinkWaits (events ++ [event]) source link) ↔
      event.link? = some link ∨
        event.link? = none ∧ ¬ event.ViewsScreen ∧ ∃ source, LinkWaits events source link := by
  have atLast : (events ++ [event])[events.length]? = some event := List.getElem?_concat_length
  constructor
  · rintro ⟨source, waits⟩
    obtain ⟨teller, isThere, tells⟩ := waits.told
    have inside : source < events.length + 1 := by simpa using waits.lt_length
    rcases Nat.lt_succ_iff_lt_or_eq.mp inside with earlier | rfl
    · obtain ⟨noLink, noView⟩ := waits.since earlier atLast
      rw [List.getElem?_append_left earlier] at isThere
      refine .inr ⟨noLink, noView, source, ⟨teller, isThere, tells⟩, ?_⟩
      intro position later behind isLater
      have within := (List.getElem?_eq_some_iff.mp isLater).1
      exact waits.since behind ((List.getElem?_append_left within).trans isLater)
    · obtain rfl := Option.some.inj (atLast.symm.trans isThere)
      exact .inl tells
  · rintro (tells | ⟨noLink, noView, source, waits⟩)
    · refine ⟨events.length, ⟨event, atLast, tells⟩, ?_⟩
      intro position later behind isLater
      have within := (List.getElem?_eq_some_iff.mp isLater).1
      rw [List.length_append, List.length_singleton] at within
      omega
    · obtain ⟨teller, isThere, tells⟩ := waits.told
      have isThereStill : (events ++ [event])[source]? = some teller :=
        (List.getElem?_append_left waits.lt_length).trans isThere
      refine ⟨source, ⟨teller, isThereStill, tells⟩, ?_⟩
      intro position later behind isLater
      have within := (List.getElem?_eq_some_iff.mp isLater).1
      rw [List.length_append, List.length_singleton] at within
      rcases Nat.lt_succ_iff_lt_or_eq.mp within with isOld | rfl
      · exact waits.since behind ((List.getElem?_append_left isOld).symm.trans isLater)
      · obtain rfl := Option.some.inj (atLast.symm.trans isLater)
        exact ⟨noLink, noView⟩

/-- What reaches an event is what waits after those before it. -/
theorem linkReaches_length_iff {later : List ObservedEvent} :
    LinkReaches (events ++ event :: later) source link events.length ↔
      event.ViewsScreen ∧ LinkWaits events source link := by
  have atEvent : (events ++ event :: later)[events.length]? = some event := by simp
  have upToEvent : (events ++ event :: later).take events.length = events := List.take_left
  constructor
  · intro reaches
    obtain ⟨viewed, isThere, views⟩ := reaches.viewed
    obtain rfl := Option.some.inj (atEvent.symm.trans isThere)
    exact ⟨views, upToEvent ▸ reaches.waits⟩
  · rintro ⟨views, waits⟩
    exact ⟨⟨event, atEvent, views⟩, upToEvent.symm ▸ waits⟩

/-- No event is the source of links that reach two screen views. -/
theorem LinkReaches.target_unique (reaches : LinkReaches events source link target)
    {otherLink : DeepLink} {otherTarget : Nat}
    (reachesOther : LinkReaches events source otherLink otherTarget) : target = otherTarget := by
  -- A link that waits at the later of two targets was not taken at the earlier one.
  have notBefore : ∀ {first second : Nat} {link other : DeepLink},
      LinkReaches events source link first → LinkReaches events source other second →
        ¬ first < second := by
    intro first second link other reachesFirst reachesSecond before
    obtain ⟨event, isThere, views⟩ := reachesFirst.viewed
    have behind : source < first :=
      Nat.lt_of_lt_of_le reachesFirst.waits.lt_length (List.length_take_le _ _)
    exact (reachesSecond.waits.since behind ((List.getElem?_take_of_lt before).trans isThere)).2
      views
  exact Nat.le_antisymm (Nat.not_lt.mp (notBefore reachesOther reaches))
    (Nat.not_lt.mp (notBefore reaches reachesOther))

/-! ### The machine -/

namespace DeepLink

theorem entity_texts (link : DeepLink) : link.entity.string? "url" = some link.url ∧
    link.entity.string? "referrer" = link.referrer := by
  obtain ⟨url, referrer⟩ := link
  cases referrer <;>
    simp [entity, Entity.string?, Fields.string?, Entries.ofPairs, Entries.get?_insert,
      Entries.get?_nil, Json.asString?]

end DeepLink

namespace DeepLinkState

/-- The state after one more event of a history. -/
def after (state : Option DeepLinkState) (event : ObservedEvent) : Option DeepLinkState :=
  if event.identifier = Schemas.deepLinkReceived ∨ event.identifier = Schemas.screenView then
    (next? event state).or state
  else
    state

/-- The state after a history. -/
def afterAll (events : List ObservedEvent) : Option DeepLinkState := events.foldl after none

theorem afterAll_concat (events : List ObservedEvent) (event : ObservedEvent) :
    afterAll (events ++ [event]) = after (afterAll events) event := by
  rw [afterAll, List.foldl_append]
  rfl

theorem ofState?_map (state : Option DeepLinkState) :
    ofState? (state.map MachineState.deepLink) = state := by
  cases state <;> rfl

variable {ω : Type}

theorem machine_ignoresWorld : (machine ω).IgnoresWorld := fun _ _ _ _ => rfl

theorem follow_machine (other : ω) (event : ObservedEvent) (state : Option DeepLinkState) :
    (machine ω).follow other event (state.map .deepLink) = (after state event).map .deepLink := by
  have selects : (machine ω).subscriptions.transitions.selects event.identifier = true ↔
      event.identifier = Schemas.deepLinkReceived ∨ event.identifier = Schemas.screenView := by
    simp [machine, Selector.selects]
  rw [Machine.follow, after]
  by_cases isSelected : (machine ω).subscriptions.transitions.selects event.identifier = true
  · rw [if_pos isSelected, if_pos (selects.mp isSelected)]
    simp only [Machine.next, machine, ofState?_map]
    cases next? event state <;> rfl
  · rw [if_neg isSelected, if_neg (mt selects.mpr isSelected)]

theorem foldl_follow_machine (other : ω) (events : List ObservedEvent) :
    events.foldl (fun state event => (machine ω).follow other event state) none =
      (afterAll events).map .deepLink := by
  induction events using List.reverseRecOn with
  | nil => rfl
  | append_singleton earlier event inductionHypothesis =>
      rw [List.foldl_append, inductionHypothesis, afterAll_concat]
      exact follow_machine other event (afterAll earlier)

/-! ### One event -/

theorem after_of_link (state : Option DeepLinkState) (tells : event.link? = some link) :
    after state event = some (.pending link) := by
  have isReceived := (ObservedEvent.link?_eq_some_iff.mp tells).1
  rw [after, if_pos (.inl (by rw [ObservedEvent.identifier, isReceived]; rfl)), next?,
    if_pos isReceived, ObservedEvent.ofEvent?_of_received isReceived, tells]
  rfl

theorem after_of_view (state : Option DeepLinkState) (views : event.ViewsScreen) :
    after state event = (state.bind afterScreen?).or state := by
  rw [after, if_pos (.inr (by rw [ObservedEvent.identifier, views]; rfl)), next?, views,
    if_neg (by decide)]

/-- Neither a link without an address nor an event of another kind changes the state. -/
theorem after_of_other (submitted : event.Submitted) (state : Option DeepLinkState)
    (noLink : event.link? = none) (noView : ¬ event.ViewsScreen) : after state event = state := by
  rw [after]
  split
  · next isFollowed =>
    rw [submitted.identifier_eq_iff (by decide), submitted.identifier_eq_iff (by decide)]
      at isFollowed
    have isReceived := isFollowed.resolve_right noView
    rw [next?, if_pos isReceived, ObservedEvent.ofEvent?_of_received isReceived, noLink]
    rfl
  · rfl

/-! ### Every history -/

/-- The state holds a link that waits exactly if one of the history does. -/
theorem afterAll_eq_pending_iff (submitted : ∀ event ∈ events, event.Submitted) :
    afterAll events = some (.pending link) ↔ ∃ source, LinkWaits events source link := by
  induction events using List.reverseRecOn with
  | nil => exact ⟨nofun, fun ⟨_, waits⟩ => absurd waits.lt_length (Nat.not_lt_zero _)⟩
  | append_singleton earlier event inductionHypothesis =>
      have isSubmitted : event.Submitted := submitted event (by simp)
      have before := inductionHypothesis fun other member =>
        submitted other (List.mem_append_left _ member)
      rw [afterAll_concat, exists_linkWaits_concat_iff]
      cases tells : event.link? with
      | some told =>
          rw [after_of_link _ tells]
          simp
      | none =>
          by_cases views : event.ViewsScreen
          · rw [after_of_view _ views]
            have taken : ∀ state : Option DeepLinkState,
                (state.bind afterScreen?).or state ≠ some (.pending link) := by
              rintro (_ | _ | _ | _) <;> nofun
            simp [views, taken]
          · rw [after_of_other isSubmitted _ tells views, before]
            simp [views]

/-- The machine shows a link to a screen view exactly if the link reaches it. -/
theorem ready_iff_waits (submitted : ∀ event ∈ events, event.Submitted)
    (views : event.ViewsScreen) :
    afterAll (events ++ [event]) = some (.ready link) ↔ ∃ source, LinkWaits events source link := by
  rw [← afterAll_eq_pending_iff submitted, afterAll_concat, after_of_view _ views]
  cases afterAll events with
  | none => simp
  | some state => cases state <;> simp [afterScreen?]

theorem mem_entities?_iff {state : Option DeepLinkState} {entity : Entity} :
    entity ∈ (entities? state).getD [] ↔
      ∃ link : DeepLink, state = some (.ready link) ∧ entity = link.entity := by
  rcases state with _ | _ | link | _ <;> simp [entities?]

theorem length_entities?_le (state : Option DeepLinkState) :
    ((entities? state).getD []).length ≤ 1 := by
  rcases state with _ | _ | link | _ <;> simp [entities?]

/-- What the machine gives to an event, whatever a host did before and does later. -/
theorem entitiesBy_machine (world : ω) (others : List (Machine ω))
    (isSubmitted : event.Submitted) {earlier later : List (ManagerUse ω)}
    (spared : ∀ use ∈ earlier ++ later, use.Spares (machine ω)) :
    let noted := ((others.foldl Manager.add {}).add (machine ω)).useAll world earlier
    let taken := noted.1.snapshot noted.2 event
    let last := taken.2.1.useAll taken.2.2 later
    let history := earlier.filterMap ManagerUse.observed? ++ [event]
    last.1.entitiesBy identifier last.2 event taken.1 =
      if event.ViewsScreen then (entities? (afterAll history)).getD [] else [] := by
  intro noted taken last history
  obtain ⟨somewhere, given⟩ :=
    Manager.entitiesBy_of_history machine_ignoresWorld world world others event spared
  have selects : (machine ω).subscriptions.entities.selects event.identifier = true ↔
      event.ViewsScreen := by
    rw [ObservedEvent.ViewsScreen, ← isSubmitted.identifier_eq_iff (by decide)]
    simp [machine, Selector.selects]
  rw [foldl_follow_machine] at given
  simp only [machine, ofState?_map] at given
  exact given.trans (if_congr selects rfl rfl)

/-- Of all entities, the machine attaches to an event the one of the link that reaches it. Each
link reaches one screen view at most, and only screen views are reached.

Events of any kinds come before and after, machines join and leave, and the machines are asked at
any time about any snapshot; only the machine itself stays. -/
theorem attached_entities_are_of_reaching_link (world : ω) (others : List (Machine ω))
    (event : ObservedEvent) (earlier later : List (ManagerUse ω))
    (submitted : ∀ use ∈ earlier, ∀ noted ∈ use.observed?, noted.Submitted)
    (isSubmitted : event.Submitted)
    (spared : ∀ use ∈ earlier ++ later, use.Spares (machine ω)) :
    let noted := ((others.foldl Manager.add {}).add (machine ω)).useAll world earlier
    let taken := noted.1.snapshot noted.2 event
    let last := taken.2.1.useAll taken.2.2 later
    let given := last.1.entitiesBy identifier last.2 event taken.1
    let events := (earlier ++ .move (.observe event) :: later).filterMap ManagerUse.observed?
    let position := (earlier.filterMap ManagerUse.observed?).length
    given.Sublist (last.1.entities last.2 event taken.1).1 ∧
      given.length ≤ 1 ∧
      (∀ entity, entity ∈ given ↔ ∃ source link, LinkReaches events source link position ∧
        entity = link.entity ∧ entity.string? "url" = some link.url ∧
          entity.string? "referrer" = link.referrer) ∧
      ∀ source link target otherLink otherTarget, LinkReaches events source link target →
        LinkReaches events source otherLink otherTarget → target = otherTarget := by
  intro noted taken last given events position
  let before := earlier.filterMap ManagerUse.observed?
  have areSubmitted : ∀ observed ∈ before, observed.Submitted := by
    intro observed member
    obtain ⟨use, isUse, isObserved⟩ := List.mem_filterMap.mp member
    exact submitted use isUse observed isObserved
  have reaches_iff : ∀ source link, LinkReaches events source link position ↔
      event.ViewsScreen ∧ LinkWaits before source link := by
    have isEvents : events =
        before ++ event :: later.filterMap ManagerUse.observed? :=
      List.filterMap_append
    intro source link
    rw [isEvents]
    exact linkReaches_length_iff
  have isGiven : given = if event.ViewsScreen then
      (entities? (afterAll (before ++ [event]))).getD [] else [] :=
    entitiesBy_machine world others isSubmitted spared
  refine ⟨Manager.entitiesBy_sublist _ _ _ _ _, ?_, ?_, ?_⟩
  case refine_1 =>
    rw [isGiven]
    split
    · exact length_entities?_le _
    · exact Nat.zero_le 1
  case refine_2 =>
    intro entity
    simp only [reaches_iff, isGiven]
    split
    · next views =>
      rw [mem_entities?_iff]
      simp only [ready_iff_waits areSubmitted views]
      constructor
      · rintro ⟨link, ⟨source, waits⟩, rfl⟩
        exact ⟨source, link, ⟨views, waits⟩, rfl, link.entity_texts⟩
      · rintro ⟨source, link, ⟨-, waits⟩, isEntity, -⟩
        exact ⟨link, ⟨source, waits⟩, isEntity⟩
    · next noView =>
      refine ⟨fun member => absurd member List.not_mem_nil, ?_⟩
      rintro ⟨_, _, ⟨views, _⟩, _⟩
      exact absurd views noView
  case refine_3 =>
    intro source link target otherLink otherTarget reaches reachesOther
    exact reaches.target_unique reachesOther

/-- A link waits for a screen although another one without an address comes between, and the
machines of a later screen view are asked first. -/
theorem screen_shows_link_before_malformed_one :
    let seen (event : Event) := ObservedEvent.ofEvent event ⟨0⟩ 0
    let screen := seen (.screenView "home" ⟨1⟩ none)
    let link : DeepLink := ⟨"app://start", some "mail"⟩
    let earlier : List (ManagerUse Nat) :=
      [.move (.observe (seen (.deepLinkReceived link.url link.referrer))),
        .move (.observe (seen (.builtIn Schemas.deepLinkReceived [])))]
    let later : List (ManagerUse Nat) := [.move (.observe screen), .move (.elsewhere (· + 1))]
    let noted := ((({} : Manager Nat).add (machine Nat))).useAll 0 earlier
    let taken := noted.1.snapshot noted.2 screen
    let last := taken.2.1.useAll taken.2.2 later
    (∀ use ∈ earlier, ∀ noted ∈ use.observed?, noted.Submitted) ∧ screen.Submitted ∧
      (∀ use ∈ earlier ++ later, use.Spares (machine Nat)) ∧
      link.entity ∈ last.1.entitiesBy identifier last.2 screen taken.1 := by
  intro seen screen link earlier later noted taken last
  have isSubmitted : ∀ event, (seen event).Submitted := fun event => ⟨event, ⟨0⟩, 0, rfl⟩
  have submitted : ∀ use ∈ earlier, ∀ noted ∈ use.observed?, noted.Submitted := by
    simp [earlier, ManagerUse.observed?, isSubmitted]
  have spared : ∀ use ∈ earlier ++ later, use.Spares (machine Nat) := by
    simp [earlier, later, ManagerUse.Spares]
  have attached := attached_entities_are_of_reaching_link 0 [] screen earlier later submitted
    (isSubmitted _) spared
  refine ⟨submitted, isSubmitted _, spared, (attached.2.2.1 link.entity).mpr ?_⟩
  refine ⟨0, link, ⟨⟨screen, rfl, rfl⟩, ⟨_, rfl, by decide⟩, ?_⟩, rfl, link.entity_texts⟩
  intro position event behind isThere
  have within := (List.getElem?_eq_some_iff.mp isThere).1
  obtain rfl : position = 1 := by
    have : position < 2 := within
    omega
  obtain rfl := Option.some.inj isThere
  decide

end DeepLinkState

end Telemetry
