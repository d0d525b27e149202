import Mathlib.Data.List.Chain
import Mathlib.Data.List.Induction
import Mathlib.Data.List.Nodup
import Telemetry.Platform

/-!
Contract: the properties of the platform are as old as their windows allow.

Owns:
- histories of reads, and the reads at which the source is asked for a property;
- the invariant of one group: its values are those of its latest fetch, and its fetches lie a
  window apart;
- the entity as a look-up in the three groups;
- that a group depends on its own window and its own properties alone.

Does not own: what a property's text is read as, and who reads the entity.
-/

namespace Telemetry

/-- The groups of properties. -/
inductive PropertyKind where
  | fixed
  | mobile
  | network
deriving DecidableEq, Repr

namespace PropertyKind

def properties : PropertyKind → List PlatformProperty
  | .fixed => PlatformProperty.fixed
  | .mobile => PlatformProperty.mobile
  | .network => PlatformProperty.network

/-- How long a group is kept; one of them for good. -/
def window (windows : RefreshWindows) : PropertyKind → Option Nat
  | .fixed => none
  | .mobile => some windows.mobile
  | .network => some windows.network

end PropertyKind

namespace PlatformProperty

def kind : PlatformProperty → PropertyKind
  | .osType | .osVersion | .deviceModel | .deviceManufacturer => .fixed
  | .carrier | .networkType | .networkTechnology => .network
  | .batteryLevel | .batteryState | .lowPowerMode | .availableStorage | .totalStorage
  | .physicalMemory | .appAvailableMemory => .mobile

/-- Each property is in one group. -/
theorem mem_properties_iff (property : PlatformProperty) (kind : PropertyKind) :
    property ∈ kind.properties ↔ property.kind = kind := by
  cases kind <;> cases property <;> decide

theorem key_injective : Function.Injective key := by
  intro first second
  cases first <;> cases second <;> decide

end PlatformProperty

/-- One read of the entity: what the source answers meanwhile, and when it is. No property is
asked for twice in a read, so the answers of a source that changes while it is read are of
this form too. -/
structure PropertyRead where
  source : PropertySource
  instant : Nat

/-! ### One group -/

namespace PropertyGroup

/-- A group is fresh if it was fetched, less than its window ago if it has one. -/
theorem isFresh_iff (group : PropertyGroup) (window : Option Nat) (now : Nat) :
    group.isFresh window now = true ↔
      ∃ fetched ∈ group.fetchedAt, ∀ span ∈ window, now - fetched < span := by
  unfold isFresh
  cases group.fetchedAt <;> cases window <;> simp

theorem refresh_fst (group : PropertyGroup) (source : PropertySource)
    (properties : List PlatformProperty) (window : Option Nat) (now : Nat) :
    (group.refresh source properties window now).1 =
      if group.isFresh window now then group else ⟨fetch source properties, some now⟩ := by
  unfold refresh
  split <;> rfl

theorem refresh_snd (group : PropertyGroup) (source : PropertySource)
    (properties : List PlatformProperty) (window : Option Nat) (now : Nat) :
    (group.refresh source properties window now).2 =
      if group.isFresh window now then [] else properties := by
  unfold refresh
  split <;> rfl

theorem mem_fetch_iff {source : PropertySource} {properties : List PlatformProperty}
    {property : PlatformProperty} {value : Json} :
    (property, value) ∈ fetch source properties ↔
      property ∈ properties ∧ (source property).bind property.value? = some value := by
  simp only [fetch, List.mem_filterMap, Option.map_eq_some_iff, Prod.mk.injEq]
  constructor
  · rintro ⟨_, member, _, answered, rfl, rfl⟩
    exact ⟨member, answered⟩
  · rintro ⟨member, answered⟩
    exact ⟨property, member, value, answered, rfl, rfl⟩

theorem fetch_sublist (source : PropertySource) (properties : List PlatformProperty) :
    ((fetch source properties).map Prod.fst).Sublist properties := by
  induction properties with
  | nil => exact List.Sublist.refl _
  | cons property rest inductionHypothesis =>
      cases answered : (source property).bind property.value? with
      | none =>
          rw [fetch, List.filterMap_cons_none (by rw [answered]; rfl)]
          exact inductionHypothesis.cons property
      | some value =>
          rw [fetch, List.filterMap_cons_some (by rw [answered]; rfl)]
          exact inductionHypothesis.cons_cons property

/-- What is known of a group after some reads, of which the fetches filled it. -/
structure Holds
    (group : PropertyGroup)
    (properties : List PlatformProperty)
    (window : Option Nat)
    (reads fetches : List PropertyRead) : Prop where
  fetchedAt : group.fetchedAt = fetches.getLast?.map PropertyRead.instant
  values : group.values =
    (fetches.getLast?.map fun latest => fetch latest.source properties).getD []
  among : ∀ fetched ∈ fetches, fetched ∈ reads
  apart : ∀ span ∈ window, fetches.IsChain fun first second =>
    first.instant + span ≤ second.instant
  once : window = none → fetches = reads.take 1

theorem holds_new (properties : List PlatformProperty) (window : Option Nat) :
    Holds {} properties window [] [] :=
  ⟨rfl, rfl, by simp, fun _ _ => List.isChain_nil, fun _ => rfl⟩

section Step

variable {group : PropertyGroup} {properties : List PlatformProperty} {window : Option Nat}
  {reads fetches : List PropertyRead} {read : PropertyRead}

/-- A fresh group was fetched, and with a window less than it ago. -/
theorem Holds.latest_of_fresh
    (holds : group.Holds properties window reads fetches)
    (fresh : group.isFresh window read.instant = true) :
    ∃ latest ∈ fetches.getLast?, ∀ span ∈ window, read.instant < latest.instant + span := by
  obtain ⟨instant, isInstant, within⟩ := (group.isFresh_iff window read.instant).mp fresh
  rw [holds.fetchedAt] at isInstant
  obtain ⟨latest, isLatest, rfl⟩ := Option.map_eq_some_iff.mp isInstant
  refine ⟨latest, isLatest, fun span isSpan => ?_⟩
  have short := within span isSpan
  omega

/-- A group that is not fresh is new, or its window has passed since its latest fetch. -/
theorem Holds.apart_of_stale
    (holds : group.Holds properties window reads fetches)
    (later : ∀ fetched ∈ fetches, fetched.instant ≤ read.instant)
    (stale : group.isFresh window read.instant = false) :
    ∀ latest ∈ fetches.getLast?, ∃ span ∈ window, latest.instant + span ≤ read.instant := by
  intro latest isLatest
  have before := later latest (List.mem_of_getLast? isLatest)
  have fetchedThen : group.fetchedAt = some latest.instant := by
    rw [holds.fetchedAt, Option.mem_def.mp isLatest]
    rfl
  by_contra none
  have fresh : group.isFresh window read.instant = true := by
    refine (group.isFresh_iff window read.instant).mpr ⟨_, fetchedThen, fun span isSpan => ?_⟩
    have within : ¬latest.instant + span ≤ read.instant := fun passed =>
      none ⟨span, isSpan, passed⟩
    omega
  rw [fresh] at stale
  cases stale

/-- A fresh group is kept by one more read. -/
theorem Holds.keep
    (holds : group.Holds properties window reads fetches)
    (fresh : group.isFresh window read.instant = true) :
    (group.refresh read.source properties window read.instant).1.Holds properties window
      (reads ++ [read]) fetches := by
  rw [refresh_fst, if_pos fresh]
  refine ⟨holds.fetchedAt, holds.values,
    fun fetched member => List.mem_append_left _ (holds.among fetched member),
    holds.apart, fun unbounded => ?_⟩
  obtain ⟨latest, isLatest, _⟩ := holds.latest_of_fresh fresh
  have some : reads ≠ [] := List.ne_nil_of_mem
    (holds.among latest (List.mem_of_getLast? isLatest))
  rw [holds.once unbounded, List.take_append_of_le_length (List.length_pos_iff.mpr some)]

/-- A group that is not fresh is fetched by one more read. -/
theorem Holds.fetch
    (holds : group.Holds properties window reads fetches)
    (later : ∀ fetched ∈ fetches, fetched.instant ≤ read.instant)
    (stale : group.isFresh window read.instant = false) :
    (group.refresh read.source properties window read.instant).1.Holds properties window
      (reads ++ [read]) (fetches ++ [read]) := by
  have passed := holds.apart_of_stale later stale
  rw [refresh_fst, if_neg (by simp [stale])]
  constructor
  case fetchedAt => simp
  case values => simp
  case among =>
    intro fetched member
    rcases List.mem_append.mp member with earlier | isRead
    · exact List.mem_append_left _ (holds.among fetched earlier)
    · exact List.mem_append_right _ isRead
  case apart =>
    intro span isSpan
    refine List.isChain_append.mpr ⟨holds.apart span isSpan, List.isChain_singleton _, ?_⟩
    intro latest isLatest next isNext
    obtain ⟨other, isOther, after⟩ := passed latest isLatest
    obtain rfl : other = span := Option.mem_unique isOther isSpan
    obtain rfl : read = next := by simpa using isNext
    exact after
  case once =>
    intro unbounded
    -- Without a window only a group that was never fetched is not fresh.
    have unfetched : fetches = [] := by
      refine List.getLast?_eq_none_iff.mp (Option.eq_none_iff_forall_not_mem.mpr ?_)
      intro latest isLatest
      obtain ⟨span, isSpan, _⟩ := passed latest isLatest
      rw [unbounded] at isSpan
      cases isSpan
    have unread : reads = [] := by
      have none := holds.once unbounded
      rw [unfetched] at none
      simpa using none.symm
    rw [unfetched, unread]
    rfl

end Step

end PropertyGroup

/-! ### All groups -/

namespace PlatformContext

def group (context : PlatformContext) : PropertyKind → PropertyGroup
  | .fixed => context.fixed
  | .mobile => context.mobile
  | .network => context.network

/-- The groups after some reads, oldest first. -/
def after (context : PlatformContext) (reads : List PropertyRead) : PlatformContext :=
  reads.foldl (fun context read => (context.refresh read.source read.instant).1) context

/-- The reads at which the source is asked for a property, oldest first. -/
def askedFor (property : PlatformProperty) :
    PlatformContext → List PropertyRead → List PropertyRead
  | _, [] => []
  | context, read :: rest =>
    let answer := context.refresh read.source read.instant
    (if property ∈ answer.2 then [read] else []) ++ askedFor property answer.1 rest

/-- What the entity shows of a property. -/
def shown? (context : PlatformContext) (property : PlatformProperty) : Option Json :=
  context.entity?.bind fun entity => entity.data.get? property.key

@[simp] theorem windows_refresh (context : PlatformContext) (source : PropertySource) (now : Nat) :
    (context.refresh source now).1.windows = context.windows := rfl

theorem group_refresh (context : PlatformContext) (source : PropertySource) (now : Nat)
    (kind : PropertyKind) :
    (context.refresh source now).1.group kind =
      ((context.group kind).refresh source kind.properties
        (kind.window context.windows) now).1 := by
  cases kind <;> rfl

/-- The source is asked for the properties of the groups that are not fresh. -/
theorem mem_refresh_snd (context : PlatformContext) (source : PropertySource) (now : Nat)
    (property : PlatformProperty) :
    property ∈ (context.refresh source now).2 ↔
      (context.group property.kind).isFresh (property.kind.window context.windows) now =
        false := by
  have parts : (context.refresh source now).2 =
      ((context.group .fixed).refresh source PropertyKind.fixed.properties
          (PropertyKind.fixed.window context.windows) now).2 ++
        ((context.group .mobile).refresh source PropertyKind.mobile.properties
          (PropertyKind.mobile.window context.windows) now).2 ++
        ((context.group .network).refresh source PropertyKind.network.properties
          (PropertyKind.network.window context.windows) now).2 := rfl
  have inPart : ∀ kind : PropertyKind,
      property ∈ ((context.group kind).refresh source kind.properties
          (kind.window context.windows) now).2 ↔
        property.kind = kind ∧
          (context.group kind).isFresh (kind.window context.windows) now = false := by
    intro kind
    rw [PropertyGroup.refresh_snd, ← PlatformProperty.mem_properties_iff]
    cases (context.group kind).isFresh (kind.window context.windows) now <;> simp
  rw [parts, List.mem_append, List.mem_append, inPart, inPart, inPart]
  cases property.kind <;> simp

theorem after_concat (context : PlatformContext) (reads : List PropertyRead)
    (read : PropertyRead) :
    context.after (reads ++ [read]) =
      ((context.after reads).refresh read.source read.instant).1 := by
  rw [after, List.foldl_append]
  rfl

theorem windows_after (context : PlatformContext) (reads : List PropertyRead) :
    (context.after reads).windows = context.windows := by
  induction reads using List.reverseRecOn with
  | nil => rfl
  | append_singleton reads read inductionHypothesis =>
      rw [after_concat, windows_refresh, inductionHypothesis]

theorem askedFor_concat (property : PlatformProperty) (context : PlatformContext)
    (reads : List PropertyRead) (read : PropertyRead) :
    askedFor property context (reads ++ [read]) =
      askedFor property context reads ++
        if property ∈ ((context.after reads).refresh read.source read.instant).2 then
          [read]
        else
          [] := by
  induction reads generalizing context with
  | nil => exact List.append_nil _
  | cons first rest inductionHypothesis =>
      rw [List.cons_append, askedFor, inductionHypothesis, ← List.append_assoc]
      rfl

/-- The source is asked for a property unless its group is fresh. -/
theorem askedFor_concat_cases (property : PlatformProperty) (context : PlatformContext)
    (reads : List PropertyRead) (read : PropertyRead) :
    let fresh := ((context.after reads).group property.kind).isFresh
      (property.kind.window context.windows) read.instant
    fresh = true ∧ askedFor property context (reads ++ [read]) = askedFor property context reads ∨
      fresh = false ∧
        askedFor property context (reads ++ [read]) =
          askedFor property context reads ++ [read] := by
  intro fresh
  have asked := mem_refresh_snd (context.after reads) read.source read.instant property
  rw [windows_after] at asked
  rw [askedFor_concat]
  split
  · next isAsked => exact .inr ⟨asked.mp isAsked, rfl⟩
  · next isFresh => exact .inl ⟨by simpa using mt asked.mpr isFresh, List.append_nil _⟩

/-- What is known of each group after some reads in order of time, by induction with the
latest read last. -/
theorem holds_after (windows : RefreshWindows) (reads : List PropertyRead)
    (ascending : (reads.map PropertyRead.instant).Pairwise (· ≤ ·))
    (property : PlatformProperty) :
    (({ windows } : PlatformContext).after reads |>.group property.kind).Holds
      property.kind.properties (property.kind.window windows) reads
      (askedFor property { windows } reads) := by
  induction reads using List.reverseRecOn with
  | nil =>
      have new : ({ windows } : PlatformContext).group property.kind = {} := by
        cases property.kind <;> rfl
      rw [after, List.foldl_nil, new]
      exact PropertyGroup.holds_new _ _
  | append_singleton reads read inductionHypothesis =>
      rw [List.map_append, List.pairwise_append] at ascending
      obtain ⟨earlier, _, before⟩ := ascending
      have holds := inductionHypothesis earlier
      have later : ∀ fetched ∈ askedFor property { windows } reads,
          fetched.instant ≤ read.instant := fun fetched member =>
        before fetched.instant (List.mem_map_of_mem (holds.among fetched member))
          read.instant (by simp)
      rw [after_concat, group_refresh, windows_after]
      rcases askedFor_concat_cases property { windows } reads read with
        ⟨fresh, asked⟩ | ⟨stale, asked⟩
      · rw [asked]
        exact holds.keep fresh
      · rw [asked]
        exact holds.fetch later stale

/-- After a read every group was fetched, less than its window ago or by that read. -/
theorem latest_after (windows : RefreshWindows) (reads : List PropertyRead) (read : PropertyRead)
    (ascending : ((reads ++ [read]).map PropertyRead.instant).Pairwise (· ≤ ·))
    (property : PlatformProperty) :
    ∃ fetches latest,
      askedFor property { windows } (reads ++ [read]) = fetches ++ [latest] ∧
      ∀ span ∈ property.kind.window windows,
        latest = read ∨ read.instant < latest.instant + span := by
  rw [List.map_append, List.pairwise_append] at ascending
  have holds := holds_after windows reads ascending.1 property
  rcases askedFor_concat_cases property { windows } reads read with
    ⟨fresh, asked⟩ | ⟨_, asked⟩
  · obtain ⟨latest, isLatest, within⟩ := holds.latest_of_fresh fresh
    refine ⟨(askedFor property { windows } reads).dropLast, latest, ?_,
      fun span isSpan => .inr (within span isSpan)⟩
    rw [asked]
    exact (List.dropLast_append_getLast? latest isLatest).symm
  · exact ⟨_, read, asked, fun _ _ => .inl rfl⟩

/-- The properties of one group are asked for together. -/
theorem askedFor_of_kind {first second : PlatformProperty} (same : first.kind = second.kind)
    (context : PlatformContext) (reads : List PropertyRead) :
    askedFor first context reads = askedFor second context reads := by
  induction reads generalizing context with
  | nil => rfl
  | cons read rest inductionHypothesis =>
      have asked : first ∈ (context.refresh read.source read.instant).2 ↔
          second ∈ (context.refresh read.source read.instant).2 := by
        rw [mem_refresh_snd, mem_refresh_snd, same]
      simp only [askedFor, asked, inductionHypothesis]

/-! ### Groups apart -/

/-- Two reads at one instant in which the source answers the same for a group. -/
structure SameFor (kind : PropertyKind) (first second : PropertyRead) : Prop where
  instant : first.instant = second.instant
  answers : ∀ property, property.kind = kind → first.source property = second.source property

theorem fetch_congr {kind : PropertyKind} {first second : PropertyRead}
    (same : SameFor kind first second) :
    PropertyGroup.fetch first.source kind.properties =
      PropertyGroup.fetch second.source kind.properties := by
  refine List.filterMap_congr fun property member => ?_
  rw [same.answers property ((property.mem_properties_iff kind).mp member)]

/-- A group depends on its own window and its own answers, so does when it is fetched. -/
theorem after_apart {kind : PropertyKind} {context other : PlatformContext}
    {reads others : List PropertyRead}
    (window : kind.window context.windows = kind.window other.windows)
    (group : context.group kind = other.group kind)
    (same : List.Forall₂ (SameFor kind) reads others) :
    (context.after reads).group kind = (other.after others).group kind ∧
      ∀ property : PlatformProperty, property.kind = kind →
        (askedFor property context reads).map PropertyRead.instant =
          (askedFor property other others).map PropertyRead.instant := by
  induction same generalizing context other with
  | nil => exact ⟨group, fun _ _ => rfl⟩
  | @cons first second rest otherRest sameFirst _ inductionHypothesis =>
      have next : (context.refresh first.source first.instant).1.group kind =
          (other.refresh second.source second.instant).1.group kind := by
        rw [group_refresh, group_refresh, PropertyGroup.refresh_fst, PropertyGroup.refresh_fst,
          group, window, sameFirst.instant, fetch_congr sameFirst]
      obtain ⟨groups, fetches⟩ :=
        @inductionHypothesis (context.refresh first.source first.instant).1
          (other.refresh second.source second.instant).1 window next
      refine ⟨groups, fun property isKind => ?_⟩
      have asked : property ∈ (context.refresh first.source first.instant).2 ↔
          property ∈ (other.refresh second.source second.instant).2 := by
        rw [mem_refresh_snd, mem_refresh_snd, isKind, group, window, sameFirst.instant]
      rw [askedFor, askedFor, List.map_append, List.map_append, fetches property isKind]
      congr 1
      by_cases isAsked : property ∈ (other.refresh second.source second.instant).2
      · rw [if_pos (asked.mpr isAsked), if_pos isAsked]
        exact congrArg (fun instant => [instant]) sameFirst.instant
      · rw [if_neg (mt asked.mp isAsked), if_neg isAsked, List.map_nil]

/-! ### The entity -/

/-- Every group holds values of its own properties, each once. -/
def Sorted (context : PlatformContext) : Prop :=
  ∀ kind, ((context.group kind).values.map Prod.fst).Sublist kind.properties

theorem sorted_after (windows : RefreshWindows) (reads : List PropertyRead) :
    (({ windows } : PlatformContext).after reads).Sorted := by
  induction reads using List.reverseRecOn with
  | nil =>
      intro kind
      cases kind <;> exact List.nil_sublist _
  | append_singleton reads read inductionHypothesis =>
      intro kind
      rw [after_concat, group_refresh, PropertyGroup.refresh_fst]
      split
      · exact inductionHypothesis kind
      · exact PropertyGroup.fetch_sublist _ _

/-- The values of all groups. -/
def values (context : PlatformContext) : List (PlatformProperty × Json) :=
  (context.group .fixed).values ++ (context.group .mobile).values ++
    (context.group .network).values

theorem entity?_eq (context : PlatformContext) :
    context.entity? =
      if context.values = [] then
        none
      else
        some ⟨Schemas.mobileContext,
          Entries.ofPairs (context.values.map fun entry => (entry.1.key, entry.2))⟩ := by
  have pairs : context.fixed.pairs ++ context.mobile.pairs ++ context.network.pairs =
      context.values.map fun entry => (entry.1.key, entry.2) := by
    simp [values, group, PropertyGroup.pairs]
  simp only [entity?, pairs, List.isEmpty_iff, List.map_eq_nil_iff]

section Shown

variable {context : PlatformContext} (sorted : context.Sorted)

include sorted

theorem distinct_keys :
    ((context.values.map fun entry => (entry.1.key, entry.2)).map Prod.fst).Nodup := by
  have properties : (context.values.map Prod.fst).Sublist
      (PlatformProperty.fixed ++ PlatformProperty.mobile ++ PlatformProperty.network) := by
    rw [values, List.map_append, List.map_append]
    exact ((sorted .fixed).append (sorted .mobile)).append (sorted .network)
  have nodup : (context.values.map Prod.fst).Nodup := properties.nodup (by decide)
  have keys : (context.values.map fun entry => (entry.1.key, entry.2)).map Prod.fst =
      (context.values.map Prod.fst).map PlatformProperty.key := by
    simp
  rw [keys]
  exact nodup.map PlatformProperty.key_injective

theorem kind_of_mem_group {kind : PropertyKind} {property : PlatformProperty} {value : Json}
    (member : (property, value) ∈ (context.group kind).values) : property.kind = kind :=
  (property.mem_properties_iff kind).mp
    ((sorted kind).subset (List.mem_map_of_mem member))

theorem mem_values_iff {property : PlatformProperty} {value : Json} :
    (property, value) ∈ context.values ↔
      (property, value) ∈ (context.group property.kind).values := by
  simp only [values, List.mem_append]
  constructor
  · rintro ((inFixed | inMobile) | inNetwork)
    · rwa [kind_of_mem_group sorted inFixed]
    · rwa [kind_of_mem_group sorted inMobile]
    · rwa [kind_of_mem_group sorted inNetwork]
  · intro member
    revert member
    cases property.kind with
    | fixed => exact fun member => .inl (.inl member)
    | mobile => exact fun member => .inl (.inr member)
    | network => exact fun member => .inr member

/-- The entity shows the values that the groups hold. -/
theorem shown?_eq_some_iff {property : PlatformProperty} {value : Json} :
    context.shown? property = some value ↔
      (property, value) ∈ (context.group property.kind).values := by
  rw [← mem_values_iff sorted, shown?, entity?_eq]
  split
  · next nothing => simp [nothing]
  · rw [Option.bind_some, Entries.get?_ofPairs_eq_some_iff (distinct_keys sorted), List.mem_map]
    constructor
    · rintro ⟨⟨other, held⟩, member, same⟩
      obtain ⟨sameKey, rfl⟩ := Prod.mk.inj same
      rwa [← PlatformProperty.key_injective sameKey]
    · exact fun member => ⟨_, member, rfl⟩

/-- Every entry of the entity is a shown property. -/
theorem shown?_of_mem_entity {entity : Entity} (given : entity ∈ context.entity?)
    {entry : String × Json} (member : entry ∈ entity.data) :
    ∃ property : PlatformProperty,
      entry.1 = property.key ∧ context.shown? property = some entry.2 := by
  obtain ⟨key, value⟩ := entry
  rw [entity?_eq] at given
  split at given
  · cases given
  · obtain rfl := Option.some.inj given
    have found := (Entries.mem_iff_get? (Entries.ordered_ofPairs _)).mp member
    rw [Entries.get?_ofPairs_eq_some_iff (distinct_keys sorted)] at found
    obtain ⟨⟨property, held⟩, inGroup, same⟩ := List.mem_map.mp found
    obtain ⟨rfl, rfl⟩ := Prod.mk.inj same
    exact ⟨property, rfl, (shown?_eq_some_iff sorted).mpr ((mem_values_iff sorted).mp inGroup)⟩

/-- There is no entity exactly if no property is shown. -/
theorem entity?_eq_none_iff :
    context.entity? = none ↔ ∀ property, context.shown? property = none := by
  constructor
  · intro none property
    rw [shown?, none]
    rfl
  · intro nothing
    rw [entity?_eq, if_pos]
    refine List.eq_nil_iff_forall_not_mem.mpr fun ⟨property, value⟩ member => ?_
    have shows := (shown?_eq_some_iff sorted).mpr ((mem_values_iff sorted).mp member)
    rw [nothing] at shows
    cases shows

end Shown

/-! ### Every read -/

/-- After some reads, of which `read` is the latest, a property is shown as the source
answered at the latest fetch of its group. That fetch is young enough, the fetches lie a
window apart, and the properties that are read once were fetched by the first read. -/
structure Caches
    (start : PlatformContext)
    (reads : List PropertyRead)
    (read : PropertyRead)
    (property : PlatformProperty)
    (fetches : List PropertyRead)
    (latest : PropertyRead) : Prop where
  asked : ∀ other : PlatformProperty, other.kind = property.kind →
    askedFor other start reads = fetches ++ [latest]
  shown : (start.after reads).shown? property = (latest.source property).bind property.value?
  recent : ∀ span ∈ property.kind.window start.windows,
    latest = read ∨ read.instant < latest.instant + span
  apart : ∀ span ∈ property.kind.window start.windows,
    (fetches ++ [latest]).IsChain fun first second => first.instant + span ≤ second.instant
  once : property.kind = .fixed → fetches = [] ∧ reads.head? = some latest

theorem caches_after (windows : RefreshWindows) (earlier : List PropertyRead)
    (read : PropertyRead)
    (ascending : ((earlier ++ [read]).map PropertyRead.instant).Pairwise (· ≤ ·))
    (property : PlatformProperty) :
    ∃ fetches latest, Caches { windows } (earlier ++ [read]) read property fetches latest := by
  have holds := holds_after windows (earlier ++ [read]) ascending property
  obtain ⟨fetches, latest, asked, recent⟩ := latest_after windows earlier read ascending property
  rw [asked] at holds
  refine ⟨fetches, latest, ?_, ?_, recent, holds.apart, ?_⟩
  · intro other same
    rw [askedFor_of_kind same, asked]
  · refine Option.ext fun value => ?_
    have values := holds.values
    rw [List.getLast?_concat, Option.map_some, Option.getD_some] at values
    have own : property ∈ property.kind.properties :=
      (property.mem_properties_iff _).mpr rfl
    rw [shown?_eq_some_iff (sorted_after windows _), values, PropertyGroup.mem_fetch_iff,
      and_iff_right own]
  · intro isFixed
    have first : fetches ++ [latest] = (earlier ++ [read]).take 1 :=
      holds.once (by rw [isFixed]; rfl)
    obtain ⟨head, rest, reads⟩ : ∃ head rest, earlier ++ [read] = head :: rest :=
      List.exists_cons_of_ne_nil (by simp)
    rw [reads] at first
    obtain ⟨none, isHead⟩ : fetches = [] ∧ [latest] = [head] := by
      simpa [List.append_eq_singleton_iff] using first
    rw [reads, List.singleton_inj.mp isHead]
    exact ⟨none, rfl⟩

/-- At each read every property is shown as its group has it, and no group depends on the
window or the answers of another. There is no entity exactly if no property is shown, and an
entity shows nothing else. -/
theorem reads_show_latest_fetches (windows : RefreshWindows) (earlier : List PropertyRead)
    (read : PropertyRead)
    (ascending : ((earlier ++ [read]).map PropertyRead.instant).Pairwise (· ≤ ·)) :
    let start : PlatformContext := { windows }
    let reads := earlier ++ [read]
    (∀ property, ∃ fetches latest, start.Caches reads read property fetches latest) ∧
      ((start.after reads).entity? = none ↔
        ∀ property, (start.after reads).shown? property = none) ∧
      (∀ entity ∈ (start.after reads).entity?, ∀ entry ∈ entity.data, ∃ property,
        entry.1 = property.key ∧ (start.after reads).shown? property = some entry.2) ∧
      ∀ (kind : PropertyKind) (otherWindows : RefreshWindows) (others : List PropertyRead),
        kind.window windows = kind.window otherWindows →
        List.Forall₂ (SameFor kind) reads others →
        ∀ property : PlatformProperty, property.kind = kind →
          (start.after reads).shown? property =
              (PlatformContext.after { windows := otherWindows } others).shown? property ∧
            (askedFor property start reads).map PropertyRead.instant =
              (askedFor property { windows := otherWindows } others).map
                PropertyRead.instant := by
  intro start reads
  refine ⟨caches_after windows earlier read ascending,
    entity?_eq_none_iff (sorted_after windows reads), ?_, ?_⟩
  · exact fun _ given _ member => shown?_of_mem_entity (sorted_after windows reads) given member
  · intro kind otherWindows others window same property isKind
    have new : start.group kind = ({ windows := otherWindows } : PlatformContext).group kind := by
      cases kind <;> rfl
    obtain ⟨groups, fetches⟩ := after_apart window new same
    refine ⟨Option.ext fun value => ?_, fetches property isKind⟩
    rw [shown?_eq_some_iff (sorted_after windows reads),
      shown?_eq_some_iff (sorted_after otherWindows others), isKind, groups]

/-- At the end of the window of the battery, which has changed as the carrier has. -/
theorem battery_shown_before_carrier :
    let device (battery carrier : String) : PropertySource := fun
      | .batteryLevel => some battery
      | .carrier => some carrier
      | _ => none
    let first : PropertyRead := ⟨device "80" "Acme", 0⟩
    let second : PropertyRead := ⟨device "50" "Other", 1000⟩
    let context := after { windows := ⟨1000, 60000⟩ } ([first] ++ [second])
    ([first, second].map PropertyRead.instant).Pairwise (· ≤ ·) ∧
      context.shown? .batteryLevel = some (.integer 50) ∧
      context.shown? .carrier = some (.string "Acme") ∧
      context.shown? .osType = none := by
  intro device first second context
  have ascending : (([first] ++ [second]).map PropertyRead.instant).Pairwise (· ≤ ·) := by
    decide
  obtain ⟨caches, _⟩ := reads_show_latest_fetches ⟨1000, 60000⟩ [first] second ascending
  -- The latest of the fetches, which are these by evaluation.
  have shows : ∀ (property : PlatformProperty) (before : List PropertyRead) (last : PropertyRead),
      askedFor property { windows := ⟨1000, 60000⟩ } ([first] ++ [second]) = before ++ [last] →
        context.shown? property = (last.source property).bind property.value? := by
    intro property before last isLast
    obtain ⟨fetches, latest, holds⟩ := caches property
    have same := (holds.asked property rfl).symm.trans isLast
    rw [holds.shown, (List.append_singleton_inj.mp same).2]
  refine ⟨ascending, ?_, ?_, ?_⟩
  · rw [shows .batteryLevel [first] second rfl]
    decide +kernel
  · rw [shows .carrier [] first rfl]
    decide +kernel
  · rw [shows .osType [] first rfl]
    decide +kernel

end PlatformContext

end Telemetry
