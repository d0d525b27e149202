/-!
Contract: finite maps as lists of entries in strictly ascending key order.

Owns:
- look-up, insertion with replacement, removal and collection from pairs;
- the order predicate, and that every operation keeps it;
- the entry under a key as one among the others.

Does not own: the order of the keys, which is the `<` of the key type. Texts
compare by code point, which is the order of their UTF-8 bytes.
-/

namespace Telemetry

/-- Entries of a finite map. -/
abbrev Entries (κ α : Type) := List (κ × α)

namespace Entries

variable {κ α : Type}

/-- The keys ascend strictly, so each occurs once. -/
def Ordered [LT κ] (entries : Entries κ α) : Prop :=
  entries.Pairwise fun first second => first.1 < second.1

instance [LT κ] [DecidableLT κ] (entries : Entries κ α) : Decidable entries.Ordered :=
  inferInstanceAs (Decidable (List.Pairwise _ _))

/-- The value under `key`. -/
def get? [DecidableEq κ] : Entries κ α → κ → Option α
  | [], _ => none
  | (key, value) :: rest, wanted => if key = wanted then some value else get? rest wanted

def contains [DecidableEq κ] (entries : Entries κ α) (key : κ) : Bool :=
  (entries.get? key).isSome

/-- Puts `value` under `key`, in place of the value that was there. -/
def insert [LT κ] [DecidableLT κ] [DecidableEq κ] : Entries κ α → κ → α → Entries κ α
  | [], key, value => [(key, value)]
  | (first, held) :: rest, key, value =>
    if key < first then
      (key, value) :: (first, held) :: rest
    else if key = first then
      (key, value) :: rest
    else
      (first, held) :: insert rest key value

/-- Removes the entry under `key`. -/
def erase [DecidableEq κ] (entries : Entries κ α) (key : κ) : Entries κ α :=
  entries.filter fun entry => entry.1 ≠ key

/-- The keys, ascending. -/
def keys (entries : Entries κ α) : List κ := entries.map Prod.fst

/-- Collects pairs; of two pairs with one key the later wins. -/
def ofPairs [LT κ] [DecidableLT κ] [DecidableEq κ] (pairs : List (κ × α)) : Entries κ α :=
  pairs.foldl (fun entries pair => insert entries pair.1 pair.2) []

@[simp]
theorem get?_nil [DecidableEq κ] (key : κ) : get? ([] : Entries κ α) key = none := rfl

theorem get?_insert
    [LT κ] [DecidableLT κ] [DecidableEq κ]
    (entries : Entries κ α)
    (key wanted : κ)
    (value : α) :
    (insert entries key value).get? wanted =
      if key = wanted then some value else entries.get? wanted := by
  induction entries with
  | nil => simp [insert, get?]
  | cons entry rest inductionHypothesis =>
    obtain ⟨first, held⟩ := entry
    simp only [insert]
    split
    · simp [get?]
    · split
      · next same => subst same; simp [get?]; grind
      · simp only [get?, inductionHypothesis]
        grind

theorem get?_insert_self
    [LT κ] [DecidableLT κ] [DecidableEq κ]
    (entries : Entries κ α)
    (key : κ)
    (value : α) :
    (insert entries key value).get? key = some value := by
  simp [get?_insert]

theorem get?_erase
    [DecidableEq κ]
    (entries : Entries κ α)
    (key wanted : κ) :
    (erase entries key).get? wanted =
      if key = wanted then none else entries.get? wanted := by
  induction entries with
  | nil => simp [erase, get?]
  | cons entry rest inductionHypothesis =>
    obtain ⟨first, held⟩ := entry
    simp only [erase] at inductionHypothesis
    simp only [erase, List.filter_cons, get?]
    grind [get?]

theorem mem_insert
    [LT κ] [DecidableLT κ] [DecidableEq κ]
    {entries : Entries κ α}
    {key : κ}
    {value : α}
    {entry : κ × α}
    (member : entry ∈ insert entries key value) :
    entry = (key, value) ∨ entry ∈ entries := by
  induction entries with
  | nil => simpa [insert] using member
  | cons head rest inductionHypothesis =>
    obtain ⟨first, held⟩ := head
    by_cases smaller : key < first
    · simpa [insert, smaller] using member
    · by_cases same : key = first
      · simp [insert, same] at member
        grind
      · simp only [insert, smaller, same, if_false, List.mem_cons] at member
        grind

theorem ordered_nil [LT κ] : Ordered ([] : Entries κ α) := List.Pairwise.nil

/-- Whether entries are in order is decided by their keys. -/
theorem ordered_of_keys
    [LT κ]
    {entries : Entries κ α}
    (keys : List κ)
    (same : entries.keys = keys)
    (ascending : keys.Pairwise (· < ·)) :
    Ordered entries := by
  subst same
  exact List.pairwise_map.mp ascending

theorem ordered_insert
    [LT κ] [DecidableLT κ] [DecidableEq κ]
    [Trans (α := κ) (β := κ) (γ := κ) (· < ·) (· < ·) (· < ·)]
    [Std.Trichotomous (α := κ) (· < ·)]
    {entries : Entries κ α}
    (ordered : Ordered entries)
    (key : κ)
    (value : α) :
    Ordered (insert entries key value) := by
  induction entries with
  | nil => simp [insert, Ordered]
  | cons head rest inductionHypothesis =>
    obtain ⟨first, held⟩ := head
    obtain ⟨above, restOrdered⟩ := List.pairwise_cons.mp ordered
    by_cases smaller : key < first
    · simp only [insert, smaller, if_true]
      refine List.pairwise_cons.mpr ⟨?_, ordered⟩
      intro entry member
      rcases List.mem_cons.mp member with rfl | inRest
      · exact smaller
      · exact Trans.trans smaller (above entry inRest)
    · by_cases same : key = first
      · subst same
        simp only [insert, smaller, if_false, if_true]
        exact List.pairwise_cons.mpr ⟨above, restOrdered⟩
      · simp only [insert, smaller, same, if_false]
        refine List.pairwise_cons.mpr ⟨?_, inductionHypothesis restOrdered⟩
        intro entry member
        rcases mem_insert member with rfl | inRest
        · rcases Std.Trichotomous.rel_or_eq_or_rel_swap
            (r := fun first second : κ => first < second) (a := key) (b := first) with
            less | equal | more
          · exact absurd less smaller
          · exact absurd equal same
          · exact more
        · exact above entry inRest

theorem ordered_erase
    [LT κ] [DecidableEq κ]
    {entries : Entries κ α}
    (ordered : Ordered entries)
    (key : κ) :
    Ordered (erase entries key) :=
  List.Pairwise.filter _ ordered

theorem ordered_ofPairs
    [LT κ] [DecidableLT κ] [DecidableEq κ]
    [Trans (α := κ) (β := κ) (γ := κ) (· < ·) (· < ·) (· < ·)]
    [Std.Trichotomous (α := κ) (· < ·)]
    (pairs : List (κ × α)) :
    Ordered (ofPairs pairs) := by
  suffices general : ∀ start : Entries κ α, Ordered start →
      Ordered (pairs.foldl (fun entries pair => insert entries pair.1 pair.2) start) from
    general [] ordered_nil
  induction pairs with
  | nil => intro start ordered; exact ordered
  | cons pair rest inductionHypothesis =>
    intro start ordered
    exact inductionHypothesis _ (ordered_insert ordered pair.1 pair.2)

/-- Pairs with distinct keys are found under their keys. -/
theorem get?_ofPairs_eq_some_iff
    [LT κ] [DecidableLT κ] [DecidableEq κ]
    {pairs : List (κ × α)}
    (distinct : (pairs.map Prod.fst).Nodup)
    {key : κ}
    {value : α} :
    (ofPairs pairs).get? key = some value ↔ (key, value) ∈ pairs := by
  suffices general : ∀ start : Entries κ α, (∀ pair ∈ pairs, start.get? pair.1 = none) →
      ((pairs.foldl (fun entries pair => insert entries pair.1 pair.2) start).get? key =
          some value ↔ start.get? key = some value ∨ (key, value) ∈ pairs) by
    simpa [ofPairs] using general [] (by simp)
  induction pairs with
  | nil => simp
  | cons pair rest inductionHypothesis =>
    obtain ⟨name, held⟩ := pair
    obtain ⟨fresh, restDistinct⟩ := List.nodup_cons.mp distinct
    intro start free
    have nameFree : start.get? name = none := free (name, held) List.mem_cons_self
    have restFree : ∀ pair ∈ rest, (insert start name held).get? pair.1 = none := by
      intro pair member
      have differs : name ≠ pair.1 := fun same =>
        fresh (List.mem_map.mpr ⟨pair, member, same.symm⟩)
      rw [get?_insert, if_neg differs]
      exact free pair (List.mem_cons_of_mem _ member)
    rw [List.foldl_cons, inductionHypothesis restDistinct _ restFree, get?_insert]
    grind

/-- An entry whose key is past all others goes to the end. -/
theorem insert_last
    [LT κ] [DecidableLT κ] [DecidableEq κ] [Std.Asymm (α := κ) (· < ·)]
    {entries : Entries κ α}
    {key : κ}
    (last : ∀ entry ∈ entries, entry.1 < key)
    (value : α) :
    insert entries key value = entries ++ [(key, value)] := by
  induction entries with
  | nil => rfl
  | cons head rest inductionHypothesis =>
    obtain ⟨first, held⟩ := head
    have smaller : first < key := last (first, held) (by simp)
    have notSmaller : ¬ key < first := Std.Asymm.asymm first key smaller
    have differs : key ≠ first := fun same => notSmaller (same ▸ smaller)
    rw [insert, if_neg notSmaller, if_neg differs,
      inductionHypothesis fun entry member => last entry (List.mem_cons_of_mem _ member),
      List.cons_append]

/-- Entries in order are collected as they are. -/
theorem ofPairs_of_ordered
    [LT κ] [DecidableLT κ] [DecidableEq κ] [Std.Asymm (α := κ) (· < ·)]
    {entries : Entries κ α}
    (ordered : Ordered entries) :
    ofPairs entries = entries := by
  suffices general : ∀ before : Entries κ α, Ordered (before ++ entries) →
      entries.foldl (fun entries pair => insert entries pair.1 pair.2) before =
        before ++ entries from
    general [] ordered
  clear ordered
  induction entries with
  | nil => intro before _; rw [List.foldl_nil, List.append_nil]
  | cons entry rest inductionHypothesis =>
    intro before ordered
    have last : ∀ other ∈ before, other.1 < entry.1 := fun other member =>
      (List.pairwise_append.mp ordered).2.2 other member entry (by simp)
    rw [List.foldl_cons, insert_last last, inductionHypothesis _ (by simpa using ordered),
      List.append_assoc, List.singleton_append]

theorem erase_insert
    [LT κ] [DecidableLT κ] [DecidableEq κ]
    (entries : Entries κ α)
    (key : κ)
    (value : α) :
    (entries.insert key value).erase key = entries.erase key := by
  induction entries with
  | nil => simp [insert, erase]
  | cons entry rest inductionHypothesis =>
    obtain ⟨first, held⟩ := entry
    rw [insert]
    split
    · simp [erase]
    · split
      · next same => simp [erase, same]
      · simp only [erase, List.filter_cons] at inductionHypothesis ⊢
        rw [inductionHypothesis]

theorem erase_of_above
    [LT κ] [DecidableEq κ] [Std.Asymm (α := κ) (· < ·)]
    {entries : Entries κ α}
    {key : κ}
    (above : ∀ entry ∈ entries, key < entry.1) :
    entries.erase key = entries := by
  refine List.filter_eq_self.mpr fun entry member => ?_
  have differs : entry.1 ≠ key := fun same =>
    Std.Asymm.asymm key entry.1 (above entry member) (same ▸ above entry member)
  simpa using differs

/-- The entry under a key, and the others. -/
theorem perm_erase
    [LT κ] [DecidableEq κ] [Std.Asymm (α := κ) (· < ·)]
    {entries : Entries κ α}
    (ordered : entries.Ordered)
    (key : κ) :
    entries.Perm ((entries.get? key).toList.map (key, ·) ++ entries.erase key) := by
  induction entries with
  | nil => exact .refl _
  | cons entry rest inductionHypothesis =>
    obtain ⟨first, held⟩ := entry
    obtain ⟨above, restOrdered⟩ := List.pairwise_cons.mp ordered
    by_cases same : first = key
    · subst same
      have others : erase ((first, held) :: rest) first = rest := by
        rw [erase, List.filter_cons_of_neg (by simp)]
        exact erase_of_above above
      rw [others, get?, if_pos rfl]
      exact .refl _
    · have others : erase ((first, held) :: rest) key = (first, held) :: erase rest key := by
        rw [erase, List.filter_cons_of_pos (by simpa using same)]
        rfl
      rw [others, get?, if_neg same]
      exact ((inductionHypothesis restOrdered).cons _).trans List.perm_middle.symm

theorem mem_iff_get?
    [LT κ] [DecidableEq κ] [Std.Asymm (α := κ) (· < ·)]
    {entries : Entries κ α}
    (ordered : entries.Ordered)
    {key : κ}
    {value : α} :
    (key, value) ∈ entries ↔ entries.get? key = some value := by
  rw [(perm_erase ordered key).mem_iff]
  simp [erase]

/-- An insertion puts an entry beside the others. -/
theorem insert_perm
    [LT κ] [DecidableLT κ] [DecidableEq κ] [Std.Asymm (α := κ) (· < ·)]
    [Trans (α := κ) (β := κ) (γ := κ) (· < ·) (· < ·) (· < ·)]
    [Std.Trichotomous (α := κ) (· < ·)]
    {entries : Entries κ α}
    (ordered : entries.Ordered)
    (key : κ)
    (value : α) :
    (entries.insert key value).Perm ((key, value) :: entries.erase key) := by
  have parts := perm_erase (ordered_insert ordered key value) key
  rwa [get?_insert_self, erase_insert] at parts

end Entries

end Telemetry
