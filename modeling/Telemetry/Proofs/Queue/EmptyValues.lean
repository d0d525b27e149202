import Mathlib.Data.List.Nodup
import Telemetry.Proofs.Queue.RoundTrip

/-!
Contract: where the empty values in payloads come from.

Owns:
- the public ways to a payload: making and filling one, reading a text, and reading the rows
  of a queue into which others may write as well;
- the texts that were read on the way, of callers and of rows that others wrote;
- no way brings in an empty value but one of these texts, and every such text does.

Does not own: which payload an event gets. A text is read with the empty values that it has.
-/

namespace Telemetry

/-- A text that is read as a payload, and the last pair with the key has the empty value. -/
def GivesEmpty (text key : String) : Prop :=
  ∃ pairs, Json.readAll? Payload.readPairs text = some pairs ∧ lastValue? pairs key = some ""

namespace Payload

theorem givesEmpty_iff {text : String} {payload : Payload} (parsed : parse? text = some payload)
    (key : String) : GivesEmpty text key ↔ payload.get? key = some "" := by
  obtain ⟨pairs, read, values⟩ := get?_of_parse? parsed
  rw [values]
  constructor
  · rintro ⟨others, readOthers, empty⟩
    rw [Option.some.inj (read.symm.trans readOthers)]
    exact empty
  · exact fun empty => ⟨pairs, read, empty⟩

theorem exists_of_givesEmpty {text key : String} (gives : GivesEmpty text key) :
    ∃ payload, parse? text = some payload ∧ payload.get? key = some "" := by
  obtain ⟨pairs, read, empty⟩ := gives
  refine ⟨⟨Entries.ofPairs pairs, Entries.ordered_ofPairs pairs⟩, by rw [parse?, read]; rfl, ?_⟩
  exact (get?_ofPairs pairs key).trans empty

/-- Inserting brings in no empty value. -/
theorem get?_of_insert {payload : Payload} {key value wanted : String}
    (empty : (payload.insert key value).get? wanted = some "") :
    payload.get? wanted = some "" := by
  rw [get?_insert] at empty
  split at empty
  · next inserted =>
    rw [Option.some.inj empty] at inserted
    cases inserted.2
  · exact empty

theorem get?_of_foldl_insert {pairs : List (String × String)} {payload : Payload}
    {wanted : String}
    (empty : (pairs.foldl (fun payload pair => payload.insert pair.1 pair.2) payload).get? wanted =
      some "") :
    payload.get? wanted = some "" := by
  induction pairs generalizing payload with
  | nil => exact empty
  | cons pair rest inductionHypothesis => exact get?_of_insert (inductionHypothesis empty)

end Payload

/-- A change of a payload at hand. -/
inductive PayloadEdit where
  | insert (key value : String)
  | insertOption (key : String) (value : Option String)
  | insertJson (value : Json) (encode : Bool) (encodedKey plainKey : String)

namespace PayloadEdit

def apply : PayloadEdit → Payload → Payload
  | .insert key value, payload => payload.insert key value
  | .insertOption key value, payload => payload.insertOption key value
  | .insertJson value encode encodedKey plainKey, payload =>
    payload.insertJson value encode encodedKey plainKey

theorem get?_of_apply {edit : PayloadEdit} {payload : Payload} {wanted : String}
    (empty : (edit.apply payload).get? wanted = some "") : payload.get? wanted = some "" := by
  cases edit with
  | insert key value => exact Payload.get?_of_insert empty
  | insertOption key value =>
      cases value with
      | none => exact empty
      | some value => exact Payload.get?_of_insert empty
  | insertJson value encode encodedKey plainKey =>
      rw [apply, Payload.insertJson] at empty
      split at empty
      · exact Payload.get?_of_insert empty
      · exact Payload.get?_of_insert empty

end PayloadEdit

/-! ### Payloads at hand -/

/-- What a program has come by: payloads, and a queue. Beside it stand which rows of the
queue others wrote, and the texts that were read: neither changes what the program does. -/
structure Holdings where
  payloads : List Payload
  queue : QueueBackend
  foreign : List RowId
  texts : List String

/-- One public operation. Payloads at hand are named by their places; `write` is what another
program does to the table. -/
inductive HoldingsMove where
  | new
  | edit (place : Nat) (edit : PayloadEdit)
  | collect (pairs : List (String × String))
  | parse (text : String)
  | insert (place : Nat) (instant : Int)
  | write (text : String) (instant : Int)
  | read (limit : Nat)
  | remove (ids : List RowId)
  | removeAll
  | evict (eviction : Eviction) (now : Int)

/-- The text that a row of a table holds. -/
def StoredRow.text? (row : StoredRow) : Option String :=
  match row.content with
  | .payload _ => none
  | .text text => some text

namespace StoredRow

theorem text?_eq_some {row : StoredRow} {text : String} :
    row.text? = some text ↔ row.content = .text text := by
  unfold text?
  split <;> simp_all

theorem parse?_of_event? {row : StoredRow} {text : String} {event : QueuedEvent}
    (isText : row.content = .text text) (readable : row.event? = some event) :
    Payload.parse? text = some event.payload := by
  rw [event?, isText] at readable
  obtain ⟨payload, parsed, rfl⟩ := Option.map_eq_some_iff.mp readable
  exact parsed

end StoredRow

namespace Holdings

/-- A program that has opened a table, whoever wrote its rows, or the memory. -/
def opened : Option TableQueue → Holdings
  | none => ⟨[], .memory .empty, [], []⟩
  | some queue => ⟨[], .table queue, queue.rows.map TableRow.id, []⟩

/-- Payloads are come by, from texts or not. -/
def gain (holdings : Holdings) (payloads : List Payload) (texts : List String) : Holdings :=
  { holdings with
    payloads := holdings.payloads ++ payloads
    texts := holdings.texts ++ texts }

/-- The queue that a call leaves; a call that fails leaves it as it was. -/
def leave {α : Type} (holdings : Holdings) (result : Except QueueError (α × QueueBackend)) :
    Holdings :=
  match result with
  | .ok (_, queue) => { holdings with queue }
  | .error _ => holdings

/-- The texts of the rows of a page that others wrote. -/
def textsOf (holdings : Holdings) (page : List QueuedEvent) : List String :=
  (holdings.queue.contents.filter fun row =>
    row.id ∈ holdings.foreign ∧ row.id ∈ page.map QueuedEvent.id).filterMap StoredRow.text?

def move (holdings : Holdings) : HoldingsMove → Holdings
  | .new => holdings.gain [.empty] []
  | .edit place edit => holdings.gain (holdings.payloads[place]?.map edit.apply).toList []
  | .collect pairs => holdings.gain [.ofPairs pairs] []
  | .parse text => holdings.gain (Payload.parse? text).toList [text]
  | .insert place instant =>
    match holdings.payloads[place]? with
    | some payload => holdings.leave (holdings.queue.insert payload instant)
    | none => holdings
  | .write text instant =>
    match holdings.queue with
    | .memory _ => holdings
    | .table queue =>
      match queue.insertText text instant with
      | .ok (id, after) => { holdings with queue := .table after, foreign := id :: holdings.foreign }
      | .error _ => holdings
  | .read limit =>
    match holdings.queue.emittable limit with
    | .ok (page, after) =>
      { holdings.gain (page.map QueuedEvent.payload) (holdings.textsOf page) with queue := after }
    | .error _ => holdings
  | .remove ids => holdings.leave (holdings.queue.remove ids)
  | .removeAll => holdings.leave holdings.queue.removeAll
  | .evict eviction now => holdings.leave (holdings.queue.evict eviction now)

/-- The holdings after moves, the oldest first. -/
def after (holdings : Holdings) (moves : List HoldingsMove) : Holdings := moves.foldl move holdings

theorem mem_textsOf_iff {holdings : Holdings} {page : List QueuedEvent} {text : String} :
    text ∈ holdings.textsOf page ↔
      ∃ row ∈ holdings.queue.contents, row.id ∈ holdings.foreign ∧
        row.id ∈ page.map QueuedEvent.id ∧ row.content = .text text := by
  simp only [textsOf, List.mem_filterMap, List.mem_filter, decide_eq_true_eq, and_assoc,
    StoredRow.text?_eq_some]

/-! ### What a move keeps -/

/-- One of the texts that were read gives the key the empty value. -/
def Given (holdings : Holdings) (key : String) : Prop :=
  ∃ text ∈ holdings.texts, GivesEmpty text key

/-- Every empty value under the key is accounted for by a text that was read, or stands in a
row that another program wrote. -/
structure Accounted (key : String) (holdings : Holdings) : Prop where
  payloads : ∀ payload ∈ holdings.payloads, payload.get? key = some "" → holdings.Given key
  rows : ∀ row ∈ holdings.queue.contents, ∀ event, row.event? = some event →
    event.payload.get? key = some "" → row.id ∈ holdings.foreign ∨ holdings.Given key
  written : ∀ row ∈ holdings.queue.contents, row.id ∈ holdings.foreign →
    ∃ text, row.content = .text text
  used : ∀ id ∈ holdings.foreign, id ≤ holdings.queue.lastId
  texts : ∀ text ∈ holdings.texts, ∀ payload, Payload.parse? text = some payload →
    payload ∈ holdings.payloads

variable {holdings : Holdings} {key : String}

theorem Given.gain (given : holdings.Given key) (payloads : List Payload) (texts : List String) :
    (holdings.gain payloads texts).Given key := by
  obtain ⟨text, member, gives⟩ := given
  exact ⟨text, List.mem_append_left _ member, gives⟩

namespace Accounted

theorem opened (table : Option TableQueue) (key : String) :
    (Holdings.opened table).Accounted key := by
  cases table with
  | none => exact ⟨nofun, nofun, nofun, nofun, nofun⟩
  | some queue =>
      have ids : (QueueBackend.table queue).contents.map StoredRow.id =
          (Holdings.opened (some queue)).foreign := (QueueBackend.table queue).contents_ids
      constructor
      case payloads => exact nofun
      case rows =>
        intro row member _ _ _
        exact .inl (ids ▸ List.mem_map_of_mem member)
      case written =>
        intro row member _
        obtain ⟨source, _, rfl⟩ := List.mem_map.mp member
        exact ⟨source.text, rfl⟩
      case used => exact queue.numbered.bounded
      case texts => exact nofun

/-- What is come by is accounted for if its empty values are, and every text that was read is
among it. -/
theorem gain (accounted : holdings.Accounted key) {payloads : List Payload}
    {texts : List String}
    (given : ∀ payload ∈ payloads, payload.get? key = some "" →
      (holdings.gain payloads texts).Given key)
    (read : ∀ text ∈ texts, ∀ payload, Payload.parse? text = some payload →
      payload ∈ payloads) :
    (holdings.gain payloads texts).Accounted key := by
  constructor
  case payloads =>
    intro payload member empty
    rcases List.mem_append.mp member with old | new
    · exact (accounted.payloads payload old empty).gain payloads texts
    · exact given payload new empty
  case rows =>
    intro row member event readable empty
    exact (accounted.rows row member event readable empty).imp_right fun earlier =>
      earlier.gain payloads texts
  case written => exact accounted.written
  case used => exact accounted.used
  case texts =>
    intro text member payload parsed
    rcases List.mem_append.mp member with old | new
    · exact List.mem_append_left _ (accounted.texts text old payload parsed)
    · exact List.mem_append_right _ (read text new payload parsed)

/-- Rows may go. -/
theorem fewer (accounted : holdings.Accounted key) {rows : List StoredRow} {after : QueueBackend}
    (left : holdings.queue.HasRows rows after) (sub : rows ⊆ holdings.queue.contents) :
    ({ holdings with queue := after } : Holdings).Accounted key := by
  have stood : ∀ row ∈ after.contents, row ∈ holdings.queue.contents := by
    rw [left.contents]
    exact fun row member => sub member
  constructor
  case payloads => exact accounted.payloads
  case rows => exact fun row member => accounted.rows row (stood row member)
  case written => exact fun row member => accounted.written row (stood row member)
  case used =>
    intro id member
    exact Int.le_trans (accounted.used id member) (Int.le_of_eq left.lastId.symm)
  case texts => exact accounted.texts

theorem leave (accounted : holdings.Accounted key) {α : Type}
    {result : Except QueueError (α × QueueBackend)}
    (fewer : ∀ answer after, result = .ok (answer, after) →
      ∃ rows, holdings.queue.HasRows rows after ∧ rows ⊆ holdings.queue.contents) :
    (holdings.leave result).Accounted key := by
  cases result with
  | error cause => exact accounted
  | ok answered =>
      obtain ⟨rows, left, sub⟩ := fewer answered.1 answered.2 rfl
      exact accounted.fewer left sub

/-- The row of a payload at hand is no row of others. -/
theorem insert (accounted : holdings.Accounted key) {payload : Payload}
    (atHand : payload ∈ holdings.payloads) (instant : Int) :
    (holdings.leave (holdings.queue.insert payload instant)).Accounted key := by
  cases inserted : holdings.queue.insert payload instant with
  | error cause => exact accounted
  | ok answered =>
      obtain ⟨id, after⟩ := answered
      obtain ⟨next, last, _, contents⟩ := QueueBackend.insert_ok inserted
      have later : holdings.queue.lastId < id := next ▸ Int.lt_succ _
      rw [Holdings.leave]
      constructor
      case payloads => exact accounted.payloads
      case rows =>
        intro row member event readable empty
        simp only [contents] at member
        rcases List.mem_append.mp member with old | new
        · exact accounted.rows row old event readable empty
        · obtain rfl := List.mem_singleton.mp new
          have reads := holdings.queue.event?_keptAs ⟨id, payload, instant⟩
          obtain rfl := Option.some.inj (reads.symm.trans readable)
          exact .inr (accounted.payloads payload atHand empty)
      case written =>
        intro row member wrote
        simp only [contents] at member
        rcases List.mem_append.mp member with old | new
        · exact accounted.written row old wrote
        · obtain rfl := List.mem_singleton.mp new
          exact absurd (accounted.used id wrote) (Int.not_le.mpr later)
      case used =>
        intro other member
        rw [last]
        exact Int.le_trans (accounted.used other member) (Int.le_of_lt later)
      case texts => exact accounted.texts

theorem write (accounted : holdings.Accounted key) (text : String) (instant : Int) :
    (holdings.move (.write text instant)).Accounted key := by
  rw [move]
  split
  · exact accounted
  · next queue isTable =>
    split
    · next id after inserted =>
      obtain ⟨next, last, rows⟩ := TableQueue.insertText_ok inserted
      have used : ∀ other ∈ holdings.foreign, other ≤ queue.lastId := by
        have used := accounted.used
        rwa [isTable] at used
      constructor
      case payloads => exact accounted.payloads
      case rows =>
        intro row member event readable empty
        simp only [QueueBackend.contents, rows, List.map_append] at member
        rcases List.mem_append.mp member with old | new
        · have stood : row ∈ holdings.queue.contents := by
            rw [isTable]
            exact old
          exact (accounted.rows row stood event readable empty).imp_left
            (List.mem_cons_of_mem _)
        · obtain rfl := List.mem_singleton.mp new
          exact .inl List.mem_cons_self
      case written =>
        intro row member _
        obtain ⟨source, _, rfl⟩ := List.mem_map.mp member
        exact ⟨source.text, rfl⟩
      case used =>
        intro other member
        refine Int.le_trans ?_ (Int.le_of_eq last.symm)
        rcases List.mem_cons.mp member with rfl | old
        · exact Int.le_refl _
        · rw [next]
          exact Int.le_add_one (used other old)
      case texts => exact accounted.texts
    · exact accounted

/-- A page has the payload of every row whose number it has. -/
theorem mem_page_of_id {queue : QueueBackend} {limit : Nat} {page : List QueuedEvent}
    (isPage : page = firstEvents limit queue.contents) {row : StoredRow}
    (stands : row ∈ queue.contents) (onPage : row.id ∈ page.map QueuedEvent.id)
    {event : QueuedEvent} (readable : row.event? = some event) : event ∈ page := by
  obtain ⟨other, member, sameId⟩ := List.mem_map.mp onPage
  have taken := member
  rw [isPage] at taken
  obtain ⟨source, standsToo, reads⟩ := List.mem_filterMap.mp (List.mem_of_mem_take taken)
  have isSource : source = row := by
    refine List.inj_on_of_nodup_map queue.numbered.nodup standsToo stands ?_
    rw [← StoredRow.id_of_event? reads, sameId]
  rw [isSource, readable] at reads
  exact Option.some.inj reads ▸ member

/-- A page has the payloads of its rows: an empty value stands in the row of another program,
whose text is read with it, or is accounted for. -/
theorem read (accounted : holdings.Accounted key) (limit : Nat) :
    (holdings.move (.read limit)).Accounted key := by
  rw [move]
  split
  · next page after answered =>
    obtain ⟨isPage, left⟩ := QueueBackend.emittable_ok answered
    have rowOf : ∀ event ∈ page, ∃ row ∈ holdings.queue.contents, row.event? = some event := by
      intro event member
      rw [isPage] at member
      exact List.mem_filterMap.mp (List.mem_of_mem_take member)
    have gained : (holdings.gain (page.map QueuedEvent.payload) (holdings.textsOf page)).Accounted
        key := by
      apply accounted.gain
      · intro payload member empty
        obtain ⟨event, onPage, rfl⟩ := List.mem_map.mp member
        obtain ⟨row, stands, readable⟩ := rowOf event onPage
        rcases accounted.rows row stands event readable empty with wrote | given
        · obtain ⟨text, isText⟩ := accounted.written row stands wrote
          have read : text ∈ holdings.textsOf page := by
            refine mem_textsOf_iff.mpr ⟨row, stands, wrote, ?_, isText⟩
            exact StoredRow.id_of_event? readable ▸ List.mem_map_of_mem onPage
          refine ⟨text, List.mem_append_right _ read, ?_⟩
          exact (Payload.givesEmpty_iff (row.parse?_of_event? isText readable) key).mpr empty
        · exact given.gain _ _
      · intro text member payload parsed
        obtain ⟨row, stands, _, onPage, isText⟩ := mem_textsOf_iff.mp member
        have readable : row.event? = some ⟨row.id, payload⟩ := by
          rw [StoredRow.event?, isText]
          simp only [parsed, Option.map_some]
        exact List.mem_map_of_mem (mem_page_of_id isPage stands onPage readable)
    exact gained.fewer left (afterReading_sublist _ _).subset
  · exact accounted

theorem move (accounted : holdings.Accounted key) (move : HoldingsMove) :
    (holdings.move move).Accounted key := by
  cases move with
  | new =>
      refine accounted.gain (fun payload member empty => ?_) nofun
      rw [List.mem_singleton.mp member] at empty
      cases empty
  | edit place edit =>
      refine accounted.gain (fun payload member empty => ?_) nofun
      obtain ⟨source, isPlace, rfl⟩ := Option.map_eq_some_iff.mp (Option.mem_toList.mp member)
      have atHand : source ∈ holdings.payloads := List.mem_of_getElem? isPlace
      exact (accounted.payloads source atHand (PayloadEdit.get?_of_apply empty)).gain _ _
  | collect pairs =>
      refine accounted.gain (fun payload member empty => ?_) nofun
      rw [List.mem_singleton.mp member] at empty
      cases Payload.get?_of_foldl_insert empty
  | parse text =>
      apply accounted.gain
      · intro payload member empty
        have parsed := Option.mem_toList.mp member
        exact ⟨text, by simp [Holdings.gain], (Payload.givesEmpty_iff parsed key).mpr empty⟩
      · intro other member payload parsed
        rw [List.mem_singleton.mp member] at parsed
        exact Option.mem_toList.mpr parsed
  | insert place instant =>
      rw [Holdings.move]
      split
      · next payload isPlace => exact accounted.insert (List.mem_of_getElem? isPlace) instant
      · exact accounted
  | write text instant => exact accounted.write text instant
  | read limit => exact accounted.read limit
  | remove ids =>
      exact accounted.leave fun _ _ removed =>
        ⟨_, QueueBackend.remove_ok removed, List.filter_sublist.subset⟩
  | removeAll =>
      exact accounted.leave fun _ _ removed =>
        ⟨_, QueueBackend.removeAll_ok removed, List.nil_subset _⟩
  | evict eviction now =>
      exact accounted.leave fun _ _ evicted =>
        ⟨_, QueueBackend.evict_ok evicted, (Eviction.kept_sublist _ _ _).subset⟩

theorem after (accounted : holdings.Accounted key) (moves : List HoldingsMove) :
    (holdings.after moves).Accounted key := by
  induction moves generalizing holdings with
  | nil => exact accounted
  | cons move rest inductionHypothesis => exact inductionHypothesis (accounted.move move)

end Accounted

/-- After any moves some payload at hand has an empty value under the key exactly if some text
that was read gives it: the texts are the only way in, and no text with an empty value is kept
out. -/
theorem exists_empty_iff (table : Option TableQueue) (moves : List HoldingsMove) (key : String) :
    (∃ payload ∈ ((opened table).after moves).payloads, payload.get? key = some "") ↔
      ∃ text ∈ ((opened table).after moves).texts, GivesEmpty text key := by
  have accounted := (Accounted.opened table key).after moves
  constructor
  · rintro ⟨payload, atHand, empty⟩
    exact accounted.payloads payload atHand empty
  · rintro ⟨text, read, gives⟩
    obtain ⟨payload, parsed, empty⟩ := Payload.exists_of_givesEmpty gives
    exact ⟨payload, accounted.texts text read payload parsed, empty⟩

/-- Reading an object with an empty value gives a payload with an empty value. -/
theorem parsed_empty_value :
    ∃ payload ∈ ((opened none).after [.parse "\x7b\"a\":\"\"\x7d"]).payloads,
      payload.get? "a" = some "" := by
  decide

end Holdings

end Telemetry
