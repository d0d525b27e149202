import Mathlib.Data.List.Nodup
import Telemetry.Proofs.Queue.Agreement

/-!
Contract: a table is read past its unreadable rows.

Owns:
- the rows that a call passes over, told by the rows before them;
- the loop that asks for one page after the other behind a cursor, which meets each row
  once;
- what a call answers and which rows it leaves, and when it can do so: all rows that it
  passes over are named by one statement.

Does not own: outages, and a table that is gone.
-/

namespace Telemetry

/-! ### Rows that are passed over -/

/-- How many readable rows are numbered below `id`. -/
def readableBefore (rows : List TableRow) (id : RowId) : Nat :=
  rows.countP fun row => row.event?.isSome && decide (row.id < id)

/-- The unreadable rows that stand before the readable row number `want`, or all unreadable
rows if there are fewer readable ones. -/
def passedOver (want : Nat) (rows : List TableRow) : List TableRow :=
  rows.filter fun row => row.event?.isNone && decide (readableBefore rows row.id < want)

theorem readableBefore_eq_zero
    {rows : List TableRow}
    {id : RowId}
    (later : ∀ row ∈ rows, id < row.id) :
    readableBefore rows id = 0 := by
  refine List.countP_eq_zero.mpr fun row member => ?_
  simp [Int.le_of_lt (later row member)]

theorem passedOver_cons
    {row : TableRow}
    {rest : List TableRow}
    (later : ∀ other ∈ rest, row.id < other.id)
    (want : Nat) :
    passedOver (want + 1) (row :: rest) =
      if row.event?.isSome then passedOver want rest else row :: passedOver (want + 1) rest := by
  have first : readableBefore (row :: rest) row.id = 0 := by
    rw [readableBefore, List.countP_cons_of_neg (by simp)]
    exact readableBefore_eq_zero later
  unfold passedOver
  by_cases readable : row.event?.isSome = true
  · have unnamed : row.event?.isNone = false := by
      simpa [Option.isNone_iff_eq_none, Option.isSome_iff_ne_none] using readable
    rw [if_pos readable, List.filter_cons_of_neg (by simp [unnamed])]
    refine List.filter_congr fun other member => ?_
    have counted : readableBefore (row :: rest) other.id = readableBefore rest other.id + 1 :=
      List.countP_cons_of_pos (by simp [readable, later other member])
    simp only [counted, Nat.succ_lt_succ_iff]
  · have named : row.event?.isNone = true := by
      simpa [Option.isNone_iff_eq_none, Option.isSome_iff_ne_none] using readable
    rw [if_neg readable, List.filter_cons_of_pos (by simp [named, first])]
    congr 1
    refine List.filter_congr fun other member => ?_
    have counted : readableBefore (row :: rest) other.id = readableBefore rest other.id :=
      List.countP_cons_of_neg (by simp [readable])
    rw [counted]

theorem unreadableIds_eq_passedOver
    (want : Nat)
    (rows : List TableRow)
    (ascending : (rows.map TableRow.id).Pairwise (· < ·)) :
    unreadableIds want rows = (passedOver want rows).map TableRow.id := by
  fun_induction unreadableIds want rows with
  | case1 rows => simp [passedOver]
  | case2 want => rfl
  | case3 want row rest event readable inductionHypothesis =>
      obtain ⟨later, restAscending⟩ := List.pairwise_cons.mp ascending
      rw [passedOver_cons (List.forall_mem_map.mp later), if_pos (by simp [readable]),
        inductionHypothesis restAscending]
  | case4 want row rest unreadable inductionHypothesis =>
      obtain ⟨later, restAscending⟩ := List.pairwise_cons.mp ascending
      rw [passedOver_cons (List.forall_mem_map.mp later), if_neg (by simp [unreadable]),
        List.map_cons, inductionHypothesis restAscending]

theorem passedOver_of_unreadable
    {rows : List TableRow}
    (unreadable : ∀ row ∈ rows, row.event? = none)
    {want : Nat}
    (positive : 0 < want) :
    passedOver want rows = rows := by
  refine List.filter_eq_self.mpr fun row member => ?_
  have none : readableBefore rows row.id = 0 :=
    List.countP_eq_zero.mpr fun other isRow => by simp [unreadable other isRow]
  simp [unreadable row member, none, positive]

/-- Rows are told apart by their numbers. -/
theorem id_mem_map_iff
    {rows kept : List TableRow}
    (nodup : (rows.map TableRow.id).Nodup)
    (sub : kept.Sublist rows)
    {row : TableRow}
    (member : row ∈ rows) :
    row.id ∈ kept.map TableRow.id ↔ row ∈ kept := by
  constructor
  · intro named
    obtain ⟨other, keeps, same⟩ := List.mem_map.mp named
    exact List.inj_on_of_nodup_map nodup (sub.subset keeps) member same ▸ keeps
  · exact List.mem_map_of_mem

/-! ### The loop behind a cursor -/

/-- The rows that are numbered past the cursor. -/
def rowsAfter (rows : List TableRow) (cursor : RowId) : List TableRow :=
  rows.filter fun row => decide (cursor < row.id)

/-- The cursor behind a page: the number of its last row. -/
def cursorAfter (cursor : RowId) (page : List TableRow) : RowId :=
  page.foldl (fun _ row => row.id) cursor

theorem cursorAfter_append (cursor : RowId) (front : List TableRow) (last : TableRow) :
    cursorAfter cursor (front ++ [last]) = last.id := by
  simp [cursorAfter]

/-- A later cursor selects among the rows past an earlier one. -/
theorem rowsAfter_rowsAfter
    {cursor later : RowId}
    (past : cursor < later)
    (rows : List TableRow) :
    rowsAfter (rowsAfter rows cursor) later = rowsAfter rows later := by
  unfold rowsAfter
  rw [List.filter_filter]
  refine List.filter_congr fun row _ => ?_
  have both : later < row.id → cursor < row.id := Int.lt_trans past
  simpa using both

/-- Behind the cursor of a page stand the rows after the page. -/
theorem rowsAfter_cursorAfter
    {rows page rest : List TableRow}
    {cursor : RowId}
    (ascending : (rows.map TableRow.id).Pairwise (· < ·))
    (nonempty : page ≠ [])
    (parts : rowsAfter rows cursor = page ++ rest) :
    rowsAfter rows (cursorAfter cursor page) = rest := by
  obtain rfl | ⟨front, last, rfl⟩ := page.eq_nil_or_concat'
  · exact absurd rfl nonempty
  have lastPast : last ∈ rowsAfter rows cursor := by simp [parts]
  have past : cursor < last.id := by simpa using (List.mem_filter.mp lastPast).2
  have inOrder : ((front ++ [last] ++ rest).map TableRow.id).Pairwise (· < ·) := by
    rw [← parts]
    exact ascending.sublist (List.filter_sublist.map _)
  simp only [List.map_append, List.pairwise_append] at inOrder
  obtain ⟨⟨_, _, frontBefore⟩, _, lastBefore⟩ := inOrder
  have frontGoes : rowsAfter (front ++ [last]) last.id = [] := by
    refine List.filter_eq_nil_iff.mpr fun row member => ?_
    rcases List.mem_append.mp member with inFront | isLast
    · have before := frontBefore row.id (List.mem_map_of_mem inFront) last.id (by simp)
      simp [Int.le_of_lt before]
    · simp [List.mem_singleton.mp isLast]
  have restStays : rowsAfter rest last.id = rest := by
    refine List.filter_eq_self.mpr fun row member => ?_
    simpa using lastBefore last.id (by simp) row.id (List.mem_map_of_mem member)
  rw [cursorAfter_append, ← rowsAfter_rowsAfter past, parts, rowsAfter, List.filter_append]
  exact (congrArg₂ _ frontGoes restStays).trans (List.nil_append _)

theorem rowsAfter_cursorAfter_lt
    {rows page : List TableRow}
    {cursor : RowId}
    (nonempty : page ≠ [])
    (selected : page.Sublist (rowsAfter rows cursor)) :
    (rowsAfter rows (cursorAfter cursor page)).length < (rowsAfter rows cursor).length := by
  obtain rfl | ⟨front, last, rfl⟩ := page.eq_nil_or_concat'
  · exact absurd rfl nonempty
  have lastPast : last ∈ rowsAfter rows cursor := selected.subset (by simp)
  have past : cursor < last.id := by simpa using (List.mem_filter.mp lastPast).2
  rw [cursorAfter_append, ← rowsAfter_rowsAfter past]
  refine List.length_filter_lt_length_iff_exists.mpr ⟨last, lastPast, by simp⟩

/-- Asks for as many rows past the cursor as events are still wanted, until enough are found
or a page is short. -/
def readAfter (rows : List TableRow) (cursor : RowId) (want : Nat) : QueuePage :=
  if 0 < want then
    let selected := (rowsAfter rows cursor).take want
    let page := QueuePage.ofRows selected
    if selected.length < want then
      page
    else
      page.append
        (readAfter rows (cursorAfter cursor selected) (want - page.events.length))
  else
    .empty
termination_by (rowsAfter rows cursor).length
decreasing_by
  have nonempty : selected ≠ [] := List.ne_nil_of_length_pos (by omega)
  exact rowsAfter_cursorAfter_lt nonempty (List.take_sublist _ _)

/-- The cursor skips no row and meets none twice: the loop reads the pages of the rows past
its first cursor. -/
theorem readAfter_eq_readPages
    (rows : List TableRow)
    (ascending : (rows.map TableRow.id).Pairwise (· < ·))
    (cursor : RowId)
    (want : Nat) :
    readAfter rows cursor want = readPages (rowsAfter rows cursor) want := by
  fun_induction readAfter rows cursor want with
  | case1 cursor want positive selected page short =>
      have few : (rowsAfter rows cursor).length < want := by
        simp only [selected, List.length_take] at short
        omega
      rw [readPages, if_pos positive]
      simp only [Nat.not_le.mpr few, if_false]
      rfl
  | case2 cursor want positive selected page full inductionHypothesis =>
      have enough : want ≤ (rowsAfter rows cursor).length := by
        simp only [selected, List.length_take] at full
        omega
      have nonempty : selected ≠ [] := List.ne_nil_of_length_pos (by omega)
      have behind : rowsAfter rows (cursorAfter cursor selected) =
          (rowsAfter rows cursor).drop want :=
        rowsAfter_cursorAfter ascending nonempty (List.take_append_drop _ _).symm
      rw [inductionHypothesis, behind]
      conv => rhs; rw [readPages, if_pos positive]
      simp only [enough, if_true]
      rfl
  | case3 cursor want notPositive => rw [readPages, if_neg notPositive]

/-- From below all numbers the loop meets the page of a call. -/
theorem readAfter_page
    {rows : List TableRow}
    (ascending : (rows.map TableRow.id).Pairwise (· < ·))
    {cursor : RowId}
    (below : ∀ row ∈ rows, cursor < row.id)
    (want : Nat) :
    readAfter rows cursor want =
      ⟨(rows.filterMap TableRow.event?).take want, (passedOver want rows).map TableRow.id⟩ := by
  have all : rowsAfter rows cursor = rows :=
    List.filter_eq_self.mpr fun row member => by simpa using below row member
  rw [readAfter_eq_readPages rows ascending, all, ← readPages_events,
    ← unreadableIds_eq_passedOver want rows ascending, ← readPages_unreadable]

/-! ### A call -/

namespace TableQueue

/-- A call reads past the unreadable rows: it answers the first `limit` events, paging finds
just these, and the table loses the rows that were passed over and no others. -/
structure ReadsPast
    (queue : TableQueue)
    (limit : Nat)
    (page : List QueuedEvent)
    (after : TableQueue) : Prop where
  answers : queue.emittable limit = .ok (page, after)
  events : page = (queue.rows.filterMap TableRow.event?).take limit
  paged : ∀ cursor, (∀ row ∈ queue.rows, cursor < row.id) →
    readAfter queue.rows cursor limit = ⟨page, (passedOver limit queue.rows).map TableRow.id⟩
  rows : after.rows = queue.rows.filter fun row => row ∉ passedOver limit queue.rows
  lastId : after.lastId = queue.lastId
  present : after.stored.isSome

theorem unreadableIds_rows (queue : TableQueue) (limit : Nat) :
    unreadableIds limit queue.rows = (passedOver limit queue.rows).map TableRow.id :=
  unreadableIds_eq_passedOver limit queue.rows queue.numbered.ascending

theorem length_unreadableIds (queue : TableQueue) (limit : Nat) :
    (unreadableIds limit queue.rows).length = (passedOver limit queue.rows).length := by
  rw [unreadableIds_rows, List.length_map]

theorem readsPast_of_ok
    {queue after : TableQueue}
    {limit : Nat}
    {page : List QueuedEvent}
    (answered : queue.emittable limit = .ok (page, after))
    (present : after.stored.isSome) :
    queue.ReadsPast limit page after := by
  obtain ⟨isPage, lastId, rows⟩ := emittable_ok answered
  constructor
  case answers => exact answered
  case events => exact isPage
  case paged =>
    intro cursor below
    rw [isPage]
    exact readAfter_page queue.numbered.ascending below limit
  case rows =>
    rw [rows, unreadableIds_rows]
    refine List.filter_congr fun row member => decide_eq_decide.mpr (not_congr ?_)
    exact id_mem_map_iff queue.numbered.nodup List.filter_sublist member
  case lastId => exact lastId
  case present => exact present

/-- A table is read past its unreadable rows exactly if one statement can name those that are
passed over; with more of them the call fails, and the table stays. -/
theorem readsPast_iff
    (queue : TableQueue)
    (present : queue.stored.isSome)
    (limit : Nat) :
    ((∃ page after, queue.ReadsPast limit page after) ↔
        (passedOver limit queue.rows).length ≤ statementLimit) ∧
      (statementLimit < (passedOver limit queue.rows).length →
        queue.emittable limit = .error .tooManyRows) := by
  rw [← length_unreadableIds]
  have fails : statementLimit < (unreadableIds limit queue.rows).length →
      queue.emittable limit = .error .tooManyRows := emittable_of_many present
  refine ⟨⟨?_, ?_⟩, fails⟩
  · rintro ⟨page, after, reads⟩
    by_contra many
    have answers := reads.answers
    rw [fails (Nat.not_le.mp many)] at answers
    cases answers
  · intro few
    obtain ⟨page, after, answered, stays⟩ := emittable_of_few present few
    exact ⟨page, after, readsPast_of_ok answered stays⟩

/-- Texts that are no payloads stand before, between and behind two that are. -/
def mixed : TableQueue where
  stored := some #[⟨1, "", 0⟩, ⟨2, "\x7b\x7d", 0⟩, ⟨4, "", 0⟩, ⟨5, "\x7b\x7d", 0⟩, ⟨7, "", 0⟩]
  lastId := 7
  numbered := by decide

theorem mixed_readsPast : ∃ page after, mixed.ReadsPast 2 page after :=
  (readsPast_iff mixed rfl 2).1.mpr (by decide)

/-- A table of as many rows, none of them readable. -/
def littered (count : Nat) : TableQueue where
  stored := some ((List.range count).map fun (index : Nat) => ⟨index + 1, "", 0⟩).toArray
  lastId := count
  numbered := by
    constructor
    · simp [List.pairwise_map, List.pairwise_lt_range]
    · intro id member
      obtain ⟨index, less, rfl⟩ : ∃ index : Nat, index < count ∧ (index : Int) + 1 = id := by
        simpa using member
      exact Int.add_one_le_of_lt (Int.ofNat_lt.mpr less)

theorem length_passedOver_littered (count : Nat) {limit : Nat} (positive : 0 < limit) :
    (passedOver limit (littered count).rows).length = count := by
  have unreadable : ∀ row ∈ (littered count).rows, row.event? = none := by
    intro row member
    obtain ⟨index, _, rfl⟩ := List.mem_map.mp member
    rw [TableRow.event?, show Payload.parse? "" = none by decide]
    rfl
  rw [passedOver_of_unreadable unreadable positive]
  simp [littered, rows]

/-- With one unreadable row more than a statement can name, asking for the oldest event
fails. -/
theorem littered_not_readsPast :
    (littered 32767).emittable 1 = .error .tooManyRows ∧
      ¬ ∃ page after, (littered 32767).ReadsPast 1 page after := by
  have fails : (littered 32767).emittable 1 = .error .tooManyRows := by
    refine emittable_of_many rfl ?_
    rw [length_unreadableIds, length_passedOver_littered 32767 Nat.zero_lt_one]
    decide
  refine ⟨fails, ?_⟩
  rintro ⟨page, after, reads⟩
  have answers := reads.answers
  rw [fails] at answers
  cases answers

end TableQueue

end Telemetry
