import Mathlib.Data.List.Infix
import Telemetry.Tracker.Build

/-!
Contract: what is left of an address whose scheme is too long.

Owns:
- where the scheme of an address ends: before the first mark in it;
- that an address is split there, if it has a mark at all;
- that exactly the schemes beyond the limit are cut, and that a cut address is cut no further.

Does not own: which addresses are cut.

## Why a cut moves no mark

A scheme that is cut ends anywhere, so the mark might seem to begin earlier in what is left. It does
not: no beginning of the mark is an ending of it. So the first mark of a text is the one that
follows no other, and what is left of a scheme without a mark has none either.
-/

namespace Telemetry.Build

/-! ### Marks -/

/-- The mark between the scheme of an address and the rest. -/
def schemeMark : List Char := [':', '/', '/']

section Characters

variable {text scheme rest after : List Char}

/-- Marks do not overlap: in a text that begins with one, nothing or a whole mark stands before any
other. -/
theorem eq_nil_or_prefix_of_marks
    (parts : scheme ++ schemeMark ++ rest = schemeMark ++ after) :
    scheme = [] ∨ schemeMark <+: scheme := by
  match scheme, parts with
  | [], _ => exact .inl rfl
  | [_], parts => simp [schemeMark] at parts
  | [_, _], parts => simp [schemeMark] at parts
  | first :: second :: third :: more, parts =>
      simp only [schemeMark, List.cons_append, List.cons.injEq] at parts
      obtain ⟨rfl, rfl, rfl, -⟩ := parts
      exact .inr ⟨more, rfl⟩

/-- No mark begins before the one behind the scheme exactly if the scheme has none. -/
theorem first_iff_unmarked (rest : List Char) :
    (∀ before after, scheme ++ schemeMark ++ rest = before ++ schemeMark ++ after →
        scheme.length ≤ before.length) ↔ ¬ schemeMark <:+: scheme := by
  constructor
  · rintro first ⟨before, after, inScheme⟩
    have bound := first before (after ++ schemeMark ++ rest) (by rw [← inScheme]; simp)
    have length := congrArg List.length inScheme
    simp only [List.length_append, schemeMark, List.length_cons] at length
    omega
  · intro unmarked before after same
    simp only [List.append_assoc] at same
    rcases List.append_eq_append_iff.mp same with ⟨more, isLonger, -⟩ | ⟨more, isShorter, marks⟩
    · rw [isLonger, List.length_append]
      exact Nat.le_add_right _ _
    · rw [← List.append_assoc] at marks
      rcases eq_nil_or_prefix_of_marks marks.symm with rfl | marked
      · rw [isShorter, List.append_nil]
      · have inScheme := marked.isInfix.trans (List.suffix_append before more).isInfix
        exact absurd (isShorter ▸ inScheme) unmarked

theorem splitScheme_mark (rest : List Char) : splitScheme (schemeMark ++ rest) = some ([], rest) :=
  rfl

theorem splitScheme_cons {character : Char} (unmarked : ¬ schemeMark <+: character :: rest) :
    splitScheme (character :: rest) =
      (splitScheme rest).map fun parts => (character :: parts.1, parts.2) := by
  rw [splitScheme]
  rintro behind rfl rfl
  exact unmarked ⟨behind, rfl⟩

/-- A text is split at the mark that follows no other. -/
theorem splitScheme_eq_some_iff :
    splitScheme text = some (scheme, rest) ↔
      text = scheme ++ schemeMark ++ rest ∧ ¬ schemeMark <:+: scheme := by
  induction text generalizing scheme with
  | nil => simp [splitScheme, schemeMark]
  | cons character others inductionHypothesis =>
      by_cases starts : schemeMark <+: character :: others
      · obtain ⟨behind, starts⟩ := starts
        rw [← starts, splitScheme_mark]
        constructor
        · rintro ⟨⟩
          exact ⟨rfl, by simp [schemeMark]⟩
        · rintro ⟨parts, unmarked⟩
          rcases eq_nil_or_prefix_of_marks parts.symm with rfl | marked
          · rw [List.append_cancel_left (parts : schemeMark ++ behind = schemeMark ++ rest)]
          · exact absurd marked.isInfix unmarked
      · rw [splitScheme_cons starts, Option.map_eq_some_iff]
        constructor
        · rintro ⟨⟨inner, behind⟩, isSplit, same⟩
          obtain ⟨rfl, rfl⟩ := Prod.mk.inj same
          obtain ⟨rfl, unmarked⟩ := inductionHypothesis.mp isSplit
          refine ⟨rfl, fun marked => ?_⟩
          rcases List.infix_cons_iff.mp marked with atStart | inside
          · exact starts (atStart.trans ⟨schemeMark ++ behind, by simp⟩)
          · exact unmarked inside
        · rintro ⟨parts, unmarked⟩
          cases scheme with
          | nil => exact absurd ⟨rest, parts.symm⟩ starts
          | cons first inner =>
              obtain ⟨rfl, rfl⟩ := List.cons.inj parts
              have innerUnmarked : ¬ schemeMark <:+: inner :=
                fun inside => unmarked (List.infix_cons inside)
              exact ⟨(inner, rest), inductionHypothesis.mpr ⟨rfl, innerUnmarked⟩, rfl⟩

theorem splitScheme_eq_none_iff : splitScheme text = none ↔ ¬ schemeMark <:+: text := by
  induction text with
  | nil => simp [splitScheme, schemeMark]
  | cons character others inductionHypothesis =>
      rw [List.infix_cons_iff]
      by_cases starts : schemeMark <+: character :: others
      · obtain ⟨behind, isText⟩ := starts
        rw [← isText, splitScheme_mark]
        simp
      · rw [splitScheme_cons starts, Option.map_eq_none_iff, inductionHypothesis]
        simp [starts]

end Characters

/-! ### Schemes -/

/-- The address has a mark somewhere. -/
def HasMark (address : String) : Prop := ∃ before after, address = before ++ "://" ++ after

/-- The address is split at its first mark: no other begins before this one. -/
structure SplitsAtMark (address scheme rest : String) : Prop where
  parts : address = scheme ++ "://" ++ rest
  first : ∀ before after, address = before ++ "://" ++ after → scheme.length ≤ before.length

/-- What an address is cut to: the whole of it, unless the part before its first mark has more than
16 characters, of which the first 16 are left then. -/
inductive SchemeCut (address : String) : String → Prop where
  | unmarked : ¬ HasMark address → SchemeCut address address
  | short {scheme rest : String} : SplitsAtMark address scheme rest → scheme.length ≤ 16 →
      SchemeCut address address
  | long {scheme rest : String} : SplitsAtMark address scheme rest → 16 < scheme.length →
      SchemeCut address (String.ofList (scheme.toList.take 16) ++ "://" ++ rest)

variable {address scheme rest : String}

theorem eq_append_mark_iff :
    address = scheme ++ "://" ++ rest ↔
      address.toList = scheme.toList ++ schemeMark ++ rest.toList := by
  rw [← String.toList_inj, String.toList_append, String.toList_append]
  rfl

theorem hasMark_iff : HasMark address ↔ schemeMark <:+: address.toList := by
  constructor
  · rintro ⟨before, after, parts⟩
    exact ⟨before.toList, after.toList, (eq_append_mark_iff.mp parts).symm⟩
  · rintro ⟨before, after, parts⟩
    refine ⟨String.ofList before, String.ofList after, eq_append_mark_iff.mpr ?_⟩
    rw [String.toList_ofList, String.toList_ofList, parts]

theorem splitsAtMark_iff :
    SplitsAtMark address scheme rest ↔
      splitScheme address.toList = some (scheme.toList, rest.toList) := by
  rw [splitScheme_eq_some_iff, ← first_iff_unmarked rest.toList]
  constructor
  · rintro ⟨parts, first⟩
    have characters := eq_append_mark_iff.mp parts
    refine ⟨characters, fun before after same => ?_⟩
    have earlier : address = String.ofList before ++ "://" ++ String.ofList after := by
      rw [eq_append_mark_iff, characters, same, String.toList_ofList, String.toList_ofList]
    have bound := first _ _ earlier
    rwa [String.length_ofList, ← String.length_toList] at bound
  · rintro ⟨characters, first⟩
    refine ⟨eq_append_mark_iff.mpr characters, fun before after parts => ?_⟩
    have same := characters.symm.trans (eq_append_mark_iff.mp parts)
    have bound := first _ _ same
    rwa [String.length_toList, String.length_toList] at bound

theorem SplitsAtMark.unique {otherScheme otherRest : String}
    (splits : SplitsAtMark address scheme rest)
    (splitsOther : SplitsAtMark address otherScheme otherRest) :
    scheme = otherScheme ∧ rest = otherRest := by
  have same := (splitsAtMark_iff.mp splits).symm.trans (splitsAtMark_iff.mp splitsOther)
  obtain ⟨sameScheme, sameRest⟩ := Prod.mk.inj (Option.some.inj same)
  exact ⟨String.toList_inj.mp sameScheme, String.toList_inj.mp sameRest⟩

theorem SplitsAtMark.hasMark (splits : SplitsAtMark address scheme rest) : HasMark address :=
  ⟨scheme, rest, splits.parts⟩

/-- An address without a mark is not split, and any other is split at its first one. -/
theorem unmarked_or_splitsAtMark (address : String) :
    ¬ HasMark address ∨ ∃ scheme rest, SplitsAtMark address scheme rest := by
  cases found : splitScheme address.toList with
  | none => exact .inl (hasMark_iff.not.mpr (splitScheme_eq_none_iff.mp found))
  | some parts =>
      refine .inr ⟨String.ofList parts.1, String.ofList parts.2, splitsAtMark_iff.mpr ?_⟩
      rw [found, String.toList_ofList, String.toList_ofList]

/-- A beginning of the scheme before the same rest is again what stands before the first mark. -/
theorem SplitsAtMark.take (splits : SplitsAtMark address scheme rest) (limit : Nat) :
    SplitsAtMark (String.ofList (scheme.toList.take limit) ++ "://" ++ rest)
      (String.ofList (scheme.toList.take limit)) rest := by
  obtain ⟨-, unmarked⟩ := splitScheme_eq_some_iff.mp (splitsAtMark_iff.mp splits)
  rw [splitsAtMark_iff, splitScheme_eq_some_iff, String.toList_ofList]
  refine ⟨?_, fun marked => unmarked (marked.trans (List.take_prefix limit _).isInfix)⟩
  rw [eq_append_mark_iff.mp rfl, String.toList_ofList]

/-! ### Cutting -/

theorem truncateScheme_of_unmarked (unmarked : ¬ HasMark address) :
    truncateScheme address = address := by
  rw [truncateScheme, splitScheme_eq_none_iff.mpr (hasMark_iff.not.mp unmarked)]

theorem truncateScheme_of_short (splits : SplitsAtMark address scheme rest)
    (short : scheme.length ≤ schemeLimit) : truncateScheme address = address := by
  rw [truncateScheme, splitsAtMark_iff.mp splits]
  exact if_neg (Nat.not_lt.mpr short)

theorem truncateScheme_of_long (splits : SplitsAtMark address scheme rest)
    (long : schemeLimit < scheme.length) :
    truncateScheme address =
      String.ofList (scheme.toList.take schemeLimit) ++ "://" ++ rest := by
  rw [truncateScheme, splitsAtMark_iff.mp splits]
  refine (if_pos long).trans ?_
  rw [eq_append_mark_iff, String.toList_ofList, String.toList_ofList]
  rfl

theorem truncateScheme_eq_iff {cut : String} :
    truncateScheme address = cut ↔ SchemeCut address cut := by
  constructor
  · rintro rfl
    rcases unmarked_or_splitsAtMark address with unmarked | ⟨scheme, rest, splits⟩
    · rw [truncateScheme_of_unmarked unmarked]
      exact .unmarked unmarked
    · rcases Nat.lt_or_ge schemeLimit scheme.length with long | short
      · rw [truncateScheme_of_long splits long]
        exact .long splits long
      · rw [truncateScheme_of_short splits short]
        exact .short splits short
  · intro isCut
    cases isCut with
    | unmarked unmarked => exact truncateScheme_of_unmarked unmarked
    | short splits short => exact truncateScheme_of_short splits short
    | long splits long => exact truncateScheme_of_long splits long

/-- What is left of an address has a short scheme. -/
theorem length_scheme_truncateScheme (splits : SplitsAtMark (truncateScheme address) scheme rest) :
    scheme.length ≤ schemeLimit := by
  have isCut := truncateScheme_eq_iff.mp (rfl : truncateScheme address = truncateScheme address)
  generalize truncateScheme address = cut at isCut splits
  cases isCut with
  | unmarked unmarked => exact absurd splits.hasMark unmarked
  | short splitsBefore short =>
      obtain ⟨rfl, rfl⟩ := splits.unique splitsBefore
      exact short
  | long splitsBefore long =>
      obtain ⟨rfl, rfl⟩ := splits.unique (splitsBefore.take schemeLimit)
      rw [String.length_ofList]
      exact List.length_take_le _ _

/-- An address is left as it is unless more than 16 characters stand before its first mark. Then the
first 16 of them are left, with the mark and all that is behind it. What is left has at most 16
characters before its own first mark, and is cut no further. -/
theorem long_schemes_are_cut (address : String) :
    (∀ cut, truncateScheme address = cut ↔ SchemeCut address cut) ∧
      (∀ scheme rest, SplitsAtMark (truncateScheme address) scheme rest → scheme.length ≤ 16) ∧
      truncateScheme (truncateScheme address) = truncateScheme address := by
  refine ⟨fun cut => truncateScheme_eq_iff, fun scheme rest => length_scheme_truncateScheme, ?_⟩
  rcases unmarked_or_splitsAtMark (truncateScheme address) with unmarked | ⟨scheme, rest, splits⟩
  · exact truncateScheme_of_unmarked unmarked
  · exact truncateScheme_of_short splits (length_scheme_truncateScheme splits)

/-- The first 16 characters end like the beginning of a mark, and a mark follows. -/
theorem scheme_that_ends_like_mark_is_cut :
    let address := "ébcdefghijklmn:/é:/:://x://y"
    let cut := "ébcdefghijklmn:/://x://y"
    SplitsAtMark address "ébcdefghijklmn:/é:/:" "x://y" ∧ truncateScheme address = cut ∧
      SplitsAtMark cut "ébcdefghijklmn:/" "x://y" ∧ "ébcdefghijklmn:/".length ≤ 16 ∧
      truncateScheme cut = cut := by
  intro address cut
  obtain ⟨isCut, bound, cutAgain⟩ := long_schemes_are_cut address
  have splits : SplitsAtMark address "ébcdefghijklmn:/é:/:" "x://y" :=
    splitsAtMark_iff.mpr (by decide +kernel)
  have left : SplitsAtMark cut "ébcdefghijklmn:/" "x://y" :=
    splitsAtMark_iff.mpr (by decide +kernel)
  have isLeft : truncateScheme address = cut := (isCut cut).mpr (.long splits (by decide +kernel))
  rw [isLeft] at bound cutAgain
  exact ⟨splits, isLeft, left, bound _ _ left, cutAgain⟩

end Telemetry.Build
