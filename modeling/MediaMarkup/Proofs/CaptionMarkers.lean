import Mathlib.Data.List.DropRight
import MediaMarkup.Caption

/-!
The markers that an alt text starts with. They are looked for round by round: the first of all
markers that the text starts with is taken off, until none is found (`Caption.Rounds`). As no marker
starts another, a round can take off only one, so that the rounds end with the only way to write the
text as markers and a rest without one (`Caption.rounds_iff`). Main statement: `ofAlt_of_stacked`.
-/

namespace MediaMarkup

/-- What an alt text can start with to ask for a figure. -/
inductive Marker
  | word
  | caret
  | star
  | plus
  deriving DecidableEq, Repr

namespace Marker

/-- All markers in the order in which they are looked for. -/
def all : List Marker := [word, caret, star, plus]

def sign : Marker → String
  | .word => "caption:"
  | .caret => "^"
  | .star => "*"
  | .plus => "+"

def mode : Marker → CaptionMode
  | .word => .figcaption
  | .caret => .figcaption
  | .star => .figure
  | .plus => .figure

theorem mem_all (marker : Marker) : marker ∈ all := by
  cases marker <;> decide

theorem length_sign_pos (marker : Marker) : 0 < marker.sign.toList.length := by
  cases marker <;> decide

/-- No marker starts another. -/
theorem eq_of_prefix {marker other : Marker}
    (starts : marker.sign.toList <+: other.sign.toList) : marker = other := by
  revert starts
  cases marker <;> cases other <;> decide

end Marker

namespace Caption

/-- An alt text is markers, one behind the other, in front of a text that starts with none. -/
structure Stacked (alt : String) (markers : List Marker) (text : String) : Prop where
  whole : alt = String.join (markers.map Marker.sign) ++ text
  bare : ∀ marker : Marker, ¬marker.sign.toList <+: text.toList

/-! ## Round by round -/

/-- One round: the first of all markers that a text starts with, and what is behind it. -/
def strip? (cs : List Char) : Option (Marker × List Char) :=
  Marker.all.findSome? fun marker =>
    (marker.sign.toList.isPrefixOf? cs).map fun rest => (marker, rest)

/-- The rounds until no marker is found: what they take off, and what they leave. -/
inductive Rounds : List Char → List Marker → List Char → Prop
  | stop {cs : List Char} (none : strip? cs = none) : Rounds cs [] cs
  | next {cs rest text : List Char} {marker : Marker} {markers : List Marker}
      (found : strip? cs = some (marker, rest)) (later : Rounds rest markers text) :
      Rounds cs (marker :: markers) text

variable {cs rest text : List Char} {marker : Marker} {markers : List Marker}

/-- The order in which markers are looked for does not matter. -/
theorem strip?_eq_some :
    strip? cs = some (marker, rest) ↔ cs = marker.sign.toList ++ rest := by
  have sound {marker : Marker} {rest : List Char} (found : strip? cs = some (marker, rest)) :
      cs = marker.sign.toList ++ rest := by
    obtain ⟨other, -, found⟩ := List.exists_of_findSome?_eq_some found
    obtain ⟨behind, starts, same⟩ := Option.map_eq_some_iff.mp found
    cases same
    exact (List.isPrefixOf?_eq_some_iff_append_eq.mp starts).symm
  refine ⟨sound, ?_⟩
  rintro rfl
  cases found : strip? (marker.sign.toList ++ rest) with
  | none =>
    have here := List.findSome?_eq_none_iff.mp found marker marker.mem_all
    rw [List.isPrefixOf?_eq_some_iff_append_eq.mpr rfl] at here
    cases here
  | some stripped =>
    obtain ⟨other, behind⟩ := stripped
    have whole := sound found
    have same : marker = other := by
      rcases List.prefix_or_prefix_of_prefix (List.prefix_append _ rest)
        (whole ▸ List.prefix_append other.sign.toList behind) with starts | starts
      · exact Marker.eq_of_prefix starts
      · exact (Marker.eq_of_prefix starts).symm
    subst same
    rw [List.append_cancel_left whole]

theorem strip?_eq_none :
    strip? cs = none ↔ ∀ marker : Marker, ¬marker.sign.toList <+: cs := by
  constructor
  · rintro none marker ⟨rest, whole⟩
    rw [strip?_eq_some.mpr whole.symm] at none
    cases none
  · intro bare
    rw [Option.eq_none_iff_forall_ne_some]
    rintro ⟨marker, rest⟩ found
    exact bare marker ⟨rest, (strip?_eq_some.mp found).symm⟩

/-- A round shortens the text. -/
theorem length_of_strip? (found : strip? cs = some (marker, rest)) : rest.length < cs.length := by
  have first := marker.length_sign_pos
  rw [strip?_eq_some.mp found, List.length_append]
  omega

/-- So the rounds come to an end. -/
theorem exists_rounds (cs : List Char) : ∃ markers text, Rounds cs markers text := by
  induction length : cs.length using Nat.strongRecOn generalizing cs with
  | ind n ih =>
    subst length
    cases found : strip? cs with
    | none => exact ⟨[], cs, .stop found⟩
    | some stripped =>
      obtain ⟨markers, text, later⟩ := ih _ (length_of_strip? found) stripped.2 rfl
      exact ⟨stripped.1 :: markers, text, .next found later⟩

theorem Rounds.unique {markers' : List Marker} {text' : List Char}
    (rounds : Rounds cs markers text) (rounds' : Rounds cs markers' text') :
    markers' = markers ∧ text' = text := by
  induction rounds generalizing markers' with
  | stop none =>
    cases rounds' with
    | stop => exact ⟨rfl, rfl⟩
    | next found =>
      rw [none] at found
      cases found
  | next found later ih =>
    cases rounds' with
    | stop none =>
      rw [found] at none
      cases none
    | next found' later' =>
      rw [found] at found'
      cases found'
      obtain ⟨rfl, rfl⟩ := ih later'
      exact ⟨rfl, rfl⟩

/-- The rounds take off all markers in front. -/
theorem rounds_iff :
    Rounds cs markers text ↔
      cs = markers.flatMap (fun marker => marker.sign.toList) ++ text ∧
        ∀ marker : Marker, ¬marker.sign.toList <+: text := by
  constructor
  · intro rounds
    induction rounds with
    | stop none => exact ⟨rfl, strip?_eq_none.mp none⟩
    | next found later ih =>
      rw [strip?_eq_some.mp found, List.flatMap_cons, List.append_assoc, ← ih.1]
      exact ⟨rfl, ih.2⟩
  · rintro ⟨whole, bare⟩
    induction markers generalizing cs with
    | nil =>
      subst whole
      exact .stop (strip?_eq_none.mpr bare)
    | cons marker markers ih =>
      rw [List.flatMap_cons, List.append_assoc] at whole
      exact .next (strip?_eq_some.mpr whole) (ih rfl)

theorem stacked_iff {alt text : String} :
    Stacked alt markers text ↔ Rounds alt.toList markers text.toList := by
  have joined : alt = String.join (markers.map Marker.sign) ++ text ↔
      alt.toList = markers.flatMap (fun marker => marker.sign.toList) ++ text.toList := by
    rw [← String.toList_inj, String.toList_append, String.toList_join, List.flatMap_map]
  rw [rounds_iff, ← joined]
  exact ⟨fun stacked => ⟨stacked.whole, stacked.bare⟩, fun both => ⟨both.1, both.2⟩⟩

/-! ## What the rounds come to -/

/-- A round gives the mode, and what is behind its marker the text. -/
theorem unmark_of_found (found : strip? cs = some (marker, rest)) :
    unmark cs = (some marker.mode, (unmark rest).2) := by
  rw [strip?_eq_some.mp found]
  cases marker <;> rfl

theorem unmark_of_none (none : strip? cs = none) : unmark cs = (.none, cs) := by
  rw [strip?_eq_none] at none
  unfold unmark
  split
  · exact absurd ⟨_, rfl⟩ (none .caret)
  · exact absurd ⟨_, rfl⟩ (none .star)
  · exact absurd ⟨_, rfl⟩ (none .plus)
  · exact absurd ⟨_, rfl⟩ (none .word)
  · rfl

/-- The first round decides about the mode, the last one leaves the text. -/
theorem Rounds.unmark_eq (rounds : Rounds cs markers text) :
    unmark cs = (markers.head?.map Marker.mode, text) := by
  induction rounds with
  | stop none => exact unmark_of_none none
  | next found _ ih => rw [unmark_of_found found, ih, List.head?_cons, Option.map_some]

/-- **Markers are stripped exactly.** There is just one way to write an alt text as markers and a
text that starts with none; the rounds of looking for markers end with it. The first marker gives
the mode, and the text, which is without a marker when it is read again, is all that is kept. -/
theorem ofAlt_of_stacked (alt : String) :
    ∃ markers text, Stacked alt markers text ∧
      (∀ markers' text', Stacked alt markers' text' → markers' = markers ∧ text' = text) ∧
      Rounds alt.toList markers text.toList ∧
      ofAlt? (some alt) =
        (match markers with
          | [] => .plain (some alt)
          | marker :: _ => .marked marker.mode text) ∧
      ofAlt? (some text) = .plain (some text) := by
  obtain ⟨markers, left, rounds⟩ := exists_rounds alt.toList
  obtain ⟨text, rfl⟩ : ∃ text : String, text.toList = left :=
    ⟨.ofList left, String.toList_ofList⟩
  refine ⟨markers, text, stacked_iff.mpr rounds, ?_, rounds, ?_, ?_⟩
  · intro markers' text' stacked'
    obtain ⟨sameMarkers, sameText⟩ := rounds.unique (stacked_iff.mp stacked')
    exact ⟨sameMarkers, String.toList_inj.mp sameText⟩
  · rw [ofAlt?, ofAlt, rounds.unmark_eq]
    cases markers with
    | nil => rfl
    | cons marker markers => simp
  · have again := unmark_of_none (strip?_eq_none.mpr (rounds_iff.mp rounds).2)
    rw [ofAlt?, ofAlt, again]

/-- A marker in the text behind the first stays where something else is in front of it. -/
example : ofAlt? (some "*caption:^a+") = .marked .figure "a+" ∧
    ofAlt? (some " ^a") = .plain (some " ^a") := by
  decide +kernel

end Caption

end MediaMarkup
