import Mathlib.Data.List.Nodup
import MediaMarkup.Proofs.StyleText

/-!
The normal form of a style text. Reading a text and writing what was read leaves out what is no
declaration, the spaces around what is one, and all but the last value of a property. Nothing is
left to be tidied then: the texts in normal form are just those that stay as they are
(`tidied_eq_self_iff`). Main statement: the normal form is read as the text was, in the same order,
and declarations are read as they were written (`parse_tidied_and_render`).
-/

namespace MediaMarkup

namespace Text

theorem join_cons_head (separator c : Char) (piece : List Char) (rest : List (List Char)) :
    join [separator] ((c :: piece) :: rest) = c :: join [separator] (piece :: rest) := by
  cases rest <;> rfl

/-- The pieces of a text make up that text. -/
theorem join_pieces (separator : Char) (cs : List Char) :
    join [separator] (pieces (· = separator) cs) = cs := by
  induction cs with
  | nil => rfl
  | cons c cs ih =>
    rw [pieces]
    cases later : pieces (· = separator) cs with
    | nil => exact absurd later (pieces_ne_nil _ _)
    | cons piece rest =>
      rw [later] at ih
      split
      · rename_i here
        have parted : join [separator] ([] :: piece :: rest) =
            separator :: join [separator] (piece :: rest) := rfl
        rw [parted, ih, of_decide_eq_true here]
      · rw [join_cons_head, ih]

end Text

namespace Style

/-- A style text as it is written from what is read in it. -/
def tidied (text : String) : String := render (parse text)

/-- A style text in normal form: declarations as they are written, with nothing but semicolons
between them, and no property twice. -/
structure IsTidied (text : String) : Prop where
  declared : text ≠ "" → ∀ piece ∈ Text.pieces (· = ';') text.toList,
    ∃ declaration, IsDeclaration declaration ∧ renderDeclaration declaration = piece
  distinct : ((Text.pieces (· = ';') text.toList).map fun piece => (Text.cut ':' piece).1).Nodup

variable {declaration : String × String} {declarations : Entries String} {text : String}

theorem IsDeclaration.cut_renderDeclaration (is : IsDeclaration declaration) :
    (Text.cut ':' (renderDeclaration declaration)).1 = declaration.1.toList := by
  rw [renderDeclaration, Text.cut_append_cons is.property.noColon]

/-! ## What is written is in normal form -/

theorem pieces_render (nonempty : declarations ≠ [])
    (are : ∀ entry ∈ declarations, IsDeclaration entry) :
    Text.pieces (· = ';') (render declarations).toList = declarations.map renderDeclaration := by
  have each : ∀ entry ∈ declarations,
      Text.pieces (· = ';') (renderDeclaration entry) = [renderDeclaration entry] :=
    fun entry mem => Text.pieces_of_whole (are entry mem).whole_renderDeclaration
  rw [render, String.toList_ofList, Text.pieces_join (by decide) (by simpa using nonempty),
    List.flatMap_map, List.flatMap_congr each, List.map_eq_flatMap]

/-- The properties of declarations are what stands before the colons. -/
theorem map_cut_renderDeclaration (are : ∀ entry ∈ declarations, IsDeclaration entry) :
    (declarations.map renderDeclaration).map (fun piece => (Text.cut ':' piece).1) =
      (Entries.names declarations).map String.toList := by
  rw [Entries.names, List.map_map, List.map_map]
  exact List.map_congr_left fun entry mem => (are entry mem).cut_renderDeclaration

theorem isTidied_render (distinct : (Entries.names declarations).Nodup)
    (are : ∀ entry ∈ declarations, IsDeclaration entry) : IsTidied (render declarations) := by
  by_cases empty : declarations = []
  · subst empty
    exact ⟨fun nonempty => absurd rfl nonempty, by decide⟩
  · have pieces := pieces_render empty are
    refine ⟨fun _ piece mem => ?_, ?_⟩
    · rw [pieces, List.mem_map] at mem
      obtain ⟨entry, mem, rfl⟩ := mem
      exact ⟨entry, are entry mem, rfl⟩
    · rw [pieces, map_cut_renderDeclaration are]
      exact List.Nodup.map (fun _ _ => String.toList_inj.mp) distinct

/-! ## Normal forms stay as they are -/

/-- Pieces that are written declarations are read and written back. -/
theorem map_filterMap_declaration? {pieces : List (List Char)} (declared : ∀ piece ∈ pieces,
      ∃ declaration, IsDeclaration declaration ∧ renderDeclaration declaration = piece) :
    (pieces.filterMap declaration?).map renderDeclaration = pieces := by
  induction pieces with
  | nil => rfl
  | cons piece rest ih =>
    rw [List.forall_mem_cons] at declared
    obtain ⟨⟨declaration, is, rfl⟩, later⟩ := declared
    rw [List.filterMap_cons, declaration?_renderDeclaration is, List.map_cons, ih later]

theorem IsTidied.tidied_eq (tidy : IsTidied text) : tidied text = text := by
  by_cases empty : text = ""
  · subst empty
    rfl
  · have written := map_filterMap_declaration? (tidy.declared empty)
    have distinct := tidy.distinct
    rw [tidied, render, parse]
    generalize found : (Text.pieces (· = ';') text.toList).filterMap declaration? = read
      at written ⊢
    have are : ∀ entry ∈ read, IsDeclaration entry :=
      fun entry mem => isDeclaration_of_pieces (found ▸ mem)
    rw [← written, map_cut_renderDeclaration are] at distinct
    rw [Entries.ofList_of_nodup (List.Nodup.of_map _ distinct), written, Text.join_pieces,
      String.ofList_toList]

theorem isTidied_tidied (text : String) : IsTidied (tidied text) :=
  isTidied_render (nodup_parse text) fun _ => isDeclaration_of_parse

theorem tidied_eq_self_iff : tidied text = text ↔ IsTidied text :=
  ⟨fun same => same ▸ isTidied_tidied text, IsTidied.tidied_eq⟩

/-- **Style texts have a normal form**: tidying a text changes nothing that is read in it, so that
tidying it twice is tidying it once. Declarations of different properties are read as they were
written, in their order, if they are trimmed and without separators, and only then. -/
theorem parse_tidied_and_render :
    (∀ text, parse (tidied text) = parse text ∧ tidied (tidied text) = tidied text ∧
      (tidied text = text ↔ IsTidied text)) ∧
    ∀ declarations : Entries String, (Entries.names declarations).Nodup →
      (parse (render declarations) = declarations ↔
        ∀ declaration ∈ declarations, IsDeclaration declaration) := by
  refine ⟨fun text => ⟨?_, ?_, tidied_eq_self_iff⟩, fun declarations => parse_render_iff⟩
  · exact (parse_render_iff (nodup_parse text)).mpr fun _ => isDeclaration_of_parse
  · exact (isTidied_tidied text).tidied_eq

/-- Stretches that are no declarations, a property given twice, wide spaces and colons in values. -/
def untidyStyle : String :=
  " color : red;border; width:\u00a02rem ;;:x;color:\u3000url(a:b) ;margin:"

/-- A property of two words, a value that is a colon, one with a colon in it and one in quotes. -/
def oddDeclarations : Entries String :=
  [("a b", ":"), ("--accent", "url(a:b)"), ("color", "\"red\"")]

theorem parse_tidied_and_render_untidyStyle :
    parse (tidied untidyStyle) = [("color", "url(a:b)"), ("width", "2rem")] ∧
      tidied (tidied untidyStyle) = "color:url(a:b);width:2rem" ∧
      (∀ declaration ∈ oddDeclarations, IsDeclaration declaration) ∧
      parse (render oddDeclarations) = oddDeclarations := by
  obtain ⟨tidies, reads⟩ := parse_tidied_and_render
  obtain ⟨same, again, -⟩ := tidies untidyStyle
  have are : ∀ declaration ∈ oddDeclarations, IsDeclaration declaration := by decide +kernel
  exact ⟨same.trans (by decide +kernel), again.trans (by decide +kernel), are,
    (reads oddDeclarations (by decide)).mpr are⟩

end Style

end MediaMarkup
