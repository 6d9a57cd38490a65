import Mathlib.Data.List.DropRight
import MediaMarkup.Text.Blank

/-!
What a text is cut into: the part before the first separator, what is left of it without the blanks
at its edges, the pieces between separators and the words.
-/

namespace MediaMarkup.Text

/-! ## The first separator and the edges -/

theorem cut_of_notMem {separator : Char} {cs : List Char} (h : separator ∉ cs) :
    cut separator cs = (cs, none) := by
  induction cs with
  | nil => rfl
  | cons c cs ih =>
    rw [List.mem_cons, not_or] at h
    rw [cut, if_neg (Ne.symm h.1), ih h.2]

theorem cut_append_cons {separator : Char} {before : List Char} (h : separator ∉ before)
    (after : List Char) : cut separator (before ++ separator :: after) = (before, some after) := by
  induction before with
  | nil => rw [List.nil_append, cut, if_pos rfl]
  | cons c before ih =>
    rw [List.mem_cons, not_or] at h
    rw [List.cons_append, cut, if_neg (Ne.symm h.1), ih h.2]

theorem notMem_cut (separator : Char) (cs : List Char) : separator ∉ (cut separator cs).1 := by
  induction cs with
  | nil => simp [cut]
  | cons c cs ih =>
    rw [cut]
    split
    · simp
    · rename_i other
      rw [List.mem_cons, not_or]
      exact ⟨Ne.symm other, ih⟩

theorem eq_of_cut {separator : Char} {cs before after : List Char}
    (found : cut separator cs = (before, some after)) : cs = before ++ separator :: after := by
  induction cs generalizing before with
  | nil => cases found
  | cons c cs ih =>
    rw [cut] at found
    split at found
    · rename_i here
      cases found
      rw [here, List.nil_append]
    · rw [Prod.mk.injEq] at found
      rw [← found.1, List.cons_append, ← ih (Prod.ext rfl found.2)]

theorem cut_fst (separator : Char) (cs : List Char) :
    (cut separator cs).1 = cs.takeWhile (· ≠ separator) := by
  induction cs with
  | nil => rfl
  | cons c cs ih =>
    rw [cut]
    by_cases here : c = separator
    · simp [here]
    · simp [here, ih]

theorem isSome_cut (separator : Char) (cs : List Char) :
    (cut separator cs).2.isSome = decide (separator ∈ cs) := by
  induction cs with
  | nil => rfl
  | cons c cs ih =>
    rw [cut]
    by_cases here : c = separator
    · simp [here]
    · simp [here, Ne.symm here, ih]

/-- What comes before a character is all, where there is none. -/
theorem dropWhile_ne_of_notMem {separator : Char} {cs : List Char} (absent : separator ∉ cs) :
    cs.dropWhile (· ≠ separator) = [] := by
  rw [List.dropWhile_eq_nil_iff]
  intro c mem
  rw [decide_eq_true_eq]
  rintro rfl
  exact absent mem

theorem mem_of_mem_strip {c : Char} {cs : List Char} (h : c ∈ strip cs) : c ∈ cs := by
  unfold strip dropRightWhile at h
  rw [List.mem_reverse] at h
  have inner := (List.dropWhile_suffix _).subset h
  rw [List.mem_reverse] at inner
  exact (List.dropWhile_suffix _).subset inner

/-- Trimming once is enough. -/
theorem strip_strip (cs : List Char) : strip (strip cs) = strip cs := by
  have start : (strip cs).dropWhile isBlank = strip cs := by
    have prefixed : strip cs <+: cs.dropWhile isBlank := by
      have suffix := List.dropWhile_suffix (l := (cs.dropWhile isBlank).reverse) isBlank
      have turned := List.reverse_prefix.mpr suffix
      rwa [List.reverse_reverse] at turned
    cases stripped : strip cs with
    | nil => rfl
    | cons c rest =>
      obtain ⟨behind, whole⟩ := prefixed
      rw [stripped, List.cons_append] at whole
      have visible := List.head?_dropWhile_not isBlank cs
      rw [← whole] at visible
      exact List.dropWhile_cons_of_neg (by simpa using visible)
  rw [strip, start, strip, dropRightWhile, dropRightWhile, List.reverse_reverse,
    List.dropWhile_idempotent]

theorem strip_of_noBlank {cs : List Char} (noBlank : ∀ c ∈ cs, isBlank c = false) :
    strip cs = cs := by
  have start (cs : List Char) (noBlank : ∀ c ∈ cs, isBlank c = false) :
      cs.dropWhile isBlank = cs := by
    cases cs with
    | nil => rfl
    | cons c cs => exact List.dropWhile_cons_of_neg (by simp [noBlank c List.mem_cons_self])
  rw [strip, dropRightWhile, start cs noBlank, start, List.reverse_reverse]
  exact fun c mem => noBlank c (List.mem_reverse.mp mem)

/-! ## Pieces and words -/

variable {isSeparator : Char → Bool} {piece cs : List Char} {c : Char}

/-- The first separator ends the first piece. -/
theorem pieces_append_cons (whole : ∀ c ∈ piece, isSeparator c = false)
    (ends : isSeparator c = true) :
    pieces isSeparator (piece ++ c :: cs) = piece :: pieces isSeparator cs := by
  induction piece with
  | nil => rw [List.nil_append, pieces, if_pos ends]
  | cons d piece ih =>
    have later := ih fun c mem => whole c (List.mem_cons_of_mem _ mem)
    rw [List.cons_append, pieces, whole d List.mem_cons_self, later]
    rfl

theorem pieces_ne_nil (isSeparator : Char → Bool) (cs : List Char) :
    pieces isSeparator cs ≠ [] := by
  cases cs with
  | nil => simp [pieces]
  | cons c cs =>
    rw [pieces]
    split
    · simp
    · split <;> simp

/-- A separator parts the pieces before it from those behind it. -/
theorem pieces_append_separator (before : List Char) (ends : isSeparator c = true) :
    pieces isSeparator (before ++ c :: cs) =
      pieces isSeparator before ++ pieces isSeparator cs := by
  induction before with
  | nil => simp [pieces, ends]
  | cons d before ih =>
    rw [List.cons_append, pieces, pieces, ih]
    split
    · rfl
    · cases first : pieces isSeparator before with
      | nil => exact absurd first (pieces_ne_nil _ _)
      | cons piece rest => rfl

/-- The pieces of joined texts are those of each text. -/
theorem pieces_join (ends : isSeparator c = true) {texts : List (List Char)} (some : texts ≠ []) :
    pieces isSeparator (join [c] texts) = texts.flatMap (pieces isSeparator) := by
  induction texts with
  | nil => exact absurd rfl some
  | cons text rest ih =>
    cases rest with
    | nil => simp [join]
    | cons next rest =>
      rw [join, List.append_assoc, List.singleton_append, pieces_append_separator text ends,
        ih (by simp), ← List.flatMap_cons]
      simp

theorem pieces_of_whole (whole : ∀ c ∈ piece, isSeparator c = false) :
    pieces isSeparator piece = [piece] := by
  induction piece with
  | nil => rfl
  | cons d piece ih =>
    rw [pieces, whole d List.mem_cons_self, ih fun c mem => whole c (List.mem_cons_of_mem _ mem)]
    rfl

/-- No piece holds a separator. -/
theorem whole_of_mem_pieces (mem : piece ∈ pieces isSeparator cs) :
    ∀ c ∈ piece, isSeparator c = false := by
  induction cs generalizing piece with
  | nil =>
    rw [pieces, List.mem_singleton] at mem
    subst mem
    simp
  | cons d cs ih =>
    rw [pieces] at mem
    split at mem
    · rcases List.mem_cons.mp mem with rfl | mem
      · simp
      · exact ih mem
    · rename_i inside
      split at mem
      · rw [List.mem_singleton] at mem
        subst mem
        simpa using inside
      · rename_i first rest later
        rcases List.mem_cons.mp mem with rfl | mem
        · have whole := ih (later ▸ List.mem_cons_self)
          rintro c (_ | ⟨_, mem⟩)
          · simpa using inside
          · exact whole c mem
        · exact ih (later ▸ List.mem_cons_of_mem _ mem)

/-- A text without blanks is its only word, unless it is empty. -/
theorem words_of_noBlank (noBlank : ∀ c ∈ piece, isBlank c = false) :
    words piece = if piece = [] then [] else [piece] := by
  rw [words, pieces_of_whole noBlank]
  cases piece <;> simp

theorem words_append_cons (noBlank : ∀ c ∈ piece, isBlank c = false) (blank : isBlank c = true) :
    words (piece ++ c :: cs) = (if piece = [] then [] else [piece]) ++ words cs := by
  rw [words, pieces_append_cons noBlank blank]
  cases piece <;> simp [words]

/-- A text has no words if all of it is blank. -/
theorem words_eq_nil : words cs = [] ↔ isBlankText cs = true := by
  induction cs with
  | nil => simp [words, pieces, isBlankText]
  | cons c cs ih =>
    rw [isBlankText, List.all_cons, words, pieces]
    by_cases blank : isBlank c = true
    · rw [if_pos blank, blank, Bool.true_and]
      exact ih
    · rw [if_neg blank]
      split <;> simp [blank]

/-- A word is not empty and has no blank in it. -/
theorem mem_words (mem : piece ∈ words cs) : piece ≠ [] ∧ ∀ c ∈ piece, isBlank c = false := by
  rw [words, List.mem_filter] at mem
  exact ⟨by simpa using mem.2, whole_of_mem_pieces mem.1⟩

/-- Words that are joined by blanks are the words of what they make. -/
theorem words_join (blank : isBlank c = true) {texts : List (List Char)}
    (areWords : ∀ text ∈ texts, text ≠ [] ∧ ∀ c ∈ text, isBlank c = false) :
    words (join [c] texts) = texts := by
  induction texts with
  | nil => rfl
  | cons text rest ih =>
    rw [List.forall_mem_cons] at areWords
    cases rest with
    | nil => rw [join, words_of_noBlank areWords.1.2, if_neg areWords.1.1]
    | cons next rest =>
      rw [join, List.append_assoc, List.singleton_append, words_append_cons areWords.1.2 blank,
        if_neg areWords.1.1, ih areWords.2]
      · rfl
      · simp

end MediaMarkup.Text
