import Mathlib.Data.List.Basic
import MediaMarkup.Proofs.Text
import MediaMarkup.Title.Directive

/-!
Titles that are written out: a caption, a `>` and directives with blanks between them, where every
value stands in quotes that it does not hold. One pass over such a text ends outside of quotes and
finds the directives' texts (`Written.scan_eq`). Main statement: a written title is read as its
caption and its directives, however the blanks and the quotes were chosen (`parse?_written`).
-/

namespace MediaMarkup

/-! ## How directives are written -/

/-- A directive that can be written: its key can be the name of an attribute, and its value does
without one of the quotes. -/
structure Directive.Writable (directive : Directive) : Prop where
  key : isValidKey directive.key.toList = true
  value : directive.isFlag = true ∨ ∃ value mark, directive.value? = some value ∧
    Title.isQuote mark = true ∧ mark ∉ value.toList

/-- A flag is written as its key, a pair with its value in quotes. -/
inductive Directive.Written : Directive → List Char → Prop
  | flag (key : String) : Written (.flag key) key.toList
  | pair (key value : String) {mark : Char} (quotes : Title.isQuote mark = true)
    (free : mark ∉ value.toList) :
    Written (.pair key value) (key.toList ++ '=' :: mark :: (value.toList ++ [mark]))

namespace Title

/-- Whether a token ends in front of a text. -/
def endsToken : List Char → Bool
  | [] => true
  | c :: _ => Text.isBlank c

/-- Directives are written with blanks between them, and maybe around them. -/
inductive Written : List Directive → List Char → Prop
  | nil {gap : List Char} (blank : Text.isBlankText gap = true) : Written [] gap
  | cons {directive : Directive} {directives : List Directive} {gap token rest : List Char}
    (blank : Text.isBlankText gap = true) (first : directive.Written token)
    (apart : endsToken rest = true) (others : Written directives rest) :
    Written (directive :: directives) (gap ++ (token ++ rest))

/-- A caption that comes back from a title: there is no `>` in it and no blank at its edges. -/
structure IsCaption (caption : String) : Prop where
  nonempty : caption ≠ ""
  whole : '>' ∉ caption.toList
  trimmed : Text.strip caption.toList = caption.toList

end Title

/-- The token of a directive, without its quotes. -/
def Directive.token : Directive → List Char
  | .pair key value => key.toList ++ '=' :: value.toList
  | directive => directive.key.toList

/-! ## Keys -/

namespace Directive

variable {directive : Directive} {key : List Char} {c : Char}

theorem plain_of_isValidKey (valid : isValidKey key = true) (mem : c ∈ key) :
    Title.isQuote c = false ∧ Text.isBlank c = false ∧ c ≠ '=' := by
  simp only [isValidKey, Bool.and_eq_true, Bool.not_eq_true', List.any_eq_false] at valid
  have invalid := valid.2 c mem
  simp only [isInvalidInKey, Bool.or_eq_true, decide_eq_true_eq, not_or, Bool.not_eq_true]
    at invalid
  simp [Title.isQuote, invalid]

theorem ne_nil_of_isValidKey (valid : isValidKey key = true) : key ≠ [] := by
  rintro rfl
  cases valid

/-- The token of a directive is read as the directive. -/
theorem ofToken?_token (writable : directive.Writable) :
    ofToken? directive.token = some directive := by
  have noSign : '=' ∉ directive.key.toList := fun mem =>
    (plain_of_isValidKey writable.key mem).2.2 rfl
  cases directive with
  | flag key =>
    have whole := Text.cut_of_notMem noSign
    have valid := writable.key
    simp only [Directive.key] at whole valid
    simp [ofToken?, token, Directive.key, whole, valid]
  | pair key value =>
    have halves := Text.cut_append_cons noSign value.toList
    have valid := writable.key
    simp only [Directive.key] at halves valid
    simp [ofToken?, token, halves, valid]
  | unset key =>
    rcases writable.value with flag | ⟨value, mark, present, -⟩
    · cases flag
    · cases present

theorem Writable.written (writable : directive.Writable) : ∃ token, directive.Written token := by
  cases directive with
  | flag key => exact ⟨_, .flag key⟩
  | pair key value =>
    rcases writable.value with flag | ⟨_, mark, ⟨⟩, quotes, free⟩
    · cases flag
    · exact ⟨_, .pair key value quotes free⟩
  | unset key =>
    rcases writable.value with flag | ⟨value, mark, present, -⟩
    · cases flag
    · cases present

end Directive

/-! ## One pass over a written text -/

namespace Title

variable {current text rest : List Char} {started : Bool}

theorem isBlank_of_isQuote {c : Char} (quotes : isQuote c = true) : Text.isBlank c = false := by
  simp only [isQuote, Bool.or_eq_true, decide_eq_true_eq] at quotes
  rcases quotes with rfl | rfl <;> decide

theorem isQuote_of_isBlank {c : Char} (blank : Text.isBlank c = true) : isQuote c = false := by
  rw [← Bool.not_eq_true]
  intro quotes
  rw [isBlank_of_isQuote quotes] at blank
  cases blank

/-- Blanks outside of a token leave nothing. -/
theorem scan_gap {gap : List Char} (blank : Text.isBlankText gap = true) :
    scan [] false none (gap ++ rest) = scan [] false none rest := by
  induction gap with
  | nil => rfl
  | cons c gap ih =>
    rw [Text.isBlankText, List.all_cons, Bool.and_eq_true] at blank
    rw [List.cons_append, scan]
    simp only [isQuote_of_isBlank blank.1, Bool.false_and, Bool.false_eq_true, ↓reduceIte, blank.1]
    exact ih blank.2

/-- Characters that are neither quotes nor blanks go to the token. -/
theorem scan_plain (plain : ∀ c ∈ text, isQuote c = false ∧ Text.isBlank c = false)
    (nonempty : text ≠ []) :
    scan current started none (text ++ rest) = scan (text.reverse ++ current) true none rest := by
  induction text generalizing current started with
  | nil => exact absurd rfl nonempty
  | cons c text ih =>
    obtain ⟨noQuote, noBlank⟩ := plain c List.mem_cons_self
    have later : scan (c :: current) true none (text ++ rest) =
        scan (text.reverse ++ c :: current) true none rest := by
      cases text with
      | nil => rfl
      | cons d text => exact ih (fun c mem => plain c (List.mem_cons_of_mem _ mem)) (by simp)
    rw [List.cons_append, scan]
    simp only [noQuote, Bool.false_and, Bool.false_eq_true, ↓reduceIte, noBlank, later]
    simp

/-- What stands in quotes goes to the token, whatever it is. -/
theorem scan_quoted {quote : Quote} (free : quote.mark ∉ text) :
    scan current started (some quote) (text ++ quote.mark :: rest) =
      scan (text.reverse ++ current) started none rest := by
  induction text generalizing current with
  | nil => simp [scan]
  | cons c text ih =>
    rw [List.mem_cons, not_or] at free
    rw [List.cons_append, scan]
    simp only [Ne.symm free.1, ↓reduceIte, ih free.2]
    simp

/-- A token ends in front of a blank and at the end of the text. -/
theorem scan_end (apart : endsToken rest = true) :
    scan current true none rest =
      { scan [] false none rest with words := current.reverse :: (scan [] false none rest).words }
    := by
  cases rest with
  | nil => rfl
  | cons c rest =>
    have blank : Text.isBlank c = true := apart
    simp [scan, isQuote_of_isBlank blank, blank]

end Title

/-- The written form of a directive is scanned as its token. -/
theorem Directive.Written.scan_eq {directive : Directive} {token rest : List Char}
    (written : directive.Written token) (valid : isValidKey directive.key.toList = true) :
    Title.scan [] false none (token ++ rest) =
      Title.scan directive.token.reverse true none rest := by
  have plain : ∀ c ∈ directive.key.toList, Title.isQuote c = false ∧ Text.isBlank c = false :=
    fun c mem => ⟨(plain_of_isValidKey valid mem).1, (plain_of_isValidKey valid mem).2.1⟩
  have nonempty := ne_nil_of_isValidKey valid
  cases written with
  | flag key =>
    have whole : Title.scan [] false none (key.toList ++ rest) =
        Title.scan (key.toList.reverse ++ []) true none rest :=
      Title.scan_plain plain nonempty
    rw [List.append_nil] at whole
    exact whole
  | @pair key value mark quotes free =>
    have sign : Title.isQuote '=' = false ∧ Text.isBlank '=' = false := by decide
    have opened : Title.scan ('=' :: key.toList.reverse) true none
        (mark :: (value.toList ++ mark :: rest)) =
          Title.scan ('=' :: key.toList.reverse) true (some ⟨mark, value.toList ++ mark :: rest⟩)
            (value.toList ++ mark :: rest) := by
      rw [Title.scan]
      simp [quotes, Title.mayOpen]
    have keyed : Title.scan [] false none ((key.toList ++ ['=']) ++
        mark :: (value.toList ++ mark :: rest)) =
          Title.scan ('=' :: key.toList.reverse) true none
            (mark :: (value.toList ++ mark :: rest)) := by
      rw [Title.scan_plain (fun c mem => ?_) (by simp)]
      · simp
      · rcases List.mem_append.mp mem with mem | mem
        · exact plain c mem
        · exact List.mem_singleton.mp mem ▸ sign
    have quoted : Title.scan ('=' :: key.toList.reverse) true
        (some ⟨mark, value.toList ++ mark :: rest⟩) (value.toList ++ mark :: rest) =
          Title.scan (value.toList.reverse ++ '=' :: key.toList.reverse) true none rest :=
      Title.scan_quoted free
    simp only [List.append_assoc, List.cons_append, List.nil_append] at keyed ⊢
    rw [keyed, opened, quoted, token]
    simp

namespace Title

variable {directives : List Directive} {text : List Char}

/-- One pass over written directives finds their tokens, and no quote is open at its end. -/
theorem Written.scan_eq (written : Written directives text)
    (writable : ∀ directive ∈ directives, directive.Writable) :
    scan [] false none text = ⟨directives.map Directive.token, none⟩ := by
  induction written with
  | @nil gap blank =>
    have left : scan [] false none (gap ++ []) = scan [] false none [] := scan_gap blank
    rw [List.append_nil] at left
    rw [left]
    rfl
  | @cons directive directives gap token rest blank first apart others ih =>
    have valid := (writable directive List.mem_cons_self).key
    have later := ih fun directive mem => writable directive (List.mem_cons_of_mem _ mem)
    rw [scan_gap blank, first.scan_eq valid, scan_end apart, later]
    simp

/-- Written directives are read as they are. -/
theorem Written.readDirectives_eq (written : Written directives text)
    (writable : ∀ directive ∈ directives, directive.Writable) :
    readDirectives text = directives := by
  have scanned := written.scan_eq writable
  have complete : tokens text = directives.map fun directive => .word directive.token := by
    rw [tokens_eq, scanned, List.append_nil, List.map_map]
    rfl
  have texts : tokenTexts text = directives.map Directive.token := by
    rw [tokenTexts, complete, List.filterMap_map]
    exact congrFun List.filterMap_eq_map directives
  rw [readDirectives, texts, List.filterMap_map]
  have same : directives.filterMap (Directive.ofToken? ∘ Directive.token) =
      directives.filterMap some :=
    List.filterMap_congr fun directive mem => Directive.ofToken?_token (writable directive mem)
  rw [same, List.filterMap_some]

/-- Directives that can be written have a written form, with a blank in front of each. -/
theorem exists_written (writable : ∀ directive ∈ directives, directive.Writable) :
    ∃ text, Written directives text ∧ endsToken text = true := by
  induction directives with
  | nil => exact ⟨[], .nil rfl, rfl⟩
  | cons directive directives ih =>
    obtain ⟨rest, others, apart⟩ :=
      ih fun directive mem => writable directive (List.mem_cons_of_mem _ mem)
    obtain ⟨token, first⟩ := (writable directive List.mem_cons_self).written
    exact ⟨[' '] ++ (token ++ rest), .cons (by decide) first apart others, rfl⟩

/-- The text in front of the first `>` is the caption. -/
theorem split_caption {caption : Option String} (isCaption : ∀ text ∈ caption, IsCaption text)
    (text : List Char) :
    split ((caption.getD "").toList ++ '>' :: text) = (caption.map String.toList, some text) := by
  cases caption with
  | none => rfl
  | some caption =>
    obtain ⟨nonempty, whole, trimmed⟩ := isCaption caption rfl
    have kept : caption.toList ≠ [] := fun none => nonempty (String.toList_eq_nil_iff.mp none)
    simp [split, Text.cut_append_cons whole, trimmed, kept]

/-- **Titles come back.** Directives that can be written have a written form, and behind any caption
each of their written forms is read as that caption and those directives, in their order. -/
theorem parse?_written (caption : Option String) (directives : List Directive)
    (isCaption : ∀ text ∈ caption, IsCaption text)
    (writable : ∀ directive ∈ directives, directive.Writable) :
    (∃ text, Written directives text) ∧
      ∀ text, Written directives text →
        (parse? (some (caption.getD "" ++ ">" ++ .ofList text))).text = caption ∧
        (parse? (some (caption.getD "" ++ ">" ++ .ofList text))).directives = directives := by
  refine ⟨(exists_written writable).imp fun _ => And.left, fun text written => ?_⟩
  have title_eq : (caption.getD "" ++ ">" ++ String.ofList text).toList =
      (caption.getD "").toList ++ '>' :: text := by
    simp
  have halves := split_caption isCaption text
  simp only [parse?, parse, title_eq, halves, Option.getD_some]
  refine ⟨?_, written.readDirectives_eq writable⟩
  cases caption <;> simp

/-- Values with an apostrophe, a `>`, quotes and an equals sign, and a flag between them. -/
def quotedValues : List Directive :=
  [.pair "alt" "it's > this", .flag "lazy", .pair "data-x" "a \"b\" = c"]

def quotedText : List Char := "\talt=\"it's > this\"  lazy data-x='a \"b\" = c'\n".toList

theorem written_quotedValues : Written quotedValues quotedText := by
  have third : Written [.pair "data-x" "a \"b\" = c"] " data-x='a \"b\" = c'\n".toList :=
    @Written.cons _ _ [' '] _ _ (by decide)
      (@Directive.Written.pair _ _ '\'' (by decide) (by decide)) (by decide)
      (@Written.nil ['\n'] (by decide))
  have second : Written [.flag "lazy", .pair "data-x" "a \"b\" = c"]
      "  lazy data-x='a \"b\" = c'\n".toList :=
    @Written.cons _ _ [' ', ' '] _ _ (by decide) (.flag _) (by decide) third
  exact @Written.cons _ _ ['\t'] _ _ (by decide)
    (@Directive.Written.pair _ _ '"' (by decide) (by decide)) (by decide) second

theorem parse?_written_quotedValues :
    (∀ text ∈ some "A title", IsCaption text) ∧
      (∀ directive ∈ quotedValues, directive.Writable) ∧
      (parse? (some ("A title" ++ ">" ++ .ofList quotedText))).text = some "A title" ∧
      (parse? (some ("A title" ++ ">" ++ .ofList quotedText))).directives = quotedValues := by
  have isCaption : ∀ text ∈ some "A title", IsCaption text := by
    rintro text ⟨⟩
    exact ⟨by decide, by decide, by decide⟩
  have writable : ∀ directive ∈ quotedValues, directive.Writable := by
    intro directive mem
    simp only [quotedValues, List.mem_cons, List.not_mem_nil, or_false] at mem
    rcases mem with rfl | rfl | rfl
    · exact ⟨by decide, .inr ⟨_, '"', rfl, by decide, by decide⟩⟩
    · exact ⟨by decide, .inl rfl⟩
    · exact ⟨by decide, .inr ⟨_, '\'', rfl, by decide, by decide⟩⟩
  exact ⟨isCaption, writable,
    (parse?_written (some "A title") quotedValues isCaption writable).2 _ written_quotedValues⟩

end Title

end MediaMarkup
