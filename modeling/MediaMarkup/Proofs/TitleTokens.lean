import Mathlib.Data.List.Chain
import MediaMarkup.Proofs.WrittenTitle

/-!
How the tokens of a title depend on its text. A text that leaves no quote open does not change how
the text behind it is read (`readDirectives_append`). A quote that is left open costs its own token,
and one more word where a blank stands right behind the quote (`lostAlone_iff`); that happens once
for each of the two quotes at most (`length_unclosed_le`). Quotes inside words are plain text, so
that the tokens are the words (`tokenTexts_of_quotesInside`).
-/

namespace MediaMarkup.Title

/-- A text leaves no quote open if one pass over it ends outside of quotes. -/
def IsClosed (text : List Char) : Prop :=
  (scan [] false none text).unclosed = none

instance (text : List Char) : Decidable (IsClosed text) :=
  inferInstanceAs (Decidable (_ = none))

variable {current text rest : List Char} {started : Bool} {blank : Char}

/-! ## Texts behind each other -/

/-- Outside of a token nothing is left of what was read before. -/
theorem scan_outside (apart : endsToken rest = true) :
    scan current false none rest = scan [] false none rest := by
  cases rest with
  | nil => rfl
  | cons c rest =>
    have blank : Text.isBlank c = true := apart
    simp [scan, isQuote_of_isBlank blank, blank]

/-- A pass that ends outside of quotes goes on as if what follows stood alone. -/
theorem scan_append {quote other : Option Quote}
    (same : other.map Quote.mark = quote.map Quote.mark)
    (closed : (scan current started quote text).unclosed = none) (apart : endsToken rest = true) :
    scan current started other (text ++ rest) =
      ⟨(scan current started quote text).words ++ (scan [] false none rest).words,
        (scan [] false none rest).unclosed⟩ := by
  -- The two passes remember other texts behind an open quote, so only its mark can be the same;
  -- the text that is remembered is forgotten where the quote is closed.
  induction text generalizing current started quote other with
  | nil =>
    cases quote with
    | some quote => cases closed
    | none =>
      rw [Option.map_none, Option.map_eq_none_iff] at same
      subst same
      cases started with
      | true => exact scan_end apart
      | false => exact scan_outside apart
  | cons c text ih =>
    cases quote with
    | some quote =>
      obtain ⟨other, rfl, mark⟩ := Option.map_eq_some_iff.mp same
      simp only [List.cons_append, scan, mark] at closed ⊢
      split at closed
      · rename_i ends
        rw [if_pos ends, if_pos ends]
        exact ih rfl closed
      · rename_i inside
        rw [if_neg inside, if_neg inside]
        exact ih same closed
    | none =>
      rw [Option.map_none, Option.map_eq_none_iff] at same
      subst same
      simp only [List.cons_append, scan] at closed ⊢
      by_cases opens : (isQuote c && mayOpen started current) = true
      · rw [if_pos opens] at closed
        rw [if_pos opens, if_pos opens]
        exact ih rfl closed
      · rw [if_neg opens] at closed
        rw [if_neg opens, if_neg opens]
        by_cases blank : Text.isBlank c = true
        · simp only [if_pos blank] at closed ⊢
          cases started with
          | true =>
            simp only [↓reduceIte] at closed ⊢
            rw [ih rfl closed]
            rfl
          | false => exact ih rfl closed
        · rw [if_neg blank] at closed
          rw [if_neg blank, if_neg blank]
          exact ih rfl closed

theorem tokens_append (closed : IsClosed text) (apart : endsToken rest = true) :
    tokens (text ++ rest) = tokens text ++ tokens rest := by
  have scanned : scan [] false none (text ++ rest) = _ := scan_append rfl closed apart
  rw [tokens_eq (text ++ rest), scanned, tokens_eq text, tokens_eq rest, closed, List.map_append,
    List.append_assoc, List.append_nil]

/-- Blanks in front of a text make no token. -/
theorem tokens_gap {gap : List Char} (blank : Text.isBlankText gap = true) :
    tokens (gap ++ rest) = tokens rest := by
  rw [tokens_eq, scan_gap blank, ← tokens_eq]

theorem tokens_append_cons (closed : IsClosed text) (isBlank : Text.isBlank blank = true) :
    tokens (text ++ blank :: rest) = tokens text ++ tokens rest := by
  have apart : endsToken (blank :: rest) = true := isBlank
  have gap : tokens ([blank] ++ rest) = tokens rest :=
    tokens_gap (by rw [Text.isBlankText, List.all_cons, isBlank]; rfl)
  rw [tokens_append closed apart, ← gap]
  rfl

theorem tokenTexts_of_isClosed (closed : IsClosed text) :
    tokenTexts text = (scan [] false none text).words := by
  rw [tokenTexts, tokens_eq, closed, List.append_nil, List.filterMap_map]
  exact List.filterMap_some

/-- **Texts are read one behind the other.** Behind a text that leaves no quote open and a blank,
any text has the tokens and the directives that it has alone. -/
theorem readDirectives_append (closed : IsClosed text) (isBlank : Text.isBlank blank = true)
    (rest : List Char) :
    tokenTexts (text ++ blank :: rest) = tokenTexts text ++ tokenTexts rest ∧
      readDirectives (text ++ blank :: rest) = readDirectives text ++ readDirectives rest := by
  have texts : tokenTexts (text ++ blank :: rest) = tokenTexts text ++ tokenTexts rest := by
    rw [tokenTexts, tokens_append_cons closed isBlank, List.filterMap_append]
    rfl
  refine ⟨texts, ?_⟩
  rw [readDirectives, texts, List.filterMap_append]
  rfl

/-- Closed quotes and an apostrophe in front, two quotes that are left open behind. -/
theorem readDirectives_append_openQuotes :
    (IsClosed "alt='a > \"b\"' it's <x".toList ∧ Text.isBlank '\n' = true) ∧
      tokenTexts ("alt='a > \"b\"' it's <x".toList ++
          '\n' :: ".c title=\"lost .d 'e f=' #g".toList) =
        tokenTexts "alt='a > \"b\"' it's <x".toList ++
          tokenTexts ".c title=\"lost .d 'e f=' #g".toList ∧
      readDirectives ("alt='a > \"b\"' it's <x".toList ++
          '\n' :: ".c title=\"lost .d 'e f=' #g".toList) =
        readDirectives "alt='a > \"b\"' it's <x".toList ++
          readDirectives ".c title=\"lost .d 'e f=' #g".toList := by
  have closed : IsClosed "alt='a > \"b\"' it's <x".toList := by decide
  have isBlank : Text.isBlank '\n' = true := by decide
  exact ⟨⟨closed, isBlank⟩, readDirectives_append closed isBlank _⟩

/-! ## A quote that is left open -/

/-- A quote that is left open: behind a text that left none open and a blank, it opens at the start
of a token or behind an equals sign, and does not come again. -/
structure OpenQuote extends Quote where
  before : List Char
  blank : Char
  key : List Char
  closed : IsClosed before
  isBlank : Text.isBlank blank = true
  plain : ∀ c ∈ key, isQuote c = false ∧ Text.isBlank c = false
  sign : key = [] ∨ key.getLast? = some '='
  quotes : isQuote mark = true
  free : mark ∉ behind

/-- A text from its first blank on. -/
def fromBlank (cs : List Char) : List Char :=
  cs.dropWhile fun c => !Text.isBlank c

/-- The word that is lost behind an open quote although a blank stands between them. -/
def lostWord : List Char → List Char
  | [] => []
  | c :: cs =>
    if Text.isBlank c then (cs.dropWhile Text.isBlank).takeWhile fun c => !Text.isBlank c else []

namespace OpenQuote

/-- The text that the quote stands in. -/
def wholeText (quote : OpenQuote) : List Char :=
  quote.before ++ quote.blank :: (quote.key ++ quote.mark :: quote.behind)

/-- Only the token of the quote is lost: from the first blank behind the quote on the text is read
as if it stood alone. -/
def LostAlone (quote : OpenQuote) : Prop :=
  tokenTexts quote.wholeText = tokenTexts quote.before ++ tokenTexts (fromBlank quote.behind)

end OpenQuote

/-- All that stands behind a quote that does not come again goes to its token. -/
theorem scan_inQuotes {quote : Quote} (free : quote.mark ∉ text) :
    scan current started (some quote) text =
      ⟨[], some (current.reverse ++ text, quote.behind)⟩ := by
  induction text generalizing current with
  | nil => simp [scan]
  | cons c text ih =>
    rw [List.mem_cons, not_or] at free
    rw [scan, if_neg (Ne.symm free.1), ih free.2]
    simp

theorem OpenQuote.scan_eq (quote : OpenQuote) :
    scan [] false none (quote.key ++ quote.mark :: quote.behind) =
      ⟨[], some (quote.key ++ quote.behind, quote.behind)⟩ := by
  have inQuotes : scan quote.key.reverse true (some quote.toQuote) quote.behind = _ :=
    scan_inQuotes quote.free
  rw [List.reverse_reverse] at inQuotes
  have opens (started : Bool) (may : mayOpen started quote.key.reverse = true) :
      scan quote.key.reverse started none (quote.mark :: quote.behind) =
        scan quote.key.reverse true (some quote.toQuote) quote.behind := by
    rw [scan]
    simp only [quote.quotes, may, Bool.and_self, ↓reduceIte]
  rw [← inQuotes]
  rcases quote.sign with empty | sign
  · rw [empty]
    rw [empty] at opens
    exact opens false rfl
  · have nonempty : quote.key ≠ [] := by
      intro empty
      rw [empty] at sign
      cases sign
    rw [scan_plain quote.plain nonempty, List.append_nil]
    exact opens true (by rw [mayOpen, List.head?_reverse, sign]; rfl)

/-- Reading goes on behind the word of the quote. -/
theorem OpenQuote.tokens_wholeText (quote : OpenQuote) :
    tokens quote.wholeText = tokens quote.before ++
      .unclosed (quote.key ++ quote.behind) :: tokens (afterWord quote.behind) := by
  rw [wholeText, tokens_append_cons quote.closed quote.isBlank,
    tokens_eq (quote.key ++ quote.mark :: quote.behind), quote.scan_eq]
  rfl

theorem OpenQuote.tokenTexts_wholeText (quote : OpenQuote) :
    tokenTexts quote.wholeText =
      tokenTexts quote.before ++ tokenTexts (afterWord quote.behind) := by
  rw [tokenTexts, quote.tokens_wholeText, List.filterMap_append]
  rfl

theorem endsToken_afterWord (behind : List Char) : endsToken (afterWord behind) = true := by
  have stops := List.head?_dropWhile_not (fun c => !Text.isBlank c)
    (behind.dropWhile Text.isBlank)
  unfold afterWord
  cases after : (behind.dropWhile Text.isBlank).dropWhile fun c => !Text.isBlank c with
  | nil => rfl
  | cons c rest =>
    rw [after] at stops
    simpa [endsToken] using stops

/-- From the first blank on there are blanks, the word that is lost, and what is read. -/
theorem exists_gap (behind : List Char) :
    ∃ gap, Text.isBlankText gap = true ∧
      fromBlank behind = gap ++ (lostWord behind ++ afterWord behind) := by
  cases behind with
  | nil => exact ⟨[], rfl, rfl⟩
  | cons c cs =>
    by_cases blank : Text.isBlank c = true
    · refine ⟨c :: cs.takeWhile Text.isBlank, ?_, ?_⟩
      · rw [Text.isBlankText, List.all_cons, blank, Bool.true_and, List.all_takeWhile]
      · simp [fromBlank, lostWord, afterWord, blank, List.takeWhile_append_dropWhile]
    · exact ⟨[], rfl, by simp [fromBlank, lostWord, afterWord, blank]⟩

theorem noBlank_lostWord (behind : List Char) : ∀ c ∈ lostWord behind, Text.isBlank c = false := by
  intro c mem
  unfold lostWord at mem
  split at mem
  · cases mem
  · split at mem
    · simpa using List.all_eq_true.mp List.all_takeWhile c mem
    · cases mem

/-- A token that has started is found, unless a quote is left open in it. -/
theorem words_ne_nil {quote : Option Quote}
    (closed : (scan current true quote text).unclosed = none) :
    (scan current true quote text).words ≠ [] := by
  induction text generalizing current quote with
  | nil =>
    cases quote with
    | some quote => cases closed
    | none => simp [scan]
  | cons c text ih =>
    cases quote with
    | some quote =>
      simp only [scan] at closed ⊢
      split at closed
      · rename_i ends
        rw [if_pos ends]
        exact ih closed
      · rename_i inside
        rw [if_neg inside]
        exact ih closed
    | none =>
      simp only [scan] at closed ⊢
      split at closed
      · rename_i opens
        rw [if_pos opens]
        exact ih closed
      · rename_i opensNot
        rw [if_neg opensNot]
        split
        · simp
        · rename_i noBlank
          rw [if_neg noBlank] at closed
          exact ih closed

/-- A word that leaves no quote open has a token. -/
theorem tokenTexts_ne_nil (closed : IsClosed text) (nonempty : text ≠ [])
    (noBlank : ∀ c ∈ text, Text.isBlank c = false) : tokenTexts text ≠ [] := by
  rw [tokenTexts_of_isClosed closed]
  unfold IsClosed at closed
  cases text with
  | nil => exact absurd rfl nonempty
  | cons c text =>
    simp only [scan, noBlank c List.mem_cons_self, Bool.false_eq_true, ↓reduceIte] at closed ⊢
    split at closed
    · rename_i opens
      rw [if_pos opens]
      exact words_ne_nil closed
    · rename_i opensNot
      rw [if_neg opensNot]
      exact words_ne_nil closed

/-- **What a quote that is left open costs.** Its own token is lost, and reading goes on behind the
first word behind the quote. Unless that word leaves a quote open itself, the quote's token is lost
alone just when no blank stands between the quote and a word. -/
theorem lostAlone_iff (quote : OpenQuote) :
    tokens quote.wholeText = tokens quote.before ++
        .unclosed (quote.key ++ quote.behind) :: tokens (afterWord quote.behind) ∧
      (IsClosed (lostWord quote.behind) → (quote.LostAlone ↔ lostWord quote.behind = [])) := by
  refine ⟨quote.tokens_wholeText, fun closed => ?_⟩
  have expected : tokenTexts (fromBlank quote.behind) =
      tokenTexts (lostWord quote.behind) ++ tokenTexts (afterWord quote.behind) := by
    obtain ⟨gap, blank, split⟩ := exists_gap quote.behind
    rw [tokenTexts, split, tokens_gap blank, tokens_append closed (endsToken_afterWord _),
      List.filterMap_append]
    rfl
  rw [OpenQuote.LostAlone, quote.tokenTexts_wholeText, expected, List.append_cancel_left_eq,
    List.self_eq_append_left]
  constructor
  · intro none
    by_contra nonempty
    exact tokenTexts_ne_nil closed nonempty (noBlank_lostWord quote.behind) none
  · intro none
    rw [none, tokenTexts_of_isClosed (by decide)]
    rfl

/-- A value whose closing quote is missing, with an apostrophe in a later word. -/
def brokenTitle : OpenQuote where
  before := ".ok alt='a b'".toList
  blank := '\t'
  key := "title=".toList
  mark := '"'
  behind := "broken .wide it's".toList
  closed := by decide
  isBlank := by decide
  plain := List.forall_iff_forall_mem.mp (by decide)
  sign := by decide
  quotes := by decide
  free := by decide

theorem lostAlone_iff_brokenTitle :
    IsClosed (lostWord brokenTitle.behind) ∧
      tokens brokenTitle.wholeText = tokens brokenTitle.before ++
        .unclosed "title=broken .wide it's".toList :: tokens " .wide it's".toList ∧
      (brokenTitle.LostAlone ↔ lostWord brokenTitle.behind = []) ∧
      lostWord brokenTitle.behind = [] := by
  have closed : IsClosed (lostWord brokenTitle.behind) := by decide
  exact ⟨closed, (lostAlone_iff brokenTitle).1, (lostAlone_iff brokenTitle).2 closed, by decide⟩

/-- A quote that is left open, with a blank and a word behind it. -/
def loneQuote : OpenQuote where
  before := "lazy".toList
  blank := ' '
  key := "alt=".toList
  mark := '"'
  behind := " .a .b".toList
  closed := by decide
  isBlank := by decide
  plain := List.forall_iff_forall_mem.mp (by decide)
  sign := by decide
  quotes := by decide
  free := by decide

/-- The word `.a` is lost with the quote. -/
theorem not_lostAlone_loneQuote : ¬loneQuote.LostAlone := by
  have found : tokenTexts loneQuote.wholeText = ["lazy".toList, ".b".toList] := by
    have read : IsClosed loneQuote.before ∧ IsClosed (afterWord loneQuote.behind) := by decide
    rw [loneQuote.tokenTexts_wholeText, tokenTexts_of_isClosed read.1,
      tokenTexts_of_isClosed read.2]
    decide
  have expected : tokenTexts loneQuote.before ++ tokenTexts (fromBlank loneQuote.behind) =
      ["lazy".toList, ".a".toList, ".b".toList] := by
    have read : IsClosed loneQuote.before ∧ IsClosed (fromBlank loneQuote.behind) := by decide
    rw [tokenTexts_of_isClosed read.1, tokenTexts_of_isClosed read.2]
    decide
  rw [OpenQuote.LostAlone, found, expected]
  decide

/-! ## How often reading starts over -/

/-- A quote that is open at the end of a pass does not come again behind the place where it
opened. -/
theorem unclosed_cases {quote : Option Quote} {lost behind : List Char}
    (opened : (scan current started quote text).unclosed = some (lost, behind)) :
    (∃ q, quote = some q ∧ q.behind = behind ∧ q.mark ∉ text) ∨
      ∃ mark, isQuote mark = true ∧ mark :: behind <:+ text ∧ mark ∉ behind := by
  induction text generalizing current started quote with
  | nil =>
    cases quote with
    | none => simp [scan] at opened
    | some q =>
      simp only [scan, Option.some.injEq, Prod.mk.injEq] at opened
      exact .inl ⟨q, rfl, opened.2, List.not_mem_nil⟩
  | cons c text ih =>
    have later (found : ∃ mark, isQuote mark = true ∧ mark :: behind <:+ text ∧ mark ∉ behind) :
        ∃ mark, isQuote mark = true ∧ mark :: behind <:+ c :: text ∧ mark ∉ behind := by
      obtain ⟨mark, quotes, suffix, free⟩ := found
      exact ⟨mark, quotes, suffix.trans (List.suffix_cons c text), free⟩
    have outside {current : List Char} {started : Bool}
        (opened : (scan current started none text).unclosed = some (lost, behind)) :
        ∃ mark, isQuote mark = true ∧ mark :: behind <:+ c :: text ∧ mark ∉ behind := by
      rcases ih opened with ⟨q, none, -⟩ | found
      · cases none
      · exact later found
    cases quote with
    | some q =>
      simp only [scan] at opened
      split at opened
      · exact .inr (outside opened)
      · rename_i inside
        rcases ih opened with ⟨q, ⟨⟩, same, free⟩ | found
        · exact .inl ⟨q, rfl, same, by simpa [Ne.symm inside] using free⟩
        · exact .inr (later found)
    | none =>
      right
      simp only [scan] at opened
      split at opened
      · rename_i opens
        rw [Bool.and_eq_true] at opens
        rcases ih opened with ⟨q, ⟨⟩, rfl, free⟩ | found
        · exact ⟨c, opens.1, List.suffix_refl _, free⟩
        · exact later found
      · split at opened
        · refine @outside [] false ?_
          split at opened <;> exact opened
        · exact outside opened

/-- How many of the two quotes a text holds. -/
def quoteKinds (text : List Char) : Nat :=
  ['"', '\''].countP (· ∈ text)

theorem quoteKinds_le {text rest : List Char} (suffix : rest <:+ text) :
    quoteKinds rest ≤ quoteKinds text :=
  List.countP_mono_left fun _ _ mem => decide_eq_true (suffix.subset (of_decide_eq_true mem))

theorem quoteKinds_lt {mark : Char} {behind : List Char} (quotes : isQuote mark = true)
    (suffix : mark :: behind <:+ text) (free : mark ∉ behind) :
    quoteKinds behind < quoteKinds text := by
  refine Nat.lt_of_lt_of_le ?_ (quoteKinds_le suffix)
  simp only [isQuote, Bool.or_eq_true, decide_eq_true_eq] at quotes
  rcases quotes with rfl | rfl
  · by_cases other : '\'' ∈ behind <;> simp [quoteKinds, free, other]
  · by_cases other : '"' ∈ behind <;> simp [quoteKinds, free, other]

/-- Each quote is left open once at most, for it does not come again. -/
theorem length_unclosed_le (text : List Char) :
    ((tokens text).filterMap Token.unclosed?).length ≤ quoteKinds text := by
  induction size : text.length using Nat.strong_induction_on generalizing text with
  | _ n ih =>
    have words (found : List (List Char)) :
        (found.map Token.word).filterMap Token.unclosed? = [] := by
      simp [List.filterMap_map, List.filterMap_eq_nil_iff, Token.unclosed?]
    rw [tokens_eq, List.filterMap_append, words, List.nil_append]
    cases opened : (scan [] false none text).unclosed with
    | none => exact Nat.zero_le _
    | some found =>
      obtain ⟨lost, behind⟩ := found
      rcases unclosed_cases opened with ⟨q, none, -⟩ | ⟨mark, quotes, suffix, free⟩
      · cases none
      · have shorter : behind.length < n := by
          have bound := suffix.length_le
          rw [List.length_cons, size] at bound
          omega
        have after : afterWord behind <:+ behind :=
          (List.dropWhile_suffix _).trans (List.dropWhile_suffix _)
        have rest := ih _ (Nat.lt_of_le_of_lt after.length_le shorter) (afterWord behind) rfl
        have fewer := quoteKinds_lt quotes suffix free
        have kept := quoteKinds_le after
        simp only [List.filterMap_cons, Token.unclosed?, List.length_cons]
        omega

theorem quoteKinds_le_two (text : List Char) : quoteKinds text ≤ 2 :=
  List.countP_le_length

/-! ## Quotes inside words -/

/-- No quote stands at the start of a text, right behind a blank or right behind an equals sign. -/
structure QuotesInside (text : List Char) : Prop where
  start : ∀ c ∈ text.head?, isQuote c = false
  behind : text.IsChain fun before c =>
    isQuote c = true → Text.isBlank before = false ∧ before ≠ '='

namespace QuotesInside

variable {c : Char}

theorem mayOpen_eq (inside : QuotesInside (current.reverse ++ c :: text))
    (quotes : isQuote c = true) : mayOpen (!current.isEmpty) current = false := by
  cases current with
  | nil =>
    have noQuote := inside.start c rfl
    rw [quotes] at noQuote
    cases noQuote
  | cons before current =>
    have pair := inside.behind
    rw [List.reverse_cons, List.append_assoc, List.singleton_append] at pair
    have noSign := ((List.isChain_cons_cons.mp pair.right_of_append).1 quotes).2
    simp [mayOpen, noSign]

/-- What follows a blank starts with no quote. -/
theorem behindBlank (inside : QuotesInside (current.reverse ++ c :: text))
    (blank : Text.isBlank c = true) : QuotesInside text := by
  have later := inside.behind.right_of_append
  refine ⟨fun d first => ?_, later.tail⟩
  cases text with
  | nil => cases first
  | cons e text =>
    cases first
    rw [← Bool.not_eq_true]
    intro quotes
    have noBlank := ((List.isChain_cons_cons.mp later).1 quotes).1
    rw [blank] at noBlank
    cases noBlank

/-- A pass finds the words, that of the token it is in among them. -/
theorem scan_eq (inside : QuotesInside (current.reverse ++ text))
    (noBlank : ∀ c ∈ current, Text.isBlank c = false) :
    scan current (!current.isEmpty) none text =
      ⟨Text.words (current.reverse ++ text), none⟩ := by
  induction text generalizing current with
  | nil =>
    rw [List.append_nil, Text.words_of_noBlank fun c mem => noBlank c (List.mem_reverse.mp mem)]
    cases current <;> simp [scan]
  | cons c text ih =>
    have opensNot : (isQuote c && mayOpen (!current.isEmpty) current) = false := by
      cases quotes : isQuote c with
      | false => rfl
      | true => exact inside.mayOpen_eq quotes
    rw [scan]
    simp only [opensNot, Bool.false_eq_true, ↓reduceIte]
    by_cases blank : Text.isBlank c = true
    · have later : scan [] false none text = ⟨Text.words text, none⟩ :=
        ih (inside.behindBlank blank) (List.forall_mem_nil _)
      rw [if_pos blank, later,
        Text.words_append_cons (fun c mem => noBlank c (List.mem_reverse.mp mem)) blank]
      cases current <;> simp
    · have grown : (c :: current).reverse ++ text = current.reverse ++ c :: text := by simp
      rw [if_neg blank, ← grown]
      refine ih (grown ▸ inside) fun d mem => ?_
      rcases List.mem_cons.mp mem with rfl | mem
      · simpa using blank
      · exact noBlank d mem

end QuotesInside

/-- **Quotes inside words are plain text.** Where no quote can open, the tokens are the words. -/
theorem tokenTexts_of_quotesInside (inside : QuotesInside text) :
    tokenTexts text = Text.words text := by
  have scanned : scan [] false none text = ⟨Text.words text, none⟩ :=
    QuotesInside.scan_eq inside (List.forall_mem_nil _)
  have closed : IsClosed text := by rw [IsClosed, scanned]
  rw [tokenTexts_of_isClosed closed, scanned]

theorem tokenTexts_of_quotesInside_measures :
    QuotesInside "5'10\" \u3000it's=a'b\"=\nx'' ".toList ∧
      tokenTexts "5'10\" \u3000it's=a'b\"=\nx'' ".toList =
        ["5'10\"".toList, "it's=a'b\"=".toList, "x''".toList] := by
  have inside : QuotesInside "5'10\" \u3000it's=a'b\"=\nx'' ".toList :=
    ⟨by rintro c ⟨⟩; rfl, by decide⟩
  refine ⟨inside, ?_⟩
  rw [tokenTexts_of_quotesInside inside]
  decide

end MediaMarkup.Title
