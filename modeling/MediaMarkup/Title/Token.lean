import MediaMarkup.Text.Blank

/-!
The tokens of the directive text in a title: stretches between blanks, where a quoted stretch stays
in one token. A quote opens at the start of a token or right after an equals sign, and is plain text
elsewhere. A token whose quote never closes is lost, and reading resumes behind its word.
-/

namespace MediaMarkup.Title

/-- A token without its quotes, or the text that an unclosed quote left behind. -/
inductive Token
  | word (text : List Char)
  | unclosed (text : List Char)
  deriving DecidableEq, Repr

/-- An open quote: its character and the text behind it. -/
structure Quote where
  mark : Char
  behind : List Char
  deriving DecidableEq, Repr

/-- What one pass over a text finds: its complete tokens, and the token of a quote that is open at
the end together with the text behind that quote. -/
structure Scan where
  words : List (List Char)
  unclosed : Option (List Char × List Char)
  deriving DecidableEq, Repr

def isQuote (c : Char) : Bool := c = '"' || c = '\''

/-- Whether a quote may open in a token whose characters so far are given last first. -/
def mayOpen (started : Bool) (current : List Char) : Bool :=
  !started || current.head? = some '='

/-- One pass over a text, inside the token `current` (last character first) if it has `started`. -/
def scan (current : List Char) (started : Bool) (quote : Option Quote) : List Char → Scan
  | [] =>
    match quote with
    | some quote => ⟨[], some (current.reverse, quote.behind)⟩
    | none => ⟨if started then [current.reverse] else [], none⟩
  | c :: cs =>
    match quote with
    | some quote =>
      if c = quote.mark then scan current started none cs
      else scan (c :: current) started (some quote) cs
    | none =>
      if isQuote c && mayOpen started current then scan current true (some ⟨c, cs⟩) cs
      else if Text.isBlank c then
        let rest := scan [] false none cs
        if started then { rest with words := current.reverse :: rest.words } else rest
      else scan (c :: current) true none cs

/-- Behind the first word. -/
def afterWord (cs : List Char) : List Char :=
  (cs.dropWhile Text.isBlank).dropWhile (fun c => !Text.isBlank c)

theorem length_afterWord_le (cs : List Char) : (afterWord cs).length ≤ cs.length :=
  ((List.dropWhile_suffix _).trans (List.dropWhile_suffix _)).length_le

/-- The text behind a quote that opened during the pass is shorter than the text passed over. -/
theorem scan_unclosed {current : List Char} {started : Bool} {quote : Option Quote}
    {cs text behind : List Char}
    (h : (scan current started quote cs).unclosed = some (text, behind)) :
    behind.length < cs.length ∨ ∃ q, quote = some q ∧ q.behind = behind := by
  induction cs generalizing current started quote with
  | nil =>
    cases quote with
    | none => simp [scan] at h
    | some q => simp [scan] at h; exact .inr ⟨q, rfl, h.2⟩
  | cons c cs ih =>
    cases quote with
    | some q =>
      simp only [scan] at h
      split at h
      · rcases ih h with h | ⟨_, h, _⟩
        · exact .inl (Nat.lt_succ_of_lt h)
        · simp at h
      · rcases ih h with h | h
        · exact .inl (Nat.lt_succ_of_lt h)
        · exact .inr h
    | none =>
      simp only [scan] at h
      split at h
      · rcases ih h with h | ⟨q, hq, hb⟩
        · exact .inl (Nat.lt_succ_of_lt h)
        · cases hq; subst hb; exact .inl (Nat.lt_succ_self _)
      · split at h
        · have h : (scan [] false none cs).unclosed = some (text, behind) := by
            split at h <;> exact h
          rcases ih h with h | ⟨_, h, _⟩
          · exact .inl (Nat.lt_succ_of_lt h)
          · simp at h
        · rcases ih h with h | ⟨_, h, _⟩
          · exact .inl (Nat.lt_succ_of_lt h)
          · simp at h

def tokens (cs : List Char) : List Token :=
  match h : (scan [] false none cs).unclosed with
  | none => (scan [] false none cs).words.map .word
  | some (text, behind) =>
    (scan [] false none cs).words.map .word ++ .unclosed text :: tokens (afterWord behind)
termination_by cs.length
decreasing_by
  rcases scan_unclosed h with h | ⟨_, h, _⟩
  · exact Nat.lt_of_le_of_lt (length_afterWord_le _) h
  · simp at h

/-- The tokens that one pass finds, and those behind the word of a quote that it leaves open. -/
theorem tokens_eq (cs : List Char) :
    tokens cs = (scan [] false none cs).words.map .word ++
      match (scan [] false none cs).unclosed with
      | none => []
      | some (text, behind) => .unclosed text :: tokens (afterWord behind) := by
  rw [tokens]
  split
  · rename_i closed
    rw [closed, List.append_nil]
  · rename_i text behind opened
    rw [opened]

/-- The text of a complete token. -/
def Token.word? : Token → Option (List Char)
  | .word text => some text
  | .unclosed _ => none

/-- The text of a token that was lost. -/
def Token.unclosed? : Token → Option (List Char)
  | .word _ => none
  | .unclosed text => some text

def tokenTexts (cs : List Char) : List (List Char) :=
  (tokens cs).filterMap Token.word?

end MediaMarkup.Title
