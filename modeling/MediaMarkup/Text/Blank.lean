/-!
Blank characters, and the cuts that a text is given: at its edges, at every separator, at the first
separator, into words. Every function here works on the list of characters of a text.
-/

namespace MediaMarkup.Text

/-- White space in Unicode's sense, the four information separators included. -/
def isBlank (c : Char) : Bool :=
  let n := c.toNat
  (9 ≤ n && n ≤ 13) || (28 ≤ n && n ≤ 32) || n == 0x85 || n == 0xA0 || n == 0x1680 ||
  (0x2000 ≤ n && n ≤ 0x200A) || n == 0x2028 || n == 0x2029 || n == 0x202F || n == 0x205F ||
  n == 0x3000

/-- Core's own white space is blank. -/
theorem isBlank_of_isWhitespace {c : Char} (h : c.isWhitespace = true) : isBlank c = true := by
  simp only [Char.isWhitespace, Bool.or_eq_true, decide_eq_true_eq] at h
  rcases h with ((rfl | rfl) | rfl) | rfl <;> decide

/-! ## Edges -/

def dropRightWhile (p : Char → Bool) (cs : List Char) : List Char :=
  (cs.reverse.dropWhile p).reverse

/-- The text between its first and its last character that is not blank. -/
def strip (cs : List Char) : List Char :=
  dropRightWhile isBlank (cs.dropWhile isBlank)

def isBlankText (cs : List Char) : Bool :=
  cs.all isBlank

/-! ## Separators -/

/-- The stretches between the separators, empty ones included: never the empty list. -/
def pieces (isSeparator : Char → Bool) : List Char → List (List Char)
  | [] => [[]]
  | c :: cs =>
    if isSeparator c then [] :: pieces isSeparator cs
    else match pieces isSeparator cs with
      | [] => [[c]]
      | piece :: rest => (c :: piece) :: rest

/-- The maximal stretches without a blank. -/
def words (cs : List Char) : List (List Char) :=
  (pieces isBlank cs).filter (fun word => !word.isEmpty)

/-- What stands before the first separator, and what stands after it if there is one. -/
def cut (separator : Char) : List Char → List Char × Option (List Char)
  | [] => ([], none)
  | c :: cs =>
    if c = separator then ([], some cs)
    else
      let (before, after) := cut separator cs
      (c :: before, after)

/-- Joins texts with a separator between neighbours. -/
def join (separator : List Char) : List (List Char) → List Char
  | [] => []
  | [piece] => piece
  | piece :: rest => piece ++ separator ++ join separator rest

def substitute (old new : Char) (cs : List Char) : List Char :=
  cs.map (fun c => if c = old then new else c)

/-- Whether the first text stands somewhere in the second. -/
def occursIn (part : List Char) : List Char → Bool
  | [] => part.isEmpty
  | c :: cs => part.isPrefixOf (c :: cs) || occursIn part cs

end MediaMarkup.Text
