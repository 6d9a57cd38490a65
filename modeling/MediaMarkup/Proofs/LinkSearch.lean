import MediaMarkup.Proofs.InsideLink

/-!
Where two links meet in a document that a pass is about to link. Outside of links, an image may ask
for a link around itself or around the figure that it stands in; `Node.clashes` is the search for a
place where one of these comes to lie around another one or around a link that is there. `Node.Tidy`
are the documents in which the links that are there do no harm themselves.
-/

namespace MediaMarkup

/-! ## Where links meet -/

namespace Search

/-- The search for an image outside of links that asks for one. -/
def linkAsked : Search := fun head _ =>
  if head.tag ∈ Media.tags then some head.linkAsked?.isSome
  else if head.tag = "a" then some false else none

/-- The search for a link that a pass keeps: what is in an image is lost if it becomes a player. -/
def linkKept : Search := fun head children =>
  if head.tag ∈ Media.tags then some (!head.converts && Node.findsAny (.tagged "a") children)
  else if head.tag = "a" then some true else none

end Search

namespace Node

/-- The wrapper of the link that an image asks for. -/
def linkAsked? (node : Node) : Option Wrapper :=
  node.head?.bind Head.linkAsked?

/-- Whether an image asks for a link around the figure that it stands in. -/
def asksOutside (node : Node) : Bool :=
  decide (node.linkAsked? = some .bracket)

/-- Whether an image deeper than the children asks for a link. -/
def asksDeeper (children : List Node) : Bool :=
  children.any fun child => child.linkAsked?.isNone && child.finds .linkAsked

/-- Whether one of the images before those that ask for a link around the figure asks for one around
itself. -/
def asksFirst (children : List Node) : Bool :=
  (children.takeWhile (fun child => !child.asksOutside)).any (fun child => child.linkAsked?.isSome)

/-- Whether a figure is linked as a whole, and something in it too. -/
def linksTwice (children : List Node) : Bool :=
  children.any asksOutside &&
    (findsAny .linkKept children || asksFirst children || asksDeeper children)

end Node

namespace Search

/-- The search for two links that meet: the one that an image asks for and one in the image, or the
one that a figure gets and one in the figure. -/
def clash : Search := fun head children =>
  if head.tag ∈ Media.tags then
    some (head.linkAsked?.isSome && Node.findsAny (.tagged "a") children)
  else if head.tag = "a" then some false
  else if head.tag = "figure" && Node.linksTwice children then some true
  else none

/-- The search for a link with a media element that does not see it. -/
def untidy : Search := fun head children =>
  if head.tag = "a" && children.any (Node.straysIn "a") then some true else none

end Search

namespace Node

/-- Whether two links meet outside of the links that are there. -/
def clashes (tree : Node) : Bool :=
  !tree.hasTag "a" && findsAny .clash tree.children

end Node

/-! ## Tidy documents -/

/-- No link lies in another one, and every media element in a link sees it. -/
structure Node.Tidy (node : Node) : Prop where
  unnested : node.nests "a" = false
  near : node.finds .untidy = false

namespace Node

variable {head : Head} {children : List Node} {tail : String}

theorem Tidy.children_of_other (tidy : (Node.element head children tail).Tidy)
    (other : head.tag ≠ "a") : ∀ child ∈ children, child.Tidy := by
  intro child mem
  obtain ⟨unnested, near⟩ := tidy
  have passed : Search.untidy head children = none := by
    simp [Search.untidy, other]
  rw [nests_of_ne other, findsAny_eq_false] at unnested
  rw [finds_of_none passed, findsAny_eq_false] at near
  exact ⟨unnested child mem, near child mem⟩

theorem Tidy.children_of_link (tidy : (Node.element head children tail).Tidy)
    (isLink : head.tag = "a") : ∀ child ∈ children, child.TidyIn "a" := by
  intro child mem
  obtain ⟨unnested, near⟩ := tidy
  rw [nests_of_tag isLink, findsAny_eq_false] at unnested
  refine ⟨unnested child mem, ?_⟩
  rw [← Bool.not_eq_true]
  intro strays
  have found : Search.untidy head children = some true := by
    simp only [Search.untidy, isLink, decide_true, Bool.true_and]
    exact if_pos (List.any_eq_true.mpr ⟨child, mem, strays⟩)
  rw [finds_of_some found] at near
  cases near

theorem tidy_of_link (isLink : head.tag = "a") (tidy : ∀ child ∈ children, child.TidyIn "a") :
    (Node.element head children tail).Tidy := by
  have unlinked : findsAny (.tagged "a") children = false :=
    findsAny_eq_false.mpr fun child mem => (tidy child mem).unlinked
  have near : children.any (straysIn "a") = false :=
    List.any_eq_false.mpr fun child mem => by simp [(tidy child mem).near]
  refine ⟨(nests_of_tag isLink).trans unlinked, ?_⟩
  have passed : Search.untidy head children = none := by
    simp [Search.untidy, near]
  have only (head : Head) (children : List Node) (other : head.tag ≠ "a") :
      Search.untidy head children = none := by
    simp [Search.untidy, other]
  rw [finds_of_none passed]
  exact findsAny_eq_false_of_tagged only unlinked

theorem tidy_figcaption (text : String) : (figcaption text).Tidy := by
  refine ⟨?_, ?_⟩
  · exact (nests_of_ne (by simp [Head.new])).trans findsAny_nil
  · exact (finds_of_none (by simp [Search.untidy, Head.new])).trans findsAny_nil

end Node

/-! ## What the searches make of an element -/

namespace Node

variable {head : Head} {children : List Node} {tail : String}

theorem finds_linkAsked_of_media (media : head.tag ∈ Media.tags) :
    finds .linkAsked (.element head children tail) = head.linkAsked?.isSome :=
  finds_of_some (if_pos media)

theorem finds_linkKept_of_media (media : head.tag ∈ Media.tags) :
    finds .linkKept (.element head children tail) =
      (!head.converts && findsAny (.tagged "a") children) :=
  finds_of_some (if_pos media)

theorem finds_clash_of_media (media : head.tag ∈ Media.tags) :
    finds .clash (.element head children tail) =
      (head.linkAsked?.isSome && findsAny (.tagged "a") children) :=
  finds_of_some (if_pos media)

theorem media_ne_link (isLink : head.tag = "a") : head.tag ∉ Media.tags := by
  rw [isLink]
  decide

theorem finds_linkAsked_of_link (isLink : head.tag = "a") :
    finds .linkAsked (.element head children tail) = false :=
  finds_of_some ((if_neg (media_ne_link isLink)).trans (if_pos isLink))

theorem finds_linkKept_of_link (isLink : head.tag = "a") :
    finds .linkKept (.element head children tail) = true :=
  finds_of_some ((if_neg (media_ne_link isLink)).trans (if_pos isLink))

theorem finds_clash_of_link (isLink : head.tag = "a") :
    finds .clash (.element head children tail) = false :=
  finds_of_some ((if_neg (media_ne_link isLink)).trans (if_pos isLink))

theorem finds_linkAsked_of_other (noMedia : head.tag ∉ Media.tags) (noLink : head.tag ≠ "a") :
    finds .linkAsked (.element head children tail) = findsAny .linkAsked children :=
  finds_of_none ((if_neg noMedia).trans (if_neg noLink))

theorem finds_linkKept_of_other (noMedia : head.tag ∉ Media.tags) (noLink : head.tag ≠ "a") :
    finds .linkKept (.element head children tail) = findsAny .linkKept children :=
  finds_of_none ((if_neg noMedia).trans (if_neg noLink))

theorem finds_clash_of_other (noMedia : head.tag ∉ Media.tags) (noLink : head.tag ≠ "a") :
    finds .clash (.element head children tail) =
      (decide (head.tag = "figure") && linksTwice children || findsAny .clash children) := by
  rw [finds_element, Search.clash, if_neg noMedia, if_neg noLink]
  split <;> simp_all

theorem linkAsked?_of_other (noMedia : head.tag ∉ Media.tags) :
    (Node.element head children tail).linkAsked? = none := by
  refine Head.linkAsked?_of_ne fun image => noMedia ?_
  rw [image]
  decide

theorem asksOutside_of_other (noMedia : head.tag ∉ Media.tags) :
    (Node.element head children tail).asksOutside = false := by
  simp [asksOutside, linkAsked?_of_other noMedia]

/-- A node that asks for a link is an image. -/
theorem media_of_linkAsked {node : Node} {wrapper : Wrapper} (h : node.linkAsked? = some wrapper) :
    ∃ head children tail, node = .element head children tail ∧ head.tag ∈ Media.tags ∧
      head.linkAsked? = some wrapper := by
  cases node with
  | element head children tail =>
    refine ⟨head, children, tail, rfl, ?_, h⟩
    apply Decidable.byContradiction
    intro other
    rw [linkAsked?_of_other other] at h
    cases h
  | comment => cases h
  | instruction => cases h

theorem finds_linkAsked_of_asksOutside {node : Node} (h : node.asksOutside = true) :
    node.finds .linkAsked = true := by
  obtain ⟨head, children, tail, rfl, media, asked⟩ := media_of_linkAsked (of_decide_eq_true h)
  rw [finds_linkAsked_of_media media, asked, Option.isSome_some]

theorem linkAsked?_of_noElement {node : Node} (h : node.isElement = false) :
    node.linkAsked? = none := by
  cases node with
  | element => simp [isElement, head?] at h
  | comment => rfl
  | instruction => rfl

theorem asksOutside_of_noElement {node : Node} (h : node.isElement = false) :
    node.asksOutside = false := by
  simp [asksOutside, linkAsked?_of_noElement h]

/-- Links that meet in a node are asked for in it. -/
theorem finds_linkAsked_of_clash (node : Node) (h : node.finds .clash = true) :
    node.finds .linkAsked = true := by
  induction node using Node.inductionOn with
  | element head children tail ih =>
    by_cases media : head.tag ∈ Media.tags
    · rw [finds_clash_of_media media, Bool.and_eq_true] at h
      rw [finds_linkAsked_of_media media]
      exact h.1
    · by_cases isLink : head.tag = "a"
      · rw [finds_clash_of_link isLink] at h
        cases h
      · rw [finds_clash_of_other media isLink, Bool.or_eq_true] at h
        rw [finds_linkAsked_of_other media isLink, findsAny_eq_true]
        rcases h with h | h
        · simp only [linksTwice, Bool.and_eq_true, List.any_eq_true] at h
          obtain ⟨-, ⟨child, mem, asks⟩, -⟩ := h
          exact ⟨child, mem, finds_linkAsked_of_asksOutside asks⟩
        · obtain ⟨child, mem, clash⟩ := findsAny_eq_true.mp h
          exact ⟨child, mem, ih child mem clash⟩
  | comment => simp at h
  | instruction => simp at h

/-- Where links meet among the children of a figure, one is kept or asked for deeper in it. -/
theorem linkKept_or_asksDeeper_of_clash {children : List Node}
    (h : findsAny .clash children = true) :
    findsAny .linkKept children = true ∨ asksDeeper children = true := by
  obtain ⟨child, mem, clash⟩ := findsAny_eq_true.mp h
  cases asked : child.linkAsked? with
  | none =>
    refine .inr (List.any_eq_true.mpr ⟨child, mem, ?_⟩)
    rw [asked, finds_linkAsked_of_clash child clash]
    rfl
  | some wrapper =>
    refine .inl (findsAny_eq_true.mpr ⟨child, mem, ?_⟩)
    obtain ⟨head, children, tail, rfl, media, asked⟩ := media_of_linkAsked asked
    rw [finds_clash_of_media media, Bool.and_eq_true] at clash
    rw [finds_linkKept_of_media media, Head.converts_of_linkAsked clash.1, clash.2]
    rfl

theorem asksDeeper_cons (node : Node) (rest : List Node) :
    asksDeeper (node :: rest) =
      (node.linkAsked?.isNone && node.finds .linkAsked || asksDeeper rest) := rfl

theorem asksDeeper_append (xs ys : List Node) :
    asksDeeper (xs ++ ys) = (asksDeeper xs || asksDeeper ys) :=
  List.any_append

theorem asksFirst_cons (node : Node) (rest : List Node) :
    asksFirst (node :: rest) =
      if node.asksOutside then false else node.linkAsked?.isSome || asksFirst rest := by
  unfold asksFirst
  cases h : node.asksOutside <;> simp [h]

theorem asksFirst_append {ys : List Node} (unasked : ∀ node ∈ ys, node.linkAsked? = none)
    (xs : List Node) : asksFirst (xs ++ ys) = asksFirst xs := by
  induction xs with
  | nil =>
    unfold asksFirst
    rw [List.nil_append, List.any_eq_false.mpr]
    · rfl
    · intro node mem
      simp [unasked node (List.takeWhile_subset _ mem)]
  | cons node xs ih => rw [List.cons_append, asksFirst_cons, asksFirst_cons, ih]

end Node

namespace Search

theorem linkAsked_passesCaptions : linkAsked.PassesCaptions := by
  intro head isCaption
  simp [linkAsked, isCaption, Media.tags, Kind.tag]

theorem linkKept_passesCaptions : linkKept.PassesCaptions := by
  intro head isCaption
  simp [linkKept, isCaption, Media.tags, Kind.tag]

theorem clash_passesCaptions : clash.PassesCaptions := by
  intro head isCaption
  simp [clash, isCaption, Media.tags, Kind.tag]

theorem link_passesCaptions : (tagged "a").PassesCaptions :=
  tagged_passesCaptions (by decide)

theorem nestedLink_passesCaptions : (nesting "a").PassesCaptions :=
  nesting_passesCaptions (by decide)

end Search

end MediaMarkup
