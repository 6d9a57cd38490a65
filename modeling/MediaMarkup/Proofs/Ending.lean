import MediaMarkup.Proofs.LevelRun
import MediaMarkup.Proofs.Paragraphs
import MediaMarkup.Proofs.Weight

/-!
Enriching a document ends. The budget of a walk is no part of what it does: a walk that ends within
one budget does the same with every larger one (`Walk.run_of_le`), and a budget that is linear in
the size of the document is enough (`Walk.run_ends`), since every step takes something off the load
of a level. Unravelling ends too (`Node.unravelFrom_eq`). Main statement: `enrich_ends`.
-/

namespace MediaMarkup

/-! ## Budgets -/

namespace Walk

variable {σ ε : Type} {visitor : Visitor σ ε} {tags : List String}

/-- A run that does not run out of its budget does the same with a larger one. -/
theorem run_of_le {budget budget' index : Nat} {walk : Walk σ} (le : budget ≤ budget')
    (ends : ∀ left, run visitor tags budget index walk ≠ .error (.outOfBudget, left)) :
    run visitor tags budget' index walk = run visitor tags budget index walk := by
  induction budget generalizing budget' index walk with
  | zero => exact absurd rfl (ends walk)
  | succ budget ih =>
    obtain ⟨budget', rfl⟩ := Nat.exists_eq_add_one.mpr (show 0 < budget' by omega)
    have le' : budget ≤ budget' := by omega
    unfold run at ends ⊢
    cases here : walk.place.children[index]? with
    | none => rfl
    | some node =>
      simp only [here] at ends
      cases node with
      | comment text tail => exact ih le' ends
      | instruction text tail => exact ih le' ends
      | element head children tail =>
        by_cases wanted : head.tag ∈ tags
        · simp only [wanted, ↓reduceIte] at ends ⊢
          rcases called : visitor walk index with ⟨cause, left⟩ | ⟨found, next⟩
          · rfl
          · simp only [called] at ends ⊢
            exact ih le' ends
        · simp only [wanted, ↓reduceIte] at ends ⊢
          have entered : run visitor tags budget' 0 (walk.enter index head children tail) =
              run visitor tags budget 0 (walk.enter index head children tail) := by
            refine ih le' fun left out => ?_
            rw [out] at ends
            exact ends left rfl
          rw [entered]
          rcases ran : run visitor tags budget 0 (walk.enter index head children tail) with
            stop | inner
          · rfl
          · simp only [ran] at ends ⊢
            exact ih le' ends

/-- A budget that is larger than the load of a level is enough for the walk of what is left of
it. -/
theorem run_ends {format : Format} {settings : Settings} (level : Level) (before todo : List Node)
    (tail : String) (outer : List Frame) (budget : Nat) (walk : Enriching)
    (stands : walk.Stands settings level (before ++ todo) tail outer)
    (enough : level.load before todo < budget) (left : Enriching) :
    run (Enrich.visitor format settings) Media.tags budget before.length walk ≠
      .error (.outOfBudget, left) := by
  induction budget generalizing level before todo tail outer walk left with
  | zero => omega
  | succ budget ih =>
    unfold run
    rw [stands.children_eq]
    cases todo with
    | nil => simp
    | cons node todo =>
      have at_ : (before ++ node :: todo)[before.length]? = some node := by simp
      have skipped (noElement : node.isElement = false) :
          run (Enrich.visitor format settings) Media.tags budget (before.length + 1) walk ≠
            .error (.outOfBudget, left) := by
        have less := level.load_skip noElement before todo
        have rest := ih level (before ++ [node]) todo tail outer walk (by simpa using stands)
          (by omega) left
        rwa [List.length_append, List.length_singleton] at rest
      simp only [at_]
      cases node with
      | comment text nodeTail => exact skipped rfl
      | instruction text nodeTail => exact skipped rfl
      | element head inner nodeTail =>
        by_cases media : head.tag ∈ Media.tags
        · simp only [media, ↓reduceIte]
          rcases called : Enrich.visitor format settings walk before.length with
            ⟨cause, stopped⟩ | ⟨found, next⟩
          · simp
          · obtain ⟨change, handled, rfl, next'⟩ := stands.visitor called
            have less := handled.load_visit media
            have rest := ih _ (captionFront settings (level.own change.figcaption) ++ before ++
              [change.slot.withTail nodeTail]) _ tail outer next (by simpa using next') (by omega)
              left
            rwa [List.length_append, List.length_singleton] at rest
        · simp only [media, ↓reduceIte]
          have smaller : (level.below head (before ++ todo)).load [] inner <
            level.load before (.element head inner nodeTail :: todo) := Level.load_enter media _
          rcases entered : run (Enrich.visitor format settings) Media.tags budget 0
              (walk.enter before.length head inner nodeTail) with ⟨stop, stopped⟩ | innerWalk
          · have inside := ih _ [] inner nodeTail _ _ stands.enter (by omega) stopped
            rintro ⟨⟩
            exact inside entered
          · obtain ⟨log, below, inner', inside, innerStands⟩ :=
              run_pass_untraced entered stands.enter
            have resumed := stands.resume innerStands
            -- a link that is met again has given its figure the only figcaption
            rcases captionFront_cases settings below.caption with kept | ⟨caption, moved, unmoved⟩
            · have less := inside.load_leave media nodeTail
              rw [kept, List.nil_append] at less
              have rest := ih level (before ++ [below.close inner' nodeTail]) _ tail outer _
                (by simpa [kept] using resumed) (by omega) left
              rwa [List.length_append, List.length_singleton] at rest
            · have less := inside.load_again moved media nodeTail
              exact ih level (caption :: before) (below.close inner' nodeTail :: todo) tail outer _
                (by simpa [moved, unmoved] using resumed) (by omega) left

end Walk

/-! ## Unravelling by index -/

namespace Node

/-- Unravels the children of an element from an index on, one after the other: the pieces of a
paragraph come in its place, and are stepped over. Without a budget it stops. -/
def unravelFrom : Nat → Nat → List Node → Option (List Node)
  | 0, _, _ => none
  | budget + 1, index, nodes =>
    match nodes[index]? with
    | none => some nodes
    | some node =>
      if node.needsUnravelling then
        let pieces := Paragraph.onLines node.tail (Paragraph.split node)
        unravelFrom budget (index + pieces.length)
          (nodes.take index ++ pieces ++ nodes.drop (index + 1))
      else
        match node with
        | .element head children tail =>
          match unravelFrom budget 0 children with
          | none => none
          | some children =>
            unravelFrom budget (index + 1) (nodes.set index (.element head children tail))
        | _ => unravelFrom budget (index + 1) nodes

theorem unravelFrom_of_noElement {node : Node} (noElement : node.isElement = false) (budget : Nat)
    (before rest : List Node) :
    unravelFrom (budget + 1) before.length (before ++ node :: rest) =
      unravelFrom budget (before ++ [node]).length (before ++ [node] ++ rest) := by
  cases node with
  | element => simp [isElement, head?] at noElement
  | comment | instruction =>
    simp [unravelFrom, needsUnravelling, hasTag, tag?, head?]

/-- Going by index comes to what unravelling is, with a budget for every node. -/
theorem unravelFrom_eq (todo : List Node) (before : List Node) (budget : Nat)
    (enough : sizes todo < budget) :
    unravelFrom budget before.length (before ++ todo) = some (before ++ unravelAll todo) := by
  induction todo using Node.inductionOnAll generalizing before budget with
  | nil =>
    obtain ⟨budget, rfl⟩ := Nat.exists_eq_add_one.mpr (Nat.zero_lt_of_lt enough)
    simp [unravelFrom, unravelAll]
  | comment text tail rest ih =>
    obtain ⟨budget, rfl⟩ := Nat.exists_eq_add_one.mpr (Nat.zero_lt_of_lt enough)
    simp only [sizes, size] at enough
    rw [unravelFrom_of_noElement rfl, ih _ budget (by omega), unravelAll_comment]
    simp
  | instruction text tail rest ih =>
    obtain ⟨budget, rfl⟩ := Nat.exists_eq_add_one.mpr (Nat.zero_lt_of_lt enough)
    simp only [sizes, size] at enough
    rw [unravelFrom_of_noElement rfl, ih _ budget (by omega), unravelAll_instruction]
    simp
  | element head children tail rest childrenIh ih =>
    obtain ⟨budget, rfl⟩ := Nat.exists_eq_add_one.mpr (Nat.zero_lt_of_lt enough)
    rw [sizes, size] at enough
    have here : (before ++ .element head children tail :: rest)[before.length]? =
        some (.element head children tail) := by simp
    have step (pieces : List Node) :
        unravelFrom budget (before ++ pieces).length (before ++ pieces ++ rest) =
          some (before ++ (pieces ++ unravelAll rest)) := by
      rw [ih _ budget (by omega), List.append_assoc]
    rw [unravelFrom, here]
    dsimp only
    rw [unravelAll]
    split
    · rw [← step, List.length_append]
      simp
    · have inside : unravelFrom budget 0 children = some (unravelAll children) :=
        childrenIh [] budget (by omega)
      have behind := step [.element head (unravelAll children) tail]
      rw [inside, unravel]
      simpa using behind

/-- Unravelling a document by index. -/
def unravelBy (budget : Nat) : Node → Option Node
  | .element head children tail => (unravelFrom budget 0 children).map (.element head · tail)
  | node => some node

theorem unravelBy_eq (tree : Node) (more : Nat) :
    tree.unravelBy (tree.size + more) = some tree.unravel := by
  cases tree with
  | element head children tail =>
    have done : unravelFrom (1 + sizes children + more) 0 children = some (unravelAll children) :=
      unravelFrom_eq children [] _ (by omega)
    rw [unravelBy, size, done, unravel]
    rfl
  | comment | instruction => rw [unravelBy, unravel] <;> simp

end Node

/-! ## Whole documents -/

theorem Level.load_root (head : Head) (children : List Node) (tail : String) :
    (root head).load [] children < 4 * (Node.element head children tail).size + 2 := by
  have weights := Node.weights_le head.tag none children
  have room : captionRoom head.tag children ≤ 1 := by
    unfold captionRoom
    split <;> omega
  simp only [load, root, around, List.nil_append, Node.size]
  omega

theorem Enrich.size_le_budget (tree : Node) : 4 * tree.size + 2 ≤ budget tree := by
  calc 4 * tree.size + 2 ≤ 64 * (tree.size + 1) * 1 := by omega
    _ ≤ 64 * (tree.size + 1) * (tree.size + 1) := Nat.mul_le_mul_left _ (by omega)

/-- The walk over a document does not run out of a budget that is linear in its size, and a larger
budget changes nothing. -/
theorem Enrich.walk_ends (format : Format) (settings : Settings) (tree : Node) (more : Nat) :
    (tree.walk (Enrich.visitor format settings) Media.tags (4 * tree.size + 2 + more) []).stop ≠
        some .outOfBudget ∧
      tree.walk (Enrich.visitor format settings) Media.tags (4 * tree.size + 2 + more) [] =
        Enrich.walk format settings tree := by
  cases treeIs : tree with
  | comment | instruction => exact ⟨by simp [Node.walk, Place.ofNode?], rfl⟩
  | element head children tail =>
    rw [← treeIs]
    have small : (Level.root head).load [] children < 4 * tree.size + 2 := by
      rw [treeIs]
      exact Level.load_root head children tail
    have ends (more : Nat) (left : Walk.Enriching) :
        Walk.run (Enrich.visitor format settings) Media.tags (4 * tree.size + 2 + more) 0
          (Walk.start ⟨head, children, tail, []⟩ []) ≠ .error (.outOfBudget, left) :=
      Walk.run_ends (.root head) [] children tail [] _ _ (Node.startAt_stands []) (by omega) left
    have same (budget : Nat) (le : 4 * tree.size + 2 + 0 ≤ budget) := Walk.run_of_le le (ends 0)
    have enough : 4 * tree.size + 2 + 0 ≤ budget tree := size_le_budget tree
    have place : Place.ofNode? tree = some ⟨head, children, tail, []⟩ := by rw [treeIs]; rfl
    refine ⟨?_, ?_⟩
    · simp only [Node.walk, place]
      rcases ran : Walk.run (Enrich.visitor format settings) Media.tags
          (4 * tree.size + 2 + more) 0 (Walk.start ⟨head, children, tail, []⟩ []) with
        ⟨stop, left⟩ | last
      · rintro ⟨⟩
        exact ends more left ran
      · simp
    · rw [Enrich.walk]
      simp only [Node.walk, place]
      rw [same _ enough, same _ (by omega)]

namespace Node

/-- A pass that fails does so in its walk, or because its paragraphs cannot be unravelled. -/
theorem stop_of_failure {format : Format} {settings : Settings} {tree : Node}
    {stop : Stop EnrichError} (failed : (tree.enrichAs format settings).failure = some stop) :
    (tree.enrichAs format settings).tree = (Enrich.walk format settings tree).tree ∧
      ((Enrich.walk format settings tree).stop = some stop ∨
        (Enrich.walk format settings tree).stop = none ∧
          ∃ cause, stop = .failed (.format cause) ∧
            (Enrich.walk format settings tree).tree.unravelAs format = .error cause) := by
  unfold enrichAs at failed ⊢
  split at failed
  · rename_i enabled
    rw [if_pos enabled]
    cases stopped : (Enrich.walk format settings tree).stop with
    | some stop' =>
      simp only [stopped, Option.some.injEq] at failed
      exact ⟨by simp only [stopped], .inl (congrArg some failed)⟩
    | none =>
      simp only [stopped] at failed ⊢
      split at failed
      · rename_i unravels
        rw [if_pos unravels]
        split at failed
        · rename_i cause refused
          cases failed
          simp only [refused]
          exact ⟨trivial, .inr ⟨trivial, cause, rfl, rfl⟩⟩
        · cases failed
      · cases failed
  · cases failed

end Node

/-- **Enriching a document ends,** in every format. The walk does not run out of its budget, which
is no part of what it does: any budget that is linear in the size of the document gives the same.
Unravelling ends with as many steps as there are nodes. -/
theorem enrich_ends (format : Format) (settings : Settings) (tree : Node) :
    (tree.enrichAs format settings).failure ≠ some .outOfBudget ∧
      (∀ more,
        tree.walk (Enrich.visitor format settings) Media.tags (4 * tree.size + 2 + more) [] =
          Enrich.walk format settings tree) ∧
      ∀ (walked : Node) (more : Nat),
        walked.unravelBy (walked.size + more) = some walked.unravel := by
  refine ⟨?_, fun more => (Enrich.walk_ends format settings tree more).2, Node.unravelBy_eq⟩
  intro failed
  obtain ⟨ends, same⟩ := Enrich.walk_ends format settings tree 0
  rw [same] at ends
  obtain ⟨-, out | ⟨-, cause, out, -⟩⟩ := Node.stop_of_failure failed
  · exact ends out
  · cases out

end MediaMarkup
