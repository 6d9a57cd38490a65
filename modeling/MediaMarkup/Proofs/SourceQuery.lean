import Mathlib.Data.List.TakeWhile
import MediaMarkup.Media

/-!
What a query or a fragment has to do with the kind of a source. The extension of a path that ends in
one is found whatever follows (`findExtension_named`); behind any other path the search goes on in
what follows (`findExtension_unnamed`). Main statement: `queryIgnored_iff`.
-/

namespace MediaMarkup.Media

variable {path stem run rest query : List Char} {c sign : Char}

/-! ## Runs of letters and digits -/

theorem takeWhile_append_stop (stops : c.isAlphanum = false) :
    (path ++ c :: rest).takeWhile Char.isAlphanum = path.takeWhile Char.isAlphanum := by
  rw [List.takeWhile_append, List.takeWhile_cons_of_neg (by simp [stops]), List.append_nil]
  split
  · rename_i whole
    exact ((List.takeWhile_prefix _).eq_of_length whole).symm
  · rfl

theorem dropWhile_append_stop (stops : c.isAlphanum = false) :
    (path ++ c :: rest).dropWhile Char.isAlphanum =
      path.dropWhile Char.isAlphanum ++ c :: rest := by
  rw [List.dropWhile_append, List.dropWhile_cons_of_neg (by simp [stops])]
  split
  · rename_i empty
    rw [List.isEmpty_iff.mp empty, List.nil_append]
  · rfl

/-! ## The search -/

/-- A query or a fragment ends an extension, and starts none. -/
theorem endsExtension_sign (isSign : sign ∈ ['?', '#']) :
    sign ≠ '.' ∧ sign.isAlphanum = false ∧ ∀ query, endsExtension (sign :: query) = true := by
  simp only [List.mem_cons, List.not_mem_nil, or_false] at isSign
  rcases isSign with rfl | rfl <;> exact ⟨by decide, by decide, fun _ => rfl⟩

/-- No extension ends in front of what is no sign, but for a final line break. -/
theorem endsExtension_append (plain : ∀ sign ∈ ['?', '#'], sign ∉ path) (nonempty : path ≠ [])
    (more : rest ≠ []) : endsExtension (path ++ rest) = false := by
  obtain ⟨c, path, rfl⟩ := List.exists_cons_of_ne_nil nonempty
  obtain ⟨d, behind, behind_eq⟩ :=
    List.exists_cons_of_ne_nil (List.append_ne_nil_of_right_ne_nil path more)
  have noQuery : c ≠ '?' := fun same => plain '?' (by simp) (same ▸ List.mem_cons_self)
  have noFragment : c ≠ '#' := fun same => plain '#' (by simp) (same ▸ List.mem_cons_self)
  rw [List.cons_append, behind_eq]
  simp [endsExtension, noQuery, noFragment]

/-- A path ends in a dot and an extension, with no line break behind it. -/
def EndsNamed (path : List Char) : Prop :=
  ∃ stem run, path = stem ++ '.' :: run ∧ run ≠ [] ∧ ∀ c ∈ run, c.isAlphanum = true

/-- The extension of a path is found, whatever follows a sign behind it. -/
theorem findExtension_named (plain : ∀ sign ∈ ['?', '#'], sign ∉ stem) (nonempty : run ≠ [])
    (all : ∀ c ∈ run, c.isAlphanum = true)
    (ends : rest = [] ∨ ∃ sign ∈ ['?', '#'], ∃ query, rest = sign :: query) :
    findExtension (stem ++ '.' :: (run ++ rest)) = some run := by
  induction stem with
  | nil =>
    have taken : (run ++ rest).takeWhile Char.isAlphanum = run ∧
        (run ++ rest).dropWhile Char.isAlphanum = rest ∧ endsExtension rest = true := by
      rw [List.takeWhile_append_of_pos all, List.dropWhile_append_of_pos all]
      rcases ends with rfl | ⟨sign, isSign, query, rfl⟩
      · simp [endsExtension]
      · obtain ⟨-, stops, finished⟩ := endsExtension_sign isSign
        simp [stops, finished]
    obtain ⟨run_eq, rest_eq, finished⟩ := taken
    simp [findExtension, run_eq, rest_eq, finished, nonempty]
  | cons c stem ih =>
    have plain' : ∀ sign ∈ ['?', '#'], sign ∉ stem := fun sign isSign mem =>
      plain sign isSign (List.mem_cons_of_mem _ mem)
    have goesOn : endsExtension
        ((stem ++ '.' :: (run ++ rest)).dropWhile Char.isAlphanum) = false := by
      rw [dropWhile_append_stop (by decide), List.append_cons]
      refine endsExtension_append (fun sign isSign mem => ?_) (by simp) (by simp [nonempty])
      rcases List.mem_append.mp mem with inStem | isDot
      · exact plain' sign isSign ((List.dropWhile_sublist _).subset inStem)
      · exact (endsExtension_sign isSign).1 (List.mem_singleton.mp isDot)
    rw [List.cons_append, findExtension, goesOn, Bool.and_false]
    exact ih plain'

/-- Behind a path that does not end in an extension, one is looked for in what follows. -/
theorem findExtension_unnamed (plain : ∀ sign ∈ ['?', '#'], sign ∉ path)
    (unnamed : ¬EndsNamed path) (isSign : sign ∈ ['?', '#']) :
    findExtension (path ++ sign :: query) = findExtension query := by
  obtain ⟨noDot, stops, -⟩ := endsExtension_sign isSign
  induction path with
  | nil => simp [findExtension, noDot]
  | cons c path ih =>
    have plain' : ∀ sign ∈ ['?', '#'], sign ∉ path := fun sign isSign mem =>
      plain sign isSign (List.mem_cons_of_mem _ mem)
    have unnamed' : ¬EndsNamed path := by
      rintro ⟨stem, run, rfl, named⟩
      exact unnamed ⟨c :: stem, run, rfl, named⟩
    rw [List.cons_append, findExtension, takeWhile_append_stop stops, dropWhile_append_stop stops]
    split
    · rename_i found
      simp only [Bool.and_eq_true, decide_eq_true_eq, Bool.not_eq_true', List.isEmpty_eq_false_iff]
        at found
      obtain ⟨⟨rfl, nonempty⟩, finished⟩ := found
      cases behind : path.dropWhile Char.isAlphanum with
      | nil =>
        -- The path is a run to its end, so that it ends in it.
        rw [List.dropWhile_eq_nil_iff] at behind
        rw [List.takeWhile_eq_self_iff.mpr behind] at nonempty
        exact absurd ⟨[], path, rfl, nonempty, behind⟩ unnamed
      | cons d behind' =>
        have kept : ∀ sign ∈ ['?', '#'], sign ∉ path.dropWhile Char.isAlphanum :=
          fun sign isSign mem => plain' sign isSign ((List.dropWhile_sublist _).subset mem)
        rw [endsExtension_append kept (by simp [behind]) (by simp)] at finished
        cases finished
    · exact ih plain' unnamed'

/-! ## Sources -/

/-- What follows a sign behind a path has no part in the extension and the media of the source. -/
def QueryIgnored (path sign query : String) : Prop :=
  extension? (path ++ sign ++ query) = extension? path ∧
    ofSource (path ++ sign ++ query) = ofSource path

section

variable {path sign : String} (plain : ∀ c ∈ ['?', '#'], c ∉ path.toList)
  (isSign : sign ∈ ["?", "#"])

include isSign in
theorem toList_sign (path query : String) : ∃ c ∈ ['?', '#'],
    (path ++ sign ++ query).toList = path.toList ++ c :: query.toList := by
  simp only [List.mem_cons, List.not_mem_nil, or_false] at isSign
  rcases isSign with rfl | rfl
  · exact ⟨'?', by simp, by simp⟩
  · exact ⟨'#', by simp, by simp⟩

include plain isSign

theorem extension?_named (named : EndsNamed path.toList) (query : String) :
    extension? (path ++ sign ++ query) = extension? path := by
  obtain ⟨c, isSign, source_eq⟩ := toList_sign isSign path query
  obtain ⟨stem, run, path_eq, nonempty, all⟩ := named
  have plain' : ∀ c ∈ ['?', '#'], c ∉ stem := fun c isSign mem =>
    plain c isSign (by simp [path_eq, mem])
  have followed := findExtension_named plain' nonempty all
    (.inr ⟨c, isSign, query.toList, rfl⟩)
  have alone : findExtension (stem ++ '.' :: (run ++ [])) = some run :=
    findExtension_named plain' nonempty all (.inl rfl)
  rw [List.append_nil] at alone
  rw [extension?, extension?, source_eq, path_eq, alone, List.append_assoc, List.cons_append,
    followed]

theorem extension?_unnamed (unnamed : ¬EndsNamed path.toList) (query : String) :
    extension? (path ++ sign ++ query) = extension? query := by
  obtain ⟨c, isSign, source_eq⟩ := toList_sign isSign path query
  rw [extension?, extension?, source_eq, findExtension_unnamed plain unnamed isSign]

/-- **When a query or a fragment is ignored.** Behind a path that ends in an extension, whatever
follows is ignored. Behind any other path the extension is the one of what follows, which is
therefore ignored only if it has the extension of the path by chance; and something can follow that
makes media of another kind of the source. -/
theorem queryIgnored_iff :
    (∀ query, QueryIgnored path sign query ↔
        EndsNamed path.toList ∨ extension? query = extension? path) ∧
      (¬EndsNamed path.toList →
        ∀ query, extension? (path ++ sign ++ query) = extension? query) ∧
      ((∀ query, (ofSource (path ++ sign ++ query)).kind = (ofSource path).kind) ↔
        EndsNamed path.toList) := by
  have ignored {query : String} (same : extension? (path ++ sign ++ query) = extension? path) :
      QueryIgnored path sign query :=
    ⟨same, congrArg ofExtension same⟩
  refine ⟨fun query => ⟨fun holds => ?_, fun holds => ?_⟩, extension?_unnamed plain isSign,
    fun holds => ?_, fun named query => ?_⟩
  · by_cases named : EndsNamed path.toList
    · exact .inl named
    · exact .inr ((extension?_unnamed plain isSign named query).symm.trans holds.1)
  · by_cases named : EndsNamed path.toList
    · exact ignored (extension?_named plain isSign named query)
    · have same := holds.resolve_left named
      exact ignored ((extension?_unnamed plain isSign named query).trans same)
  · by_contra unnamed
    have video := holds ".mp4"
    have audio := holds ".mp3"
    rw [ofSource, extension?_unnamed plain isSign unnamed] at video audio
    have differ : (ofExtension (extension? ".mp4")).kind ≠
        (ofExtension (extension? ".mp3")).kind := by
      decide +kernel
    exact differ (video.trans audio.symm)
  · exact congrArg Media.kind (ignored (extension?_named plain isSign named query)).2

end

/-- Dots in the path and signs and extensions in the fragment leave a video a video. -/
theorem queryIgnored_iff_dottedPath :
    ((∀ c ∈ ['?', '#'], c ∉ "v1.2/clip.MP4".toList) ∧ "#" ∈ ["?", "#"]) ∧
      QueryIgnored "v1.2/clip.MP4" "#" "t=10?next=b.mp3\n" ∧
      ∀ query, (ofSource ("v1.2/clip.MP4" ++ "#" ++ query)).kind = .video := by
  have plain : ∀ c ∈ ['?', '#'], c ∉ "v1.2/clip.MP4".toList :=
    List.forall_mem_cons.mpr ⟨by decide, List.forall_mem_singleton.mpr (by decide)⟩
  have isSign : "#" ∈ ["?", "#"] := by decide
  have named : EndsNamed "v1.2/clip.MP4".toList :=
    ⟨"v1.2/clip".toList, "MP4".toList, by decide, by decide, List.all_eq_true.mp (by decide)⟩
  obtain ⟨each, -, all⟩ := queryIgnored_iff plain isSign
  have video : (ofSource "v1.2/clip.MP4").kind = .video := by decide +kernel
  exact ⟨⟨plain, isSign⟩, (each _).mpr (.inl named), fun query =>
    (all.mpr named query).trans video⟩

/-- An extension in a query makes a video of an image. -/
theorem not_queryIgnored_videoInQuery :
    (∀ c ∈ ['?', '#'], c ∉ "image".toList) ∧ ¬QueryIgnored "image" "?" "f=clip.mp4" ∧
      (ofSource "image").kind = .image ∧ (ofSource "image?f=clip.mp4").kind = .video := by
  refine ⟨List.forall_mem_cons.mpr ⟨by decide, List.forall_mem_singleton.mpr (by decide)⟩, ?_,
    by decide +kernel, by decide +kernel⟩
  rintro ⟨same, -⟩
  revert same
  decide +kernel

end MediaMarkup.Media
