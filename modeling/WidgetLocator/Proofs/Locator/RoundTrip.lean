import WidgetLocator.Locator
import WidgetLocator.Proofs.Path.RoundTrip

namespace WidgetLocator

namespace StepForm

variable {segment : List Char} {step : PathStep}

/-- A step that starts with a letter has no colon in it. -/
theorem Denotes.colon_not_mem (h : Denotes segment step) {c : Char} {rest : List Char}
    (hs : segment = c :: rest) (hc : IsLetter c) : ':' ∉ segment := by
  cases h with
  | wildcard h =>
    rw [mem_oneOf_eq.mp h]
    decide
  | name h =>
    obtain ⟨d, rest, rfl, hd, hr⟩ := mem_oneOf_mul.mp h
    intro hm
    rcases List.mem_cons.mp hm with rfl | hm
    · exact absurd hd (by decide)
    · exact absurd (mem_star_oneOf.mp hr ':' hm) (by decide)
  | @index word digits hw hd =>
    rw [List.append_assoc, List.cons_append]
    intro hm
    rcases List.mem_append.mp hm with hm | hm
    · have hl := List.mem_map_of_mem (f := asciiLower) hm
      rw [mem_childWord_iff.mp hw] at hl
      exact absurd hl (by decide)
    · have hm : ':' ∈ digits := by simpa using hm
      exact absurd (List.all_eq_true.mp (mem_digitRow_iff.mp hd).2 ':' hm) (by decide)
  | attr h _ =>
    rw [hs] at h
    obtain rfl : c = '[' := by simpa using h.1
    exact absurd hc (by decide)

end StepForm

/-- No path that can be read starts with the name of an object space. -/
theorem Path.not_objectSpace {text : String} {path : Path} (h : Path.parse text = .ok path)
    {space rest : List Char} (hs : splitAtFirst ':' text.toList = some (space, rest)) :
    ¬(space ≠ [] ∧ space.all isAsciiLetter = true) := by
  rintro ⟨hne, hl⟩
  obtain ⟨ht, _⟩ := splitAtFirst_eq_some_iff.mp hs
  have letters : ∀ c ∈ space, StepForm.IsLetter c := fun c hc =>
    isAsciiLetter_iff.mp (List.all_eq_true.mp hl c hc)
  have hslash : '/' ∉ space ++ [':'] := by
    intro hm
    rcases List.mem_append.mp hm with hm | hm
    · exact absurd (letters '/' hm) (by decide)
    · exact absurd hm (by decide)
  obtain ⟨later, hm⟩ := exists_mem_segments hslash (by simp) rest
  have hm : space ++ [':'] ++ later ∈ segments text.toList := by
    rw [ht]
    simpa using hm
  obtain ⟨step, _, hp⟩ := exists_of_mem_left (Path.parse_eq_ok_iff.mp h) hm
  obtain ⟨c, space, rfl⟩ := List.exists_cons_of_ne_nil hne
  have hd := StepForm.parse_eq_ok_iff.mp hp
  exact hd.colon_not_mem rfl (letters c (by simp)) (by simp)

theorem dropObjectSpace_of_no_space {text : List Char} (h : ∀ space rest,
    splitAtFirst ':' text = some (space, rest) → ¬(space ≠ [] ∧ space.all isAsciiLetter = true)) :
    dropObjectSpace text = text := by
  unfold dropObjectSpace
  split
  next space rest hs => exact if_neg (h space rest hs)
  next => rfl

theorem dropObjectSpace_of_letters {space rest : List Char} (hne : space ≠ [])
    (hl : space.all isAsciiLetter = true) : dropObjectSpace (space ++ ':' :: rest) = rest := by
  have hc : ':' ∉ space := fun hm => absurd (List.all_eq_true.mp hl ':' hm) (by decide)
  rw [dropObjectSpace, splitAtFirst_eq_some_iff.mpr ⟨rfl, hc⟩]
  exact if_pos ⟨hne, hl⟩

namespace QxLocator

/-- What is read as tags and an XPath is read again, for it is written as it was. -/
theorem parseTagXPath_written {rest : List Char} {locator : QxLocator}
    (h : parseTagXPath rest = .ok locator) :
    ∃ path xpath, locator = .tagXPath path xpath ∧ (path ++ "//" ++ xpath).toList = rest := by
  unfold parseTagXPath at h
  split at h
  next path xpath hs =>
    split at h
    next => cases h
    next =>
      split at h
      next => cases h
      next =>
        cases Except.ok.inj h
        refine ⟨_, _, rfl, ?_⟩
        have joined := intercalate_splitOnDoubleSlash rest
        rw [hs] at joined
        rw [String.toList_append, String.toList_append, String.toList_ofList, String.toList_ofList,
          ← joined]
        simp
  next => cases h

theorem exists_of_parseHierarchy {rest : List Char} {locator : QxLocator}
    (h : parseHierarchy rest = .ok locator) :
    ∃ root path, locator = .hierarchy root path ∧ ∃ text, Path.parse text = .ok path := by
  obtain ⟨path, hp, rfl⟩ := exists_of_map_eq_ok h
  exact ⟨_, path, rfl, _, hp⟩

/-- A text without an object space is read as a path as it stands. -/
theorem parseHierarchy_of_no_space {text : String} (h : ∀ space rest,
    splitAtFirst ':' text.toList = some (space, rest) →
      ¬(space ≠ [] ∧ space.all isAsciiLetter = true)) :
    parseHierarchy text.toList = (Path.parse text).map (.hierarchy .clientDocument) := by
  have hroot : ¬"app:".toList.isPrefixOf text.toList = true := by
    intro hp
    obtain ⟨rest, ht⟩ := List.isPrefixOf_iff_prefix.mp hp
    have hs : splitAtFirst ':' text.toList = some ("app".toList, rest) :=
      splitAtFirst_eq_some_iff.mpr ⟨ht.symm, by decide⟩
    exact h _ _ hs (by decide)
  rw [parseHierarchy, if_neg hroot, dropObjectSpace_of_no_space h, String.ofList_toList]

/-- After the name of an object space a path is read, which starts at the application if the name is
`app`. -/
theorem parseHierarchy_objectSpace {space : List Char} {text : String} (hne : space ≠ [])
    (hl : space.all isAsciiLetter = true) : parseHierarchy (space ++ ':' :: text.toList) =
      (Path.parse text).map
        (.hierarchy (if space = "app".toList then .application else .clientDocument)) := by
  have hc : ':' ∉ space := fun hm => absurd (List.all_eq_true.mp hl ':' hm) (by decide)
  have hroot : "app:".toList.isPrefixOf (space ++ ':' :: text.toList) = true ↔
      space = "app".toList := by
    constructor
    · intro hp
      obtain ⟨rest, ht⟩ := List.isPrefixOf_iff_prefix.mp hp
      have hs : splitAtFirst ':' (space ++ ':' :: text.toList) = some ("app".toList, rest) :=
        splitAtFirst_eq_some_iff.mpr ⟨ht.symm, by decide⟩
      rw [splitAtFirst_eq_some_iff.mpr ⟨rfl, hc⟩] at hs
      exact (Prod.mk.inj (Option.some.inj hs)).1
    · rintro rfl
      exact List.isPrefixOf_iff_prefix.mpr (List.prefix_append _ _)
  rw [parseHierarchy, dropObjectSpace_of_letters hne hl, String.ofList_toList]
  simp only [hroot]

theorem parseHierarchy_path {text : String} {path : Path} (h : Path.parse text = .ok path) :
    parseHierarchy text.toList = .ok (.hierarchy .clientDocument path) := by
  rw [parseHierarchy_of_no_space fun _ _ => Path.not_objectSpace h, h]
  rfl

theorem parseHierarchy_application {text : String} {path : Path}
    (h : Path.parse text = .ok path) :
    parseHierarchy ("app:".toList ++ text.toList) = .ok (.hierarchy .application path) := by
  have read := @parseHierarchy_objectSpace "app".toList text (by decide) (by decide)
  rw [h, if_pos rfl] at read
  exact read

end QxLocator

namespace Locator

theorem parse_tag (path : String) : parse ("qx=" ++ path) = .ok (.qx (.tag path)) := by
  rw [parse, String.toList_append]
  simp

theorem parse_tagObject (path : String) :
    parse ("qxx=" ++ path) = .ok (.qx (.tagObject path)) := by
  rw [parse, String.toList_append]
  simp

theorem parse_tagXPath (rest : String) :
    parse ("qxp=" ++ rest) = (QxLocator.parseTagXPath rest.toList).map .qx := by
  rw [parse, String.toList_append]
  simp

theorem parse_hierarchy (rest : String) :
    parse ("qxh=" ++ rest) = (QxLocator.parseHierarchy rest.toList).map .qx := by
  rw [parse, String.toList_append]
  simp

/-- How a text is read, by what it starts with. -/
inductive Reading (text : String) : Prop
  | tag (path : String) : text = "qx=" ++ path → parse text = .ok (.qx (.tag path)) → Reading text
  | tagObject (path : String) : text = "qxx=" ++ path →
      parse text = .ok (.qx (.tagObject path)) → Reading text
  | tagXPath (rest : String) : text = "qxp=" ++ rest →
      parse text = (QxLocator.parseTagXPath rest.toList).map .qx → Reading text
  | hierarchy (rest : String) : text = "qxh=" ++ rest →
      parse text = (QxLocator.parseHierarchy rest.toList).map .qx → Reading text
  | unknown : "qx".toList <+: text.toList →
      parse text = .error (.illFormed (.unknownFamily text)) → Reading text
  | native : ¬"qx".toList <+: text.toList → parse text = .ok (.native text) → Reading text

theorem reading (text : String) : Reading text := by
  have starts {lead : String} {rest : List Char} (h : text.toList = lead.toList ++ rest) :
      text = lead ++ String.ofList rest := by
    apply String.toList_inj.mp
    rw [String.toList_append, String.toList_ofList, h]
  obtain ⟨result, read⟩ : ∃ result, parse text = result := ⟨_, rfl⟩
  have h := read
  unfold parse at h
  split at h
  next rest ht => exact .tag _ (@starts "qx=" rest ht) (read.trans h.symm)
  next rest ht => exact .tagObject _ (@starts "qxx=" rest ht) (read.trans h.symm)
  next rest ht =>
    refine .tagXPath (String.ofList rest) (@starts "qxp=" rest ht) ?_
    rw [String.toList_ofList]
    exact read.trans h.symm
  next rest ht =>
    refine .hierarchy (String.ofList rest) (@starts "qxh=" rest ht) ?_
    rw [String.toList_ofList]
    exact read.trans h.symm
  next rest _ _ _ _ ht => exact .unknown ⟨rest, ht.symm⟩ (read.trans h.symm)
  next others =>
    refine .native ?_ (read.trans h.symm)
    rintro ⟨rest, ht⟩
    exact others rest ht.symm

theorem cases_of_parse {text : String} {locator : QxLocator} (h : parse text = .ok (.qx locator)) :
    (∃ path, locator = .tag path) ∨ (∃ path, locator = .tagObject path) ∨
      (∃ rest, QxLocator.parseTagXPath rest = .ok locator) ∨
      ∃ rest, QxLocator.parseHierarchy rest = .ok locator := by
  cases reading text with
  | tag path _ read =>
    cases read.symm.trans h
    exact Or.inl ⟨_, rfl⟩
  | tagObject path _ read =>
    cases read.symm.trans h
    exact Or.inr (Or.inl ⟨_, rfl⟩)
  | tagXPath rest _ read =>
    obtain ⟨l, hl, he⟩ := exists_of_map_eq_ok (read.symm.trans h)
    cases he
    exact Or.inr (Or.inr (Or.inl ⟨_, hl⟩))
  | hierarchy rest _ read =>
    obtain ⟨l, hl, he⟩ := exists_of_map_eq_ok (read.symm.trans h)
    cases he
    exact Or.inr (Or.inr (Or.inr ⟨_, hl⟩))
  | unknown _ read => cases read.symm.trans h
  | native _ read => cases read.symm.trans h

theorem parse_text {text : String} {locator : QxLocator} (h : parse text = .ok (.qx locator)) :
    parse locator.text = .ok (.qx locator) := by
  rcases cases_of_parse h with ⟨path, rfl⟩ | ⟨path, rfl⟩ | ⟨rest, hr⟩ | ⟨rest, hr⟩
  · exact parse_tag path
  · exact parse_tagObject path
  · obtain ⟨path, xpath, rfl, hw⟩ := QxLocator.parseTagXPath_written hr
    have ht : (QxLocator.tagXPath path xpath).text = "qxp=" ++ (path ++ "//" ++ xpath) := by
      simp [QxLocator.text, String.append_assoc]
    rw [ht, parse_tagXPath, hw, hr]
    rfl
  · obtain ⟨root, path, rfl, written, hp⟩ := QxLocator.exists_of_parseHierarchy hr
    have again := Path.parse_text hp
    cases root with
    | clientDocument =>
      rw [QxLocator.text, parse_hierarchy, QxLocator.parseHierarchy_path again]
      rfl
    | application =>
      have ht : (QxLocator.hierarchy .application path).text = "qxh=" ++ ("app:" ++ path.text) := by
        simp [QxLocator.text, ← String.append_assoc]
      rw [ht, parse_hierarchy, String.toList_append, QxLocator.parseHierarchy_application again]
      rfl

/-- A locator is read back from its own text, and so is a path, with the predicates of its steps.
Paths that were read are equal exactly if they are written alike, and then they are the same. -/
theorem parse_text_lossless :
    (∀ text locator, parse text = .ok (.qx locator) → parse locator.text = .ok (.qx locator)) ∧
    (∀ text path, Path.parse text = .ok path → Path.parse path.text = .ok path) ∧
    ∀ text other path path', Path.parse text = .ok path → Path.parse other = .ok path' →
      ((path == path') = true ↔ path.text = path'.text) ∧
      (path.text = path'.text → path = path' ∧
        ∀ {ν : Type} [DecidableEq ν] (search : PathSearch ν) (nodes : Nat) (root : ν),
          search.resolve nodes root path = search.resolve nodes root path') := by
  refine ⟨fun _ _ h => parse_text h, fun _ _ h => Path.parse_text h, fun _ _ _ _ h h' => ?_⟩
  refine ⟨Path.beq_iff_text_eq h h', fun he => ?_⟩
  obtain rfl := Path.eq_of_text_eq h h' he
  exact ⟨rfl, fun _ _ _ => rfl⟩

theorem parse_text_lossless_folded :
    ∃ locator, parse "qxh=app:CHILD[007]//[@label]" = .ok (.qx locator) ∧
      locator.text = "qxh=app:child[7]/[@label]" ∧
      parse "qxh=app:child[7]/[@label]" = .ok (.qx locator) := by
  have word : "CHILD".toList ∈ StepForm.childWord := StepForm.mem_childWord_iff.mpr (by decide)
  have digits : "007".toList ∈ StepForm.digitRow := StepForm.mem_digitRow_iff.mpr (by decide)
  have path : Path.parse "CHILD[007]//[@label]" =
      .ok ⟨[.index 7, .attr ⟨"[@label]", some ⟨"label", none⟩⟩], by simp⟩ :=
    Path.parse_eq_ok_iff.mpr (.cons (StepForm.parse_of_index word digits) (.cons rfl .nil))
  have read : parse "qxh=app:CHILD[007]//[@label]" = .ok (.qx (.hierarchy .application _)) :=
    congrArg (·.map Locator.qx) (QxLocator.parseHierarchy_application path)
  have seven : (PathStep.index 7).text = "child[7]" := by
    have digit : decimalDigits 7 = ['7'] := by
      unfold decimalDigits
      rfl
    apply String.toList_inj.mp
    rw [StepForm.index_text, digit]
    rfl
  have written : (QxLocator.hierarchy .application
      ⟨[.index 7, .attr ⟨"[@label]", some ⟨"label", none⟩⟩], by simp⟩).text =
      "qxh=app:child[7]/[@label]" := by
    rw [QxLocator.text, Path.text, joinSteps, List.map_cons, seven]
    rfl
  have again := parse_text_lossless.1 _ _ read
  rw [written] at again
  exact ⟨_, read, written, again⟩

end Locator

end WidgetLocator
