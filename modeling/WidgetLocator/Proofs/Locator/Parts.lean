import WidgetLocator.Host.Dispatch
import WidgetLocator.Proofs.Locator.RoundTrip
import WidgetLocator.Proofs.Search.TagOrder

namespace WidgetLocator

section ObjectSpaces

/-- The name of an object space is made of letters. -/
def IsSpaceName (name : String) : Prop :=
  name ≠ "" ∧ ∀ c ∈ name.toList, StepForm.IsLetter c

def StartsWithSpace (text : String) : Prop :=
  ∃ name rest, IsSpaceName name ∧ text = name ++ ":" ++ rest

variable {name text : String}

theorem isSpaceName_iff :
    IsSpaceName name ↔ name.toList ≠ [] ∧ name.toList.all isAsciiLetter = true := by
  have empty : name.toList = [] ↔ name = "" := String.toList_eq_nil_iff
  rw [IsSpaceName, ne_eq, ne_eq, empty, List.all_eq_true]
  exact and_congr_right fun _ => forall₂_congr fun c _ => isAsciiLetter_iff.symm

theorem toList_space (name text : String) :
    (name ++ ":" ++ text).toList = name.toList ++ ':' :: text.toList := by
  simp [String.toList_append]

theorem startsWithSpace_iff : StartsWithSpace text ↔ ∃ space rest,
    splitAtFirst ':' text.toList = some (space, rest) ∧ space ≠ [] ∧
      space.all isAsciiLetter = true := by
  constructor
  · rintro ⟨name, rest, named, rfl⟩
    obtain ⟨hne, hl⟩ := isSpaceName_iff.mp named
    have plain : ':' ∉ name.toList := fun hm => absurd (List.all_eq_true.mp hl ':' hm) (by decide)
    exact ⟨_, _, splitAtFirst_eq_some_iff.mpr ⟨toList_space name rest, plain⟩, hne, hl⟩
  · rintro ⟨space, rest, hs, hne, hl⟩
    obtain ⟨whole, _⟩ := splitAtFirst_eq_some_iff.mp hs
    have named : IsSpaceName (String.ofList space) := by
      rw [isSpaceName_iff, String.toList_ofList]
      exact ⟨hne, hl⟩
    refine ⟨String.ofList space, String.ofList rest, named, ?_⟩
    rw [← String.toList_inj, toList_space, String.toList_ofList, String.toList_ofList, whole]

theorem Path.not_startsWithSpace {path : Path} (h : Path.parse text = .ok path) :
    ¬StartsWithSpace text := by
  intro starts
  obtain ⟨space, rest, hs, letters⟩ := startsWithSpace_iff.mp starts
  exact Path.not_objectSpace h hs letters

namespace Locator

theorem parse_hierarchy_of_no_space (h : ¬StartsWithSpace text) : parse ("qxh=" ++ text) =
    (Path.parse text).map fun path => .qx (.hierarchy .clientDocument path) := by
  have bare : ∀ space rest, splitAtFirst ':' text.toList = some (space, rest) →
      ¬(space ≠ [] ∧ space.all isAsciiLetter = true) :=
    fun space rest hs letters => h (startsWithSpace_iff.mpr ⟨space, rest, hs, letters⟩)
  rw [parse_hierarchy, QxLocator.parseHierarchy_of_no_space bare]
  cases Path.parse text <;> rfl

theorem parse_hierarchy_of_space (named : IsSpaceName name) (text : String) :
    parse ("qxh=" ++ name ++ ":" ++ text) = (Path.parse text).map fun path =>
      .qx (.hierarchy (if name = "app" then .application else .clientDocument) path) := by
  obtain ⟨hne, hl⟩ := isSpaceName_iff.mp named
  have whole : "qxh=" ++ name ++ ":" ++ text = "qxh=" ++ (name ++ ":" ++ text) := by
    simp only [String.append_assoc]
  have root : name.toList = "app".toList ↔ name = "app" := String.toList_inj
  rw [whole, parse_hierarchy, toList_space, QxLocator.parseHierarchy_objectSpace hne hl]
  simp only [root]
  cases Path.parse text <;> rfl

/-- A text that is a path never starts with the name of an object space, and is read as that path, from
the client document; after the name of an object space it is read as the same path, from the application
if the name is `app`. What is not a path is not read as one after the name of an object space either. -/
theorem objectSpace_unambiguous (named : IsSpaceName name) (text : String) :
    (∀ path, Path.parse text = .ok path → ¬StartsWithSpace text ∧
      parse ("qxh=" ++ text) = .ok (.qx (.hierarchy .clientDocument path)) ∧
      parse ("qxh=" ++ name ++ ":" ++ text) = .ok (.qx (.hierarchy
        (if name = "app" then .application else .clientDocument) path))) ∧
    ∀ e, Path.parse text = .error e →
      (¬StartsWithSpace text → parse ("qxh=" ++ text) = .error e) ∧
      parse ("qxh=" ++ name ++ ":" ++ text) = .error e := by
  refine ⟨fun path h => ?_, fun e h => ?_⟩
  · have bare : ¬StartsWithSpace text := Path.not_startsWithSpace h
    rw [parse_hierarchy_of_no_space bare, parse_hierarchy_of_space named, h]
    exact ⟨bare, rfl, rfl⟩
  · refine ⟨fun bare => ?_, ?_⟩
    · rw [parse_hierarchy_of_no_space bare, h]
      rfl
    · rw [parse_hierarchy_of_space named, h]
      rfl

theorem objectSpace_unambiguous_colons :
    parse "qxh=app:[@a:b]/c" = .ok (.qx (.hierarchy .application
      ⟨[.attr ⟨"[@a:b]", some ⟨"a:b", none⟩⟩, .name "c"], by simp⟩)) ∧
    parse "qxh=App:[@a:b]/c" = .ok (.qx (.hierarchy .clientDocument
      ⟨[.attr ⟨"[@a:b]", some ⟨"a:b", none⟩⟩, .name "c"], by simp⟩)) ∧
    parse "qxh=:c" = .error (.illFormed (.illegalStep ":c")) ∧
    parse "qxh=app::c" = .error (.illFormed (.illegalStep ":c")) := by
  have app : IsSpaceName "app" := isSpaceName_iff.mpr ⟨by decide, by decide⟩
  have capital : IsSpaceName "App" := isSpaceName_iff.mpr ⟨by decide, by decide⟩
  have path : Path.parse "[@a:b]/c" =
      .ok ⟨[.attr ⟨"[@a:b]", some ⟨"a:b", none⟩⟩, .name "c"], by simp⟩ := rfl
  have nameless : ¬StartsWithSpace ":c" := by
    intro starts
    obtain ⟨space, rest, hs, hne, _⟩ := startsWithSpace_iff.mp starts
    cases Option.some.inj hs
    exact hne rfl
  obtain ⟨unread, unreadAfter⟩ := (objectSpace_unambiguous app ":c").2 _ rfl
  exact ⟨((objectSpace_unambiguous app _).1 _ path).2.2,
    ((objectSpace_unambiguous capital _).1 _ path).2.2, unread nameless, unreadAfter⟩

end Locator

end ObjectSpaces

section DoubleSlashes

/-- The pieces of a text between the double slashes that are found from the left. Each of them is the
first one in what follows the one before. -/
inductive Scans : List Char → List (List Char) → Prop
  | last {text : List Char} : ¬['/', '/'] <:+: text → Scans text [text]
  | next {text before after : List Char} {pieces : List (List Char)} :
      text = before ++ '/' :: '/' :: after →
      (∀ other rest, text = other ++ '/' :: '/' :: rest → before.length ≤ other.length) →
      Scans after pieces → Scans text (before :: pieces)

variable {text before after path xpath : List Char} {pieces pieces' : List (List Char)}

theorem infix_of_eq_append (whole : text = before ++ '/' :: '/' :: after) : ['/', '/'] <:+: text :=
  ⟨before, after, by simp [whole]⟩

theorem Scans.cons {c : Char} (h : Scans text pieces)
    (alone : ∀ rest, c :: text ≠ '/' :: '/' :: rest) :
    Scans (c :: text) (pieces.modifyHead (c :: ·)) := by
  cases h with
  | last plain =>
    refine .last fun inside => ?_
    rcases List.infix_cons_iff.mp inside with ⟨rest, he⟩ | inside
    · exact alone rest he.symm
    · exact plain inside
  | next whole first later =>
    refine .next (by rw [whole]; rfl) ?_ later
    rintro (_ | ⟨d, other⟩) rest he
    · exact absurd he (alone rest)
    · obtain ⟨rfl, whole'⟩ := List.cons.inj he
      exact Nat.succ_le_succ (first other rest whole')

theorem scans_splitOnDoubleSlash (text : List Char) : Scans text (splitOnDoubleSlash text) := by
  fun_induction splitOnDoubleSlash text with
  | case1 => exact .last (by decide)
  | case2 xs ih => exact .next rfl (fun _ _ _ => Nat.zero_le _) ih
  | case3 x xs alone ih =>
    refine ih.cons fun rest he => ?_
    obtain ⟨rfl, rfl⟩ := List.cons.inj he
    exact alone rest rfl rfl

theorem Scans.unique (h : Scans text pieces) (h' : Scans text pieces') : pieces = pieces' := by
  induction h generalizing pieces' with
  | last plain =>
    cases h' with
    | last => rfl
    | next whole => exact absurd (infix_of_eq_append whole) plain
  | next whole first _ ih =>
    cases h' with
    | last plain => exact absurd (infix_of_eq_append whole) plain
    | next whole' first' later' =>
      have same := Nat.le_antisymm (first _ _ whole') (first' _ _ whole)
      obtain ⟨rfl, rest⟩ := List.append_inj (whole.symm.trans whole') same
      obtain rfl := (List.cons.inj (List.cons.inj rest).2).2
      rw [ih later']

theorem scans_iff : Scans text pieces ↔ splitOnDoubleSlash text = pieces := by
  constructor
  · exact (scans_splitOnDoubleSlash text).unique
  · rintro rfl
    exact scans_splitOnDoubleSlash text

/-- The double slash between two pieces is the only one, and no slash stands before it. -/
theorem Scans.of_pair (h : Scans text [path, xpath]) : path ++ '/' :: '/' :: xpath = text ∧
    ¬['/', '/'] <:+: path ∧ ¬['/', '/'] <:+: xpath ∧ path.getLast? ≠ some '/' := by
  cases h with
  | next whole first later =>
    cases later with
    | last plain =>
      refine ⟨whole.symm, ?_, plain, ?_⟩
      · rintro ⟨other, rest, rfl⟩
        have earlier := first other (rest ++ '/' :: '/' :: xpath) (by simp [whole])
        simp at earlier
      · -- with a slash before it, a double slash would have been found one place earlier
        intro slash
        obtain ⟨other, rfl⟩ := List.getLast?_eq_some_iff.mp slash
        have earlier := first other ('/' :: xpath) (by simp [whole])
        simp at earlier
    | next _ _ none => cases none

theorem segments_ne_nil_of_last (hne : path ≠ []) (h : path.getLast? ≠ some '/') :
    segments path ≠ [] := by
  intro none
  have last : path.getLast hne = '/' := eq_slash_of_segments_eq_nil none _ (List.getLast_mem hne)
  rw [List.getLast?_eq_some_getLast hne, last] at h
  exact h rfl

namespace QxLocator

/-- How tags and an XPath are read, by the pieces of a text. -/
inductive ReadsTagXPath (text : List Char) : Except Error QxLocator → Prop
  | parts {path xpath : List Char} : Scans text [path, xpath] → path ≠ [] → xpath ≠ [] →
      ReadsTagXPath text (.ok (.tagXPath (String.ofList path) (String.ofList xpath)))
  | noTags {xpath : List Char} : Scans text [[], xpath] →
      ReadsTagXPath text (.error (.illFormed .noTagPart))
  | noXPath {path : List Char} : Scans text [path, []] → path ≠ [] →
      ReadsTagXPath text (.error (.illFormed .noXPathPart))
  | notTwo {pieces : List (List Char)} : Scans text pieces → pieces.length ≠ 2 →
      ReadsTagXPath text (.error (.illFormed .noSeparator))

theorem parseTagXPath_eq_iff {result : Except Error QxLocator} :
    parseTagXPath text = result ↔ ReadsTagXPath text result := by
  constructor
  · rintro rfl
    unfold parseTagXPath
    split
    next path xpath hs =>
      have scans : Scans text [path, xpath] := scans_iff.mpr hs
      split
      next empty =>
        subst empty
        exact .noTags scans
      next hp =>
        split
        next empty =>
          subst empty
          exact .noXPath scans hp
        next hx => exact .parts scans hp hx
    next others =>
      refine .notTwo (scans_splitOnDoubleSlash text) fun two => ?_
      obtain ⟨path, xpath, hs⟩ := List.length_eq_two.mp two
      exact others path xpath hs
  · intro reads
    cases reads with
    | parts scans hp hx =>
      rw [parseTagXPath, scans_iff.mp scans]
      exact (if_neg hp).trans (if_neg hx)
    | noTags scans =>
      rw [parseTagXPath, scans_iff.mp scans]
      exact if_pos rfl
    | noXPath scans hp =>
      rw [parseTagXPath, scans_iff.mp scans]
      exact (if_neg hp).trans (if_pos rfl)
    | notTwo scans hl =>
      rw [parseTagXPath, scans_iff.mp scans]
      split
      next => exact absurd rfl hl
      next => rfl

theorem of_readsTagXPath {path xpath : String}
    (h : ReadsTagXPath text (.ok (.tagXPath path xpath))) :
    Scans text [path.toList, xpath.toList] ∧ path.toList ≠ [] := by
  generalize read : Except.ok (QxLocator.tagXPath path xpath) = result at h
  cases h with
  | parts scans hp _ =>
    cases read
    rw [String.toList_ofList, String.toList_ofList]
    exact ⟨scans, hp⟩
  | noTags | noXPath | notTwo => cases read

end QxLocator

/-- With at least one tag, the widget that the tags lead to is found by a search for one of them. -/
theorem Dispatcher.findTagged_hasTag {ν ε : Type} {dispatcher : Dispatcher ν ε} {path : String}
    {widget : ν} (h : dispatcher.findTagged path = .ok (some widget))
    (tags : WidgetGraph.tagsOf path ≠ []) :
    ∃ above, ∃ tag ∈ WidgetGraph.tagsOf path,
      dispatcher.window.graph.findTag dispatcher.window.nodes above tag = .ok (some widget) ∧
        dispatcher.window.graph.hasTag tag widget = true := by
  unfold findTagged at h
  dsimp only at h
  split at h
  next =>
    split at h
    next root _ =>
      obtain ⟨above, tag, hm, found⟩ := WidgetGraph.exists_of_findTags h tags
      exact ⟨above, tag, hm, found, WidgetGraph.searchTag_hasTag found⟩
    next => cases h
  next => cases h

namespace Locator

/-- Tags and an XPath are read exactly if one double slash is found from the left and neither side of it
is empty; they are the two sides. Neither of them holds a double slash, the tags do not end in a slash,
and at least one of them is searched for, so that the XPath never starts from another widget than one
with a tag. All else is no form of a locator. -/
theorem tagXPath_split (text : String) :
    (∀ locator, parse ("qxp=" ++ text) = .ok locator ↔
      ∃ path xpath, Scans text.toList [path, xpath] ∧ path ≠ [] ∧ xpath ≠ [] ∧
        locator = .qx (.tagXPath (String.ofList path) (String.ofList xpath))) ∧
    (∀ path xpath, parse ("qxp=" ++ text) = .ok (.qx (.tagXPath path xpath)) →
      path ++ "//" ++ xpath = text ∧ ¬['/', '/'] <:+: path.toList ∧ ¬['/', '/'] <:+: xpath.toList ∧
      path.toList.getLast? ≠ some '/' ∧ segments path.toList ≠ [] ∧
      ∀ {ν ε : Type} (dispatcher : Dispatcher ν ε) (widget : ν),
        dispatcher.findTagged path = .ok (some widget) →
        ∃ above, ∃ tag ∈ WidgetGraph.tagsOf path,
          dispatcher.window.graph.findTag dispatcher.window.nodes above tag = .ok (some widget) ∧
            dispatcher.window.graph.hasTag tag widget = true) ∧
    ∀ e, parse ("qxp=" ++ text) = .error e ↔
      QxLocator.ReadsTagXPath text.toList (.error e) := by
  rw [parse_tagXPath]
  refine ⟨fun locator => ⟨?_, ?_⟩, ?_, fun e => ?_⟩
  · intro h
    obtain ⟨_, read, rfl⟩ := exists_of_map_eq_ok h
    cases QxLocator.parseTagXPath_eq_iff.mp read with
    | parts scans hp hx => exact ⟨_, _, scans, hp, hx, rfl⟩
  · rintro ⟨path, xpath, scans, hp, hx, rfl⟩
    rw [QxLocator.parseTagXPath_eq_iff.mpr (.parts scans hp hx)]
    rfl
  · intro path xpath h
    obtain ⟨_, read, same⟩ := exists_of_map_eq_ok h
    cases same
    obtain ⟨scans, hp⟩ := QxLocator.of_readsTagXPath (QxLocator.parseTagXPath_eq_iff.mp read)
    obtain ⟨whole, tagsPlain, xpathPlain, noSlash⟩ := scans.of_pair
    have tagged : segments path.toList ≠ [] := segments_ne_nil_of_last hp noSlash
    refine ⟨?_, tagsPlain, xpathPlain, noSlash, tagged, fun dispatcher widget found => ?_⟩
    · rw [← String.toList_inj, ← whole]
      simp [String.toList_append]
    · exact Dispatcher.findTagged_hasTag found fun none => tagged (List.map_eq_nil_iff.mp none)
  · rw [map_eq_error_iff]
    exact QxLocator.parseTagXPath_eq_iff

/-- A window in which the widgets of a graph with tags are shown. -/
def taggedWindow : Dispatcher (Fin 5) String where
  window :=
    { graph := WidgetGraph.sharedChild
      nodes := 5
      location := "about:blank"
      toolkit := true
      application := some ⟨0, Nat.zero_lt_succ 4⟩
      clientDocument := some ⟨0, Nat.zero_lt_succ 4⟩
      registry := none
      elementOf := fun _ => none
      locateXPath := fun _ _ => .ok none
      locateNative := fun _ => .ok none }
  configuration := .standard

theorem tagXPath_split_slashes :
    parse "qxp=/group///b" = .ok (.qx (.tagXPath "/group" "/b")) ∧
      (∃ above, taggedWindow.window.graph.findTag 5 above "group" = .ok (some 2)) ∧
      parse "qxp=a////b" = .error (.illFormed .noSeparator) ∧
      parse "qxp=///x" = .error (.illFormed .noTagPart) := by
  have three : Scans "/group///b".toList ["/group".toList, "/b".toList] := scans_iff.mpr (by decide)
  have four : Scans "a////b".toList ["a".toList, [], "b".toList] := scans_iff.mpr (by decide)
  have leading : Scans "///x".toList [[], "/x".toList] := scans_iff.mpr (by decide)
  have read : parse "qxp=/group///b" = .ok (.qx (.tagXPath "/group" "/b")) :=
    ((tagXPath_split "/group///b").1 _).mpr ⟨_, _, three, by decide, by decide, rfl⟩
  have found : taggedWindow.findTagged "/group" = .ok (some 2) := rfl
  obtain ⟨-, -, -, -, -, tagged⟩ := (tagXPath_split "/group///b").2.1 _ _ read
  obtain ⟨above, tag, hm, search, -⟩ := tagged taggedWindow 2 found
  obtain rfl : tag = "group" := List.mem_singleton.mp hm
  exact ⟨read, ⟨above, search⟩,
    ((tagXPath_split "a////b").2.2 _).mpr (.notTwo four (by decide)),
    ((tagXPath_split "///x").2.2 _).mpr (.noTags leading)⟩

end Locator

end DoubleSlashes

end WidgetLocator
