import WidgetLocator.Event.Parameters
import WidgetLocator.Proofs.Text
import Mathlib.Logic.Relation

namespace WidgetLocator

namespace MouseParameters

/-- A text is some pieces with commas between them, and no piece holds a comma. -/
structure Row (text : String) (pieces : List (List Char)) : Prop where
  plain : ∀ piece ∈ pieces, ',' ∉ piece
  joined : text.toList = [','].intercalate pieces

/-- A piece is a pair. Its name stands before the first equals sign and its value between that one and
the next, both with any blanks around them. The value is empty if there is no equals sign. -/
inductive Pair : List Char → String → String → Prop
  | bare {field : List Char} {name : String} : '=' ∉ field → Trims field name.toList →
      Pair field name ""
  | valued {field given rest : List Char} {name value : String} : '=' ∉ field → '=' ∉ given →
      (rest = [] ∨ ∃ ignored, rest = '=' :: ignored) → Trims field name.toList →
      Trims given value.toList → Pair (field ++ '=' :: (given ++ rest)) name value

/-- Some pair of a text has a name. -/
def Names (text name : String) : Prop :=
  ∃ pieces, Row text pieces ∧ ∃ piece ∈ pieces, ∃ value, Pair piece name value

/-- The last pair of a text that has a name gives it a value. -/
def LastGives (text name value : String) : Prop :=
  ∃ before piece after, Row text (before ++ piece :: after) ∧ Pair piece name value ∧
    ∀ later ∈ after, ∀ value, ¬Pair later name value

/-- Two neighbours with different names are exchanged. -/
inductive Exchanged : List (List Char) → List (List Char) → Prop
  | neighbours {before after : List (List Char)} {piece next : List Char}
      {name other value given : String} : Pair piece name value → Pair next other given →
      name ≠ other → Exchanged (before ++ piece :: next :: after) (before ++ next :: piece :: after)

/-- The value in the last pair with a name. -/
def lastValue? (pieces : List (List Char)) (name : String) : Option String :=
  (pieces.reverse.find? fun piece => (pairOf piece).1 == name).map fun piece => (pairOf piece).2

section Pieces

variable {text name value : String} {piece : List Char} {pieces more : List (List Char)}

theorem Row.of_splitOn (text : String) : Row text (text.toList.splitOn ',') where
  plain _ hp := not_mem_of_mem_splitOn hp
  joined := (List.intercalate_splitOn ',').symm

theorem Row.splitOn_eq (row : Row text pieces) (ne_nil : pieces ≠ []) :
    text.toList.splitOn ',' = pieces := by
  rw [row.joined]
  exact List.splitOn_intercalate ',' row.plain ne_nil

theorem splitOn_appended (a b : String) :
    (a ++ "," ++ b).toList.splitOn ',' = a.toList.splitOn ',' ++ b.toList.splitOn ',' := by
  have joined : (a ++ "," ++ b).toList = a.toList ++ ',' :: b.toList := by
    simp [String.toList_append]
  rw [joined, List.splitOn_append_cons_self]

theorem pairOf_of_fields {first : List Char} {rest : List (List Char)}
    (h : piece.splitOn '=' = first :: rest) : pairOf piece =
      (String.ofList (trimBlanks first), String.ofList (trimBlanks (rest.head?.getD []))) := by
  rw [pairOf, h]
  cases rest <;> rfl

theorem Pair.pairOf_eq (h : Pair piece name value) : pairOf piece = (name, value) := by
  cases h with
  | bare unvalued trims =>
    rw [pairOf_of_fields (List.splitOn_eq_singleton unvalued), trims.trimBlanks_eq]
    exact Prod.ext String.ofList_toList rfl
  | @valued field given rest _ _ named given_plain ends trims trims' =>
    obtain ⟨more, second⟩ : ∃ more, (given ++ rest).splitOn '=' = given :: more := by
      rcases ends with rfl | ⟨ignored, rfl⟩
      · exact ⟨[], by rw [List.append_nil, List.splitOn_eq_singleton given_plain]⟩
      · refine ⟨ignored.splitOn '=', ?_⟩
        rw [List.splitOn_append_cons_self, List.splitOn_eq_singleton given_plain]
        rfl
    have fields : (field ++ '=' :: (given ++ rest)).splitOn '=' = field :: given :: more := by
      rw [List.splitOn_append_cons_self, List.splitOn_eq_singleton named, second]
      rfl
    rw [pairOf_of_fields fields, trims.trimBlanks_eq]
    refine Prod.ext String.ofList_toList ?_
    change String.ofList (trimBlanks given) = value
    rw [trims'.trimBlanks_eq, String.ofList_toList]

theorem exists_pair (piece : List Char) : ∃ name value, Pair piece name value := by
  have trims (field : List Char) : Trims field (String.ofList (trimBlanks field)).toList := by
    rw [String.toList_ofList]
    exact trims_trimBlanks field
  by_cases valued : '=' ∈ piece
  · obtain ⟨field, tail, rfl, named⟩ := List.eq_append_cons_of_mem valued
    by_cases again : '=' ∈ tail
    · obtain ⟨given, ignored, rfl, given_plain⟩ := List.eq_append_cons_of_mem again
      exact ⟨_, _, .valued named given_plain (.inr ⟨ignored, rfl⟩) (trims field) (trims given)⟩
    · have whole : tail = tail ++ [] := (List.append_nil tail).symm
      rw [whole]
      exact ⟨_, _, .valued named again (.inl rfl) (trims field) (trims tail)⟩
  · exact ⟨_, _, .bare valued (trims piece)⟩

theorem pair_iff : Pair piece name value ↔ pairOf piece = (name, value) := by
  refine ⟨Pair.pairOf_eq, fun h => ?_⟩
  obtain ⟨name', value', pair⟩ := exists_pair piece
  obtain ⟨rfl, rfl⟩ := Prod.mk.inj (pair.pairOf_eq.symm.trans h)
  exact pair

theorem not_named_iff : (∀ value, ¬Pair piece name value) ↔ (pairOf piece).1 ≠ name := by
  constructor
  · intro h same
    exact h (pairOf piece).2 (pair_iff.mpr (Prod.ext same rfl))
  · intro apart value pair
    exact apart (congrArg Prod.fst pair.pairOf_eq)

end Pieces

section LastPairs

variable {text name value : String} {piece : List Char} {pieces more : List (List Char)}

theorem lastValue?_append (pieces more : List (List Char)) (name : String) :
    lastValue? (pieces ++ more) name = (lastValue? more name).or (lastValue? pieces name) := by
  rw [lastValue?, List.reverse_append, List.find?_append, Option.map_or]
  rfl

theorem lastValue?_eq_none_iff : lastValue? pieces name = none ↔
    ∀ piece ∈ pieces, ∀ value, ¬Pair piece name value := by
  simp [lastValue?, not_named_iff]

theorem lastValue?_singleton (h : Pair piece name value) : lastValue? [piece] name = some value := by
  simp [lastValue?, h.pairOf_eq]

theorem lastValue?_singleton_of_ne {other : String} (h : Pair piece name value) (apart : name ≠ other) :
    lastValue? [piece] other = none := by
  simp [lastValue?, h.pairOf_eq, apart]

theorem lastValue?_eq_some_iff : lastValue? pieces name = some value ↔
    ∃ before piece after, pieces = before ++ piece :: after ∧ Pair piece name value ∧
      ∀ later ∈ after, ∀ value, ¬Pair later name value := by
  constructor
  · intro h
    obtain ⟨piece, found, rfl⟩ := Option.map_eq_some_iff.mp h
    obtain ⟨named, after, before, split, others⟩ := List.find?_eq_some_iff_append.mp found
    refine ⟨before.reverse, piece, after.reverse, ?_, ?_, ?_⟩
    · rw [← List.reverse_inj, split]
      simp
    · exact pair_iff.mpr (Prod.ext (beq_iff_eq.mp named) rfl)
    · intro later hl
      exact not_named_iff.mpr (by simpa using others later (List.mem_reverse.mp hl))
  · rintro ⟨before, piece, after, rfl, pair, others⟩
    rw [lastValue?_append, ← List.singleton_append, lastValue?_append,
      lastValue?_eq_none_iff.mpr others, lastValue?_singleton pair]
    rfl

theorem lastGives_iff : LastGives text name value ↔
    lastValue? (text.toList.splitOn ',') name = some value := by
  rw [lastValue?_eq_some_iff]
  constructor
  · rintro ⟨before, piece, after, row, pair, others⟩
    exact ⟨before, piece, after, row.splitOn_eq (by simp), pair, others⟩
  · rintro ⟨before, piece, after, split, pair, others⟩
    exact ⟨before, piece, after, split ▸ Row.of_splitOn text, pair, others⟩

theorem names_iff : Names text name ↔
    ∃ piece ∈ text.toList.splitOn ',', (pairOf piece).1 = name := by
  constructor
  · rintro ⟨pieces, row, piece, hp, value, pair⟩
    rw [row.splitOn_eq (List.ne_nil_of_mem hp)]
    exact ⟨piece, hp, congrArg Prod.fst pair.pairOf_eq⟩
  · rintro ⟨piece, hp, rfl⟩
    exact ⟨_, .of_splitOn text, piece, hp, _, pair_iff.mpr rfl⟩

theorem not_names_iff : ¬Names text name ↔ lastValue? (text.toList.splitOn ',') name = none := by
  simp only [names_iff, lastValue?_eq_none_iff, not_named_iff, not_exists, not_and, ne_eq]

instance : Decidable (Pair piece name value) :=
  decidable_of_iff _ pair_iff.symm

instance : Decidable (Names text name) :=
  decidable_of_iff _ names_iff.symm

instance : Decidable (LastGives text name value) :=
  decidable_of_iff _ lastGives_iff.symm

/-- What is held for a name is the value in its last pair. -/
theorem get?_parse (text name : String) : (parse text).values.get? name =
    if name = "" then none else lastValue? (text.toList.splitOn ',') name := by
  rw [parse, Table.get?_ofList, ← List.filter_reverse, List.find?_filter]
  by_cases unnamed : name = ""
  · simp [unnamed]
  · have only : (fun pair : String × String =>
        decide (decide (pair.1 ≠ "") = true ∧ (pair.1 == name) = true)) = fun pair => pair.1 == name := by
      funext pair
      by_cases here : pair.1 = name
      · simp [here, unnamed]
      · simp [here]
    rw [if_neg unnamed, only, lastValue?, ← List.map_reverse, List.find?_map, Option.map_map]
    rfl

theorem get?_parse_of_row (row : Row text pieces) (named : name ≠ "") :
    (parse text).values.get? name = lastValue? pieces name := by
  rw [get?_parse, if_neg named]
  by_cases empty : pieces = []
  · -- the only piece of the empty text has no name
    subst empty
    have nothing : text = "" := String.toList_eq_nil_iff.mp row.joined
    subst nothing
    exact lastValue?_eq_none_iff.mpr fun piece hp => by
      obtain rfl : piece = [] := by simpa using hp
      exact not_named_iff.mpr (Ne.symm named)
  · rw [row.splitOn_eq empty]

/-- What is held for a name in the whole of two texts. -/
theorem get?_parse_appended (a b name : String) : (parse (a ++ "," ++ b)).values.get? name =
    ((parse b).values.get? name).or ((parse a).values.get? name) := by
  simp only [get?_parse, splitOn_appended, lastValue?_append]
  split <;> rfl

theorem get?_parse_of_lastGives (h : LastGives text name value) (named : name ≠ "") :
    (parse text).values.get? name = some value := by
  rw [get?_parse, if_neg named, lastGives_iff.mp h]

theorem get?_parse_of_not_names (h : ¬Names text name) : (parse text).values.get? name = none := by
  rw [get?_parse, not_names_iff.mp h, ite_self]

theorem exists_lastGives (h : Names text name) : ∃ value, LastGives text name value := by
  have found : lastValue? (text.toList.splitOn ',') name ≠ none := fun none =>
    not_names_iff.mpr none h
  obtain ⟨value, hv⟩ := Option.ne_none_iff_exists'.mp found
  exact ⟨value, lastGives_iff.mpr hv⟩

theorem get?_eq_none_iff {parameters : MouseParameters}
    (h : parameters.values.get? name = some value) : parameters.get? name = none ↔ value = "" := by
  simp [get?, h, Option.filter]

theorem parse_unnamed (h : ∀ name, Names text name → name = "") : parse text = ⟨.empty⟩ := by
  have skipped : ((text.toList.splitOn ',').map pairOf).filter (·.1 ≠ "") = [] := by
    refine List.filter_eq_nil_iff.mpr fun pair hp => ?_
    obtain ⟨piece, hm, rfl⟩ := List.mem_map.mp hp
    have unnamed : (pairOf piece).1 = "" := h _ (names_iff.mpr ⟨piece, hm, rfl⟩)
    simp [unnamed]
  rw [parse, skipped]
  rfl

/-- A pair after a text sets its parameter. -/
theorem parse_appended_pair {pair : String} (plain : ',' ∉ pair.toList)
    (given : Pair pair.toList name value) (named : name ≠ "") (text : String) :
    parse (text ++ "," ++ pair) = (parse text).withText name value := by
  have last : ([pair.toList].map pairOf).filter (·.1 ≠ "") = [(name, value)] := by
    simp [given.pairOf_eq, named]
  rw [parse, splitOn_appended, List.splitOn_eq_singleton plain, List.map_append, List.filter_append,
    last, Table.ofList, List.foldl_append]
  rfl

theorem lastValue?_of_exchanged (h : Exchanged pieces more) (name : String) :
    lastValue? more name = lastValue? pieces name := by
  obtain @⟨before, after, piece, next, first, second, _, _, pair, pair', apart⟩ := h
  have split (x y : List Char) : before ++ x :: y :: after = before ++ ([x] ++ ([y] ++ after)) := rfl
  rw [split, split]
  simp only [lastValue?_append]
  -- at most one of the two has the name
  by_cases here : first = name
  · rw [lastValue?_singleton_of_ne pair' (here ▸ apart.symm)]
    simp only [Option.or_none]
  · rw [lastValue?_singleton_of_ne pair here]
    simp only [Option.or_none]

theorem lastValue?_of_reordered (h : Relation.ReflTransGen Exchanged pieces more) (name : String) :
    lastValue? more name = lastValue? pieces name := by
  induction h with
  | refl => rfl
  | tail _ exchanged ih => rw [lastValue?_of_exchanged exchanged, ih]

/-- Pairs with other names do not count. -/
theorem lastValue?_of_added {before added after : List (List Char)}
    (others : ∀ piece ∈ added, ∀ value, ¬Pair piece name value) :
    lastValue? (before ++ added ++ after) name = lastValue? (before ++ after) name := by
  simp only [lastValue?_append, lastValue?_eq_none_iff.mpr others, Option.none_or]

end LastPairs

end MouseParameters

namespace MouseEvent

/-- The names of the parameters that an event is made of. -/
def parameterNames : List String :=
  ["bubbles", "cancelable", "detail", "screenX", "screenY", "clientX", "clientY", "ctrlKey", "altKey",
    "shiftKey", "metaKey", "button"]

theorem of_congr {p q : MouseParameters} (same : ∀ name ∈ parameterNames, p.get? name = q.get? name)
    (eventType : String) (model : EventModel) : of eventType p model = of eventType q model := by
  simp only [parameterNames, List.forall_mem_cons] at same
  simp only [of, MouseParameters.flag, MouseParameters.number, MouseParameters.button, same]

end MouseEvent

namespace MouseParameters

/-- Every event is the same with either of two sets of parameters. -/
def SameEvents (p q : MouseParameters) : Prop :=
  ∀ eventType model, MouseEvent.of eventType p model = MouseEvent.of eventType q model

theorem SameEvents.of_values {p q : MouseParameters}
    (same : ∀ name ∈ MouseEvent.parameterNames, p.values.get? name = q.values.get? name) :
    SameEvents p q := by
  refine MouseEvent.of_congr fun name hn => ?_
  rw [get?, get?, same name hn]

theorem SameEvents.of_rows {text other : String} {pieces more : List (List Char)}
    (row : Row text pieces) (row' : Row other more)
    (same : ∀ name ∈ MouseEvent.parameterNames, lastValue? pieces name = lastValue? more name) :
    SameEvents (parse text) (parse other) := by
  have named : ∀ name ∈ MouseEvent.parameterNames, name ≠ "" := by decide
  refine .of_values fun name hn => ?_
  rw [get?_parse_of_row row (named name hn), get?_parse_of_row row' (named name hn), same name hn]

/-- Of two texts with a comma between them, the second decides on the names in it and the first on all
others. A name is held with the value in its last pair, and counts as absent if that is empty. If no pair
has a name, nothing is held. So events follow from the last pairs of their twelve names: they stay the same
if pairs with different names change places, and if pairs with other names are added. -/
theorem parse_right_biased :
    (∀ a b name : String,
      (Names b name → (parse (a ++ "," ++ b)).values.get? name = (parse b).values.get? name) ∧
      (¬Names b name → (parse (a ++ "," ++ b)).values.get? name = (parse a).values.get? name)) ∧
    (∀ text name value : String, LastGives text name value → name ≠ "" →
      (parse text).values.get? name = some value ∧ ((parse text).get? name = none ↔ value = "")) ∧
    (∀ text : String, (∀ name, Names text name → name = "") → parse text = ⟨.empty⟩) ∧
    (∀ text other : String,
      (∀ name ∈ MouseEvent.parameterNames, ∀ value,
        LastGives text name value ↔ LastGives other name value) →
      SameEvents (parse text) (parse other)) ∧
    (∀ text other pieces more, Row text pieces → Row other more →
      Relation.ReflTransGen Exchanged pieces more → SameEvents (parse text) (parse other)) ∧
    ∀ text other before added after, Row text (before ++ after) → Row other (before ++ added ++ after) →
      (∀ piece ∈ added, ∀ name ∈ MouseEvent.parameterNames, ∀ value, ¬Pair piece name value) →
      SameEvents (parse text) (parse other) := by
  refine ⟨fun a b name => ⟨fun named => ?_, fun unnamed => ?_⟩, fun text name value last named => ?_,
    fun text => parse_unnamed, fun text other same => ?_, fun text other pieces more row row' moved => ?_,
    fun text other before added after row row' others => ?_⟩
  · obtain ⟨value, last⟩ := exists_lastGives named
    by_cases empty : name = ""
    · simp only [get?_parse, if_pos empty]
    · rw [get?_parse_appended, get?_parse_of_lastGives last empty]
      rfl
  · rw [get?_parse_appended, get?_parse_of_not_names unnamed, Option.none_or]
  · have held := get?_parse_of_lastGives last named
    exact ⟨held, get?_eq_none_iff held⟩
  · refine .of_rows (.of_splitOn text) (.of_splitOn other) fun name hn => Option.ext fun value => ?_
    rw [← lastGives_iff, ← lastGives_iff]
    exact same name hn value
  · exact .of_rows row row' fun name _ => (lastValue?_of_reordered moved name).symm
  · refine .of_rows row row' fun name hn => (lastValue?_of_added ?_).symm
    exact fun piece hp value => others piece hp name hn value

theorem parse_right_biased_absent :
    let a := "altKey=true,clientX=3,detail=2"
    let b := "altKey, clientX = 5 =9"
    let whole := parse (a ++ "," ++ b)
    (Names b "altKey" ∧ LastGives (a ++ "," ++ b) "altKey" "" ∧
      whole.values.get? "altKey" = (parse b).values.get? "altKey" ∧ whole.get? "altKey" = none) ∧
    (¬Names b "detail" ∧ whole.values.get? "detail" = (parse a).values.get? "detail") ∧
    parse " =1,," = ⟨.empty⟩ ∧ SameEvents whole (parse "altKey=,detail=2,clientX=5") ∧
    SameEvents (parse "button=right,clientX=3") (parse "clientX=3,button=right") ∧
    SameEvents (parse "clientX=3") (parse "x=1,=2,clientX=3") := by
  intro a b whole
  obtain ⟨appended, held, unnamed, last, moved, added⟩ := parse_right_biased
  have named : Names b "altKey" := by decide +kernel
  have given : LastGives (a ++ "," ++ b) "altKey" "" := by decide +kernel
  have elsewhere : ¬Names b "detail" := by decide +kernel
  let right := "button=right".toList
  let three := "clientX=3".toList
  have exchanged : Exchanged [right, three] [three, right] :=
    @Exchanged.neighbours [] [] right three "button" "clientX" "right" "3" (by decide +kernel)
      (by decide +kernel) (by decide)
  refine ⟨⟨named, given, (appended a b "altKey").1 named, (held _ _ _ given (by decide)).2.mpr rfl⟩,
    ⟨elsewhere, (appended a b "detail").2 elsewhere⟩, unnamed " =1,," fun name hn => ?_,
    last _ _ fun name hn value => ?_, moved _ _ [right, three] [three, right] ?_ ?_ (.single exchanged),
    added _ _ [] ["x=1".toList, "=2".toList] [three] ?_ ?_ fun piece hp name hn => ?_⟩
  · obtain ⟨piece, hp, rfl⟩ := names_iff.mp hn
    revert piece
    decide +kernel
  · have same : ∀ name ∈ MouseEvent.parameterNames, lastValue? ((a ++ "," ++ b).toList.splitOn ',') name =
        lastValue? ("altKey=,detail=2,clientX=5".toList.splitOn ',') name := by decide +kernel
    rw [lastGives_iff, lastGives_iff, same name hn]
  · exact ⟨by decide, by decide +kernel⟩
  · exact ⟨by decide, by decide +kernel⟩
  · exact ⟨by decide, by decide +kernel⟩
  · exact ⟨by decide, by decide +kernel⟩
  · rw [not_named_iff]
    revert piece name
    decide +kernel

end MouseParameters

end WidgetLocator
