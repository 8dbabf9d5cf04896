import Mathlib
import Mustache.Context
import Mustache.Proofs.Value.Lookup
/-!
What a path means in a chain of frames, told by rules and not by how it is resolved. A name means
the first answer going outwards, and each frame answers for its marks before its value does. A path
of several segments is a mark of the current frame as a whole, or else starts with what its first
segment means, on the value of the current frame or in the frames around it; the other segments are
looked up one after another and never in an enclosing frame. Main statement: resolving a path finds
exactly what it means.
-/
namespace Mustache

namespace Frame

/-- What a frame answers by itself: for the place of an item, and for the names of variants. -/
inductive Bears : Frame → String → Value → Prop where
  | first {value : Value} {first last : Bool} {index : Nat} :
      Bears ⟨value, .item first last index⟩ "first" (.bool first)
  | last {value : Value} {first last : Bool} {index : Nat} :
      Bears ⟨value, .item first last index⟩ "last" (.bool last)
  | index {value : Value} {first last : Bool} {index : Nat} :
      Bears ⟨value, .item first last index⟩ "index" (.ofNat index)
  | index1 {value : Value} {first last : Bool} {index : Nat} :
      Bears ⟨value, .item first last index⟩ "index1" (.ofNat (index + 1))
  | current {self : Handle} {variant : String} {variants : List String}
      {fields : List (String × Value)} :
      Bears ⟨.enumeration self variant variants fields, .variant⟩ variant (.bool true)
  | other {self : Handle} {variant name : String} {variants : List String}
      {fields : List (String × Value)} : name ∈ variants → name ≠ variant →
      Bears ⟨.enumeration self variant variants fields, .variant⟩ name (.bool false)

/-- What a frame answers: its marks come before its value. -/
inductive Answers (f : Frame) (name : String) : Value → Prop where
  | mark {value : Value} : f.Bears name value → f.Answers name value
  | value {value : Value} : (∀ mark, ¬ f.Bears name mark) → f.value.Means name value →
      f.Answers name value

variable {f : Frame} {name : String} {value : Value}

theorem Bears.override?_eq (bears : f.Bears name value) : f.override? name = some value := by
  cases bears with
  | first | last | index | index1 | current => simp [override?]
  | other listed different => simp [override?, listed, different]

theorem bears_of_override? (answered : f.override? name = some value) : f.Bears name value := by
  obtain ⟨own, marks⟩ := f
  cases marks with
  | plain => cases answered
  | item first last index =>
    simp only [override?] at answered
    split_ifs at answered with isFirst isLast isIndex isIndex1
    · rw [isFirst, ← Option.some.inj answered]
      exact .first
    · rw [isLast, ← Option.some.inj answered]
      exact .last
    · rw [isIndex, ← Option.some.inj answered]
      exact .index
    · rw [isIndex1, ← Option.some.inj answered]
      exact .index1
  | variant =>
    cases own with
    | enumeration self variant variants fields =>
      simp only [override?] at answered
      split_ifs at answered with isCurrent listed <;> cases answered
      · exact isCurrent ▸ .current
      · exact .other listed isCurrent
    | null | bool | int | float | text | seq | map | object | stream => cases answered

theorem override?_eq_some_iff : f.override? name = some value ↔ f.Bears name value :=
  ⟨bears_of_override?, Bears.override?_eq⟩

theorem override?_eq_none_iff : f.override? name = none ↔ ∀ mark, ¬ f.Bears name mark := by
  simp [Option.eq_none_iff_forall_ne_some, override?_eq_some_iff]

theorem answers_iff :
    f.Answers name value ↔ (f.override? name).or (f.value.lookup name) = some value := by
  rw [Option.or_eq_some_iff, override?_eq_some_iff, override?_eq_none_iff,
    Value.lookup_eq_some_iff]
  constructor
  · rintro (marked | ⟨unmarked, means⟩)
    · exact .inl marked
    · exact .inr ⟨unmarked, means⟩
  · rintro (marked | ⟨unmarked, means⟩)
    · exact .mark marked
    · exact .value unmarked means

end Frame

namespace Context

/-- The answer of the first of some frames that answers to a name. -/
def IsFirstAnswer (frames : List Frame) (name : String) (value : Value) : Prop :=
  ∃ inner f outer, frames = inner ++ f :: outer ∧ f.Answers name value ∧
    ∀ g ∈ inner, ∀ other, ¬ g.Answers name other

theorem search_eq_findSome? (name : String) (frames : List Frame) :
    search name frames = frames.findSome? fun f => (f.override? name).or (f.value.lookup name) := by
  induction frames with
  | nil => rfl
  | cons f rest ih =>
    rw [search, ih, List.findSome?_cons]
    cases (f.override? name).or (f.value.lookup name) <;> rfl

theorem isFirstAnswer_iff {frames : List Frame} {name : String} {value : Value} :
    IsFirstAnswer frames name value ↔ search name frames = some value := by
  simp [search_eq_findSome?, List.findSome?_eq_some_iff, IsFirstAnswer, Frame.answers_iff,
    Option.eq_none_iff_forall_ne_some]

/-- Where segments lead, each being looked up on what the one before means. -/
inductive Leads : Value → List String → Value → Prop where
  | here {value : Value} : Leads value [] value
  | step {value next result : Value} {segment : String} {rest : List String} :
      value.Means segment next → Leads next rest result → Leads value (segment :: rest) result

theorem leads_iff {value result : Value} {names : List String} :
    Leads value names result ↔ follow value (names.map String.toList) = some result := by
  induction names generalizing value with
  | nil =>
    rw [List.map_nil, follow, Option.some_inj]
    constructor
    · rintro ⟨⟩
      rfl
    · rintro rfl
      exact .here
  | cons segment rest ih =>
    rw [List.map_cons, follow, String.ofList_toList, Option.bind_eq_some_iff]
    simp only [Value.lookup_eq_some_iff, ← ih]
    constructor
    · rintro (_ | ⟨means, leads⟩)
      exact ⟨_, means, leads⟩
    · rintro ⟨next, means, leads⟩
      exact .step means leads

/-- A path of several segments, with a dot between one and the next. -/
def Segmented (path head : String) (rest : List String) : Prop :=
  path = ".".intercalate (head :: rest) ∧ rest ≠ [] ∧ ∀ segment ∈ head :: rest, '.' ∉ segment.toList

/-- What a path means in a context. -/
inductive Resolves (c : Context) : String → Value → Prop where
  | mark {path : String} {value : Value} : c.current.Bears path value → c.Resolves path value
  | here : (∀ mark, ¬ c.current.Bears "." mark) → c.Resolves "." c.current.value
  | name {path : String} {value : Value} : '.' ∉ path.toList →
      IsFirstAnswer c.frames path value → c.Resolves path value
  /-- The first segment is looked for on the value of the current frame. -/
  | inside {path head : String} {rest : List String} {start value : Value} :
      Segmented path head rest → path ≠ "." → (∀ mark, ¬ c.current.Bears path mark) →
      c.current.value.Means head start → Leads start rest value → c.Resolves path value
  /-- Otherwise the first segment is looked for in the frames around it. -/
  | outside {path head : String} {rest : List String} {start value : Value} :
      Segmented path head rest → path ≠ "." → (∀ mark, ¬ c.current.Bears path mark) →
      (∀ other, ¬ c.current.value.Means head other) → IsFirstAnswer c.enclosing head start →
      Leads start rest value → c.Resolves path value

section Segments

theorem segments_eq_splitOn (cs : List Char) : segments cs = cs.splitOn '.' := by
  induction cs with
  | nil => rfl
  | cons c rest ih =>
    unfold List.splitOn at ih ⊢
    rw [List.splitOnP_cons_eq_if_modifyHead]
    by_cases dot : c = '.'
    · subst dot
      simp [segments, ih]
    · rw [segments, ih, if_neg (by simpa using dot)]
      · cases split : rest.splitOnP (· == '.') with
        | nil => exact absurd split (List.splitOnP_ne_nil _ _)
        | cons segment others => rfl
      · exact dot

theorem not_mem_segments {cs segment : List Char} (member : segment ∈ segments cs) :
    '.' ∉ segment := by
  induction cs generalizing segment with
  | nil =>
    rw [segments, List.mem_singleton] at member
    simp [member]
  | cons c rest ih =>
    by_cases dot : c = '.'
    · subst dot
      rw [segments, List.mem_cons] at member
      rcases member with rfl | member
      · exact List.not_mem_nil
      · exact ih member
    · rw [segments] at member
      · cases split : segments rest with
        | nil =>
          rw [split, List.mem_singleton] at member
          simpa [member] using Ne.symm dot
        | cons first others =>
          rw [split] at member ih
          rcases List.mem_cons.mp member with rfl | later
          · exact List.not_mem_cons_of_ne_of_not_mem (Ne.symm dot) (ih List.mem_cons_self)
          · exact ih (List.mem_cons_of_mem first later)
      · exact dot

/-- The segments of a path are the only ones without dots that it is put together from. -/
theorem segments_eq_iff {path head : String} {rest : List String} :
    segments path.toList = (head :: rest).map String.toList ↔
      path = ".".intercalate (head :: rest) ∧ ∀ segment ∈ head :: rest, '.' ∉ segment.toList := by
  have dot : ".".toList = ['.'] := rfl
  constructor
  · intro split
    constructor
    · rw [← String.toList_inj, String.toList_intercalate, dot, ← split, segments_eq_splitOn,
        List.intercalate_splitOn]
    · intro segment member
      have inside : segment.toList ∈ segments path.toList := by
        rw [split]
        exact List.mem_map_of_mem member
      exact not_mem_segments inside
  · rintro ⟨rfl, clear⟩
    rw [segments_eq_splitOn, String.toList_intercalate, dot]
    refine List.splitOn_intercalate '.' ?_ (by simp)
    simpa using clear

theorem Segmented.segments_eq {path head : String} {rest : List String}
    (segmented : Segmented path head rest) :
    segments path.toList = head.toList :: rest.map String.toList :=
  segments_eq_iff.mpr ⟨segmented.1, segmented.2.2⟩

theorem segments_of_not_mem {cs : List Char} (plain : '.' ∉ cs) : segments cs = [cs] := by
  have whole : segments (['.'].intercalate [cs]) = [cs] := by
    rw [segments_eq_splitOn]
    exact List.splitOn_intercalate '.' (by simpa using plain) (by simp)
  simpa using whole

/-- A path is a single name, or there are several segments. -/
theorem segmented_of_mem {path : String} (dotted : '.' ∈ path.toList) :
    ∃ head rest, Segmented path head rest := by
  cases split : segments path.toList with
  | nil =>
    rw [segments_eq_splitOn] at split
    exact absurd split (List.splitOnP_ne_nil _ _)
  | cons head rest =>
    have named : segments path.toList =
        (String.ofList head :: rest.map String.ofList).map String.toList := by
      simp [split, Function.comp_def]
    obtain ⟨joined, clear⟩ := segments_eq_iff.mp named
    refine ⟨String.ofList head, rest.map String.ofList, joined, ?_, clear⟩
    intro none
    rw [joined, none] at dotted
    exact clear (String.ofList head) List.mem_cons_self (by simpa using dotted)

end Segments

variable {c : Context} {path head : String} {rest : List String} {value : Value}

theorem resolve_of_override? (marked : c.current.override? path = some value) :
    c.resolve path = some value := by
  simp only [resolve, marked]

theorem resolve_here (unmarked : c.current.override? "." = none) :
    c.resolve "." = some c.current.value := by
  simp only [resolve, unmarked, if_true]

/-- A name without dots is searched for in all frames. -/
theorem resolve_of_not_mem (plain : '.' ∉ path.toList) : c.resolve path = search path c.frames := by
  have other : path ≠ "." := by
    rintro rfl
    exact plain (List.mem_singleton.mpr rfl)
  simp only [resolve, other, if_false, segments_of_not_mem plain, String.ofList_toList, follow,
    Option.bind_fun_some, frames, search]
  cases c.current.override? path with
  | none => rw [Option.none_or]
  | some mark => rfl

/-- In a map, an entry is found before anything around it, unless the frame answers itself. -/
theorem resolve_of_entry {entries : List (String × Value)}
    (current : c.current.value = .map entries) (silent : c.current.override? path = none)
    (plain : '.' ∉ path.toList) (holds : entries.lookup path = some value) :
    c.resolve path = some value := by
  rw [resolve_of_not_mem plain, frames, search, silent, current, Value.lookup, holds]
  rfl

theorem resolve_of_segmented (segmented : Segmented path head rest) (other : path ≠ ".")
    (unmarked : c.current.override? path = none) :
    c.resolve path = ((c.current.value.lookup head).or (search head c.enclosing)).bind
      (follow · (rest.map String.toList)) := by
  simp only [resolve, unmarked, other, if_false, segmented.segments_eq, String.ofList_toList]

theorem resolve_eq_some_iff : c.resolve path = some value ↔ c.Resolves path value := by
  constructor
  · intro resolved
    -- in the order of the resolver: marks, the dot alone, several segments, a single name
    cases marked : c.current.override? path with
    | some mark =>
      rw [resolve_of_override? marked] at resolved
      exact .mark (Frame.override?_eq_some_iff.mp (marked.trans resolved))
    | none =>
      have unmarked := Frame.override?_eq_none_iff.mp marked
      by_cases here : path = "."
      · subst here
        rw [resolve_here marked] at resolved
        cases resolved
        exact .here unmarked
      by_cases dotted : '.' ∈ path.toList
      · obtain ⟨head, rest, segmented⟩ := segmented_of_mem dotted
        rw [resolve_of_segmented segmented here marked, Option.bind_eq_some_iff] at resolved
        obtain ⟨start, found, followed⟩ := resolved
        have leads := leads_iff.mpr followed
        rcases Option.or_eq_some_iff.mp found with own | ⟨none, outer⟩
        · exact .inside segmented here unmarked (Value.lookup_eq_some_iff.mp own) leads
        · exact .outside segmented here unmarked (Value.lookup_eq_none_iff.mp none)
            (isFirstAnswer_iff.mpr outer) leads
      · rw [resolve_of_not_mem dotted] at resolved
        exact .name dotted (isFirstAnswer_iff.mpr resolved)
  · intro resolves
    cases resolves with
    | mark bears => exact resolve_of_override? bears.override?_eq
    | here unmarked => exact resolve_here (Frame.override?_eq_none_iff.mpr unmarked)
    | name plain answer => rw [resolve_of_not_mem plain, isFirstAnswer_iff.mp answer]
    | inside segmented other unmarked means leads =>
      rw [resolve_of_segmented segmented other (Frame.override?_eq_none_iff.mpr unmarked),
        means.lookup_eq, Option.some_or, Option.bind_some, leads_iff.mp leads]
    | outside segmented other unmarked none answer leads =>
      rw [resolve_of_segmented segmented other (Frame.override?_eq_none_iff.mpr unmarked),
        Value.lookup_eq_none_iff.mpr none, Option.none_or, isFirstAnswer_iff.mp answer,
        Option.bind_some, leads_iff.mp leads]

/-- Resolving a path finds exactly what the path means, and nothing if it has no meaning. As null
gives no name a meaning, a frame that holds null only answers for its marks; an entry or a field
that holds null is an answer all the same. -/
theorem resolve_iff_resolves (c : Context) (path : String) :
    (∀ value, c.resolve path = some value ↔ c.Resolves path value) ∧
      (c.resolve path = none ↔ ∀ value, ¬ c.Resolves path value) := by
  constructor
  · exact fun value => resolve_eq_some_iff
  · simp [Option.eq_none_iff_forall_ne_some, resolve_eq_some_iff]

end Context

end Mustache
