import Mustache.Proofs.Context.Resolution
import Mustache.Render.Walk
/-!
Sections over truth values and numbers put a frame in front that gives no name a meaning. Main
statement: such a frame hides nothing from single names and from the frames put in front of it
later. A path of several segments is resolved behind it as its first segment is outside, and then
followed; so it loses what the frame around the section answers by itself to the path as a whole,
and gains nothing where that frame answers to the first segment.
-/
namespace Mustache

/-- Truth values and numbers. -/
inductive Value.IsScalar : Value → Prop where
  | bool (b : Bool) : IsScalar (.bool b)
  | int (i : Int) : IsScalar (.int i)
  | float (x : Binary64) : IsScalar (.float x)

theorem Value.IsScalar.lookup_eq_none {v : Value} (scalar : v.IsScalar) (name : String) :
    v.lookup name = none := by
  cases scalar <;> rfl

theorem Value.isScalar_ofNat (n : Nat) : (Value.ofNat n).IsScalar := by
  unfold ofNat
  split
  · exact .int n
  · exact .float (.ofNat n)

/-- Frames answer by themselves with truth values and numbers only. -/
theorem Frame.Bears.isScalar {f : Frame} {name : String} {value : Value}
    (bears : f.Bears name value) : value.IsScalar := by
  cases bears with
  | first | last | current | other => exact .bool _
  | index | index1 => exact Value.isScalar_ofNat _

namespace Context

variable {c : Context} {v : Value}

/-- A frame of a scalar answers to no name. -/
theorem search_scalar (scalar : v.IsScalar) (name : String) (rest : List Frame) :
    search name (⟨v, .plain⟩ :: rest) = search name rest := by
  rw [search, scalar.lookup_eq_none]
  rfl

theorem search_append (name : String) (inner outer : List Frame) :
    search name (inner ++ outer) = (search name inner).or (search name outer) := by
  simp [search_eq_findSome?, List.findSome?_append]

theorem resolve_child_of_not_mem (scalar : v.IsScalar) {path : String}
    (plain : '.' ∉ path.toList) : (c.child v).resolve path = c.resolve path := by
  rw [resolve_of_not_mem plain, resolve_of_not_mem plain]
  exact search_scalar scalar path c.frames

/-- Behind a scalar, the first of several segments means what it means around it. -/
theorem resolve_child_of_segmented (scalar : v.IsScalar) {path head : String}
    {rest : List String} (segmented : Segmented path head rest) (other : path ≠ ".") :
    (c.child v).resolve path = (c.resolve head).bind (follow · (rest.map String.toList)) := by
  have plain : '.' ∉ head.toList := segmented.2.2 head List.mem_cons_self
  rw [resolve_of_segmented segmented other rfl, resolve_of_not_mem plain]
  congr 1
  exact search_scalar scalar head c.frames

/-- What the frame around a scalar answers neither to the path nor to its first segment by itself
means the same behind the scalar. -/
theorem resolve_child_of_unmarked (scalar : v.IsScalar) {path head : String} {rest : List String}
    (segmented : Segmented path head rest) (other : path ≠ ".")
    (headless : ∀ mark, ¬ c.current.Bears head mark)
    (pathless : ∀ mark, ¬ c.current.Bears path mark) :
    (c.child v).resolve path = c.resolve path := by
  have plain : '.' ∉ head.toList := segmented.2.2 head List.mem_cons_self
  rw [resolve_child_of_segmented scalar segmented other,
    resolve_of_segmented segmented other (Frame.override?_eq_none_iff.mpr pathless),
    resolve_of_not_mem plain, frames, search, Frame.override?_eq_none_iff.mpr headless,
    Option.none_or]

/-- Behind a scalar, a path leads nowhere if the frame around answers its first segment by itself,
as that answer is a scalar. -/
theorem resolve_child_of_bears (scalar : v.IsScalar) {path head : String} {rest : List String}
    (segmented : Segmented path head rest) (other : path ≠ ".") {mark : Value}
    (bears : c.current.Bears head mark) : (c.child v).resolve path = none := by
  obtain ⟨segment, later, rfl⟩ := List.exists_cons_of_ne_nil segmented.2.1
  rw [resolve_child_of_segmented scalar segmented other, resolve_of_override? bears.override?_eq,
    Option.bind_some, List.map_cons, follow, bears.isScalar.lookup_eq_none, Option.bind_none]

/-- Frames in front of the one of a scalar resolve everything as they would without it. -/
theorem resolve_behind_scalar (scalar : v.IsScalar) (f : Frame) (inner outer : List Frame)
    (path : String) :
    resolve ⟨f, inner ++ ⟨v, .plain⟩ :: outer⟩ path = resolve ⟨f, inner ++ outer⟩ path := by
  simp only [resolve, search_append, search_scalar scalar]

/-- The body of a section over a scalar that holds is walked once, with the scalar put in front. -/
theorem element_block_scalar {σ ε : Type} (scalar : v.IsScalar)
    (holds : Section.isVoid (some v) = false) {path : String} (resolved : c.resolve path = some v)
    (lib : Library) (walk : Walker) (fuel : Nat) (sink : Sink σ ε) (home : Option ParserId)
    (children : Forest PartialRef) :
    Walk.element lib walk fuel sink home c (.block path children) =
      walk sink home (c.child v) children := by
  have single : Section.frames v = [⟨v, .plain⟩] := by
    cases scalar <;> simp_all [Section.isVoid, Section.frames, Section.once, bne]
  have unstreamed : Walk.block walk sink home c children fuel v =
      Walk.each (fun frame => walk sink home (c.push frame.value frame.marks) children)
        (Section.frames v) := by
    cases scalar <;> rfl
  rw [Walk.element, resolved]
  dsimp only
  rw [unstreamed, single, Walk.each, Walk.each]
  exact bind_pure_unit

/-- A truth value or number put in front resolves single names, and everything in frames put in
front of it, as without it. A path of several segments is resolved by its first segment from the
outside; this is what it means there unless the frame there answers to the first segment or to the
whole path by itself, and nothing if it answers to the first segment. The body of a section over a
scalar that holds is rendered there once. -/
theorem resolve_child_scalar (c : Context) {v : Value} (scalar : v.IsScalar) :
    (∀ path, '.' ∉ path.toList → (c.child v).resolve path = c.resolve path) ∧
    (∀ path head rest, Segmented path head rest → path ≠ "." →
      (∀ value, (c.child v).resolve path = some value ↔
        ∃ start, c.resolve head = some start ∧ Leads start rest value) ∧
      ((∀ mark, ¬ c.current.Bears head mark) → (∀ mark, ¬ c.current.Bears path mark) →
        (c.child v).resolve path = c.resolve path) ∧
      (∀ mark, c.current.Bears head mark → (c.child v).resolve path = none)) ∧
    (∀ f inner path, resolve ⟨f, inner ++ (c.child v).frames⟩ path =
      resolve ⟨f, inner ++ c.frames⟩ path) ∧
    (∀ {σ ε : Type} (lib : Library) (walk : Walker) (fuel : Nat) (sink : Sink σ ε)
      (home : Option ParserId) (path : String) (children : Forest PartialRef),
      c.resolve path = some v → Section.isVoid (some v) = false →
      Walk.element lib walk fuel sink home c (.block path children) =
        walk sink home (c.child v) children) := by
  refine ⟨fun path => resolve_child_of_not_mem scalar, ?_, ?_, ?_⟩
  · intro path head rest segmented other
    refine ⟨fun value => ?_, resolve_child_of_unmarked scalar segmented other,
      fun mark => resolve_child_of_bears scalar segmented other⟩
    rw [resolve_child_of_segmented scalar segmented other]
    simp only [Option.bind_eq_some_iff, leads_iff]
  · exact fun f inner path => resolve_behind_scalar scalar f inner c.frames path
  · intro σ ε lib walk fuel sink home path children resolved holds
    exact element_block_scalar scalar holds resolved lib walk fuel sink home children

/-- An item of a list that has an entry named like one of its marks. -/
def markedItem : Context :=
  (root (.map [("a", .map [("b", .int 2)]), ("flag", .bool true)])).itemChild
    (.map [("first", .map [("x", .int 1)])]) true false 0

/-- In a section over a flag, `a.b` means what it means around it, and `first.x` means nothing. -/
theorem resolve_child_markedItem :
    (markedItem.child (.bool true)).resolve "a.b" = some (.int 2) ∧
      (markedItem.child (.bool true)).resolve "first.x" = none := by
  have dotted {path head next : String} (joined : path = ".".intercalate [head, next])
      (plain : '.' ∉ head.toList) (later : '.' ∉ next.toList) : Segmented path head [next] :=
    ⟨joined, List.cons_ne_nil next [], by simp [plain, later]⟩
  have behind := (resolve_child_scalar markedItem (.bool true)).2.1
  constructor
  · refine ((behind "a.b" "a" ["b"] (dotted (by decide) (by decide) (by decide)) (by decide)).2.1
      ?_ ?_).trans ?_
    · exact Frame.override?_eq_none_iff.mp rfl
    · exact Frame.override?_eq_none_iff.mp rfl
    · rfl
  · exact (behind "first.x" "first" ["x"] (dotted (by decide) (by decide) (by decide))
      (by decide)).2.2 (.bool true) .first

/-- Outside the section, `first.x` means the entry. So a scalar in front does hide something. -/
theorem not_forall_resolve_child_eq :
    ¬ ∀ (c : Context) (v : Value) (path : String), v.IsScalar → path ≠ "." →
      (c.child v).resolve path = c.resolve path := by
  intro unchanged
  have same := unchanged markedItem (.bool true) "first.x" (.bool true) (by decide)
  have outside : markedItem.resolve "first.x" = some (.int 1) := rfl
  have inside : (markedItem.child (.bool true)).resolve "first.x" = none := rfl
  rw [outside, inside] at same
  cases same

end Context

end Mustache
