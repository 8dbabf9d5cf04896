import Mustache.Context
import Mustache.Value.Display
/-!
How often a section renders its body, and against which frames. That depends on the kind of value
its path resolves to: sequences, maps and streams give one frame per item, every other value that
holds gives one frame, and a value that does not hold gives none. Main statement: of the values over
which a section ends, exactly those without frames are void; the others never are.
-/
namespace Mustache.Section

/-- The frames of items from an index on; `bounded` tells whether the last item is marked. -/
def itemFrames (bounded : Bool) : Nat → List Value → List Frame
  | _, [] => []
  | index, item :: rest =>
    ⟨item, .item (index == 0) (bounded && rest.isEmpty) index⟩ ::
      itemFrames bounded (index + 1) rest

/-- The one frame of a value that is not iterated. -/
def once (value : Value) (holds : Bool) : List Frame := if holds then [⟨value, .plain⟩] else []

/-- The frame of the item of a stream at an index; the last item is not marked. -/
def passing (item : Nat → Value) (index : Nat) : Frame :=
  ⟨item index, .item (index == 0) false index⟩

/-- Whether a section over a value never ends. -/
def isUnending : Value → Bool
  | .stream _ (.endless _) => true
  | _ => false

/-- The frames that a section over a value renders its body against, if it ends. A section over an
endless stream has no list of them; it renders its body against the frames of `passing`. -/
def frames (value : Value) : List Frame :=
  match value with
  | .null => []
  | .bool b => once value b
  | .int i => once value (i != 0)
  | .float x => once value (!x.isZero)
  | .text s => once value (!s.isEmpty)
  | .seq items => itemFrames true 0 items
  | .map entries => itemFrames true 0 (entries.map fun e => .entry e.1 e.2)
  | .enumeration .. => [⟨value, .variant⟩]
  | .object .. => [⟨value, .plain⟩]
  | .stream _ (.finite items) => itemFrames false 0 items
  | .stream _ (.endless _) => []

/-- Whether a section over what a path means renders its body not once, which is when an inverted
section renders its own. Of a stream, at most one item is looked at. -/
def isVoid : Option Value → Bool
  | none | some .null => true
  | some (.bool b) => !b
  | some (.int i) => i == 0
  | some (.float x) => x.isZero
  | some (.text s) => s.isEmpty
  | some (.seq items) => items.isEmpty
  | some (.map entries) => entries.isEmpty
  | some (.stream _ pass) => pass.first?.isNone
  | some (.enumeration ..) | some (.object ..) => false

@[simp] theorem length_itemFrames (bounded : Bool) (index : Nat) (items : List Value) :
    (itemFrames bounded index items).length = items.length := by
  induction items generalizing index with
  | nil => rfl
  | cons item rest ih => simp [itemFrames, ih]

@[simp] theorem isEmpty_once (value : Value) (holds : Bool) :
    (once value holds).isEmpty = !holds := by
  cases holds <;> rfl

@[simp] theorem isEmpty_itemFrames (bounded : Bool) (index : Nat) (items : List Value) :
    (itemFrames bounded index items).isEmpty = items.isEmpty := by
  cases items <;> rfl

theorem exists_of_isUnending {value : Value} (unending : isUnending value = true) :
    ∃ self item, value = .stream self (.endless item) := by
  unfold isUnending at unending
  split at unending
  · exact ⟨_, _, rfl⟩
  · cases unending

/-- Of the values over which a section ends, those without frames are void. -/
theorem isVoid_of_ends {value : Value} (ends : isUnending value = false) :
    isVoid (some value) = (frames value).isEmpty := by
  cases value with
  | stream self pass =>
    cases pass with
    | finite items => cases items <;> rfl
    | endless item => cases ends
  | null | bool | int | float | text | seq | map | enumeration | object =>
    simp [isVoid, frames, bne]

/-- A value over which a section never ends is not void. -/
theorem isVoid_of_unending {value : Value} (unending : isUnending value = true) :
    isVoid (some value) = false := by
  obtain ⟨self, item, rfl⟩ := exists_of_isUnending unending
  rfl

end Mustache.Section
