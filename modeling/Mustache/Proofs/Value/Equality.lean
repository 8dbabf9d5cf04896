import Mathlib
import Mustache.Value.Equality
/-!
Equality of values is a partial equivalence. A position leads into a value, through sequences by
index and through maps by key. Main statements: two values are equal exactly if they have parts at
the same positions and these resemble each other, each on its surface alone; so equality is
symmetric and transitive, and a value differs from itself exactly if the undefined number is a part
of it.
-/
namespace Mustache

namespace Value

/-- The kinds of values. -/
inductive Kind where
  | null
  | bool
  | int
  | float
  | text
  | seq
  | map
  | enumeration
  | object
  | stream
deriving DecidableEq, Repr

/-- The kind of a value. -/
def kind : Value → Kind
  | .null => .null
  | .bool _ => .bool
  | .int _ => .int
  | .float _ => .float
  | .text _ => .text
  | .seq _ => .seq
  | .map _ => .map
  | .enumeration .. => .enumeration
  | .object .. => .object
  | .stream .. => .stream

/-- What an application value and its copies have in common; plain data has no identity. -/
def identity? : Value → Option Nat
  | .enumeration self _ _ _ | .object self _ _ _ | .stream self _ => some self.identity
  | _ => none

/-- A step into a value. -/
inductive Step where
  | index (n : Nat)
  | key (name : String)
deriving DecidableEq, Repr

/-- What one step into a value leads to. -/
def child? : Value → Step → Option Value
  | .seq items, .index n => items[n]?
  | .map entries, .key name => entries.lookup name
  | _, _ => none

/-- The part of a value at a position. -/
def part? (value : Value) : List Step → Option Value
  | [] => some value
  | step :: rest => (value.child? step).bind (part? · rest)

/-- Whether all maps that a position leads to have different keys. -/
inductive Keyed : Value → Prop where
  | leaf {value : Value} : value.kind ≠ .seq → value.kind ≠ .map → Keyed value
  | seq {items : List Value} : (∀ item ∈ items, Keyed item) → Keyed (.seq items)
  | map {entries : List (String × Value)} : (entries.map Prod.fst).Nodup →
      (∀ entry ∈ entries, Keyed entry.2) → Keyed (.map entries)

/-- What equal values have in common before one looks into them. -/
inductive Resembles : Value → Value → Prop where
  | null : Resembles .null .null
  | bool (b : Bool) : Resembles (.bool b) (.bool b)
  | int (i : Int) : Resembles (.int i) (.int i)
  | float {x y : Binary64} : x.equal y = true → Resembles (.float x) (.float y)
  | text (s : String) : Resembles (.text s) (.text s)
  | seq (items items' : List Value) : Resembles (.seq items) (.seq items')
  | map (entries entries' : List (String × Value)) : Resembles (.map entries) (.map entries')
  | copy {a b : Value} {identity : Nat} : a.kind = b.kind → a.identity? = some identity →
      b.identity? = some identity → Resembles a b

namespace Resembles

variable {a b c : Value}

theorem kind_eq (resembles : Resembles a b) : a.kind = b.kind := by
  cases resembles with
  | copy same _ _ => exact same
  | null | bool | int | float | text | seq | map => rfl

theorem identity?_eq (resembles : Resembles a b) : a.identity? = b.identity? := by
  cases resembles with
  | copy _ here there => rw [here, there]
  | null | bool | int | float | text | seq | map => rfl

theorem symm (resembles : Resembles a b) : Resembles b a := by
  cases resembles with
  | null => exact .null
  | bool b => exact .bool b
  | int i => exact .int i
  | float same => exact .float (Binary64.equal_symm _ _ same)
  | text s => exact .text s
  | seq items items' => exact .seq items' items
  | map entries entries' => exact .map entries' entries
  | copy same here there => exact .copy same.symm there here

theorem trans (first : Resembles a b) (second : Resembles b c) : Resembles a c := by
  cases first with
  | null | bool | int | text => exact second
  | copy same here there =>
    exact .copy (same.trans second.kind_eq) here (second.identity?_eq ▸ there)
  | float same =>
    cases second with
    | float same' => exact .float (Binary64.equal_trans same same')
    | copy _ impossible _ => cases impossible
  | seq items _ =>
    cases second with
    | seq _ items' => exact .seq items items'
    | copy _ impossible _ => cases impossible
  | map entries _ =>
    cases second with
    | map _ entries' => exact .map entries entries'
    | copy _ impossible _ => cases impossible

/-- Only the undefined number does not resemble itself. -/
theorem self_iff : Resembles a a ↔ a ≠ .float .nan := by
  constructor
  · rintro resembles rfl
    cases resembles with
    | float same => exact (Binary64.equal_self _).mp same rfl
    | copy _ impossible _ => cases impossible
  · intro defined
    cases a with
    | null => exact .null
    | bool b => exact .bool b
    | int i => exact .int i
    | float x => exact .float ((Binary64.equal_self x).mpr fun same => defined (by rw [same]))
    | text s => exact .text s
    | seq items => exact .seq items items
    | map entries => exact .map entries entries
    | enumeration | object | stream => exact .copy rfl rfl rfl

end Resembles

section Children

variable {a b x : Value} {step : Step}

theorem Keyed.child (keyed : a.Keyed) (inside : a.child? step = some x) : x.Keyed := by
  cases keyed with
  | leaf notSeq notMap =>
    cases a with
    | seq => exact absurd rfl notSeq
    | map => exact absurd rfl notMap
    | null | bool | int | float | text | enumeration | object | stream => cases inside
  | seq items =>
    cases step with
    | index n => exact items x (List.mem_of_getElem? inside)
    | key name => cases inside
  | map distinct entries =>
    cases step with
    | index n => cases inside
    | key name =>
      obtain ⟨before, after, rfl, _⟩ := List.lookup_eq_some_iff.mp inside
      exact entries (name, x) (by simp)

/-- A part of a value is smaller than the value. -/
theorem sizeOf_child (inside : a.child? step = some x) : sizeOf x < sizeOf a := by
  cases a with
  | seq items =>
    cases step with
    | index n =>
      have smaller := List.sizeOf_lt_of_mem (List.mem_of_getElem? inside)
      rw [Value.seq.sizeOf_spec]
      omega
    | key name => cases inside
  | map entries =>
    cases step with
    | index n => cases inside
    | key name =>
      obtain ⟨before, after, rfl, _⟩ := List.lookup_eq_some_iff.mp inside
      have smaller := List.sizeOf_lt_of_mem
        (show (name, x) ∈ before ++ (name, x) :: after by simp)
      rw [Prod.mk.sizeOf_spec] at smaller
      rw [Value.map.sizeOf_spec]
      omega
  | null | bool | int | float | text | enumeration | object | stream => cases inside

theorem rel_bind {r s : Value → Value → Prop} {found found' : Option Value}
    {f g : Value → Option Value} (rel : Option.Rel r found found')
    (next : ∀ x y, found = some x → found' = some y → r x y → Option.Rel s (f x) (g y)) :
    Option.Rel s (found.bind f) (found'.bind g) := by
  cases rel with
  | some related => exact next _ _ rfl rfl related
  | none => exact .none

/-- The values of two options are equal, if there are any. -/
abbrev EqualIn (found found' : Option Value) : Prop :=
  Option.Rel (fun x y => x.equal y = true) found found'

/-- Sequences are equal item by item. -/
theorem equalItems_iff {items items' : List Value} :
    equalItems items items' = true ↔ ∀ n : Nat, EqualIn items[n]? items'[n]? := by
  induction items generalizing items' with
  | nil =>
    cases items' with
    | nil => exact iff_of_true rfl fun _ => .none
    | cons b bs =>
      simp only [equalItems, Bool.false_eq_true, false_iff]
      intro all
      cases all 0
  | cons a as ih =>
    cases items' with
    | nil =>
      simp only [equalItems, Bool.false_eq_true, false_iff]
      intro all
      cases all 0
    | cons b bs =>
      rw [equalItems, Bool.and_eq_true, ih]
      constructor
      · rintro ⟨first, rest⟩ n
        cases n with
        | zero => exact .some first
        | succ n => exact rest n
      · intro all
        refine ⟨?_, fun n => all (n + 1)⟩
        cases all 0 with
        | some first => exact first

/-- The entries of one map are looked for in the other. -/
theorem equalEntries_iff {entries entries' : List (String × Value)} :
    equalEntries entries entries' = true ↔
      ∀ entry ∈ entries, EqualIn (some entry.2) (entries'.lookup entry.1) := by
  induction entries with
  | nil => simp [equalEntries]
  | cons entry rest ih =>
    obtain ⟨key, a⟩ := entry
    rw [equalEntries, Bool.and_eq_true, ih, List.forall_mem_cons]
    refine and_congr_left fun _ => ?_
    cases entries'.lookup key with
    | none => exact iff_of_false Bool.false_ne_true nofun
    | some b =>
      constructor
      · exact fun same => .some same
      · rintro ⟨same⟩
        exact same

section Maps

variable {entries entries' : List (String × Value)} {name : String}

theorem mem_keys_iff :
    name ∈ entries.map Prod.fst ↔ ∃ value, entries.lookup name = some value := by
  rw [← Option.isSome_iff_exists, List.lookup_isSome_iff, List.mem_map]
  exact exists_congr fun entry => and_congr_right fun _ => by rw [beq_iff_eq, eq_comm]

theorem lookup_eq_some_iff_mem (distinct : (entries.map Prod.fst).Nodup) {value : Value} :
    entries.lookup name = some value ↔ (name, value) ∈ entries := by
  constructor
  · intro found
    obtain ⟨before, after, rfl, _⟩ := List.lookup_eq_some_iff.mp found
    simp
  · intro member
    obtain ⟨before, after, rfl⟩ := List.append_of_mem member
    refine List.lookup_eq_some_iff.mpr ⟨before, after, rfl, fun entry earlier => ?_⟩
    rw [List.map_append, List.nodup_append] at distinct
    have other := distinct.2.2 entry.1 (List.mem_map_of_mem earlier) name (by simp)
    exact bne_iff_ne.mpr (Ne.symm other)

/-- Maps are equal if they mean equal things by every key. The entries of one are looked for in the
other; as there are as many of them, no entry of the other is left over. -/
theorem equalMaps_iff (distinct : (entries.map Prod.fst).Nodup)
    (distinct' : (entries'.map Prod.fst).Nodup) :
    entries.length = entries'.length ∧ equalEntries entries entries' = true ↔
      ∀ name, EqualIn (entries.lookup name) (entries'.lookup name) := by
  rw [equalEntries_iff]
  constructor
  · rintro ⟨as_many, all⟩ name
    have subset : entries.map Prod.fst ⊆ entries'.map Prod.fst := by
      intro key member
      obtain ⟨entry, inside, rfl⟩ := List.mem_map.mp member
      cases found : entries'.lookup entry.1 with
      | some b => exact mem_keys_iff.mpr ⟨b, found⟩
      | none =>
        have impossible := all entry inside
        rw [found] at impossible
        cases impossible
    have same_keys : (entries.map Prod.fst).Perm (entries'.map Prod.fst) :=
      (List.subperm_of_subset distinct subset).perm_of_length_le (by simp [as_many])
    cases here : entries.lookup name with
    | some a => exact all (name, a) ((lookup_eq_some_iff_mem distinct).mp here)
    | none =>
      cases there : entries'.lookup name with
      | none => exact .none
      | some b =>
        obtain ⟨a, found⟩ := mem_keys_iff.mp (same_keys.mem_iff.mpr (mem_keys_iff.mpr ⟨b, there⟩))
        rw [here] at found
        cases found
  · intro all
    constructor
    · have same_keys : (entries.map Prod.fst).Perm (entries'.map Prod.fst) := by
        refine (List.perm_ext_iff_of_nodup distinct distinct').mpr fun name => ?_
        have same := all name
        rw [mem_keys_iff, mem_keys_iff]
        generalize entries.lookup name = found, entries'.lookup name = found' at same
        cases same <;> simp
      simpa using same_keys.length_eq
    · intro entry inside
      rw [← (lookup_eq_some_iff_mem distinct).mpr inside]
      exact all entry.1

end Maps

/-- Equal values resemble each other. -/
theorem resembles_of_equal (same : a.equal b = true) : Resembles a b := by
  match a, b with
  | .null, .null => exact .null
  | .bool x, .bool y =>
    obtain rfl : x = y := by simpa [equal] using same
    exact .bool x
  | .int i, .int j =>
    obtain rfl : i = j := by simpa [equal] using same
    exact .int i
  | .float _, .float _ => exact .float same
  | .text s, .text t =>
    obtain rfl : s = t := by simpa [equal] using same
    exact .text s
  | .seq items, .seq items' => exact .seq items items'
  | .map entries, .map entries' => exact .map entries entries'
  | .enumeration .., .enumeration .. | .object .., .object .. | .stream .., .stream .. =>
    exact .copy rfl rfl (congrArg some (beq_iff_eq.mp same).symm)

/-- Values that are not looked into are equal if they resemble each other. -/
theorem equal_iff_resembles (notSeq : a.kind ≠ .seq) (notMap : a.kind ≠ .map) :
    a.equal b = true ↔ Resembles a b := by
  refine ⟨resembles_of_equal, fun resembles => ?_⟩
  cases resembles with
  | null => rfl
  | bool | int | text => exact beq_self_eq_true _
  | float same => exact same
  | seq => exact absurd rfl notSeq
  | map => exact absurd rfl notMap
  | copy same here there =>
    match a, b with
    | .enumeration .., .enumeration .. | .object .., .object .. | .stream .., .stream .. =>
      exact beq_iff_eq.mpr (Option.some.inj (here.trans there.symm))

theorem child?_eq_none (notSeq : a.kind ≠ .seq) (notMap : a.kind ≠ .map) :
    a.child? step = none := by
  cases a with
  | seq => exact absurd rfl notSeq
  | map => exact absurd rfl notMap
  | null | bool | int | float | text | enumeration | object | stream => rfl

/-- Values are equal if they resemble each other and every step leads to equal values. -/
theorem equal_iff (keyed : a.Keyed) (keyed' : b.Keyed) :
    a.equal b = true ↔ Resembles a b ∧ ∀ step, EqualIn (a.child? step) (b.child? step) := by
  cases keyed with
  | leaf notSeq notMap =>
    rw [equal_iff_resembles notSeq notMap]
    refine ⟨fun resembles => ⟨resembles, fun step => ?_⟩, And.left⟩
    rw [child?_eq_none notSeq notMap, child?_eq_none (resembles.kind_eq ▸ notSeq)
      (resembles.kind_eq ▸ notMap)]
    exact .none
  | seq =>
    constructor
    · intro same
      match b with
      | .seq items' =>
        refine ⟨.seq _ _, fun step => ?_⟩
        cases step with
        | index n => exact equalItems_iff.mp same n
        | key name => exact .none
    · rintro ⟨resembles, all⟩
      cases resembles with
      | seq => exact equalItems_iff.mpr fun n => all (.index n)
      | copy _ impossible _ => cases impossible
  | map distinct =>
    constructor
    · intro same
      match b, keyed' with
      | .map entries', .map distinct' _ =>
        rw [equal, Bool.and_eq_true, beq_iff_eq, equalMaps_iff distinct distinct'] at same
        refine ⟨.map _ _, fun step => ?_⟩
        cases step with
        | index n => exact .none
        | key name => exact same name
    · rintro ⟨resembles, all⟩
      cases resembles with
      | map =>
        match keyed' with
        | .map distinct' _ =>
          rw [equal, Bool.and_eq_true, beq_iff_eq, equalMaps_iff distinct distinct']
          exact fun name => all (.key name)
      | copy _ impossible _ => cases impossible

end Children

/-- Values with parts at the same positions, which resemble each other. -/
def Agree (a b : Value) : Prop :=
  ∀ position, Option.Rel Resembles (a.part? position) (b.part? position)

section Equality

variable {a b c : Value}

namespace Agree

theorem symm (agree : Agree a b) : Agree b a := by
  intro position
  have here := agree position
  generalize a.part? position = found, b.part? position = found' at here ⊢
  cases here with
  | none => exact .none
  | some resembles => exact .some resembles.symm

theorem trans (first : Agree a b) (second : Agree b c) : Agree a c := by
  intro position
  have here := first position
  have there := second position
  generalize a.part? position = found, b.part? position = found',
    c.part? position = found'' at here there ⊢
  cases here with
  | none => exact there
  | some resembles =>
    cases there with
    | some resembles' => exact .some (resembles.trans resembles')

theorem self_iff : Agree a a ↔ ∀ position, a.part? position ≠ some (.float .nan) := by
  refine forall_congr' fun position => ?_
  cases a.part? position with
  | none => exact iff_of_true .none nofun
  | some part =>
    rw [Ne, Option.some_inj, ← Ne, ← Resembles.self_iff]
    refine ⟨fun related => ?_, .some⟩
    cases related with
    | some resembles => exact resembles

end Agree

theorem agree_of_equal (keyed : a.Keyed) (keyed' : b.Keyed) (same : a.equal b = true) :
    Agree a b := by
  intro position
  induction position generalizing a b with
  | nil => exact .some (resembles_of_equal same)
  | cons step rest ih =>
    exact rel_bind (((equal_iff keyed keyed').mp same).2 step) fun x y here there same =>
      ih (keyed.child here) (keyed'.child there) same

/-- The induction is on the size of the value: its parts are not all among its fields. -/
theorem equal_of_agree {a b : Value} (keyed : a.Keyed) (keyed' : b.Keyed) (agree : Agree a b) :
    a.equal b = true := by
  refine (equal_iff keyed keyed').mpr ⟨?_, fun step => ?_⟩
  · cases agree [] with
    | some resembles => exact resembles
  · rw [← Option.bind_fun_some (a.child? step), ← Option.bind_fun_some (b.child? step)]
    have parts := agree [step]
    simp only [part?, Option.bind_fun_some] at parts
    refine rel_bind parts fun x y here there _ => .some ?_
    have smaller := sizeOf_child here
    refine equal_of_agree (keyed.child here) (keyed'.child there) fun position => ?_
    have deeper := agree (step :: position)
    rwa [part?, part?, here, there] at deeper
termination_by sizeOf a

/-- Equality looks at all positions, and at each of them on the surface only. -/
theorem equal_iff_agree (keyed : a.Keyed) (keyed' : b.Keyed) : a.equal b = true ↔ Agree a b :=
  ⟨agree_of_equal keyed keyed', equal_of_agree keyed keyed'⟩

/-- An application value is equal exactly to its copies: values of its kind with its identity. -/
theorem equal_iff_of_identity? {identity : Nat} (applied : a.identity? = some identity) :
    a.equal b = true ↔ b.kind = a.kind ∧ b.identity? = some identity := by
  have unread : a.kind ≠ .seq ∧ a.kind ≠ .map := by
    cases a with
    | enumeration | object | stream => exact ⟨nofun, nofun⟩
    | null | bool | int | float | text | seq | map => cases applied
  rw [equal_iff_resembles unread.1 unread.2]
  constructor
  · intro resembles
    exact ⟨resembles.kind_eq.symm, resembles.identity?_eq ▸ applied⟩
  · rintro ⟨same, there⟩
    exact .copy same.symm applied there

/-- Among values whose maps have different keys, equality is symmetric and transitive. A value
equals itself exactly if the undefined number is no part of it, through sequences and maps.
Application values equal exactly their copies. Equal values have parts at the same positions, of the
same kinds there and with the same identities. -/
theorem equal_isPartialEquivalence (keyedA : a.Keyed) (keyedB : b.Keyed) (keyedC : c.Keyed) :
    (a.equal b = true → b.equal a = true) ∧
    (a.equal b = true → b.equal c = true → a.equal c = true) ∧
    (a.equal a = true ↔ ∀ position, a.part? position ≠ some (.float .nan)) ∧
    (∀ identity, a.identity? = some identity →
      (a.equal b = true ↔ b.kind = a.kind ∧ b.identity? = some identity)) ∧
    (a.equal b = true → ∀ position,
      (a.part? position).map kind = (b.part? position).map kind ∧
      (a.part? position).bind identity? = (b.part? position).bind identity?) := by
  rw [equal_iff_agree keyedA keyedB, equal_iff_agree keyedB keyedA, equal_iff_agree keyedB keyedC,
    equal_iff_agree keyedA keyedC, equal_iff_agree keyedA keyedA]
  refine ⟨Agree.symm, Agree.trans, Agree.self_iff, fun identity applied => ?_,
    fun agree position => ?_⟩
  · rw [← equal_iff_agree keyedA keyedB]
    exact equal_iff_of_identity? applied
  · have here := agree position
    generalize a.part? position = found, b.part? position = found' at here
    cases here with
    | none => exact ⟨rfl, rfl⟩
    | some resembles =>
      exact ⟨congrArg some resembles.kind_eq, resembles.identity?_eq⟩

end Equality

/-- A map with a zero of either sign and an application value in it. -/
def balance (negative : Bool) : Value :=
  .map [("sums", .seq [.float (.finite negative 0), .object ⟨7, "Account"⟩ "main" [] []]),
    ("note", .null)]

/-- The same entries in another order. -/
def balanceReordered : Value :=
  .map [("note", .null),
    ("sums", .seq [.float (.finite false 0), .object ⟨7, "Account"⟩ "main" [] []])]

/-- The order of entries and the sign of a zero make no difference to equality, while a map with the
undefined number in it differs from itself. -/
theorem equal_isPartialEquivalence_balance :
    (balance true).equal balanceReordered = true ∧ balanceReordered.equal (balance true) = true ∧
      (balance true).equal (balance false) = true ∧
      ¬ (Value.map [("sums", .seq [.float .nan])]).equal (.map [("sums", .seq [.float .nan])]) =
        true := by
  have leaf {value : Value} (unread : value.kind ≠ .seq ∧ value.kind ≠ .map) : value.Keyed :=
    .leaf unread.1 unread.2
  have sums (negative : Bool) :
      (Value.seq [.float (.finite negative 0), .object ⟨7, "Account"⟩ "main" [] []]).Keyed :=
    .seq (by simp [leaf, kind])
  have keyed (negative : Bool) : (balance negative).Keyed :=
    .map (by simp) (by simp [sums, leaf, kind])
  have reordered : balanceReordered.Keyed := .map (by simp) (by simp [sums, leaf, kind])
  have undefined : (Value.map [("sums", .seq [.float .nan])]).Keyed :=
    .map (by simp) (by simp [Keyed.seq, leaf, kind])
  have same : (balance true).equal balanceReordered = true := by cbv
  have same' : balanceReordered.equal (balance false) = true := by cbv
  obtain ⟨symm, trans, _⟩ := equal_isPartialEquivalence (keyed true) reordered (keyed false)
  obtain ⟨_, _, self, _⟩ := equal_isPartialEquivalence undefined undefined undefined
  exact ⟨same, symm same, trans same same',
    fun equal => self.mp equal [.key "sums", .index 0] rfl⟩

end Value

end Mustache
