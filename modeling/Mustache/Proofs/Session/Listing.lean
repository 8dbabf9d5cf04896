import Mathlib
import Mustache.Proofs.Context.Resolution
import Mustache.Proofs.Render.Escaping
import Mustache.Proofs.Session.ByName
/-!
A partial that refers to itself, rendered over a tree. The partial has a slot of its own before its
source is read, and its body refers to that slot; what ends the rendering is the data alone. Every
node has its name and its children in its own map, so the frames of the nodes around it, which have
the same names, are never asked. Main statement: the rendering ends and lists the tree depth first,
with fuel for two levels of nesting at each level of the tree.
-/
namespace Mustache

variable {σ ε : Type}

/-- A finite tree with a text at each node and an order among the children of a node. -/
inductive OrderedTree where
  | node (name : String) (children : List OrderedTree)

namespace OrderedTree

mutual

/-- A tree depth first, with parentheses around each node and what is below it. -/
def listing : OrderedTree → String
  | .node name children => "(" ++ name ++ listingAll children ++ ")"

/-- Trees depth first, one after another. -/
def listingAll : List OrderedTree → String
  | [] => ""
  | tree :: rest => tree.listing ++ listingAll rest

end

mutual

/-- The number of nodes on the longest way down. -/
def height : OrderedTree → Nat
  | .node _ children => heightAll children + 1

/-- The greatest height. -/
def heightAll : List OrderedTree → Nat
  | [] => 0
  | tree :: rest => max tree.height (heightAll rest)

end

mutual

/-- Maps with the name of a node and the list of its children, which is empty at a leaf. There may
be other entries as well. -/
inductive Encodes : Value → OrderedTree → Prop where
  | node {entries : List (String × Value)} {name : String} {items : List Value}
      {children : List OrderedTree} : entries.lookup "name" = some (.text name) →
      entries.lookup "children" = some (.seq items) → EncodesAll items children →
      Encodes (.map entries) (.node name children)

/-- Lists of such maps. -/
inductive EncodesAll : List Value → List OrderedTree → Prop where
  | nil : EncodesAll [] []
  | cons {value : Value} {items : List Value} {tree : OrderedTree} {rest : List OrderedTree} :
      Encodes value tree → EncodesAll items rest → EncodesAll (value :: items) (tree :: rest)

end

mutual

/-- A tree as nested maps. -/
def encode : OrderedTree → Value
  | .node name children =>
    .map [("name", .text name), ("children", .seq (encodeAll children))]

/-- Trees as lists of nested maps. -/
def encodeAll : List OrderedTree → List Value
  | [] => []
  | tree :: rest => tree.encode :: encodeAll rest

end

mutual

theorem encodes_encode : ∀ tree : OrderedTree, Encodes tree.encode tree
  | .node _ children => by
    rw [encode]
    exact .node rfl rfl (encodesAll_encodeAll children)

theorem encodesAll_encodeAll : ∀ trees : List OrderedTree, EncodesAll (encodeAll trees) trees
  | [] => .nil
  | tree :: rest => .cons (encodes_encode tree) (encodesAll_encodeAll rest)

end

/-- A template that lists a node: its name, and below it its children by the template itself. -/
def listerSource : String := "({{{name}}}\x7b\x7b#children\x7d\x7d{{>node}}{{/children}})"

/-- The elements of that template, with the slot that it refers to itself by. -/
def listerBody (slot : Nat) : Forest PartialRef :=
  [.text "(", .raw "name", .block "children" [.reference ⟨"node", slot⟩], .text ")"]

theorem outline_listerSource : Outline.ofText listerSource =
    ⟨["node"], .ok [.text "(", .raw "name", .block "children" [.reference "node"], .text ")"]⟩ := by
  cbv

end OrderedTree

open OrderedTree

/-- In the map of the current frame, an entry that is not named like the mark of an item is found
before anything else, whatever the frames around it hold. -/
theorem Context.resolve_entry {c : Context} {entries : List (String × Value)} {name : String}
    {value : Value} (current : c.current.value = .map entries) (plain : '.' ∉ name.toList)
    (unmarked : name ∉ ["first", "last", "index", "index1"])
    (holds : entries.lookup name = some value) : c.resolve name = some value := by
  have silent : c.current.override? name = none := by
    simp only [List.mem_cons, List.not_mem_nil, or_false, not_or] at unmarked
    obtain ⟨notFirst, notLast, notIndex, notIndex1⟩ := unmarked
    unfold Frame.override?
    rw [current]
    cases c.current.marks with
    | plain | variant => rfl
    | item first last index => simp [notFirst, notLast, notIndex, notIndex1]
  exact resolve_of_entry current silent plain holds

namespace Walk

variable {lib : Library} {home : Option ParserId} {slot : Nat}

/-- One node: its name, and then the walk over its children. -/
theorem forest_node (body : lib.content? home slot = some (.parsed (listerBody slot)))
    (sink : Sink σ ε) {c : Context} {entries : List (String × Value)} {name : String}
    {items : List Value} (current : c.current.value = .map entries)
    (named : entries.lookup "name" = some (.text name))
    (above : entries.lookup "children" = some (.seq items)) (fuel : Nat) :
    forest lib (fuel + 2) sink home c [.reference ⟨"node", slot⟩] = (do
      emit sink "(".toList
      emit sink name.toList
      each (fun frame => forest lib fuel sink home (c.push frame.value frame.marks)
        [.reference ⟨"node", slot⟩]) (Section.itemFrames true 0 items)
      emit sink ")".toList) := by
  have name_here := Context.resolve_entry current (by decide) (by decide) named
  have children_here := Context.resolve_entry current (by decide) (by decide) above
  have shown : (Value.text name).text? = some name := rfl
  have opened : forest lib (fuel + 2) sink home c [.reference ⟨"node", slot⟩] =
      forest lib (fuel + 1) sink home c (listerBody slot) := by
    simp only [forest, each, element, body]
    exact bind_pure_unit
  rw [opened, listerBody, forest]
  simp only [each, element, textOf?, name_here, children_here, Option.bind_some, shown, emitText?,
    block, Section.frames, bind_pure_unit]

mutual

/-- A reference to the partial lists the tree of the current frame, in the frames of whatever nodes
it stands. -/
theorem forest_listing (body : lib.content? home slot = some (.parsed (listerBody slot)))
    (sink : Sink σ ε) {c : Context} {value : Value} {tree : OrderedTree} {fuel : Nat}
    (current : c.current.value = value) (enough : 2 * tree.height ≤ fuel) : Encodes value tree →
    forest lib fuel sink home c [.reference ⟨"node", slot⟩] = emit sink tree.listing.toList
  | .node named above below => by
    -- the reference takes one unit of fuel and the body another one
    rw [height] at enough
    obtain ⟨fuel, rfl⟩ := Nat.exists_eq_add_of_le' (show 2 ≤ fuel by omega)
    rw [forest_node body sink current named above,
      each_listing body sink c 0 fuel (by omega) below, listing]
    simp only [String.toList_append, emit_append, bind_assoc]

theorem each_listing (body : lib.content? home slot = some (.parsed (listerBody slot)))
    (sink : Sink σ ε) {items : List Value} {trees : List OrderedTree} (c : Context)
    (index fuel : Nat) (enough : 2 * heightAll trees ≤ fuel) : EncodesAll items trees →
    each (fun frame => forest lib fuel sink home (c.push frame.value frame.marks)
      [.reference ⟨"node", slot⟩]) (Section.itemFrames true index items) =
      emit sink (listingAll trees).toList
  | .nil => rfl
  | .cons first others => by
    rw [heightAll] at enough
    rw [Section.itemFrames, each, forest_listing body sink rfl (by omega) first,
      each_listing body sink c (index + 1) fuel (by omega) others, listingAll, String.toList_append,
      emit_append]

end

end Walk

namespace Registry

variable {r : Registry} {name : String}

theorem refer_of_index? {slot : Nat} (mapped : r.index? name = some slot) :
    r.refer name = ⟨name, slot⟩ := by
  rw [refer, mapped, Option.getD_some]

/-- The slot that a name is reserved with holds the body that it is filled with. -/
theorem content?_fill_reserve (r : Registry) (name : String) (elements : Forest PartialRef) :
    ((r.reserve name).fill r.slots.length elements).content? r.slots.length =
      some (.parsed elements) := by
  have empty : (r.reserve name).content? r.slots.length = none := content?_add_length r name none
  rw [content?_fill _ _ _ _ (by rw [reserve_length]; omega), if_pos rfl, empty, Option.none_or]

end Registry

namespace Binding

variable {find : String → Except Fault String}

/-- While the name of the partial is mapped to a slot, its source is bound to the body that refers
to this slot. -/
theorem outline_lister (depth : Nat) {r : Registry} {slot : Nat}
    (mapped : r.index? "node" = some slot) (asked : List String) :
    outline (Binding.name find (depth + 1)) (.ofText listerSource) ⟨r, asked⟩ =
      .ok (listerBody slot) ⟨r, asked⟩ := by
  have known : r.has "node" = true := Registry.has_eq_true_iff.mpr ⟨slot, mapped⟩
  rw [outline_listerSource]
  refine (outline_mapped depth rfl fun name member => ?_).trans ?_
  · rwa [List.mem_singleton.mp member]
  · simp only [Forest.map, Element.mapAll, Element.map, Registry.refer_of_index? mapped, listerBody]

/-- Binding the name of the partial leaves it mapped to a slot that holds its body. -/
theorem name_node (depth : Nat) (found : find "node" = .ok listerSource) {p : Progress}
    (cached : ∀ slot, p.registry.index? "node" = some slot →
      p.registry.content? slot = some (.parsed (listerBody slot))) :
    ∃ q slot, Binding.name find (depth + 2) "node" p = .ok () q ∧
      q.registry.index? "node" = some slot ∧
      q.registry.content? slot = some (.parsed (listerBody slot)) := by
  cases mapped : p.registry.index? "node" with
  | some slot =>
    have known : p.registry.has "node" = true := Registry.has_eq_true_iff.mpr ⟨slot, mapped⟩
    exact ⟨p, slot, name_mapped (depth + 1) known, mapped, cached slot mapped⟩
  | none =>
    have unmapped : p.registry.has "node" = false := Registry.has_eq_false_iff.mpr mapped
    -- the source is read with its name reserved, so that it refers to the new slot
    have here := Registry.reserve_index_self p.registry "node"
    have inside := @outline_lister find depth _ _ here ("node" :: p.asked)
    have bound := @name_unmapped find (depth + 1) _ p unmapped
    simp only [found, inside] at bound
    exact ⟨_, _, bound, here, p.registry.content?_fill_reserve "node" _⟩

end Binding

namespace Library

variable {lib : Library} {id : ParserId} {p : Parser} {files : Files}

/-- Parsing a reference to the partial gives a template that refers to a slot with its body. -/
theorem parse_node (here : lib.parser? id = some p)
    (found : p.resolver.find files "node" = .ok listerSource)
    (cached : ∀ slot, p.registry.index? "node" = some slot →
      p.registry.content? slot = some (.parsed (listerBody slot))) :
    ∃ slot, (lib.parse files id "{{>node}}").result = .ok ⟨[.reference ⟨"node", slot⟩], some id⟩ ∧
      (lib.parse files id "{{>node}}").library.content? (some id) slot =
        some (.parsed (listerBody slot)) := by
  have depth : p.depth files "{{>node}}" = p.resolver.weight files + 8 + 2 := rfl
  have read : Outline.ofText "{{>node}}" = ⟨["node"], .ok [.reference "node"]⟩ :=
    @outline_referring "node" (by decide)
  obtain ⟨q, slot, bound, mapped, holds⟩ :=
    @Binding.name_node (p.resolver.find files ·) (p.resolver.weight files + 8) found
      ⟨p.registry, []⟩ cached
  have referred : q.registry.refer "node" = ⟨"node", slot⟩ := Registry.refer_of_index? mapped
  have parsed : p.parse files "{{>node}}" =
      ⟨.ok [.reference ⟨"node", slot⟩], { p with registry := q.registry }, q.asked.reverse⟩ := by
    simp only [Parser.parse, depth, read, Binding.outline, Binding.each, Bind.bind, EStateM.bind,
      bound]
    simp only [Pure.pure, EStateM.pure, get, getThe, MonadStateOf.get, EStateM.get, Forest.map,
      Element.mapAll, Element.map, referred]
  refine ⟨slot, ?_, ?_⟩
  · simp only [parse, make, here, parsed, Except.map]
  · have replaced : (lib.parse files id "{{>node}}").library.parser? id =
        some { p with registry := q.registry } := by
      simp only [parse, make, here, parsed, parser?_replace here, if_true]
    rw [content?_at replaced, holds]

/-- A reference to the partial, parsed by a parser whose source for the name is the one above and
which has mapped the name to nothing else, renders as the tree of the current frame, depth first.
Both modes end with the same text, whatever frames stand around. -/
theorem parse_node_lists (here : lib.parser? id = some p)
    (found : p.resolver.find files "node" = .ok listerSource)
    (cached : ∀ slot, p.registry.index? "node" = some slot →
      p.registry.content? slot = some (.parsed (listerBody slot))) :
    ∃ t, (lib.parse files id "{{>node}}").result = .ok t ∧
      ∀ (tree : OrderedTree) (c : Context), Encodes c.current.value tree →
        ∀ fuel, 2 * tree.height ≤ fuel →
        (∀ out, (lib.parse files id "{{>node}}").library.renderOnto fuel out t c =
          some (out ++ tree.listing)) ∧
        ∀ {σ ε : Type} (sink : Sink σ ε),
          (lib.parse files id "{{>node}}").library.stream fuel sink t c = (do
            Walk.emit sink tree.listing.toList
            Walk.call sink.flush) := by
  obtain ⟨slot, parsed, body⟩ := parse_node here found cached
  refine ⟨_, parsed, fun tree c encodes fuel enough => ⟨fun out => ?_, fun {σ ε} sink => ?_⟩⟩
  · rw [renderOnto_eq_some_iff, Walk.forest_listing body Sink.string rfl enough encodes,
      emit_string, String.ofList_toList]
  · rw [stream, Walk.streamed, Walk.forest_listing body sink rfl enough encodes]

/-- A library with a parser that has not read the partial yet. -/
def listers : Library :=
  empty.add (.ofResolver (.table [("node", .text listerSource)] (.missing "unknown")))

/-- A tree of four nodes. -/
def family : OrderedTree :=
  .node "root" [.node "a" [.node "a1" []], .node "b" []]

/-- The tree as an item, in a frame that has a name and children of its own. -/
def familyItem : Context :=
  (Context.root (.map [("name", .text "outer"),
    ("children", .seq [family.encode])])).itemChild family.encode true true 0

theorem parse_node_lists_family : Encodes familyItem.current.value family ∧
    ∃ t, (listers.parse .none 0 "{{>node}}").result = .ok t ∧
      (listers.parse .none 0 "{{>node}}").library.render 6 t familyItem =
        some "(root(a(a1))(b))" := by
  have encoded : Encodes familyItem.current.value family := encodes_encode family
  obtain ⟨t, parsed, lists⟩ := @parse_node_lists listers 0 _ .none rfl rfl nofun
  exact ⟨encoded, t, parsed, (lists family familyItem encoded 6 (by decide)).1 ""⟩

end Library

end Mustache
