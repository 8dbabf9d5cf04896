import Mathlib
import Mustache.Proofs.Context.Finiteness
import Mustache.Proofs.Render.Framing
/-!
Rendering ends if references do not lead in a circle. The walk goes from elements into their
children, which are smaller, and from a reference to what stands in its slot, which may be larger
and may belong to another registry; then the slots that can still be come to are fewer. Main
statement: for a template without circular references and without partials supplied as code there
is a bound on how deeply the walk nests, the same for every context without endless data, however
deep that is.
-/
namespace Mustache

variable {σ ε α : Type}

namespace Schedule

theorem ended_ofText (text? : Option String) : (ofText? text?).ended = true := by
  cases text? <;> rfl

theorem ended_each {plan : α → Schedule} {items : List α}
    (ended : ∀ a ∈ items, (plan a).ended = true) : (each plan items).ended = true := by
  induction items with
  | nil => rfl
  | cons a rest ih =>
    rw [each, ended_append, ended a List.mem_cons_self,
      ih fun other member => ended other (.tail a member), Bool.and_true]

/-- A section that has an end comes to it if all its turns do. -/
theorem ended_block {plan : Planner} {home : Option ParserId} {c : Context}
    {children : Forest PartialRef} {value : Value} (fuel : Nat)
    (ends : Section.isUnending value = false)
    (ended : ∀ f ∈ Section.frames value,
      (plan home (c.push f.value f.marks) children).ended = true) :
    (block plan home c children fuel value).ended = true := by
  cases value with
  | stream self pass =>
    cases pass with
    | finite items =>
      refine ended_each fun f member => ?_
      rw [ended_append, ended_append, ended f member]
      rfl
    | endless item => cases ends
  | null | bool | int | float | text | seq | map | enumeration | object => exact ended_each ended

end Schedule

namespace Library

/-- A slot of a registry, by the home of the references to it. -/
abbrev Site := Option ParserId × Nat

/-- The elements that stand in a slot, with the home of their references: those of a body that was
read, or those of a registered template. -/
def body? (lib : Library) (site : Site) : Option Template :=
  match lib.content? site.1 site.2 with
  | some (.parsed elements) => some ⟨elements, site.1⟩
  | some (.registered (.template t)) => some t
  | some (.registered (.custom _)) | none => none

/-- What stands in a slot refers to another slot. -/
def Refers (lib : Library) (site next : Site) : Prop :=
  ∃ body, lib.body? site = some body ∧ ∃ ref ∈ body.elements.targets, next = (body.home, ref.slot)

/-- From no slot that a walk over the template can come to do references lead back to it. -/
def Acyclic (lib : Library) (t : Template) : Prop :=
  ∀ home ref, lib.Meets t home ref →
    ¬ Relation.TransGen lib.Refers (home, ref.slot) (home, ref.slot)

variable {lib : Library} {t body : Template} {home : Option ParserId} {ref : PartialRef}
  {fuel : Nat} {elements : Forest PartialRef}

/-- References do not lead in a circle if each leads downwards. -/
theorem acyclic_of_rank (rank : Site → Nat)
    (falls : ∀ site next, lib.Refers site next → rank next < rank site) : lib.Acyclic t := by
  have falls_far {site last : Site} (leads : Relation.TransGen lib.Refers site last) :
      rank last < rank site := by
    induction leads with
    | single refers => exact falls _ _ refers
    | tail _ refers ih => exact Nat.lt_trans (falls _ _ refers) ih
  exact fun home ref _ circle => Nat.lt_irrefl _ (falls_far circle)

section Slots

/-- A slot with elements that a walk over the template can come to. -/
def Visited (lib : Library) (t : Template) (site : Site) : Prop :=
  (∃ ref, lib.Meets t site.1 ref ∧ ref.slot = site.2) ∧ (lib.body? site).isSome

/-- The slots of all parsers. -/
def sites (lib : Library) : List Site :=
  lib.parsers.zipIdx.flatMap fun (parser, id) =>
    (List.range parser.registry.slots.length).map fun slot => (some id, slot)

theorem mem_sites {site : Site} (stands : (lib.body? site).isSome) : site ∈ lib.sites := by
  obtain ⟨home, slot⟩ := site
  cases holds : lib.content? home slot with
  | none => simp [body?, holds] at stands
  | some content =>
    obtain ⟨id, rfl, parser, here, filled⟩ : ∃ id, home = some id ∧ ∃ parser,
        lib.parser? id = some parser ∧ parser.registry.content? slot = some content := by
      simpa [content?, Option.bind_eq_some_iff] using holds
    have inside : slot < parser.registry.slots.length := by
      rw [Registry.content?, Option.bind_eq_some_iff] at filled
      obtain ⟨_, at_slot, _⟩ := filled
      exact (List.getElem?_eq_some_iff.mp at_slot).1
    refine List.mem_flatMap.mpr ⟨(parser, id), ?_, ?_⟩
    · exact List.mem_zipIdx_iff_getElem?.mpr here
    · exact List.mem_map.mpr ⟨slot, List.mem_range.mpr inside, rfl⟩

/-- There are finitely many slots, so references that do not lead in a circle come to an end. -/
theorem Acyclic.wellFounded (acyclic : lib.Acyclic t) :
    WellFounded fun next site : {site // lib.Visited t site} => lib.Refers site.1 next.1 := by
  let leads (next site : {site // lib.Visited t site}) : Prop :=
    Relation.TransGen lib.Refers site.1 next.1
  have finite : Finite {site // lib.Visited t site} :=
    ((List.finite_toSet lib.sites).subset fun _ visited => mem_sites visited.2).to_subtype
  have transitive : IsTrans _ leads := ⟨fun _ _ _ first second => second.trans first⟩
  have irreflexive : Std.Irrefl leads := by
    refine ⟨fun ⟨⟨home, slot⟩, ⟨ref, met, same⟩, _⟩ circle => ?_⟩
    obtain rfl : ref.slot = slot := same
    exact acyclic home ref met circle
  have further : WellFounded leads := Finite.wellFounded_of_trans_of_irrefl leads
  exact Subrelation.wf (fun refers => Relation.TransGen.single refers) further

/-- The elements that a reference leads to are walked with the template. -/
theorem Meets.of_body (met : lib.Meets t home ref) (stands : lib.body? (home, ref.slot) = some body)
    {next : PartialRef} (member : next ∈ body.elements.targets) : lib.Meets t body.home next := by
  obtain ⟨u, embeds, rfl, refers⟩ := met
  unfold body? at stands
  split at stands
  · rename_i elements holds
    cases stands
    exact ⟨_, .body embeds refers holds, rfl, member⟩
  · rename_i v holds
    cases stands
    exact ⟨_, .template embeds refers holds, rfl, member⟩
  · cases stands
  · cases stands

end Slots

/-- With so much fuel, a walk over the elements comes to its end in every context without endless
data. -/
def Ends (lib : Library) (fuel : Nat) (home : Option ParserId) (elements : Forest PartialRef) :
    Prop :=
  ∀ c : Context, c.IsFinite → (Schedule.forest lib fuel home c elements).ended = true

theorem Ends.mono {more : Nat} (ends : lib.Ends fuel home elements) (enough : fuel ≤ more) :
    lib.Ends more home elements := by
  intro c finite
  rw [← Nat.add_sub_cancel' enough, Schedule.forest_more lib (more - fuel) (ends c finite)]
  exact ends c finite

theorem Ends.cons {first : Element PartialRef} (here : lib.Ends fuel home [first])
    (later : lib.Ends fuel home elements) : lib.Ends fuel home (first :: elements) := by
  intro c finite
  rw [forest_cons, Schedule.ended_append, here c finite, later c finite, Bool.and_true]

theorem Ends.block (ends : lib.Ends fuel home elements) (path : String) :
    lib.Ends (fuel + 1) home [.block path elements] := by
  intro c finite
  rw [forest_one]
  simp only [Schedule.element]
  cases resolved : c.resolve path with
  | none => rfl
  | some value =>
    have whole := finite.of_resolve resolved
    refine Schedule.ended_block fuel (Section.isUnending_of_isFinite whole) fun f member => ?_
    exact ends _ (finite.push (Section.isFinite_of_mem_frames whole member) f.marks)

theorem Ends.inverted (ends : lib.Ends fuel home elements) (path : String) :
    lib.Ends (fuel + 1) home [.inverted path elements] := by
  intro c finite
  rw [forest_one]
  simp only [Schedule.element]
  split
  · exact ends c finite
  · rfl

theorem Ends.reference (ends : ∀ body, lib.body? (home, ref.slot) = some body →
    lib.Ends fuel body.home body.elements) : lib.Ends (fuel + 1) home [.reference ref] := by
  intro c finite
  rw [forest_one]
  simp only [Schedule.element, body?] at ends ⊢
  cases holds : lib.content? home ref.slot with
  | none => rfl
  | some content =>
    rw [holds] at ends
    cases content with
    | parsed body => exact ends _ rfl c finite
    | registered value =>
      cases value with
      | template u => exact ends u rfl c finite
      | custom code => rfl

mutual

/-- Elements nest deeper than their references by a fixed amount. -/
theorem exists_ends_one (e : Element PartialRef)
    (bounded : ∀ ref ∈ e.targets, ∃ fuel, lib.Ends fuel home [.reference ref]) :
    ∃ fuel, lib.Ends fuel home [e] := by
  match e with
  | .text _ | .escaped _ | .raw _ =>
    refine ⟨1, fun c _ => ?_⟩
    rw [forest_one]
    exact Schedule.ended_ofText _
  | .block path children =>
    obtain ⟨fuel, ends⟩ := exists_ends children bounded
    exact ⟨fuel + 1, ends.block path⟩
  | .inverted path children =>
    obtain ⟨fuel, ends⟩ := exists_ends children bounded
    exact ⟨fuel + 1, ends.inverted path⟩
  | .reference ref => exact bounded ref List.mem_cons_self

theorem exists_ends (elements : Forest PartialRef)
    (bounded : ∀ ref ∈ elements.targets, ∃ fuel, lib.Ends fuel home [.reference ref]) :
    ∃ fuel, lib.Ends fuel home elements := by
  match elements with
  | [] => exact ⟨1, fun _ _ => rfl⟩
  | first :: rest =>
    obtain ⟨fuel, here⟩ := exists_ends_one first fun ref member =>
      bounded ref (List.mem_append_left _ member)
    obtain ⟨fuel', later⟩ := exists_ends rest fun ref member =>
      bounded ref (List.mem_append_right _ member)
    exact ⟨max fuel fuel', (here.mono (le_max_left ..)).cons (later.mono (le_max_right ..))⟩

end

theorem exists_ends_reference (inside : ∀ body, lib.body? (home, ref.slot) = some body →
    ∃ fuel, lib.Ends fuel body.home body.elements) :
    ∃ fuel, lib.Ends fuel home [.reference ref] := by
  cases stands : lib.body? (home, ref.slot) with
  | none => exact ⟨1, @Ends.reference lib home ref 0 (by simp [stands])⟩
  | some body =>
    obtain ⟨fuel, ends⟩ := inside body stands
    exact ⟨fuel + 1, Ends.reference (by simpa [stands] using ends)⟩

/-- What stands in a slot is walked in bounded depth: by induction on the slots that references
lead to from there. -/
theorem Acyclic.exists_ends_body (acyclic : lib.Acyclic t) (site : {site // lib.Visited t site})
    (stands : lib.body? site.1 = some body) : ∃ fuel, lib.Ends fuel body.home body.elements := by
  induction site using acyclic.wellFounded.induction generalizing body with
  | h site ih =>
    obtain ⟨⟨home, slot⟩, ⟨ref, met, same⟩, _⟩ := site
    obtain rfl : ref.slot = slot := same
    refine exists_ends body.elements fun next member => exists_ends_reference fun inner there => ?_
    have visited : lib.Visited t (body.home, next.slot) :=
      ⟨⟨next, met.of_body stands member, rfl⟩, by rw [there, Option.isSome_some]⟩
    exact ih ⟨_, visited⟩ ⟨body, stands, next, member, rfl⟩ there

/-- What is walked with a template nests in bounded depth. -/
theorem Acyclic.exists_ends (acyclic : lib.Acyclic t) :
    ∃ fuel, lib.Ends fuel t.home t.elements := by
  refine Library.exists_ends t.elements fun ref member =>
    exists_ends_reference fun body stands => ?_
  have visited : lib.Visited t (t.home, ref.slot) :=
    ⟨⟨ref, ⟨t, .self, rfl, member⟩, rfl⟩, by rw [stands, Option.isSome_some]⟩
  exact acyclic.exists_ends_body ⟨_, visited⟩ stands

/-- If references do not lead in a circle and no partial is supplied as code, then there is a bound
on how deeply the walk over a template nests, which is the same for all contexts without endless
data. Within this bound both ways of rendering come to their end: what happens can be told as a
series of events, of which a text gets the characters; a sink gets all of them and a last flush. -/
theorem exists_bound_of_acyclic (acyclic : lib.Acyclic t)
    (templates : ∀ custom, ¬ lib.Visits t custom) :
    ∃ bound, ∀ context : Context, context.IsFinite → ∃ events : List Event, ∀ extra,
      (∀ out, lib.renderOnto (bound + extra) out t context =
        some (out ++ String.ofList (Event.chars events))) ∧
      ∀ {σ ε : Type} (sink : Sink σ ε), lib.stream (bound + extra) sink t context =
        Walk.call (sink.performAll (Event.plan events)) := by
  obtain ⟨bound, ends⟩ := acyclic.exists_ends
  refine ⟨bound, fun context finite => ?_⟩
  obtain ⟨tree, yields⟩ :=
    exists_yields templates (fun _ refers => ⟨t, .self, rfl, refers⟩) (ends context finite)
  obtain ⟨enough, planned⟩ := yields.plans
  have planned := planned.mono bound
  rw [Nat.add_comm] at planned
  refine ⟨Happening.eventsAll tree, fun extra => ?_⟩
  have plans := (planned.of_more (ends context finite)).mono extra
  refine ⟨fun out => renderOnto_eq_some_iff.mpr ?_, fun sink => ?_⟩
  · rw [plans.emits, Event.performAll, Walk.call, Sink.performAll_string, Event.sent_calls]
  · exact stream_of_emits (fun sink => plans.emits sink) sink

/-- The partials of two parsers: a row refers twice to a cell, which is a template of the other
parser and refers to a mark there. -/
def table : Library :=
  let resolver : Resolver := .table [] (.missing "unknown")
  ⟨[⟨resolver, ⟨[("row", 0), ("cell", 1)],
      [⟨"row", some (.parsed [.block "." [.reference ⟨"cell", 1⟩, .reference ⟨"cell", 1⟩]])⟩,
        ⟨"cell", some (.registered (.template
          ⟨[.escaped ".", .reference ⟨"mark", 0⟩], some 1⟩))⟩]⟩⟩,
    ⟨resolver, ⟨[("mark", 0)], [⟨"mark", some (.parsed [.text ";"])⟩]⟩⟩]⟩

/-- A section of rows. -/
def tabled : Template := ⟨[.block "rows" [.reference ⟨"row", 0⟩]], some 0⟩

/-- A stream of a sequence and a map. -/
def tableData : Context :=
  .root (.map [("rows",
    .stream ⟨0, "rows"⟩ (.finite [.seq [.int 1, .int 2], .map [("k", .null)]]))])

theorem table_refers {site next : Site} (refers : table.Refers site next) :
    (site = (some 0, 0) ∧ next = (some 0, 1)) ∨ (site = (some 0, 1) ∧ next = (some 1, 0)) := by
  obtain ⟨body, stands, ref, member, rfl⟩ := refers
  match site with
  | (none, _) | (some (_ + 2), _) | (some 0, _ + 2) | (some 1, _ + 1) => cases stands
  | (some 0, 0) =>
    cases stands
    obtain rfl : ref = ⟨"cell", 1⟩ := by
      simpa [Forest.targets, Element.targetsAll, Element.targets] using member
    exact .inl ⟨rfl, rfl⟩
  | (some 0, 1) =>
    cases stands
    obtain rfl : ref = ⟨"mark", 0⟩ := by
      simpa [Forest.targets, Element.targetsAll, Element.targets] using member
    exact .inr ⟨rfl, rfl⟩
  | (some 1, 0) =>
    cases stands
    cases member

theorem table_templates {home : Option ParserId} {slot : Nat} {custom : Custom}
    (holds : table.content? home slot = some (.registered (.custom custom))) : False := by
  match home, slot with
  | none, _ | some (_ + 2), _ | some 0, _ + 2 | some 1, _ + 1 => cases holds
  | some 0, 0 | some 0, 1 | some 1, 0 => cases holds

theorem tableData_isFinite : tableData.IsFinite := by
  have row (value : Value) (member : value ∈ [.seq [.int 1, .int 2], .map [("k", .null)]]) :
      value.IsFinite := by
    rcases List.mem_pair.mp member with rfl | rfl
    · refine .seq fun item inside => ?_
      rcases List.mem_pair.mp inside with rfl | rfl <;> exact .scalar (.int _)
    · refine .map fun entry inside => ?_
      rw [List.mem_singleton.mp inside]
      exact .null
  intro f member
  rw [List.mem_singleton.mp member]
  refine .map fun entry inside => ?_
  rw [List.mem_singleton.mp inside]
  exact .stream row

/-- The rows come to their end, with as much fuel as one likes beyond the bound. -/
theorem exists_bound_table :
    table.Acyclic tabled ∧ (∀ custom, ¬ table.Visits tabled custom) ∧ tableData.IsFinite ∧
      ∃ bound, ∀ extra, table.render (bound + extra) tabled tableData =
        some "1;1;2;2;k=null;k=null;" := by
  have acyclic : table.Acyclic tabled := by
    refine acyclic_of_rank (fun site => if site = (some 0, 0) then 2 else
      if site = (some 0, 1) then 1 else 0) fun site next refers => ?_
    rcases table_refers refers with ⟨rfl, rfl⟩ | ⟨rfl, rfl⟩ <;> decide
  have templates (custom : Custom) : ¬ table.Visits tabled custom := by
    rintro ⟨_, _, _, holds⟩
    exact table_templates holds
  obtain ⟨bound, bounded⟩ := exists_bound_of_acyclic acyclic templates
  obtain ⟨events, ends⟩ := bounded tableData tableData_isFinite
  have rendered : table.render 9 tabled tableData = some "1;1;2;2;k=null;k=null;" := by cbv
  refine ⟨acyclic, templates, tableData_isFinite, bound, fun extra => ?_⟩
  have later := renderOnto_mono rendered (bound + extra)
  rw [Nat.add_comm, Nat.add_assoc, (ends _).1] at later
  rw [render, (ends extra).1, later]

end Library
end Mustache
