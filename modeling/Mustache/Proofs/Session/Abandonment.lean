import Mathlib
import Mustache.Proofs.Render.Outcome
import Mustache.Proofs.Session.Soundness
/-!
Slots that are never filled. A parse that fails takes the names it could not bind off their slots
again, but bodies of other partials may have been bound to such a slot in the meantime; they stay,
and so does their reference to a slot that nothing fills any more. Main statement: the references
that a template reaches all stand for something exactly if none of them points to a slot that an
operation has abandoned in this way; if no parse fails, there are no such slots.
-/
namespace Mustache

namespace Library

/-- A library in which every filled slot of another one holds the same. -/
def Fills (after before : Library) : Prop :=
  ∀ home slot content, before.content? home slot = some content →
    after.content? home slot = some content

/-- Nothing that an empty slot could hold makes a difference to a template that is fully bound. -/
theorem FullyBound.rendersAlike {lib lib' : Library} {t : Template} (bound : lib.FullyBound t)
    (fills : lib'.Fills lib) : lib.RendersAlike lib' t := by
  let reached (home : Option ParserId) (ref : PartialRef) : Prop :=
    ∃ u, lib.Reaches t u ∧ u.home = home ∧ ref ∈ u.elements.targets
  have matched : Walk.Matches lib lib' reached := by
    constructor
    · rintro home ref ⟨u, reaches, rfl, member⟩
      obtain ⟨content, holds⟩ := Option.isSome_iff_exists.mp (bound u reaches ref member)
      rw [holds, fills u.home ref.slot content holds]
    · rintro home ref content ⟨u, reaches, rfl, member⟩ holds
      cases content with
      | parsed elements => exact fun inner inside => ⟨_, reaches.body member holds, rfl, inside⟩
      | registered value =>
        exact fun v has inner inside => ⟨v, reaches.registered member holds has, rfl, inside⟩
  exact Library.rendersAlike matched fun ref member => ⟨t, .self, rfl, member⟩

end Library

namespace Session

variable {s : Session}

/-- Whether an operation makes a slot and leaves it behind without its name. -/
def Abandons (s : Session) (op : Operation) (id : ParserId) (index : Nat) : Prop :=
  ∃ before after slot, s.library.parser? id = some before ∧
    (s.step op).library.parser? id = some after ∧ before.registry.slots.length ≤ index ∧
    after.registry.slots[index]? = some slot ∧ after.registry.index? slot.name ≠ some index

/-- Whether one of the operations abandons a slot. -/
def Abandoned (s : Session) (id : ParserId) (index : Nat) : List Operation → Prop
  | [] => False
  | op :: rest => s.Abandons op id index ∨ (s.step op).Abandoned id index rest

theorem abandons_iff {op : Operation} {id : ParserId} {before after : Parser} {index : Nat}
    {slot : Slot} (known : s.library.parser? id = some before)
    (found : (s.step op).library.parser? id = some after)
    (stands : after.registry.slots[index]? = some slot) :
    s.Abandons op id index ↔
      before.registry.slots.length ≤ index ∧ after.registry.index? slot.name ≠ some index := by
  constructor
  · rintro ⟨earlier, later, other, known', found', new, stands', unmapped⟩
    rw [known] at known'
    cases known'
    rw [found] at found'
    cases found'
    rw [stands] at stands'
    cases stands'
    exact ⟨new, unmapped⟩
  · rintro ⟨new, unmapped⟩
    exact ⟨before, after, slot, known, found, new, stands, unmapped⟩

/-- What an operation leaves, if it is a parse. -/
def outcome? (s : Session) : Operation → Option (Outcome Template)
  | .parse id text => some (s.library.parse s.files id text)
  | .parseBytes id bytes => some (s.library.parseBytes s.files id bytes)
  | .parseFile id path => some (s.library.parseFile s.files id path)
  | .parseByName id name => some (s.library.parseByName s.files id name)
  | _ => none

/-- Whether an operation is a parse that fails. -/
def Fails (s : Session) (op : Operation) : Prop :=
  ∃ outcome fault, s.outcome? op = some outcome ∧ outcome.result = .error fault

section Success

variable (indexed : s.library.Indexed) {op : Operation}
include indexed

theorem make_settles {id : ParserId} {act : Parser → Parsing (Forest PartialRef)}
    (extended : ∀ p : Parser, p.registry.Indexed → (act p).Extends p)
    (succeeds : ∀ fault, (s.library.make id act).result ≠ .error fault) :
    s.library.Settles (s.library.make id act).library := by
  unfold Library.make at succeeds ⊢
  split
  · exact .refl _
  · rename_i parser found
    rw [found] at succeeds
    cases ran : (act parser).result with
    | error fault => exact (succeeds fault (by simp only [ran, Except.map])).elim
    | ok elements =>
      exact .replace found ((extended parser (indexed id parser found)).settles elements ran)

/-- An operation that does not fail leaves every slot it makes in use. -/
theorem step_settles (succeeds : ¬ s.Fails op) : s.library.Settles (s.step op).library := by
  have made {outcome : Outcome Template} (same : s.outcome? op = some outcome) (fault : Fault) :
      outcome.result ≠ .error fault := fun failed => succeeds ⟨outcome, fault, same, failed⟩
  cases op with
  | newParser resolver => exact .add _ _
  | parse id text =>
    exact make_settles indexed (fun p ok => Parser.parse_extends ok text) (made rfl)
  | parseBytes id bytes =>
    exact make_settles indexed (fun p ok => Parser.parseBytes_extends ok bytes) (made rfl)
  | parseFile id path =>
    exact make_settles indexed (fun p ok => Parser.parseFile_extends ok path) (made rfl)
  | parseByName id name =>
    exact make_settles indexed (fun p ok => Parser.parseByName_extends ok name) (made rfl)
  | addPartial id name value => exact .update fun p => Parser.addPartial_settles p name value
  | setExtension id value =>
    refine .update fun p => ?_
    unfold Parser.setExtension
    cases p.resolver.setExtension value <;> exact .refl _
  | setSource id name source => exact .update fun p => .refl _
  | setFiles files => exact .refl _

theorem fails_of_abandons {id : ParserId} {index : Nat} (abandons : s.Abandons op id index) :
    s.Fails op := by
  obtain ⟨before, after, slot, known, found, new, stands, unmapped⟩ := abandons
  by_contra succeeds
  exact unmapped (step_settles indexed succeeds id before after known found index slot new stands)

end Success

/-- The slots of a session are filled except for the lost ones. -/
structure Accounts (lost : ParserId → Nat → Prop) (s : Session) : Prop where
  filled : ∀ id parser index slot, s.library.parser? id = some parser →
    parser.registry.slots[index]? = some slot → (slot.content.isSome ↔ ¬ lost id index)
  stand : ∀ id index, lost id index → ∃ parser, s.library.parser? id = some parser ∧
    index < parser.registry.slots.length

theorem start_accounts : start.Accounts fun _ _ => False where
  filled id parser index slot found := by cases found
  stand _ _ impossible := impossible.elim

/-- An operation loses the slots it abandons and no others. -/
theorem step_accounts {lost : ParserId → Nat → Prop} (accounts : s.Accounts lost)
    (indexed : s.library.Indexed) (op : Operation) :
    (s.step op).Accounts fun id index => lost id index ∨ s.Abandons op id index where
  filled id after index slot found stands := by
    obtain ⟨before, known, side⟩ := (step_advances indexed op).library.slot found stands
    rw [abandons_iff known found stands]
    rcases side with old | ⟨new, mapped⟩
    · have inside := (List.getElem?_eq_some_iff.mp old).1
      rw [accounts.filled id before index slot known old]
      exact not_congr (or_iff_left fun both => by omega).symm
    · have kept : ¬ lost id index := by
        intro earlier
        obtain ⟨parser, same, inside⟩ := accounts.stand id index earlier
        rw [known] at same
        cases same
        omega
      rw [mapped]
      simp [kept, new]
  stand id index either := by
    rcases either with earlier | ⟨before, after, slot, _, found, _, stands, _⟩
    · obtain ⟨parser, found, inside⟩ := accounts.stand id index earlier
      obtain ⟨later, found, grown⟩ := (step_advances indexed op).library.extends id parser found
      exact ⟨later, found, Nat.lt_of_lt_of_le inside grown.length_le⟩
    · exact ⟨after, found, (List.getElem?_eq_some_iff.mp stands).1⟩

theorem run_accounts {other : Option ParserId → PartialRef → Prop} {lawful : Template → Prop}
    (accepts : ∀ t, lawful t → t.Within other) {lost : ParserId → Nat → Prop} {ops : List Operation}
    (accounts : s.Accounts lost) (sound : s.Sound other) (rules : s.Lawful lawful ops) :
    (s.run ops).Accounts fun id index => lost id index ∨ s.Abandoned id index ops := by
  induction ops generalizing s lost with
  | nil => simpa [Abandoned] using accounts
  | cons op rest ih =>
    have registered := fun value given t has =>
      (rules.1 value given t has).imp_right (accepts t)
    have later := (step_advances sound.indexed op).sound sound registered
    simpa [Abandoned, or_assoc] using
      ih (step_accounts accounts sound.indexed op) later rules.2

/-- The references that a template of a sound session reaches stand for something exactly if none of
them points to a lost slot. -/
theorem fullyBound_iff_not_lost {lost : ParserId → Nat → Prop} (accounts : s.Accounts lost)
    (sound : s.Sound fun _ _ => False) {t : Template} (made : t ∈ s.templates) :
    s.library.FullyBound t ↔
      ∀ id index, s.library.ReachesSlot t id index → ¬ lost id index := by
  have within : t.Within (s.library.Knows fun _ _ => False) :=
    (sound.templates t made).imp fun _ _ => .inl
  have filled {u : Template} (reaches : s.library.Reaches t u) {ref : PartialRef}
      (member : ref ∈ u.elements.targets) : ∃ id, u.home = some id ∧
        ((s.library.content? u.home ref.slot).isSome ↔ ¬ lost id ref.slot) := by
    have known :=
      reaches.within within (fun home ref _ _ => sound.closed home ref.slot _) ref member
    obtain ⟨id, parser, here, found, slot, stands, _⟩ := known.resolve_right id
    refine ⟨id, here, ?_⟩
    rw [here, Library.content?_at found, ← accounts.filled id parser ref.slot slot found stands]
    simp [Registry.content?, stands]
  constructor
  · rintro bound id index ⟨u, reaches, here, ref, member, rfl⟩
    obtain ⟨other, there, iff⟩ := filled reaches member
    rw [here] at there
    cases there
    exact iff.mp (bound u reaches ref member)
  · intro kept u reaches ref member
    obtain ⟨id, here, iff⟩ := filled reaches member
    exact iff.mpr (kept id ref.slot ⟨u, reaches, here, ref, member, rfl⟩)

/-- No operation of a session is a parse that fails. -/
def Succeeds (s : Session) : List Operation → Prop
  | [] => True
  | op :: rest => ¬ s.Fails op ∧ (s.step op).Succeeds rest

theorem not_abandoned_of_succeeds (indexed : s.library.Indexed) {ops : List Operation}
    (succeeds : s.Succeeds ops) (id : ParserId) (index : Nat) : ¬ s.Abandoned id index ops := by
  induction ops generalizing s with
  | nil => exact fun impossible => impossible
  | cons op rest ih =>
    rintro (now | later)
    · exact succeeds.1 (fails_of_abandons indexed now)
    · exact ih ((step_advances indexed op).library.indexed indexed) succeeds.2 later

section Runs

variable {ops : List Operation} {t : Template}
  (rules : start.Lawful (fun u => u.elements.targets = []) ops)
  (made : t ∈ (start.run ops).templates)
include rules made

theorem fullyBound_iff_kept : (start.run ops).library.FullyBound t ↔
    ∀ id index, (start.run ops).library.ReachesSlot t id index →
      ¬ start.Abandoned id index ops := by
  have accepts (u : Template) (bare : u.elements.targets = []) : u.Within fun _ _ => False := by
    intro ref member
    rw [bare] at member
    cases member
  have sound := (run_sound accepts (start_sound _) rules).1
  have accounts := run_accounts accepts start_accounts (start_sound _) rules
  simp only [false_or] at accounts
  exact fullyBound_iff_not_lost accounts sound made

/-- A template that a parse has made in a session is fully bound exactly if no slot that it reaches
was abandoned, and then nothing that the empty slots could hold makes a difference to its rendering.
The partials registered in the session may use templates that its parses have made before, and
templates without references. -/
theorem fullyBound_iff_not_abandoned :
    ((start.run ops).library.FullyBound t ↔
      ∀ id index, (start.run ops).library.ReachesSlot t id index →
        ¬ start.Abandoned id index ops) ∧
    ((start.run ops).library.FullyBound t → ∀ lib : Library, lib.Fills (start.run ops).library →
      (start.run ops).library.RendersAlike lib t) :=
  ⟨fullyBound_iff_kept rules made, fun bound _ => bound.rendersAlike⟩

/-- As long as no parse fails, every template is fully bound. -/
theorem fullyBound_of_succeeds (succeeds : start.Succeeds ops) :
    (start.run ops).library.FullyBound t := by
  have indexed : start.library.Indexed := (start_sound fun _ _ => False).indexed
  refine (fullyBound_iff_kept rules made).mpr fun id index _ => ?_
  exact not_abandoned_of_succeeds indexed succeeds id index

end Runs

/-- What a parser makes of its first file is fully bound. -/
theorem fullyBound_of_parseFile {files : Files} {resolver : Resolver} {path : String} {t : Template}
    {lib : Library} {asked : List String}
    (parsed : (Library.empty.add (.ofResolver resolver)).parseFile files Library.empty.next path =
      ⟨.ok t, lib, asked⟩) : lib.FullyBound t := by
  let ops : List Operation := [.setFiles files, .newParser resolver, .parseFile 0 path]
  have ran : start.run ops = (start.run (ops.take 2)).keep ⟨.ok t, lib, asked⟩ :=
    congrArg (start.run (ops.take 2)).keep parsed
  have rules : start.Lawful (fun u => u.elements.targets = []) ops := by
    simp [ops, Lawful, Operation.Registers]
  have succeeds : start.Succeeds ops := by
    refine ⟨?_, ?_, ?_, trivial⟩
    · rintro ⟨_, _, none, _⟩
      cases none
    · rintro ⟨_, _, none, _⟩
      cases none
    · rintro ⟨outcome, fault, same, failed⟩
      obtain rfl : ⟨.ok t, lib, asked⟩ = outcome := parsed.symm.trans (Option.some.inj same)
      cases failed
  have made : t ∈ (start.run ops).templates := by
    rw [ran]
    exact List.mem_cons_self
  have bound := fullyBound_of_succeeds rules made succeeds
  rwa [ran] at bound

section HalfBound

/-- Partials `a` and `b` refer to each other, and `a` to a name without a source as well. The first
parse fails; the source of `a` is repaired; a later parse refers to `b`. -/
def halfBound : List Operation :=
  [.newParser (.table [("a", .text "{{>b}}{{>c}}"), ("b", .text "[{{>a}}]")] (.missing "unknown")),
    .parse 0 "{{>a}}", .setSource 0 "a" (.text "A"), .parse 0 "{{>b}}"]

/-- What the last parse makes. -/
def halfBoundTemplate : Template := ⟨[.reference ⟨"b", 1⟩], some 0⟩

theorem halfBound_lawful (other : Template → Prop) : start.Lawful other halfBound := by
  simp [halfBound, Lawful, Operation.Registers]

theorem halfBound_made : (start.run halfBound).templates = [halfBoundTemplate] := by cbv

/-- The slot that the first parse reserved for `a` is not filled any more, and the body of `b` still
points to it. -/
theorem halfBound_unbound : ¬ (start.run halfBound).library.FullyBound halfBoundTemplate := by
  have body : (start.run halfBound).library.content? (some 0) 1 =
      some (.parsed [.text "[", .reference ⟨"a", 0⟩, .text "]"]) := by cbv
  have empty : (start.run halfBound).library.content? (some 0) 0 = none := by cbv
  intro bound
  have filled : ((start.run halfBound).library.content? (some 0) 0).isSome :=
    bound _ (.body .self (List.mem_singleton.mpr rfl) body) ⟨"a", 0⟩ (by simp)
  rw [empty] at filled
  cases filled

/-- What the template lacks is a slot that was abandoned. -/
theorem halfBound_abandoned : ∃ id index,
    (start.run halfBound).library.ReachesSlot halfBoundTemplate id index ∧
      start.Abandoned id index halfBound := by
  have made : halfBoundTemplate ∈ (start.run halfBound).templates := by
    rw [halfBound_made]
    exact List.mem_singleton_self _
  have condition := (fullyBound_iff_not_abandoned (halfBound_lawful _) made).1
  have lacks := mt condition.mpr halfBound_unbound
  simp only [Classical.not_forall, Classical.not_not] at lacks
  obtain ⟨id, index, reaches, lost⟩ := lacks
  exact ⟨id, index, reaches, lost⟩

/-- A parse makes a template that is not fully bound, and a partial is dropped silently. -/
theorem halfBound_drops : start.Lawful (fun _ => False) halfBound ∧
    halfBoundTemplate ∈ (start.run halfBound).templates ∧
    ¬ (start.run halfBound).library.FullyBound halfBoundTemplate ∧
    (start.run halfBound).library.render 9 halfBoundTemplate (.root .null) = some "[]" := by
  refine ⟨halfBound_lawful _, ?_, halfBound_unbound, by cbv⟩
  rw [halfBound_made]
  exact List.mem_singleton_self _

end HalfBound

end Session

end Mustache
