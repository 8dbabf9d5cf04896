import Mathlib
import Mustache.Partial.Ready
import Mustache.Proofs.Render.Agreement
import Mustache.Proofs.Render.Closure
/-!
The two halves of partials supplied as code. Rendering into a text runs the half for sinks, on a
sink that stands for the text. Main statement: what such a partial adds to a rendered text is what
its half for sinks sends, so it is what its half for texts appends, for every template and context,
exactly if the two halves of every registered partial agree.
-/
namespace Mustache

/-- What a move adds to a text, given what partials add in a context with some fuel left. -/
inductive Move.Adds (half : Custom → Context → Nat → String → Prop) : Move → String → Prop where
  | feed (c : Char) : Adds half (.feed c) (String.singleton c)
  | flush : Adds half .flush ""
  | visit {custom : Custom} {context : Context} {fuel : Nat} {text : String} :
      half custom context fuel text → Adds half (.visit custom context fuel) text

/-- What moves add one after another. -/
inductive Inserted (half : Custom → Context → Nat → String → Prop) : List Move → String → Prop where
  | nil : Inserted half [] ""
  | cons {move : Move} {rest : List Move} {added text : String} : move.Adds half added →
      Inserted half rest text → Inserted half (move :: rest) (added ++ text)

theorem Inserted.imp {half half' : Custom → Context → Nat → String → Prop} {moves : List Move}
    {text : String} (inserted : Inserted half moves text)
    (implies : ∀ c context fuel text, .visit c context fuel ∈ moves →
      half c context fuel text → half' c context fuel text) : Inserted half' moves text := by
  induction inserted with
  | nil => exact .nil
  | @cons move rest added text adds _ ih =>
    have later := ih fun c context fuel text member => implies c context fuel text (.tail _ member)
    refine .cons ?_ later
    cases adds with
    | feed c => exact .feed c
    | flush => exact .flush
    | visit holds => exact .visit (implies _ _ _ _ List.mem_cons_self holds)

namespace Library

variable {lib : Library} {t : Template} {context : Context} {c : Custom} {fuel : Nat}

/-- What the half for sinks sends to a text, with so much fuel. -/
def SendsWithin (lib : Library) (c : Custom) (context : Context) (fuel : Nat) (text : String) :
    Prop :=
  Walk.custom (Walk.forest lib fuel) Sink.string (c.output context) "" = .ok () text

/-- What the half for sinks sends to a text. -/
def Sends (lib : Library) (c : Custom) (context : Context) (text : String) : Prop :=
  ∃ fuel, lib.SendsWithin c context fuel text

/-- What the half for texts appends. -/
def Appends (lib : Library) (c : Custom) (context : Context) (text : String) : Prop :=
  ∃ fuel, (c.append context).onto? (lib.render fuel) "" = some text

/-- A text goes on from another one with what a walk over the template adds, if partials add what
`half` says. -/
def RendersThrough (lib : Library) (half : Custom → Context → String → Prop) (t : Template)
    (context : Context) (out text : String) : Prop :=
  ∃ fuel added, (lib.schedule fuel t context).ended = true ∧
    Inserted (fun c context _ => half c context) (lib.schedule fuel t context).moves added ∧
    text = out ++ added

/-- Whether a partial is registered in the library. -/
def Registers (lib : Library) (c : Custom) : Prop :=
  ∃ home slot, lib.content? home slot = some (.registered (.custom c))

/-- Two texts of which one goes on from another text. -/
theorem string_lockstep (out : String) :
    Lockstep Sink.string Sink.string (fun s t => t = out ++ s) Eq where
  ready := .pure ()
  send c := by
    rintro s t rfl
    refine .ok () ?_
    simp [← String.toList_inj]
  flush := .pure ()
  close := .pure ()
  remark _ _ _ same := same

/-- What is sent does not depend on what the text holds before. -/
theorem custom_string_iff {out last : String} :
    Walk.custom (Walk.forest lib fuel) Sink.string (c.output context) out = .ok () last ↔
      ∃ text, lib.SendsWithin c context fuel text ∧ last = out ++ text := by
  have follows := Walk.custom_follows (leads_self lib fuel) (string_lockstep out)
    (c.output context) (fun _ _ _ _ => trivial)
  have agree := follows "" out (String.append_empty).symm
  unfold SendsWithin
  generalize Walk.custom (Walk.forest lib fuel) Sink.string (c.output context) "" = result,
    Walk.custom (Walk.forest lib fuel) Sink.string (c.output context) out = result' at agree ⊢
  cases agree with
  | ok _ longer =>
    subst longer
    constructor
    · rintro ⟨⟩
      exact ⟨_, rfl, rfl⟩
    · rintro ⟨text, ⟨⟩, rfl⟩
      rfl
  | error _ _ => simp
  | starved impossible => exact impossible.1.elim

theorem SendsWithin.more {text : String} (sends : lib.SendsWithin c context fuel text)
    (extra : Nat) : lib.SendsWithin c context (fuel + extra) text := by
  have follows := Walk.custom_follows (leads_more lib fuel extra) (Lockstep.refl Sink.string)
    (c.output context) (fun _ _ _ _ => trivial)
  have agree := follows "" "" rfl
  rw [sends] at agree
  obtain ⟨_, ends, rfl⟩ := agree.of_ok
  exact ends

/-- A move made on a text appends what it adds. -/
theorem perform_string_iff {move : Move} {out last : String} :
    move.perform lib Sink.string out = .ok () last ↔
      ∃ added, move.Adds lib.SendsWithin added ∧ last = out ++ added := by
  cases move with
  | feed c =>
    have longer : out.push c = out ++ String.singleton c := by simp
    constructor
    · rintro ⟨⟩
      exact ⟨_, .feed c, longer⟩
    · rintro ⟨added, ⟨⟩, rfl⟩
      rw [← longer]
      rfl
  | flush =>
    constructor
    · rintro ⟨⟩
      exact ⟨"", .flush, String.append_empty.symm⟩
    · rintro ⟨added, ⟨⟩, rfl⟩
      rw [String.append_empty]
      rfl
  | visit c context fuel =>
    refine custom_string_iff.trans ⟨?_, ?_⟩
    · rintro ⟨text, sends, rfl⟩
      exact ⟨text, .visit sends, rfl⟩
    · rintro ⟨added, adds, rfl⟩
      cases adds with
      | visit sends => exact ⟨added, sends, rfl⟩

/-- Moves made on a text append what they add. -/
theorem each_string_iff {moves : List Move} {out last : String} :
    Walk.each (Move.perform lib Sink.string) moves out = .ok () last ↔
      ∃ added, Inserted lib.SendsWithin moves added ∧ last = out ++ added := by
  induction moves generalizing out with
  | nil =>
    constructor
    · rintro ⟨⟩
      exact ⟨"", .nil, String.append_empty.symm⟩
    · rintro ⟨added, ⟨⟩, rfl⟩
      rw [String.append_empty]
      rfl
  | cons move rest ih =>
    simp only [Walk.each, Bind.bind, EStateM.bind]
    constructor
    · intro ends
      cases ran : move.perform lib Sink.string out with
      | error halt middle =>
        rw [ran] at ends
        cases ends
      | ok _ middle =>
        rw [ran] at ends
        obtain ⟨added, adds, rfl⟩ := perform_string_iff.mp ran
        obtain ⟨later, inserted, rfl⟩ := ih.mp ends
        exact ⟨added ++ later, .cons adds inserted, String.append_assoc ..⟩
    · rintro ⟨_, inserted, rfl⟩
      cases inserted with
      | @cons _ _ added later adds inserted =>
        rw [perform_string_iff.mpr ⟨added, adds, rfl⟩]
        exact ih.mpr ⟨later, inserted, (String.append_assoc ..).symm⟩

theorem renderOnto_iff_inserted {out text : String} :
    lib.renderOnto fuel out t context = some text ↔
      (lib.schedule fuel t context).ended = true ∧
        ∃ added, Inserted lib.SendsWithin (lib.schedule fuel t context).moves added ∧
          text = out ++ added := by
  rw [renderOnto_eq_some_iff, Walk.forest_eq_perform, Schedule.perform_eq_ok_iff, each_string_iff]
  rfl

/-- With enough fuel, all partials send what they send. -/
theorem Inserted.within {moves : List Move} {text : String}
    (inserted : Inserted (fun c context _ => lib.Sends c context) moves text) :
    ∃ enough, ∀ extra, enough ≤ extra →
      Inserted lib.SendsWithin (moves.map (Move.more extra)) text := by
  induction inserted with
  | nil => exact ⟨0, fun _ _ => .nil⟩
  | @cons move rest added text adds _ ih =>
    obtain ⟨enough, later⟩ := ih
    cases adds with
    | feed c => exact ⟨enough, fun extra le => .cons (.feed c) (later extra le)⟩
    | flush => exact ⟨enough, fun extra le => .cons .flush (later extra le)⟩
    | @visit c context left _ sends =>
      obtain ⟨fuel, sends⟩ := sends
      refine ⟨max enough fuel, fun extra le => ?_⟩
      refine .cons (.visit ?_) (later extra (Nat.le_trans (Nat.le_max_left ..) le))
      have room : fuel ≤ left + extra :=
        Nat.le_trans (Nat.le_trans (Nat.le_max_right ..) le) (Nat.le_add_left ..)
      obtain ⟨spare, same⟩ := Nat.exists_eq_add_of_le room
      rw [same]
      exact sends.more spare

/-- What a partial adds to a rendered text is what its half for sinks sends. -/
theorem renders_iff_sends {out text : String} :
    lib.Renders t context out text ↔ lib.RendersThrough lib.Sends t context out text := by
  constructor
  · rintro ⟨fuel, rendered⟩
    obtain ⟨ended, added, inserted, same⟩ := renderOnto_iff_inserted.mp rendered
    exact ⟨fuel, added, ended, inserted.imp fun _ _ left _ _ sends => ⟨left, sends⟩, same⟩
  · rintro ⟨fuel, added, ended, inserted, same⟩
    obtain ⟨extra, within⟩ := Inserted.within inserted
    refine ⟨fuel + extra, renderOnto_iff_inserted.mpr ?_⟩
    rw [schedule, Schedule.forest_more lib extra ended]
    exact ⟨ended, added, within extra (Nat.le_refl extra), same⟩

/-- Halves that agree for all partials that a template visits can take each other's place. -/
theorem rendersThrough_congr {half half' : Custom → Context → String → Prop}
    (agree : ∀ c, lib.Visits t c → ∀ context text, half c context text ↔ half' c context text)
    {out text : String} :
    lib.RendersThrough half t context out text ↔ lib.RendersThrough half' t context out text := by
  constructor
  · rintro ⟨fuel, added, ended, inserted, same⟩
    refine ⟨fuel, added, ended, inserted.imp fun c around _ text member => ?_, same⟩
    exact (agree c (visits_of_mem_schedule member) around text).mp
  · rintro ⟨fuel, added, ended, inserted, same⟩
    refine ⟨fuel, added, ended, inserted.imp fun c around _ text member => ?_, same⟩
    exact (agree c (visits_of_mem_schedule member) around text).mpr

/-- A reference alone renders what the partial adds. -/
theorem rendersThrough_reference {half : Custom → Context → String → Prop}
    {home : Option ParserId} {ref : PartialRef}
    (holds : lib.content? home ref.slot = some (.registered (.custom c))) {text : String} :
    lib.RendersThrough half ⟨[.reference ref], home⟩ context "" text ↔ half c context text := by
  have alone (fuel : Nat) : lib.schedule (fuel + 1) ⟨[.reference ref], home⟩ context =
      ⟨[.visit c context fuel], true⟩ := by
    simp only [schedule, Schedule.forest, Schedule.each, Schedule.element, holds]
    rfl
  constructor
  · rintro ⟨fuel, added, ended, inserted, rfl⟩
    cases fuel with
    | zero => cases ended
    | succ fuel =>
      rw [alone] at inserted
      cases inserted with
      | cons adds rest =>
        cases adds with
        | visit sends =>
          cases rest
          simpa using sends
  · intro adds
    refine ⟨1, text ++ "", by rw [alone], ?_, by simp⟩
    rw [alone]
    exact .cons (.visit adds) .nil

theorem emit_string (cs : List Char) (out : String) :
    Walk.emit Sink.string cs out = .ok () (out ++ String.ofList cs) := by
  induction cs generalizing out with
  | nil => simp [Walk.emit, Pure.pure, EStateM.pure]
  | cons c rest ih =>
    have longer : out.push c ++ String.ofList rest = out ++ String.ofList (c :: rest) := by
      simp [← String.toList_inj]
    rw [← longer]
    exact ih (out.push c)

/-- A partial given by its half for texts sends what it appends. -/
theorem sends_ofAppend_iff {append : Context → Writing} {text : String} :
    lib.Sends (.ofAppend append) context text ↔ lib.Appends (.ofAppend append) context text := by
  refine exists_congr fun fuel => ?_
  have half : (Custom.ofAppend append).append context = append context := rfl
  rw [SendsWithin, custom_ofAppend, half]
  cases (append context).onto? (lib.render fuel) "" with
  | none => exact ⟨nofun, nofun⟩
  | some written => simp [emit_string]

/-- A partial adds to a rendered text what its half for sinks sends. So all rendered texts are those
that the halves for texts make exactly if the two halves of every registered partial agree, which
they do if the partial is given by its half for texts alone. -/
theorem renders_appended_iff_agree (lib : Library) :
    (∀ t context out text,
      lib.Renders t context out text ↔ lib.RendersThrough lib.Sends t context out text) ∧
    ((∀ t context out text,
        lib.Renders t context out text ↔ lib.RendersThrough lib.Appends t context out text) ↔
      ∀ c, lib.Registers c → ∀ context text,
        lib.Sends c context text ↔ lib.Appends c context text) ∧
    ∀ append context text, lib.Sends (.ofAppend append) context text ↔
      lib.Appends (.ofAppend append) context text := by
  refine ⟨fun t context out text => renders_iff_sends, ⟨?_, ?_⟩,
    fun append context text => sends_ofAppend_iff⟩
  · rintro appended c ⟨home, slot, holds⟩ context text
    have holds : lib.content? home (PartialRef.mk "" slot).slot = some (.registered (.custom c)) :=
      holds
    let alone : Template := ⟨[.reference ⟨"", slot⟩], home⟩
    calc lib.Sends c context text
        ↔ lib.RendersThrough lib.Sends alone context "" text :=
          (rendersThrough_reference holds).symm
      _ ↔ lib.Renders alone context "" text := renders_iff_sends.symm
      _ ↔ lib.RendersThrough lib.Appends alone context "" text := appended alone context "" text
      _ ↔ lib.Appends c context text := rendersThrough_reference holds
  · intro agree t context out text
    rw [renders_iff_sends]
    refine rendersThrough_congr fun c ⟨home, ref, _, holds⟩ => ?_
    exact agree c ⟨home, ref.slot, holds⟩

/-- A partial that writes `a` to a text, and sends an `S` after it to a sink. -/
def sending : Custom := .scripted [.text "a", .send "S"] false

theorem sending_renders :
    (ofPartials [("s", .custom sending)]).Renders ⟨[.reference ⟨"s", 0⟩], some 0⟩ (.root .null) ""
      "aS" := ⟨2, by cbv⟩

/-- A rendered text can hold what the half for texts does not append. -/
theorem sending_not_appended :
    ¬ ∀ t context out text, (ofPartials [("s", .custom sending)]).Renders t context out text ↔
      (ofPartials [("s", .custom sending)]).RendersThrough
        (ofPartials [("s", .custom sending)]).Appends t context out text := by
  intro appended
  have through := (appended _ _ _ _).mp sending_renders
  have holds : (ofPartials [("s", .custom sending)]).content? (some 0) 0 =
      some (.registered (.custom sending)) := rfl
  obtain ⟨fuel, appends⟩ := (rendersThrough_reference holds).mp through
  have written : (sending.append (.root .null)).onto?
      ((ofPartials [("s", .custom sending)]).render fuel) "" = some "a" := rfl
  rw [written] at appends
  exact absurd appends (by decide)

end Library

end Mustache
