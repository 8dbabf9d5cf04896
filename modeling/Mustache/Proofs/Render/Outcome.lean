import Mustache.Proofs.Render.Simulation
import Mustache.Render.Basic
/-!
What the outcome of a render depends on. Main statements: a template renders the same way in two
libraries in which its references mean the same, whatever the fuel, the context and the sink; and an
outcome that some fuel suffices for is the outcome of every larger fuel.
-/
namespace Mustache

variable {σ ε : Type}

theorem Walk.Follows.eq {first second : WalkM σ ε Unit}
    (follows : Follows False Eq Eq first second) : first = second := by
  funext s
  have agree := follows s s rfl
  generalize first s = result, second s = result' at agree ⊢
  cases agree with
  | ok a same => rw [same]
  | error failed same =>
    cases failed with
    | sink same_error => rw [same, same_error]
    | exhausted => rw [same]
  | starved impossible => exact impossible.1.elim

namespace Library

variable {lib lib' : Library} {known : Option ParserId → PartialRef → Prop} {t : Template}

/-- A template renders the same way in two libraries: after every text and into every sink, in every
context, with the same outcome for every fuel. -/
def RendersAlike (lib lib' : Library) (t : Template) : Prop :=
  ∀ (fuel : Nat) (context : Context),
    (∀ text, lib.renderOnto fuel text t context = lib'.renderOnto fuel text t context) ∧
    ∀ {σ ε : Type} (sink : Sink σ ε),
      lib.stream fuel sink t context = lib'.stream fuel sink t context

theorem rendersAlike (matched : Walk.Matches lib lib' known) (within : t.Within known) :
    lib.RendersAlike lib' t := by
  intro fuel context
  have leads : Walk.Leads False known (Walk.forest lib fuel) (Walk.forest lib' fuel) :=
    Walk.forest_leads matched fuel 0 (.inr rfl)
  have same {σ ε : Type} (sink : Sink σ ε) :
      Walk.forest lib fuel sink t.home context t.elements =
        Walk.forest lib' fuel sink t.home context t.elements :=
    (leads (Lockstep.refl sink) t context within).eq
  constructor
  · intro text
    unfold renderOnto
    rw [same]
  · intro σ ε sink
    exact congrArg (· >>= fun _ => Walk.call sink.flush) (same sink)

/-- Every reference means in a library what it means there. -/
theorem matches_self (lib : Library) : Walk.Matches lib lib fun _ _ => True where
  same _ _ _ := rfl
  closed _ _ content _ _ := by
    cases content with
    | parsed elements => exact fun _ _ => trivial
    | registered value => exact fun _ _ _ _ => trivial

/-- A walk simulates itself, whatever the sinks, as long as these go together. -/
theorem leads_self (lib : Library) (fuel : Nat) :
    Walk.Leads False (fun _ _ => True) (Walk.forest lib fuel) (Walk.forest lib fuel) :=
  Walk.forest_leads (matches_self lib) fuel 0 (.inr rfl)

/-- A walk that ends does so in the same way with more fuel, on sinks that go together. -/
theorem leads_more (lib : Library) (fuel extra : Nat) :
    Walk.Leads True (fun _ _ => True) (Walk.forest lib fuel) (Walk.forest lib (fuel + extra)) :=
  Walk.forest_leads (matches_self lib) fuel extra (.inl trivial)

/-- A walk that ends does so in the same way with more fuel. -/
theorem forest_mono (lib : Library) (fuel extra : Nat) (sink : Sink σ ε) (t : Template)
    (context : Context) :
    Walk.Follows True Eq Eq (Walk.forest lib fuel sink t.home context t.elements)
      (Walk.forest lib (fuel + extra) sink t.home context t.elements) :=
  leads_more lib fuel extra (Lockstep.refl sink) t context fun _ _ => trivial

theorem renderOnto_eq_some_iff {fuel : Nat} {out text : String} {context : Context} :
    lib.renderOnto fuel out t context = some text ↔
      Walk.forest lib fuel Sink.string t.home context t.elements out = .ok () text := by
  unfold renderOnto
  cases Walk.forest lib fuel Sink.string t.home context t.elements out with
  | ok _ last => simp
  | error halt last => simp

theorem renderOnto_mono {fuel : Nat} {out text : String} {context : Context}
    (rendered : lib.renderOnto fuel out t context = some text) (extra : Nat) :
    lib.renderOnto (fuel + extra) out t context = some text := by
  have agree := forest_mono lib fuel extra Sink.string t context out out rfl
  rw [renderOnto_eq_some_iff.mp rendered] at agree
  obtain ⟨_, ends, rfl⟩ := agree.of_ok
  exact renderOnto_eq_some_iff.mpr ends

end Library

end Mustache
