import Mustache.Proofs.Partial.Reach
import Mustache.Render.Walk
/-!
Two walks side by side. One walk simulates another if related states of their sinks lead to the same
outcome and to related states again. Main statement: walks of one template in one context simulate
each other as soon as the calls on their sinks do and the references mean the same in their
libraries. The fuels may differ if the first walk is allowed to run out of fuel.
-/
namespace Mustache

variable {σ τ ε δ α β : Type}

/-- Two results agree: the same value, or related errors, and related states. Beside that, the first
result may be an error that leaves the second open. -/
inductive Agree (states : σ → τ → Prop) (errors : ε → δ → Prop) (open? : ε → Prop) :
    EStateM.Result ε σ α → EStateM.Result δ τ α → Prop where
  | ok (a : α) {s : σ} {t : τ} : states s t → Agree states errors open? (.ok a s) (.ok a t)
  | error {e : ε} {d : δ} {s : σ} {t : τ} : errors e d → states s t →
      Agree states errors open? (.error e s) (.error d t)
  | starved {e : ε} {s : σ} {result : EStateM.Result δ τ α} : open? e →
      Agree states errors open? (.error e s) result

/-- What agrees with a success is one. -/
theorem Agree.of_ok {states : σ → τ → Prop} {errors : ε → δ → Prop} {open? : ε → Prop} {a : α}
    {s : σ} {result : EStateM.Result δ τ α} (agree : Agree states errors open? (.ok a s) result) :
    ∃ t, result = .ok a t ∧ states s t := by
  cases agree with
  | ok _ related => exact ⟨_, rfl, related⟩

/-- Computations that take related states to results that agree. -/
def Simulates (states : σ → τ → Prop) (errors : ε → δ → Prop) (open? : ε → Prop)
    (first : EStateM ε σ α) (second : EStateM δ τ α) : Prop :=
  ∀ s t, states s t → Agree states errors open? (first s) (second t)

namespace Simulates

variable {states : σ → τ → Prop} {errors : ε → δ → Prop} {open? : ε → Prop}

theorem pure (a : α) : Simulates states errors open? (Pure.pure a) (Pure.pure a) :=
  fun _ _ related => .ok a related

theorem throw {e : ε} {d : δ} (related : errors e d) :
    Simulates states errors open? (MonadExcept.throw e : EStateM ε σ α)
      (MonadExcept.throw d : EStateM δ τ α) :=
  fun _ _ start => .error related start

theorem bind {first : EStateM ε σ α} {second : EStateM δ τ α} {next : α → EStateM ε σ β}
    {after : α → EStateM δ τ β} (head : Simulates states errors open? first second)
    (tail : ∀ a, Simulates states errors open? (next a) (after a)) :
    Simulates states errors open? (first >>= next) (second >>= after) := by
  intro s t related
  have agree := head s t related
  simp only [Bind.bind, EStateM.bind]
  cases ran : first s with
  | ok a s' =>
    cases ran' : second t with
    | ok b t' =>
      rw [ran, ran'] at agree
      cases agree with
      | ok _ related => exact tail a s' t' related
    | error d t' =>
      rw [ran, ran'] at agree
      cases agree
  | error e s' =>
    rw [ran] at agree
    generalize second t = result at agree ⊢
    cases agree with
    | error failed related => exact .error failed related
    | starved starves => exact .starved starves

theorem refl (act : EStateM ε σ α) : Simulates Eq Eq open? act act := by
  rintro s t rfl
  cases act s with
  | ok a last => exact .ok a rfl
  | error e last => exact .error rfl rfl

end Simulates

/-- Two sinks whose calls go together. -/
structure Lockstep (first : Sink σ ε) (second : Sink τ δ) (states : σ → τ → Prop)
    (errors : ε → δ → Prop) : Prop where
  ready : Simulates states errors (fun _ => False) first.ready second.ready
  send : ∀ c, Simulates states errors (fun _ => False) (first.send c) (second.send c)
  flush : Simulates states errors (fun _ => False) first.flush second.flush
  close : Simulates states errors (fun _ => False) first.close second.close
  remark : ∀ line s t, states s t → states (first.remark line s) (second.remark line t)

theorem Lockstep.refl (sink : Sink σ ε) : Lockstep sink sink Eq Eq where
  ready := .refl _
  send _ := .refl _
  flush := .refl _
  close := .refl _
  remark _ _ _ same := congrArg _ same

/-- Two ways for a walk to end early. -/
inductive Halt.Related (errors : ε → δ → Prop) : Halt ε → Halt δ → Prop where
  | sink {e : ε} {d : δ} : errors e d → Halt.Related errors (.sink e) (.sink d)
  | exhausted : Halt.Related errors .exhausted .exhausted

namespace Walk

/-- A walk simulates another. If it is `lenient`, nothing is said of the second walk where the first
one runs out of fuel. -/
def Follows (lenient : Prop) (states : σ → τ → Prop) (errors : ε → δ → Prop)
    (first : WalkM σ ε Unit) (second : WalkM τ δ Unit) : Prop :=
  Simulates states (Halt.Related errors) (fun halt => lenient ∧ halt = .exhausted) first second

section Calls

variable {lenient : Prop} {states : σ → τ → Prop} {errors : ε → δ → Prop}

theorem call_follows {first : SinkM σ ε Unit} {second : SinkM τ δ Unit}
    (related : Simulates states errors (fun _ => False) first second) :
    Follows lenient states errors (call first) (call second) := by
  intro s t start
  have agree := related s t start
  unfold call
  cases ran : first s <;> cases ran' : second t <;> rw [ran, ran'] at agree
  · cases agree with
    | ok _ related => exact .ok () related
  · cases agree
  · cases agree with
    | starved impossible => exact impossible.elim
  · cases agree with
    | error failed related => exact .error (.sink failed) related
    | starved impossible => exact impossible.elim

theorem attempt_simulates {first : WalkM σ ε Unit} {second : WalkM τ δ Unit}
    (related : Follows lenient states errors first second) :
    Simulates states (fun _ _ => True) (fun _ => lenient) (attempt first) (attempt second) := by
  intro s t start
  have agree := related s t start
  unfold attempt
  cases ran : first s with
  | ok a s' =>
    cases ran' : second t <;> rw [ran, ran'] at agree
    · cases agree with
      | ok _ related => exact .ok true related
    · cases agree
  | error halt s' =>
    rw [ran] at agree
    generalize second t = result at agree ⊢
    cases agree with
    | error failed related =>
      cases failed with
      | sink _ => exact .ok false related
      | exhausted => exact .error trivial related
    | starved starves =>
      obtain ⟨allowed, rfl⟩ := starves
      exact .starved allowed

variable {first : Sink σ ε} {second : Sink τ δ}

theorem feed_simulates (together : Lockstep first second states errors) (c : Char) :
    Simulates states errors (fun _ => False) (first.feed c) (second.feed c) :=
  together.ready.bind fun _ => together.send c

theorem emit_follows (together : Lockstep first second states errors) (cs : List Char) :
    Follows lenient states errors (emit first cs) (emit second cs) := by
  induction cs with
  | nil => exact .pure ()
  | cons c rest ih => exact (call_follows (feed_simulates together c)).bind fun _ => ih

theorem emitText_follows (together : Lockstep first second states errors) (text? : Option String) :
    Follows lenient states errors (emitText? first text?) (emitText? second text?) := by
  cases text? with
  | none => exact .pure ()
  | some text => exact emit_follows together text.toList

theorem each_follows {walk : α → WalkM σ ε Unit} {walk' : α → WalkM τ δ Unit} (items : List α)
    (related : ∀ a ∈ items, Follows lenient states errors (walk a) (walk' a)) :
    Follows lenient states errors (each walk items) (each walk' items) := by
  induction items with
  | nil => exact .pure ()
  | cons a rest ih =>
    exact (related a List.mem_cons_self).bind fun _ =>
      ih fun other member => related other (List.mem_cons_of_mem a member)

theorem endless_follows {walk : Frame → WalkM σ ε Unit} {walk' : Frame → WalkM τ δ Unit}
    (item : Nat → Value)
    (related : ∀ frame, Follows lenient states errors (walk frame) (walk' frame))
    (fuel extra index : Nat) (enough : lenient ∨ extra = 0) :
    Follows lenient states errors (endless walk item fuel index)
      (endless walk' item (fuel + extra) index) := by
  induction fuel generalizing index with
  | zero =>
    rcases enough with allowed | none
    · exact fun _ _ _ => .starved ⟨allowed, rfl⟩
    · subst none
      exact .throw .exhausted
  | succ fuel ih =>
    rw [Nat.succ_add]
    exact (related _).bind fun _ => ih _

/-- The errors that two forwarded sinks keep aside are related. -/
def Kept (states : σ → τ → Prop) (errors : ε → δ → Prop) (s : σ × Option ε) (t : τ × Option δ) :
    Prop :=
  states s.1 t.1 ∧ Option.Rel errors s.2 t.2

theorem kept_or {s : Option ε} {t : Option δ} (kept : Option.Rel errors s t) {e : ε} {d : δ}
    (failed : errors e d) : Option.Rel errors (s.or (some e)) (t.or (some d)) := by
  cases kept with
  | none => exact .some failed
  | some earlier => exact .some earlier

theorem keep_simulates {call : SinkM σ ε Unit} {call' : SinkM τ δ Unit}
    (related : Simulates states errors (fun _ => False) call call') :
    Simulates (Kept states errors) Eq (fun _ => False) (Sink.keep call) (Sink.keep call') := by
  intro s t start
  have agree := related s.1 t.1 start.1
  unfold Sink.keep
  cases ran : call s.1 <;> cases ran' : call' t.1 <;> rw [ran, ran'] at agree
  · cases agree with
    | ok _ related => exact .ok () ⟨related, start.2⟩
  · cases agree
  · cases agree with
    | starved impossible => exact impossible.elim
  · cases agree with
    | error failed related => exact .error rfl ⟨related, kept_or start.2 failed⟩
    | starved impossible => exact impossible.elim

/-- Sinks that go together still do when they are handed to a partial. -/
theorem forward_lockstep (together : Lockstep first second states errors) :
    Lockstep first.forward second.forward (Kept states errors) Eq where
  ready := keep_simulates together.ready
  send c := keep_simulates (together.send c)
  flush := keep_simulates together.flush
  close := keep_simulates together.close
  remark line s t start := ⟨together.remark line s.1 t.1 start.1, start.2⟩

end Calls

/-- One way to walk follows another on all templates whose references are known. -/
def Leads (lenient : Prop) (known : Option ParserId → PartialRef → Prop) (walk walk' : Walker) :
    Prop :=
  ∀ {σ τ ε δ : Type} {first : Sink σ ε} {second : Sink τ δ} {states : σ → τ → Prop}
    {errors : ε → δ → Prop}, Lockstep first second states errors →
    ∀ (t : Template) (context : Context), t.Within known →
      Follows lenient states errors (walk first t.home context t.elements)
        (walk' second t.home context t.elements)

section Walkers

variable {lenient : Prop} {known : Option ParserId → PartialRef → Prop} {walk walk' : Walker}

/-- What is rendered on the side is the same text, unless the first walk runs out of fuel. -/
theorem sideText_follows (leads : Leads lenient known walk walk') {t : Template}
    (within : t.Within known) (context : Context) :
    sideText walk t context = sideText walk' t context ∨
      lenient ∧ sideText walk t context = none := by
  have agree : Agree Eq (Halt.Related Eq) (fun halt => lenient ∧ halt = .exhausted)
      (walk Sink.string t.home context t.elements "")
      (walk' Sink.string t.home context t.elements "") :=
    leads (Lockstep.refl Sink.string) t context within "" "" rfl
  simp only [sideText]
  generalize walk Sink.string t.home context t.elements "" = result,
    walk' Sink.string t.home context t.elements "" = result' at agree ⊢
  cases agree with
  | ok _ same => exact .inl (congrArg some same)
  | error _ _ => exact .inl rfl
  | starved starves => exact .inr ⟨starves.1, rfl⟩

variable {states : σ → τ → Prop} {errors : ε → δ → Prop}

theorem streamed_follows (leads : Leads lenient known walk walk') {first : Sink σ ε}
    {second : Sink τ δ} (together : Lockstep first second states errors) {t : Template}
    (within : t.Within known) (context : Context) :
    Follows lenient states errors (streamed walk first t context)
      (streamed walk' second t context) :=
  (leads together t context within).bind fun _ => call_follows together.flush

/-- The program of a partial runs the same way on sinks that go together. -/
theorem script_simulates (leads : Leads lenient known walk walk') {first : Sink σ SinkFailed}
    {second : Sink τ SinkFailed} (together : Lockstep first second states Eq) (program : Script)
    (within : ∀ t, program.Has t → t.Within known) :
    Simulates states (fun _ _ => True) (fun _ => lenient) (script walk first program)
      (script walk' second program) := by
  induction program with
  | finish succeeded => exact .pure succeeded
  | feed c next ih =>
    refine (attempt_simulates (call_follows (feed_simulates together c))).bind fun succeeded => ?_
    exact ih succeeded fun t has => within t ⟨succeeded, has⟩
  | flush next ih =>
    refine (attempt_simulates (call_follows together.flush)).bind fun succeeded => ?_
    exact ih succeeded fun t has => within t ⟨succeeded, has⟩
  | close next ih =>
    refine (attempt_simulates (call_follows together.close)).bind fun succeeded => ?_
    exact ih succeeded fun t has => within t ⟨succeeded, has⟩
  | stream t context next ih =>
    refine (attempt_simulates (streamed_follows leads together (within t (.inl rfl)) context)).bind
      fun succeeded => ?_
    exact ih succeeded fun t has => within t (.inr ⟨succeeded, has⟩)
  | render t context next ih =>
    unfold script
    rcases sideText_follows leads (within t (.inl rfl)) context with same | ⟨allowed, none⟩
    · rw [same]
      cases sideText walk' t context with
      | none => exact .throw trivial
      | some output => exact ih output fun t has => within t (.inr ⟨output, has⟩)
    · rw [none]
      exact fun _ _ _ => .starved allowed
  | remark line next ih =>
    unfold script
    refine Simulates.bind (fun s t related => .ok () (together.remark line s t related))
      fun _ => ?_
    exact ih within

theorem custom_follows (leads : Leads lenient known walk walk') {first : Sink σ ε}
    {second : Sink τ δ} (together : Lockstep first second states errors) (program : Script)
    (within : ∀ t, program.Has t → t.Within known) :
    Follows lenient states errors (custom walk first program) (custom walk' second program) := by
  intro s t start
  have agree := script_simulates leads (forward_lockstep together) program within (s, none)
    (t, none) ⟨start, .none⟩
  unfold custom
  generalize script walk first.forward program (s, none) = result,
    script walk' second.forward program (t, none) = result' at agree ⊢
  cases agree with
  | @ok _ s t related =>
    obtain ⟨s, kept⟩ := s
    obtain ⟨t, kept'⟩ := t
    obtain ⟨related, failures⟩ := related
    cases failures with
    | none => exact .ok () related
    | some failed => exact .error (.sink failed) related
  | error _ related => exact .error .exhausted related.1
  | starved allowed => exact .starved ⟨allowed, rfl⟩

theorem content_follows (leads : Leads lenient known walk walk') {first : Sink σ ε}
    {second : Sink τ δ} (together : Lockstep first second states errors) (home : Option ParserId)
    (context : Context) (content? : Option Content)
    (within : ∀ c, content? = some c → c.Within known home) :
    Follows lenient states errors (content walk first home context content?)
      (content walk' second home context content?) := by
  cases content? with
  | none => exact .pure ()
  | some c =>
    have inside := within c rfl
    cases c with
    | parsed elements => exact leads together ⟨elements, home⟩ context inside
    | registered value =>
      cases value with
      | template t => exact leads together t context (inside t rfl)
      | custom c =>
        exact custom_follows leads together (c.output context) fun t has =>
          inside t ⟨context, has⟩

theorem block_follows (leads : Leads lenient known walk walk') {first : Sink σ ε}
    {second : Sink τ δ} (together : Lockstep first second states errors) (home : Option ParserId)
    (context : Context) (children : Forest PartialRef)
    (within : Template.Within known ⟨children, home⟩) (fuel extra : Nat)
    (enough : lenient ∨ extra = 0) (value : Value) :
    Follows lenient states errors (block walk first home context children fuel value)
      (block walk' second home context children (fuel + extra) value) := by
  have body (frame : Frame) : Follows lenient states errors
      (walk first home (context.push frame.value frame.marks) children)
      (walk' second home (context.push frame.value frame.marks) children) :=
    leads together ⟨children, home⟩ _ within
  have flush : Follows lenient states errors (call first.flush) (call second.flush) :=
    call_follows together.flush
  have flushed (frame : Frame) : Follows lenient states errors
      (do call first.flush
          walk first home (context.push frame.value frame.marks) children
          call first.flush)
      (do call second.flush
          walk' second home (context.push frame.value frame.marks) children
          call second.flush) :=
    flush.bind fun _ => (body frame).bind fun _ => flush
  unfold block
  split
  · exact endless_follows _ flushed fuel extra 0 enough
  · exact each_follows _ fun frame _ => flushed frame
  · exact each_follows _ fun frame _ => body frame

end Walkers

/-- Two libraries in which known references mean the same, and lead to known references only. -/
structure Matches (lib lib' : Library) (known : Option ParserId → PartialRef → Prop) : Prop where
  same : ∀ home ref, known home ref →
    lib'.content? home ref.slot = lib.content? home ref.slot
  closed : ∀ home ref content, known home ref → lib.content? home ref.slot = some content →
    content.Within known home

section Forests

variable {lib lib' : Library} {lenient : Prop} {known : Option ParserId → PartialRef → Prop}
  {states : σ → τ → Prop} {errors : ε → δ → Prop}

theorem element_follows (matched : Matches lib lib' known) {walk walk' : Walker}
    (leads : Leads lenient known walk walk') {first : Sink σ ε} {second : Sink τ δ}
    (together : Lockstep first second states errors) (home : Option ParserId) (context : Context)
    (fuel extra : Nat) (enough : lenient ∨ extra = 0) (e : Element PartialRef)
    (within : ∀ ref ∈ e.targets, known home ref) :
    Follows lenient states errors (element lib walk fuel first home context e)
      (element lib' walk' (fuel + extra) second home context e) := by
  cases e with
  | text content => exact emit_follows together content.toList
  | escaped path => exact emitText_follows together _
  | raw path => exact emitText_follows together _
  | block path children =>
    simp only [element]
    cases context.resolve path with
    | none => exact .pure ()
    | some value =>
      exact block_follows leads together home context children within fuel extra enough value
  | inverted path children =>
    simp only [element]
    split
    · exact leads together ⟨children, home⟩ context within
    · exact .pure ()
  | reference target =>
    have known_target := within target List.mem_cons_self
    simp only [element]
    rw [matched.same home target known_target]
    exact content_follows leads together home context _ fun c holds =>
      matched.closed home target c known_target holds

/-- Walks of one template in one context, whatever their sinks, as long as these go together. -/
theorem forest_leads (matched : Matches lib lib' known) (fuel extra : Nat)
    (enough : lenient ∨ extra = 0) :
    Leads lenient known (forest lib fuel) (forest lib' (fuel + extra)) := by
  induction fuel with
  | zero =>
    intro σ τ ε δ first second states errors together t context within
    rcases enough with allowed | none
    · exact fun _ _ _ => .starved ⟨allowed, rfl⟩
    · subst none
      exact .throw .exhausted
  | succ fuel ih =>
    intro σ τ ε δ first second states errors together t context within
    rw [Nat.succ_add]
    refine each_follows t.elements fun e member => ?_
    refine element_follows matched ih together t.home context fuel extra enough e ?_
    exact fun ref target => within ref (Forest.mem_targets member target)

end Forests

end Walk

end Mustache
