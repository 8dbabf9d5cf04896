import Mathlib
import Mustache.Proofs.Template.Leftmost
/-!
Where a tag ends. The first character behind an opening delimiter is taken in before the closing
delimiter is looked for. Main statement: a tag that does not start with a brace ends at the leftmost
closing delimiter, unless that has a single character and stands directly behind the opening
delimiter; then it becomes the first character of the tag, which ends at the next one instead of
being empty.
-/
namespace Mustache.Reader

variable {r : Reader} {cs body : List Char}

/-- A reader takes a text for a whole tag with this body: whatever follows, it acts on the body at
the end of the text, and goes on from there. -/
def TakesTag (r : Reader) (cs body : List Char) : Prop :=
  ∀ after, r.run (cs ++ after) = do
    let next ← ({ r with line := r.line + cs.count '\n' } : Reader).closeTag body.reverse
    next.run after

/-- In a tag, the body ends where the closing delimiter is complete for the first time. -/
theorem takesTag_of_tag (here : r.place = .tag) (nonempty : r.delimiters.closing ≠ [])
    (completes : Scan.Completes r.delimiters.closing r.back.reverse cs)
    (whole : r.back.reverse ++ cs = body ++ r.delimiters.closing) : r.TakesTag cs body := by
  intro after
  have sought : r.sought = r.delimiters.closing := by simp only [Reader.sought, here]
  obtain ⟨text, same, found⟩ :=
    Scan.readUntil_of_completes nonempty completes r.line after
  obtain rfl : text = body := List.append_cancel_right (same.symm.trans whole)
  rw [List.reverse_reverse] at found
  rw [run_eq_readUntil (by simp [here]) (sought ▸ nonempty), sought, found, resume, if_pos rfl]
  simp only [complete, here]

/-- Behind an opening delimiter, any other character than a brace is the first one of the tag. -/
theorem run_of_opened (here : r.place = .opened) {c : Char} (plain : c ≠ '{') (rest : List Char) :
    r.run (c :: rest) = run
      { r with place := .tag, back := [c], line := r.line + [c].count '\n' } rest := by
  simp only [run, step, take, here, if_neg plain, counted_line]

/-- A tag that is not ended by its first character ends where the closing delimiter is complete for
the first time behind that. -/
theorem takesTag_of_opened (here : r.place = .opened) {c : Char} (plain : c ≠ '{')
    (nonempty : r.delimiters.closing ≠ [])
    (completes : Scan.Completes r.delimiters.closing [c] cs)
    (whole : c :: cs = body ++ r.delimiters.closing) : r.TakesTag (c :: cs) body := by
  intro after
  have inside := takesTag_of_tag
    (r := { r with place := .tag, back := [c], line := r.line + [c].count '\n' }) rfl nonempty
    completes whole after
  rw [List.cons_append, run_of_opened here plain, inside]
  have split : (c :: cs).count '\n' = [c].count '\n' + cs.count '\n' := by
    rw [← List.count_append, List.singleton_append]
  rw [split, ← Nat.add_assoc]
  rw [closeTag_of_tag { r with line := r.line + [c].count '\n' + cs.count '\n' }]

/-- A tag whose closing delimiter is not complete with its first character ends at the leftmost
occurrence of the delimiter. -/
theorem takesTag_of_endsFirst (here : r.place = .opened)
    (plain : (body ++ r.delimiters.closing).head? ≠ some '{')
    (later : 2 ≤ (body ++ r.delimiters.closing).length)
    (first : Scan.EndsFirst r.delimiters.closing body) :
    r.TakesTag (body ++ r.delimiters.closing) body := by
  have nonempty : r.delimiters.closing ≠ [] := by
    intro none
    rw [none] at first later
    simp [Scan.endsFirst_nil_iff.mp first] at later
  obtain ⟨c, cs, whole⟩ : ∃ c cs, body ++ r.delimiters.closing = c :: cs :=
    List.exists_cons_of_length_pos (by omega)
  rw [whole] at plain later ⊢
  refine takesTag_of_opened here (by simpa using plain) nonempty ⟨?_, ⟨body, whole⟩, ?_⟩ whole.symm
  · rintro rfl
    simp at later
  · rintro scanned - ⟨after, rfl⟩ ⟨before, ends⟩
    have nothing := first before after (by rw [whole, ends, List.cons_append]; rfl)
    rw [nothing, List.append_nil]

/-- A closing delimiter of one character, directly behind the opening delimiter, becomes a part of
the tag, which ends at the next one. -/
theorem takesTag_of_swallowed (here : r.place = .opened) {c : Char} (plain : c ≠ '{')
    (single : r.delimiters.closing = [c]) {more : List Char}
    (first : Scan.EndsFirst r.delimiters.closing more) :
    r.TakesTag (c :: (more ++ [c])) (c :: more) := by
  refine takesTag_of_opened here plain (by simp [single]) ⟨by simp, ?_, ?_⟩
    (by rw [single, List.cons_append])
  · rw [single]
    exact ⟨c :: more, rfl⟩
  · rintro scanned nonempty ⟨after, whole⟩ ends
    rw [single] at first ends
    obtain ⟨before, ends⟩ : [c] <:+ scanned := (List.suffix_cons_iff.mp ends).resolve_left
      fun same => nonempty (List.cons.inj same).2.symm
    have nothing := first before after (by rw [← whole, ← ends])
    rw [← whole, nothing, List.append_nil]

/-- In a tag of no characters, a reader stops at once. -/
theorem TakesTag.rejects (takes : r.TakesTag cs []) (after : List Char) :
    r.run (cs ++ after) =
      .error ⟨r.references, ⟨.emptyTag, r.line + cs.count '\n'⟩⟩ :=
  takes after

/-- Behind an opening delimiter, a tag that does not start with a brace ends at the leftmost closing
delimiter exactly if that is not a single character directly behind the opening delimiter. A closing
delimiter that stands there is rejected as an empty tag whatever follows exactly if it has two
characters or more; with one character it starts the tag that the next one ends. -/
theorem takesTag_iff (here : r.place = .opened) (sought : r.delimiters.closing ≠ []) :
    (∀ body, (body ++ r.delimiters.closing).head? ≠ some '{' →
      Scan.EndsFirst r.delimiters.closing body →
      (r.TakesTag (body ++ r.delimiters.closing) body ↔
        body ≠ [] ∨ 2 ≤ r.delimiters.closing.length)) ∧
    (r.delimiters.closing.head? ≠ some '{' →
      ((∀ after, r.run (r.delimiters.closing ++ after) = .error
          ⟨r.references, ⟨.emptyTag, r.line + r.delimiters.closing.count '\n'⟩⟩) ↔
        2 ≤ r.delimiters.closing.length) ∧
      (r.delimiters.closing.length = 1 → ∀ more, Scan.EndsFirst r.delimiters.closing more →
        r.TakesTag (r.delimiters.closing ++ (more ++ r.delimiters.closing))
          (r.delimiters.closing ++ more))) := by
  have some := List.length_pos_iff.mpr sought
  have open_end {c : Char} (single : r.delimiters.closing = [c]) (plain : c ≠ '{') :
      r.run r.delimiters.closing ≠ .error
        ⟨r.references, ⟨.emptyTag, r.line + r.delimiters.closing.count '\n'⟩⟩ := by
    rw [single, run_of_opened here plain]
    simp [run]
  have single (short : ¬ 2 ≤ r.delimiters.closing.length) : ∃ c, r.delimiters.closing = [c] :=
    List.length_eq_one_iff.mp (by omega)
  refine ⟨fun body plain first => ⟨fun takes => ?_, fun wide => ?_⟩,
    fun plain => ⟨⟨fun rejects => ?_, fun wide => ?_⟩, fun one more first => ?_⟩⟩
  · by_contra neither
    obtain ⟨rfl, short⟩ : body = [] ∧ ¬ 2 ≤ r.delimiters.closing.length := by
      simpa using neither
    obtain ⟨c, alone⟩ := single short
    have rejects := takes.rejects []
    rw [List.nil_append, List.append_nil] at rejects
    exact open_end alone (by simpa [alone] using plain) rejects
  · refine takesTag_of_endsFirst here plain ?_ first
    rcases wide with nonempty | long
    · have := List.length_pos_iff.mpr nonempty
      rw [List.length_append]
      omega
    · rw [List.length_append]
      omega
  · by_contra short
    obtain ⟨c, alone⟩ := single short
    have stops := rejects []
    rw [List.append_nil] at stops
    exact open_end alone (by simpa [alone] using plain) stops
  · have first : Scan.EndsFirst r.delimiters.closing [] := by
      intro before after whole
      have lengths := congrArg List.length whole
      simp only [List.length_append, List.length_nil] at lengths
      exact List.length_eq_zero_iff.mp (by omega)
    have takes := takesTag_of_endsFirst here (by simpa using plain) (by simpa using wide) first
    exact takes.rejects
  · obtain ⟨c, alone⟩ := single (by omega)
    have takes := takesTag_of_swallowed here (by simpa [alone] using plain) alone first
    simpa only [alone, List.singleton_append] using takes

/-- A reader behind an opening delimiter, after brackets have been put in force. -/
def bracketed : Reader := { start with place := .opened, delimiters := ⟨['['], [']']⟩ }

/-- Between brackets, a tag ends at the first closing bracket, unless that directly follows. -/
theorem takesTag_bracketed :
    start.run "{{=[ ]=}}[".toList = .ok bracketed ∧
      bracketed.TakesTag ['a', ']'] ['a'] ∧ ¬ bracketed.TakesTag [']'] [] ∧
      bracketed.TakesTag [']', 'a', ']'] [']', 'a'] := by
  obtain ⟨ends, directly⟩ := takesTag_iff (r := bracketed) rfl (by decide)
  obtain ⟨_, swallowed⟩ := directly (by decide)
  refine ⟨by cbv, (ends ['a'] (by decide) (by decide)).mpr (by decide), fun empty => ?_,
    swallowed rfl ['a'] (by decide)⟩
  have wide := (ends [] (by decide) (by decide)).mp empty
  revert wide
  decide

/-- Not every tag ends at the leftmost closing delimiter: directly behind an opening bracket, a
closing bracket becomes a part of the name. -/
theorem not_forall_takesTag :
    ¬ (∀ (r : Reader) (body : List Char), r.place = .opened →
        Delimiters.Usable r.delimiters.opening → Delimiters.Usable r.delimiters.closing →
        (body ++ r.delimiters.closing).head? ≠ some '{' →
        Scan.EndsFirst r.delimiters.closing body →
        r.TakesTag (body ++ r.delimiters.closing) body) ∧
      ((Parser.ofResolver (.table [] (.text ""))).parse .none "{{=[ ]=}}[]a]").result =
        .ok [.escaped "]a"] := by
  refine ⟨fun always => ?_, by cbv⟩
  have usable (c : Char) (solid : Text.isBlank c = false ∧ c ≠ '=') : Delimiters.Usable [c] :=
    ⟨List.cons_ne_nil _ _, by simpa using solid⟩
  have takes := always bracketed [] rfl (usable '[' (by decide)) (usable ']' (by decide))
    (by decide) (by decide)
  have stopped : Except.ok { bracketed with place := .tag, back := [']'] } =
      Except.error (ε := Stop) (α := Reader) ⟨[], ⟨.emptyTag, 1⟩⟩ := takes.rejects []
  cases stopped

end Mustache.Reader
