import Mustache.Template.Scan
/-!
Where a scan stops. Main statements: as long as a delimiter does not occur in what has been
buffered, the next character either completes its leftmost occurrence, and then the text before it
is known, or the delimiter does not occur in the longer buffer either.
-/
namespace Mustache.Scan

/-- In a text followed by a delimiter, the leftmost occurrence of the delimiter is at the end. -/
def EndsFirst (delimiter text : List Char) : Prop :=
  ∀ before after, text ++ delimiter = before ++ delimiter ++ after → after = []

variable {delimiter text scanned back : List Char} {c : Char}

theorem endsWith_iff : endsWith back delimiter = true ↔ delimiter <:+ back.reverse := by
  rw [endsWith, List.isPrefixOf_iff_prefix, ← List.reverse_suffix, List.reverse_reverse]

/-- The delimiter ends first if it does not occur before its last character. -/
theorem endsFirst_iff (last : text ++ delimiter = scanned ++ [c]) :
    EndsFirst delimiter text ↔ ¬ delimiter <:+: scanned := by
  constructor
  · rintro first ⟨before, after, eq⟩
    have none := first before (after ++ [c]) (by rw [last, ← eq, List.append_assoc])
    simp at none
  · intro clear before after eq
    rcases List.eq_nil_or_concat after with none | ⟨init, x, rfl⟩
    · exact none
    · rw [last, List.concat_eq_append, ← List.append_assoc] at eq
      have same := (List.append_inj' eq rfl).1
      exact (clear ⟨before, init, same.symm⟩).elim

theorem endsFirst_nil_iff : EndsFirst [] text ↔ text = [] := by
  constructor
  · intro first
    exact first [] text (by simp)
  · rintro rfl before after eq
    simp at eq
    exact eq.2

theorem endsFirst_iff_dropLast (nonempty : delimiter ≠ []) :
    EndsFirst delimiter text ↔ ¬ delimiter <:+: (text ++ delimiter).dropLast := by
  have whole := List.dropLast_concat_getLast (List.append_ne_nil_of_right_ne_nil text nonempty)
  exact endsFirst_iff whole.symm

/-- Whether a delimiter ends first can be decided. -/
instance (delimiter text : List Char) : Decidable (EndsFirst delimiter text) :=
  match delimiter with
  | [] => decidable_of_iff (text = []) endsFirst_nil_iff.symm
  | c :: rest =>
    letI := List.instDecidableIsInfixOfDecidableEq (c :: rest) (text ++ c :: rest).dropLast
    decidable_of_iff (¬ c :: rest <:+: (text ++ c :: rest).dropLast)
      (endsFirst_iff_dropLast (List.cons_ne_nil c rest)).symm

theorem push_of_ends (last : text ++ delimiter = back.reverse ++ [c]) :
    push delimiter back c = .found text.reverse := by
  have whole : (c :: back).reverse = text ++ delimiter := by rw [List.reverse_cons, last]
  have ends : endsWith (c :: back) delimiter = true := by
    rw [endsWith_iff, whole]
    exact List.suffix_append text delimiter
  have buffer : c :: back = delimiter.reverse ++ text.reverse := by
    rw [← List.reverse_append, ← whole, List.reverse_reverse]
  rw [push, if_pos ends, buffer, ← List.length_reverse, List.drop_left]

theorem push_of_clear (clear : ¬ delimiter <:+: back.reverse ++ [c]) :
    push delimiter back c = .pending (c :: back) := by
  have open_end : ¬ endsWith (c :: back) delimiter = true := by
    rw [endsWith_iff, List.reverse_cons]
    exact fun ends => clear ends.isInfix
  rw [push, if_neg open_end]

/-- What a delimiter that has been found says of the buffer. -/
theorem of_push_found {before : List Char} (clear : ¬ delimiter <:+: back.reverse)
    (found : push delimiter back c = .found before) :
    back.reverse ++ [c] = before.reverse ++ delimiter ∧ EndsFirst delimiter before.reverse := by
  unfold push at found
  split at found
  · rename_i ends
    cases found
    obtain ⟨text, whole⟩ := endsWith_iff.mp ends
    have buffer : c :: back = delimiter.reverse ++ text.reverse := by
      rw [← List.reverse_append, whole, List.reverse_reverse]
    have rest : (c :: back).drop delimiter.length = text.reverse := by
      rw [buffer, ← List.length_reverse, List.drop_left]
    rw [rest, List.reverse_reverse]
    rw [List.reverse_cons] at whole
    exact ⟨whole.symm, (endsFirst_iff whole).mpr clear⟩
  · cases found

theorem of_push_pending {next : List Char} (clear : ¬ delimiter <:+: back.reverse)
    (pending : push delimiter back c = .pending next) :
    next = c :: back ∧ ¬ delimiter <:+: next.reverse := by
  unfold push at pending
  split at pending
  · cases pending
  · rename_i open_end
    cases pending
    refine ⟨rfl, ?_⟩
    rw [endsWith_iff, List.reverse_cons] at open_end
    rw [List.reverse_cons, List.infix_concat_iff]
    exact not_or.mpr ⟨open_end, clear⟩

end Mustache.Scan
