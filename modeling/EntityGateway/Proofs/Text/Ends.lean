/-
Text at its ends.

What stands at the front of a text can be taken off, or else it ends where characters of a class end; a text is torn at
its last separator; and what is trimmed goes away from the ends alone.

- `stripFront?_eq_some`, `span_append`: the front of a text;
- `splitLast_append`, `splitLast_eq_none`: the last separator;
- `trimBoth_of_ends`, `trimBoth_between`, `trimEnd_append`: what is left of a text that is trimmed.
-/
import EntityGateway.Text.Trim
import Mathlib.Data.List.TakeDrop
import Mathlib.Data.List.TakeWhile
import Mathlib.Tactic

namespace EntityGateway.Text

variable {p : Char → Bool} {sep c first last : Char} {cs before after : List Char}

/-! ## Fronts -/

theorem stripFront?_eq_some {front rest : List Char} : stripFront? front cs = some rest ↔ cs = front ++ rest := by
  induction front generalizing cs with
  | nil => simp [stripFront?]
  | cons x front ih =>
    cases cs with
    | nil => simp [stripFront?]
    | cons c cs =>
      rw [stripFront?, List.cons_append, List.cons.injEq]
      split_ifs with h
      · rw [ih]
        exact ⟨fun hcs => ⟨h.symm, hcs⟩, fun hcs => hcs.2⟩
      · exact ⟨fun hcs => absurd hcs (by simp), fun hcs => absurd hcs.1.symm h⟩

theorem span_append (h : ∀ c ∈ cs, p c = true) (hstop : ∀ c ∈ after.head?, p c = false) :
    (cs ++ after).span p = (cs, after) := by
  have hdrop : after.dropWhile p = after := by
    cases after with
    | nil => rfl
    | cons c after => exact List.dropWhile_cons_of_neg (by simp [hstop c rfl])
  have htake : after.takeWhile p = [] := by
    cases after with
    | nil => rfl
    | cons c after => exact List.takeWhile_cons_of_neg (by simp [hstop c rfl])
  rw [List.span_eq_takeWhile_dropWhile, List.takeWhile_append_of_pos h, List.dropWhile_append_of_pos h, htake, hdrop,
    List.append_nil]

/-! ## Separators -/

theorem splitLast_append (h : sep ∉ after) : splitLast sep (before ++ sep :: after) = some (before, after) := by
  have hafter : ∀ c ∈ after.reverse, decide (c ≠ sep) = true := by
    intro c hc
    simp only [decide_eq_true_eq]
    rintro rfl
    exact h (List.mem_reverse.1 hc)
  have hreverse : (before ++ sep :: after).reverse = after.reverse ++ sep :: before.reverse := by simp
  unfold splitLast
  rw [hreverse, List.span_eq_takeWhile_dropWhile, List.takeWhile_append_of_pos hafter,
    List.dropWhile_append_of_pos hafter]
  simp

theorem splitLast_eq_none (h : sep ∉ cs) : splitLast sep cs = none := by
  have hall : ∀ c ∈ cs.reverse, decide (c ≠ sep) = true := by
    intro c hc
    simp only [decide_eq_true_eq]
    rintro rfl
    exact h (List.mem_reverse.1 hc)
  unfold splitLast
  rw [List.span_eq_takeWhile_dropWhile, List.dropWhile_eq_nil_iff.2 hall]

theorem exists_last (h : sep ∈ cs) : ∃ before after, cs = before ++ sep :: after ∧ sep ∉ after := by
  obtain ⟨after, before, hsplit, hafter⟩ := List.eq_append_cons_of_mem (List.mem_reverse.2 h)
  refine ⟨before.reverse, after.reverse, ?_, by simpa using hafter⟩
  rw [← cs.reverse_reverse, hsplit]
  simp

/-! ## Trimming -/

theorem mem_of_mem_trimBoth (h : c ∈ trimBoth p cs) : c ∈ cs := by
  have hback := (List.dropWhile_sublist p).subset (List.mem_reverse.1 h)
  exact (List.dropWhile_sublist p).subset (List.mem_reverse.1 hback)

theorem dropWhile_of_none (h : ∀ c ∈ cs, p c = false) : cs.dropWhile p = cs := by
  cases cs with
  | nil => rfl
  | cons c cs => exact List.dropWhile_cons_of_neg (by simp [h c List.mem_cons_self])

theorem trimBoth_of_ends (hfirst : p first = false) (hlast : p last = false) :
    trimBoth p (first :: (cs ++ [last])) = first :: (cs ++ [last]) := by
  have hback : (first :: (cs ++ [last])).reverse = last :: (cs.reverse ++ [first]) := by simp
  unfold trimBoth
  rw [List.dropWhile_cons_of_neg (by simp [hfirst]), hback, List.dropWhile_cons_of_neg (by simp [hlast])]
  simp

/-- what stands between two characters that are trimmed is left -/
theorem trimBoth_between (hfirst : p first = true) (hlast : p last = true) (h : ∀ c ∈ cs, p c = false) :
    trimBoth p (first :: (cs ++ [last])) = cs := by
  have hfront : (cs ++ [last]).dropWhile p = if cs.isEmpty then [] else cs ++ [last] := by
    rw [List.dropWhile_append, dropWhile_of_none h]
    simp [hlast]
  unfold trimBoth
  rw [List.dropWhile_cons_of_pos hfirst, hfront]
  split_ifs with hempty
  · simp [List.isEmpty_iff.1 hempty]
  · have hback : (cs ++ [last]).reverse = last :: cs.reverse := by simp
    rw [hback, List.dropWhile_cons_of_pos hlast, dropWhile_of_none fun c hc => h c (List.mem_reverse.1 hc)]
    exact cs.reverse_reverse

theorem trimEnd_append (h : ∀ c ∈ cs.getLast?, p c = false) (hc : p c = true) (n : Nat) :
    trimEnd p (String.ofList (cs ++ List.replicate n c)) = String.ofList cs := by
  have hall : ∀ d ∈ List.replicate n c, p d = true := by
    intro d hd
    rwa [List.eq_of_mem_replicate hd]
  have hdrop : cs.reverse.dropWhile p = cs.reverse := by
    cases hcs : cs.reverse with
    | nil => rfl
    | cons d rest =>
      have hlast : cs.getLast? = some d := by rw [← List.head?_reverse, hcs, List.head?_cons]
      exact List.dropWhile_cons_of_neg (by simp [h d hlast])
  unfold trimEnd
  rw [String.toList_ofList, List.reverse_append, List.reverse_replicate, List.dropWhile_append_of_pos hall, hdrop,
    List.reverse_reverse]

end EntityGateway.Text
