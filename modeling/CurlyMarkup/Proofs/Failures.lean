import CurlyMarkup.Proofs.Repetition
set_option autoImplicit false

namespace CurlyMarkup

theorem Cursor.LeadsTo.offset_le {c d : Cursor} (h : c.LeadsTo d) : c.offset ≤ d.offset := by
  rcases h with rfl | ⟨ht, hl⟩
  · exact Nat.le_refl _
  · rw [d.rest_eq, c.rest_eq, ht] at hl
    simp only [List.length_drop] at hl
    omega

namespace Rule

/-- The rule itself announces that this text is missing. -/
inductive Announces : {α : Type} → Rule α → Text → Prop
  | refuse {α : Type} (t : Text) : (refuse t : Rule α).Announces t
  | literal (s t : Text) : (literal s t).Announces t
  | takeWhile1 (p : Char → Bool) (t : Text) : (takeWhile1 p t).Announces t
  | endOfText (t : Text) : (endOfText t).Announces t
  | relabel {α : Type} (t : Text) (r : Rule α) : (relabel t r).Announces t

/-- Failures of the first rule come out of the second one. -/
inductive PartOf : {α β : Type} → Rule α → Rule β → Prop
  | first {α β : Type} (r : Rule α) (s : Rule β) : r.PartOf (pair r s)
  | second {α β : Type} (r : Rule α) (s : Rule β) : s.PartOf (pair r s)
  | left {α : Type} (r s : Rule α) : r.PartOf (orElse r s)
  | right {α : Type} (r s : Rule α) : s.PartOf (orElse r s)
  | relabel {α : Type} (t : Text) (r : Rule α) : r.PartOf (relabel t r)
  | optional {α : Type} (r : Rule α) : r.PartOf (optional r)
  | many {α : Type} (r : Rule α) : r.PartOf (many r)
  | item {α β : Type} (r : Rule α) (s : Rule β) : r.PartOf (separated r s)
  | separator {α β : Type} (r : Rule α) (s : Rule β) : s.PartOf (separated r s)
  | map {α β : Type} (g : α → β) (r : Rule α) : r.PartOf (map g r)
  | opening {η β : Type} (r : Rule η) (s : Rule (Turn η β)) (build : η → List β → β) :
      r.PartOf (nested r s build)
  | turn {η β : Type} (r : Rule η) (s : Rule (Turn η β)) (build : η → List β → β) :
      s.PartOf (nested r s build)

/-- A way in which the rule can fail at the cursor. -/
inductive Fails : {α : Type} → Rule α → Cursor → Failure → Prop
  | missing {α : Type} {r : Rule α} {t : Text} (c : Cursor) (h : r.Announces t) :
      r.Fails c (c.missing t)
  | unescape {normal : Char → Bool} {mark : Char} {table : EscapeTable} {k : Construct}
      {c d : Cursor} (hd : c.LeadsTo d) :
      (unescape normal mark table k).Fails c ⟨d, table.expected mark, some k, true⟩
  | part {α β : Type} {s : Rule α} {r : Rule β} {c d : Cursor} {f : Failure} (hs : s.PartOf r)
      (hd : c.LeadsTo d) (h : s.Fails d f) : r.Fails c f
  | commit {α : Type} {r : Rule α} {c : Cursor} {f : Failure} (h : r.Fails c f) :
      r.commit.Fails c f.commit
  | blame {α : Type} {r : Rule α} {c : Cursor} {f : Failure} (k : Construct) (h : r.Fails c f) :
      (r.blame k).Fails c (f.blame k)

/-- Each way in which a rule fails is a failure of one of its parts, perhaps blamed on more. -/
theorem fails_of_run {α : Type} (r : Rule α) {c : Cursor} {f : Failure} (h : r.run c = .fail f) :
    r.Fails c f := by
  induction r generalizing c f with
  | succeed a => simp [run_succeed] at h
  | takeWhile p => simp [run_takeWhile] at h
  | refuse t =>
    cases h
    exact .missing c (.refuse t)
  | literal s t =>
    rw [literal_eq_fail h]
    exact .missing c (.literal s t)
  | takeWhile1 p t =>
    rw [takeWhile1_eq_fail h]
    exact .missing c (.takeWhile1 p t)
  | endOfText t =>
    rw [endOfText_eq_fail h]
    exact .missing c (.endOfText t)
  | unescape normal mark table k =>
    rw [run_unescape] at h
    split at h
    · cases h
      exact .unescape (.skip c _ fun e => by rw [e, length_unescape_nil])
    · simp at h
  | pair r s ihr ihs =>
    rcases Result.bind_eq_fail h with h | ⟨a, d, hd, h⟩
    · exact .part (.first r s) (.refl c) (ihr h)
    · exact .part (.second r s) (r.leadsFrom c a d hd) (ihs (Result.map_eq_fail.1 h))
  | orElse r s ihr ihs =>
    rcases Result.recover_eq_fail h with h | ⟨_, h⟩
    · exact .part (.left r s) (.refl c) (ihr h)
    · exact .part (.right r s) (.refl c) (ihs h)
  | relabel t r ih =>
    rcases Result.recover_eq_fail h with h | ⟨_, h⟩
    · exact .part (.relabel t r) (.refl c) (ih h)
    · cases h
      exact .missing c (.relabel t r)
  | optional r ih =>
    rcases Result.recover_eq_fail h with h | ⟨_, h⟩
    · exact .part (.optional r) (.refl c) (ih (Result.map_eq_fail.1 h))
    · simp at h
  | many r ih =>
    obtain ⟨d, hd, h⟩ := Result.many_eq_fail r.leadsFrom h
    exact .part (.many r) hd (ih h)
  | separated r s ihr ihs =>
    rw [run_separated] at h
    split at h
    · next a d hd =>
      obtain ⟨e, he, hf⟩ :=
        Result.separated_eq_fail r.leadsFrom s.leadsFrom (Result.map_eq_fail.1 h)
      have hce : c.LeadsTo e := (r.leadsFrom c a d hd).trans he
      rcases hf with hf | hf
      · exact .part (.item r s) hce (ihr hf)
      · exact .part (.separator r s) hce (ihs hf)
    · next e he =>
      split at h
      · cases h
        exact .part (.item r s) (.refl c) (ihr he)
      · simp at h
    · simp at h
  | map g r ih => exact .part (.map g r) (.refl c) (ih (Result.map_eq_fail.1 h))
  | commit r ih =>
    obtain ⟨e, he, rfl⟩ := Result.mapFailure_eq_fail.1 h
    exact .commit (ih he)
  | blame k r ih =>
    obtain ⟨e, he, rfl⟩ := Result.mapFailure_eq_fail.1 h
    exact .blame k (ih he)
  | nested opening turn build iho iht =>
    rcases Result.bind_eq_fail h with h | ⟨a, d, hd, h⟩
    · exact .part (.opening opening turn build) (.refl c) (iho h)
    · obtain ⟨e, he, hf⟩ := Result.nested_eq_fail turn.leadsFrom h
      exact .part (.turn opening turn build) ((opening.leadsFrom c a d hd).trans he) (iht hf)

/-- A failure stands where the rule began or further on in the same text. -/
theorem Fails.leadsTo {α : Type} {r : Rule α} {c : Cursor} {f : Failure} (h : r.Fails c f) :
    c.LeadsTo f.cursor := by
  induction h with
  | missing c h => exact .refl c
  | unescape hd => exact hd
  | part hs hd h ih => exact hd.trans ih
  | commit h ih => exact ih
  | blame k h ih => exact ih

/-- Everything that the rule and its parts announce. -/
def expectations : {α : Type} → Rule α → List Text
  | _, .succeed _ | _, .takeWhile _ => []
  | _, .refuse t | _, .literal _ t | _, .takeWhile1 _ t | _, .endOfText t => [t]
  | _, .unescape _ mark table _ => [table.expected mark]
  | _, .pair r s | _, .separated r s | _, .nested r s _ => r.expectations ++ s.expectations
  | _, .orElse r s => r.expectations ++ s.expectations
  | _, .relabel t r => t :: r.expectations
  | _, .optional r | _, .many r | _, .map _ r | _, .commit r | _, .blame _ r => r.expectations

/-- What the failures of a rule can be blamed on, going by its parts. -/
def blamed : {α : Type} → Rule α → List (Option Construct)
  | _, .succeed _ | _, .takeWhile _ => []
  | _, .refuse _ | _, .literal _ _ | _, .takeWhile1 _ _ | _, .endOfText _ => [none]
  | _, .unescape _ _ _ k => [some k]
  | _, .pair r s | _, .separated r s => r.blamed ++ s.blamed
  | _, .orElse r s => r.blamed ++ s.blamed
  | _, .relabel _ r => none :: r.blamed
  | _, .optional r | _, .many r | _, .map _ r | _, .commit r => r.blamed
  | _, .blame k r => r.blamed.map (· <|> some k)
  | _, .nested opening turn _ => opening.blamed ++ turn.blamed

/-- No failure of the rule that is committed is left to be blamed on anything else. -/
def blamesCommitted : {α : Type} → Rule α → Bool
  | _, .succeed _ | _, .takeWhile _ | _, .refuse _ | _, .literal _ _ | _, .takeWhile1 _ _
  | _, .endOfText _ | _, .unescape _ _ _ _ | _, .blame _ _ => true
  | _, .pair r s | _, .separated r s => r.blamesCommitted && s.blamesCommitted
  | _, .orElse r s => r.blamesCommitted && s.blamesCommitted
  | _, .relabel _ r | _, .optional r | _, .many r | _, .map _ r => r.blamesCommitted
  | _, .commit r => !r.blamed.contains none
  | _, .nested opening turn _ => opening.blamesCommitted && turn.blamesCommitted

section

variable {α β : Type} {r : Rule α} {s : Rule β} {c : Cursor} {f : Failure} {t : Text}
  {k : Option Construct}

theorem Announces.mem_expectations (h : r.Announces t) : t ∈ r.expectations := by
  cases h <;> simp [expectations]

theorem PartOf.mem_expectations (h : r.PartOf s) (ht : t ∈ r.expectations) :
    t ∈ s.expectations := by
  cases h <;> simp [expectations, ht]

theorem Fails.expected_mem (h : r.Fails c f) : f.expected ∈ r.expectations := by
  induction h with
  | missing c h => exact h.mem_expectations
  | unescape hd => exact List.mem_singleton.2 rfl
  | part hs hd h ih => exact hs.mem_expectations ih
  | commit h ih => exact ih
  | blame k h ih => exact ih

theorem Announces.none_mem_blamed (h : r.Announces t) : none ∈ r.blamed := by
  cases h <;> simp [blamed]

theorem PartOf.mem_blamed (h : r.PartOf s) (hk : k ∈ r.blamed) : k ∈ s.blamed := by
  cases h <;> simp [blamed, hk]

theorem Fails.construct_mem_blamed (h : r.Fails c f) : f.construct ∈ r.blamed := by
  induction h with
  | missing c h => exact h.none_mem_blamed
  | unescape hd => exact List.mem_singleton.2 rfl
  | part hs hd h ih => exact hs.mem_blamed ih
  | commit h ih => exact ih
  | blame k h ih => exact List.mem_map.2 ⟨_, ih, rfl⟩

theorem PartOf.blamesCommitted (h : r.PartOf s) (hs : s.blamesCommitted = true) :
    r.blamesCommitted = true := by
  cases h <;> simp_all [Rule.blamesCommitted]

theorem Fails.construct_ne_none (h : r.Fails c f) (hr : r.blamesCommitted = true)
    (hf : f.committed = true) : f.construct ≠ none := by
  induction h with
  | missing c h => cases hf
  | unescape hd => simp
  | part hs hd h ih => exact ih (hs.blamesCommitted hr) hf
  | @commit _ r c f h ih =>
    intro hn
    have hm : none ∈ r.blamed := hn ▸ h.construct_mem_blamed
    simp [Rule.blamesCommitted, hm] at hr
  | @blame _ r c f k h ih =>
    cases hk : f.construct <;> simp [Failure.blame, hk]

end

end Rule

end CurlyMarkup
