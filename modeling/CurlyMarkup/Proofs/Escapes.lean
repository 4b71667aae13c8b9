import CurlyMarkup.Proofs.Scanning
import CurlyMarkup.Tree.Lines
import Mathlib.Data.List.Basic
set_option autoImplicit false

namespace CurlyMarkup

namespace Text

variable {p : Char → Bool} {f : Char → Text} {t : Text}

theorem dropWhile_flatMap (hb : ∀ x, p x = true → f x = [x])
    (hn : ∀ x, p x = false → f x ≠ [] ∧ ∀ y ∈ f x, p y = false) (t : Text) :
    (t.flatMap f).dropWhile p = (t.dropWhile p).flatMap f := by
  induction t with
  | nil => rfl
  | cons x t ih =>
    rw [List.flatMap_cons]
    cases hx : p x with
    | true =>
      rw [hb x hx, List.singleton_append, List.dropWhile_cons_of_pos hx, ih,
        List.dropWhile_cons_of_pos hx]
    | false =>
      obtain ⟨hne, hall⟩ := hn x hx
      obtain ⟨y, u, hy⟩ := List.exists_cons_of_ne_nil hne
      have hyp : ¬ p y = true := by simp [hall y (by simp [hy])]
      rw [List.dropWhile_cons_of_neg (by simp [hx]), List.flatMap_cons, hy, List.cons_append,
        List.dropWhile_cons_of_neg hyp]

/-- Characters that are replaced by characters outside `p` do not change where a run of those in
`p` ends. -/
theorem trimEnd_flatMap (hb : ∀ x, p x = true → f x = [x])
    (hn : ∀ x, p x = false → f x ≠ [] ∧ ∀ y ∈ f x, p y = false) (t : Text) :
    trimEnd p (t.flatMap f) = (trimEnd p t).flatMap f := by
  have hb' (x : Char) (hx : p x = true) : (List.reverse ∘ f) x = [x] := by simp [hb x hx]
  have hn' (x : Char) (hx : p x = false) :
      (List.reverse ∘ f) x ≠ [] ∧ ∀ y ∈ (List.reverse ∘ f) x, p y = false := by
    simpa using hn x hx
  have back : List.reverse ∘ List.reverse ∘ f = f := by
    funext x
    exact List.reverse_reverse (f x)
  rw [trimEnd, trimEnd, List.reverse_flatMap, dropWhile_flatMap hb' hn', List.reverse_flatMap, back]

theorem strip_replace {x : Char} {new : Text} (hx : isBlank x = false) (hne : new ≠ [])
    (hnew : RunOf (!isBlank ·) new) (t : Text) :
    (t.replace x new).strip = t.strip.replace x new := by
  have hb (y : Char) (hy : isBlank y = true) : (if y = x then new else [y]) = [y] :=
    if_neg (ne_of_isBlank hy hx)
  have hn (y : Char) (hy : isBlank y = false) :
      (if y = x then new else [y]) ≠ [] ∧ ∀ z ∈ (if y = x then new else [y]), isBlank z = false := by
    split
    · exact ⟨hne, fun z hz => by simpa using hnew z hz⟩
    · simpa using hy
  rw [strip, strip, replace, dropWhile_flatMap hb hn, trimEnd_flatMap hb hn, replace]

theorem strip_eq_nil (h : RunOf isBlank t) : t.strip = [] := by
  rw [← List.isEmpty_iff, strip_isEmpty]
  exact List.all_eq_true.2 h

end Text

namespace Markup

variable {t v : Text}

theorem escapeChar_eq {x : Char} (h : x ≠ '&') :
    escapeChar x =
      if x = '<' then ("&lt;" : Text) else if x = '>' then ("&gt;" : Text) else [x] := by
  unfold escapeChar
  split <;> simp_all

/-- In a text without the marks of tags and references, one character is escaped. -/
theorem escape_eq_replace (h : RunOf isPlain t) : escape t = Text.replace t '>' "&gt;" := by
  refine List.flatMap_congr fun x hx => ?_
  obtain ⟨hl, ha⟩ := isPlain_iff.1 (h x hx)
  rw [escapeChar_eq ha, if_neg hl]

theorem isBlank_of_isAsciiSpace {x : Char} (h : isAsciiSpace x = true) : isBlank x = true := by
  have hx : x ∈ ['\t', '\n', '\x0c', '\r', ' '] := by simpa [isAsciiSpace] using h
  have all : RunOf isBlank ['\t', '\n', '\x0c', '\r', ' '] := by decide
  exact all x hx

/-- Where space comes down to one character, nothing is printed. -/
theorem strip_escape_collapse (h : RunOf isPlain t) :
    (escape (collapse t)).strip = t.strip.replace '>' "&gt;" := by
  rw [collapse]
  split
  · next hs =>
    have blank : RunOf isBlank t := fun x hx =>
      isBlank_of_isAsciiSpace (List.all_eq_true.1 hs x hx)
    rw [Text.strip_eq_nil blank]
    split <;> rfl
  · rw [escape_eq_replace h]
    exact Text.strip_replace (by decide) (by decide) (by decide) t

theorem escape_eq_replace_replace (ha : '&' ∉ v) :
    escape v = (Text.replace v '<' "&lt;").replace '>' "&gt;" := by
  rw [escape, Text.replace, Text.replace, List.flatMap_assoc]
  refine List.flatMap_congr fun x hx => ?_
  rw [escapeChar_eq fun e => ha (e ▸ hx)]
  split
  · rfl
  · rw [List.flatMap_singleton]

theorem quotedValue_eq (hq : '"' ∉ v) (ha : '&' ∉ v) :
    quotedValue v = '"' :: (Text.replace v '<' "&lt;").replace '>' "&gt;" ++ ['"'] := by
  have hc : '"' ∉ escape v := by
    intro hm
    obtain ⟨x, hx, hm⟩ := List.mem_flatMap.1 hm
    rw [escapeChar_eq fun e => ha (e ▸ hx)] at hm
    split at hm
    · revert hm
      decide
    · split at hm
      · revert hm
        decide
      · exact hq (List.mem_singleton.1 hm ▸ hx)
  rw [← escape_eq_replace_replace ha, quotedValue, if_neg (by simpa using hc)]

end Markup

theorem lastValue_cons (a : Attribute) (as : List Attribute) (n : Text) :
    lastValue (a :: as) n = ((as.findRev? (·.name = n)).map (·.value)).getD
      (if a.name = n then a.value else []) := by
  rw [lastValue, List.findRev?]
  cases as.findRev? (·.name = n) with
  | none => by_cases h : a.name = n <;> simp [h]
  | some b => rfl

theorem lastValue_cons_of_ne {a : Attribute} {n : Text} (h : a.name ≠ n) (as : List Attribute) :
    lastValue (a :: as) n = lastValue as n := by
  rw [lastValue_cons, if_neg h, lastValue]

/-- Attributes of other names have no part in the last value. -/
theorem lastValue_filter {n m : Text} (h : n ≠ m) (as : List Attribute) :
    lastValue (as.filter (·.name ≠ m)) n = lastValue as n := by
  rw [lastValue, lastValue, List.findRev?_eq_find?_reverse, List.findRev?_eq_find?_reverse,
    ← List.filter_reverse, List.find?_filter]
  congr 3
  funext a
  by_cases ha : a.name = n <;> simp [ha, h]

namespace Markup

/-- A later attribute of the name of the first one changes its value, and others go behind. -/
theorem foldl_putAttribute (as : List Attribute) (b : Attribute) (bs : List Attribute) :
    as.foldl (fun bs a => putAttribute a bs) (b :: bs) =
      ⟨b.name, lastValue (b :: as) b.name⟩ ::
        (as.filter (·.name ≠ b.name)).foldl (fun bs a => putAttribute a bs) bs := by
  induction as generalizing b bs with
  | nil => simp [lastValue, List.findRev?]
  | cons a as ih =>
    rw [List.foldl_cons, putAttribute]
    by_cases h : b.name = a.name
    · have last : lastValue (⟨b.name, a.value⟩ :: as) b.name = lastValue (b :: a :: as) b.name := by
        rw [lastValue_cons, lastValue_cons, List.findRev?]
        cases as.findRev? (·.name = b.name) <;> simp [h]
      rw [if_pos h, ih, last, List.filter_cons_of_neg (by simp [h])]
    · have last : lastValue (b :: as) b.name = lastValue (b :: a :: as) b.name := by
        rw [lastValue_cons, lastValue_cons, List.findRev?]
        cases as.findRev? (·.name = b.name) <;> simp [Ne.symm h]
      rw [if_neg h, ih, last, List.filter_cons_of_pos (by simp [Ne.symm h]), List.foldl_cons]

theorem mergeAttributes_eq : (as : List Attribute) → mergeAttributes as = distinctAttributes as
  | [] => rfl
  | a :: as => by
    have ih := mergeAttributes_eq (as.filter (·.name ≠ a.name))
    have names : (as.filter (·.name ≠ a.name)).map (·.name) =
        (as.map (·.name)).filter (fun n => !n == a.name) := by
      rw [List.filter_map]
      congr 2
      funext b
      by_cases h : b.name = a.name <;> simp [h]
    rw [mergeAttributes] at ih
    rw [mergeAttributes, List.foldl_cons, putAttribute, foldl_putAttribute, ih, distinctAttributes,
      distinctAttributes, List.map_cons, List.eraseDups_cons, List.map_cons, names]
    congr 1
    refine List.map_congr_left fun n hn => ?_
    have hne : n ≠ a.name := by
      rintro rfl
      simp at hn
    rw [lastValue_filter hne, lastValue_cons_of_ne (Ne.symm hne)]
termination_by as => as.length
decreasing_by exact Nat.lt_succ_of_le (List.length_filter_le ..)

end Markup

theorem distinctAttributes_subset (as : List Attribute) : distinctAttributes as ⊆ as := by
  intro a ha
  obtain ⟨n, hn, rfl⟩ := List.mem_map.1 ha
  obtain ⟨b, hb, hbn⟩ := List.mem_map.1 (List.mem_eraseDups.1 hn)
  have hf := List.findRev?_eq_find?_reverse (l := as) (p := (·.name = n))
  rw [lastValue, hf]
  cases hr : as.reverse.find? (·.name = n) with
  | none => exact absurd hbn (by simpa using List.find?_eq_none.1 hr b (List.mem_reverse.2 hb))
  | some c =>
    have hc := List.mem_reverse.1 (List.mem_of_find?_eq_some hr)
    have hcn : c.name = n := by simpa using List.find?_some hr
    rw [← hcn]
    exact hc

end CurlyMarkup
