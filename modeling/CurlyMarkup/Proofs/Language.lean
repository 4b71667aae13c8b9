import CurlyMarkup.Grammar
set_option autoImplicit false

/-!
The language of documents as a context-free grammar. Each relation holds between a word and what
the word stands for; where a word is made of several parts, any way to divide it will do, and where
there are several forms, any of them.

    document     := blank* doctype blank* element blank*
    doctype      := ("!doctype" | "!DOCTYPE") blank+ "{" blank* string blank* "}"
    element      := name id? class* blank* attributes? blank* "{" content blank* "}"
    content      := (blank* item)*
    item         := element | string
    id           := "#" name
    class        := "." name
    attributes   := "[" blank* (attribute (blank+ attribute)*)? blank* "]"
    attribute    := attribute-name "=" string
-/

namespace CurlyMarkup

/-- Any number of characters in `p`. -/
def RunOf (p : Char → Bool) (s : Text) : Prop := ∀ x ∈ s, p x = true

instance (p : Char → Bool) (s : Text) : Decidable (RunOf p s) :=
  decidable_of_iff (s.all p = true) List.all_eq_true

theorem RunOf.append {p : Char → Bool} {s t : Text} (hs : RunOf p s) (ht : RunOf p t) :
    RunOf p (s ++ t) :=
  fun x hx => (List.mem_append.1 hx).elim (hs x) (ht x)

theorem RunOf.takeWhile (p : Char → Bool) (s : Text) : RunOf p (s.takeWhile p) :=
  List.all_eq_true.1 List.all_takeWhile

abbrev BlankWord (s : Text) : Prop := RunOf isBlank s

/-- At least one character, and all of them in `p`. -/
structure WordOf (p : Char → Bool) (s : Text) : Prop where
  ne_nil : s ≠ []
  run : RunOf p s

instance (p : Char → Bool) (s : Text) : Decidable (WordOf p s) :=
  decidable_of_iff (s ≠ [] ∧ RunOf p s) ⟨fun ⟨h, k⟩ => ⟨h, k⟩, fun h => ⟨h.ne_nil, h.run⟩⟩

theorem WordOf.of_takeWhile {p : Char → Bool} {s t : Text} {x : Char}
    (h : t.takeWhile p = x :: s) : WordOf p (x :: s) := ⟨by simp, h ▸ .takeWhile p t⟩

abbrev NameWord (s : Text) : Prop := WordOf isNameChar s

abbrev AttributeNameWord (s : Text) : Prop := WordOf isAttributeNameChar s

/-- What stands between the quotes of a string. Nothing but `\\`, `\"` and `\n` is an escape. -/
inductive StringBody : Text → Text → Prop where
  | nil : StringBody [] []
  | plain {x : Char} {s v : Text} (quote : x ≠ '"') (mark : x ≠ '\\') (rest : StringBody s v) :
      StringBody (x :: s) (x :: v)
  | backslash {s v : Text} (rest : StringBody s v) : StringBody ('\\' :: '\\' :: s) ('\\' :: v)
  | quote {s v : Text} (rest : StringBody s v) : StringBody ('\\' :: '"' :: s) ('"' :: v)
  | newline {s v : Text} (rest : StringBody s v) : StringBody ('\\' :: 'n' :: s) ('\n' :: v)

theorem StringBody.append {s t v w : Text} (h : StringBody s v) (k : StringBody t w) :
    StringBody (s ++ t) (v ++ w) := by
  induction h with
  | nil => exact k
  | plain hq hm _ ih => exact .plain hq hm ih
  | backslash _ ih => exact .backslash ih
  | quote _ ih => exact .quote ih
  | newline _ ih => exact .newline ih

inductive StringWord : Text → Text → Prop where
  | mk {s v : Text} (body : StringBody s v) : StringWord ('"' :: s ++ ['"']) v

inductive IdWord : Text → Text → Prop where
  | mk {n : Text} (name : NameWord n) : IdWord ('#' :: n) n

inductive ClassWord : Text → Text → Prop where
  | mk {n : Text} (name : NameWord n) : ClassWord ('.' :: n) n

/-- A part that may be missing. -/
inductive OptionalWord {α : Type} (L : Text → α → Prop) : Text → Option α → Prop where
  | absent : OptionalWord L [] none
  | present {s : Text} {a : α} (word : L s a) : OptionalWord L s (some a)

/-- Any number of parts, one after another. -/
inductive ManyWords {α : Type} (L : Text → α → Prop) : Text → List α → Prop where
  | nil : ManyWords L [] []
  | cons {s t : Text} {a : α} {as : List α} (word : L s a) (rest : ManyWords L t as) :
      ManyWords L (s ++ t) (a :: as)

theorem ManyWords.single {α : Type} {L : Text → α → Prop} {s : Text} {a : α} (h : L s a) :
    ManyWords L s [a] := by
  simpa using ManyWords.cons h .nil

/-- A part of which nothing is kept, and then one that counts. -/
inductive AfterWord {α : Type} (M : Text → Prop) (L : Text → α → Prop) : Text → α → Prop where
  | mk {s t : Text} {a : α} (before : M s) (word : L t a) : AfterWord M L (s ++ t) a

/-- Any number of parts with something in `M` between them. -/
inductive SeparatedWords {α : Type} (M : Text → Prop) (L : Text → α → Prop) :
    Text → List α → Prop where
  | nil : SeparatedWords M L [] []
  | cons {s t : Text} {a : α} {as : List α} (first : L s a)
      (others : ManyWords (AfterWord M L) t as) : SeparatedWords M L (s ++ t) (a :: as)

inductive AttributeWord : Text → Attribute → Prop where
  | mk {n s v : Text} (name : AttributeNameWord n) (value : StringWord s v) :
      AttributeWord (n ++ '=' :: s) ⟨n, v⟩

inductive AttributesWord : Text → List Attribute → Prop where
  | mk {w s w' : Text} {as : List Attribute} (before : BlankWord w)
      (list : SeparatedWords (WordOf isBlank) AttributeWord s as) (after : BlankWord w') :
      AttributesWord ('[' :: w ++ s ++ w' ++ [']']) as

/-- The classes of an element, if there are any. -/
def classesOf (names : List Text) : Option (List Text) := if names.isEmpty then none else some names

/-- What stands between the name of an element and its content. -/
inductive SelectorsWord : Text → Option Text × List Text × Option (List Attribute) → Prop where
  | mk {s t w u w' : Text} {i : Option Text} {cs : List Text} {as : Option (List Attribute)}
      (id : OptionalWord IdWord s i) (classes : ManyWords ClassWord t cs) (before : BlankWord w)
      (attributes : OptionalWord AttributesWord u as) (after : BlankWord w') :
      SelectorsWord (s ++ t ++ w ++ u ++ w' ++ ['\x7b']) (i, cs, as)

inductive HeadWord : Text → Head → Prop where
  | mk {n s : Text} {i : Option Text} {cs : List Text} {as : Option (List Attribute)}
      (name : NameWord n) (selectors : SelectorsWord s (i, cs, as)) :
      HeadWord (n ++ s) ⟨n, i, classesOf cs, as⟩

mutual

inductive ElementWord : Text → Element → Prop where
  | mk {s t w : Text} {h : Head} {ns : List Node} (head : HeadWord s h)
      (content : ContentWord t ns) (after : BlankWord w) :
      ElementWord (s ++ t ++ w ++ ['\x7d']) ⟨h, ns⟩

inductive ItemWord : Text → Node → Prop where
  | element {s : Text} {e : Element} (word : ElementWord s e) : ItemWord s e.toNode
  | string {s v : Text} (word : StringWord s v) : ItemWord s (.text v)

inductive ContentWord : Text → List Node → Prop where
  | nil : ContentWord [] []
  | cons {w s t : Text} {n : Node} {ns : List Node} (before : BlankWord w) (item : ItemWord s n)
      (rest : ContentWord t ns) : ContentWord (w ++ s ++ t) (n :: ns)

end

theorem contentWord_iff {s : Text} {ns : List Node} :
    ContentWord s ns ↔ ManyWords (AfterWord BlankWord ItemWord) s ns := by
  refine ⟨fun h => ?_, fun h => ?_⟩
  · induction ns generalizing s with
    | nil => cases h; exact .nil
    | cons n ns ih =>
      cases h with
      | cons hw hi ht => exact .cons (.mk hw hi) (ih ht)
  · induction h with
    | nil => exact .nil
    | cons hw _ ih =>
      obtain ⟨hb, hi⟩ := hw
      exact .cons hb hi ih

inductive DoctypeKeyword : Text → Prop where
  | lower : DoctypeKeyword "!doctype"
  | upper : DoctypeKeyword "!DOCTYPE"

/-- The declaration is kept in the form in which the output has it. -/
inductive DoctypeWord : Text → Text → Prop where
  | mk {k b w s v w' : Text} (keyword : DoctypeKeyword k) (blanks : WordOf isBlank b)
      (before : BlankWord w) (string : StringWord s v) (after : BlankWord w') :
      DoctypeWord (k ++ b ++ '\x7b' :: w ++ s ++ w' ++ ['\x7d'])
        (("<!DOCTYPE " : Text) ++ v ++ (">\n" : Text))

/-- An element that stands alone between blanks. -/
inductive RootWord : Text → Element → Prop where
  | mk {w s w' : Text} {e : Element} (before : BlankWord w) (root : ElementWord s e)
      (after : BlankWord w') : RootWord (w ++ s ++ w') e

inductive DocumentWord : Text → Document → Prop where
  | mk {w s t : Text} {d : Text} {e : Element} (before : BlankWord w) (doctype : DoctypeWord s d)
      (root : RootWord t e) : DocumentWord (w ++ s ++ t) ⟨d, e⟩

/-- The blank characters beyond ASCII. -/
def wideBlanks : List Nat :=
  [0x85, 0xa0, 0x1680, 0x2028, 0x2029, 0x202f, 0x205f, 0x3000] ++ List.range' 0x2000 11

theorem betweenEdges_wideBlanks :
    ∀ n ∈ wideBlanks, betweenEdges alphanumericEdges n = false := by decide +kernel

theorem isAlphanumeric_of_isBlank {x : Char} (h : isBlank x = true) : isAlphanumeric x = false := by
  simp only [isBlank] at h
  rw [isAlphanumeric]
  split at h
  · next hn =>
    have hx : x.toNat = 32 ∨ (9 ≤ x.toNat ∧ x.toNat ≤ 13) ∨ (28 ≤ x.toNat ∧ x.toNat ≤ 31) := by
      simpa [or_assoc] using h
    simp only [hn, ↓reduceIte]
    rw [Bool.eq_false_iff]
    intro ha
    change (decide (65 ≤ x.toNat ∧ x.toNat ≤ 90) ||
      (decide (97 ≤ x.toNat) && decide (x.toNat ≤ 122)) ||
      (decide (48 ≤ x.toNat) && decide (x.toNat ≤ 57))) = true at ha
    simp only [Bool.or_eq_true, Bool.and_eq_true, decide_eq_true_eq] at ha
    omega
  · next hn =>
    simp only [hn, ↓reduceIte]
    apply betweenEdges_wideBlanks
    simp only [List.contains_iff_mem, Bool.or_eq_true, Bool.and_eq_true, decide_eq_true_eq] at h
    simp only [wideBlanks, List.mem_append, List.mem_range'_1]
    rcases h with h | ⟨hlow, hup⟩
    · exact .inl h
    · exact .inr ⟨hlow, by omega⟩

theorem ne_of_isBlank {x y : Char} (hx : isBlank x = true) (hy : isBlank y = false) : x ≠ y := by
  rintro rfl
  simp [hy] at hx

theorem isNameChar_of_isBlank {x : Char} (h : isBlank x = true) : isNameChar x = false := by
  simp [isNameChar, isAlphanumeric_of_isBlank h, ne_of_isBlank h (y := '_') (by decide)]

theorem isAttributeNameChar_of_isBlank {x : Char} (h : isBlank x = true) :
    isAttributeNameChar x = false := by
  have hn := isNameChar_of_isBlank h
  rw [isNameChar] at hn
  simp [isAttributeNameChar, hn, ne_of_isBlank h (y := '-') (by decide)]

end CurlyMarkup
