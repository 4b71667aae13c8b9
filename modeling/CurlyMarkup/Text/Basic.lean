set_option autoImplicit false

namespace CurlyMarkup

abbrev Text := List Char

instance : Coe String Text := ⟨String.toList⟩

/-- Membership in a set of numbers given by the ascending points at which it begins and ends. -/
def betweenEdges : List Nat → Nat → Bool
  | [], _ => false
  | e :: es, n => if n < e then false else !betweenEdges es n

def Text.ofNat (n : Nat) : Text := Nat.toDigits 10 n

def Text.ofInt : Int → Text
  | .ofNat n => Text.ofNat n
  | .negSucc n => '-' :: Text.ofNat (n+1)

/-- The most digits that a decimal number is read from, zeros in front included. -/
def maxDigits : Nat := 4300

def Text.padRight (width : Nat) (t : Text) : Text := t ++ List.replicate (width-t.length) ' '

/-- Whether the first text does not come after the second, character by character. -/
def Text.isUpTo : Text → Text → Bool
  | [], _ => true
  | _ :: _, [] => false
  | c :: s, d :: t => c.toNat < d.toNat || (c = d && Text.isUpTo s t)

/-- Drops the characters in `p` from the end. -/
def Text.trimEnd (p : Char → Bool) (t : Text) : Text := (t.reverse.dropWhile p).reverse

/-- Cuts at the first occurrence of `c`, which goes with neither part. -/
def Text.cut? (c : Char) : Text → Option (Text × Text)
  | [] => none
  | x :: t => if x = c then some ([], t) else (Text.cut? c t).map fun (a, b) => (x :: a, b)

/-- A text is cut where the character occurs first, and nowhere if it does not occur. -/
theorem Text.cut?_eq_some {c : Char} {t a b : Text} :
    Text.cut? c t = some (a, b) ↔ t = a ++ c :: b ∧ c ∉ a := by
  induction t generalizing a with
  | nil => simp [cut?]
  | cons x t ih =>
    by_cases hx : x = c
    · subst hx
      rw [cut?, if_pos rfl, Option.some.injEq, Prod.mk.injEq]
      constructor
      · rintro ⟨rfl, rfl⟩
        simp
      · rintro ⟨h, hn⟩
        cases a with
        | nil => simpa using h
        | cons y a => simp_all
    · rw [cut?, if_neg hx, Option.map_eq_some_iff]
      constructor
      · rintro ⟨⟨a', b'⟩, hc, he⟩
        obtain ⟨rfl, rfl⟩ := Prod.mk.inj he
        obtain ⟨rfl, hn⟩ := ih.1 hc
        simp [hn, Ne.symm hx]
      · rintro ⟨h, hn⟩
        cases a with
        | nil => simp_all
        | cons y a =>
          rw [List.cons_append, List.cons.injEq] at h
          obtain ⟨rfl, rfl⟩ := h
          rw [List.mem_cons, not_or] at hn
          exact ⟨(a, b), ih.2 ⟨rfl, hn.2⟩, rfl⟩

/-- The first mark behind a text without it is where the text ends. -/
theorem Text.cut?_append {c : Char} {s : Text} (h : c ∉ s) (t : Text) :
    Text.cut? c (s ++ c :: t) = some (s, t) := cut?_eq_some.2 ⟨rfl, h⟩

/-- The pieces between the occurrences of `c`. -/
def Text.split (c : Char) : Text → List Text
  | [] => [[]]
  | x :: t =>
    if x = c then [] :: Text.split c t
    else match Text.split c t with
      | [] => [[x]]
      | p :: ps => (x :: p) :: ps

/-- The white space of every script, the line separators and the four information separators of
ASCII. -/
def isBlank (c : Char) : Bool :=
  let n := c.toNat
  if n < 128 then n = 32 || (9 ≤ n && n ≤ 13) || (28 ≤ n && n ≤ 31)
  else [0x85, 0xa0, 0x1680, 0x2028, 0x2029, 0x202f, 0x205f, 0x3000].contains n ||
    (0x2000 ≤ n && n ≤ 0x200a)

def Text.strip (t : Text) : Text := Text.trimEnd isBlank (t.dropWhile isBlank)

theorem Text.dropWhile_isEmpty (p : Char → Bool) (t : Text) :
    (t.dropWhile p).isEmpty = t.all p := by
  induction t with
  | nil => rfl
  | cons x t ih => by_cases hx : p x = true <;> simp [hx, ih]

theorem Text.all_dropWhile (p : Char → Bool) (t : Text) : (t.dropWhile p).all p = t.all p := by
  induction t with
  | nil => rfl
  | cons x t ih => by_cases hx : p x = true <;> simp [hx, ih]

/-- Nothing is left of blanks, and something of any other text. -/
theorem Text.strip_isEmpty (t : Text) : t.strip.isEmpty = t.all isBlank := by
  rw [strip, trimEnd, List.isEmpty_reverse, dropWhile_isEmpty, List.all_reverse, all_dropWhile]

end CurlyMarkup
