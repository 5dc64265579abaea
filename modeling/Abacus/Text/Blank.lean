/-!
# Blank characters

The characters of the Unicode property White_Space, and the text between the blanks.

Trimming removes blanks at both ends and nothing else. Beside it stand the other cuts of a text: at
the first separator (`cut`, pinned down by `eq_of_cut` and `cut_eq_none_iff`) and at every one
(`pieces`).
-/

namespace Abacus.Text

/-- A character of the Unicode property White_Space. -/
def isBlank (c : Char) : Bool :=
  let n := c.toNat
  (9 ≤ n && n ≤ 13) || n == 0x20 || n == 0x85 || n == 0xA0 || n == 0x1680 ||
    (0x2000 ≤ n && n ≤ 0x200A) || n == 0x2028 || n == 0x2029 || n == 0x202F || n == 0x205F ||
    n == 0x3000

/-- The text after its leading blanks. -/
def trimStart (cs : List Char) : List Char := cs.dropWhile isBlank

/-- The text before its trailing blanks. -/
def trimEnd (cs : List Char) : List Char := (cs.reverse.dropWhile isBlank).reverse

/-- The text between its leading and its trailing blanks. -/
def trim (cs : List Char) : List Char := trimEnd (trimStart cs)

/-- The text before the first `sep` and the text after it, if there is one. -/
def cut (sep : Char) : List Char → Option (List Char × List Char)
  | [] => none
  | c :: cs => if c = sep then some ([], cs) else (cut sep cs).map fun (a, b) => (c :: a, b)

/-- Capital ASCII letters made small. -/
def lowerAscii (cs : List Char) : List Char := cs.map Char.toLower

/-- Small ASCII letters made capital. -/
def upperAscii (cs : List Char) : List Char := cs.map Char.toUpper

/-- The pieces between the occurrences of `sep`: one more than there are occurrences. -/
def pieces (sep : Char) : List Char → List (List Char)
  | [] => [[]]
  | c :: cs =>
    if c = sep then [] :: pieces sep cs
    else match pieces sep cs with
      | [] => [[c]]
      | p :: ps => (c :: p) :: ps

/-- The texts with `sep` between neighbours. -/
def joined (sep : String) : List String → String
  | [] => ""
  | [s] => s
  | s :: rest => s ++ sep ++ joined sep rest

/-! ## Lemmas -/

theorem cut_eq_none_iff {sep : Char} {cs : List Char} : cut sep cs = none ↔ sep ∉ cs := by
  induction cs with
  | nil => simp [cut]
  | cons c cs ih =>
    by_cases h : c = sep
    · simp [cut, h]
    · simp [cut, h, ih, Ne.symm h]

theorem eq_of_cut {sep : Char} {cs a b : List Char} (h : cut sep cs = some (a, b)) :
    cs = a ++ sep :: b ∧ sep ∉ a := by
  induction cs generalizing a with
  | nil => simp [cut] at h
  | cons c cs ih =>
    by_cases hc : c = sep
    · simp only [cut, hc, if_true, Option.some.injEq, Prod.mk.injEq] at h
      obtain ⟨rfl, rfl⟩ := h
      simp [hc]
    · simp only [cut, hc, if_false, Option.map_eq_some_iff, Prod.exists, Prod.mk.injEq] at h
      obtain ⟨a', b', h', rfl, rfl⟩ := h
      obtain ⟨rfl, hn⟩ := ih h'
      simp [hn, Ne.symm hc]

end Abacus.Text
