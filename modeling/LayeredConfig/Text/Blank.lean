/-!
# Blank characters

White space as Unicode lists it (`White_Space`), trimming, and the lower case
of the ASCII letters.  Every reader of a variable, a path or a list trims by
this rule.

Main statement: `trim_eq_nil`, only blank text trims to nothing.
-/

namespace LayeredConfig.Text

/-- The characters with the Unicode property `White_Space`. -/
def isBlank (c : Char) : Bool :=
  let n := c.toNat
  (9 ≤ n && n ≤ 13) || n == 0x20 || n == 0x85 || n == 0xA0 || n == 0x1680 ||
    (0x2000 ≤ n && n ≤ 0x200A) || n == 0x2028 || n == 0x2029 || n == 0x202F ||
    n == 0x205F || n == 0x3000

def trim (cs : List Char) : List Char :=
  ((cs.dropWhile isBlank).reverse.dropWhile isBlank).reverse

/-- Nothing but blanks. -/
def isBlankText (cs : List Char) : Bool :=
  cs.all isBlank

/-- The ASCII letters in lower case, all else as it is. -/
def lowerAscii (cs : List Char) : List Char :=
  cs.map Char.toLower

theorem dropWhile_eq_nil {cs : List Char} :
    cs.dropWhile isBlank = [] ↔ cs.all isBlank = true := by
  induction cs with
  | nil => simp
  | cons c rest ih =>
      by_cases blank : isBlank c
      · simp [blank, ih]
      · simp [blank]

theorem trim_eq_nil {cs : List Char} : trim cs = [] ↔ isBlankText cs = true := by
  unfold trim isBlankText
  rw [List.reverse_eq_nil_iff, dropWhile_eq_nil, ← @dropWhile_eq_nil cs]
  constructor
  · intro allBlank
    cases shape : cs.dropWhile isBlank with
    | nil => rfl
    | cons c rest =>
        have first : isBlank c = false := by
          have := List.head?_dropWhile_not isBlank cs
          simpa [shape] using this
        simp [shape, first] at allBlank
  · intro empty
    simp [empty]

end LayeredConfig.Text
