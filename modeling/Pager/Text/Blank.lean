namespace Pager.Text

/-- The code points of the property `White_Space`, as closed ranges in rising order. -/
def blankRanges : List (Nat × Nat) :=
  [(0x09, 0x0d), (0x20, 0x20), (0x85, 0x85), (0xa0, 0xa0), (0x1680, 0x1680), (0x2000, 0x200a),
   (0x2028, 0x2029), (0x202f, 0x202f), (0x205f, 0x205f), (0x3000, 0x3000)]

def isBlank (c : Char) : Bool :=
  blankRanges.any fun (lo, hi) => lo ≤ c.toNat && c.toNat ≤ hi

def trimLeft (s : List Char) : List Char :=
  s.dropWhile isBlank

def trimRight (s : List Char) : List Char :=
  (s.reverse.dropWhile isBlank).reverse

/-- The text without the blanks at its two ends. -/
def trim (s : String) : String :=
  String.ofList (trimRight (trimLeft s.toList))

theorem trimLeft_cons_of_blank {c : Char} {s : List Char} (blank : isBlank c = true) :
    trimLeft (c :: s) = trimLeft s := by
  simp [trimLeft, blank]

theorem trimLeft_cons_of_not_blank {c : Char} {s : List Char} (dark : isBlank c = false) :
    trimLeft (c :: s) = c :: s := by
  simp [trimLeft, dark]

end Pager.Text
