namespace Pager.Text

def isAscii (c : Char) : Bool :=
  c.toNat < 0x80

/-- The text with the ASCII capitals lowered and every other character kept. -/
def lowerAscii (s : String) : String :=
  String.ofList (s.toList.map Char.toLower)

/-- Whether two names are one name when the case of ASCII letters is ignored. -/
def sameName (a b : String) : Bool :=
  lowerAscii a == lowerAscii b

theorem sameName_refl (a : String) : sameName a a = true := by
  simp [sameName]

theorem sameName_comm (a b : String) : sameName a b = sameName b a := by
  simp only [sameName]
  exact Bool.beq_comm

theorem sameName_iff {a b : String} : sameName a b = true ↔ lowerAscii a = lowerAscii b :=
  beq_iff_eq

/-- One name is as good as another when names are compared. -/
theorem sameName_congr {a b : String} (same : sameName a b = true) (name : String) :
    sameName name a = sameName name b := by
  rw [sameName, sameName, sameName_iff.mp same]

/-- Of names that differ, a name is the same as one only. -/
theorem find?_sameName {α : Type} (key : α → String) {xs : List α} {x : α} {name : String}
    (distinct : (xs.map key).Pairwise fun a b => sameName a b = false) (member : x ∈ xs)
    (same : sameName (key x) name = true) : xs.find? (fun y => sameName (key y) name) = some x := by
  induction xs with
  | nil => cases member
  | cons y ys ih =>
    obtain ⟨first, others⟩ := List.pairwise_cons.mp distinct
    rcases List.mem_cons.mp member with rfl | later
    · exact List.find?_cons_of_pos same
    · have differs : sameName (key y) name = false :=
        sameName_congr same (key y) ▸ first _ (List.mem_map_of_mem later)
      rw [List.find?_cons_of_neg (by simp [differs]), ih others later]

/-- The lowered form of a character. Two characters outside ASCII lower to a text with an ASCII
letter in it, the Kelvin sign and the dotted capital I; the others are kept. -/
def lowered (c : Char) : List Char :=
  if c = '\u212a' then ['k']
  else if c = '\u0130' then ['i', '\u0307']
  else [c.toLower]

def loweredText (s : String) : List Char :=
  s.toList.flatMap lowered

end Pager.Text
