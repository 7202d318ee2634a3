import Pager.Proofs.Text.Letters
import Pager.Proofs.Url.Percent
import Pager.Url.Path

namespace Pager.Url

open Text (eq_of_toLower of_toLower toBytes)

theorem decodeBytes_dot {w rest : List Char} (lower : w.map Char.toLower = '.' :: rest) :
    ∃ w', w'.map Char.toLower = rest ∧ decodeBytes w = 0x2e :: decodeBytes w' := by
  obtain ⟨c, w', rfl, dot, behind⟩ := List.map_eq_cons_iff.mp lower
  cases eq_of_toLower dot (by decide)
  have byte : toBytes (String.singleton '.') = [0x2e] := by rw [Text.toBytes_eq]; rfl
  refine ⟨w', behind, ?_⟩
  rw [decodeBytes_cons (by decide), byte]
  rfl

theorem decodeBytes_escapedDot {w rest : List Char}
    (lower : w.map Char.toLower = '%' :: '2' :: 'e' :: rest) :
    ∃ w', w'.map Char.toLower = rest ∧ decodeBytes w = 0x2e :: decodeBytes w' := by
  obtain ⟨sign, _, rfl, isSign, lower⟩ := List.map_eq_cons_iff.mp lower
  obtain ⟨two, _, rfl, isTwo, lower⟩ := List.map_eq_cons_iff.mp lower
  obtain ⟨letter, w', rfl, isLetter, behind⟩ := List.map_eq_cons_iff.mp lower
  cases eq_of_toLower isSign (by decide)
  cases eq_of_toLower isTwo (by decide)
  have byte : Text.digitsIn? 16 ['2', letter] = some 0x2e := by
    rcases of_toLower isLetter with rfl | ⟨value, _⟩
    · decide
    · have capital : letter = 'E' := Char.toNat_inj.mp (Nat.add_right_cancel value)
      subst capital
      decide
  refine ⟨w', behind, ?_⟩
  simp [decodeBytes, byte]

theorem decodeBytes_single {w : List Char} (single : isSingle w = true) :
    decodeBytes w = toBytes "." := by
  have bytes : toBytes "." = [0x2e] := by rw [Text.toBytes_eq]; rfl
  have forms : w.map Char.toLower = ['.'] ∨ w.map Char.toLower = ['%', '2', 'e'] := by
    simpa [isSingle] using single
  have step : ∃ w', w'.map Char.toLower = [] ∧ decodeBytes w = 0x2e :: decodeBytes w' :=
    forms.elim decodeBytes_dot decodeBytes_escapedDot
  obtain ⟨w', nothing, decoded⟩ := step
  cases List.map_eq_nil_iff.mp nothing
  rw [decoded, bytes, decodeBytes]

theorem decodeBytes_double {w : List Char} (double : isDouble w = true) :
    decodeBytes w = toBytes ".." := by
  have bytes : toBytes ".." = [0x2e, 0x2e] := by rw [Text.toBytes_eq]; rfl
  have forms : w.map Char.toLower = ['.', '.'] ∨ w.map Char.toLower = ['%', '2', 'e', '%', '2', 'e'] ∨
      w.map Char.toLower = ['%', '2', 'e', '.'] ∨ w.map Char.toLower = ['.', '%', '2', 'e'] := by
    simpa [isDouble] using double
  have first : ∃ w', (w'.map Char.toLower = ['.'] ∨ w'.map Char.toLower = ['%', '2', 'e']) ∧
      decodeBytes w = 0x2e :: decodeBytes w' := by
    rcases forms with lower | lower | lower | lower
    · obtain ⟨w', behind, decoded⟩ := decodeBytes_dot lower
      exact ⟨w', .inl behind, decoded⟩
    · obtain ⟨w', behind, decoded⟩ := decodeBytes_escapedDot lower
      exact ⟨w', .inr behind, decoded⟩
    · obtain ⟨w', behind, decoded⟩ := decodeBytes_escapedDot lower
      exact ⟨w', .inl behind, decoded⟩
    · obtain ⟨w', behind, decoded⟩ := decodeBytes_dot lower
      exact ⟨w', .inr behind, decoded⟩
  obtain ⟨w', form, decoded⟩ := first
  have single : isSingle w' = true := by simpa [isSingle] using form
  rw [decoded, decodeBytes_single single, Text.toBytes_eq, Text.toBytes_eq]
  rfl

/-- The characters that are encoded in a segment. -/
def segmentSet (special : Bool) : Char → Bool :=
  if special then inSpecialSegment else inSegment

/-- The segments others are put behind: a single empty one gives way. -/
def standing (segments : List String) : List String :=
  if segments = [""] then [] else segments

/-- The segment of a piece, without what is skipped. -/
def segmentOf (special : Bool) (piece : String) : String :=
  String.ofList (encode (segmentSet special) (unbroken piece.toList))

/-- What a piece makes of the segments before it. -/
inductive Pushed (special : Bool) (before : List String) (piece : String) : List String → Prop
  /-- Dots are left out. -/
  | dots (is : piece = "." ∨ piece = "..") : Pushed special before piece before
  /-- Dots with something skipped around them are followed. -/
  | single (broken : unbroken piece.toList ≠ piece.toList) :
    Pushed special before piece (standing before ++ [""])
  | double (broken : unbroken piece.toList ≠ piece.toList) :
    Pushed special before piece (parent (standing before) ++ [""])
  | segment (not_dots : piece ≠ "." ∧ piece ≠ "..") :
    Pushed special before piece (standing before ++ [segmentOf special piece])

variable {special : Bool}

theorem segmentSet_percent : segmentSet special '%' = true := by
  cases special <;> rfl

theorem decodes_segmentOf (piece : String) :
    decodeBytes (segmentOf special piece).toList =
      toBytes (String.ofList (unbroken piece.toList)) := by
  rw [segmentOf, String.toList_ofList, decodeBytes_encode segmentSet_percent]

theorem unbroken_of_dots {piece : String}
    (dots : (isDouble (segmentOf special piece).toList || isSingle (segmentOf special piece).toList) =
      true) :
    String.ofList (unbroken piece.toList) = "." ∨ String.ofList (unbroken piece.toList) = ".." := by
  have decoded := (@decodes_segmentOf special piece).symm
  rw [Bool.or_eq_true] at dots
  rcases dots with double | single
  · exact .inr (Text.toBytes_injective (decoded.trans (decodeBytes_double double)))
  · exact .inl (Text.toBytes_injective (decoded.trans (decodeBytes_single single)))

theorem pushed (special : Bool) {scheme : String} (notFile : scheme ≠ "file") (before : List String)
    (piece : String) : Pushed special before piece (pushSegment scheme special before piece) := by
  by_cases dots : piece = "." ∨ piece = ".."
  · rw [pushSegment, if_pos (by simpa using dots)]
    exact .dots dots
  · have settled : pushSegment scheme special before piece =
        settle scheme (segmentSet special) [piece.toList] (standing before) := by
      rw [pushSegment, if_neg (by simpa using dots), dropEmptyFront, if_neg notFile]
      rfl
    have written : encode (segmentSet special) (unbroken piece.toList) =
      (segmentOf special piece).toList := String.toList_ofList.symm
    rw [settled, settle, written]
    -- no escape is read as a dot, since the percent sign is encoded: the dots stood there
    split
    · rename_i followed
      have broken : unbroken piece.toList ≠ piece.toList := by
        intro same
        have text := unbroken_of_dots followed
        rw [same, String.ofList_toList] at text
        exact dots text
      split
      · exact .double broken
      · exact .single broken
    · simp only [List.map_cons, List.map_nil, String.ofList_toList, settle]
      exact .segment (not_or.mp dots)

/-- A text that becomes a segment as it is. -/
structure IsSegment (piece : String) : Prop where
  not_dots : piece ≠ "." ∧ piece ≠ ".."
  whole : unbroken piece.toList = piece.toList

/-- The segments that stay where others are put behind them: all but an empty one at the end. -/
def kept (own : List String) : List String :=
  if own.getLast? = some "" then own.dropLast else own

/-- Pieces of which each becomes a segment behind those of a path. A single empty segment gives way to
whatever is put behind it, so none may be left of the path, and none be made by the first piece. -/
structure Fits (own pieces : List String) : Prop where
  clean : ∀ piece ∈ pieces, IsSegment piece
  base : kept own ≠ [""]
  front : kept own = [] → pieces.head? = some "" → pieces = [""]

/-- A segment in which nothing is read as its end. -/
def Closed (special : Bool) (segment : String) : Prop :=
  ∀ c ∈ segment.toList, isSlash special c = false ∧ endsPath c = false

/-- A segment that is read as one, and says what a piece says. -/
structure Spells (special : Bool) (segment piece : String) : Prop where
  decodes : decodeBytes segment.toList = toBytes piece
  closed : Closed special segment

/-- The segments of a path with one more for each piece, in their order. -/
def Appended (special : Bool) (own pieces segments : List String) : Prop :=
  ∃ added, segments = kept own ++ added ∧ List.Forall₂ (Spells special) added pieces

theorem mark_of_ends {c : Char} (ends : ¬ (isSlash special c = false ∧ endsPath c = false)) :
    c = '/' ∨ (special = true ∧ c = '\\') ∨ c = '?' ∨ c = '#' := by
  simp only [isSlash, endsPath, Bool.or_eq_false_iff, Bool.and_eq_false_iff, beq_eq_false_iff_ne] at ends
  grind

theorem closed_encode {reserved : Char → Bool} {s : List Char}
    (free : ∀ mark, ¬ (isSlash special mark = false ∧ endsPath mark = false) →
      reserved mark = true ∨ mark ∉ s) :
    Closed special (String.ofList (encode reserved s)) := by
  intro c member
  rw [String.toList_ofList] at member
  by_contra ends
  refine not_mem_encode ?_ ?_ (free c ends) member
  all_goals
    rcases mark_of_ends ends with rfl | ⟨_, rfl⟩ | rfl | rfl
    all_goals decide

theorem closed_segmentOf (piece : String) : Closed special (segmentOf special piece) := by
  refine closed_encode fun mark ends => .inl ?_
  rcases mark_of_ends ends with rfl | ⟨rfl, rfl⟩ | rfl | rfl
  case inr.inl => rfl
  all_goals cases special <;> rfl

theorem spells_segmentOf {piece : String} (is : IsSegment piece) :
    Spells special (segmentOf special piece) piece where
  decodes := by rw [decodes_segmentOf, is.whole, String.ofList_toList]
  closed := closed_segmentOf piece

theorem Spells.piece_empty {piece : String} (spelt : Spells special "" piece) : piece = "" :=
  Text.toBytes_injective (spelt.decodes.symm.trans (by simp [decodeBytes, Text.toBytes_eq]))

theorem standing_snoc {before : List String} {segment : String}
    (full : before ≠ [] ∨ segment ≠ "") : standing (before ++ [segment]) = before ++ [segment] := by
  refine if_neg fun same => ?_
  rcases List.append_eq_singleton_iff.mp same with ⟨rfl, last⟩ | ⟨_, nothing⟩
  · exact full.elim (absurd rfl) (absurd (List.singleton_inj.mp last))
  · cases nothing

theorem standing_popIfEmpty (own : List String) : standing (popIfEmpty own) = standing (kept own) := by
  by_cases last : own.getLast? = some ""
  · by_cases long : 1 < own.length
    · rw [popIfEmpty, kept, if_pos last, if_pos (by simp [long, last])]
    · have alone : own = [""] := by
        match own, last with
        | [segment], last => simpa using last
        | _ :: _ :: _, _ => simp at long
      subst alone
      rfl
  · rw [popIfEmpty, kept, if_neg last, if_neg (by simp [last])]

theorem Pushed.of_isSegment {before after : List String} {piece : String} (is : IsSegment piece)
    (pushed : Pushed special before piece after) :
    after = standing before ++ [segmentOf special piece] := by
  cases pushed with
  | dots dots => exact absurd dots (not_or.mpr is.not_dots)
  | single broken | double broken => exact absurd is.whole broken
  | segment => rfl

variable {scheme : String}

theorem foldl_fits (notFile : scheme ≠ "file") {pieces before : List String}
    (clean : ∀ piece ∈ pieces, IsSegment piece) (given : pieces ≠ [])
    (front : standing before = [] → pieces.head? = some "" → pieces = [""]) :
    pieces.foldl (pushSegment scheme special) before =
      standing before ++ pieces.map (segmentOf special) := by
  induction pieces generalizing before with
  | nil => exact absurd rfl given
  | cons piece rest ih =>
    have is := clean piece List.mem_cons_self
    have one := (pushed special notFile before piece).of_isSegment is
    rw [List.foldl_cons, one]
    by_cases last : rest = []
    · subst last
      rfl
    · have full : standing before ≠ [] ∨ segmentOf special piece ≠ "" := by
        by_contra neither
        rw [not_or, not_not, not_not] at neither
        have spelt : Spells special "" piece := neither.2 ▸ spells_segmentOf is
        have empty := spelt.piece_empty
        have alone := front neither.1 (by simp [empty])
        simp [last] at alone
      rw [ih (fun p member => clean p (List.mem_cons_of_mem _ member)) last]
      · rw [standing_snoc full]
        simp
      · intro gone
        rw [standing_snoc full] at gone
        simp at gone

theorem parent_cases (segments : List String) :
    parent segments = segments ∨ (parent segments).length < segments.length := by
  unfold parent
  split
  · rename_i last isLast
    have filled : segments ≠ [] := by
      rintro rfl
      cases isLast
    have long := List.length_pos_of_ne_nil filled
    split
    · exact .inl rfl
    · right
      rw [List.length_dropLast]
      omega
  · rename_i empty
    exact .inl (List.getLast?_eq_none_iff.mp empty).symm

theorem standing_length_le (segments : List String) : (standing segments).length ≤ segments.length := by
  unfold standing
  split <;> simp

theorem length_le_standing (segments : List String) :
    segments.length ≤ (standing segments).length + 1 := by
  unfold standing
  split
  · rename_i single
    simp [single]
  · simp

/-- A push never adds more than one segment. -/
theorem Pushed.length_le {before after : List String} {piece : String}
    (pushed : Pushed special before piece after) : after.length ≤ (standing before).length + 1 := by
  cases pushed with
  | dots => exact length_le_standing before
  | single | segment => simp
  | double =>
    rcases parent_cases (standing before) with same | shorter
    · simp [same]
    · simp only [List.length_append, List.length_singleton]
      omega

/-- What may stand where the segment of a piece belongs. -/
def Attempt (special : Bool) (segment piece : String) : Prop :=
  segment = segmentOf special piece ∧ piece ≠ "." ∧ piece ≠ ".." ∨ segment = "" ∧ piece ≠ ""

/-- When it adds one, it is the segment of the piece or an empty one that does not say the piece. -/
theorem Pushed.full {before after : List String} {piece : String}
    (pushed : Pushed special before piece after) (full : after.length = (standing before).length + 1) :
    ∃ added, after = standing before ++ [added] ∧ Attempt special added piece := by
  have filled (broken : unbroken piece.toList ≠ piece.toList) : piece ≠ "" := by
    rintro rfl
    exact broken rfl
  cases pushed with
  | dots dots =>
    have single : before = [""] := by
      by_contra other
      rw [standing, if_neg other] at full
      omega
    subst single
    refine ⟨"", rfl, .inr ⟨rfl, ?_⟩⟩
    rcases dots with rfl | rfl <;> decide
  | single broken => exact ⟨"", rfl, .inr ⟨rfl, filled broken⟩⟩
  | double broken =>
    simp only [List.length_append, List.length_singleton] at full
    have same : parent (standing before) = standing before :=
      (parent_cases (standing before)).resolve_right (by omega)
    exact ⟨"", by rw [same], .inr ⟨rfl, filled broken⟩⟩
  | segment not_dots => exact ⟨_, rfl, .inl ⟨rfl, not_dots⟩⟩

/-- Pieces never make more segments than there are pieces. -/
theorem foldl_length_le (special : Bool) (notFile : scheme ≠ "file") (before : List String)
    {pieces : List String} (given : pieces ≠ []) :
    (pieces.foldl (pushSegment scheme special) before).length ≤
      (standing before).length + pieces.length := by
  induction pieces generalizing before with
  | nil => exact absurd rfl given
  | cons piece rest ih =>
    have one := (pushed special notFile before piece).length_le
    rw [List.foldl_cons, List.length_cons]
    by_cases last : rest = []
    · subst last
      exact one
    · have more := ih (pushSegment scheme special before piece) last
      have less := standing_length_le (pushSegment scheme special before piece)
      omega

/-- Where they make as many, each has made one. -/
theorem foldl_full (notFile : scheme ≠ "file") {pieces before : List String} (given : pieces ≠ [])
    (full : (pieces.foldl (pushSegment scheme special) before).length =
      (standing before).length + pieces.length) :
    ∃ added, pieces.foldl (pushSegment scheme special) before = standing before ++ added ∧
      List.Forall₂ (Attempt special) added pieces ∧
      (standing before = [] → added.head? = some "" → added = [""]) := by
  induction pieces generalizing before with
  | nil => exact absurd rfl given
  | cons piece rest ih =>
    have step := pushed special notFile before piece
    rw [List.foldl_cons, List.length_cons] at full
    rw [List.foldl_cons]
    by_cases last : rest = []
    · subst last
      obtain ⟨segment, same, attempt⟩ := step.full full
      refine ⟨[segment], same, .cons attempt .nil, fun _ first => ?_⟩
      rw [Option.some.inj first]
    · -- a segment that is missing here is not made up for by the pieces that follow
      have more := foldl_length_le special notFile (pushSegment scheme special before piece) last
      have less := standing_length_le (pushSegment scheme special before piece)
      have one := step.length_le
      obtain ⟨segment, same, attempt⟩ := step.full (by omega)
      have stays : standing (pushSegment scheme special before piece) =
          pushSegment scheme special before piece := by
        refine if_neg fun alone => ?_
        have nothing : standing (pushSegment scheme special before piece) = [] := if_pos alone
        rw [nothing, List.length_nil] at more
        omega
      obtain ⟨others, behind, attempts, _⟩ :=
        @ih (pushSegment scheme special before piece) last (by omega)
      refine ⟨segment :: others, ?_, .cons attempt attempts, fun bare first => ?_⟩
      · rw [behind, stays, same]
        simp
      · have empty : segment = "" := Option.some.inj first
        have alone : pushSegment scheme special before piece = [""] := by rw [same, bare, empty]; rfl
        rw [alone] at stays
        cases stays

theorem Attempt.isSegment {segment piece : String} (attempt : Attempt special segment piece)
    (spelt : Spells special segment piece) : IsSegment piece := by
  rcases attempt with ⟨rfl, not_dots⟩ | ⟨rfl, filled⟩
  · have same := Text.toBytes_injective ((decodes_segmentOf piece).symm.trans spelt.decodes)
    exact ⟨not_dots, by rw [← String.toList_inj, String.toList_ofList] at same; exact same⟩
  · exact absurd spelt.piece_empty filled

theorem isSegment_of_attempts {added pieces : List String}
    (attempts : List.Forall₂ (Attempt special) added pieces)
    (spelt : List.Forall₂ (Spells special) added pieces) : ∀ piece ∈ pieces, IsSegment piece := by
  induction attempts with
  | nil => exact nofun
  | cons attempt _ ih =>
    obtain _ | ⟨first, others⟩ := spelt
    exact List.forall_mem_cons.mpr ⟨attempt.isSegment first, ih others⟩

theorem Attempt.of_empty {segment : String} (attempt : Attempt special segment "") : segment = "" := by
  rcases attempt with ⟨rfl, _⟩ | ⟨_, filled⟩
  · rfl
  · exact absurd rfl filled

/-- Pieces become segments of their own exactly if they fit. -/
theorem appended_iff (notFile : scheme ≠ "file") {own pieces : List String} (given : pieces ≠ []) :
    Appended special own pieces (pieces.foldl (pushSegment scheme special) (popIfEmpty own)) ↔
      Fits own pieces := by
  constructor
  · rintro ⟨added, same, spelt⟩
    have most := foldl_length_le special notFile (popIfEmpty own) given
    have count := spelt.length_eq
    have fewer := standing_length_le (kept own)
    rw [same, standing_popIfEmpty, List.length_append] at most
    have base : standing (kept own) = kept own := by
      refine if_neg fun alone => ?_
      rw [alone] at most
      simp [standing] at most
      omega
    have full : (pieces.foldl (pushSegment scheme special) (popIfEmpty own)).length =
        (standing (popIfEmpty own)).length + pieces.length := by
      rw [same, standing_popIfEmpty, List.length_append, base]
      omega
    obtain ⟨made, behind, attempts, front⟩ := foldl_full notFile given full
    rw [standing_popIfEmpty, base] at behind front
    cases List.append_cancel_left (same.symm.trans behind)
    refine ⟨isSegment_of_attempts attempts spelt, fun alone => ?_, fun nothing first => ?_⟩
    · rw [alone] at base
      cases base
    · cases attempts with
      | nil => cases first
      | cons attempt others =>
        cases Option.some.inj first
        have empty := attempt.of_empty
        cases front nothing (congrArg some empty)
        cases others
        rfl
  · intro fits
    refine ⟨pieces.map (segmentOf special), ?_, ?_⟩
    · rw [foldl_fits notFile fits.clean given, standing_popIfEmpty, standing, if_neg fits.base]
      intro nothing
      rw [standing_popIfEmpty, standing, if_neg fits.base] at nothing
      exact fits.front nothing
    · rw [List.forall₂_map_left_iff, List.forall₂_same]
      exact fun piece member => spells_segmentOf (fits.clean piece member)

theorem closed_empty : Closed special "" := nofun

theorem parent_subset (segments : List String) : parent segments ⊆ segments := by
  unfold parent
  split
  · split
    · exact List.Subset.refl _
    · exact List.dropLast_subset _
  · exact List.nil_subset _

theorem standing_subset (segments : List String) : standing segments ⊆ segments := by
  unfold standing
  split
  · exact List.nil_subset _
  · exact List.Subset.refl _

theorem popIfEmpty_subset (own : List String) : popIfEmpty own ⊆ own := by
  unfold popIfEmpty
  split
  · exact List.dropLast_subset _
  · exact List.Subset.refl _

theorem closed_snoc {before : List String} {segment : String}
    (closed : ∀ x ∈ before, Closed special x) (last : Closed special segment) :
    ∀ x ∈ before ++ [segment], Closed special x := by
  rw [List.forall_mem_append, List.forall_mem_singleton]
  exact ⟨closed, last⟩

theorem Pushed.closed {before after : List String} {piece : String}
    (pushed : Pushed special before piece after) (closed : ∀ x ∈ before, Closed special x) :
    ∀ x ∈ after, Closed special x := by
  have front : ∀ x ∈ standing before, Closed special x :=
    fun x member => closed x (standing_subset before member)
  cases pushed with
  | dots => exact closed
  | single => exact closed_snoc front closed_empty
  | double => exact closed_snoc (fun x member => front x (parent_subset _ member)) closed_empty
  | segment => exact closed_snoc front (closed_segmentOf piece)

theorem closed_foldl (notFile : scheme ≠ "file") (pieces : List String) {before : List String}
    (closed : ∀ x ∈ before, Closed special x) :
    ∀ x ∈ pieces.foldl (pushSegment scheme special) before, Closed special x := by
  induction pieces generalizing before with
  | nil => exact closed
  | cons piece rest ih => exact ih ((pushed special notFile before piece).closed closed)

theorem closed_settle (notFile : scheme ≠ "file") {reserved : Char → Bool} {raw : List (List Char)}
    {done : List String}
    (written : ∀ segment ∈ raw, Closed special (String.ofList (encode reserved (unbroken segment))))
    (closed : ∀ x ∈ done, Closed special x) :
    ∀ x ∈ settle scheme reserved raw done, Closed special x := by
  induction raw generalizing done with
  | nil => exact closed
  | cons segment rest ih =>
    have later := (List.forall_mem_cons.mp written).2
    rw [settle]
    split
    · have kept : ∀ x ∈ if isDouble (encode reserved (unbroken segment)) then parent done else done,
          Closed special x := by
        split
        · exact fun x member => closed x (parent_subset done member)
        · exact closed
      refine ih later ?_
      split
      · exact closed_snoc kept closed_empty
      · exact kept
    · exact ih later (closed_snoc closed (written segment List.mem_cons_self))

/-- The segments of a path as it is read. -/
theorem closed_segmentsOf (notFile : scheme ≠ "file") {raw : List (List Char)}
    (cut : ∀ segment ∈ raw, ∀ c ∈ segment, isSlash special c = false) :
    ∀ x ∈ segmentsOf scheme raw, Closed special x := by
  rw [segmentsOf, dropEmptyFront, if_neg notFile]
  refine closed_settle notFile (fun segment member => closed_encode fun mark ends => ?_) nofun
  have slash : isSlash special mark = true → mark ∉ segment := by
    intro same member'
    rw [cut segment member mark member'] at same
    cases same
  have gone : mark ∉ segment → mark ∉ unbroken segment := mt List.mem_of_mem_filter
  rcases mark_of_ends ends with rfl | ⟨rfl, rfl⟩ | rfl | rfl
  · exact .inr (gone (slash rfl))
  · exact .inr (gone (slash rfl))
  · exact .inl rfl
  · exact .inl rfl

theorem rawSegments_cut (s : List Char) :
    ∀ segment ∈ rawSegments special s, ∀ c ∈ segment, isSlash special c = false := by
  intro segment piece c member
  obtain ⟨other, source⟩ := Text.mem_of_mem_pieces piece member
  obtain ⟨d, _, same⟩ := List.mem_map.mp source
  split at same
  · exact absurd same.symm other
  · rename_i plain
    subst same
    exact Bool.eq_false_iff.mpr plain

end Pager.Url
