import Pager.Proofs.Json.Writer
import Pager.Proofs.Sink.JsonLines
import Pager.Proofs.Text.Bytes

namespace Pager

/-- A writer of limited room that was given a stream of bytes. -/
def Writer.given (limit : Nat) (stream : Text.Bytes) : Writer :=
  ⟨some limit, false, stream.take limit⟩

/-- A writer of limited room that was given nothing yet. -/
def Writer.limited (limit : Nat) : Writer :=
  ⟨some limit, false, []⟩

namespace Writer

variable {limit : Nat} {stream : Text.Bytes}

theorem given_nil (limit : Nat) : given limit [] = limited limit := by
  rw [given, List.take_nil, limited]

theorem write_given (limit : Nat) (stream bytes : Text.Bytes) :
    (given limit stream).write bytes =
      (given limit (stream ++ bytes),
        decide (bytes = [] ∨ stream.length + bytes.length ≤ limit)) := by
  have room : limit - (stream.take limit).length = limit - stream.length := by
    rw [List.length_take]
    omega
  have whole : bytes.length ≤ limit - stream.length ↔
      bytes = [] ∨ stream.length + bytes.length ≤ limit := by
    rw [← List.length_eq_zero_iff]
    omega
  simp only [write, given, room, List.take_append, whole]

/-- What a full writer is given further on changes nothing. -/
theorem given_append (full : limit ≤ stream.length) (more : Text.Bytes) :
    given limit (stream ++ more) = given limit stream := by
  rw [given, given, List.take_append_of_le_length full]

end Writer

namespace JsonLines

open Writer (given)

variable {layout : Layout} {limit : Nat} {stream : Text.Bytes} {v : Json} {docs : List Json}

/-- A byte of the lines of some documents, counted from zero, is a byte of the line of one of them. -/
inductive FallsOn (layout : Layout) : List Json → Nat → Json → Nat → Prop
  | here {v : Json} {rest : List Json} {offset : Nat} : offset < (line layout v).length →
      FallsOn layout (v :: rest) offset v offset
  | later {d v : Json} {rest : List Json} {place offset : Nat} : FallsOn layout rest place v offset →
      FallsOn layout (d :: rest) ((line layout d).length + place) v offset

/-- What is told when a byte of a document's line is not taken: the text comes first, and the line
break last. -/
def faultAt (layout : Layout) (v : Json) (offset : Nat) : Fault :=
  if offset < (Text.toBytes (documentText layout v)).length then
    .malformedJson (some Writer.fullText)
  else .io Writer.fullText

theorem text_ne_nil (layout : Layout) (v : Json) : Text.toBytes (documentText layout v) ≠ [] := by
  rw [documentText]
  split
  · exact Text.toBytes_ne_nil (v.indented_ne_nil 0)
  · exact Text.toBytes_ne_nil v.compact_ne_nil

theorem line_eq (layout : Layout) (v : Json) :
    line layout v = Text.toBytes (documentText layout v) ++ [10] := by
  rw [line, toBytes_break]

theorem length_line (layout : Layout) (v : Json) :
    (line layout v).length = (Text.toBytes (documentText layout v)).length + 1 := by
  rw [line_eq, List.length_append, List.length_singleton]

/-- A document is written whole or up to the limit, and told is whether the limit cuts into its line,
and where. -/
theorem writeDocument_given (layout : Layout) (limit : Nat) (stream : Text.Bytes) (v : Json) :
    writeDocument layout (given limit stream) v =
      (given limit (stream ++ line layout v),
        if stream.length + (line layout v).length ≤ limit then none
        else some (faultAt layout v (limit - stream.length))) := by
  have long := length_line layout v
  have filled := List.length_pos_iff.mpr (text_ne_nil layout v)
  simp only [writeDocument, Writer.write_given, toBytes_break, text_ne_nil, false_or, decide_eq_true_eq,
    List.cons_ne_nil, List.length_append, List.length_singleton]
  by_cases whole : stream.length + (Text.toBytes (documentText layout v)).length ≤ limit
  · have told : faultAt layout v (limit - stream.length) = .io Writer.fullText := by
      rw [faultAt, if_neg (by omega)]
    rw [if_pos whole, told, long, List.append_assoc, ← line_eq, Nat.add_assoc]
  · have told : faultAt layout v (limit - stream.length) = .malformedJson (some Writer.fullText) := by
      rw [faultAt, if_pos (by omega)]
    have full : limit ≤ (stream ++ Text.toBytes (documentText layout v)).length := by
      rw [List.length_append]
      omega
    rw [if_neg whole, if_neg (by omega), told, line_eq, ← List.append_assoc, Writer.given_append full]

/-- Documents that fit are written. -/
theorem writeDocuments_fits
    (fits : docs = [] ∨ stream.length + (docs.flatMap (line layout)).length ≤ limit) :
    writeDocuments layout (given limit stream) docs =
      (given limit (stream ++ docs.flatMap (line layout)), none) := by
  induction docs generalizing stream with
  | nil => rw [List.flatMap_nil, List.append_nil]; rfl
  | cons d rest ih =>
    replace fits := fits.resolve_left (List.cons_ne_nil _ _)
    rw [List.flatMap_cons, List.length_append] at fits
    rw [writeDocuments, writeDocument_given, if_pos (by omega)]
    dsimp only
    rw [ih (.inr ?_), List.flatMap_cons, List.append_assoc]
    rw [List.length_append]
    omega

/-- Of documents that do not fit the first bytes are written; told is where the limit falls on their
lines. -/
theorem writeDocuments_cut (cut : docs ≠ [])
    (beyond : limit < stream.length + (docs.flatMap (line layout)).length) :
    ∃ v offset, FallsOn layout docs (limit - stream.length) v offset ∧
      writeDocuments layout (given limit stream) docs =
        (given limit (stream ++ docs.flatMap (line layout)), some (faultAt layout v offset)) := by
  induction docs generalizing stream with
  | nil => exact absurd rfl cut
  | cons d rest ih =>
    rw [List.flatMap_cons, List.length_append] at beyond
    by_cases fits : stream.length + (line layout d).length ≤ limit
    · have later : rest ≠ [] := by
        rintro rfl
        rw [List.flatMap_nil, List.length_nil] at beyond
        omega
      have further : limit <
          (stream ++ line layout d).length + (rest.flatMap (line layout)).length := by
        rw [List.length_append]
        omega
      obtain ⟨v, offset, falls, told⟩ := ih later further
      have place : limit - stream.length =
          (line layout d).length + (limit - (stream ++ line layout d).length) := by
        rw [List.length_append]
        omega
      refine ⟨v, offset, place ▸ .later falls, ?_⟩
      rw [writeDocuments, writeDocument_given, if_pos fits]
      dsimp only
      rw [told, List.flatMap_cons, List.append_assoc]
    · have long := length_line layout d
      refine ⟨d, limit - stream.length, .here (by omega), ?_⟩
      have full : limit ≤ (stream ++ line layout d).length := by
        rw [List.length_append]
        omega
      rw [writeDocuments, writeDocument_given, if_neg fits, List.flatMap_cons, ← List.append_assoc,
        Writer.given_append full]

theorem lines_eq_nil_iff : lines layout v = [] ↔ parts layout v = [] := by
  rw [lines, List.flatMap_eq_nil_iff]
  constructor
  · intro empty
    refine List.eq_nil_iff_forall_not_mem.mpr fun d member => ?_
    have long := length_line layout d
    rw [empty d member, List.length_nil] at long
    omega
  · intro noParts d member
    rw [noParts] at member
    cases member

/-- An emission is cut at the limit: it is refused exactly if it stands for any bytes and they do not
all fit, and told is where the limit falls on the lines of its parts. -/
theorem emit_given (layout : Layout) (limit : Nat) (stream : Text.Bytes) (v : Json) :
    ((sink layout).emit (given limit stream) v).1 = given limit (stream ++ lines layout v) ∧
    (((sink layout).emit (given limit stream) v).2 = none ↔
      lines layout v = [] ∨ stream.length + (lines layout v).length ≤ limit) ∧
    ∀ fault, ((sink layout).emit (given limit stream) v).2 = some fault →
      ∃ d offset, FallsOn layout (parts layout v) (limit - stream.length) d offset ∧
        fault = faultAt layout d offset := by
  have written : (sink layout).emit (given limit stream) v =
      writeDocuments layout (given limit stream) (parts layout v) := by
    rw [← documents_eq]
    rfl
  rw [lines_eq_nil_iff, written]
  by_cases fits : parts layout v = [] ∨ stream.length + (lines layout v).length ≤ limit
  · rw [writeDocuments_fits fits]
    exact ⟨rfl, iff_of_true rfl fits, nofun⟩
  · obtain ⟨filled, beyond⟩ := not_or.mp fits
    obtain ⟨d, offset, falls, cut⟩ := writeDocuments_cut filled (Nat.lt_of_not_le beyond)
    rw [cut]
    refine ⟨rfl, iff_of_false nofun fits, fun fault told => ⟨d, offset, falls, ?_⟩⟩
    exact (Option.some.inj told).symm

/-- The writer behind some emissions was given all their lines, whatever it took of them. -/
theorem replies_given (layout : Layout) (limit : Nat) (stream : Text.Bytes) (values : List Json) :
    (replies (sink layout).emit (given limit stream) values).1 =
      given limit (stream ++ values.flatMap (lines layout)) := by
  induction values generalizing stream with
  | nil => rw [List.flatMap_nil, List.append_nil]; rfl
  | cons v rest ih =>
    rw [replies_cons, (emit_given layout limit stream v).1, ih, List.flatMap_cons, List.append_assoc]

theorem fallsOn_cons_iff {d : Json} {place offset : Nat} :
    FallsOn layout (d :: docs) place v offset ↔
      d = v ∧ place = offset ∧ offset < (line layout v).length ∨
      ∃ rest, place = (line layout d).length + rest ∧ FallsOn layout docs rest v offset := by
  constructor
  · intro falls
    cases falls with
    | here within => exact .inl ⟨rfl, rfl, within⟩
    | later falls => exact .inr ⟨_, rfl, falls⟩
  · rintro (⟨rfl, rfl, within⟩ | ⟨rest, rfl, falls⟩)
    · exact .here within
    · exact .later falls

/-- A place falls on one byte of one document. -/
theorem FallsOn.unique {w : Json} {place offset other : Nat} (falls : FallsOn layout docs place v offset)
    (again : FallsOn layout docs place w other) : v = w ∧ offset = other := by
  induction falls with
  | here within =>
    rcases fallsOn_cons_iff.mp again with ⟨same, place, _⟩ | ⟨rest, place, _⟩
    · exact ⟨same, place⟩
    · omega
  | later _ ih =>
    rcases fallsOn_cons_iff.mp again with ⟨rfl, place, within⟩ | ⟨rest, place, falls⟩
    · omega
    · cases Nat.add_left_cancel place
      exact ih falls

theorem FallsOn.append_right {place offset : Nat} (falls : FallsOn layout docs place v offset)
    (more : List Json) : FallsOn layout (docs ++ more) place v offset := by
  induction falls with
  | here within => exact .here within
  | later _ ih => exact .later ih

theorem FallsOn.append_left {place offset : Nat} (falls : FallsOn layout docs place v offset)
    (front : List Json) :
    FallsOn layout (front ++ docs) ((front.flatMap (line layout)).length + place) v offset := by
  induction front with
  | nil => rwa [List.flatMap_nil, List.length_nil, Nat.zero_add]
  | cons d front ih =>
    rw [List.flatMap_cons, List.length_append, Nat.add_assoc]
    exact .later ih

/-- The byte at a place is the one that it falls on. -/
theorem FallsOn.byte {place offset : Nat} (falls : FallsOn layout docs place v offset) :
    (docs.flatMap (line layout))[place]? = (line layout v)[offset]? := by
  induction falls with
  | here within => rw [List.flatMap_cons, List.getElem?_append_left within]
  | later _ ih => rw [List.flatMap_cons, List.getElem?_append_right (Nat.le_add_right _ _),
      Nat.add_sub_cancel_left, ih]

/-- The bytes that a writer holds after so many emissions. -/
def heldAfter (layout : Layout) (w : Writer) (values : List Json) (k : Nat) : Text.Bytes :=
  (replies (sink layout).emit w (values.take k)).1.written

/-- What is told of the emission of a number, from zero: nothing if it was taken. -/
def toldOf (layout : Layout) (w : Writer) (values : List Json) (k : Nat) : Option (Option Fault) :=
  (replies (sink layout).emit w values).2[k]?

variable {values : List Json} {k : Nat}

theorem heldAfter_unlimited (layout : Layout) (values : List Json) (k : Nat) :
    heldAfter layout .unlimited values k = (values.take k).flatMap (lines layout) := by
  rw [heldAfter, replies_open Writer.unlimited_open]
  rfl

theorem heldAfter_limited (layout : Layout) (limit : Nat) (values : List Json) (k : Nat) :
    heldAfter layout (.limited limit) values k =
      ((values.take k).flatMap (lines layout)).take limit := by
  rw [heldAfter, ← Writer.given_nil, replies_given]
  rfl

/-- What comes before the next emission, and what it adds. -/
theorem flatMap_take_succ (there : values[k]? = some v) :
    (values.take (k + 1)).flatMap (lines layout) =
      (values.take k).flatMap (lines layout) ++ lines layout v := by
  rw [List.take_add_one, there, List.flatMap_append, Option.toList_some, List.flatMap_singleton]

theorem toldOf_limited (there : values[k]? = some v) :
    toldOf layout (.limited limit) values k =
      some ((sink layout).emit (given limit ((values.take k).flatMap (lines layout))) v).2 := by
  rw [toldOf, replies_getElem?, there, ← Writer.given_nil, replies_given, List.nil_append,
    Option.map_some]

theorem getElem?_of_toldOf {w : Writer} {told : Option Fault}
    (said : toldOf layout w values k = some told) : ∃ v, values[k]? = some v := by
  rw [toldOf, replies_getElem?] at said
  obtain ⟨v, there, _⟩ := Option.map_eq_some_iff.mp said
  exact ⟨v, there⟩

theorem toldOf_eq_none_iff (there : values[k]? = some v) :
    toldOf layout (.limited limit) values k = some none ↔
      lines layout v = [] ∨
        ((values.take k).flatMap (lines layout)).length + (lines layout v).length ≤ limit := by
  rw [toldOf_limited there, Option.some.injEq, (emit_given layout limit _ v).2.1]

theorem toldOf_eq_some_iff (there : values[k]? = some v) :
    (∃ fault, toldOf layout (.limited limit) values k = some (some fault)) ↔
      lines layout v ≠ [] ∧
        limit < ((values.take k).flatMap (lines layout)).length + (lines layout v).length := by
  have taken : toldOf layout (.limited limit) values k = some none ↔ _ := toldOf_eq_none_iff there
  rw [← Nat.not_le, ne_eq, ← not_or, ← taken, toldOf_limited there]
  cases ((sink layout).emit (given limit ((values.take k).flatMap (lines layout))) v).2 <;> simp

/-- An emission that is taken is written whole. -/
theorem take_append_of_taken (there : values[k]? = some v)
    (taken : toldOf layout (.limited limit) values k = some none) :
    ((values.take k).flatMap (lines layout) ++ lines layout v).take limit =
      ((values.take k).flatMap (lines layout)).take limit ++ lines layout v := by
  rcases (toldOf_eq_none_iff there).mp taken with empty | fits
  · rw [empty, List.append_nil, List.append_nil]
  · have before : ((values.take k).flatMap (lines layout)).length ≤ limit := by omega
    rw [← List.length_append] at fits
    rw [List.take_of_length_le fits, List.take_of_length_le before]

/-- As long as nothing is refused, all lines fit. -/
theorem length_le_of_taken (taken : ∀ j < k, toldOf layout (.limited limit) values j = some none) :
    ((values.take k).flatMap (lines layout)).length ≤ limit := by
  induction k with
  | zero => exact Nat.zero_le _
  | succ k ih =>
    have before := ih fun j early => taken j (Nat.lt_succ_of_lt early)
    obtain ⟨v, there⟩ := getElem?_of_toldOf (taken k (Nat.lt_succ_self k))
    rw [flatMap_take_succ there, List.length_append]
    rcases (toldOf_eq_none_iff there).mp (taken k (Nat.lt_succ_self k)) with empty | fits
    · rwa [empty, List.length_nil]
    · exact fits

/-- The first fault tells where the limit falls on the lines of all values. -/
theorem fallsOn_of_first {fault : Fault}
    (refused : toldOf layout (.limited limit) values k = some (some fault))
    (taken : ∀ j < k, toldOf layout (.limited limit) values j = some none) :
    ∃ d offset, FallsOn layout (values.flatMap (parts layout)) limit d offset ∧
      fault = faultAt layout d offset := by
  obtain ⟨v, there⟩ := getElem?_of_toldOf refused
  have fits := length_le_of_taken taken
  rw [toldOf_limited there, Option.some.injEq] at refused
  obtain ⟨d, offset, falls, same⟩ := (emit_given layout limit _ v).2.2 fault refused
  refine ⟨d, offset, ?_, same⟩
  -- the parts of all values are those before, those of this value, and those behind
  have divided : values.flatMap (parts layout) = (values.take k).flatMap (parts layout) ++
      (parts layout v ++ (values.drop (k + 1)).flatMap (parts layout)) := by
    conv => lhs; rw [← List.take_append_drop (k + 1) values, List.take_add_one, there]
    simp only [Option.toList_some, List.flatMap_append, List.flatMap_singleton, List.append_assoc]
  have whole := (falls.append_right ((values.drop (k + 1)).flatMap (parts layout))).append_left
    ((values.take k).flatMap (parts layout))
  rw [← flatMap_lines, Nat.add_sub_cancel' fits] at whole
  rw [divided]
  exact whole

/-- A writer that takes so many bytes and then fails holds, after any number of emissions, the first of
the bytes that a writer without a limit would hold, as many as it takes. An emission is refused exactly
if it stands for any bytes and those up to its end are more than that; one that is taken is written
whole. The bytes that a value stands for are the lines of its items, one level deep, if it is a list and
lists are enumerated, and else its own line. The first fault is one of the writer if the byte behind the
limit is the line break of such a line, and one of malformed JSON if it lies in the text before it. -/
theorem limited_output (layout : Layout) (limit : Nat) (values : List Json) :
    (∀ k, heldAfter layout (.limited limit) values k =
      (heldAfter layout .unlimited values k).take limit) ∧
    (∀ k v, values[k]? = some v →
      heldAfter layout .unlimited values (k + 1) =
        heldAfter layout .unlimited values k ++ lines layout v ∧
      ((∃ fault, toldOf layout (.limited limit) values k = some (some fault)) ↔
        lines layout v ≠ [] ∧ limit < (heldAfter layout .unlimited values (k + 1)).length) ∧
      (toldOf layout (.limited limit) values k = some none →
        heldAfter layout (.limited limit) values (k + 1) =
          heldAfter layout (.limited limit) values k ++ lines layout v)) ∧
    ∀ k fault, toldOf layout (.limited limit) values k = some (some fault) →
      (∀ j < k, toldOf layout (.limited limit) values j = some none) →
      (∃ d offset, FallsOn layout (values.flatMap (parts layout)) limit d offset ∧
        (heldAfter layout .unlimited values values.length)[limit]? = (line layout d)[offset]?) ∧
      ∀ d offset, FallsOn layout (values.flatMap (parts layout)) limit d offset →
        fault = faultAt layout d offset := by
  simp only [heldAfter_unlimited, heldAfter_limited]
  refine ⟨fun _ => trivial, fun k v there => ⟨flatMap_take_succ there, ?_, fun taken => ?_⟩,
    fun k fault refused taken => ?_⟩
  · rw [flatMap_take_succ there, List.length_append]
    exact toldOf_eq_some_iff there
  · rw [flatMap_take_succ there]
    exact take_append_of_taken there taken
  · obtain ⟨d, offset, falls, rfl⟩ := fallsOn_of_first refused taken
    refine ⟨⟨d, offset, falls, ?_⟩, fun w other again => ?_⟩
    · rw [List.take_length, flatMap_lines, falls.byte]
    · obtain ⟨rfl, rfl⟩ := falls.unique again
      rfl

end JsonLines

end Pager
