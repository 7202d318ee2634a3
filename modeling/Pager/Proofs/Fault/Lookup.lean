import Pager.Fault
import Pager.Proofs.Text.Letters

namespace Pager.Fault

/-- The text mentions one of the phrases, in whatever case. -/
def OfLookup (text : String) : Prop :=
  ∃ phrase ∈ lookupPhrases, Text.Mentions text phrase

/-- Faults with a cause, at any depth, whose text is that of a failed lookup. -/
inductive TellsLookup : Fault → Prop
  | transport {links : List String} {text : String} :
      text ∈ links → OfLookup text → TellsLookup (.transport links)
  | foreign {head text : String} {causes : List String} :
      text ∈ head :: causes → OfLookup text → TellsLookup (.foreign head causes)

theorem isPhrase_of_mem {phrase : String} (member : phrase ∈ lookupPhrases) :
    Text.IsPhrase phrase.toList := by
  have small : ∀ phrase ∈ lookupPhrases,
      phrase.toList.all (fun p => Text.isAscii p && p.toLower == p) = true := by decide
  have ending : ∀ phrase ∈ lookupPhrases, phrase.toList.getLast? ≠ some 'i' := by decide
  refine ⟨fun p inside => ?_, ending phrase member⟩
  simpa using List.all_eq_true.mp (small phrase member) p inside

theorem mentionsLookup_iff {text : String} : mentionsLookup text = true ↔ OfLookup text := by
  rw [mentionsLookup, List.any_eq_true]
  exact exists_congr fun phrase => and_congr_right fun member =>
    Text.contains_loweredText_iff (isPhrase_of_mem member)

theorem isLookupFailure_iff {links : List String} :
    isLookupFailure links = true ↔ ∃ text ∈ links, OfLookup text := by
  induction links with
  | nil => simp [isLookupFailure]
  | cons text causes ih =>
    rw [isLookupFailure, Bool.or_eq_true, mentionsLookup_iff, ih, List.exists_mem_cons_iff]

/-- What is found from a cause on is found from every cause above it. -/
theorem anyLookupFailure_eq (links : List String) : anyLookupFailure links = isLookupFailure links := by
  induction links with
  | nil => rfl
  | cons text causes ih =>
    rw [anyLookupFailure, ih, isLookupFailure, Bool.or_assoc, Bool.or_self]

theorem anyLookupFailure_iff {links : List String} :
    anyLookupFailure links = true ↔ ∃ text ∈ links, OfLookup text := by
  rw [anyLookupFailure_eq, isLookupFailure_iff]

variable {fault : Fault} (endpoint : String)

theorem TellsLookup.normalizeLookup (tells : fault.TellsLookup) :
    fault.normalizeLookup endpoint = .nameResolution endpoint lookupAdvice := by
  cases tells with
  | transport member found => exact if_pos (isLookupFailure_iff.mpr ⟨_, member, found⟩)
  | foreign member found => exact if_pos (anyLookupFailure_iff.mpr ⟨_, member, found⟩)

theorem normalizeLookup_of_not_tells (other : ¬ fault.TellsLookup) :
    fault.normalizeLookup endpoint = fault := by
  cases fault with
  | transport links =>
    refine if_neg fun failed => other ?_
    obtain ⟨text, member, found⟩ := isLookupFailure_iff.mp failed
    exact .transport member found
  | foreign head causes =>
    refine if_neg fun failed => other ?_
    obtain ⟨text, member, found⟩ := anyLookupFailure_iff.mp failed
    exact .foreign member found
  | _ => rfl

theorem TellsLookup.ne_nameResolution (tells : fault.TellsLookup) (message : String) :
    fault ≠ .nameResolution endpoint message := by
  rintro rfl
  cases tells

theorem normalizeLookup_normalizeLookup (second : String) :
    (fault.normalizeLookup endpoint).normalizeLookup second = fault.normalizeLookup endpoint := by
  by_cases tells : fault.TellsLookup
  · rw [tells.normalizeLookup endpoint]
    rfl
  · rw [normalizeLookup_of_not_tells endpoint tells, normalizeLookup_of_not_tells second tells]

/-- A fault is told as a failed lookup of the endpoint exactly if a cause of it is one, and otherwise it
stays what it is, also if it tells of a failed lookup already. The causes below each cause need not be
asked on their own, and a fault that was told once is told the same again, for whatever endpoint. -/
theorem normalizeLookup_exact (endpoint : String) (fault : Fault) :
    (fault.TellsLookup →
      fault.normalizeLookup endpoint = .nameResolution endpoint lookupAdvice) ∧
    (¬ fault.TellsLookup → fault.normalizeLookup endpoint = fault) ∧
    (fault.normalizeLookup endpoint ≠ fault ↔ fault.TellsLookup) ∧
    ((∀ message, fault ≠ .nameResolution endpoint message) →
      ((∃ message, fault.normalizeLookup endpoint = .nameResolution endpoint message) ↔
        fault.TellsLookup)) ∧
    (∀ links, anyLookupFailure links = isLookupFailure links) ∧
    ∀ second,
      (fault.normalizeLookup endpoint).normalizeLookup second = fault.normalizeLookup endpoint := by
  refine ⟨fun tells => tells.normalizeLookup endpoint, normalizeLookup_of_not_tells endpoint, ?_, ?_,
    anyLookupFailure_eq, normalizeLookup_normalizeLookup endpoint⟩
  · constructor
    · intro changed
      by_contra other
      exact changed (normalizeLookup_of_not_tells endpoint other)
    · intro tells
      rw [tells.normalizeLookup endpoint]
      exact (tells.ne_nameResolution endpoint lookupAdvice).symm
  · intro untold
    constructor
    · rintro ⟨message, told⟩
      by_contra other
      rw [normalizeLookup_of_not_tells endpoint other] at told
      exact untold message told
    · intro tells
      exact ⟨lookupAdvice, tells.normalizeLookup endpoint⟩

end Pager.Fault

namespace Pager.UnreachedBucket

/-- A failed lookup two causes down, with capitals and the Kelvin sign in its text. -/
def dispatchFailure : Fault :=
  .foreign "dispatch failure" ["io error", "Failed to Loo\u212aup Address: no answer"]

/-- The same words in the text of a service's own answer. -/
def answered : Fault :=
  .status 502 "failed to lookup address"

theorem dispatchFailure_tells : dispatchFailure.TellsLookup := by
  have found : Fault.OfLookup "Failed to Loo\u212aup Address: no answer" := by
    refine ⟨"failed to lookup address", by decide, [], "Failed to Loo\u212aup Address".toList,
      ": no answer".toList, by decide, ?_⟩
    decide
  exact .foreign (by decide) found

/-- The cause is found in the first, and the second is kept. -/
theorem dispatchFailure_told :
    dispatchFailure.TellsLookup ∧
    dispatchFailure.normalizeLookup "s3" = .nameResolution "s3" Fault.lookupAdvice ∧
    (∀ message, dispatchFailure ≠ .nameResolution "s3" message) ∧
    (∃ message, dispatchFailure.normalizeLookup "s3" = .nameResolution "s3" message) ∧
    ¬ answered.TellsLookup ∧ answered.normalizeLookup "s3" = answered := by
  obtain ⟨told, _, _, renamed, _⟩ := Fault.normalizeLookup_exact "s3" dispatchFailure
  obtain ⟨_, kept, _⟩ := Fault.normalizeLookup_exact "s3" answered
  have tells := dispatchFailure_tells
  have other : ¬ answered.TellsLookup := by rintro ⟨⟩
  exact ⟨tells, told tells, nofun, (renamed nofun).mpr tells, other, kept other⟩

end Pager.UnreachedBucket
