import Mathlib.Algebra.Group.Nat.Defs
import Pager.Transport.Backoff

namespace Pager

namespace Delay

/-- A delay in words: whole seconds, and the nanoseconds that are left. -/
structure Words where
  seconds : UInt64
  left : UInt32
  deriving DecidableEq, Repr

def Words.nanos (w : Words) : Nat :=
  w.seconds.toNat * nanosPerSecond + w.left.toNat

def words (d : Delay) : Words :=
  ⟨.ofNat (d.nanos / nanosPerSecond), .ofNat (d.nanos % nanosPerSecond)⟩

/-- A whole number as a word, if that holds it. -/
def word? (n : Nat) : Option UInt64 :=
  if n < 2 ^ 64 then some (.ofNat n) else none

/-- The multiple, if words hold it; what the nanoseconds come to beyond a second is carried over. -/
def Words.times? (w : Words) (factor : UInt32) : Option Words :=
  let left := w.left.toUInt64 * factor.toUInt64
  (word? (w.seconds.toNat * factor.toNat)).bind fun seconds =>
    (word? (seconds.toNat + (left / 1000000000).toNat)).map fun seconds =>
      ⟨seconds, (left % 1000000000).toUInt32⟩

/-- The first, unless the second is shorter. -/
def Words.shorter (a b : Words) : Words :=
  if a.seconds < b.seconds ∨ a.seconds = b.seconds ∧ a.left ≤ b.left then a else b

variable {d : Delay} {n : Nat}

theorem word?_of_lt (within : n < 2 ^ 64) : ∃ word, word? n = some word ∧ word.toNat = n :=
  ⟨_, if_pos within, UInt64.toNat_ofNat_of_lt' within⟩

theorem word?_of_le (beyond : 2 ^ 64 ≤ n) : word? n = none :=
  if_neg (Nat.not_lt.mpr beyond)

/-- The longest delay is a nanosecond less than what a word of seconds does not hold. -/
theorem le_longest_iff : n ≤ longest ↔ n / nanosPerSecond < 2 ^ 64 := by
  have next : longest + 1 = 2 ^ 64 * nanosPerSecond := by decide
  rw [Nat.div_lt_iff_lt_mul (by decide), ← next, Nat.lt_add_one_iff]

theorem words_seconds (d : Delay) : d.words.seconds.toNat = d.nanos / nanosPerSecond :=
  UInt64.toNat_ofNat_of_lt' (le_longest_iff.mp d.bounded)

theorem left_lt (n : Nat) : n % nanosPerSecond < nanosPerSecond :=
  Nat.mod_lt n (by decide)

theorem words_left (d : Delay) : d.words.left.toNat = d.nanos % nanosPerSecond :=
  UInt32.toNat_ofNat_of_lt' (Nat.lt_trans (left_lt d.nanos) (by decide))

theorem words_nanos (d : Delay) : d.words.nanos = d.nanos := by
  rw [Words.nanos, words_seconds, words_left]
  exact Nat.div_add_mod' _ _

/-- Words are those of a delay if their seconds and the rest are. -/
theorem words_eq {w : Words} (seconds : w.seconds.toNat = d.nanos / nanosPerSecond)
    (left : w.left.toNat = d.nanos % nanosPerSecond) : w = d.words := by
  rw [← words_seconds] at seconds
  rw [← words_left] at left
  cases w
  cases UInt64.toNat_inj.mp seconds
  cases UInt32.toNat_inj.mp left
  rfl

/-- The product of the nanoseconds fits into a word. -/
theorem words_left_mul (d : Delay) (factor : UInt32) :
    (d.words.left.toUInt64 * factor.toUInt64).toNat = d.nanos % nanosPerSecond * factor.toNat := by
  have most : d.nanos % nanosPerSecond * factor.toNat < nanosPerSecond * 2 ^ 32 :=
    Nat.mul_lt_mul'' (left_lt d.nanos) factor.toNat_lt
  rw [UInt64.toNat_mul, UInt32.toNat_toUInt64, UInt32.toNat_toUInt64, words_left,
    Nat.mod_eq_of_lt (Nat.lt_trans most (by decide))]

/-- The seconds of an exact product: those of the seconds, and what the nanoseconds carry over. -/
theorem mul_div (n factor : Nat) :
    n * factor / nanosPerSecond =
      n / nanosPerSecond * factor + n % nanosPerSecond * factor / nanosPerSecond := by
  have parts : n * factor =
      n % nanosPerSecond * factor + n / nanosPerSecond * factor * nanosPerSecond := by
    calc
      n * factor = (n % nanosPerSecond + n / nanosPerSecond * nanosPerSecond) * factor := by
        rw [Nat.mod_add_div']
      _ = _ := by rw [Nat.add_mul, Nat.mul_right_comm]
  rw [parts, Nat.add_mul_div_right _ _ (by decide), Nat.add_comm]

/-- In words a multiple is the exact one, unless it is longer than any delay. -/
theorem words_times? (d : Delay) (factor : UInt32) :
    d.words.times? factor =
      if d.nanos * factor.toNat ≤ longest then some (d.times factor.toNat).words else none := by
  have seconds := mul_div d.nanos factor.toNat
  have carry : (d.words.left.toUInt64 * factor.toUInt64 / 1000000000).toNat =
      d.nanos % nanosPerSecond * factor.toNat / nanosPerSecond := by
    rw [UInt64.toNat_div, words_left_mul]
    rfl
  have left : (d.words.left.toUInt64 * factor.toUInt64 % 1000000000).toUInt32.toNat =
      d.nanos * factor.toNat % nanosPerSecond := by
    have least := left_lt (d.nanos * factor.toNat)
    rw [UInt64.toNat_toUInt32, UInt64.toNat_mod, words_left_mul]
    refine Eq.trans (congrArg (· % 2 ^ 32) (Nat.mod_mul_mod ..)) ?_
    exact Nat.mod_eq_of_lt (Nat.lt_trans least (by decide))
  rw [Words.times?, words_seconds, carry]
  split
  · next within =>
    have exactly : (d.times factor.toNat).nanos = d.nanos * factor.toNat := by
      rw [times_nanos, Nat.min_eq_left within]
    rw [le_longest_iff, seconds] at within
    obtain ⟨whole, made, value⟩ := word?_of_lt (Nat.lt_of_le_of_lt (Nat.le_add_right _ _) within)
    rw [made, Option.bind_some, value]
    obtain ⟨sum, made, value⟩ := word?_of_lt within
    rw [made, Option.map_some]
    refine congrArg some (words_eq ?_ ?_)
    · rw [value, exactly, seconds]
    · rw [left, exactly]
  · next beyond =>
    rw [le_longest_iff, seconds, Nat.not_lt] at beyond
    rcases Nat.lt_or_ge (d.nanos / nanosPerSecond * factor.toNat) (2 ^ 64) with within | whole
    · obtain ⟨whole, made, value⟩ := word?_of_lt within
      rw [made, Option.bind_some, value, word?_of_le beyond, Option.map_none]
    · rw [word?_of_le whole, Option.bind_none]

/-- The multiple, or the longest delay if words do not hold it. -/
theorem words_times (d : Delay) (factor : UInt32) :
    (d.words.times? factor).getD (saturated longest).words = (d.times factor.toNat).words := by
  rw [words_times?]
  split
  · rfl
  · next beyond =>
    have saturated : saturated longest = d.times factor.toNat := by
      refine ext ?_
      rw [times_nanos, Nat.min_eq_right (Nat.le_of_not_le beyond)]
      exact Nat.min_self longest
    rw [Option.getD_none, saturated]

/-- Words are compared by their seconds first, as their delays are. -/
theorem words_shorter (a b : Delay) : a.words.shorter b.words = (a.shorter b).words := by
  have order : a.words.seconds < b.words.seconds ∨
      a.words.seconds = b.words.seconds ∧ a.words.left ≤ b.words.left ↔ a.nanos ≤ b.nanos := by
    rw [UInt64.lt_iff_toNat_lt, ← UInt64.toNat_inj, UInt32.le_iff_toNat_le, words_seconds,
      words_seconds, words_left, words_left]
    simp only [nanosPerSecond]
    omega
  rw [Words.shorter, shorter]
  by_cases le : a.nanos ≤ b.nanos
  · rw [if_pos (order.mpr le), if_pos le]
  · rw [if_neg (mt order.mp le), if_neg le]

end Delay

namespace Backoff

open Delay (Words longest)

/-- The number of the next attempt, if a word holds it. -/
def next? (attempt : UInt32) : Option UInt32 :=
  if attempt.toNat + 1 < 2 ^ 32 then some (attempt + 1) else none

/-- The power of two, or the largest word. -/
def doubled (attempt : UInt32) : UInt32 :=
  if attempt < 32 then 1 <<< attempt else 4294967295

/-- The delay after the attempt of a number in words; none if equal steps overflow. -/
def inWords (b : Backoff) (attempt : UInt32) : Option Words :=
  let grown := match b.growth with
    | .constant => some b.initial.words
    | .linear => (next? attempt).bind b.initial.words.times?
    | .exponential =>
      some ((b.initial.words.times? (doubled attempt)).getD (Delay.saturated longest).words)
  grown.map fun w => w.shorter b.cap.words

/-- What may overflow does not: the step of a linear delay, and its product with the first. -/
def Fits (b : Backoff) (attempt : Nat) : Prop :=
  b.growth = .linear → attempt + 1 < 2 ^ 32 ∧ b.initial.nanos * (attempt + 1) ≤ longest

variable {b : Backoff} {attempt : UInt32} {m n : Nat}

theorem Fits.mono (earlier : m ≤ n) (fits : b.Fits n) : b.Fits m := by
  intro linear
  obtain ⟨number, product⟩ := fits linear
  have steps : b.initial.nanos * (m + 1) ≤ b.initial.nanos * (n + 1) :=
    Nat.mul_le_mul_left _ (Nat.add_le_add_right earlier 1)
  omega

theorem factor_exponential (n : Nat) : factor .exponential n = min (2 ^ n) (2 ^ 32 - 1) := by
  rw [factor]
  split
  · next small =>
    have power : 2 ^ n < 2 ^ 32 := Nat.pow_lt_pow_right (by decide) small
    exact (Nat.min_eq_left (Nat.le_sub_one_of_lt power)).symm
  · next large =>
    have power : 2 ^ 32 ≤ 2 ^ n := Nat.pow_le_pow_right (by decide) (Nat.le_of_not_lt large)
    exact (Nat.min_eq_right (Nat.le_trans (Nat.sub_le _ _) power)).symm

theorem factor_mono (growth : Growth) (earlier : m ≤ n) : factor growth m ≤ factor growth n := by
  cases growth with
  | constant => exact Nat.le_refl 1
  | linear => exact Nat.add_le_add_right earlier 1
  | exponential =>
    have power : 2 ^ m ≤ 2 ^ n := Nat.pow_le_pow_right (by decide) earlier
    rw [factor_exponential, factor_exponential]
    omega

/-- The cap is a delay itself, so that it hides where the product is cut down to the longest. -/
theorem delay_nanos (b : Backoff) (n : Nat) :
    (b.delay n).nanos = min b.cap.nanos (b.initial.nanos * factor b.growth n) := by
  have capped := b.cap.bounded
  rw [delay, Delay.shorter_nanos, Delay.times_nanos]
  omega

theorem delay_le_cap (b : Backoff) (n : Nat) : (b.delay n).nanos ≤ b.cap.nanos := by
  rw [delay_nanos]
  exact Nat.min_le_left _ _

theorem delay_mono (b : Backoff) (earlier : m ≤ n) : (b.delay m).nanos ≤ (b.delay n).nanos := by
  have product : b.initial.nanos * factor b.growth m ≤ b.initial.nanos * factor b.growth n :=
    Nat.mul_le_mul_left _ (factor_mono b.growth earlier)
  rw [delay_nanos, delay_nanos]
  omega

theorem doubled_toNat (attempt : UInt32) :
    (doubled attempt).toNat = factor .exponential attempt.toNat := by
  rw [doubled, factor]
  by_cases small : attempt.toNat < 32
  · have power : 2 ^ attempt.toNat < 2 ^ 32 := Nat.pow_lt_pow_right (by decide) small
    rw [if_pos (UInt32.lt_iff_toNat_lt.mpr small), if_pos small, UInt32.toNat_shiftLeft,
      Nat.mod_eq_of_lt small, Nat.shiftLeft_eq]
    exact (congrArg (· % 2 ^ 32) (Nat.one_mul _)).trans (Nat.mod_eq_of_lt power)
  · rw [if_neg (mt UInt32.lt_iff_toNat_lt.mp small), if_neg small]
    rfl

theorem next?_of_lt (within : attempt.toNat + 1 < 2 ^ 32) :
    ∃ number, next? attempt = some number ∧ number.toNat = attempt.toNat + 1 := by
  refine ⟨_, if_pos within, ?_⟩
  rw [UInt32.toNat_add]
  exact Nat.mod_eq_of_lt within

/-- A product of equal steps in words, if it overflows nowhere. -/
theorem linear_inWords (d : Delay) (attempt : UInt32) :
    (next? attempt).bind d.words.times? =
      if attempt.toNat + 1 < 2 ^ 32 ∧ d.nanos * (attempt.toNat + 1) ≤ longest then
        some (d.times (attempt.toNat + 1)).words
      else none := by
  by_cases within : attempt.toNat + 1 < 2 ^ 32
  · obtain ⟨number, made, value⟩ := next?_of_lt within
    rw [made, Option.bind_some, Delay.words_times?, value]
    simp only [within, true_and]
  · have beyond : next? attempt = none := if_neg within
    rw [beyond, Option.bind_none, if_neg fun both => within both.1]

/-- In words a delay is what it is in exact arithmetic, and none exactly if it overflows. -/
theorem inWords_eq (b : Backoff) (attempt : UInt32) :
    (b.Fits attempt.toNat → b.inWords attempt = some (b.delay attempt.toNat).words) ∧
    (¬ b.Fits attempt.toNat → b.inWords attempt = none) := by
  obtain ⟨growth, initial, cap⟩ := b
  cases growth with
  | constant =>
    have once : initial.times 1 = initial := by
      refine Delay.ext ?_
      rw [Delay.times_nanos, Nat.mul_one, Nat.min_eq_left initial.bounded]
    refine ⟨fun _ => ?_, fun overflows => absurd nofun overflows⟩
    simp only [inWords, Option.map_some, Delay.words_shorter, delay, factor, once]
  | linear =>
    simp only [inWords, linear_inWords]
    refine ⟨fun fits => ?_, fun overflows => ?_⟩
    · rw [if_pos (fits rfl), Option.map_some, Delay.words_shorter]
      rfl
    · rw [if_neg fun within => overflows fun _ => within, Option.map_none]
  | exponential =>
    refine ⟨fun _ => ?_, fun overflows => absurd nofun overflows⟩
    simp only [inWords, Delay.words_times, doubled_toNat, Option.map_some, Delay.words_shorter, delay]

/-- What words come to that are reckoned without overflow. -/
theorem inWords_some {w : Words} (reckoned : b.inWords attempt = some w) :
    b.Fits attempt.toNat ∧ w = (b.delay attempt.toNat).words := by
  by_cases fits : b.Fits attempt.toNat
  · rw [(b.inWords_eq attempt).1 fits] at reckoned
    exact ⟨fits, (Option.some.inj reckoned).symm⟩
  · rw [(b.inWords_eq attempt).2 fits] at reckoned
    cases reckoned

theorem inWords_of_fits (fits : b.Fits attempt.toNat) :
    ∃ w, b.inWords attempt = some w ∧
      w.nanos = min b.cap.nanos (b.initial.nanos * factor b.growth attempt.toNat) :=
  ⟨_, (b.inWords_eq attempt).1 fits, by rw [Delay.words_nanos, delay_nanos]⟩

/-- Reckoned in words, a delay that doubles is the exact product with the power of two or with the
largest word, and one that stays the same is the initial one, each cut down to the cap; neither ever
overflows. A delay of equal steps is the exact product, cut down to the cap, unless the number of the
next attempt or the product overflows. Without overflow it is the delay that is waited, it never
exceeds its cap, and those of earlier attempts are reckoned too and are no longer. -/
theorem inWords_exact (b : Backoff) (attempt : UInt32) :
    (b.growth = .exponential → ∃ w, b.inWords attempt = some w ∧
      w.nanos = min b.cap.nanos (b.initial.nanos * min (2 ^ attempt.toNat) (2 ^ 32 - 1))) ∧
    (b.growth = .constant → ∃ w, b.inWords attempt = some w ∧
      w.nanos = min b.cap.nanos b.initial.nanos) ∧
    (b.growth = .linear →
      ((b.inWords attempt).isSome ↔
        attempt.toNat + 1 < 2 ^ 32 ∧ b.initial.nanos * (attempt.toNat + 1) ≤ longest) ∧
      ∀ w, b.inWords attempt = some w →
        w.nanos = min b.cap.nanos (b.initial.nanos * (attempt.toNat + 1))) ∧
    ∀ w, b.inWords attempt = some w →
      w = (b.delay attempt.toNat).words ∧ w.nanos ≤ b.cap.nanos ∧
      ∀ earlier ≤ attempt, ∃ v, b.inWords earlier = some v ∧ v.nanos ≤ w.nanos := by
  refine ⟨fun doubles => ?_, fun stays => ?_, fun steps => ⟨?_, fun w reckoned => ?_⟩,
    fun w reckoned => ?_⟩
  · have fits : b.Fits attempt.toNat := fun linear => by cases doubles.symm.trans linear
    obtain ⟨w, reckoned, value⟩ := inWords_of_fits fits
    exact ⟨w, reckoned, by rw [value, doubles, factor_exponential]⟩
  · have fits : b.Fits attempt.toNat := fun linear => by cases stays.symm.trans linear
    obtain ⟨w, reckoned, value⟩ := inWords_of_fits fits
    exact ⟨w, reckoned, by rw [value, stays, factor, Nat.mul_one]⟩
  · refine ⟨fun reckoned => ?_, fun within => ?_⟩
    · obtain ⟨w, reckoned⟩ := Option.isSome_iff_exists.mp reckoned
      exact (inWords_some reckoned).1 steps
    · obtain ⟨w, reckoned, _⟩ := inWords_of_fits (b := b) fun _ => within
      rw [reckoned, Option.isSome_some]
  · obtain ⟨_, rfl⟩ := inWords_some reckoned
    rw [Delay.words_nanos, delay_nanos, steps, factor]
  · obtain ⟨fits, rfl⟩ := inWords_some reckoned
    refine ⟨rfl, ?_, fun earlier before => ?_⟩
    · rw [Delay.words_nanos]
      exact b.delay_le_cap _
    · have number : earlier.toNat ≤ attempt.toNat := UInt32.le_iff_toNat_le.mp before
      refine ⟨_, (b.inWords_eq earlier).1 (fits.mono number), ?_⟩
      rw [Delay.words_nanos, Delay.words_nanos]
      exact b.delay_mono number

/-- The longest delay there is, doubled again and again up to that delay. -/
def farthest : Backoff :=
  ⟨.exponential, .saturated longest, .saturated longest⟩

/-- Behind forty doublings nothing has overflowed: the delay is the longest one, and none before it is
longer. -/
theorem farthest_exact : farthest.growth = .exponential ∧ (39 : UInt32) ≤ 40 ∧
    ∃ w v, farthest.inWords 40 = some w ∧ w.nanos = longest ∧
      farthest.inWords 39 = some v ∧ v.nanos ≤ longest := by
  obtain ⟨exponential, _, _, all⟩ := inWords_exact farthest 40
  obtain ⟨w, reckoned, value⟩ := exponential rfl
  obtain ⟨_, _, earlier⟩ := all w reckoned
  obtain ⟨v, before, le⟩ := earlier 39 (by decide)
  have most : w.nanos = longest := value.trans (by decide)
  exact ⟨rfl, by decide, w, v, reckoned, most, before, most ▸ le⟩

end Backoff

end Pager
