/-
# GeoFeed.Proofs.Calendar.Spelling -- reading what a clock spells

A number with zeros in front is read as the number (`figures_padded`), and the reader takes
all of its figures and no more when no figure follows or when it may take no more
(`number?_append`).  From this each part of a spelled clock is read: years with four
figures or with a sign, then the marks and the numbers of two figures in their order.  No
figure and no mark is blank, so nothing is skipped.

The main statement is `fields?_toChars`: the reader takes the clock off the front of a text
and goes on with what follows it, whatever fraction and offset that spells.
-/
import Mathlib.Algebra.GroupWithZero.Nat
import GeoFeed.Calendar.Reading
import GeoFeed.Calendar.Rfc3339

namespace GeoFeed.Calendar

set_option autoImplicit false

/-! ## Figures -/

theorem isDigit_of_mem_padded {width n : Nat} {c : Char} (member : c ∈ padded width n) :
    c.isDigit = true := by
  rcases List.mem_append.1 member with zero | digit
  · rw [List.eq_of_mem_replicate zero]
    rfl
  · exact Nat.isDigit_of_mem_toDigits (by decide) (by decide) digit

theorem padded_ne_nil (width n : Nat) : padded width n ≠ [] := by
  simp [padded, Decimal.digitsOf, Nat.toDigits_ne_nil]

theorem le_length_padded (width n : Nat) : width ≤ (padded width n).length := by
  simp only [padded, List.length_append, List.length_replicate]
  omega

/-- A number that has room for its digits fills the width. -/
theorem length_padded {width n : Nat} (wide : 0 < width) (small : n < 10 ^ width) :
    (padded width n).length = width := by
  have digits : (Decimal.digitsOf n).length ≤ width :=
    (Nat.length_toDigits_le_iff (by decide) wide).2 small
  simp only [padded, List.length_append, List.length_replicate]
  omega

namespace Reading

/-- **Zeros in front do not change a number.** -/
theorem figures_padded (width n : Nat) : figures (padded width n) = n := by
  rw [figures, padded, Nat.ofDigitChars_append, Nat.ofDigitChars_replicate_zero, Nat.mul_zero,
    Decimal.digitsOf, Nat.ofDigitChars_ten_toDigits]

theorem isBlank_of_isDigit {c : Char} (digit : c.isDigit = true) : Text.isBlank c = false := by
  rw [Char.isDigit, Bool.and_eq_true, decide_eq_true_eq, decide_eq_true_eq] at digit
  have least : 48 ≤ c.toNat := digit.1
  have greatest : c.toNat ≤ 57 := digit.2
  simp only [Text.isBlank, Bool.or_eq_false_iff, Bool.and_eq_false_iff, decide_eq_false_iff_not,
    beq_eq_false_iff_ne]
  omega

theorem trimFront_cons {c : Char} (plain : Text.isBlank c = false) (rest : List Char) :
    Text.trimFront (c :: rest) = c :: rest := by
  rw [Text.trimFront_eq_self_iff]
  intro d head
  cases head
  exact plain

theorem trimFront_digits {digits : List Char} (all : ∀ c ∈ digits, c.isDigit = true)
    (nonempty : digits ≠ []) (rest : List Char) :
    Text.trimFront (digits ++ rest) = digits ++ rest := by
  cases digits with
  | nil => exact absurd rfl nonempty
  | cons c digits => exact trimFront_cons (isBlank_of_isDigit (all c List.mem_cons_self)) _

theorem trimFront_padded (width n : Nat) (rest : List Char) :
    Text.trimFront (padded width n ++ rest) = padded width n ++ rest :=
  trimFront_digits (fun _ => isDigit_of_mem_padded) (padded_ne_nil width n) rest

/-- **A number is read whole** where it fills the width or no figure follows it. -/
theorem number?_append {width : Nat} {digits rest : List Char}
    (all : ∀ c ∈ digits, c.isDigit = true) (nonempty : digits ≠ [])
    (room : digits.length ≤ width)
    (ends : digits.length = width ∨ ∀ c, rest.head? = some c → c.isDigit = false) :
    number? width (digits ++ rest) = some (figures digits, rest) := by
  have stop : (rest.take (width - digits.length)).takeWhile Char.isDigit = [] := by
    rcases ends with full | other
    · rw [full, Nat.sub_self, List.take_zero, List.takeWhile_nil]
    · cases rest with
      | nil => rw [List.take_nil, List.takeWhile_nil]
      | cons c rest =>
          cases width - digits.length with
          | zero => rfl
          | succ more =>
              rw [List.take_succ_cons, List.takeWhile_cons, other c rfl]
              rfl
  have taken : ((digits ++ rest).take width).takeWhile Char.isDigit = digits := by
    rw [List.take_append, List.take_of_length_le room, List.takeWhile_append_of_pos all, stop,
      List.append_nil]
  rw [number?]
  simp only [taken, List.drop_left, List.isEmpty_iff, nonempty, if_false]

theorem number?_padded {width n : Nat} (wide : 0 < width) (small : n < 10 ^ width)
    (rest : List Char) : number? width (padded width n ++ rest) = some (n, rest) := by
  have length := length_padded wide small
  rw [number?_append (fun _ => isDigit_of_mem_padded) (padded_ne_nil width n)
    (Nat.le_of_eq length) (.inl length), figures_padded]

theorem longNumber?_padded (width n : Nat) {c : Char} (other : c.isDigit = false)
    (rest : List Char) :
    longNumber? (padded width n ++ c :: rest) = some (n, c :: rest) := by
  have ends : ∀ d, (c :: rest).head? = some d → d.isDigit = false := by
    intro d head
    cases head
    exact other
  rw [longNumber?, number?_append (fun _ => isDigit_of_mem_padded) (padded_ne_nil width n)
    (by simp) (.inr ends), figures_padded]

/-! ## The parts of a clock -/

theorem short?_padded {n : Nat} (small : n < 100) (rest : List Char) :
    short? (padded 2 n ++ rest) = some (n, rest) := by
  rw [short?, trimFront_padded, number?_padded (by decide) small]

theorem mark?_cons (mark : Char) (plain : Text.isBlank mark = false) (rest : List Char) :
    mark? mark (mark :: rest) = some rest := by
  rw [mark?, trimFront_cons plain]
  exact if_pos rfl

/-- A year without a sign is read in four figures. -/
theorem year?_digits {digits rest : List Char} (all : ∀ c ∈ digits, c.isDigit = true)
    (nonempty : digits ≠ []) :
    year? (digits ++ rest) = (number? 4 (digits ++ rest)).map fun (n, rest) => ((n : Int), rest) := by
  rw [year?, trimFront_digits all nonempty]
  cases digits with
  | nil => exact absurd rfl nonempty
  | cons c digits =>
      have digit := all c List.mem_cons_self
      split
      · rename_i same
        cases same
        cases digit
      · rename_i same
        cases same
        cases digit
      · rfl

/-- **A year is read as it is spelled**, four figures or a sign and more. -/
theorem year?_yearChars (year : Int) {c : Char} (other : c.isDigit = false) (rest : List Char) :
    year? (yearChars year ++ c :: rest) = some (year, c :: rest) := by
  rw [yearChars]
  split
  · rename_i common
    have same : (year.toNat : Int) = year := Int.toNat_of_nonneg common.1
    rw [year?_digits (fun _ => isDigit_of_mem_padded) (padded_ne_nil _ _),
      number?_padded (by decide) (by omega)]
    simp only [Option.map_some, same]
  · split
    · have negative : -(year.natAbs : Int) = year := by omega
      rw [year?, List.cons_append, trimFront_cons (by decide)]
      simp only [longNumber?_padded _ _ other, Option.map_some, negative]
    · have positive : (year.natAbs : Int) = year := by omega
      rw [year?, List.cons_append, trimFront_cons (by decide)]
      simp only [longNumber?_padded _ _ other, Option.map_some, positive]

/-! ## Offsets -/

/-- Numbers below a hundred have their tens and their ones. -/
theorem padded_two {n : Nat} (small : n < 100) :
    padded 2 n = [Nat.digitChar (n / 10), Nat.digitChar (n % 10)] := by
  have all : ∀ n ∈ List.range 100, padded 2 n = [Nat.digitChar (n / 10), Nat.digitChar (n % 10)] := by
    decide +kernel
  exact all n (List.mem_range.2 small)

theorem offsetMinutes?_padded {minutes : Nat} (small : minutes < 60) (rest : List Char) :
    offsetMinutes? (padded 2 minutes ++ rest) = some (minutes, rest) := by
  have value := figures_padded 2 minutes
  have all : ∀ n ∈ List.range 60, ('0' ≤ Nat.digitChar (n / 10) && Nat.digitChar (n / 10) ≤ '5'
      && (Nat.digitChar (n % 10)).isDigit) = true := by
    decide +kernel
  have figure := all minutes (List.mem_range.2 small)
  rw [padded_two (by omega)] at value ⊢
  simp only [List.cons_append, List.nil_append, offsetMinutes?, figure, if_true, value]

theorem unsignedOffset?_padded {hours minutes : Nat} (few : hours < 100) (small : minutes < 60)
    (rest : List Char) :
    unsignedOffset? (padded 2 hours ++ ':' :: (padded 2 minutes ++ rest))
      = some (hours * 3600 + minutes * 60, rest) := by
  have value := figures_padded 2 hours
  have digits : ∀ c ∈ padded 2 hours, c.isDigit = true := fun _ => isDigit_of_mem_padded
  have stop : ∀ c ∈ padded 2 minutes, (c == ':' || Text.isBlank c) = false := by
    intro c member
    have digit := isDigit_of_mem_padded member
    rw [isBlank_of_isDigit digit, Bool.or_false, beq_eq_false_iff_ne]
    rintro rfl
    cases digit
  have separated : (':' :: (padded 2 minutes ++ rest)).dropWhile (fun c => c == ':' || Text.isBlank c)
      = padded 2 minutes ++ rest := by
    rw [List.dropWhile_cons, if_pos (show (':' == ':' || Text.isBlank ':') = true from rfl)]
    rw [padded_two (by omega)] at stop ⊢
    rw [List.cons_append, List.dropWhile_cons, stop _ List.mem_cons_self]
    rfl
  rw [padded_two few] at value digits ⊢
  have tens := digits _ List.mem_cons_self
  have ones := digits _ (List.mem_cons_of_mem _ List.mem_cons_self)
  simp only [List.cons_append, List.nil_append, unsignedOffset?, tens, ones, Bool.and_self, if_true,
    separated, offsetMinutes?_padded small, Option.bind_eq_bind, Option.bind_some, value]
  rfl

/-- **An offset in figures is read as it is.** -/
theorem offset?_offsetChars (negative : Bool) {minutes : Nat} (few : minutes < 6000) :
    offset? (Text.trimFront (offsetChars negative minutes))
      = some ((if negative then -(minutes * 60 : Nat) else (minutes * 60 : Nat) : Int), []) := by
  have unsigned := unsignedOffset?_padded (show minutes / 60 < 100 by omega)
    (show minutes % 60 < 60 by omega) []
  rw [List.append_nil] at unsigned
  have total : minutes / 60 * 3600 + minutes % 60 * 60 = minutes * 60 := by omega
  cases negative with
  | true =>
      rw [offsetChars, if_pos rfl, trimFront_cons (by decide)]
      simp only [offset?, unsigned, Option.map_some, total, if_true]
  | false =>
      rw [offsetChars, if_neg (by decide), trimFront_cons (by decide)]
      simp only [offset?, unsigned, Option.map_some, total, Bool.false_eq_true, if_false]

end Reading

/-- A clock whose numbers have two figures, but for the year. -/
structure WallClock.Fits (w : WallClock) : Prop where
  month : w.date.month < 100
  day : w.date.day < 100
  hour : w.hour < 100
  minute : w.minute < 100
  second : w.second < 100

namespace Reading

theorem bind_of_eq_some {α β : Type} {x : Option α} {a : α} (found : x = some a)
    (f : α → Option β) : (x >>= f) = f a := by
  rw [found]
  rfl

/-- **A spelled clock is read as it is**, in front of any fraction and offset. -/
theorem fields?_toChars {w : WallClock} (fits : w.Fits) {tail after : List Char} {nanos : Nat}
    {offset : Int} (fraction : fraction? tail = some (nanos, after))
    (zone : offset? (Text.trimFront after) = some (offset, [])) :
    fields? (w.toChars ++ tail) = some ⟨w.date, w.hour, w.minute, w.second, nanos, offset⟩ := by
  have spelled : w.toChars ++ tail
      = yearChars w.date.year ++ '-' :: (padded 2 w.date.month ++ '-' :: (padded 2 w.date.day
        ++ 'T' :: (padded 2 w.hour ++ ':' :: (padded 2 w.minute ++ ':' :: (padded 2 w.second
        ++ tail))))) := by
    simp [WallClock.toChars, Date.toChars]
  rw [spelled, fields?]
  refine (bind_of_eq_some (year?_yearChars w.date.year rfl _) _).trans ?_
  refine (bind_of_eq_some (mark?_cons '-' rfl _) _).trans ?_
  refine (bind_of_eq_some (short?_padded fits.month _) _).trans ?_
  refine (bind_of_eq_some (mark?_cons '-' rfl _) _).trans ?_
  refine (bind_of_eq_some (short?_padded fits.day _) _).trans ?_
  refine (bind_of_eq_some rfl _).trans ?_
  refine (bind_of_eq_some (short?_padded fits.hour _) _).trans ?_
  refine (bind_of_eq_some (mark?_cons ':' rfl _) _).trans ?_
  refine (bind_of_eq_some (short?_padded fits.minute _) _).trans ?_
  refine (bind_of_eq_some (mark?_cons ':' rfl _) _).trans ?_
  refine (bind_of_eq_some (short?_padded fits.second _) _).trans ?_
  refine (bind_of_eq_some fraction _).trans ?_
  refine (bind_of_eq_some zone _).trans ?_
  rfl

end Reading

end GeoFeed.Calendar
