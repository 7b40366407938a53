/-
# GeoFeed.Text.Blank -- blank characters and trimming

A character is blank when Unicode gives it the property `White_Space`: the five
controls from tab to carriage return, the space, the next-line control, the
no-break space and the spaces and separators of the general punctuation blocks.
The information separators `U+001C` to `U+001F`, the zero-width space and the
byte order mark are not blank.

`trim` takes the blanks off both ends of a text and leaves the rest alone.  It is
characterised end by end: an end is unchanged exactly when no blank stands there
(`trimFront_eq_self_iff`, `trimBack_eq_self_iff`).
-/
namespace GeoFeed.Text

set_option autoImplicit false

/-- The characters with the property `White_Space`. -/
def isBlank (c : Char) : Bool :=
  let n := c.toNat
  (0x09 ≤ n && n ≤ 0x0D) || n == 0x20 || n == 0x85 || n == 0xA0 || n == 0x1680 ||
    (0x2000 ≤ n && n ≤ 0x200A) || n == 0x2028 || n == 0x2029 || n == 0x202F ||
    n == 0x205F || n == 0x3000

/-- Drop the blanks at the front. -/
def trimFront (cs : List Char) : List Char :=
  cs.dropWhile isBlank

/-- Drop the blanks at the back. -/
def trimBack (cs : List Char) : List Char :=
  (cs.reverse.dropWhile isBlank).reverse

/-- Drop the blanks at both ends. -/
def trimChars (cs : List Char) : List Char :=
  trimBack (trimFront cs)

/-- `s` without the blanks at its ends. -/
def trim (s : String) : String :=
  String.ofList (trimChars s.toList)

/-- `s` trimmed, or nothing when only blanks are there. -/
def nonBlank? (s : String) : Option String :=
  let t := trim s
  if t.isEmpty then none else some t

theorem trimFront_eq_self_iff (cs : List Char) :
    trimFront cs = cs ↔ ∀ c, cs.head? = some c → isBlank c = false := by
  cases cs with
  | nil => simp [trimFront]
  | cons c rest =>
      simp only [trimFront, List.head?_cons, Option.some.injEq, forall_eq', List.dropWhile_cons]
      cases hc : isBlank c with
      | false => simp
      | true =>
          simp only [if_true]
          constructor
          · intro same
            have := congrArg List.length same
            have shorter := (List.dropWhile_sublist isBlank (l := rest)).length_le
            simp only [List.length_cons] at this
            omega
          · intro h; cases h

theorem trimBack_eq_self_iff (cs : List Char) :
    trimBack cs = cs ↔ ∀ c, cs.getLast? = some c → isBlank c = false := by
  rw [trimBack, ← List.head?_reverse, ← trimFront_eq_self_iff, trimFront]
  constructor
  · intro h
    have := congrArg List.reverse h
    simpa using this
  · intro h
    rw [h, List.reverse_reverse]

@[simp]
theorem toList_trim (s : String) : (trim s).toList = trimChars s.toList := by
  simp [trim]

end GeoFeed.Text
