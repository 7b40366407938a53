/-
# GeoFeed.Proofs.Url.Visible -- what a URL is made of

Whatever a base URL is read from, its scheme, its authority and its path consist of
visible characters of ASCII: no control and no space is among them, and nothing
beyond ASCII.  Each part of a URL has its own reason for that.  A scheme is letters,
figures and three marks; names, passwords and paths are percent-encoded; a host is
an address of figures or a domain that has been spelled in ASCII and has none of the
forbidden characters in it.

A path without a root is the one exception, since it keeps its spaces.  No address
of a service has such a path.

Main statement: `ofText_visible`.
-/
import Mathlib.Data.List.Basic
import GeoFeed.Url.Service

namespace GeoFeed.Url

set_option autoImplicit false

/-- What joined texts consist of. -/
theorem mem_intercalate {mark : List Char} {parts : List (List Char)} {c : Char}
    (member : c ∈ mark.intercalate parts) : c ∈ mark ∨ ∃ part ∈ parts, c ∈ part := by
  induction parts with
  | nil => cases member
  | cons part rest ih =>
      cases rest with
      | nil => exact .inr ⟨part, List.mem_cons_self, by simpa using member⟩
      | cons other rest =>
          rw [List.intercalate_cons_cons, List.mem_append, List.mem_append] at member
          rcases member with (first | between) | later
          · exact .inr ⟨part, List.mem_cons_self, first⟩
          · exact .inl between
          · rcases ih later with between | ⟨part', inside, found⟩
            · exact .inl between
            · exact .inr ⟨part', List.mem_cons_of_mem _ inside, found⟩

/-- The characters of ASCII that can be seen. -/
def isVisible (c : Char) : Bool := 0x21 ≤ c.toNat && c.toNat ≤ 0x7E

/-- A text of visible characters. -/
def Visible (cs : List Char) : Prop := ∀ c ∈ cs, isVisible c = true

namespace Visible

@[simp]
theorem nil : Visible [] := by simp [Visible]

@[simp]
theorem cons_iff {c : Char} {cs : List Char} :
    Visible (c :: cs) ↔ isVisible c = true ∧ Visible cs := by
  simp [Visible]

@[simp]
theorem append_iff {cs ds : List Char} : Visible (cs ++ ds) ↔ Visible cs ∧ Visible ds := by
  simp [Visible, or_imp, forall_and]

theorem flatMap {α : Type} {text : α → List Char} {items : List α}
    (each : ∀ item ∈ items, Visible (text item)) : Visible (items.flatMap text) := by
  intro c member
  obtain ⟨item, inside, found⟩ := List.mem_flatMap.1 member
  exact each item inside c found

theorem intercalate {mark : List Char} (seen : Visible mark) {parts : List (List Char)}
    (each : ∀ part ∈ parts, Visible part) : Visible (mark.intercalate parts) := by
  intro c member
  rcases mem_intercalate member with between | ⟨part, inside, found⟩
  · exact seen c between
  · exact each part inside c found

end Visible

theorem isVisible_of_isAlphanum {c : Char} (h : c.isAlphanum = true) : isVisible c = true := by
  have classes : (decide (c.val ≥ 65 ∧ c.val ≤ 90)
        || (decide (c.val ≥ 97) && decide (c.val ≤ 122)))
      || (decide (c.val ≥ 48) && decide (c.val ≤ 57)) := h
  simp only [Bool.or_eq_true, Bool.and_eq_true, decide_eq_true_eq, UInt32.le_iff_toNat_le,
    ge_iff_le] at classes
  change ((65 ≤ c.toNat ∧ c.toNat ≤ 90) ∨ (97 ≤ c.toNat ∧ c.toNat ≤ 122))
    ∨ (48 ≤ c.toNat ∧ c.toNat ≤ 57) at classes
  simp only [isVisible, Bool.and_eq_true, decide_eq_true_eq]
  omega

/-- A letter in lower case is the letter itself or stands 32 places after it. -/
theorem toNat_toLower (c : Char) :
    c.toLower.toNat = c.toNat ∨ (c.toNat ≤ 0x5A ∧ c.toLower.toNat = c.toNat + 0x20) := by
  unfold Char.toLower
  split
  · rename_i upper
    simp only [UInt32.le_iff_toNat_le] at upper
    simp only [Char.toNat] at *
    simp at *
    omega
  · exact .inl rfl

theorem isVisible_toLower {c : Char} (seen : isVisible c = true) : isVisible c.toLower = true := by
  simp only [isVisible, Bool.and_eq_true, decide_eq_true_eq] at seen ⊢
  rcases toNat_toLower c with same | ⟨upper, later⟩ <;> omega

/-! ## Figures -/

theorem visible_figure {n : Nat} (h : n < 16) : isVisible (Text.figure n) = true := by
  have all : ∀ m ∈ List.range 16, isVisible (Text.figure m) = true := by decide
  exact all n (List.mem_range.2 h)

theorem visible_encodeByte (b : UInt8) : Visible (encodeByte b) := by
  have small := b.toNat_lt
  have high := visible_figure (n := b.toNat / 16) (by omega)
  have low := visible_figure (n := b.toNat % 16) (by omega)
  simp only [encodeByte, Visible.cons_iff, Visible.nil, high, low, and_true]
  decide

/-- What is percent-encoded can be seen if the characters left alone can. -/
theorem visible_percentEncode {set : Char → Bool} {cs : List Char}
    (plain : ∀ c ∈ cs, c.toNat < 128 → set c = false → isVisible c = true) :
    Visible (percentEncode set cs) := by
  refine Visible.flatMap fun c member => ?_
  split
  · rename_i alone
    simp only [Bool.and_eq_true, decide_eq_true_eq, Bool.not_eq_true'] at alone
    simpa using plain c member alone.1 alone.2
  · exact Visible.flatMap fun b _ => visible_encodeByte b

/-- A character of ASCII that is neither a control nor the space can be seen. -/
theorem isVisible_of_not_isControl {c : Char} (ascii : c.toNat < 128) (control : isControl c = false)
    (space : c ≠ ' ') : isVisible c = true := by
  have blank : c.toNat ≠ 0x20 := fun same => space (Char.toNat_inj.1 same)
  simp only [isControl, Bool.or_eq_false_iff, decide_eq_false_iff_not, beq_eq_false_iff_ne] at control
  simp only [isVisible, Bool.and_eq_true, decide_eq_true_eq]
  omega

theorem visible_of_inFragmentSet {c : Char} (ascii : c.toNat < 128)
    (outside : inFragmentSet c = false) : isVisible c = true := by
  simp only [inFragmentSet, Bool.or_eq_false_iff, beq_eq_false_iff_ne] at outside
  exact isVisible_of_not_isControl ascii outside.1.1.1.1.1 outside.1.1.1.1.2

theorem visible_percentEncode_path (cs : List Char) : Visible (percentEncode inPathSet cs) := by
  refine visible_percentEncode fun c _ ascii outside => visible_of_inFragmentSet ascii ?_
  simp only [inPathSet, Bool.or_eq_false_iff] at outside
  exact outside.1.1.1.1

theorem visible_percentEncode_userinfo (cs : List Char) :
    Visible (percentEncode inUserinfoSet cs) := by
  refine visible_percentEncode fun c _ ascii outside => visible_of_inFragmentSet ascii ?_
  simp only [inUserinfoSet, inPathSet, Bool.or_eq_false_iff] at outside
  grind

theorem visible_toDigits {base : Nat} (h : 1 < base) (n : Nat) : Visible (Nat.toDigits base n) := by
  have digit : ∀ m, isVisible (Nat.digitChar m) = true := by
    intro m
    match m with
    | 0 | 1 | 2 | 3 | 4 | 5 | 6 | 7 | 8 | 9 | 10 | 11 | 12 | 13 | 14 | 15 => decide
    | k + 16 =>
        have star : Nat.digitChar (k + 16) = '*' := Nat.digitChar_eq_star.2 (by omega)
        rw [star]
        decide
  induction n using Nat.strongRecOn with
  | _ n ih =>
      rw [Nat.toDigits_eq_if h]
      split
      · simpa using digit n
      · have smaller := ih (n / base) (Nat.div_lt_self (by omega) h)
        simpa [smaller] using digit (n % base)

theorem visible_digitsOf (n : Nat) : Visible (Decimal.digitsOf n) :=
  visible_toDigits (by decide) n

/-! ## Hosts -/

namespace Ipv4

theorem visible_toChars (address : Nat) : Visible (toChars address) := by
  simp only [toChars, Visible.append_iff, Visible.cons_iff, visible_digitsOf, true_and, and_true]
  decide

end Ipv4

namespace Ipv6

theorem visible_toChars (pieces : List Nat) : Visible (toChars pieces) := by
  have joined : ∀ ps : List Nat, Visible ([':'].intercalate (ps.map pieceChars)) := by
    intro ps
    refine Visible.intercalate (by simp only [Visible.cons_iff, Visible.nil, and_true]; decide) ?_
    intro part member
    obtain ⟨n, -, rfl⟩ := List.mem_map.1 member
    exact visible_toDigits (by decide) n
  simp only [toChars]
  split
  · exact joined _
  · simp only [Visible.append_iff, Visible.cons_iff, joined, true_and, and_true]
    decide

end Ipv6

namespace Punycode

theorem toNat_figure_lt {n : Nat} (h : n < 36) : (figure n).toNat < 128 := by
  have all : ∀ m ∈ List.range 36, (figure m).toNat < 128 := by decide
  exact all n (List.mem_range.2 h)

theorem toNat_lt_of_mem_numberFrom {bias place n : Nat} {c : Char}
    (member : c ∈ numberFrom bias place n) : c.toNat < 128 := by
  induction n using Nat.strongRecOn generalizing place with
  | _ n ih =>
      have low := threshold_pos bias place
      have high := threshold_le bias place
      rw [numberFrom] at member
      split at member
      · obtain rfl := List.mem_singleton.1 member
        exact toNat_figure_lt (by omega)
      · have remainder : (n - threshold bias place) % (36 - threshold bias place)
            < 36 - threshold bias place := Nat.mod_lt _ (by omega)
        have quotient := Nat.div_le_self (n - threshold bias place) (36 - threshold bias place)
        rcases List.mem_cons.1 member with rfl | member
        · exact toNat_figure_lt (by omega)
        · exact ih _ (by omega) member

theorem toNat_lt_of_mem_write {isFirst : Bool} {bias letters code place : Nat}
    {insertions : List Insertion} {c : Char}
    (member : c ∈ write isFirst bias letters code place insertions) : c.toNat < 128 := by
  induction insertions generalizing isFirst bias letters code place with
  | nil => cases member
  | cons next rest ih =>
      rw [write] at member
      rcases List.mem_append.1 member with here | later
      · exact toNat_lt_of_mem_numberFrom here
      · exact ih later

/-- **A spelling is ASCII.** -/
theorem toNat_lt_of_mem_encode {cs : List Char} {c : Char} (member : c ∈ encode cs) :
    c.toNat < 128 := by
  simp only [encode, List.mem_append] at member
  rcases member with (plain | hyphen) | numbers
  · simpa using (List.mem_filter.1 plain).2
  · split at hyphen
    · cases hyphen
    · obtain rfl := List.mem_singleton.1 hyphen
      decide
  · exact toNat_lt_of_mem_write numbers

end Punycode

namespace Domain

/-- A text of ASCII. -/
theorem isAscii_iff {c : Char} : isAscii c = true ↔ c.toNat < 128 := by
  simp [isAscii]

theorem isAscii_spelling {cs spelling : List Char} (found : spelling? cs = some spelling)
    (ascii : spelling.all isAscii) : cs.all isAscii := by
  unfold spelling? at found
  split at found
  · cases found
    simp only [List.all_cons, ascii, Bool.and_true]
    decide
  · cases found

/-- A label is written in ASCII. -/
theorem Label.ascii_written {cs : List Char} {label : Label} (found : Label.ofChars? cs = some label) :
    label.written.all isAscii := by
  unfold Label.ofChars? at found
  split at found
  · rename_i spelling announced
    split at found
    · rename_i meant decoded
      split at found
      · cases found
        split at decoded
        · rename_i ascii
          exact isAscii_spelling announced ascii
        · cases decoded
      · cases found
    · cases found
  · split at found
    · cases found
      simp only
      split
      · assumption
      · rw [List.all_eq_true]
        intro c member
        rw [isAscii_iff]
        rcases List.mem_append.1 member with announced | spelled
        · have low : "xn--".toList.all (·.toNat < 128) := by decide
          exact of_decide_eq_true (List.all_eq_true.1 low c announced)
        · exact Punycode.toNat_lt_of_mem_encode spelled
    · cases found

theorem ascii_labels {pieces : List (List Char)} {labels : List Label}
    (found : pieces.mapM Label.ofChars? = some labels) :
    ∀ label ∈ labels, label.written.all isAscii := by
  induction pieces generalizing labels with
  | nil => cases found; simp
  | cons piece rest ih =>
      rw [List.mapM_cons] at found
      obtain ⟨first, one, found⟩ := Option.bind_eq_some_iff.1 found
      obtain ⟨more, others, found⟩ := Option.bind_eq_some_iff.1 found
      cases found
      intro label member
      rcases List.mem_cons.1 member with rfl | member
      · exact Label.ascii_written one
      · exact ih others label member

/-- **A domain is visible:** it is ASCII, and the rest of ASCII is forbidden. -/
theorem visible_ofChars? {cs domain : List Char} (found : ofChars? cs = some domain) :
    Visible domain := by
  obtain ⟨written, allowed⟩ := Option.filter_eq_some_iff.1 found
  have ascii : ∀ c ∈ domain, c.toNat < 128 := by
    split at written
    · rename_i plain
      cases written
      intro c member
      obtain ⟨d, inside, rfl⟩ := List.mem_map.1 member
      simp only [isPlain, Bool.and_eq_true, List.all_eq_true] at plain
      have small := isAscii_iff.1 (plain.1 d inside)
      rcases toNat_toLower d with same | ⟨upper, later⟩ <;> omega
    · obtain ⟨labels, labelled, rfl⟩ := Option.map_eq_some_iff.1 written
      obtain ⟨settled, -, labelled⟩ := Option.bind_eq_some_iff.1 labelled
      unfold labels? at labelled
      obtain ⟨all, mapped, labelled⟩ := Option.bind_eq_some_iff.1 labelled
      split at labelled
      · cases labelled
      · cases labelled
        intro c member
        rcases mem_intercalate member with point | ⟨text, inside, found⟩
        · obtain rfl := List.mem_singleton.1 point
          decide
        · obtain ⟨label, among, rfl⟩ := List.mem_map.1 inside
          exact isAscii_iff.1 (List.all_eq_true.1 (ascii_labels mapped label among) c found)
  intro c member
  have free : isForbidden c = false := by
    simp only [Bool.not_eq_true', List.any_eq_false] at allowed
    simpa using allowed c member
  have small := ascii c member
  simp only [isForbidden, Bool.or_eq_false_iff, decide_eq_false_iff_not, beq_eq_false_iff_ne] at free
  simp only [isVisible, Bool.and_eq_true, decide_eq_true_eq]
  omega

end Domain

namespace Host

theorem visible_bracketed? {text host : List Char} (found : bracketed? text = some (.ok host)) :
    Visible host := by
  unfold bracketed? at found
  split at found
  · split at found
    · split at found
      · cases found
        simp only [Visible.cons_iff, Visible.append_iff, Visible.nil, Ipv6.visible_toChars, true_and,
          and_true]
        decide
      · cases found
    · cases found
  · cases found

theorem visible_readSpecial {text host : List Char} (read : readSpecial text = .ok host) :
    Visible host := by
  unfold readSpecial at read
  split at read
  · rename_i bracketed
    exact visible_bracketed? (bracketed.trans (congrArg some read))
  · split at read
    · cases read
    · rename_i domain found
      obtain ⟨name, -, written⟩ := Option.bind_eq_some_iff.1 found
      split at read
      · cases read
      · split at read
        · split at read
          · cases read
            exact Ipv4.visible_toChars _
          · cases read
        · cases read
          exact Domain.visible_ofChars? written

theorem visible_readGeneral {text host : List Char} (read : readGeneral text = .ok host) :
    Visible host := by
  unfold readGeneral at read
  split at read
  · rename_i bracketed
    exact visible_bracketed? (bracketed.trans (congrArg some read))
  · split at read
    · cases read
    · rename_i allowed
      cases read
      refine visible_percentEncode fun c member ascii outside =>
        isVisible_of_not_isControl ascii outside ?_
      rintro rfl
      exact allowed (List.any_eq_true.2 ⟨' ', member, by decide⟩)

end Host

/-! ## Paths -/

namespace Route

theorem visible_written (kind : Kind) (first : Bool) (piece : List Char) :
    Visible (written kind first piece) := by
  unfold written
  split
  · rename_i drive
    simp only [Bool.and_eq_true] at drive
    have letter := drive.2
    unfold isDriveLetter at letter
    split at letter
    · rename_i first_ mark
      simp only [Bool.and_eq_true] at letter
      have seen : isVisible first_ = true :=
        isVisible_of_isAlphanum (by simp [Char.isAlphanum, letter.1])
      simp only [List.take_succ_cons, List.take_zero, List.cons_append, List.nil_append,
        Visible.cons_iff, Visible.nil, seen, true_and, and_true]
      decide
    · cases letter
  · exact visible_percentEncode_path piece

/-- Segments that can be seen. -/
abbrev Seen (parts : List (List Char)) : Prop := ∀ part ∈ parts, Visible part

theorem seen_nil : Seen [] := by
  intro part member
  cases member

theorem seen_singleton {part : List Char} (seen : Visible part) : Seen [part] := by
  intro other member
  obtain rfl := List.mem_singleton.1 member
  exact seen

theorem seen_append {done more : List (List Char)} (seen : Seen done) (others : Seen more) :
    Seen (done ++ more) :=
  List.forall_mem_append.2 ⟨seen, others⟩

theorem seen_parent {done : List (List Char)} (seen : Seen done) : Seen (parent done) := by
  unfold parent
  split
  · split
    · exact seen
    · exact fun part member => seen part (List.dropLast_subset done member)
  · exact seen_nil

theorem seen_step (kind : Kind) {done : List (List Char)} (seen : Seen done) (piece : List Char)
    (final : Bool) : Seen (step kind done piece final) := by
  have ending : Seen (if final then [[]] else []) := by
    cases final with
    | false => exact seen_nil
    | true => exact seen_singleton .nil
  unfold step
  simp only
  split
  · exact seen_append (seen_parent seen) ending
  · split
    · exact seen_append seen ending
    · exact seen_append seen (seen_singleton (visible_written kind _ piece))

theorem seen_extend (kind : Kind) {done : List (List Char)} (seen : Seen done)
    (pieces : List (List Char)) : Seen (extend kind done pieces) := by
  fun_induction extend kind done pieces with
  | case1 done => exact seen
  | case2 done last => exact seen_step kind seen last true
  | case3 done piece rest _ ih => exact ih (seen_step kind seen piece false)

theorem seen_trimEmpty (kind : Kind) {parts : List (List Char)} (seen : Seen parts) :
    Seen (trimEmpty kind parts) := by
  unfold trimEmpty
  split
  · split
    · exact seen_singleton .nil
    · exact fun part member => seen part ((List.dropWhile_sublist _).subset member)
  · exact seen

theorem seen_readAfter (kind : Kind) {done : List (List Char)} (seen : Seen done)
    (text : List Char) : Seen (readAfter kind done text) :=
  seen_trimEmpty kind (seen_extend kind seen _)

theorem seen_read (kind : Kind) (text : List Char) : Seen (read kind text) := by
  unfold read
  split
  · split
    · exact seen_readAfter kind seen_nil []
    · exact seen_nil
  · split
    · exact seen_readAfter kind seen_nil _
    · exact seen_readAfter kind seen_nil _

end Route

/-! ## Authorities -/

theorem visible_readUser (text : List Char) :
    Visible (readUser text).1 ∧ Visible (readUser text).2 := by
  unfold readUser
  split
  · exact ⟨visible_percentEncode_userinfo _, visible_percentEncode_userinfo _⟩
  · exact ⟨visible_percentEncode_userinfo _, .nil⟩

theorem Authority.visible_toChars {a : Authority} (username : Visible a.username)
    (password : Visible a.password) (host : Visible a.host) : Visible a.toChars := by
  have colon : isVisible ':' = true := by decide
  have sign : isVisible '@' = true := by decide
  have user : Visible (a.username ++ if a.password.isEmpty then [] else ':' :: a.password) := by
    split
    · simpa using username
    · simp [username, password, colon]
  simp only [Authority.toChars, Visible.append_iff]
  refine ⟨⟨?_, host⟩, ?_⟩
  · generalize (a.username ++ if a.password.isEmpty then [] else ':' :: a.password) = front
      at user ⊢
    split
    · exact .nil
    · simp [user, sign]
  · split
    · rename_i n _
      simpa [colon] using visible_digitsOf n
    · exact .nil

/-- Read the host and the port that follow a name and a password. -/
def readLocation (scheme : List Char) (user : List Char × List Char) (location rest : List Char) :
    Except Error (Authority × List Char) := do
  let kind := Kind.ofScheme scheme
  let (name, after) := spanHost false location
  if name.isEmpty && kind.isSpecial then throw .emptyHost
  let host ← if kind.isSpecial then Host.readSpecial name else Host.readGeneral name
  if host.isEmpty && after.head? = some ':' then throw .emptyHost
  let (number, rest) ← match after with
    | ':' :: after => readPort scheme (after ++ rest)
    | _ => pure (none, rest)
  if host.isEmpty && !(user.1.isEmpty && user.2.isEmpty) then throw .emptyHost
  pure (⟨user.1, user.2, host, number⟩, rest)

/-- An authority is a name and a password, if there is an `@`, and a location. -/
theorem readAuthority_eq (scheme : List Char) (more : Bool) (text : List Char) :
    readAuthority scheme more text =
      let inside := text.takeWhile (!isSlash (Kind.ofScheme scheme).isSpecial ·)
      let rest := text.dropWhile (!isSlash (Kind.ofScheme scheme).isSpecial ·)
      match cutLastAt? inside with
      | none => readLocation scheme ([], []) inside rest
      | some ([], location) =>
          if location.isEmpty && (more || !rest.isEmpty) then .error .emptyHost
          else readLocation scheme ([], []) location rest
      | some (front, location) => readLocation scheme (readUser front) location rest := by
  unfold readAuthority readLocation
  rfl

/-- The authority that a location gives keeps its user, and its host is read as one. -/
theorem readLocation_eq_ok {scheme : List Char} {user : List Char × List Char}
    {location rest after : List Char} {a : Authority}
    (read : readLocation scheme user location rest = .ok (a, after)) :
    a.username = user.1 ∧ a.password = user.2 ∧ Visible a.host := by
  simp only [readLocation, bind, Except.bind, pure, Except.pure, throw, throwThe,
    MonadExceptOf.throw] at read
  split at read
  · cases read
  · split at read
    · split at read
      · cases read
      · rename_i host found
        have seen := Host.visible_readSpecial found
        (repeat' split at read) <;> cases read <;> exact ⟨rfl, rfl, seen⟩
    · split at read
      · cases read
      · rename_i host found
        have seen := Host.visible_readGeneral found
        (repeat' split at read) <;> cases read <;> exact ⟨rfl, rfl, seen⟩

theorem visible_readLocation {scheme : List Char} {user : List Char × List Char}
    {location rest after : List Char} {a : Authority} (name : Visible user.1)
    (password : Visible user.2) (read : readLocation scheme user location rest = .ok (a, after)) :
    Visible a.toChars := by
  obtain ⟨same, same', host⟩ := readLocation_eq_ok read
  exact Authority.visible_toChars (same ▸ name) (same' ▸ password) host

theorem visible_readAuthority {scheme : List Char} {more : Bool} {text after : List Char}
    {a : Authority} (read : readAuthority scheme more text = .ok (a, after)) :
    Visible a.toChars := by
  rw [readAuthority_eq] at read
  simp only at read
  split at read
  · exact visible_readLocation .nil .nil read
  · split at read
    · cases read
    · exact visible_readLocation .nil .nil read
  · obtain ⟨name, password⟩ := visible_readUser _
    exact visible_readLocation name password read

/-! ## URLs -/

/-- A URL whose scheme, authority and segments can be seen. -/
structure IsSeen (u : Url) : Prop where
  scheme : Visible u.scheme
  authority : ∀ a ∈ u.authority, Visible a.toChars
  segments : Route.Seen u.segments

theorem isSeen_afterSlashes {scheme : List Char} (seen : Visible scheme) {o : Outline}
    {text : List Char} {u : Url} (read : afterSlashes scheme o text = .ok u) : u.IsSeen := by
  simp only [afterSlashes, bind, Except.bind, pure, Except.pure] at read
  split at read
  · cases read
  · rename_i found authority
    cases read
    exact ⟨seen, by simpa using visible_readAuthority authority, Route.seen_read _ _⟩

theorem visible_file : Visible "file".toList :=
  List.all_eq_true.1 (by decide : "file".toList.all isVisible = true)

theorem isSeen_localFile (o : Outline) {parts : List (List Char)} (seen : Route.Seen parts) :
    (localFile o parts).IsSeen :=
  ⟨visible_file, by simp [localFile, Authority.toChars], seen⟩

/-- A file on a host. -/
theorem isSeen_hosted (o : Outline) {parts : List (List Char)} (seen : Route.Seen parts)
    {host : List Char} (visible : Visible host) :
    { localFile o parts with authority := some { host } : Url }.IsSeen :=
  ⟨visible_file, by simpa using Authority.visible_toChars .nil .nil visible, seen⟩

theorem isSeen_fileOnHost {o : Outline} {text : List Char} {u : Url}
    (read : fileOnHost o text = .ok u) : u.IsSeen := by
  have path := Route.seen_read .file (text.dropWhile (!isSlash true ·))
  simp only [fileOnHost, bind, Except.bind, pure, Except.pure] at read
  split at read
  · cases read
    exact isSeen_localFile o (Route.seen_readAfter _ Route.seen_nil _)
  · split at read
    · split at read
      · cases read
        exact isSeen_localFile o path
      · cases read
        exact isSeen_hosted o path (by split <;> exact .nil)
    · split at read
      · cases read
      · rename_i host found
        split at read
        · cases read
          exact isSeen_localFile o path
        · cases read
          refine isSeen_hosted o path ?_
          split
          · exact .nil
          · exact Host.visible_readSpecial found

theorem isSeen_resolveFile {o : Outline} {u : Url} (read : resolveFile none o = .ok u) :
    u.IsSeen := by
  have anywhere : ∀ text, (localFile o (Route.readAfter .file [] text)).IsSeen := fun text =>
    isSeen_localFile o (Route.seen_readAfter _ Route.seen_nil text)
  unfold resolveFile at read
  split at read
  · cases read
    exact isSeen_localFile o (Route.seen_singleton .nil)
  · split at read
    · split at read
      · split at read
        · exact isSeen_fileOnHost read
        · cases read
          exact anywhere _
      · cases read
        exact anywhere _
    · cases read
      exact anywhere _

theorem isSeen_afterScheme {scheme : List Char} (seen : Visible scheme) {o : Outline} {u : Url}
    (read : afterScheme none scheme o = .ok u) : u.IsSeen := by
  unfold afterScheme at read
  split at read
  · exact isSeen_resolveFile read
  · exact isSeen_afterSlashes seen read
  · split at read
    · exact isSeen_afterSlashes seen read
    · cases read
      exact ⟨seen, by simp, Route.seen_readAfter _ Route.seen_nil _⟩
    · cases read
      exact ⟨seen, by simp, Route.seen_nil⟩

theorem visible_scheme? {body scheme rest : List Char} (found : scheme? body = some (scheme, rest)) :
    Visible scheme := by
  unfold scheme? at found
  split at found
  · split at found
    · obtain ⟨⟨name, after⟩, -, found⟩ := Option.bind_eq_some_iff.1 found
      simp only at found
      split at found
      · rename_i plain
        cases found
        intro c member
        obtain ⟨d, inside, rfl⟩ := List.mem_map.1 member
        have allowed := List.all_eq_true.1 plain d inside
        simp only [Bool.or_eq_true, beq_iff_eq] at allowed
        refine isVisible_toLower ?_
        rcases allowed with ((letter | rfl) | rfl) | rfl
        · exact isVisible_of_isAlphanum letter
        all_goals decide
      · cases found
    · cases found
  · cases found

/-- **The URL that a text spells can be seen**, whatever else the text holds. -/
theorem ofText_visible {text : String} {u : Url} (read : ofText text = .ok u) : u.IsSeen := by
  unfold ofText resolve at read
  simp only at read
  split at read
  · rename_i scheme rest found
    exact isSeen_afterScheme (visible_scheme? found) read
  · cases read

end GeoFeed.Url
