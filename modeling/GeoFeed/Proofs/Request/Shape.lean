/-
# GeoFeed.Proofs.Request.Shape -- how options shape a feed

An option text is a name and a value around its first equals sign (`Options.Spells`).  Of
the options of one name, in whatever case and script it is spelled, the last one counts
(`Options.LastValue`), so a shape is settled by two options at the most and does not see how
the others are ordered (`Options.Reordered`).

Values are compared in two ways.  The flag for continuation entries is compared letter by
letter within ASCII; the name of a scheme is put in lower case first, in any script.  For
the names of schemes this makes no difference.  The one letter beyond ASCII that becomes a
letter of ASCII alone is the Kelvin sign, which becomes `k`, and the capital I with a dot
keeps its dot; neither is in a name of a scheme (`lower_eq_iff`).

Main statement: `shape_by_last_options`.
-/
import GeoFeed.Request.Basic
import Mathlib.Data.List.Forall2
import Mathlib.Data.List.Induction

namespace GeoFeed

set_option autoImplicit false

/-! ## Case -/

namespace Text

/-- A text that spells a name of small letters, each of them small or capital. -/
def SameButCase (text name : String) : Prop :=
  List.Forall₂ (fun c letter => c = letter ∨ c = letter.toUpper) text.toList name.toList

theorem isLower_iff {c : Char} : c.isLower = true ↔ 0x61 ≤ c.toNat ∧ c.toNat ≤ 0x7A := by
  show (decide ('a'.val ≤ c.val) && decide (c.val ≤ 'z'.val)) = true ↔ _
  simp only [Bool.and_eq_true, decide_eq_true_eq, UInt32.le_iff_toNat_le]
  rfl

/-- A small letter has its capital 32 places before it. -/
theorem toNat_toUpper {c : Char} (small : c.isLower = true) : c.toUpper.toNat + 0x20 = c.toNat := by
  have range := isLower_iff.1 small
  have inside : 'a'.val ≤ c.val ∧ c.val ≤ 'z'.val := by
    simp only [UInt32.le_iff_toNat_le]
    exact range
  unfold Char.toUpper
  rw [dif_pos inside]
  simp only [Char.toNat] at *
  simp at *
  omega

theorem toLower_eq_iff {c letter : Char} (small : letter.isLower = true) :
    c.toLower = letter ↔ c = letter ∨ c = letter.toUpper := by
  have range := isLower_iff.1 small
  have capital := toNat_toUpper small
  simp only [← Char.toNat_inj]
  unfold Char.toLower
  split
  · rename_i upper
    simp only [UInt32.le_iff_toNat_le, ge_iff_le] at upper
    simp only [Char.toNat] at *
    simp at *
    omega
  · rename_i other
    simp only [UInt32.le_iff_toNat_le, ge_iff_le] at other
    simp only [Char.toNat] at *
    simp at *
    omega

theorem map_toLower_eq_iff {cs letters : List Char} (small : ∀ d ∈ letters, d.isLower = true) :
    cs.map Char.toLower = letters
      ↔ List.Forall₂ (fun c letter => c = letter ∨ c = letter.toUpper) cs letters := by
  induction cs generalizing letters with
  | nil => cases letters <;> simp
  | cons c cs ih =>
      cases letters with
      | nil => simp
      | cons letter letters =>
          obtain ⟨first, rest⟩ := List.forall_mem_cons.1 small
          rw [List.map_cons, List.cons.injEq, List.forall₂_cons, toLower_eq_iff first, ih rest]

theorem sameLetters_iff {text name : String} (small : ∀ d ∈ name.toList, d.isLower = true) :
    sameLetters text name = true ↔ SameButCase text name := by
  have kept : name.toList.map Char.toLower = name.toList := by
    rw [map_toLower_eq_iff small, List.forall₂_same]
    intro letter _
    exact .inl rfl
  rw [sameLetters, beq_iff_eq, kept, map_toLower_eq_iff small, SameButCase]

/-! ## Case beyond ASCII -/

namespace LetterCase

theorem isLower_ofNat {n : Nat} (outside : 128 ≤ n) : (Char.ofNat n).isLower = false := by
  rw [← Bool.not_eq_true, isLower_iff]
  by_cases valid : n.isValidChar
  · have same : (Char.ofNat n).toNat = n := by
      rw [Char.ofNat, dif_pos valid]
      rfl
    omega
  · have zero : (Char.ofNat n).toNat = 0 := by simp [Char.ofNat, valid, Char.toNat]
    omega

/-- A run of the table leads beyond ASCII unless it is within ASCII or is the Kelvin sign. -/
theorem lowerRuns_outside : ∀ run ∈ lowerRuns, run.last < 128 ∨ 128 ≤ (run.first : Int) + run.shift
    ∨ (run.first = run.last ∧ run.image run.first = 'k') := by
  decide +kernel

end LetterCase

/-- The lower case of a letter beyond ASCII has something else in it than the small letters of
ASCII, unless it is `k`. -/
theorem lowerChar_outside {c : Char} (outside : 128 ≤ c.toNat) :
    ∃ d ∈ lowerChar c, d.isLower = false ∨ d = 'k' := by
  rw [lowerChar, if_neg (by omega), LetterCase.mapChar]
  split
  · rename_i image listed
    rw [LetterCase.lowerLong, List.lookup_cons] at listed
    split at listed
    · cases listed
      exact ⟨Char.ofNat 0x307, by simp, .inl (by decide)⟩
    · cases listed
  · split
    · rename_i run found
      have member := List.mem_of_find?_eq_some found
      have moves := List.find?_some found
      simp only [LetterCase.Run.moves, Bool.and_eq_true, decide_eq_true_eq] at moves
      refine ⟨_, List.mem_singleton_self _, ?_⟩
      rcases LetterCase.lowerRuns_outside run member with inside | leads | ⟨one, kelvin⟩
      · omega
      · exact .inl (LetterCase.isLower_ofNat (by simp; omega))
      · have same : c.toNat = run.first := by omega
        exact .inr (same ▸ kelvin)
    · refine ⟨c, List.mem_singleton_self _, .inl ?_⟩
      rw [← Bool.not_eq_true, isLower_iff]
      omega

/-- Neither small sigma is a letter of ASCII. -/
theorem isLower_lowerSigma (before after : List Char) :
    (lowerSigma before after).isLower = false := by
  unfold lowerSigma
  split <;> decide

theorem lowerAfter_cons_of_ascii {c : Char} (ascii : c.toNat < 128) (before rest : List Char) :
    lowerAfter before (c :: rest) = c.toLower :: lowerAfter (c :: before) rest := by
  have other : c ≠ '\u03A3' := by
    rintro rfl
    exact absurd ascii (by decide)
  rw [lowerAfter, if_neg other, lowerChar_of_ascii ascii, List.singleton_append]

/-- A character beyond ASCII leaves something in the lower case that is in no name of small
letters without `k`. -/
theorem mem_lowerAfter_cons {c : Char} (outside : 128 ≤ c.toNat) (before rest : List Char) :
    ∃ d ∈ lowerAfter before (c :: rest), d.isLower = false ∨ d = 'k' := by
  rw [lowerAfter]
  by_cases sigma : c = '\u03A3'
  · rw [if_pos sigma]
    exact ⟨_, List.mem_append_left _ (List.mem_singleton_self _), .inl (isLower_lowerSigma _ _)⟩
  · rw [if_neg sigma]
    obtain ⟨d, member, strange⟩ := lowerChar_outside outside
    exact ⟨d, List.mem_append_left _ member, strange⟩

theorem lowerAfter_eq_iff {before cs letters : List Char}
    (small : ∀ d ∈ letters, d.isLower = true ∧ d ≠ 'k') :
    lowerAfter before cs = letters
      ↔ List.Forall₂ (fun c letter => c = letter ∨ c = letter.toUpper) cs letters := by
  induction cs generalizing before letters with
  | nil => cases letters <;> simp [lowerAfter]
  | cons c cs ih =>
      by_cases ascii : c.toNat < 128
      · rw [lowerAfter_cons_of_ascii ascii]
        cases letters with
        | nil => simp
        | cons letter letters =>
            obtain ⟨first, rest⟩ := List.forall_mem_cons.1 small
            rw [List.cons.injEq, List.forall₂_cons, toLower_eq_iff first.1, ih rest]
      · constructor
        · intro same
          obtain ⟨d, member, strange⟩ := mem_lowerAfter_cons (Nat.le_of_not_lt ascii) before cs
          rw [same] at member
          obtain ⟨lower, ne⟩ := small d member
          rcases strange with other | kelvin
          · rw [lower] at other
            cases other
          · exact absurd kelvin ne
        · intro spelled
          cases spelled with
          | cons head =>
              have lower := (small _ List.mem_cons_self).1
              have range := isLower_iff.1 lower
              have capital := toNat_toUpper lower
              rcases head with rfl | rfl <;> omega

/-- **Lower case is lower case of ASCII for a name without `k`.** -/
theorem lower_eq_iff {text name : String} (small : ∀ d ∈ name.toList, d.isLower = true ∧ d ≠ 'k') :
    lower text = name ↔ SameButCase text name := by
  rw [SameButCase, ← lowerAfter_eq_iff small, lower, ← String.toList_inj, String.toList_ofList]

end Text

/-! ## Option texts -/

/-- A row of readings has results if each reading has its own. -/
theorem mapM_eq_some_iff {α β : Type} {f : α → Option β} {items : List α} {results : List β} :
    items.mapM f = some results
      ↔ List.Forall₂ (fun item result => f item = some result) items results := by
  induction items generalizing results with
  | nil => cases results <;> simp
  | cons item rest ih =>
      simp only [List.mapM_cons, Option.bind_eq_bind, Option.bind_eq_some_iff, Option.pure_def,
        Option.some.injEq, ih]
      constructor
      · rintro ⟨first, one, later, others, rfl⟩
        exact .cons one others
      · rintro (_ | ⟨one, others⟩)
        exact ⟨_, one, _, others, rfl⟩

namespace Options

/-- A text that gives a value to a name: the value is all that follows the first equals sign, and
the name is what comes before it, trimmed and not empty. -/
def Spells (text : String) (option : String × String) : Prop :=
  ∃ front, text = front ++ "=" ++ option.2 ∧ '=' ∉ front.toList ∧ option.1 = Text.trim front ∧
    option.1 ≠ ""

theorem nonBlank?_eq_some_iff {text kept : String} :
    Text.nonBlank? text = some kept ↔ kept = Text.trim text ∧ kept ≠ "" := by
  show (if (Text.trim text).isEmpty then none else some (Text.trim text)) = some kept ↔ _
  split
  · rename_i empty
    rw [String.isEmpty_iff] at empty
    constructor
    · intro never
      cases never
    · rintro ⟨rfl, full⟩
      exact absurd empty full
  · rename_i full
    rw [String.isEmpty_iff] at full
    constructor
    · intro found
      cases found
      exact ⟨rfl, full⟩
    · rintro ⟨rfl, -⟩
      rfl

theorem cutAt?_eq_some_iff {mark : Char} {text front back : String} :
    Text.cutAt? mark text = some (front, back)
      ↔ text = front ++ String.singleton mark ++ back ∧ mark ∉ front.toList := by
  simp only [Text.cutAt?, Option.map_eq_some_iff, Prod.exists, Prod.mk.injEq, Text.cut?_eq_some_iff]
  constructor
  · rintro ⟨front, back, ⟨parted, free⟩, rfl, rfl⟩
    refine ⟨?_, by simpa using free⟩
    rw [← String.toList_inj, parted]
    simp
  · rintro ⟨rfl, free⟩
    exact ⟨front.toList, back.toList, ⟨by simp, free⟩, String.ofList_toList, String.ofList_toList⟩

/-- **An option text is accepted exactly if it spells an option.** -/
theorem split?_eq_some_iff {text : String} {option : String × String} :
    split? text = some option ↔ Spells text option := by
  obtain ⟨name, value⟩ := option
  simp only [split?, Option.bind_eq_bind, Option.bind_eq_some_iff, Prod.exists, Option.pure_def,
    Option.some.injEq, Prod.mk.injEq, cutAt?_eq_some_iff, nonBlank?_eq_some_iff]
  constructor
  · rintro ⟨front, back, ⟨parted, free⟩, kept, ⟨trimmed, full⟩, rfl, rfl⟩
    exact ⟨front, parted, free, trimmed, full⟩
  · rintro ⟨front, parted, free, trimmed, full⟩
    exact ⟨front, value, ⟨parted, free⟩, name, ⟨trimmed, full⟩, rfl, rfl⟩

theorem mapM_split?_eq_some_iff {texts : List String} {entries : List (String × String)} :
    texts.mapM split? = some entries ↔ List.Forall₂ Spells texts entries := by
  simp only [mapM_eq_some_iff, split?_eq_some_iff]

/-! ## The last option of a name -/

/-- The value of the last option whose name, in upper case, is the given one. -/
def LastValue (entries : List (String × String)) (name value : String) : Prop :=
  ∃ before given after, entries = before ++ (given, value) :: after ∧ Text.upper given = name ∧
    ∀ later ∈ after, Text.upper later.1 ≠ name

theorem ofList_append_singleton (entries : List (String × String)) (name value : String) :
    ofList (entries ++ [(name, value)]) = (ofList entries).insert name value := by
  simp [ofList]

/-- An option at the end is the last one of its name, and leaves the other names alone. -/
theorem lastValue_append_singleton {entries : List (String × String)} {given new name value : String} :
    LastValue (entries ++ [(given, new)]) name value ↔
      if name = Text.upper given then new = value else LastValue entries name value := by
  constructor
  · rintro ⟨before, other, after, parted, same, free⟩
    rcases List.eq_nil_or_concat after with rfl | ⟨after, final, rfl⟩
    · obtain ⟨rfl, one⟩ := List.append_inj' parted rfl
      cases one
      rw [if_pos same.symm]
    · rw [List.concat_eq_append, ← List.cons_append, ← List.append_assoc] at parted
      obtain ⟨rfl, one⟩ := List.append_inj' parted rfl
      cases one
      have ne : Text.upper given ≠ name := free (given, new) (by simp)
      rw [if_neg (Ne.symm ne)]
      exact ⟨before, other, after, rfl, same, fun later member => free later (by simp [member])⟩
  · intro last
    split at last
    · rename_i same
      subst last
      exact ⟨entries, given, [], rfl, same.symm, by simp⟩
    · rename_i ne
      obtain ⟨before, other, after, rfl, same, free⟩ := last
      refine ⟨before, other, after ++ [(given, new)], by simp, same, ?_⟩
      intro later member
      rcases List.mem_append.1 member with member | member
      · exact free later member
      · rw [List.mem_singleton.1 member]
        exact Ne.symm ne

/-- **Of the options of a name the last one counts.** -/
theorem get?_ofList_eq_some_iff {entries : List (String × String)} {name value : String} :
    (ofList entries).get? name = some value ↔ LastValue entries (Text.upper name) value := by
  induction entries using List.reverseRecOn with
  | nil =>
      constructor
      · intro never
        cases never
      · rintro ⟨before, given, after, parted, -⟩
        simp at parted
  | append_singleton entries entry ih =>
      obtain ⟨given, new⟩ := entry
      rw [ofList_append_singleton, get?_insert, lastValue_append_singleton]
      by_cases same : Text.upper name = Text.upper given
      · rw [if_pos same, if_pos same, Option.some.injEq]
      · rw [if_neg same, if_neg same, ih]

theorem get?_ofList_eq_none_iff {entries : List (String × String)} {name : String} :
    (ofList entries).get? name = none ↔ ∀ e ∈ entries, Text.upper e.1 ≠ Text.upper name := by
  induction entries using List.reverseRecOn with
  | nil =>
      constructor
      · intro _ e member
        cases member
      · intro _
        rfl
  | append_singleton entries entry ih =>
      rw [ofList_append_singleton, get?_insert, List.forall_mem_append, List.forall_mem_singleton]
      by_cases same : Text.upper name = Text.upper entry.1
      · simp [same]
      · simp [same, ih, Ne.symm same]

/-! ## Order -/

/-- Rows of options that differ in the order of options of different names only. -/
inductive Reordered : List (String × String) → List (String × String) → Prop where
  | refl (entries : List (String × String)) : Reordered entries entries
  | swap {a b : String × String} (front back : List (String × String))
      (differ : Text.upper a.1 ≠ Text.upper b.1) :
      Reordered (front ++ a :: b :: back) (front ++ b :: a :: back)
  | trans {l m n : List (String × String)} (first : Reordered l m) (second : Reordered m n) :
      Reordered l n

theorem ext_get? {o o' : Options} (same : ∀ name, o.values.get? name = o'.values.get? name) :
    o = o' := by
  cases o
  cases o'
  exact congrArg Options.mk (NameTable.ext_get? same)

theorem insert_insert_comm (options : Options) {a b : String × String}
    (differ : Text.upper a.1 ≠ Text.upper b.1) :
    (options.insert a.1 a.2).insert b.1 b.2 = (options.insert b.1 b.2).insert a.1 a.2 := by
  apply ext_get?
  intro name
  simp only [insert, NameTable.get?_insert]
  split
  · rename_i second
    rw [if_neg (second ▸ Ne.symm differ)]
  · rfl

/-- **Options of different names may stand in any order.** -/
theorem ofList_of_reordered {entries entries' : List (String × String)}
    (reordered : Reordered entries entries') : ofList entries = ofList entries' := by
  induction reordered with
  | refl entries => rfl
  | @swap a b front back differ =>
      simp only [ofList, List.foldl_append, List.foldl_cons]
      rw [insert_insert_comm _ differ]
  | trans first second ih ih' => exact ih.trans ih'

end Options

/-! ## Shapes -/

/-- **A scheme is named within ASCII,** and all other names are `simple`. -/
theorem Scheme.ofRequest_iff (name : String) :
    (ofRequest name = .gml ↔ Text.SameButCase name "gml") ∧
    (ofRequest name = .latLong ↔ Text.SameButCase name "latlong") ∧
    (ofRequest name = .simple
      ↔ ¬ Text.SameButCase name "gml" ∧ ¬ Text.SameButCase name "latlong") := by
  have short : Text.lower name = "gml" ↔ Text.SameButCase name "gml" :=
    Text.lower_eq_iff (by simp)
  have long : Text.lower name = "latlong" ↔ Text.SameButCase name "latlong" :=
    Text.lower_eq_iff (by simp)
  rw [← short, ← long, ofRequest]
  by_cases gml : Text.lower name = "gml"
  · simp [gml]
  · by_cases latLong : Text.lower name = "latlong"
    · simp [latLong]
    · simp [gml, latLong]

namespace Request

variable (r : Request)

/-- A request with options. -/
def having (entries : List (String × String)) : Request :=
  { r with options := .ofList entries }

variable {entries : List (String × String)} {value : String}

theorem scheme_having_of_unnamed (unnamed : ∀ e ∈ entries, Text.upper e.1 ≠ "ENCODING")
    (standard : Scheme) : ((r.having entries).scheme standard).value = standard := by
  have missing : (Options.ofList entries).get? "encoding" = none :=
    Options.get?_ofList_eq_none_iff.2 unnamed
  simp [scheme, having, missing]

theorem scheme_having_of_lastValue (last : Options.LastValue entries "ENCODING" value)
    (standard : Scheme) : ((r.having entries).scheme standard).value = .ofRequest value := by
  have found : (Options.ofList entries).get? "encoding" = some value :=
    Options.get?_ofList_eq_some_iff.2 last
  simp [scheme, having, found]
  rfl

theorem continuation_having_iff : (r.having entries).continuation.value = true ↔
    ∃ value, Options.LastValue entries "CONTINUATION" value ∧ Text.SameButCase value "true" := by
  have named : Text.upper "continuation" = "CONTINUATION" := by decide +kernel
  have small : ∀ d ∈ "true".toList, d.isLower = true := by simp
  simp only [← named, ← Options.get?_ofList_eq_some_iff, ← Text.sameLetters_iff small]
  cases found : (Options.ofList entries).get? "continuation" with
  | none => simp [continuation, having, found]
  | some value => simp [continuation, having, found, Logged.report]

/-- **The shape of a feed is settled by two options at the most,** the last one that is named
`encoding` and the last one that is named `continuation`, in whatever case and script.  What
the options of a command line are is told by their texts, and options of different names may
stand in any order. -/
theorem shape_by_last_options (texts : List String) (entries : List (String × String)) :
    (texts.mapM Options.split? = some entries ↔ List.Forall₂ Options.Spells texts entries) ∧
    ((∀ standard, ((r.having entries).shape standard).value.scheme = standard)
      ↔ ∀ e ∈ entries, Text.upper e.1 ≠ "ENCODING") ∧
    (∀ value, Options.LastValue entries "ENCODING" value → ∀ standard,
      (((r.having entries).shape standard).value.scheme = .gml ↔ Text.SameButCase value "gml") ∧
      (((r.having entries).shape standard).value.scheme = .latLong
        ↔ Text.SameButCase value "latlong") ∧
      (((r.having entries).shape standard).value.scheme = .simple
        ↔ ¬ Text.SameButCase value "gml" ∧ ¬ Text.SameButCase value "latlong")) ∧
    (∀ standard, ((r.having entries).shape standard).value.continuation = true
      ↔ ∃ value, Options.LastValue entries "CONTINUATION" value ∧
          Text.SameButCase value "true") ∧
    ∀ entries', Options.Reordered entries entries' →
      ∀ standard, (r.having entries').shape standard = (r.having entries).shape standard := by
  refine ⟨Options.mapM_split?_eq_some_iff, ?standard, ?named, ?continuation, ?order⟩
  case standard =>
    constructor
    · intro kept e member named
      -- with an option of the name, one scheme would have to be both of two
      have given : (Options.ofList entries).get? "encoding" ≠ none := by
        intro missing
        exact Options.get?_ofList_eq_none_iff.1 missing e member named
      obtain ⟨value, found⟩ := Option.ne_none_iff_exists'.1 given
      have last := Options.get?_ofList_eq_some_iff.1 found
      have gml := (r.scheme_having_of_lastValue last .gml).symm.trans (kept .gml)
      have simple := (r.scheme_having_of_lastValue last .simple).symm.trans (kept .simple)
      rw [gml] at simple
      cases simple
    · intro unnamed
      exact r.scheme_having_of_unnamed unnamed
  case named =>
    intro value last standard
    have scheme : ((r.having entries).shape standard).value.scheme = .ofRequest value :=
      r.scheme_having_of_lastValue last standard
    rw [scheme]
    exact Scheme.ofRequest_iff value
  case continuation =>
    intro standard
    exact r.continuation_having_iff
  case order =>
    intro entries' reordered standard
    rw [having, having, Options.ofList_of_reordered reordered]

/-- A dotless i is an `I` in upper case, and of two spellings of a name the last one counts. -/
example :
    (((Request.mk "" "" [] {}).having
      [("encodıng", "GML"), ("CONTINUATION", "TRUE"), ("Encoding", "other")]).shape .latLong).value
        = ⟨.simple, true⟩ := by
  decide +kernel

end Request

end GeoFeed
