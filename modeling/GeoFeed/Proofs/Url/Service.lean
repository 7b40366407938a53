/-
# GeoFeed.Proofs.Url.Service -- what an address of a service is made of

Whether a service has addresses at all is settled by its base: it must be a URL, and
its path must have a root (`service_eq_ok_iff`).  All addresses below one base have the
same front (`serviceRoot`) and differ in what follows the question mark only, which
is the encoding of the parameters.  There is never a fragment, so no address has a
hash in it that a parameter could have brought along.

An address can be seen from end to end (`visible_of_service`).  So nothing is left to
trim, and no character of it is outside of XML, whatever the base and the parameters
are.
-/
import GeoFeed.Proofs.Url.Visible
import GeoFeed.Text.Blank

namespace GeoFeed.Url

set_option autoImplicit false

/-! ## Encodings -/

/-- A byte that stands for itself is a character that can be seen, and no hash. -/
theorem plain_char {b : UInt8} (plain : Form.isPlain b = true) :
    isVisible (Char.ofNat b.toNat) = true ∧ Char.ofNat b.toNat ≠ '#' := by
  have all : ∀ n ∈ List.range 256, Form.isPlain (UInt8.ofNat n) = true →
      isVisible (Char.ofNat n) = true ∧ Char.ofNat n ≠ '#' := by decide +kernel
  have one := all b.toNat (List.mem_range.2 b.toNat_lt)
  rw [UInt8.ofNat_toNat] at one
  exact one plain

theorem visible_formEncode (s : String) : Visible (Form.encode s) := by
  refine Visible.flatMap fun b _ => ?_
  unfold Form.encodeByte
  split
  · rename_i plain
    simpa using (plain_char plain).1
  · split
    · simp only [Visible.cons_iff, Visible.nil, and_true]
      decide
    · exact visible_encodeByte b

theorem visible_encodePairs (params : List (String × String)) : Visible (Form.encodePairs params) := by
  refine Visible.intercalate (by simp only [Visible.cons_iff, Visible.nil, and_true]; decide) ?_
  intro part member
  obtain ⟨⟨name, value⟩, -, rfl⟩ := List.mem_map.1 member
  simp only [Visible.append_iff, Visible.cons_iff, visible_formEncode, true_and, and_true]
  decide

/-- Two texts with one encoding are the same. -/
theorem Form.encode_injective {s t : String} (same : Form.encode s = Form.encode t) : s = t := by
  have read := Form.decode?_encode s
  rw [same, Form.decode?_encode t] at read
  exact (Option.some.inj read).symm

theorem hash_not_mem_formEncode (s : String) : '#' ∉ Form.encode s := by
  intro member
  obtain ⟨b, -, found⟩ := List.mem_flatMap.1 member
  unfold Form.encodeByte at found
  split at found
  · rename_i plain
    exact (plain_char plain).2 (List.mem_singleton.1 found).symm
  · split at found
    · exact absurd (List.mem_singleton.1 found) (by decide)
    · have figures : ∀ m ∈ List.range 16, '#' ≠ Text.figure m := by decide
      have small := b.toNat_lt
      simp only [encodeByte, List.mem_cons, List.not_mem_nil, or_false] at found
      rcases found with percent | high | low
      · exact absurd percent (by decide)
      · exact figures _ (List.mem_range.2 (by omega)) high
      · exact figures _ (List.mem_range.2 (by omega)) low

/-! ## The front of an address -/

/-- What all addresses below a base have in common. -/
def serviceRoot (base : Url) : Url :=
  let place := base.asDirectory
  { place with
    route := .segments (Route.readAfter place.kind place.directory "wfs".toList)
    query := none
    fragment := none }

/-- The query that stands for parameters. -/
def parameterQuery (params : List (String × String)) : Option (List Char) :=
  if params.isEmpty then none else some (Form.encodePairs params)

/-- Neither a base without a root nor anything else about a directory stands in the way
of a plain name but the lack of a root. -/
theorem resolve_wfs (place : Url) :
    resolve (some place) "wfs" = match place.route with
      | .rootless _ => .error .relativeToRootless
      | .segments _ => .ok
          { place with
            route := .segments (Route.readAfter place.kind place.directory "wfs".toList)
            query := none
            fragment := none } := by
  have outline : Outline.ofChars (clean "wfs".toList) = ⟨"wfs".toList, none, none⟩ := by decide
  have unnamed : scheme? "wfs".toList = none := by decide
  have text : "wfs".toList = ['w', 'f', 's'] := by decide
  have letter : isSlash true 'w' = false := by decide
  have drive : startsWithDrive ['w', 'f', 's'] = false := by decide
  unfold resolve
  rw [outline]
  simp only [unnamed]
  cases place.route with
  | rootless _ => rfl
  | segments _ =>
      simp only
      split
      · rename_i file
        simp only [text, resolveFile, letter, drive, file]
        rfl
      · simp only [text, resolveInside]
        rfl

theorem route_asDirectory (base : Url) :
    (∃ parts, base.asDirectory.route = .segments parts) ↔ ∃ parts, base.route = .segments parts := by
  unfold asDirectory
  cases found : base.route with
  | segments parts =>
      simp only
      split <;> simp [found]
  | rootless text =>
      simp only
      (repeat' split) <;> simp [found]

/-- An address has its parameters and nothing else after its front. -/
theorem withParameters_of_segments {place : Url} {parts : List (List Char)}
    (route : place.route = .segments parts) (params : List (String × String)) :
    place.withParameters params = { place with query := parameterQuery params } := by
  have dropped : place.withoutQuery = { place with query := none } := by
    simp only [withoutQuery, route]
  unfold withParameters parameterQuery
  rw [dropped]
  split <;> rfl

/-- **The base alone settles whether there are addresses**, and the parameters are all that
tells them apart. -/
theorem service_eq_ok_iff {text : String} {params : List (String × String)} {u : Url} :
    service text "wfs" params = .ok u ↔
      ∃ base parts, ofText text = .ok base ∧ base.route = .segments parts ∧
        u = { serviceRoot base with query := parameterQuery params } := by
  have written (base : Url) :
      (serviceRoot base).withParameters params
        = { serviceRoot base with query := parameterQuery params } :=
    withParameters_of_segments rfl params
  unfold service
  cases ofText text with
  | error cause =>
      simp only [bind, Except.bind]
      constructor
      · intro never
        cases never
      · rintro ⟨_, _, never, -⟩
        cases never
  | ok base =>
      simp only [bind, Except.bind, resolve_wfs, Except.ok.injEq]
      constructor
      · intro built
        cases route : base.asDirectory.route with
        | rootless _ =>
            rw [route] at built
            cases built
        | segments parts =>
            rw [route] at built
            obtain ⟨parts, rooted⟩ := (route_asDirectory base).1 ⟨parts, route⟩
            cases built
            exact ⟨base, parts, rfl, rooted, written base⟩
      · rintro ⟨_, parts, rfl, rooted, rfl⟩
        obtain ⟨parts', route⟩ := (route_asDirectory base).2 ⟨parts, rooted⟩
        rw [route]
        exact congrArg Except.ok (written base)

/-- The text of an address, up to its parameters. -/
theorem toChars_serviceRoot_query (base : Url) (query : List Char) :
    { serviceRoot base with query := some query }.toChars
      = (serviceRoot base).toChars ++ '?' :: query := by
  simp [toChars, serviceRoot]

/-! ## What can be seen -/

theorem isSeen_asDirectory {base : Url} (seen : base.IsSeen) : base.asDirectory.IsSeen := by
  unfold asDirectory
  split
  · split
    · exact seen
    · exact ⟨seen.scheme, seen.authority, Route.seen_read _ _⟩
  · (repeat' split)
    · exact seen
    · exact ⟨seen.scheme, seen.authority, Route.seen_nil⟩
    · exact ⟨seen.scheme, seen.authority, Route.seen_nil⟩

theorem seen_directory {base : Url} (seen : base.IsSeen) : Route.Seen base.directory := by
  unfold directory
  split
  · exact seen.segments
  · exact fun part member => seen.segments part (List.dropLast_subset _ member)

theorem isSeen_serviceRoot {base : Url} (seen : base.IsSeen) : (serviceRoot base).IsSeen := by
  have place := isSeen_asDirectory seen
  exact ⟨place.scheme, place.authority, Route.seen_readAfter _ (seen_directory place) _⟩

/-- A URL with a root can be seen if its parts, its query and its fragment can. -/
theorem visible_toChars {u : Url} (seen : u.IsSeen) {parts : List (List Char)}
    (route : u.route = .segments parts) (query : ∀ q ∈ u.query, Visible q)
    (fragment : u.fragment = none) : Visible u.toChars := by
  have marks : ∀ c ∈ [':', '/', '.', '?'], isVisible c = true :=
    List.all_eq_true.1 (by decide)
  have path : Visible u.route.toChars := by
    rw [route]
    refine Visible.flatMap fun part member => Visible.cons_iff.2 ⟨marks '/' (by decide), ?_⟩
    exact seen.segments part (by rwa [segments, route])
  simp only [toChars, fragment, Visible.append_iff, Visible.cons_iff]
  refine ⟨seen.scheme, marks ':' (by decide), ⟨⟨?authority, path⟩, ?query⟩, .nil⟩
  case authority =>
    split
    · rename_i a found
      exact Visible.cons_iff.2 ⟨marks '/' (by decide),
        Visible.cons_iff.2 ⟨marks '/' (by decide), seen.authority a found⟩⟩
    · split
      · exact Visible.cons_iff.2 ⟨marks '/' (by decide),
          Visible.cons_iff.2 ⟨marks '.' (by decide), .nil⟩⟩
      · exact .nil
  case query =>
    split
    · rename_i text found
      exact Visible.cons_iff.2 ⟨marks '?' (by decide), query text found⟩
    · exact .nil

/-- **An address of a service can be seen from end to end.** -/
theorem visible_of_service {text : String} {params : List (String × String)} {u : Url}
    (built : service text "wfs" params = .ok u) : Visible u.toChars := by
  obtain ⟨base, parts, read, -, rfl⟩ := service_eq_ok_iff.1 built
  have seen := isSeen_serviceRoot (ofText_visible read)
  refine visible_toChars ⟨seen.scheme, seen.authority, seen.segments⟩ rfl ?_ rfl
  intro q found
  simp only [parameterQuery, Option.mem_def] at found
  split at found
  · cases found
  · cases found
    exact visible_encodePairs params

/-! ## Nothing to trim -/

theorem isBlank_of_isVisible {c : Char} (seen : isVisible c = true) : Text.isBlank c = false := by
  simp only [isVisible, Bool.and_eq_true, decide_eq_true_eq] at seen
  simp only [Text.isBlank, Bool.or_eq_false_iff, Bool.and_eq_false_iff, decide_eq_false_iff_not,
    beq_eq_false_iff_ne]
  omega

theorem nonBlank?_of_visible {cs : List Char} (seen : Visible cs) (some_ : cs ≠ []) :
    Text.nonBlank? (String.ofList cs) = some (String.ofList cs) := by
  have front : Text.trimFront cs = cs :=
    (Text.trimFront_eq_self_iff cs).2 fun c first =>
      isBlank_of_isVisible (seen c (List.mem_of_head? first))
  have back : Text.trimBack cs = cs :=
    (Text.trimBack_eq_self_iff cs).2 fun c last =>
      isBlank_of_isVisible (seen c (List.mem_of_getLast? last))
  have whole : Text.trim (String.ofList cs) = String.ofList cs := by
    rw [Text.trim, String.toList_ofList, Text.trimChars, front, back]
  have full : (String.ofList cs).isEmpty = false := by
    rw [← Bool.not_eq_true, String.isEmpty_iff]
    intro empty
    exact some_ (by simpa using congrArg String.toList empty)
  rw [Text.nonBlank?, whole]
  simp only [full, Bool.false_eq_true, if_false]

/-- An address is a link as it is. -/
theorem nonBlank?_toText_of_service {text : String} {params : List (String × String)} {u : Url}
    (built : service text "wfs" params = .ok u) : Text.nonBlank? u.toText = some u.toText :=
  nonBlank?_of_visible (visible_of_service built) (by simp [toChars])

end GeoFeed.Url
