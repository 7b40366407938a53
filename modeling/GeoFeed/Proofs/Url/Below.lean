/-
# GeoFeed.Proofs.Url.Below -- addresses below a base

An address of a service has the scheme and the authority of its base, the path of the base
closed by a slash, the name of the service and the parameters; nothing of the query and the
fragment of the base is left in it (`Below`).  The parameters are read back from it in their
order, empty names and repetitions included.  So a base may be written with a slash at its
end or without it.

There is one exception.  To close a path, its text is read again, and in the path of a file
that begins with a letter and a bar, which is possible behind empty segments only, the bar
becomes a colon (`HasLooseBar`).  A base that is written with the slash is not read again and
keeps its bar, so in this case the two spellings have different addresses.

What is read again is settled, and so the segments of an address are known (`serviceRoot_eq`):
those of the folder that the base stands for, and the name.

Main statement: `service_below`; `service_loses_bar` is the exception at one input.
-/
import GeoFeed.Proofs.Url.Service
import GeoFeed.Proofs.Url.Settled

namespace GeoFeed.Url

set_option autoImplicit false

/-! ## Folders -/

/-- The segments of the folder that a path stands for. -/
def folder (kind : Kind) (parts : List (List Char)) : List (List Char) :=
  if parts.getLast? = some [] then parts.dropLast else Route.withColon kind parts

theorem eq_dropLast_append {parts : List (List Char)} (closed : parts.getLast? = some []) :
    parts = parts.dropLast ++ [[]] :=
  (List.dropLast_append_getLast? [] closed).symm

variable {base : Url} {parts : List (List Char)}

theorem asDirectory_eq (settled : Route.Settled base.kind parts) (route : base.route = .segments parts) :
    base.asDirectory = { base with route := .segments (folder base.kind parts ++ [[]]) } := by
  unfold asDirectory folder
  rw [route]
  simp only
  by_cases closed : parts.getLast? = some []
  · rw [if_pos closed, if_pos closed, ← eq_dropLast_append closed, ← route]
  · rw [if_neg closed, if_neg closed, Route.read_of_settled settled closed]

theorem directory_asDirectory (settled : Route.Settled base.kind parts)
    (route : base.route = .segments parts) : base.asDirectory.directory = folder base.kind parts := by
  rw [asDirectory_eq settled route]
  generalize folder base.kind parts = front
  show (if _ then front ++ [[]] else (front ++ [[]]).dropLast) = front
  rw [List.dropLast_concat, if_neg]
  -- a drive letter that is a whole path does not end in a slash
  cases front with
  | nil => simp [segments, isWrittenDriveLetter, isDriveLetter]
  | cons first rest => simp [segments]

theorem first_folder_ne_nil (settled : Route.Settled .file parts) {first : List Char}
    {rest : List (List Char)} (shape : folder .file parts = first :: rest) : first ≠ [] := by
  unfold folder at shape
  split at shape
  · rename_i closed
    have whole := eq_dropLast_append closed
    rw [shape] at whole
    rw [whole] at settled
    exact settled.first_ne_nil (by simp)
  · rename_i unclosed
    cases parts with
    | nil => cases shape
    | cons old others =>
        simp only [Route.withColon, List.cons.injEq] at shape
        obtain ⟨rfl, rfl⟩ := shape
        apply Route.written_ne_nil (settled.segments old List.mem_cons_self)
        apply settled.first_ne_nil
        intro root
        rw [root] at unclosed
        exact unclosed rfl

theorem segments_folder {kind : Kind} (segments : Route.Segments kind parts) :
    Route.Segments kind (folder kind parts) := by
  unfold folder
  split
  · exact fun part member => segments part (List.dropLast_subset _ member)
  · exact Route.segments_withColon segments

/-- The name of the service. -/
def serviceName : List Char := "wfs".toList

theorem isSegment_serviceName (special : Bool) : IsSegment special serviceName := by
  have ascii : serviceName.all (fun c => decide (c.toNat < 128)) = true := by decide
  have outside : serviceName.all (fun c => !inPathSet c) = true := by decide
  have unparted : serviceName.all (fun c => !isSlash special c) = true := by
    cases special <;> decide
  simp only [List.all_eq_true, decide_eq_true_eq, Bool.not_eq_true'] at ascii outside unparted
  exact ⟨ascii, outside, unparted, by decide, by decide⟩

theorem written_serviceName (kind : Kind) (first : Bool) :
    Route.written kind first serviceName = serviceName := by
  cases first with
  | false => exact Route.written_later (isSegment_serviceName _)
  | true =>
      rw [Route.written_first (isSegment_serviceName _), if_neg]
      rintro ⟨-, drive⟩
      revert drive
      decide

theorem readAfter_serviceName {kind : Kind} {front : List (List Char)}
    (trimmed : kind = .file → ∀ first rest, front = first :: rest → first ≠ []) :
    Route.readAfter kind front serviceName = front ++ [serviceName] := by
  have pieces : Text.pieces (isSlash kind.isSpecial) serviceName = [serviceName] :=
    Text.pieces_of_free (isSegment_serviceName _).unparted
  have added : Route.extend kind front [serviceName] = front ++ [serviceName] := by
    show Route.step kind front serviceName true = _
    rw [Route.step_of_isSegment front (isSegment_serviceName _), written_serviceName]
  rw [Route.readAfter, pieces, added]
  by_cases file : kind = .file
  · cases front with
    | nil => exact Route.trimEmpty_of_ne_nil kind (by decide) []
    | cons first rest => exact Route.trimEmpty_of_ne_nil kind (trimmed file first rest rfl) _
  · simp [Route.trimEmpty, file]

/-- **The front of an address** is the base without its query and its fragment, and with the name
of the service in the folder of its path. -/
theorem serviceRoot_eq (settled : Route.Settled base.kind parts) (route : base.route = .segments parts) :
    serviceRoot base
      = { base with
          route := .segments (folder base.kind parts ++ [serviceName])
          query := none
          fragment := none } := by
  have place := asDirectory_eq settled route
  have kind : base.asDirectory.kind = base.kind := by rw [place]; rfl
  have name : Route.readAfter base.asDirectory.kind base.asDirectory.directory "wfs".toList
      = folder base.kind parts ++ [serviceName] := by
    rw [kind, directory_asDirectory settled route]
    apply readAfter_serviceName
    intro file first rest shape
    rw [file] at settled shape
    exact first_folder_ne_nil settled shape
  unfold serviceRoot
  simp only [name]
  rw [place]

/-! ## Texts of paths -/

/-- A path with a slash at its end. -/
def closed (path : List Char) : List Char :=
  if path.getLast? = some '/' then path else path ++ ['/']

theorem toChars_route (route : base.route = .segments parts) :
    base.route.toChars = segmentsToChars parts := by
  rw [route]
  rfl

theorem segmentsToChars_append (front back : List (List Char)) :
    segmentsToChars (front ++ back) = segmentsToChars front ++ segmentsToChars back :=
  List.flatMap_append ..

theorem getLast?_segmentsToChars {kind : Kind} (segments : Route.Segments kind parts) :
    (segmentsToChars parts).getLast? = some '/' ↔ parts.getLast? = some [] := by
  rcases List.eq_nil_or_concat parts with rfl | ⟨front, last, rfl⟩
  · simp [segmentsToChars]
  · rw [List.concat_eq_append] at *
    have segment := segments last (by simp)
    have text : segmentsToChars [last] = '/' :: last := by simp [segmentsToChars]
    rw [segmentsToChars_append, text]
    cases last with
    | nil => simp
    | cons c rest =>
        have slash : isSlash kind.isSpecial '/' = true := by simp [isSlash]
        have other : (c :: rest).getLast? ≠ some '/' := by
          intro found
          have free := segment.unparted '/' (List.mem_of_getLast? found)
          rw [slash] at free
          cases free
        simpa using other

/-- Segments are told by their text. -/
theorem segmentsToChars_injective {kind : Kind} {parts' : List (List Char)}
    (segments : Route.Segments kind parts) (segments' : Route.Segments kind parts')
    (same : segmentsToChars parts = segmentsToChars parts') : parts = parts' := by
  cases parts with
  | nil =>
      cases parts' with
      | nil => rfl
      | cons first' rest' => simp [segmentsToChars] at same
  | cons first rest =>
      cases parts' with
      | nil => simp [segmentsToChars] at same
      | cons first' rest' =>
          have text : first ++ segmentsToChars rest = first' ++ segmentsToChars rest' := by
            simpa [segmentsToChars] using same
          have pieces := Route.pieces_segmentsToChars segments
          rw [← List.append_assoc, text, List.append_assoc,
            Route.pieces_segmentsToChars segments'] at pieces
          simpa using pieces.symm

/-! ## The bar of a drive letter -/

/-- The path of a file that begins with a letter and a bar and has no slash at its end. -/
def HasLooseBar (u : Url) : Prop :=
  u.kind = .file ∧ u.route.toChars.getLast? ≠ some '/' ∧
    ∃ letter rest, letter.isAlpha = true ∧ u.route = .segments ([letter, '|'] :: rest)

theorem isDriveLetter_iff {part : List Char} : isDriveLetter part = true ↔
    ∃ letter mark, part = [letter, mark] ∧ letter.isAlpha = true ∧ (mark = ':' ∨ mark = '|') := by
  unfold isDriveLetter
  split
  · rename_i letter mark
    simp
  · rename_i other
    constructor
    · intro never
      cases never
    · rintro ⟨letter, mark, rfl, -⟩
      exact absurd rfl (other letter mark)

/-- Reading the letter again makes a difference exactly if a bar stands behind it. -/
theorem withColon_eq_self_iff {kind : Kind} (segments : Route.Segments kind parts) :
    Route.withColon kind parts = parts ↔
      ¬ (kind = .file ∧ ∃ letter rest, letter.isAlpha = true ∧ parts = [letter, '|'] :: rest) := by
  cases parts with
  | nil => simp [Route.withColon]
  | cons first rest =>
      rw [Route.withColon, Route.written_first (segments first List.mem_cons_self)]
      by_cases drive : kind = .file ∧ isDriveLetter first = true
      · obtain ⟨file, drive⟩ := drive
        obtain ⟨letter, mark, rfl, alpha, colon | bar⟩ := isDriveLetter_iff.1 drive
        · subst colon
          simp [file, drive]
        · subst bar
          simp [file, drive, alpha]
      · rw [if_neg drive]
        simp only [true_iff]
        rintro ⟨file, letter, more, alpha, same⟩
        obtain ⟨rfl, rfl⟩ := List.cons.inj same
        exact drive ⟨file, isDriveLetter_iff.2 ⟨letter, '|', rfl, alpha, .inr rfl⟩⟩

theorem folder_of_unclosed {kind : Kind} (unclosed : parts.getLast? ≠ some []) :
    folder kind parts = Route.withColon kind parts :=
  if_neg unclosed

theorem hasLooseBar_iff (settled : Route.Settled base.kind parts)
    (route : base.route = .segments parts) :
    base.HasLooseBar ↔ parts.getLast? ≠ some [] ∧ folder base.kind parts ≠ parts := by
  rw [HasLooseBar, toChars_route route, route, ne_eq, getLast?_segmentsToChars settled.segments]
  simp only [Route.segments.injEq]
  constructor
  · rintro ⟨file, unclosed, bar⟩
    refine ⟨unclosed, ?_⟩
    rw [folder_of_unclosed unclosed, ne_eq, withColon_eq_self_iff settled.segments]
    exact fun none_ => none_ ⟨file, bar⟩
  · rintro ⟨unclosed, changed⟩
    rw [folder_of_unclosed unclosed, ne_eq, withColon_eq_self_iff settled.segments,
      not_not] at changed
    exact ⟨changed.1, unclosed, changed.2⟩

/-! ## Addresses -/

/-- What is written before a path. -/
def beforePath (u : Url) : List Char :=
  u.scheme ++ ':' :: match u.authority with
    | some a => '/' :: '/' :: a.toChars
    | none => if u.route.needsGuard then ['/', '.'] else []

section Text

variable {u : Url}

theorem toChars_of_unasked (unasked : u.query = none) (plain : u.fragment = none) :
    u.toChars = u.beforePath ++ u.route.toChars := by
  cases authority : u.authority <;> simp [toChars, beforePath, authority, unasked, plain]

theorem toChars_of_asked {query : List Char} (asked : u.query = some query)
    (plain : u.fragment = none) :
    u.toChars = u.beforePath ++ u.route.toChars ++ '?' :: query := by
  cases authority : u.authority <;> simp [toChars, beforePath, authority, asked, plain]

end Text

/-- An address below a base with parameters: the scheme and the authority of the base, a path, and
a query that reads as the parameters if there are any; it is written in this order. -/
structure Below (base : Url) (params : List (String × String)) (u : Url) : Prop where
  scheme : u.scheme = base.scheme
  authority : u.authority = base.authority
  fragment : u.fragment = none
  unasked : params = [] → u.query = none ∧ u.toChars = base.beforePath ++ u.route.toChars
  asked : params ≠ [] → ∃ query, u.query = some query ∧ Form.decodePairs? query = some params ∧
    u.toChars = base.beforePath ++ u.route.toChars ++ '?' :: query

theorem needsGuard_of_ne_nil {first : List Char} (some_ : first ≠ []) (rest : List (List Char)) :
    (Route.segments (first :: rest)).needsGuard = false := by
  cases first with
  | nil => exact absurd rfl some_
  | cons c first => rfl

/-- Whether a path is guarded does not change with its last segment. -/
theorem needsGuard_folder {kind : Kind} (segments : Route.Segments kind parts) :
    (Route.segments (folder kind parts ++ [serviceName])).needsGuard
      = (Route.segments parts).needsGuard := by
  by_cases closed : parts.getLast? = some []
  · have whole := eq_dropLast_append closed
    rw [folder, if_pos closed]
    generalize parts.dropLast = front at whole
    subst whole
    cases front with
    | nil => rfl
    | cons first rest =>
        cases first with
        | nil => cases rest <;> rfl
        | cons c first => rfl
  · rw [folder_of_unclosed closed]
    cases parts with
    | nil => rfl
    | cons first rest =>
        by_cases empty : first = []
        · subst empty
          cases rest with
          | nil => exact absurd rfl closed
          | cons second rest => cases kind <;> rfl
        · have written : Route.written kind true first ≠ [] :=
            Route.written_ne_nil (segments first List.mem_cons_self) empty
          rw [needsGuard_of_ne_nil empty]
          exact needsGuard_of_ne_nil written _

/-- The address below a base is the front of the base's addresses with the query of the
parameters. -/
theorem below_serviceRoot (settled : Route.Settled base.kind parts)
    (route : base.route = .segments parts) (params : List (String × String)) :
    Below base params { serviceRoot base with query := parameterQuery params } := by
  have front : (serviceRoot base).beforePath = base.beforePath := by
    rw [serviceRoot_eq settled route]
    simp only [beforePath, route, needsGuard_folder settled.segments]
  have root := serviceRoot_eq settled route
  have scheme : (serviceRoot base).scheme = base.scheme := by rw [root]
  have authority : (serviceRoot base).authority = base.authority := by rw [root]
  refine ⟨scheme, authority, rfl, ?unasked, ?asked⟩
  case unasked =>
    rintro rfl
    exact ⟨rfl, front ▸ toChars_of_unasked rfl rfl⟩
  case asked =>
    intro some_
    have full : params.isEmpty = false := by simpa using some_
    have query : parameterQuery params = some (Form.encodePairs params) := by
      simp [parameterQuery, full]
    rw [query]
    exact ⟨_, rfl, Form.decodePairs?_encodePairs params, front ▸ toChars_of_asked rfl rfl⟩

/-! ## The path of an address -/

theorem path_serviceRoot (settled : Route.Settled base.kind parts)
    (route : base.route = .segments parts) :
    (serviceRoot base).route.toChars
      = segmentsToChars (folder base.kind parts) ++ '/' :: serviceName := by
  rw [serviceRoot_eq settled route]
  show segmentsToChars (folder base.kind parts ++ [serviceName]) = _
  rw [segmentsToChars_append]
  rfl

/-- **The path of an address is the path of its base, closed, and the name,** unless the base
has a loose bar. -/
theorem path_serviceRoot_iff (settled : Route.Settled base.kind parts)
    (route : base.route = .segments parts) :
    (serviceRoot base).route.toChars = closed base.route.toChars ++ serviceName
      ↔ ¬ base.HasLooseBar := by
  rw [hasLooseBar_iff settled route, path_serviceRoot settled route, toChars_route route, closed]
  by_cases ended : parts.getLast? = some []
  · have whole : segmentsToChars parts = segmentsToChars parts.dropLast ++ ['/'] := by
      conv_lhs => rw [eq_dropLast_append ended, segmentsToChars_append]
      rfl
    rw [if_pos ((getLast?_segmentsToChars settled.segments).2 ended), folder, if_pos ended]
    simp [whole, ended]
  · have unclosed : (segmentsToChars parts).getLast? ≠ some '/' := by
      rwa [ne_eq, getLast?_segmentsToChars settled.segments]
    rw [if_neg unclosed, List.append_assoc, List.singleton_append, List.append_left_inj]
    constructor
    · rintro same ⟨-, changed⟩
      exact changed (segmentsToChars_injective (segments_folder settled.segments)
        settled.segments same)
    · intro kept
      have same : folder base.kind parts = parts := by
        by_contra changed
        exact kept ⟨ended, changed⟩
      rw [same]

/-- A loose bar is a colon in the addresses. -/
theorem path_serviceRoot_of_bar {letter : Char} {rest : List (List Char)}
    (settled : Route.Settled base.kind ([letter, '|'] :: rest))
    (route : base.route = .segments ([letter, '|'] :: rest)) (bar : base.HasLooseBar) :
    (serviceRoot base).route.toChars
      = '/' :: letter :: ':' :: (segmentsToChars rest ++ '/' :: serviceName) := by
  obtain ⟨unclosed, -⟩ := (hasLooseBar_iff settled route).1 bar
  obtain ⟨file, -, other, more, alpha, same⟩ := bar
  rw [route] at same
  cases same
  have drive : isDriveLetter [letter, '|'] = true := by simp [isDriveLetter, alpha]
  rw [path_serviceRoot settled route, folder_of_unclosed unclosed, Route.withColon,
    Route.written_first (settled.segments _ List.mem_cons_self), if_pos ⟨file, drive⟩]
  simp [segmentsToChars]

/-! ## Bases with the same addresses -/

section Spelling

variable {base' : Url} {parts' : List (List Char)}

theorem kind_eq (scheme : base'.scheme = base.scheme) : base'.kind = base.kind := by
  rw [Url.kind, Url.kind, scheme]

/-- Two bases with one scheme and one authority have the same addresses exactly if they stand for
the same folder. -/
theorem serviceRoot_eq_iff (settled : Route.Settled base.kind parts)
    (settled' : Route.Settled base'.kind parts') (route : base.route = .segments parts)
    (route' : base'.route = .segments parts') (scheme : base'.scheme = base.scheme)
    (authority : base'.authority = base.authority) :
    serviceRoot base' = serviceRoot base ↔ folder base.kind parts' = folder base.kind parts := by
  rw [serviceRoot_eq settled route, serviceRoot_eq settled' route', kind_eq scheme, scheme, authority]
  simp

/-- A path that another path is with a slash at its end. -/
theorem eq_append_of_toChars {kind : Kind} (segments : Route.Segments kind parts)
    (segments' : Route.Segments kind parts')
    (same : segmentsToChars parts' = segmentsToChars parts ++ ['/']) : parts' = parts ++ [[]] := by
  have closed : Route.Segments kind (parts ++ [[]]) :=
    List.forall_mem_append.2 ⟨segments, Route.segments_singleton .empty⟩
  apply segmentsToChars_injective segments' closed
  rw [same, segmentsToChars_append]
  rfl

/-- **A slash at the end of a path makes no difference,** unless there is a loose bar. -/
theorem serviceRoot_closed_iff (settled : Route.Settled base.kind parts)
    (settled' : Route.Settled base'.kind (parts ++ [[]])) (route : base.route = .segments parts)
    (route' : base'.route = .segments (parts ++ [[]])) (scheme : base'.scheme = base.scheme)
    (authority : base'.authority = base.authority) (unclosed : parts.getLast? ≠ some []) :
    serviceRoot base' = serviceRoot base ↔ ¬ base.HasLooseBar := by
  have front : folder base.kind (parts ++ [[]]) = parts := by
    rw [folder, if_pos List.getLast?_concat, List.dropLast_concat]
  rw [serviceRoot_eq_iff settled settled' route route' scheme authority, front,
    hasLooseBar_iff settled route, eq_comm]
  simp [unclosed]

end Spelling

/-- A base that is no URL, or has a path without a root, and nothing else, has no addresses. -/
theorem service_error_iff {text : String} {params : List (String × String)} :
    (∃ cause, service text "wfs" params = .error cause) ↔
      (∃ cause, ofText text = .error cause) ∨
        ∃ base path, ofText text = .ok base ∧ base.route = .rootless path := by
  have built (u : Url) := @service_eq_ok_iff text params u
  cases read : ofText text with
  | error cause =>
      cases made : service text "wfs" params with
      | error cause => simp
      | ok u =>
          obtain ⟨_, _, never, -⟩ := (built u).1 made
          rw [read] at never
          cases never
  | ok base =>
      cases route : base.route with
      | segments parts =>
          have made := (built _).2 ⟨base, parts, read, route, rfl⟩
          simp [made, route]
      | rootless path =>
          cases made : service text "wfs" params with
          | error cause => simp [route]
          | ok u =>
              obtain ⟨_, _, same, never, -⟩ := (built u).1 made
              rw [read] at same
              cases same
              rw [route] at never
              cases never

/-- **The addresses below a base.**  There is one for any parameters unless the base is no URL or
its path has no root.  It is below the base, its path is the path of the base, closed, and the
name, and the base may be written with another query, another fragment, or a slash at the end of
its path; except for a loose bar, which an address has a colon for and which such a slash keeps. -/
theorem service_below (text : String) (params : List (String × String)) :
    ((∃ cause, service text "wfs" params = .error cause) ↔
      (∃ cause, ofText text = .error cause) ∨
        ∃ base path, ofText text = .ok base ∧ base.route = .rootless path) ∧
    ∀ base parts, ofText text = .ok base → base.route = .segments parts →
      ∃ u, service text "wfs" params = .ok u ∧ Below base params u ∧
        (u.route.toChars = closed base.route.toChars ++ serviceName ↔ ¬ base.HasLooseBar) ∧
        (∀ letter rest, base.HasLooseBar → parts = [letter, '|'] :: rest →
          u.route.toChars = '/' :: letter :: ':' :: (segmentsToChars rest ++ '/' :: serviceName)) ∧
        ∀ text' base' parts', ofText text' = .ok base' → base'.route = .segments parts' →
          base'.scheme = base.scheme → base'.authority = base.authority →
            (base'.route.toChars = base.route.toChars → service text' "wfs" params = .ok u) ∧
            (base.route.toChars.getLast? ≠ some '/' →
              base'.route.toChars = base.route.toChars ++ ['/'] →
                (service text' "wfs" params = .ok u ↔ ¬ base.HasLooseBar)) := by
  refine ⟨service_error_iff, ?_⟩
  intro base parts read route
  have settled := ofText_settled read parts route
  refine ⟨_, service_eq_ok_iff.2 ⟨base, parts, read, route, rfl⟩,
    below_serviceRoot settled route params, path_serviceRoot_iff settled route, ?bar, ?spelling⟩
  case bar =>
    rintro letter rest bar rfl
    exact path_serviceRoot_of_bar settled route bar
  case spelling =>
    intro text' base' parts' read' route' scheme authority
    have settled' := ofText_settled read' parts' route'
    have segments' : Route.Segments base.kind parts' := kind_eq scheme ▸ settled'.segments
    have other : service text' "wfs" params
          = .ok { serviceRoot base with query := parameterQuery params }
        ↔ serviceRoot base' = serviceRoot base := by
      rw [service_eq_ok_iff.2 ⟨base', parts', read', route', rfl⟩]
      simp [serviceRoot]
    rw [other, toChars_route route, toChars_route route',
      serviceRoot_eq_iff settled settled' route route' scheme authority]
    constructor
    · intro same
      rw [segmentsToChars_injective segments' settled.segments same]
    · intro unclosed same
      rw [ne_eq, getLast?_segmentsToChars settled.segments] at unclosed
      obtain rfl := eq_append_of_toChars settled.segments segments' same
      rw [← serviceRoot_eq_iff settled settled' route route' scheme authority]
      exact serviceRoot_closed_iff settled settled' route route' scheme authority unclosed

/-- A slash, a query and a fragment make no difference here; the parameters are kept in order, the
one without a name too. -/
theorem service_below_plain_folder :
    ∃ base base' u, ofText "http://h/gs?x=1#f" = .ok base ∧ ofText "http://h/gs/" = .ok base' ∧
      base.route = .segments ["gs".toList] ∧ base'.route.toChars = base.route.toChars ++ ['/'] ∧
      Below base [("a", "b c"), ("", "")] u ∧ u.route.toChars = "/gs/wfs".toList ∧
      service "http://h/gs?x=1#f" "wfs" [("a", "b c"), ("", "")] = .ok u ∧
      service "http://h/gs/" "wfs" [("a", "b c"), ("", "")] = .ok u := by
  obtain ⟨-, addresses⟩ := service_below "http://h/gs?x=1#f" [("a", "b c"), ("", "")]
  obtain ⟨u, built, below, path, -, spellings⟩ := addresses _ _ rfl rfl
  obtain ⟨-, slash⟩ := spellings "http://h/gs/" _ _ rfl rfl rfl rfl
  have noBar (base : Url) (scheme : base.scheme = "http".toList) : ¬ base.HasLooseBar := by
    rintro ⟨file, -⟩
    rw [Url.kind, scheme] at file
    revert file
    decide
  exact ⟨_, _, u, rfl, rfl, rfl, rfl, below, path.2 (noBar _ rfl), built,
    (slash (by decide) rfl).2 (noBar _ rfl)⟩

/-- Behind an empty segment a bar is loose.  The path of this base is `/C|/x`, but that of its
addresses begins with `/C:/x`; with a slash at its end the base has addresses with the bar. -/
theorem service_loses_bar :
    ∃ base u u', ofText "file:////C|/x" = .ok base ∧ base.route.toChars = "/C|/x".toList ∧
      ofText "file:////C|/x/" = .ok { base with route := .segments [['C', '|'], ['x'], []] } ∧
      service "file:////C|/x" "wfs" [] = .ok u ∧ u.toText = "file:///C:/x/wfs" ∧
      service "file:////C|/x/" "wfs" [] = .ok u' ∧ u'.toText = "file:///C|/x/wfs" :=
  ⟨_, _, _, rfl, rfl, rfl, rfl, rfl, rfl, rfl⟩

end GeoFeed.Url
