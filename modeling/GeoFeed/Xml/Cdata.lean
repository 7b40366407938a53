/-
# GeoFeed.Xml.Cdata -- text in CDATA sections

A CDATA section holds its text verbatim and ends at the first `]]>`, so a text
that contains this mark does not fit into one section.  `cdataSections` parts
the text between the brackets and the angle bracket of every such mark; the
sections, read one after the other, are the text again
(`flatten_cdataSections`).
-/
namespace GeoFeed.Xml

set_option autoImplicit false

/-- The sections of a text, of which `seen` is the first section so far, last
character first. -/
def cdataSectionsFrom (seen : List Char) : List Char → List (List Char)
  | ']' :: ']' :: '>' :: rest => (']' :: ']' :: seen).reverse :: cdataSectionsFrom ['>'] rest
  | c :: rest => cdataSectionsFrom (c :: seen) rest
  | [] => [seen.reverse]

/-- The contents of the sections that hold a text. -/
def cdataSections (text : List Char) : List (List Char) :=
  cdataSectionsFrom [] text

theorem flatten_cdataSectionsFrom (seen text : List Char) :
    (cdataSectionsFrom seen text).flatten = seen.reverse ++ text := by
  fun_induction cdataSectionsFrom seen text with
  | case1 seen rest ih => simp [ih]
  | case2 seen c rest _ ih => simp [ih]
  | case3 seen => simp

theorem flatten_cdataSections (text : List Char) : (cdataSections text).flatten = text := by
  simp [cdataSections, flatten_cdataSectionsFrom]

end GeoFeed.Xml
