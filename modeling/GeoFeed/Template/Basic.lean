/-
# GeoFeed.Template.Basic -- the texts that templates make of a feature

A template makes a text of a feature, or says why it cannot.  A feed needs five:
title, link, description, time of publication, and the block that lists the
enclosures.
-/
import GeoFeed.Feature.Basic

namespace GeoFeed

set_option autoImplicit false

/-- Why a template made no text. -/
inductive TemplateError where
  /-- Reading the template failed. -/
  | unreadable (reason : String)
  | render (reason : String)
  | missingAttribute (name : String)
deriving Repr, DecidableEq

def TemplateError.message : TemplateError → String
  | unreadable reason => "Template I/O failed: " ++ reason
  | render reason => "Template rendering failed: " ++ reason
  | missingAttribute name => "Attribute '" ++ name ++ "' is not present on the feature"

abbrev Template := Feature → Except TemplateError String

structure Templates where
  title : Template
  link : Template
  description : Template
  published : Template
  enclosures : Template

end GeoFeed
