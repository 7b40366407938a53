/-
# GeoFeed.Log -- what is reported while a feed is made

A report has a level, a message and named fields whose values are texts.  A
computation that may report gives back its value together with its reports, in
order; `Logged` is that pair, with the reports of a later step after those of an
earlier one.
-/
namespace GeoFeed

set_option autoImplicit false

namespace Log

inductive Level where
  | debug
  | info
  | warn
  | error
deriving Repr, DecidableEq

def Level.name : Level → String
  | debug => "DEBUG"
  | info => "INFO"
  | warn => "WARN"
  | error => "ERROR"

structure Entry where
  level : Level
  message : String
  fields : List (String × String)
deriving Repr, DecidableEq

end Log

/-- A value with the reports made on the way to it. -/
structure Logged (α : Type) where
  value : α
  reports : List Log.Entry := []

namespace Logged

variable {α β : Type}

def pure (value : α) : Logged α := ⟨value, []⟩

def bind (x : Logged α) (f : α → Logged β) : Logged β :=
  ⟨(f x.value).value, x.reports ++ (f x.value).reports⟩

instance : Monad Logged where
  pure := Logged.pure
  bind := Logged.bind

/-- A value with one report. -/
def report (entry : Log.Entry) (value : α) : Logged α := ⟨value, [entry]⟩

@[simp]
theorem value_pure (a : α) : (Pure.pure a : Logged α).value = a := rfl

@[simp]
theorem reports_pure (a : α) : (Pure.pure a : Logged α).reports = [] := rfl

@[simp]
theorem value_bind (x : Logged α) (f : α → Logged β) :
    (x >>= f).value = (f x.value).value := rfl

@[simp]
theorem reports_bind (x : Logged α) (f : α → Logged β) :
    (x >>= f).reports = x.reports ++ (f x.value).reports := rfl

end Logged

end GeoFeed
