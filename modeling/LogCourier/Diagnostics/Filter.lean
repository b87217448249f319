import LogCourier.Diagnostics.Directive

/-! # Which diagnostics are shown

A filter is a list of directives, divided by commas. For each diagnostic the most specific of the
directives that apply to it decides; where none applies, nothing is shown.
-/

namespace LogCourier

structure LogFilter where
  directives : List Directive
deriving DecidableEq, Repr

namespace LogFilter

def read (text : String) : Except FilterError LogFilter :=
  (((Text.split ',' text).filter (· ≠ "")).mapM Directive.read).map LogFilter.mk

/-- The directive that decides; of two that are equally specific the later one. -/
def directive? (f : LogFilter) (source : String) (fields : List String) : Option Directive :=
  (f.directives.filter (·.appliesTo source fields)).foldl
    (fun best d => if best.all d.isAsSpecificAs then some d else best)
    none

def shows (f : LogFilter) (source : String) (fields : List String) (level : LogLevel) : Bool :=
  (f.directive? source fields).any fun d => level.rank ≤ d.shown

end LogFilter

end LogCourier
