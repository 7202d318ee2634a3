import Pager.Json.Path

namespace Pager

/-- A page that can be looked into. -/
class Viewable (Page : Type) where
  toJson : Page → Json
  select : Page → String → Option Json := fun page path => (toJson page).lookup path
  /-- The page's records, for an operation that finds them at the given path. -/
  items : Page → String → Option Json := select

instance : Viewable Json where
  toJson := id

/-- When a projection is asked. -/
inductive Mode
  | eachPage
  | deferred
  deriving DecidableEq, Repr

/-- What is emitted for a page: something of every page as it arrives, or something once after the
last page, without one. -/
structure Projection (Page Context Value : Type) where
  mode : Mode
  apply : Option Page → Context → Option Value

namespace Projection

variable {Page Context Value : Type}

def eachPage (f : Page → Context → Option Value) : Projection Page Context Value where
  mode := .eachPage
  apply page context := page.bind fun p => f p context

def deferred (f : Context → Option Value) : Projection Page Context Value where
  mode := .deferred
  apply _ context := f context

def isDeferred (p : Projection Page Context Value) : Bool :=
  p.mode == .deferred

def describe (p : Projection Page Context Value) : String :=
  match p.mode with
  | .eachPage => "Projection \x7b mode: EachPage, .. \x7d"
  | .deferred => "Projection \x7b mode: Deferred, .. \x7d"

end Projection

end Pager
