import Pager.Page
import Pager.Fault

namespace Pager

/-- What the caller asks of paging. A cursor supplied, even an empty one, means one page. -/
structure Control where
  noAutoIteration : Bool
  initialCursor : Option String
  deriving DecidableEq, Repr

namespace Control

def cursorSupplied (c : Control) : Bool :=
  c.initialCursor.isSome

def callerPages (c : Control) : Bool :=
  c.noAutoIteration || c.cursorSupplied

/-- Automatic paging from the first page. -/
def automatic : Control := ⟨false, none⟩

/-- One page, from a cursor told by an invocation before, or the first page. -/
def onePage : Option String → Control
  | none => ⟨true, none⟩
  | some cursor => ⟨false, some cursor⟩

theorem callerPages_onePage (cursor : Option String) : (onePage cursor).callerPages = true := by
  cases cursor <;> rfl

theorem initialCursor_onePage (cursor : Option String) : (onePage cursor).initialCursor = cursor := by
  cases cursor <;> rfl

end Control

/-- Why an invocation ended. -/
inductive Termination
  | exhausted
  | userLimited
  | pageLimit
  | faulted
  deriving DecidableEq, Repr

def Termination.name : Termination → String
  | .exhausted => "Exhausted"
  | .userLimited => "UserLimited"
  | .pageLimit => "PageLimit"
  | .faulted => "Faulted"

structure Progress where
  /-- The cursor of the next request. -/
  cursor : Option String
  pages : Nat
  emitted : Nat
  deriving DecidableEq, Repr

namespace Progress

def start (initialCursor : Option String) : Progress :=
  ⟨noneIfEmpty initialCursor, 0, 0⟩

def advance (p : Progress) (next : Option String) : Progress :=
  { p with cursor := noneIfEmpty next }

def recordPage (p : Progress) : Progress :=
  { p with pages := p.pages + 1 }

def recordEmission (p : Progress) : Progress :=
  { p with emitted := p.emitted + 1 }

def hasMore (p : Progress) : Bool :=
  hasCursor p.cursor

end Progress

structure Outcome where
  termination : Termination
  pages : Nat
  emitted : Nat
  resumeCursor : Option String
  fault : Option Fault
  deriving DecidableEq, Repr

namespace Outcome

def ofProgress (termination : Termination) (p : Progress) (fault : Option Fault) : Outcome :=
  ⟨termination, p.pages, p.emitted, p.cursor, fault⟩

def isFaulted (o : Outcome) : Bool :=
  o.fault.isSome

def hasMore (o : Outcome) : Bool :=
  hasCursor o.resumeCursor

def toResult (o : Outcome) : Except Fault Outcome :=
  match o.fault with
  | some fault => .error fault
  | none => .ok o

end Outcome

end Pager
