/-!
# Pages

A server hands out a long list in pages. A page that is not the last carries a cursor, and the
request for the next page sends that cursor back.
-/

namespace OpenPulls

/-- A page of a list. -/
structure Page (α : Type) where
  /-- The items of the page, in the order of the server. -/
  items : List α
  /-- The cursor of the next page; the last page has none. -/
  next : Option UInt64
deriving Repr, DecidableEq

/-- The page is followed by another one. -/
def Page.hasNext {α : Type} (p : Page α) : Bool := p.next.isSome

/-- The number of items that is asked for with each page. -/
def pageLimit : Nat := 100

end OpenPulls
