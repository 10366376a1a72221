import PowerLease.Catalog.Basic

/-!
# The store of a catalog

A catalog is kept in a file and reached through a store, which is opened at the place of that file and
can be closed. A closed store answers every question and every transaction with a fault.
-/

namespace PowerLease

/-- The store of a catalog. -/
inductive Store where
  | opened (catalog : Catalog)
  | closed
deriving DecidableEq, Repr

/-- What stands where a store is to be opened. -/
inductive Place where
  /-- Nothing yet. Directories above it are made where they are missing. -/
  | free
  /-- Nothing, and a file stands where a directory above it would have to be made. -/
  | blocked
  | directory
  /-- A file that holds no catalog. -/
  | foreignFile
  | kept (catalog : Catalog)
deriving DecidableEq, Repr

namespace Store

/-- Opens the store at a place. -/
def openAt : Place → Except StoreFault Store
  | .free => .ok (opened .empty)
  | .blocked => .error .io
  | .directory | .foreignFile => .error .connection
  | .kept catalog => .ok (opened catalog)

/-- The catalog, if it can be reached. -/
def catalog? : Store → Option Catalog
  | opened c => some c
  | closed => none

/-- Asks the catalog. -/
def ask {α : Type} (f : Catalog → α) : Store → Except StoreFault α
  | opened c => .ok (f c)
  | closed => .error .query

/-- Asks the catalog a question that it may refuse. -/
def askFor {α : Type} (f : Catalog → Except StoreFault α) : Store → Except StoreFault α
  | opened c => f c
  | closed => .error .query

/-- Runs a transaction. -/
def run {α : Type} (f : Catalog → α × Catalog) : Store → Except StoreFault α × Store
  | opened c => let r := f c; (.ok r.1, opened r.2)
  | closed => (.error .query, closed)

/-- Runs a transaction that may refuse. -/
def attempt {α : Type} (f : Catalog → Except StoreFault α × Catalog) :
    Store → Except StoreFault α × Store
  | opened c => let r := f c; (r.1, opened r.2)
  | closed => (.error .query, closed)

end Store
end PowerLease
