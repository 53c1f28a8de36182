import SessionSquash.Record.Kind

namespace SessionSquash

structure Registry where
  kinds : List RecordKind
deriving Inhabited

namespace Registry

/-- Nothing is decoded. -/
def empty : Registry := ⟨[]⟩

/-- Every kind is decoded. -/
def everything : Registry := ⟨RecordKind.all⟩

def requires (r : Registry) (k : RecordKind) : Bool := r.kinds.contains k

/-- Adds a kind, keeping catalog order. -/
def require (r : Registry) (k : RecordKind) : Registry :=
  ⟨RecordKind.all.filter fun x => x == k || r.kinds.contains x⟩

def ofKinds (ks : List RecordKind) : Registry := ks.foldl require empty

def size (r : Registry) : Nat := r.kinds.length

def isEmpty (r : Registry) : Bool := r.kinds.isEmpty

end Registry

end SessionSquash
