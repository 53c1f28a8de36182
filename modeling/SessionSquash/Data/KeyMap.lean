namespace SessionSquash

/-- A finite map as a list of entries sorted by key. -/
structure KeyMap (κ : Type) (ν : Type) where
  entries : List (κ × ν) := []
deriving Inhabited

namespace KeyMap

variable {κ ν : Type} [Ord κ]

def empty : KeyMap κ ν := ⟨[]⟩

def find? (m : KeyMap κ ν) (k : κ) : Option ν :=
  (m.entries.find? fun e => compare e.1 k == .eq).map (·.2)

def contains (m : KeyMap κ ν) (k : κ) : Bool := (m.find? k).isSome

/-- Puts a value under a key, replacing what was there. -/
def insert (m : KeyMap κ ν) (k : κ) (v : ν) : KeyMap κ ν :=
  let rec go : List (κ × ν) → List (κ × ν)
    | [] => [(k, v)]
    | (k', v') :: rest =>
      match compare k k' with
      | .lt => (k, v) :: (k', v') :: rest
      | .eq => (k, v) :: rest
      | .gt => (k', v') :: go rest
  ⟨go m.entries⟩

def erase (m : KeyMap κ ν) (k : κ) : KeyMap κ ν :=
  ⟨m.entries.filter fun e => compare e.1 k != .eq⟩

/-- Changes the value under a key, starting from `init` when the key is absent. -/
def alter (m : KeyMap κ ν) (k : κ) (init : ν) (f : ν → ν) : KeyMap κ ν :=
  m.insert k (f ((m.find? k).getD init))

def size (m : KeyMap κ ν) : Nat := m.entries.length

def isEmpty (m : KeyMap κ ν) : Bool := m.entries.isEmpty

def keys (m : KeyMap κ ν) : List κ := m.entries.map (·.1)

def values (m : KeyMap κ ν) : List ν := m.entries.map (·.2)

def filter (m : KeyMap κ ν) (p : κ → Bool) : KeyMap κ ν := ⟨m.entries.filter fun e => p e.1⟩

end KeyMap

/-- A finite set as a sorted list without repeats. -/
structure KeySet (κ : Type) where
  elements : List κ := []
deriving Inhabited

namespace KeySet

variable {κ : Type} [Ord κ]

def empty : KeySet κ := ⟨[]⟩

def contains (s : KeySet κ) (k : κ) : Bool := s.elements.any fun e => compare e k == .eq

def insert (s : KeySet κ) (k : κ) : KeySet κ :=
  let rec go : List κ → List κ
    | [] => [k]
    | k' :: rest =>
      match compare k k' with
      | .lt => k :: k' :: rest
      | .eq => k' :: rest
      | .gt => k' :: go rest
  ⟨go s.elements⟩

def erase (s : KeySet κ) (k : κ) : KeySet κ := ⟨s.elements.filter fun e => compare e k != .eq⟩

def isEmpty (s : KeySet κ) : Bool := s.elements.isEmpty

def ofList (ks : List κ) : KeySet κ := ks.foldl insert empty

end KeySet

end SessionSquash
