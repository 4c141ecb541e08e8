/-! # Maps keyed by identity
Keys are references, and two keys are the same when they point to the same address, whatever they
point to. An entry holds on to its key, so the address of a key is not given away while it is in the
map. -/

namespace TypeWitness

/-- A reference to a piece of memory. -/
structure Reference where
  /-- Where the memory lies. -/
  address : Nat
  /-- Which allocation the memory belongs to. -/
  allocation : Nat
  deriving DecidableEq, Repr

/-- Whether two references point to the same place. -/
def Reference.isSame (a b : Reference) : Bool := a.address == b.address

/-- A map from references to values; no address occurs twice. -/
structure IdentityMap (α : Type) where
  entries : List (Reference × α)

namespace IdentityMap

variable {α : Type}

/-- The map without entries. -/
def empty : IdentityMap α := ⟨[]⟩

/-- The value under a key. -/
def get? (map : IdentityMap α) (key : Reference) : Option α :=
  (map.entries.find? (·.1.isSame key)).map Prod.snd

/-- The map without a key. -/
def erase (map : IdentityMap α) (key : Reference) : IdentityMap α :=
  ⟨map.entries.filter fun entry => !entry.1.isSame key⟩

/-- The map with a value under a key. -/
def insert (map : IdentityMap α) (key : Reference) (value : α) : IdentityMap α :=
  ⟨(key, value) :: (map.erase key).entries⟩

/-- Whether a key is in the map. -/
def contains (map : IdentityMap α) (key : Reference) : Bool := (map.get? key).isSome

/-- The number of keys. -/
def size (map : IdentityMap α) : Nat := map.entries.length

/-- Whether there are no keys. -/
def isEmpty (map : IdentityMap α) : Bool := map.entries.isEmpty

/-- The keys that the map holds on to. -/
def keys (map : IdentityMap α) : List Reference := map.entries.map Prod.fst

@[simp] theorem get?_empty (key : Reference) : (empty : IdentityMap α).get? key = none := rfl

@[simp] theorem get?_insert_self (map : IdentityMap α) (key : Reference) (value : α) :
    (map.insert key value).get? key = some value := by
  simp [get?, insert, Reference.isSame]

@[simp] theorem get?_erase_self (map : IdentityMap α) (key : Reference) :
    (map.erase key).get? key = none := by
  simp [get?, erase]

end IdentityMap

end TypeWitness
