import PageEdit.Digest.Sha256
import PageEdit.Number.Total

/-!
# Giving identifiers

An identifier is made from a seed by a hash. As hashes can agree, a seed that leads to one that has been
given is salted with the next number; after more numbers than a machine can count, a name longer than
all that have been given is taken.

* `fresh_not_mem`: an identifier is given once, whatever the hash.
-/

namespace PageEdit.Outline

/-- How many characters of a digest an identifier has. -/
def digestLength : Nat := 12

/-- The hash of identifiers. -/
def shortHash (seed : String) : String :=
  String.ofList ((Digest.sha256Text seed).toList.take digestLength)

/-- How many salts there are. -/
def saltLimit : Nat := Nat.pow 2 64

/-- The first identifier with a salt from `salt` on that has not been given, among `n` salts. -/
def salted (hash : String → String) (kind seed : String) (given : List String) :
    Nat → Nat → Option String
  | 0, _ => none
  | n + 1, salt =>
    let id := kind ++ "_" ++ hash (seed ++ "#" ++ toString salt)
    if id ∈ given then salted hash kind seed given n (salt + 1) else some id

/-- A name longer than all that have been given. -/
def longest (kind : String) (given : List String) : String :=
  kind ++ "_" ++ String.ofList (List.replicate (Number.total (given.map String.length) + 1) 'x')

/-- The identifier that a seed leads to. -/
def fresh (hash : String → String) (kind seed : String) (given : List String) : String :=
  let id := kind ++ "_" ++ hash seed
  if id ∈ given then (salted hash kind seed given saltLimit 1).getD (longest kind given) else id

theorem salted_not_mem {hash : String → String} {kind seed id : String} {given : List String}
    {n salt : Nat} (h : salted hash kind seed given n salt = some id) : id ∉ given := by
  induction n generalizing salt with
  | zero => simp [salted] at h
  | succ n ih =>
    simp only [salted] at h
    split at h
    · exact ih h
    · rename_i hn
      simp only [Option.some.injEq] at h
      exact h ▸ hn

theorem longest_not_mem (kind : String) (given : List String) : longest kind given ∉ given := by
  intro h
  have := Number.le_total (List.mem_map_of_mem (f := String.length) h)
  simp [longest] at this
  omega

theorem fresh_not_mem (hash : String → String) (kind seed : String) (given : List String) :
    fresh hash kind seed given ∉ given := by
  unfold fresh
  simp only
  split
  · cases h : salted hash kind seed given saltLimit 1 with
    | none => exact longest_not_mem kind given
    | some id => exact salted_not_mem h
  · assumption

end PageEdit.Outline
