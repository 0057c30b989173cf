/-!
# Results with notes

A computation of type `Noted ν α` gives a value and, beside it, the notes that were taken on the
way, in order. What it gives does not depend on the notes.

* `Noted.traverse`, `Noted.collect` and `Noted.filter` go through a list from its head on.
* `Noted.any` and `Noted.all` stop as soon as the answer is known.
-/

namespace JsonPath

/-- A value and the notes taken on the way to it. -/
structure Noted (ν α : Type) where
  value : α
  notes : List ν

instance : Monad (Noted ν) where
  pure x := ⟨x, []⟩
  bind m f :=
    let r := f m.value
    ⟨r.value, m.notes ++ r.notes⟩

namespace Noted

@[simp] theorem value_pure (x : α) : (pure x : Noted ν α).value = x := rfl

@[simp] theorem notes_pure (x : α) : (pure x : Noted ν α).notes = [] := rfl

@[simp] theorem value_bind (m : Noted ν α) (f : α → Noted ν β) :
    (m >>= f).value = (f m.value).value := rfl

@[simp] theorem notes_bind (m : Noted ν α) (f : α → Noted ν β) :
    (m >>= f).notes = m.notes ++ (f m.value).notes := rfl

@[simp] theorem value_map (f : α → β) (m : Noted ν α) : (f <$> m).value = f m.value := rfl

@[simp] theorem notes_map (f : α → β) (m : Noted ν α) : (f <$> m).notes = m.notes := by
  simp [Functor.map]

/-- Takes a note. -/
def note (n : ν) : Noted ν Unit := ⟨(), [n]⟩

/-- Takes a note under a condition. -/
def noteIf (condition : Bool) (n : ν) : Noted ν Unit := ⟨(), if condition then [n] else []⟩

/-- The same with each note changed. -/
def mapNotes (f : ν → μ) (m : Noted ν α) : Noted μ α := ⟨m.value, m.notes.map f⟩

/-- Applies `f` to each item. -/
def traverse (f : α → Noted ν β) : List α → Noted ν (List β)
  | [] => pure []
  | x :: xs => do
    let y ← f x
    let ys ← traverse f xs
    return y :: ys

/-- Applies `f` to each item and joins the lists. -/
def collect (f : α → Noted ν (List β)) : List α → Noted ν (List β)
  | [] => pure []
  | x :: xs => do
    let ys ← f x
    let zs ← collect f xs
    return ys ++ zs

/-- The items for which `p` holds. -/
def filter (p : α → Noted ν Bool) : List α → Noted ν (List α)
  | [] => pure []
  | x :: xs => do
    let keep ← p x
    let kept ← filter p xs
    return if keep then x :: kept else kept

/-- Whether `p` holds for some item. -/
def any (p : α → Noted ν Bool) : List α → Noted ν Bool
  | [] => pure false
  | x :: xs => do
    if ← p x then return true else any p xs

/-- Whether `p` holds for every item. -/
def all (p : α → Noted ν Bool) : List α → Noted ν Bool
  | [] => pure true
  | x :: xs => do
    if ← p x then all p xs else return false

end Noted

end JsonPath
