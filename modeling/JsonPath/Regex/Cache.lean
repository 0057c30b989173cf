import JsonPath.Regex.Interoperable

/-!
# Patterns kept ready

Making a pattern ready is slow, so those used last are kept, invalid ones too. When there are too
many of them, the one unused for the longest time is forgotten.

* `RegexStore` is what has to be known of a place to keep patterns in, and `RegexStore.compile` makes
  a pattern ready or takes what is kept for it.
* `RegexCache` is the place that is used, with room for `RegexCache.capacity` patterns.
-/

namespace JsonPath

/-- What a compiled pattern is kept under. -/
structure RegexKey where
  mode : MatchMode
  pattern : String
deriving DecidableEq, Repr

/-- The pattern of a key made ready. -/
def RegexKey.compile (key : RegexKey) : Option CompiledRegex :=
  compileRegex key.mode key.pattern

/-- A place to keep patterns in. It may forget them, and asking for one may change how long it is
kept. -/
structure RegexStore (σ : Type) where
  empty : σ
  /-- What is kept for a key, and what is kept afterwards. -/
  get : σ → RegexKey → Option (Option CompiledRegex) × σ
  /-- Keeps a result for a key. -/
  put : σ → RegexKey → Option CompiledRegex → σ

/-- The pattern of a key made ready, and what is kept afterwards. Only a pattern for which nothing is
kept is made ready. -/
def RegexStore.compile {σ : Type} (store : RegexStore σ) (kept : σ) (key : RegexKey) :
    Option CompiledRegex × σ :=
  match store.get kept key with
  | (some result, kept) => (result, kept)
  | (none, kept) =>
    let result := key.compile
    (result, store.put kept key result)

/-- What is kept, the last used first. -/
structure RegexCache where
  entries : List (RegexKey × Option CompiledRegex) := []

namespace RegexCache

/-- How many patterns are kept. -/
def capacity : Nat := 256

/-- What is kept for a key. -/
def find? (cache : RegexCache) (key : RegexKey) : Option (Option CompiledRegex) :=
  (cache.entries.find? (·.1 == key)).map (·.2)

/-- Keeps a result as the last one used. -/
def keep (cache : RegexCache) (key : RegexKey) (result : Option CompiledRegex) : RegexCache :=
  ⟨((key, result) :: cache.entries.filter (·.1 != key)).take capacity⟩

/-- What is kept for a key, which is the last one used afterwards. -/
def get (cache : RegexCache) (key : RegexKey) : Option (Option CompiledRegex) × RegexCache :=
  match cache.find? key with
  | some result => (some result, cache.keep key result)
  | none => (none, cache)

/-- The patterns used last as a place to keep patterns in. -/
def store : RegexStore RegexCache := ⟨{}, get, keep⟩

/-- The pattern of a key made ready, and what is kept afterwards. -/
def compile (cache : RegexCache) (key : RegexKey) : Option CompiledRegex × RegexCache :=
  store.compile cache key

end RegexCache

end JsonPath
