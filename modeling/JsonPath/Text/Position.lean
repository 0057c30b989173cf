/-!
# Places in a text

A `Position` is a byte offset together with the line and column a reader would count, and a `Span`
is a range of byte offsets.

* `Position.after` and `Position.afterAll` say where reading stands once characters are consumed.
* `Span.join` is the least span that covers two.
* `Span.text` cuts a span out of a text; a span that is reversed, leaves the text or splits a
  character cuts out nothing.
-/

namespace JsonPath

/-- A place in a text: its byte offset, its line counted from one, and its column counted from zero
in characters. -/
structure Position where
  offset : Nat
  line : Nat
  column : Nat
deriving DecidableEq, Repr

namespace Position

/-- The place before the first character. -/
def start : Position := ⟨0, 1, 0⟩

/-- The place just after `c`; only a line feed begins a new line. -/
def after (p : Position) (c : Char) : Position :=
  if c = '\n' then ⟨p.offset + c.utf8Size, p.line + 1, 0⟩
  else ⟨p.offset + c.utf8Size, p.line, p.column + 1⟩

/-- The place after all of `cs`. -/
def afterAll (p : Position) (cs : List Char) : Position :=
  cs.foldl after p

@[simp] theorem afterAll_nil (p : Position) : p.afterAll [] = p := rfl

@[simp] theorem afterAll_cons (p : Position) (c : Char) (cs : List Char) :
    p.afterAll (c :: cs) = (p.after c).afterAll cs := rfl

theorem afterAll_append (p : Position) (cs ds : List Char) :
    p.afterAll (cs ++ ds) = (p.afterAll cs).afterAll ds := by
  simp [afterAll, List.foldl_append]

end Position

/-- The number of bytes that `cs` takes in UTF-8. -/
def byteLength : List Char → Nat
  | [] => 0
  | c :: cs => c.utf8Size + byteLength cs

/-- A half-open range of byte offsets. -/
structure Span where
  start : Nat
  stop : Nat
deriving DecidableEq, Repr

namespace Span

/-- The least span that covers both. -/
def join (a b : Span) : Span :=
  ⟨min a.start b.start, max a.stop b.stop⟩

/-- What is left of `cs` after its first `n` bytes, unless they end inside a character or past the
end. -/
def dropBytes : Nat → List Char → Option (List Char)
  | 0, cs => some cs
  | _ + 1, [] => none
  | n + 1, c :: cs => if c.utf8Size ≤ n + 1 then dropBytes (n + 1 - c.utf8Size) cs else none

/-- The first `n` bytes of `cs`, unless they end inside a character or past the end. -/
def takeBytes : Nat → List Char → Option (List Char)
  | 0, _ => some []
  | _ + 1, [] => none
  | n + 1, c :: cs =>
    if c.utf8Size ≤ n + 1 then (takeBytes (n + 1 - c.utf8Size) cs).map (c :: ·) else none

/-- The characters that the span covers, or none of them where it covers no whole characters of
`source`. -/
def slice (s : Span) (source : List Char) : List Char :=
  if s.start ≤ s.stop then
    ((dropBytes s.start source).bind (takeBytes (s.stop - s.start))).getD []
  else []

/-- The text that the span covers, empty where it covers no whole characters of `source`. -/
def text (s : Span) (source : String) : String :=
  String.ofList (s.slice source.toList)

end Span

end JsonPath
